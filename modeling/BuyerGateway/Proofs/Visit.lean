import BuyerGateway.Gateway.Handler
import BuyerGateway.Proofs.Submission
/-!
Visits: requests as they meet a running gateway, each with what is minted for it and how the network
answers meanwhile. For each kind of route there is one statement of what a visit does there.
-/
namespace BuyerGateway

/-- The name under which clients submit for an exchange. -/
def Exchange.clientName : Exchange → String
  | .search => "search"
  | .select => "get_quote"
  | .init => "initialize_order"
  | .confirm => "confirm_order"
  | .track => "track"
  | .support => "get_support"

namespace Gateway

theorem ClientRequest.exchange_of_read? {M : Type} {message : Shape M}
    {make : ClientContext → M → ClientRequest} {e : Exchange}
    (he : ∀ c m, (make c m).payload.exchange = e) {body : List UInt8} {client : ClientRequest}
    (h : read? message make body = some client) : client.payload.exchange = e := by
  rw [read?] at h
  obtain ⟨r, -, hr⟩ := Option.map_eq_some_iff.1 h
  rw [← hr]
  exact he r.1 r.2

/-! ### Paths -/

namespace Route

theorem ofPath?_eq_some_iff {path : String} {r : Route} :
    ofPath? path = some r ↔ path = r.path := by
  constructor
  · intro h
    rw [ofPath?] at h
    have hfound := List.find?_some h
    exact (beq_iff_eq.1 hfound).symm
  · rintro rfl
    exact ofPath?_path r

theorem path_submit (e : Exchange) : (submit e).path = "/client/v1/" ++ e.clientName := by
  cases e <;> decide

/-- Polls have the name of the submission behind `on_`, but for `get_support`. -/
theorem path_poll (e : Exchange) :
    (poll e).path = "/client/v1/on_" ++ if e = .support then "support" else e.clientName := by
  cases e <;> decide

theorem path_callback (e : Exchange) :
    (callback e).path = "/protocol/v1/" ++ (Action.callback e).name := by
  cases e <;> rfl

end Route

structure Visit where
  request : Web.Request
  minted : Minted
  world : World

namespace Visit

/-- The route that a visit takes, by its path and its method. -/
def route? (v : Visit) : Option Route :=
  (Route.ofPath? v.request.path).filter (·.allows v.request.method)

/-- The submission in a body, as the route of an exchange reads it. -/
def client? (v : Visit) (e : Exchange) : Option ClientRequest :=
  (Setting.jsonBody? v.request).bind (ClientRequest.ofBody? e)

/-- The callback in a body, as the route of an exchange reads it. -/
def callback? (v : Visit) (e : Exchange) : Option (Callback e) :=
  (Setting.jsonBody? v.request).bind (Callback.shape e).ofBytes?

def setting (defaults : ContextDefaults) (v : Visit) : Setting := ⟨defaults, v.minted⟩

/-- A visit to a gateway that remembers `s`. -/
def outcome (defaults : ContextDefaults) (v : Visit) (s : Stores) : Outcome Web.Response :=
  ((v.setting defaults).handle v.request).run v.world s

variable {v : Visit} {e : Exchange} (defaults : ContextDefaults) (s : Stores)

theorem route?_eq_some_iff {r : Route} :
    v.route? = some r ↔
      Route.ofPath? v.request.path = some r ∧ r.allows v.request.method = true := by
  rw [route?, Option.filter_eq_some_iff]

/-- Only a quote is asked for with `PUT`. -/
theorem route?_eq_submit_iff :
    v.route? = some (.submit e) ↔ v.request.path = "/client/v1/" ++ e.clientName ∧
      v.request.method = if e = .select then "PUT" else "POST" := by
  rw [route?_eq_some_iff, Route.ofPath?_eq_some_iff, Route.path_submit]
  cases e <;> exact and_congr_right fun _ => beq_iff_eq

theorem route?_eq_poll_iff :
    v.route? = some (.poll e) ↔
      (v.request.path = "/client/v1/on_" ++ if e = .support then "support" else e.clientName) ∧
        (v.request.method = "GET" ∨ v.request.method = "HEAD") := by
  rw [route?_eq_some_iff, Route.ofPath?_eq_some_iff, Route.path_poll, Route.allows,
    Bool.or_eq_true, beq_iff_eq, beq_iff_eq]

theorem route?_eq_callback_iff :
    v.route? = some (.callback e) ↔
      v.request.path = "/protocol/v1/" ++ (Action.callback e).name ∧
        v.request.method = "POST" := by
  rw [route?_eq_some_iff, Route.ofPath?_eq_some_iff, Route.path_callback, Route.allows,
    beq_iff_eq]

/-- The header says that the body is JSON, and the body is not too long and is an envelope as the
route of the exchange reads it. -/
def Carries (v : Visit) {e : Exchange} (c : Callback e) : Prop :=
  v.request.contentType.any MediaType.isJson = true ∧
    v.request.body.length ≤ Setting.bodyLimit ∧
    (Callback.shape e).ofBytes? v.request.body = some c

theorem callback?_eq_some_iff {c : Callback e} : v.callback? e = some c ↔ v.Carries c := by
  rw [callback?, Setting.jsonBody?, Carries]
  split
  · rename_i hjson
    rw [Option.bind_some, and_iff_right hjson.1, and_iff_right hjson.2]
  · rename_i hjson
    exact iff_of_false (Option.some_ne_none c).symm fun h => hjson ⟨h.1, h.2.1⟩

theorem callback?_eq_none_iff : v.callback? e = none ↔ ∀ c : Callback e, ¬ v.Carries c := by
  rw [Option.eq_none_iff_forall_ne_some]
  exact forall_congr' fun c => not_congr callback?_eq_some_iff

/-- The answer to `HEAD` has no body. -/
def withoutBody (v : Visit) (response : Web.Response) : Web.Response :=
  if v.request.method = "HEAD" then { response with body := none } else response

/-- The answer to `HEAD` differs in its body alone. -/
theorem status_withoutBody (response : Web.Response) :
    (v.withoutBody response).status = response.status := by
  rw [withoutBody]
  split <;> rfl

theorem outcome_of_route {r : Route} (h : v.route? = some r) :
    v.outcome defaults s =
      let o := ((v.setting defaults).handleRoute r v.request).run v.world s
      { o with result := v.withoutBody o.result } := by
  obtain ⟨hpath, hmethod⟩ := route?_eq_some_iff.1 h
  rw [outcome, Setting.handle, hpath]
  simp only [hmethod, ↓reduceIte]
  rw [Plan.run_bind]
  simp only [withoutBody]
  split <;> simp

/-- A path or a method that no route takes has no effect. -/
theorem outcome_of_no_route (h : v.route? = none) :
    ∃ status, v.outcome defaults s = ⟨⟨status, none⟩, [], s⟩ := by
  rw [route?] at h
  rw [outcome, Setting.handle]
  cases hpath : Route.ofPath? v.request.path with
  | none => exact ⟨404, rfl⟩
  | some r =>
    rw [hpath, Option.filter_eq_none_iff] at h
    have hmethod : r.allows v.request.method = false := by simpa using h r rfl
    simp only [hmethod]
    exact ⟨405, rfl⟩

/-! ### Submissions -/

theorem withoutBody_of_submit (h : v.route? = some (.submit e)) (response : Web.Response) :
    v.withoutBody response = response := by
  have hmethod := (route?_eq_some_iff.1 h).2
  refine if_neg fun hhead => ?_
  rw [hhead] at hmethod
  cases e <;> simp [Route.allows] at hmethod

/-- A submission that cannot be read is refused without any effect. -/
theorem outcome_of_unread_submit (h : v.route? = some (.submit e)) (hb : v.client? e = none) :
    v.outcome defaults s = ⟨(v.setting defaults).rejection (.request e), [], s⟩ := by
  rw [outcome_of_route defaults s h, Setting.handleRoute, Setting.handleSubmit]
  rw [client?] at hb
  simp only [hb, Plan.run]
  rw [withoutBody_of_submit h]

/-- The context that a submission is answered with and sent under. -/
def context (defaults : ContextDefaults) (v : Visit) (e : Exchange) (client : ClientRequest) :
    Context :=
  (v.setting defaults).submitContext e client

theorem messageId_context {client : ClientRequest} :
    (v.context defaults e client).messageId = v.minted.messageId := by
  cases e <;> rfl

/-- The body on the route of an exchange reads as a payload of that exchange. -/
theorem exchange_of_client {client : ClientRequest} (h : v.client? e = some client) :
    client.payload.exchange = e := by
  rw [client?] at h
  obtain ⟨body, -, hbody⟩ := Option.bind_eq_some_iff.1 h
  cases e <;>
    · rw [ClientRequest.ofBody?] at hbody
      refine ClientRequest.exchange_of_read? ?_ hbody
      intro c m
      rfl

/-- What a client is answered, by the result of its submission. -/
def submitAnswer (context : Context) :
    Except SubmitFailure (Option LedgerEntry) → Web.Response
  | .ok _ => Setting.acceptance context
  | .error failure => Setting.refusal context failure.refusal

/-- A submission that is read takes its course. -/
theorem outcome_of_submit {client : ClientRequest} (h : v.route? = some (.submit e))
    (hb : v.client? e = some client) :
    v.outcome defaults s =
      let context := v.context defaults e client
      let o := (submit v.minted.now context client.helper client.payload).run.run v.world s
      { o with result := submitAnswer context o.result } := by
  rw [outcome_of_route defaults s h, Setting.handleRoute, Setting.handleSubmit]
  rw [client?] at hb
  simp only [hb, withoutBody_of_submit h]
  refine Plan.run_bind_of_pure v.world _ (fun r => ?_) s
  cases r <;> rfl

/-- The outcome of a submission that is read is read off its course. -/
theorem outcome_of_course {client : ClientRequest} {effects : List Effect}
    {result : Except SubmitFailure (Option LedgerEntry)} {ledger : Ledger}
    (h : v.route? = some (.submit e)) (hb : v.client? e = some client)
    (course : Course v.world s.ledger v.minted.now (v.context defaults e client) client.helper
      client.payload effects result ledger) :
    v.outcome defaults s =
      ⟨submitAnswer (v.context defaults e client) result, effects, { s with ledger }⟩ := by
  rw [outcome_of_submit defaults s h hb]
  simp only [eq_of_course course]

theorem exists_course {client : ClientRequest} (h : v.route? = some (.submit e))
    (hb : v.client? e = some client) :
    ∃ effects result ledger, Course v.world s.ledger v.minted.now (v.context defaults e client)
        client.helper client.payload effects result ledger ∧
      v.outcome defaults s =
        ⟨submitAnswer (v.context defaults e client) result, effects, { s with ledger }⟩ := by
  have course := course_submit v.world s v.minted.now (v.context defaults e client) client.helper
    client.payload
  exact ⟨_, _, _, course, outcome_of_course defaults s h hb course⟩

/-! ### Callbacks -/

theorem withoutBody_of_callback (h : v.route? = some (.callback e)) (response : Web.Response) :
    v.withoutBody response = response := by
  have hmethod := (route?_eq_some_iff.1 h).2
  refine if_neg fun hhead => ?_
  rw [hhead] at hmethod
  simp [Route.allows] at hmethod

/-- A callback that cannot be read is refused without any effect. -/
theorem outcome_of_unread_callback (h : v.route? = some (.callback e))
    (hb : v.callback? e = none) :
    v.outcome defaults s = ⟨(v.setting defaults).rejection (.callback e), [], s⟩ := by
  rw [outcome_of_route defaults s h, Setting.handleRoute, Setting.handleCallback]
  rw [callback?] at hb
  simp only [hb, Plan.run]
  rw [withoutBody_of_callback h]

/-- What a counterparty is answered, by the result of storing its callback. -/
def callbackAnswer (context : Context) : Except BackendFailure Unit → Web.Response
  | .ok _ => Setting.acceptance context
  | .error _ => Setting.refusal context StorageFailure.onWrite.refusal

/-- A callback that is read is stored, if its store is not offline. -/
theorem outcome_of_callback {c : Callback e} (h : v.route? = some (.callback e))
    (hb : v.callback? e = some c) :
    v.outcome defaults s =
      let (answer, store) := (s.callbacks e).append c
      ⟨callbackAnswer c.context answer, [.append e c], s.setCallbacks e store⟩ := by
  rw [outcome_of_route defaults s h, Setting.handleRoute, Setting.handleCallback]
  rw [callback?] at hb
  simp only [hb, withoutBody_of_callback h]
  rw [Plan.run_bind, receive, Attempt.run_perform_bind]
  simp only [Effect.apply]
  cases (s.callbacks e).append c with
  | mk answer store => cases answer <;> rfl

/-! ### Polls -/

/-- The message id that a poll asks for, unless it is blank. -/
def polled? (v : Visit) : Option String :=
  (FormQuery.unique? "messageId" v.request.query).bind Text.nonBlank?

theorem run_poll (minted : Minted) (m : String) (world : World) :
    (poll defaults minted e m).run.run world s =
      match s.ledger.contains m with
      | .error _ => ⟨.error (.storage .onRead), [.known m], s⟩
      | .ok false => ⟨.error (.notFound m), [.known m], s⟩
      | .ok true =>
        match (s.callbacks e).find m with
        | .error _ => ⟨.error (.storage .onRead), [.known m, .arrived e m], s⟩
        | .ok cs => ⟨.ok (.ofCallbacks defaults minted e m cs), [.known m, .arrived e m], s⟩ := by
  rw [poll, Attempt.run_perform_bind]
  simp only [Effect.apply]
  cases s.ledger.contains m with
  | error failure => rfl
  | ok known =>
    cases known with
    | false => rfl
    | true =>
      rw [Attempt.require_ok_bind]
      simp only [↓reduceIte]
      rw [Attempt.run_perform_bind]
      simp only [Effect.apply]
      cases (s.callbacks e).find m <;> rfl

/-- What a client is answered about a message id, by the result of its poll. -/
def pollAnswer (v : Visit) (e : Exchange) (m : String) :
    Except PollFailure (PollAnswer e) → Web.Response
  | .ok answer => ⟨200, some ((PollAnswer.shape e).encode answer)⟩
  | .error failure =>
    Setting.pollRefusal e (defaults.withMessageId v.minted (.callback e) m) failure.refusal

theorem outcome_of_unnamed_poll (h : v.route? = some (.poll e)) (hm : v.polled? = none) :
    v.outcome defaults s =
      ⟨v.withoutBody (Setting.pollRefusal e ((v.setting defaults).create (.callback e) none)
        ValidationFailure.messageIdNotPresent.refusal), [], s⟩ := by
  rw [outcome_of_route defaults s h, Setting.handleRoute, Setting.handlePoll]
  rw [polled?] at hm
  simp only [hm, Plan.run]

theorem run_handlePoll {m : String} (hm : v.polled? = some m) :
    ((v.setting defaults).handlePoll e v.request).run v.world s =
      let o := (poll defaults v.minted e m).run.run v.world s
      ⟨v.pollAnswer defaults e m o.result, o.effects, o.stores⟩ := by
  rw [polled?] at hm
  rw [Setting.handlePoll]
  simp only [hm]
  refine Plan.run_bind_of_pure v.world _ (fun r => ?_) s
  cases r <;> rfl

theorem outcome_of_poll {m : String} (h : v.route? = some (.poll e)) (hm : v.polled? = some m) :
    v.outcome defaults s =
      let o := (poll defaults v.minted e m).run.run v.world s
      ⟨v.withoutBody (v.pollAnswer defaults e m o.result), o.effects, o.stores⟩ := by
  rw [outcome_of_route defaults s h, Setting.handleRoute, run_handlePoll defaults s hm]

theorem client?_eq_none
    (h : ¬ ∃ e client, v.route? = some (.submit e) ∧ v.client? e = some client) :
    ∀ e, v.route? = some (.submit e) → v.client? e = none := by
  intro e hr
  rw [Option.eq_none_iff_forall_ne_some]
  intro client hb
  exact h ⟨e, client, hr, hb⟩

theorem callback?_eq_none
    (h : ¬ ∃ e c, v.route? = some (.callback e) ∧ v.callback? e = some c) :
    ∀ e, v.route? = some (.callback e) → v.callback? e = none := by
  intro e hr
  rw [Option.eq_none_iff_forall_ne_some]
  intro c hb
  exact h ⟨e, c, hr, hb⟩

end Visit

end Gateway

end BuyerGateway

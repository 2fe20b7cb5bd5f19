import BuyerGateway.Proofs.Transcript
/-!
The answers to submissions and callbacks. Whatever the gateway remembers and however the network
answers, each of them is an acknowledgement under a context: it accepts with success and without an
error, or it refuses with an error that stands in the catalog under the status of the answer.
-/
namespace BuyerGateway.Gateway

/-- The rows of the catalog with which a route refuses a body that it has read,
by status and code. -/
def Route.rows : Route → List (Nat × String)
  | submit _ =>
    [(400, "BAP_010"), (400, "BAP_014"), (400, "BAP_015"), (500, "BAP_001"), (500, "BAP_002"),
      (500, "BAP_003"), (500, "BAP_004"), (500, "BAP_006"), (500, "BAP_011"), (500, "BAP_012"),
      (500, "BAP_013")]
  | callback _ => [(500, "BAP_006")]
  | poll _ => [(400, "BAP_018"), (404, "BAP_016"), (500, "BAP_007")]

/-- The row for a body that cannot be read. -/
def unreadRow : Nat × String := (422, "BAP_017")

/-- A refusal of a body that was read is neither a success nor the refusal of an unread one. -/
theorem Route.status_of_mem_rows {r : Route} {row : Nat × String} (h : row ∈ r.rows) :
    row.1 ≠ 200 ∧ row.1 ≠ 422 := by
  have hall : ∀ row ∈ r.rows, row.1 ≠ 200 ∧ row.1 ≠ 422 := by
    cases r <;> simp [rows]
  exact hall row h

/-- An answer that accepts under a context, or refuses with one of these rows. -/
inductive Answers (context : Context) (rows : List (Nat × String)) :
    Web.Response → Acknowledgement → Prop
  | accepted : Answers context rows (Setting.acceptance context) (.accept context)
  | refused {r : Refusal} (h : (r.status, r.error.code) ∈ rows) :
      Answers context rows (Setting.refusal context r) (.refuse context r.error)

namespace Answers

variable {context : Context} {rows : List (Nat × String)} {response : Web.Response}
  {ack : Acknowledgement}

theorem body (h : Answers context rows response ack) :
    response.body = some (Acknowledgement.shape.encode ack) := by
  cases h <;> rfl

theorem under (h : Answers context rows response ack) : ack.context = some context := by
  cases h <;> rfl

/-- Success, an accepting status and the absence of an error are one and the same. -/
theorem accepts_iff (h : Answers context rows response ack) (hrows : ∀ row ∈ rows, row.1 ≠ 200) :
    (response.status = 200 ↔ ack.status = .ack) ∧ (ack.status = .ack ↔ ack.error = none) := by
  cases h with
  | accepted => exact ⟨⟨fun _ => rfl, fun _ => rfl⟩, ⟨fun _ => rfl, fun _ => rfl⟩⟩
  | refused hr => exact ⟨⟨fun h200 => absurd h200 (hrows _ hr), nofun⟩, ⟨nofun, nofun⟩⟩

theorem row (h : Answers context rows response ack) {error : ProtocolError}
    (he : ack.error = some error) : (response.status, error.code) ∈ rows := by
  cases h with
  | accepted => cases he
  | refused hr =>
    cases he
    exact hr

theorem mono {rows' : List (Nat × String)} (h : Answers context rows response ack)
    (hsub : rows ⊆ rows') : Answers context rows' response ack := by
  cases h with
  | accepted => exact .accepted
  | refused hr => exact .refused (hsub hr)

end Answers

/-! ### Where the rows come from -/

/-- Each stage at which a submission can fail has its rows, and there are no others. -/
theorem Course.row_of_error {world : World} {ledger after : Ledger} {now : Timestamp}
    {context : Context} {helper : Option String} {payload : Payload} {effects : List Effect}
    {failure : SubmitFailure} (e : Exchange)
    (h : Course world ledger now context helper payload effects (.error failure) after) :
    (failure.refusal.status, failure.refusal.error.code) ∈ (Route.submit e).rows := by
  cases h with
  | refused hm => cases hm <;> simp [SubmitFailure.refusal, ValidationFailure.refusal, Route.rows]
  | @unregistered _ _ cause hs hf =>
    cases cause <;> simp [SubmitFailure.refusal, RegistryFailure.refusal, Route.rows]
  | unbuilt hs hf hb => simp [SubmitFailure.refusal, CounterpartyFailure.refusal, Route.rows]
  | @unacknowledged _ _ _ _ cause hs hf hb ha =>
    cases cause <;> simp [SubmitFailure.refusal, CounterpartyFailure.refusal, Route.rows]
  | unrecorded hs hf hb ha ho => simp [SubmitFailure.refusal, StorageFailure.refusal, Route.rows]

namespace Visit

variable (defaults : ContextDefaults) {v : Visit} {e : Exchange} (s : Stores)

theorem answers_rejection (action : Action) :
    Answers ((v.setting defaults).create action none) [unreadRow]
      ((v.setting defaults).rejection action)
      (.refuse ((v.setting defaults).create action none)
        ValidationFailure.malformedBody.refusal.error) :=
  .refused (List.mem_singleton.2 rfl)

/-- A submission that is read is answered under its own context. -/
theorem answers_of_submit {client : ClientRequest} (h : v.route? = some (.submit e))
    (hb : v.client? e = some client) :
    ∃ ack, Answers (v.context defaults e client) (Route.submit e).rows
      (v.outcome defaults s).result ack := by
  obtain ⟨effects, result, ledger, course, hout⟩ := exists_course defaults s h hb
  rw [hout]
  cases result with
  | ok entry => exact ⟨_, .accepted⟩
  | error failure => exact ⟨_, .refused (course.row_of_error e)⟩

/-- A callback that is read is answered under the context that it came with. -/
theorem answers_of_callback {c : Callback e} (h : v.route? = some (.callback e))
    (hb : v.callback? e = some c) :
    ∃ ack, Answers c.context (Route.callback e).rows (v.outcome defaults s).result ack := by
  rw [outcome_of_callback defaults s h hb]
  simp only
  cases ((s.callbacks e).append c).1 with
  | ok stored => exact ⟨_, .accepted⟩
  | error failure => exact ⟨_, .refused (List.mem_singleton.2 rfl)⟩

theorem action_context {client : ClientRequest} :
    (v.context defaults e client).action = .request e := by
  cases e <;> rfl

end Visit

/-- The answer to a body that was read is no refusal of an unread one. -/
theorem Answers.status_ne {context : Context} {r : Route} {response : Web.Response}
    {ack : Acknowledgement} (h : Answers context r.rows response ack) : response.status ≠ 422 := by
  cases h with
  | accepted => exact Nat.ne_of_beq_eq_false rfl
  | refused hr => exact (Route.status_of_mem_rows hr).2

/-- What an answer is to be on a route that takes bodies. The status says whether the body was
`unreadable`, and nothing at all happens when it was. -/
structure Structured (r : Route) (unreadable : Prop) (outcome : Outcome Web.Response) (s : Stores)
    (context : Context) (ack : Acknowledgement) : Prop where
  body : outcome.result.body = some (Acknowledgement.shape.encode ack)
  under : ack.context = some context
  accepts : (outcome.result.status = 200 ↔ ack.status = .ack) ∧
    (ack.status = .ack ↔ ack.error = none)
  row : ∀ error, ack.error = some error → (outcome.result.status, error.code) ∈ unreadRow :: r.rows
  unread : outcome.result.status = 422 ↔ unreadable
  nothing : unreadable → outcome.effects = [] ∧ outcome.stores = s

namespace Structured

variable {r : Route} {unreadable : Prop} {outcome : Outcome Web.Response} {s : Stores}
  {context : Context} {ack : Acknowledgement}

theorem of_read (h : Answers context r.rows outcome.result ack) (hread : ¬ unreadable) :
    Structured r unreadable outcome s context ack where
  body := h.body
  under := h.under
  accepts := h.accepts_iff fun _ hrow => (Route.status_of_mem_rows hrow).1
  row _ he := List.mem_cons_of_mem _ (h.row he)
  unread := ⟨fun h422 => absurd h422 h.status_ne, fun hunread => absurd hunread hread⟩
  nothing hunread := absurd hunread hread

theorem of_unread (h : Answers context [unreadRow] outcome.result ack) (hunread : unreadable)
    (h422 : outcome.result.status = 422) (hnothing : outcome.effects = [] ∧ outcome.stores = s) :
    Structured r unreadable outcome s context ack where
  body := h.body
  under := h.under
  accepts := h.accepts_iff fun row hrow => by
    rw [List.mem_singleton.1 hrow]
    decide
  row _ he := by
    rw [List.mem_singleton.1 (h.row he)]
    exact List.mem_cons_self
  unread := ⟨fun _ => hunread, fun _ => h422⟩
  nothing _ := hnothing

end Structured

/-- In any state and whatever the world answers, every request on a route that takes bodies is
answered by an acknowledgement. It stands under the action of the route, but for a callback that was
read, which is answered under its own context. -/
theorem every_failure_is_structured (defaults : ContextDefaults) (v : Visit) (e : Exchange)
    (s : Stores) :
    (v.route? = some (.submit e) → ∃ context ack,
      Structured (.submit e) (v.client? e = none) (v.outcome defaults s) s context ack ∧
      context.action = .request e) ∧
    (v.route? = some (.callback e) → ∃ context ack,
      Structured (.callback e) (v.callback? e = none) (v.outcome defaults s) s context ack ∧
      (v.callback? e = none → context.action = .callback e) ∧
      ∀ c, v.callback? e = some c → context = c.context) := by
  refine ⟨?_, ?_⟩
  · intro h
    cases hb : v.client? e with
    | none =>
      have hanswers := Visit.answers_rejection (v := v) defaults (.request e)
      have hout := Visit.outcome_of_unread_submit defaults s h hb
      rw [hout]
      exact ⟨_, _, .of_unread hanswers rfl rfl ⟨rfl, rfl⟩, rfl⟩
    | some client =>
      obtain ⟨ack, hanswers⟩ := Visit.answers_of_submit defaults s h hb
      exact ⟨_, ack, .of_read hanswers nofun, Visit.action_context defaults⟩
  · intro h
    cases hb : v.callback? e with
    | none =>
      have hanswers := Visit.answers_rejection (v := v) defaults (.callback e)
      have hout := Visit.outcome_of_unread_callback defaults s h hb
      rw [hout]
      refine ⟨_, _, .of_unread hanswers rfl rfl ⟨rfl, rfl⟩, fun _ => rfl, ?_⟩
      intro c hc
      cases hc
    | some c =>
      obtain ⟨ack, hanswers⟩ := Visit.answers_of_callback defaults s h hb
      exact ⟨_, ack, .of_read hanswers nofun, nofun, fun c' hc' => by rw [Option.some.inj hc']⟩

/-- The search of the sample, over a counterparty that refuses it. -/
def Sample.refusedSearch : Visit :=
  { Sample.search with
    world.network _ _ :=
      .answer 200 "\x7b\"message\":\x7b\"ack\":\x7b\"status\":\"NACK\"\x7d\x7d\x7d".toUTF8.toList }

/-- A refusal by the counterparty reaches the client with an error of its own. -/
theorem refused_search_is_structured :
    ∃ context ack error,
      (Sample.refusedSearch.outcome Sample.defaults .empty).result.body =
        some (Acknowledgement.shape.encode ack) ∧
      ack.context = some context ∧ context.action = .request .search ∧ ack.status = .nack ∧
      ack.error = some error ∧ (500, error.code) ∈ unreadRow :: (Route.submit .search).rows := by
  have hroute : Sample.refusedSearch.route? = some (.submit .search) := by decide +kernel
  have hstatus : (Sample.refusedSearch.outcome Sample.defaults .empty).result.status = 500 := by
    decide +kernel
  obtain ⟨hsubmit, -⟩ := every_failure_is_structured Sample.defaults Sample.refusedSearch .search
    .empty
  obtain ⟨context, ack, h, haction⟩ := hsubmit hroute
  have hrefused : ack.status ≠ .ack := by
    intro hack
    have h200 := h.accepts.1.2 hack
    rw [hstatus] at h200
    cases h200
  cases herror : ack.error with
  | none => exact absurd (h.accepts.2.2 herror) hrefused
  | some error =>
    have hrow := h.row error herror
    rw [hstatus] at hrow
    refine ⟨context, ack, error, h.body, h.under, haction, ?_, herror, hrow⟩
    cases hs : ack.status with
    | ack => exact absurd hs hrefused
    | nack => rfl

end BuyerGateway.Gateway

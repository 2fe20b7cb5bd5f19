import BuyerGateway.Proofs.Acknowledgements
import BuyerGateway.Proofs.Orders
import BuyerGateway.Proofs.RequestTexts
/-!
Requests that cannot be built. A payload goes under the context of its own action alone, and then
fails for what its message lacks. Of these failures a running gateway meets only those of orders: an
order from a provider without a location, and a confirmation without a payment. They are what a
client sees as an internal failure of a counterparty that was never called.
-/
namespace BuyerGateway

namespace Payload

section

variable {p : Payload} {context : Context}

theorem exists_request_iff :
    (∃ r, p.request context = .ok r) ↔
      context.action = p.action ∧ ∃ message, p.question = .ok message := by
  by_cases h : context.action = p.action
  · rw [request_of_action h]
    cases p.question <;> simp [Except.map, h]
  · rw [request_of_other_action h]
    simp [h]

theorem request_eq_error_iff (h : context.action = p.action) {failure : BuildFailure} :
    p.request context = .error failure ↔ p.question = .error failure := by
  rw [request_of_action h]
  exact map_eq_error_iff

end

/-- An order that lacks what its message is to carry. -/
inductive Incomplete : Payload → Prop
  | init {order : ClientOrder} {first : CartItem} {rest : List CartItem}
      (hi : order.items = first :: rest) (hl : first.provider.locations = []) :
      Incomplete (.init order)
  | confirm {order : ClientOrder} {first : CartItem} {rest : List CartItem}
      (hi : order.items = first :: rest) (hl : first.provider.locations = []) :
      Incomplete (.confirm order)
  | unpaid {order : ClientOrder} (h : order.payment = none) : Incomplete (.confirm order)

theorem exists_failure_of_incomplete {p : Payload} (h : p.Incomplete) :
    ∃ failure, p.question = .error failure := by
  cases h with
  | @init order first rest hi hl =>
    have hbuild :=
      ClientOrder.initialized_eq_missingProviderLocation_iff.2 ⟨first, rest, hi, hl, rfl⟩
    exact ⟨_, by rw [question, hbuild]; rfl⟩
  | @confirm order first rest hi hl =>
    have hbuild :=
      ClientOrder.initialized_eq_missingProviderLocation_iff.2 ⟨first, rest, hi, hl, rfl⟩
    -- A confirmation that lacks its payment as well fails for the payment.
    cases hp : order.payment with
    | none =>
      have hunpaid := ClientOrder.confirmed_eq_missingPayment_iff.2 hp
      exact ⟨_, by rw [question, hunpaid]; rfl⟩
    | some paid =>
      have hfails := (ClientOrder.confirmed_eq_error_iff hp).2 hbuild
      exact ⟨_, by rw [question, hfails]; rfl⟩
  | @unpaid order hp =>
    have hunpaid := ClientOrder.confirmed_eq_missingPayment_iff.2 hp
    exact ⟨_, by rw [question, hunpaid]; rfl⟩

/-- With an item in its cart, if it is one, a payload has no message only for
what its order lacks. -/
theorem incomplete_of_failure {p : Payload} {failure : BuildFailure}
    (h : p.question = .error failure) (hne : p.cart? ≠ some []) :
    p.Incomplete ∧ failure ≠ .noItems ∧
      ∀ expected actual, failure ≠ .actionMismatch expected actual := by
  -- A search, a track and a request for support say what they were given, so they have a message.
  cases p with
  | search criteria => cases h
  | track orderId callbackUrl => cases h
  | support refId => cases h
  | select items =>
    have hnone : items = [] := SelectedOrder.exists_failure_iff.1 ⟨failure, map_eq_error_iff.1 h⟩
    rw [hnone] at hne
    exact absurd rfl hne
  | init order =>
    have hitems : order.items ≠ [] := fun hi => hne (congrArg some hi)
    obtain ⟨first, rest, hi, hl, rfl⟩ :=
      ClientOrder.missing_of_initialized (map_eq_error_iff.1 h) hitems
    exact ⟨.init hi hl, nofun, nofun⟩
  | confirm order =>
    have hconfirmed : order.confirmed = .error failure := map_eq_error_iff.1 h
    have hitems : order.items ≠ [] := fun hi => hne (congrArg some hi)
    cases hp : order.payment with
    | none =>
      have hunpaid := ClientOrder.confirmed_eq_missingPayment_iff.2 hp
      cases hunpaid.symm.trans hconfirmed
      exact ⟨.unpaid hp, nofun, nofun⟩
    | some paid =>
      have hinit := (ClientOrder.confirmed_eq_error_iff hp).1 hconfirmed
      obtain ⟨first, rest, hi, hl, rfl⟩ := ClientOrder.missing_of_initialized hinit hitems
      exact ⟨.confirm hi hl, nofun, nofun⟩

end Payload

/-! ### Errors as clients read them -/

namespace Web.Response

/-- The status of an answer and the code of the error in its body, if there is one. -/
def row? (response : Response) : Option (Nat × String) :=
  (response.body.bind ((Shape.wrapped "error" (.wrapped "code" .text)).decode Shape.roomOfText)).map
    (response.status, ·)

theorem row?_of_error {status : Nat} {fields : List (String × Json)} {error : ProtocolError}
    (h : Json.valuesAt "error" fields = [ProtocolError.shape.encode error]) :
    row? ⟨status, some (.object fields)⟩ = some (status, error.code) := by
  have hcode : (Shape.wrapped "code" .text).decode (Shape.roomOfText - 1)
      (ProtocolError.shape.encode error) = some error.code := by
    have hvalues : Json.valuesAt "code"
        [("code", .text error.code), ("message", .text error.message)] = [.text error.code] := by
      rw [Json.valuesAt_cons_self, Json.valuesAt_cons_ne (by decide)]
      rfl
    exact Shape.decode_wrapped hvalues
  rw [row?, Option.bind_some, Shape.decode_wrapped h, hcode]
  rfl

end Web.Response

/-! ### Failures and their codes -/

namespace SubmitFailure

def all : List SubmitFailure :=
  [.multipleProviders, .multipleBpps, .bppIdNotPresent, .malformedBody, .messageIdNotPresent].map
      .validation ++
    [.internal, .noGatewayFound, .nullResponse, .noBppFound].map .registry ++
    [.internal, .nullResponse, .nack].map .counterparty ++ [.onRead, .onWrite].map .storage

/-- A failure of a submission is known by its code. -/
theorem find?_code (failure : SubmitFailure) :
    all.find? (·.refusal.error.code == failure.refusal.error.code) = some failure := by
  cases failure <;> rename_i cause <;> cases cause <;> rfl

end SubmitFailure

namespace Gateway

/-! ### Which failures are answered alike -/

theorem row?_refusal (context : Context) (r : Refusal) :
    (Setting.refusal context r).row? = some (r.status, r.error.code) := by
  have herror : Json.valuesAt "error" [("context", Context.shape.encode context),
      ("message", AckStatus.messageShape.encode .nack),
      ("error", ProtocolError.shape.encode r.error)] = [ProtocolError.shape.encode r.error] := by
    rw [Json.valuesAt_cons_ne (by decide), Json.valuesAt_cons_ne (by decide),
      Json.valuesAt_cons_self]
    rfl
  exact Web.Response.row?_of_error herror

theorem row?_acceptance (context : Context) : (Setting.acceptance context).row? = none := by
  have herror : Json.valuesAt "error" [("context", Context.shape.encode context),
      ("message", AckStatus.messageShape.encode .ack)] = [] := by
    rw [Json.valuesAt_cons_ne (by decide), Json.valuesAt_cons_ne (by decide)]
    rfl
  have hbody : (Setting.acceptance context).body =
      some (.object [("context", Context.shape.encode context),
        ("message", AckStatus.messageShape.encode .ack)]) := rfl
  rw [Web.Response.row?, hbody, Option.bind_some, Shape.decode_wrapped_of_absent herror]
  rfl

theorem row?_pollRefusal {e : Exchange} (context : Context) (r : Refusal) :
    (Setting.pollRefusal e context r).row? = some (r.status, r.error.code) := by
  have herror : Json.valuesAt "error" [("context", Context.shape.encode context),
      ("error", ProtocolError.shape.encode r.error)] = [ProtocolError.shape.encode r.error] := by
    rw [Json.valuesAt_cons_ne (by decide), Json.valuesAt_cons_self]
    rfl
  exact Web.Response.row?_of_error herror

theorem row?_submitAnswer_iff {context : Context}
    {result : Except SubmitFailure (Option LedgerEntry)} (failure : SubmitFailure) :
    (Visit.submitAnswer context result).row? =
        some (failure.refusal.status, failure.refusal.error.code) ↔ result = .error failure := by
  cases result with
  | ok entry =>
    rw [Visit.submitAnswer, row?_acceptance]
    exact ⟨nofun, nofun⟩
  | error other =>
    rw [Visit.submitAnswer, row?_refusal]
    constructor
    · intro h
      have hcode : other.refusal.error.code = failure.refusal.error.code :=
        congrArg Prod.snd (Option.some.inj h)
      have hfound := other.find?_code
      rw [hcode, failure.find?_code] at hfound
      rw [Option.some.inj hfound]
    · intro h
      cases h
      rfl

/-- The row of a counterparty that failed inside. -/
def internalRow : Nat × String := (500, "BAP_011")

/-! ### Submissions whose request is not built -/

/-- The counterparty of a payload is found. -/
def Finds (world : World) (context : Context) (helper : Option String) (payload : Payload) : Prop :=
  ∃ lookup missing target, Seeks context helper payload lookup missing ∧
    Found.first missing (world.registry lookup) = .ok target

section

variable {world : World} {ledger after : Ledger} {now : Timestamp} {context : Context}
  {helper : Option String} {payload : Payload} {effects : List Effect}
  {result : Except SubmitFailure (Option LedgerEntry)}

theorem Seeks.cart?_ne {lookup : Lookup} {missing : RegistryFailure}
    (h : Seeks context helper payload lookup missing) : payload.cart? ≠ some [] := by
  intro hempty
  cases h with
  | cart hp hne =>
    rw [hp] at hempty
    exact hne (Option.some.inj hempty)
  | _ => cases hempty

/-- A counterparty that fails inside without having been called is one that was found, and for which
no request could be built. -/
theorem Course.internal_without_call_iff
    (h : Course world ledger now context helper payload effects result after) :
    result = .error (.counterparty .internal) ∧ Session.callsOf effects = [] ↔
      Finds world context helper payload ∧ ∃ failure, payload.request context = .error failure := by
  constructor
  · rintro ⟨hresult, hcalls⟩
    cases h with
    | unbuilt hs hf hb => exact ⟨⟨_, _, _, hs, hf⟩, _, hb⟩
    | unacknowledged hs hf hb ha => cases hcalls
    | _ => cases hresult
  · rintro ⟨⟨lookup, missing, target, hs, hf⟩, failure, hb⟩
    have unbuilt : Course world ledger now context helper payload _ _ _ := .unbuilt hs hf hb
    obtain ⟨rfl, rfl, -⟩ := h.unique unbuilt
    exact ⟨rfl, rfl⟩

end

namespace Visit

variable {v : Visit} {e : Exchange} (defaults : ContextDefaults)

/-- A submission that is read, and whose counterparty is found. -/
structure Resolved (v : Visit) (e : Exchange) (client : ClientRequest) : Prop where
  route : v.route? = some (.submit e)
  read : v.client? e = some client
  finds : Finds v.world (v.context defaults e client) client.helper client.payload

/-- A visit comes to the building of a request, which fails. -/
def Unbuilt (v : Visit) (failure : BuildFailure) : Prop :=
  ∃ e client, v.Resolved defaults e client ∧
    client.payload.request (v.context defaults e client) = .error failure

/-- A context is made under the action of the payload that it is made for. -/
theorem action_context_of_client {client : ClientRequest} (h : v.client? e = some client) :
    (v.context defaults e client).action = client.payload.action := by
  have hexchange := exchange_of_client h
  rw [action_context, Payload.action, hexchange]

variable {defaults}

theorem Resolved.incomplete_of_error {client : ClientRequest} {failure : BuildFailure}
    (h : v.Resolved defaults e client)
    (hb : client.payload.request (v.context defaults e client) = .error failure) :
    client.payload.Incomplete ∧ failure ≠ .noItems ∧
      ∀ expected actual, failure ≠ .actionMismatch expected actual := by
  obtain ⟨lookup, missing, target, hs, -⟩ := h.finds
  have haction := action_context_of_client defaults h.read
  exact Payload.incomplete_of_failure ((Payload.request_eq_error_iff haction).1 hb) hs.cart?_ne

theorem exists_unbuilt_iff :
    (∃ failure, v.Unbuilt defaults failure) ↔
      ∃ e client, v.Resolved defaults e client ∧ client.payload.Incomplete := by
  constructor
  · rintro ⟨failure, e, client, h, hb⟩
    exact ⟨e, client, h, (h.incomplete_of_error hb).1⟩
  · rintro ⟨e, client, h, hincomplete⟩
    obtain ⟨failure, hq⟩ := Payload.exists_failure_of_incomplete hincomplete
    have haction := action_context_of_client defaults h.read
    exact ⟨failure, e, client, h, (Payload.request_eq_error_iff haction).2 hq⟩

/-! ### Visits that build nothing -/

variable (s : Stores)

theorem row?_withoutBody {response : Web.Response} (h : response.row? ≠ some internalRow) :
    (v.withoutBody response).row? ≠ some internalRow := by
  rw [withoutBody]
  split
  · exact (Option.some_ne_none _).symm
  · exact h

theorem row?_pollAnswer {m : String} {result : Except PollFailure (PollAnswer e)} :
    (v.pollAnswer defaults e m result).row? ≠ some internalRow := by
  cases result with
  | ok answer =>
    intro h
    obtain ⟨code, -, hrow⟩ := Option.map_eq_some_iff.1 h
    cases hrow
  | error failure =>
    rw [pollAnswer, row?_pollRefusal]
    cases failure with
    | notFound m => simp [PollFailure.refusal, internalRow]
    | storage cause =>
      cases cause <;> simp [PollFailure.refusal, StorageFailure.refusal, internalRow]

theorem row?_rejection (action : Action) :
    ((v.setting defaults).rejection action).row? ≠ some internalRow := by
  rw [Setting.rejection, row?_refusal]
  simp [ValidationFailure.refusal, internalRow]

/-- Only a submission that was read can have the answer of a counterparty that failed inside. -/
theorem row?_of_no_client
    (h : ¬ ∃ e client, v.route? = some (.submit e) ∧ v.client? e = some client) :
    (v.outcome defaults s).result.row? ≠ some internalRow := by
  have hunread := client?_eq_none h
  -- Each kind of route has answers of its own: only a submission can fail inside a counterparty.
  cases hroute : v.route? with
  | none =>
    obtain ⟨status, hout⟩ := outcome_of_no_route defaults s hroute
    rw [hout]
    exact (Option.some_ne_none _).symm
  | some r =>
    cases r with
    | submit e =>
      rw [outcome_of_unread_submit defaults s hroute (hunread e hroute)]
      exact row?_rejection _
    | callback e =>
      cases hb : v.callback? e with
      | none =>
        rw [outcome_of_unread_callback defaults s hroute hb]
        exact row?_rejection _
      | some c =>
        rw [outcome_of_callback defaults s hroute hb]
        simp only
        cases ((s.callbacks e).append c).1 with
        | ok stored =>
          rw [callbackAnswer, row?_acceptance]
          exact (Option.some_ne_none _).symm
        | error failure =>
          rw [callbackAnswer, row?_refusal]
          simp [StorageFailure.refusal, internalRow]
    | poll e =>
      cases hm : v.polled? with
      | none =>
        rw [outcome_of_unnamed_poll defaults s hroute hm]
        apply row?_withoutBody
        rw [row?_pollRefusal]
        simp [ValidationFailure.refusal, internalRow]
      | some m =>
        rw [outcome_of_poll defaults s hroute hm]
        exact row?_withoutBody row?_pollAnswer

/-- A client learns of a request that could not be built by an internal failure of a counterparty
that was not called. -/
theorem internal_without_call_iff :
    (v.outcome defaults s).result.row? = some internalRow ∧
        Session.callsOf (v.outcome defaults s).effects = [] ↔
      ∃ failure, v.Unbuilt defaults failure := by
  by_cases hread : ∃ e client, v.route? = some (.submit e) ∧ v.client? e = some client
  · obtain ⟨e, client, hroute, hclient⟩ := hread
    obtain ⟨effects, result, ledger, course, hout⟩ := exists_course defaults s hroute hclient
    have hrow : (submitAnswer (v.context defaults e client) result).row? = some internalRow ↔
        result = .error (.counterparty .internal) :=
      row?_submitAnswer_iff (.counterparty .internal)
    simp only [hout, hrow]
    rw [course.internal_without_call_iff]
    constructor
    · rintro ⟨hfinds, failure, hb⟩
      exact ⟨failure, e, client, ⟨hroute, hclient, hfinds⟩, hb⟩
    · rintro ⟨failure, e', client', h, hb⟩
      -- The route and the body of a visit determine its submission.
      cases hroute.symm.trans h.route
      cases hclient.symm.trans h.read
      exact ⟨h.finds, failure, hb⟩
  · constructor
    · rintro ⟨hrow, -⟩
      exact absurd hrow (row?_of_no_client s hread)
    · rintro ⟨failure, e, client, h, -⟩
      exact absurd ⟨e, client, h.route, h.read⟩ hread

end Visit

/-- A request is built exactly under the action of its payload and from a message that can be made.
In every run this fails for orders without a location or a payment alone, whose answer is an
internal failure of a counterparty that was not called. -/
theorem builds_fail_for_orders_alone (defaults : ContextDefaults) (s : Stores)
    (visits : List Visit) :
    (∀ (p : Payload) (context : Context),
      ((∃ r, p.request context = .ok r) ↔
        context.action = p.action ∧ ∃ message, p.question = .ok message) ∧
      (context.action ≠ p.action →
        p.request context = .error (.actionMismatch p.action context.action)) ∧
      (context.action = p.action → ∀ failure,
        p.request context = .error failure ↔ p.question = .error failure) ∧
      ∀ r, p.request context = .ok r →
        r.action = p.action ∧ p.action = context.action ∧ r.context = context) ∧
    ∀ x ∈ transcript defaults s visits,
      (∀ failure, x.visit.Unbuilt defaults failure →
        failure ≠ .noItems ∧ ∀ expected actual, failure ≠ .actionMismatch expected actual) ∧
      (x.outcome.result.row? = some internalRow ∧ Session.callsOf x.outcome.effects = [] ↔
        ∃ e client, x.visit.Resolved defaults e client ∧ client.payload.Incomplete) := by
  refine ⟨?_, ?_⟩
  · intro p context
    refine ⟨Payload.exists_request_iff, Payload.request_of_other_action, ?_, ?_⟩
    · intro haction failure
      exact Payload.request_eq_error_iff haction
    · intro r hr
      obtain ⟨hcontext, hexchange⟩ := Payload.action_of_request hr
      have hsame : r.context = context := (Payload.request_eq_ok hr).1
      refine ⟨hexchange, ?_, hsame⟩
      calc
        p.action = r.action := hexchange.symm
        _ = r.context.action := hcontext.symm
        _ = context.action := by rw [hsame]
  · intro x hx
    obtain ⟨-, early, later, -, hout⟩ := exists_of_mem_transcript defaults hx
    refine ⟨?_, ?_⟩
    · rintro failure ⟨e, client, h, hb⟩
      exact (h.incomplete_of_error hb).2
    · rw [hout, Visit.internal_without_call_iff, Visit.exists_unbuilt_iff]

/-- Confirms an order of one item without a payment. -/
def Sample.unpaid : Visit where
  request := ⟨"POST", "/client/v1/confirm_order", some "application/json",
    "\x7b\"message\":\x7b\"order\":[[[\"i\",\"b\",[\"p\",[\"l\"]],[1]]]]\x7d\x7d".toUTF8.toList⟩
  minted := ⟨"t", "n", noon⟩
  world := { world with registry := directory.found }

/-- The client reads that its counterparty failed inside, which was found and never called. -/
theorem unpaid_order_is_not_built :
    ∃ client, Sample.unpaid.Resolved Sample.defaults .confirm client ∧
      client.payload.Incomplete := by
  obtain ⟨-, hruns⟩ := builds_fail_for_orders_alone Sample.defaults .empty [Sample.unpaid]
  obtain ⟨-, hinternal⟩ := hruns ⟨Sample.unpaid, Sample.unpaid.outcome Sample.defaults .empty⟩
    List.mem_cons_self
  have hrow : (Sample.unpaid.outcome Sample.defaults .empty).result.row? = some internalRow := by
    decide +kernel
  have hcalls : (Session.callsOf
      (Sample.unpaid.outcome Sample.defaults .empty).effects).map Prod.fst = [] := by
    decide +kernel
  obtain ⟨e, client, h, hincomplete⟩ := hinternal.1 ⟨hrow, List.map_eq_nil_iff.1 hcalls⟩
  have hconfirm : Sample.unpaid.route? = some (.submit .confirm) := by decide +kernel
  cases hconfirm.symm.trans h.route
  exact ⟨client, h, hincomplete⟩

end Gateway

end BuyerGateway

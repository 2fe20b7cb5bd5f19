import BuyerGateway.Proofs.Addressing
import BuyerGateway.Proofs.PlanRun
import BuyerGateway.Proofs.Replies
/-!
The course of a submission. Its effects are at most one lookup, one call and one write to the
ledger, in this order; it ends at the first stage that fails, with that stage's failure, and only
the last stage changes anything that is remembered.
-/
namespace BuyerGateway

theorem exists_of_map_eq_ok {ε α β : Type} {x : Except ε α} {f : α → β} {b : β}
    (h : x.map f = .ok b) : ∃ a, x = .ok a ∧ b = f a := by
  cases x with
  | error cause => cases h
  | ok a =>
    cases h
    exact ⟨a, rfl, rfl⟩

namespace Payload

variable {p : Payload} {context : Context} {request : Request}

theorem request_of_action (h : context.action = p.action) :
    p.request context = p.question.map fun message => ⟨p.exchange, ⟨context, message⟩⟩ := if_pos h

/-- A context of another action is refused whatever the payload lacks besides. -/
theorem request_of_other_action (h : context.action ≠ p.action) :
    p.request context = .error (.actionMismatch p.action context.action) := if_neg h

theorem action_eq_of_request (h : p.request context = .ok request) : context.action = p.action := by
  by_contra hne
  rw [request_of_other_action hne] at h
  cases h

/-- A request is the payload's message in an envelope with the context it was built under. -/
theorem exists_question_of_request (h : p.request context = .ok request) :
    ∃ message, p.question = .ok message ∧ request = ⟨p.exchange, ⟨context, message⟩⟩ := by
  rw [request_of_action (action_eq_of_request h)] at h
  exact exists_of_map_eq_ok h

theorem request_eq_ok (h : p.request context = .ok request) :
    request.context = context ∧ request.exchange = p.exchange := by
  obtain ⟨message, -, rfl⟩ := exists_question_of_request h
  exact ⟨rfl, rfl⟩

end Payload

namespace Gateway

/-- The ways a submission can go, by the stage at which it ends. Each row has the effects up to
there, the result, and the ledger from then on. -/
inductive Course (world : World) (ledger : Ledger) (now : Timestamp) (context : Context)
    (helper : Option String) (payload : Payload) :
    List Effect → Except SubmitFailure (Option LedgerEntry) → Ledger → Prop
  | refused {cause : ValidationFailure} (h : Misaddressed context helper payload cause) :
      Course world ledger now context helper payload [] (.error (.validation cause)) ledger
  | nobody (h : payload.cart? = some []) :
      Course world ledger now context helper payload [] (.ok none) ledger
  | unregistered {lookup : Lookup} {missing cause : RegistryFailure}
      (hs : Seeks context helper payload lookup missing)
      (hf : Found.first missing (world.registry lookup) = .error cause) :
      Course world ledger now context helper payload [.lookup lookup] (.error (.registry cause))
        ledger
  | unbuilt {lookup : Lookup} {missing : RegistryFailure} {s : Subscriber} {failure : BuildFailure}
      (hs : Seeks context helper payload lookup missing)
      (hf : Found.first missing (world.registry lookup) = .ok s)
      (hb : payload.request context = .error failure) :
      Course world ledger now context helper payload [.lookup lookup]
        (.error (.counterparty .internal)) ledger
  | unacknowledged {lookup : Lookup} {missing : RegistryFailure} {s : Subscriber}
      {request : Request} {cause : CounterpartyFailure}
      (hs : Seeks context helper payload lookup missing)
      (hf : Found.first missing (world.registry lookup) = .ok s)
      (hb : payload.request context = .ok request)
      (ha : Counterparty.Fails (world.network s.url request) cause) :
      Course world ledger now context helper payload [.lookup lookup, .call s.url request]
        (.error (.counterparty cause)) ledger
  | unrecorded {lookup : Lookup} {missing : RegistryFailure} {s : Subscriber} {request : Request}
      (hs : Seeks context helper payload lookup missing)
      (hf : Found.first missing (world.registry lookup) = .ok s)
      (hb : payload.request context = .ok request)
      (ha : Counterparty.Acknowledges (world.network s.url request))
      (ho : ledger.offline = true) :
      Course world ledger now context helper payload
        [.lookup lookup, .call s.url request, .record ⟨context.messageId, payload.exchange, now⟩]
        (.error (.storage .onWrite)) ledger
  | recorded {lookup : Lookup} {missing : RegistryFailure} {s : Subscriber} {request : Request}
      (hs : Seeks context helper payload lookup missing)
      (hf : Found.first missing (world.registry lookup) = .ok s)
      (hb : payload.request context = .ok request)
      (ha : Counterparty.Acknowledges (world.network s.url request))
      (ho : ledger.offline = false) :
      Course world ledger now context helper payload
        [.lookup lookup, .call s.url request, .record ⟨context.messageId, payload.exchange, now⟩]
        (.ok (some ((ledger.held? context.messageId).getD
          ⟨context.messageId, payload.exchange, now⟩)))
        (ledger.record ⟨context.messageId, payload.exchange, now⟩).2

section

variable (world : World) (now : Timestamp) (context : Context) (helper : Option String)
  (payload : Payload)

/-- The stages of a submission from its lookup on. -/
def pursue (lookup : Lookup) (missing : RegistryFailure) :
    Attempt SubmitFailure (Option LedgerEntry) := do
  let s ← subscriber lookup (Found.first missing)
  return some (← dispatchAndRecord now context payload s)

theorem submit_of_lookup? {a : Addressee} {lookup : Lookup} {missing : RegistryFailure}
    (ha : Addressee.ofPayload context helper payload = .ok a)
    (hl : a.lookup? = some (lookup, missing)) :
    submit now context helper payload = pursue now context payload lookup missing := by
  rw [submit, ha, Attempt.require_ok_bind]
  cases a with
  | nobody => cases hl
  | bpp id => cases hl; rfl
  | gateway domain country city => cases hl; rfl

theorem run_dispatch (s : Stores) (base : String) :
    (dispatch base context payload).run.run world s =
      match payload.request context with
      | .error _ => ⟨.error .internal, [], s⟩
      | .ok request =>
        ⟨Counterparty.acknowledged (world.network base request), [.call base request], s⟩ := by
  rw [dispatch]
  cases payload.request context with
  | error failure => rfl
  | ok request =>
    rw [Attempt.require_ok_bind, Attempt.run_perform_bind]
    simp only [Effect.apply]
    cases Counterparty.acknowledged (world.network base request) <;> rfl

/-- Everything behind the lookup, by whether a request is built, acknowledged and recorded. -/
theorem run_dispatchAndRecord (s : Stores) (target : Subscriber) :
    (dispatchAndRecord now context payload target).run.run world s =
      match payload.request context with
      | .error _ => ⟨.error (.counterparty .internal), [], s⟩
      | .ok request =>
        match Counterparty.acknowledged (world.network target.url request) with
        | .error cause => ⟨.error (.counterparty cause), [.call target.url request], s⟩
        | .ok _ =>
          let entry : LedgerEntry := ⟨context.messageId, payload.exchange, now⟩
          ⟨(s.ledger.record entry).1.mapError fun _ => .storage .onWrite,
            [.call target.url request, .record entry],
            { s with ledger := (s.ledger.record entry).2 }⟩ := by
  rw [dispatchAndRecord, Attempt.run_lift_bind, run_dispatch]
  cases payload.request context with
  | error failure => rfl
  | ok request =>
    simp only
    cases Counterparty.acknowledged (world.network target.url request) with
    | error cause => rfl
    | ok ack =>
      rw [Attempt.require_ok_bind, Attempt.run_perform_bind]
      simp only [Effect.apply]
      cases (s.ledger.record ⟨context.messageId, payload.exchange, now⟩).1 <;> rfl

theorem run_pursue (s : Stores) (lookup : Lookup) (missing : RegistryFailure) :
    (pursue now context payload lookup missing).run.run world s =
      match Found.first missing (world.registry lookup) with
      | .error cause => ⟨.error (.registry cause), [.lookup lookup], s⟩
      | .ok target =>
        let o := (dispatchAndRecord now context payload target).run.run world s
        ⟨o.result.map some, .lookup lookup :: o.effects, o.stores⟩ := by
  rw [pursue, subscriber, bind_assoc, Attempt.run_perform_bind]
  simp only [Effect.apply]
  cases Found.first missing (world.registry lookup) with
  | error cause => rfl
  | ok target => rw [Attempt.require_ok_bind, Attempt.run_bind_pure]

end

section

variable {world : World} {now : Timestamp} {context : Context} {helper : Option String}
  {payload : Payload}

/-- The course of everything from the lookup on. -/
theorem course_pursue {lookup : Lookup} {missing : RegistryFailure}
    (hs : Seeks context helper payload lookup missing) (s : Stores) :
    let o := (pursue now context payload lookup missing).run.run world s
    Course world s.ledger now context helper payload o.effects o.result o.stores.ledger := by
  intro o
  have ho : o = (pursue now context payload lookup missing).run.run world s := rfl
  rw [run_pursue] at ho
  -- One case for each stage that may fail, in the order of the stages.
  cases hf : Found.first missing (world.registry lookup) with
  | error cause =>
    rw [hf] at ho
    rw [ho]
    exact .unregistered hs hf
  | ok target =>
    simp only [hf, run_dispatchAndRecord] at ho
    cases hb : payload.request context with
    | error failure =>
      simp only [hb] at ho
      rw [ho]
      exact .unbuilt hs hf hb
    | ok request =>
      simp only [hb] at ho
      have hm := Counterparty.means_acknowledged (world.network target.url request)
      cases ha : Counterparty.acknowledged (world.network target.url request) with
      | error cause =>
        rw [ha] at hm
        simp only [ha] at ho
        rw [ho]
        cases hm with
        | failed hfails => exact .unacknowledged hs hf hb hfails
      | ok ack =>
        rw [ha] at hm
        simp only [ha] at ho
        rw [ho]
        cases hm with
        | acknowledged hack =>
          cases hoff : s.ledger.offline with
          | true =>
            rw [Ledger.record_of_offline hoff]
            exact .unrecorded hs hf hb hack hoff
          | false =>
            rw [Ledger.record_answer hoff]
            exact .recorded hs hf hb hack hoff

/-- Every submission takes its course. -/
theorem course_submit (world : World) (s : Stores) (now : Timestamp) (context : Context)
    (helper : Option String) (payload : Payload) :
    let o := (submit now context helper payload).run.run world s
    Course world s.ledger now context helper payload o.effects o.result o.stores.ledger := by
  intro o
  have ho : o = (submit now context helper payload).run.run world s := rfl
  have suits := Addressee.suits_ofPayload context helper payload
  cases ha : Addressee.ofPayload context helper payload with
  | error cause =>
    rw [ha] at suits
    rw [submit, ha, Attempt.require_error_bind] at ho
    rw [ho]
    cases suits with
    | refused h => exact .refused h
  | ok a =>
    rw [ha] at suits
    cases suits with
    | nobody h =>
      rw [submit, ha, Attempt.require_ok_bind] at ho
      rw [ho]
      exact .nobody h
    | somebody hl h =>
      rw [submit_of_lookup? now context helper payload ha hl] at ho
      rw [ho]
      exact course_pursue h s

theorem submit_of_seeks {lookup : Lookup} {missing : RegistryFailure}
    (h : Seeks context helper payload lookup missing) :
    submit now context helper payload = pursue now context payload lookup missing := by
  obtain ⟨a, ha, hl⟩ := Addressee.ofPayload_of_seeks h
  exact submit_of_lookup? now context helper payload ha hl

/-- A submission takes no other course: the rows exclude each other. -/
theorem eq_of_course {s : Stores} {effects : List Effect}
    {result : Except SubmitFailure (Option LedgerEntry)} {ledger : Ledger}
    (h : Course world s.ledger now context helper payload effects result ledger) :
    (submit now context helper payload).run.run world s = ⟨result, effects, { s with ledger }⟩ := by
  cases h with
  | refused hm =>
    rw [submit, Addressee.ofPayload_of_misaddressed hm, Attempt.require_error_bind]
    rfl
  | nobody hp =>
    rw [submit, Addressee.ofPayload_of_empty hp, Attempt.require_ok_bind]
    rfl
  | unregistered hs hf => rw [submit_of_seeks hs, run_pursue, hf]
  | unbuilt hs hf hb =>
    simp [submit_of_seeks hs, run_pursue, hf, run_dispatchAndRecord, hb, Except.map]
  | unacknowledged hs hf hb ha =>
    simp [submit_of_seeks hs, run_pursue, hf, run_dispatchAndRecord, hb,
      Counterparty.acknowledged_of_fails ha, Except.map]
  | unrecorded hs hf hb ha ho =>
    obtain ⟨ack, hack⟩ := Counterparty.acknowledged_of_acknowledges ha
    simp [submit_of_seeks hs, run_pursue, hf, run_dispatchAndRecord, hb, hack,
      Ledger.record_of_offline ho, Except.map, Except.mapError]
  | recorded hs hf hb ha ho =>
    obtain ⟨ack, hack⟩ := Counterparty.acknowledged_of_acknowledges ha
    simp [submit_of_seeks hs, run_pursue, hf, run_dispatchAndRecord, hb, hack,
      Ledger.record_answer ho, Except.map, Except.mapError]

/-- A submission has one course. -/
theorem Course.unique {ledger after after' : Ledger} {effects effects' : List Effect}
    {result result' : Except SubmitFailure (Option LedgerEntry)}
    (h : Course world ledger now context helper payload effects result after)
    (h' : Course world ledger now context helper payload effects' result' after') :
    effects = effects' ∧ result = result' ∧ after = after' := by
  have hsame :=
    (eq_of_course (s := ⟨ledger, fun _ => .empty⟩) h).symm.trans (eq_of_course h')
  exact ⟨congrArg Outcome.effects hsame, congrArg Outcome.result hsame,
    congrArg (·.stores.ledger) hsame⟩

/-! ### What all courses have in common -/

/-- Every stage of a submission passes. -/
def Passes (world : World) (ledger : Ledger) (context : Context) (helper : Option String)
    (payload : Payload) : Prop :=
  ∃ lookup missing s request, Seeks context helper payload lookup missing ∧
    Found.first missing (world.registry lookup) = .ok s ∧
    payload.request context = .ok request ∧
    Counterparty.Acknowledges (world.network s.url request) ∧ ledger.offline = false

namespace Course

variable {ledger after : Ledger} {effects : List Effect}
  {result : Except SubmitFailure (Option LedgerEntry)}

theorem isPrefix_kinds (h : Course world ledger now context helper payload effects result after) :
    effects.map Effect.kind <+: [.lookup, .call, .record] := by
  cases h with
  | refused hm => exact List.nil_prefix
  | nobody hp => exact List.nil_prefix
  | unregistered hs hf => exact ⟨[.call, .record], rfl⟩
  | unbuilt hs hf hb => exact ⟨[.call, .record], rfl⟩
  | unacknowledged hs hf hb ha => exact ⟨[.record], rfl⟩
  | unrecorded hs hf hb ha ho => exact List.prefix_refl _
  | recorded hs hf hb ha ho => exact List.prefix_refl _

theorem ledger_eq_of_error {failure : SubmitFailure}
    (h : Course world ledger now context helper payload effects (.error failure) after) :
    after = ledger := by
  cases h <;> rfl

/-- There is an entry exactly behind all stages, and it is one of the context's message id. -/
theorem entry_iff (h : Course world ledger now context helper payload effects result after) :
    (∃ x, result = .ok (some x) ∧ x.messageId = context.messageId) ↔
      Passes world ledger context helper payload := by
  constructor
  · rintro ⟨x, hx, -⟩
    cases h with
    | recorded hs hf hb ha ho => exact ⟨_, _, _, _, hs, hf, hb, ha, ho⟩
    | _ => cases hx
  · rintro ⟨lookup, missing, s, request, hs, hf, hb, ha, ho⟩
    -- The one course of these stages is the last row, so it is the course at hand.
    have last : Course world ledger now context helper payload _ _ _ := .recorded hs hf hb ha ho
    refine ⟨_, (h.unique last).2.1, ?_⟩
    cases hheld : ledger.held? context.messageId with
    | none => rfl
    | some first => exact (Ledger.held?_eq_some_iff.1 hheld).2

theorem none_iff (h : Course world ledger now context helper payload effects result after) :
    result = .ok none ↔ payload.cart? = some [] := by
  constructor
  · intro hr
    cases h with
    | nobody hp => exact hp
    | _ => cases hr
  · intro hp
    have empty : Course world ledger now context helper payload [] (.ok none) ledger := .nobody hp
    exact (h.unique empty).2.1

theorem of_none (h : Course world ledger now context helper payload effects (.ok none) after) :
    effects = [] ∧ after = ledger := by
  cases h with
  | nobody hp => exact ⟨rfl, rfl⟩

/-- An id that the ledger does not hold yet gets the entry of this very submission. -/
theorem of_some (h : Course world ledger now context helper payload effects result after)
    (hnew : ledger.held? context.messageId = none) {x : LedgerEntry} (hr : result = .ok (some x)) :
    x = ⟨context.messageId, payload.exchange, now⟩ ∧ after.entries = ledger.entries ++ [x] := by
  cases h with
  | recorded hs hf hb ha ho =>
    rw [hnew] at hr
    cases hr
    exact ⟨rfl, by rw [Ledger.record_of_new ho hnew]; rfl⟩
  | _ => cases hr

end Course

/-- A submission stops at the first of its stages that fails, with that stage's failure and no
effect behind it, and it changes nothing unless all of them pass. -/
theorem submission_fails_fast (world : World) (s : Stores) (now : Timestamp) (context : Context)
    (helper : Option String) (payload : Payload) :
    let o := (submit now context helper payload).run.run world s
    let entry : LedgerEntry := ⟨context.messageId, payload.exchange, now⟩
    Course world s.ledger now context helper payload o.effects o.result o.stores.ledger ∧
    (∀ effects result ledger,
      Course world s.ledger now context helper payload effects result ledger →
        effects = o.effects ∧ result = o.result ∧ ledger = o.stores.ledger) ∧
    o.effects.map Effect.kind <+: [.lookup, .call, .record] ∧
    o.stores.callbacks = s.callbacks ∧
    (∀ failure, o.result = .error failure → o.stores = s) ∧
    ((∃ x, o.result = .ok (some x) ∧ x.messageId = context.messageId) ↔
      Passes world s.ledger context helper payload) ∧
    (s.ledger.held? context.messageId = none → ∀ x, o.result = .ok (some x) →
      x = entry ∧ o.stores.ledger.entries = s.ledger.entries ++ [entry]) ∧
    (o.result = .ok none ↔ payload.cart? = some []) ∧
    (o.result = .ok none → o.effects = [] ∧ o.stores = s) := by
  intro o entry
  have course : Course world s.ledger now context helper payload o.effects o.result
      o.stores.ledger := course_submit world s now context helper payload
  have ho : o = ⟨o.result, o.effects, { s with ledger := o.stores.ledger }⟩ := eq_of_course course
  have hstores : o.stores = { s with ledger := o.stores.ledger } := congrArg Outcome.stores ho
  have hsame (h : o.stores.ledger = s.ledger) : o.stores = s := by rw [hstores, h]
  refine ⟨course, ?_, course.isPrefix_kinds, ?_, ?_, course.entry_iff, ?_, course.none_iff, ?_⟩
  · intro effects result ledger h
    have heq := eq_of_course h
    exact ⟨(congrArg Outcome.effects heq).symm, (congrArg Outcome.result heq).symm,
      (congrArg (·.stores.ledger) heq).symm⟩
  · rw [hstores]
  · intro failure hr
    rw [hr] at course
    exact hsame course.ledger_eq_of_error
  · intro hnew x hr
    obtain ⟨rfl, hentries⟩ := course.of_some hnew hr
    exact ⟨rfl, hentries⟩
  · intro hr
    rw [hr] at course
    exact ⟨course.of_none.1, hsame course.of_none.2⟩

end

namespace Sample

def defaults : ContextDefaults := ⟨"d", "c", "y", "v", "i", "u"⟩

def noon : Timestamp := ⟨⟨2024, 1, 2, by decide⟩, 43200, 0, by decide⟩

/-- One gateway is registered, and it acknowledges whatever it is sent. -/
def world : World where
  registry _ := .ok [⟨"bg", "https://bg", .bg, none, none, none⟩]
  network _ _ :=
    .answer 200 "\x7b\"message\":\x7b\"ack\":\x7b\"status\":\"ACK\"\x7d\x7d\x7d".toUTF8.toList

theorem acknowledges_world (base : String) (request : Request) :
    Counterparty.Acknowledges (world.network base request) := by
  refine ⟨200, _, ⟨none, .ack, none⟩, rfl, by decide, by decide, ?_, rfl⟩
  decide +kernel

end Sample

/-- A search for anything reaches the one gateway, which acknowledges it, and is recorded. -/
theorem search_passes_all_stages :
    let context := Sample.defaults.context (.request .search) "t" "m" Sample.noon
    let o := (submit Sample.noon context none (.search {})).run.run Sample.world .empty
    ∃ request, request.context = context ∧
      o.effects = [.lookup (.gateways "d" "c" "y"), .call "https://bg" request,
        .record ⟨"m", .search, Sample.noon⟩] ∧
      o.result = .ok (some ⟨"m", .search, Sample.noon⟩) ∧
      o.stores.ledger.entries = [⟨"m", .search, Sample.noon⟩] := by
  intro context o
  obtain ⟨-, honly, -⟩ := submission_fails_fast Sample.world .empty Sample.noon context none
    (.search {})
  have hs : Seeks context none (.search {}) (.gateways "d" "c" "y") .noGatewayFound :=
    .anyone nofun
  obtain ⟨request, hb⟩ : ∃ request, Payload.request (.search {}) context = .ok request := ⟨_, rfl⟩
  -- The last row of the courses, so the only one.
  obtain ⟨heffects, hresult, hledger⟩ :=
    honly _ _ _ (.recorded hs rfl hb (Sample.acknowledges_world "https://bg" request) rfl)
  exact ⟨request, (Payload.request_eq_ok hb).1, heffects.symm, hresult.symm, by rw [← hledger]; rfl⟩

end Gateway

end BuyerGateway

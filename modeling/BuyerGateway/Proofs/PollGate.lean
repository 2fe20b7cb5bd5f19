import BuyerGateway.Proofs.Transcript
/-!
The gates that a poll has to pass before callbacks are shown: it must name a message id, the ledger
must be in order and hold this id, and the store of callbacks must be in order. The first gate that
stops a poll tells how it is refused, and behind a gate that stops it nothing is looked at.
-/
namespace BuyerGateway

namespace PollAnswer

variable {e : Exchange}

theorem action_contextOf (c : Callback e) : (contextOf c).action = .callback e := by
  rw [contextOf]
  split <;> rfl

theorem messageId_contextOf (c : Callback e) : (contextOf c).messageId = c.messageId := by
  rw [contextOf]
  split <;> rfl

variable (defaults : ContextDefaults) (minted : Minted) {m : String} {cs : List (Callback e)}

/-- The action is that of the exchange, whatever actions the callbacks name in their contexts. -/
theorem action_ofCallbacks : (ofCallbacks defaults minted e m cs).context.action = .callback e := by
  cases cs with
  | nil => rfl
  | cons c rest => exact action_contextOf c

theorem messageId_ofCallbacks (h : ∀ c ∈ cs, c.messageId = m) :
    (ofCallbacks defaults minted e m cs).context.messageId = m := by
  cases cs with
  | nil => rfl
  | cons c rest =>
    have hfirst : c.messageId = m := h c List.mem_cons_self
    exact (messageId_contextOf c).trans hfirst

end PollAnswer

theorem CallbackStore.messageId_of_mem_recordsOf {e : Exchange} {s : CallbackStore e} {m : String}
    {c : Callback e} (h : c ∈ s.recordsOf m) : c.messageId = m := by
  have hid : (c.messageId == m) = true := (List.mem_filter.1 h).2
  exact eq_of_beq hid

theorem Ledger.held?_eq_none_iff {l : Ledger} {m : String} :
    l.held? m = none ↔ ∀ entry ∈ l.entries, entry.messageId ≠ m := by
  rw [← Option.not_isSome_iff_eq_none, isSome_held?_iff]
  push Not
  rfl

namespace Gateway

namespace Visit

/-- The answer is this row of the catalog: an error and no message, under the action of the poll's
exchange and, where the poll has named one, under the message id that it asked for. -/
def Refused (v : Visit) (e : Exchange) (named : Option String) (row : Refusal)
    (response : Web.Response) : Prop :=
  ∃ context, response = v.withoutBody
      ⟨row.status, some ((PollAnswer.shape e).encode ⟨context, none, some row.error⟩)⟩ ∧
    context.action = .callback e ∧ ∀ m, named = some m → context.messageId = m

section

variable {v : Visit} {e : Exchange} (defaults : ContextDefaults) {s : Stores} {m : String}

/-- A poll for an id whose plan ends with a failure is refused with the row of this failure. -/
theorem refused_of_failure (h : v.route? = some (.poll e)) (hm : v.polled? = some m)
    {failure : PollFailure}
    (hr : ((poll defaults v.minted e m).run.run v.world s).result = .error failure) :
    v.Refused e (some m) failure.refusal (v.outcome defaults s).result := by
  rw [outcome_of_poll defaults s h hm]
  simp only [hr]
  refine ⟨_, rfl, rfl, ?_⟩
  intro m' hm'
  exact Option.some.inj hm'

theorem refused_of_unnamed (h : v.route? = some (.poll e)) (hm : v.polled? = none) :
    v.Refused e none ValidationFailure.messageIdNotPresent.refusal
      (v.outcome defaults s).result := by
  rw [outcome_of_unnamed_poll defaults s h hm]
  exact ⟨_, rfl, rfl, nofun⟩

theorem refused_of_offline_ledger (h : v.route? = some (.poll e)) (hm : v.polled? = some m)
    (hl : s.ledger.offline = true) :
    v.Refused e (some m) StorageFailure.onRead.refusal (v.outcome defaults s).result := by
  have hr : ((poll defaults v.minted e m).run.run v.world s).result =
      .error (.storage .onRead) := by
    rw [run_poll, Ledger.contains_of_offline hl]
  exact refused_of_failure defaults h hm hr

/-- The answer for an id that the ledger does not hold is made of the defaults, what is minted
and the id alone. -/
theorem result_of_unheld (h : v.route? = some (.poll e)) (hm : v.polled? = some m)
    (hl : s.ledger.offline = false) (hheld : s.ledger.held? m = none) :
    (v.outcome defaults s).result =
      v.withoutBody (v.pollAnswer defaults e m (.error (.notFound m))) := by
  rw [outcome_of_poll defaults s h hm, run_poll, Ledger.contains_of_online hl, hheld]
  rfl

theorem refused_of_offline_store (h : v.route? = some (.poll e)) (hm : v.polled? = some m)
    (hl : s.ledger.offline = false) (hheld : (s.ledger.held? m).isSome = true)
    (hs : (s.callbacks e).offline = true) :
    v.Refused e (some m) StorageFailure.onRead.refusal (v.outcome defaults s).result := by
  have hr : ((poll defaults v.minted e m).run.run v.world s).result =
      .error (.storage .onRead) := by
    rw [run_poll, Ledger.contains_of_online hl, hheld, CallbackStore.find_of_offline hs]
  exact refused_of_failure defaults h hm hr

theorem result_of_answered (h : v.route? = some (.poll e)) (hm : v.polled? = some m)
    (hl : s.ledger.offline = false) (hheld : (s.ledger.held? m).isSome = true)
    (hs : (s.callbacks e).offline = false) :
    (v.outcome defaults s).result = v.withoutBody ⟨200, some ((PollAnswer.shape e).encode
      (.ofCallbacks defaults v.minted e m ((s.callbacks e).recordsOf m)))⟩ := by
  rw [outcome_of_poll defaults s h hm, run_poll, Ledger.contains_of_online hl, hheld,
    CallbackStore.find_of_online hs]
  rfl

/-- A poll writes nothing, wherever it is stopped. -/
theorem stores_of_poll (h : v.route? = some (.poll e)) : (v.outcome defaults s).stores = s := by
  cases hm : v.polled? with
  | none => rw [outcome_of_unnamed_poll defaults s h hm]
  | some m =>
    rw [outcome_of_poll defaults s h hm, run_poll]
    -- The five ends of a poll, each with the stores that it began with.
    cases s.ledger.contains m with
    | error failure => rfl
    | ok known =>
      cases known with
      | false => rfl
      | true => cases (s.callbacks e).find m <;> rfl

end

end Visit

/-- Polls pass these gates in this order, with whatever the ledger and the stores of callbacks hold
and whichever of them is offline. What is stored under an id that the ledger does not hold has no
part in the answer, and no poll changes what is remembered. -/
theorem poll_gates_in_order (defaults : ContextDefaults) (v : Visit) (e : Exchange) (s : Stores)
    (h : v.route? = some (.poll e)) :
    let response := (v.outcome defaults s).result
    let named := FormQuery.unique? "messageId" v.request.query
    ((∀ m, named = some m → Text.isBlank m = true) →
      v.Refused e none ⟨400, "BAP_018", "Message Id is mandatory"⟩ response) ∧
    (∀ m, named = some m → Text.isBlank m = false →
      (s.ledger.offline = true →
        v.Refused e (some m) ⟨500, "BAP_007", "Error when reading from DB"⟩ response) ∧
      (s.ledger.offline = false → (∀ entry ∈ s.ledger.entries, entry.messageId ≠ m) →
        v.Refused e (some m) ⟨404, "BAP_016", "No message with the given ID"⟩ response ∧
        ∀ (w : Visit) (t : Stores), w.request = v.request →
          w.minted.transactionId = v.minted.transactionId → w.minted.now = v.minted.now →
          t.ledger = s.ledger → (w.outcome defaults t).result = response) ∧
      (s.ledger.offline = false → (∃ entry ∈ s.ledger.entries, entry.messageId = m) →
        ((s.callbacks e).offline = true →
          v.Refused e (some m) ⟨500, "BAP_007", "Error when reading from DB"⟩ response) ∧
        ((s.callbacks e).offline = false →
          ∃ answer : PollAnswer e,
            answer = .ofCallbacks defaults v.minted e m ((s.callbacks e).recordsOf m) ∧
            response = v.withoutBody ⟨200, some ((PollAnswer.shape e).encode answer)⟩ ∧
            answer.context.action = .callback e ∧ answer.context.messageId = m))) ∧
    (v.outcome defaults s).stores = s := by
  intro response named
  refine ⟨?_, ?_, Visit.stores_of_poll defaults h⟩
  · intro hblank
    have hm : v.polled? = none := Text.bind_nonBlank?_eq_none_iff.2 hblank
    exact Visit.refused_of_unnamed defaults h hm
  · intro m hnamed hblank
    have hm : v.polled? = some m := Text.bind_nonBlank?_eq_some_iff.2 ⟨hnamed, hblank⟩
    refine ⟨?_, ?_, ?_⟩
    · intro hl
      exact Visit.refused_of_offline_ledger defaults h hm hl
    · intro hl hnone
      have hheld : s.ledger.held? m = none := Ledger.held?_eq_none_iff.2 hnone
      have hresponse : response =
          v.withoutBody (v.pollAnswer defaults e m (.error (.notFound m))) :=
        Visit.result_of_unheld defaults h hm hl hheld
      refine ⟨⟨_, hresponse, rfl, fun m' hm' => Option.some.inj hm'⟩, ?_⟩
      intro w t hrequest htransaction hnow hledger
      -- The other visit takes the same route to the same ledger, and so has the same answer.
      have hroute : w.route? = some (.poll e) := by rwa [Visit.route?, hrequest]
      have hpolled : w.polled? = some m := by rwa [Visit.polled?, hrequest]
      have hl' : t.ledger.offline = false := by rwa [hledger]
      have hheld' : t.ledger.held? m = none := by rwa [hledger]
      rw [hresponse, Visit.result_of_unheld defaults hroute hpolled hl' hheld']
      simp only [Visit.withoutBody, Visit.pollAnswer, ContextDefaults.withMessageId, hrequest,
        htransaction, hnow]
    · intro hl hsome
      have hheld : (s.ledger.held? m).isSome = true := Ledger.isSome_held?_iff.2 hsome
      refine ⟨?_, ?_⟩
      · intro hs
        exact Visit.refused_of_offline_store defaults h hm hl hheld hs
      · intro hs
        refine ⟨_, rfl, Visit.result_of_answered defaults h hm hl hheld hs, ?_, ?_⟩
        · exact PollAnswer.action_ofCallbacks defaults v.minted
        · exact PollAnswer.messageId_ofCallbacks defaults v.minted
            fun c hc => CallbackStore.messageId_of_mem_recordsOf hc

/-- Stores that hold a catalog under the id `m`, sent under the action of another exchange. -/
def Sample.misnamed (ledger : Ledger) (offline : Bool) : Stores :=
  let context := Sample.defaults.context (.request .track) "t" "m" Sample.noon
  { Stores.empty.setCallbacks .search ⟨[⟨context, some {}, none⟩], offline⟩ with ledger }

/-- The catalog is shown although its id was recorded for a selection, and nothing of it is told as
long as the id is not recorded. -/
theorem catalog_of_selection_is_shown :
    (∃ answer : PollAnswer .search,
      (Sample.poll.outcome Sample.defaults (Sample.misnamed
          (Ledger.empty.record ⟨"m", .select, Sample.noon⟩).2 false)).result =
        ⟨200, some ((PollAnswer.shape .search).encode answer)⟩ ∧
      answer.context.action = .callback .search ∧ answer.context.messageId = "m") ∧
    (Sample.poll.outcome Sample.defaults (Sample.misnamed .empty true)).result =
      (Sample.poll.outcome Sample.defaults .empty).result := by
  have hroute : Sample.poll.route? = some (.poll .search) := by decide +kernel
  have hnamed : FormQuery.unique? "messageId" Sample.poll.request.query = some "m" := by
    decide +kernel
  have hblank : Text.isBlank "m" = false := by decide +kernel
  refine ⟨?_, ?_⟩
  · obtain ⟨-, hgates, -⟩ := poll_gates_in_order Sample.defaults Sample.poll .search
      (Sample.misnamed (Ledger.empty.record ⟨"m", .select, Sample.noon⟩).2 false) hroute
    obtain ⟨-, -, hknown⟩ := hgates "m" hnamed hblank
    obtain ⟨-, hanswered⟩ := hknown (by decide +kernel) (by decide +kernel)
    obtain ⟨answer, -, hresponse, haction, hid⟩ := hanswered (by decide +kernel)
    exact ⟨answer, hresponse, haction, hid⟩
  · obtain ⟨-, hgates, -⟩ := poll_gates_in_order Sample.defaults Sample.poll .search .empty hroute
    obtain ⟨-, hunknown, -⟩ := hgates "m" hnamed hblank
    obtain ⟨-, hsame⟩ := hunknown rfl (by decide +kernel)
    exact hsame Sample.poll (Sample.misnamed .empty true) rfl rfl rfl rfl

end Gateway

end BuyerGateway

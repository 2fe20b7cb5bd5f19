import BuyerGateway.Proofs.Transcript
/-!
What the ledger holds after any visits: the submissions that were acknowledged, each under the
message id minted for it, and nothing else.
-/
namespace BuyerGateway.Gateway

namespace Visited

/-- A submission on the route of an exchange that made exactly one call, under the message id minted
for it, and was acknowledged. -/
def Acknowledged (x : Visited) (e : Exchange) : Prop :=
  x.visit.route? = some (.submit e) ∧ ∃ base request,
    Session.callsOf x.outcome.effects = [(base, request)] ∧
    request.context.messageId = x.visit.minted.messageId ∧
    Counterparty.Acknowledges (x.visit.world.network base request)

/-- The entry of a submission on the route of an exchange. -/
def entry (x : Visited) (e : Exchange) : LedgerEntry :=
  ⟨x.visit.minted.messageId, e, x.visit.minted.now⟩

theorem Acknowledged.unique {x : Visited} {e e' : Exchange} (h : x.Acknowledged e)
    (h' : x.Acknowledged e') : e = e' := by
  have hr := h.1.symm.trans h'.1
  cases hr
  rfl

end Visited

/-- The entries of the acknowledged submissions in a transcript, in order. -/
inductive Owed : List Visited → List LedgerEntry → Prop
  | nil : Owed [] []
  | acknowledged {x : Visited} {e : Exchange} {xs : List Visited} {es : List LedgerEntry}
      (h : x.Acknowledged e) (rest : Owed xs es) : Owed (x :: xs) (x.entry e :: es)
  | other {x : Visited} {xs : List Visited} {es : List LedgerEntry}
      (h : ∀ e, ¬ x.Acknowledged e) (rest : Owed xs es) : Owed (x :: xs) es

namespace Owed

variable {xs : List Visited} {es : List LedgerEntry}

theorem mem_iff (h : Owed xs es) {entry : LedgerEntry} :
    entry ∈ es ↔ ∃ x ∈ xs, ∃ e, x.Acknowledged e ∧ entry = x.entry e := by
  induction h with
  | nil => simp
  | @acknowledged x e xs es h rest ih =>
    -- The exchange of an acknowledged submission is that of its route, so it has one entry.
    rw [List.mem_cons, ih, List.exists_mem_cons_iff]
    refine or_congr_left ⟨fun he => ⟨e, h, he⟩, ?_⟩
    rintro ⟨e', h', he⟩
    rw [he, h.unique h']
  | other h rest ih =>
    rw [ih, List.exists_mem_cons_iff]
    refine ⟨Or.inr, ?_⟩
    rintro (⟨e, he, -⟩ | hrest)
    · exact absurd he (h e)
    · exact hrest

/-- The ids of the entries are among those minted, in the same order. -/
theorem sublist (h : Owed xs es) :
    (es.map (·.messageId)).Sublist (xs.map (·.visit.minted.messageId)) := by
  induction h with
  | nil => exact .slnil
  | acknowledged h rest ih => exact ih.cons_cons _
  | other h rest ih => exact ih.cons _

end Owed

/-! ### Writes of one visit -/

namespace Course

variable {world : World} {ledger after : Ledger} {now : Timestamp} {context : Context}
  {helper : Option String} {payload : Payload} {effects : List Effect}
  {result : Except SubmitFailure (Option LedgerEntry)}

/-- A write to the ledger goes with one acknowledged call, and no write with none. -/
theorem writes (h : Course world ledger now context helper payload effects result after)
    (ho : ledger.offline = false) :
    (entriesOf effects = [⟨context.messageId, payload.exchange, now⟩] ∧
      ∃ base request, Session.callsOf effects = [(base, request)] ∧ request.context = context ∧
        Counterparty.Acknowledges (world.network base request)) ∨
    (entriesOf effects = [] ∧ ∀ base request, Session.callsOf effects = [(base, request)] →
      ¬ Counterparty.Acknowledges (world.network base request)) := by
  cases h with
  | refused hm => exact .inr ⟨rfl, by simp [Session.callsOf]⟩
  | nobody hp => exact .inr ⟨rfl, by simp [Session.callsOf]⟩
  | unregistered hs hf => exact .inr ⟨rfl, by simp [Session.callsOf]⟩
  | unbuilt hs hf hb => exact .inr ⟨rfl, by simp [Session.callsOf]⟩
  | @unacknowledged lookup missing target request cause hs hf hb ha =>
    refine .inr ⟨rfl, ?_⟩
    intro base sent hcall hack
    have heq : [(target.url, request)] = [(base, sent)] := hcall
    cases heq
    obtain ⟨ack, hok⟩ := Counterparty.acknowledged_of_acknowledges hack
    rw [Counterparty.acknowledged_of_fails ha] at hok
    cases hok
  | unrecorded hs hf hb ha hoff => rw [ho] at hoff; cases hoff
  | @recorded lookup missing target request hs hf hb ha hon =>
    exact .inl ⟨rfl, target.url, request, rfl, (Payload.request_eq_ok hb).1, ha⟩

/-- The ledger changes exactly when all stages pass for an id that it does not hold. -/
theorem ledger_ne_iff (h : Course world ledger now context helper payload effects result after) :
    after ≠ ledger ↔
      Passes world ledger context helper payload ∧ ledger.held? context.messageId = none := by
  constructor
  · intro hne
    cases h with
    | recorded hs hf hb ha ho =>
      refine ⟨⟨_, _, _, _, hs, hf, hb, ha, ho⟩, ?_⟩
      cases hheld : ledger.held? context.messageId with
      | none => rfl
      | some first =>
        have hrecord := Ledger.record_of_known (e := ⟨context.messageId, payload.exchange, now⟩)
          ho hheld
        exact absurd (congrArg Prod.snd hrecord) hne
    | _ => exact absurd rfl hne
  · rintro ⟨hpasses, hnew⟩ heq
    obtain ⟨x, hx, -⟩ := h.entry_iff.2 hpasses
    have hentries := (h.of_some hnew hx).2
    rw [heq] at hentries
    exact List.cons_ne_nil x [] (List.self_eq_append_right.1 hentries)

end Course

/-- What one visit writes is what its outcome calls for. -/
inductive Writes (x : Visited) : List LedgerEntry → Prop
  | acknowledged {e : Exchange} (h : x.Acknowledged e) : Writes x [x.entry e]
  | other (h : ∀ e, ¬ x.Acknowledged e) : Writes x []

section

variable (defaults : ContextDefaults) {s : Stores} (v : Visit)

theorem writes_outcome (h : s.Online) :
    Writes ⟨v, v.outcome defaults s⟩ (entriesOf (v.outcome defaults s).effects) := by
  by_cases hr : ∃ e client, v.route? = some (.submit e) ∧ v.client? e = some client
  · obtain ⟨e, client, hr, hb⟩ := hr
    have hexchange : client.payload.exchange = e := Visit.exchange_of_client hb
    have hid : (v.context defaults e client).messageId = v.minted.messageId :=
      Visit.messageId_context defaults
    obtain ⟨effects, result, ledger, course, hout⟩ := Visit.exists_course defaults s hr hb
    rw [hout]
    rcases course.writes h.ledger with ⟨hwrite, base, request, hcall, hctx, hack⟩ | ⟨hwrite, hno⟩
    · rw [hexchange, hid] at hwrite
      simp only [hwrite]
      refine .acknowledged (e := e) ⟨hr, base, request, hcall, ?_, hack⟩
      rw [hctx, hid]
    · simp only [hwrite]
      refine .other ?_
      rintro e' ⟨-, base, request, hcall, -, hack⟩
      exact hno base request hcall hack
  · have hkinds := Visit.kinds_of_no_client defaults s (Visit.client?_eq_none hr)
    rw [entriesOf_eq_nil fun effect he => (hkinds effect he).1]
    refine .other ?_
    rintro e ⟨-, base, request, hcall, -⟩
    rw [callsOf_eq_nil fun effect he => (hkinds effect he).2] at hcall
    exact absurd hcall.symm (List.cons_ne_nil _ _)

/-- What the visits of a transcript write, one after the other, are the entries it owes. -/
theorem owed_transcript (vs : List Visit) (h : s.Online) :
    Owed (transcript defaults s vs)
      ((transcript defaults s vs).flatMap (entriesOf ·.outcome.effects)) := by
  induction vs generalizing s with
  | nil => exact .nil
  | cons v vs ih =>
    have hrest := ih (online_outcome defaults v h)
    have hv := writes_outcome defaults v h
    rw [transcript_cons, List.flatMap_cons]
    cases hw : entriesOf (v.outcome defaults s).effects with
    | nil =>
      rw [hw] at hv
      cases hv with
      | other hno => exact .other hno hrest
    | cons entry entries =>
      rw [hw] at hv
      cases hv with
      | acknowledged hack => exact .acknowledged hack hrest

/-- A visit changes the ledger exactly when it is a submission all of whose stages pass, under an id
that the ledger does not hold. -/
theorem ledger_ne_iff :
    (v.outcome defaults s).stores.ledger ≠ s.ledger ↔
      ∃ e client, v.route? = some (.submit e) ∧ v.client? e = some client ∧
        Passes v.world s.ledger (v.context defaults e client) client.helper client.payload ∧
        s.ledger.held? v.minted.messageId = none := by
  have hsubmitted {e : Exchange} {client : ClientRequest} (hr : v.route? = some (.submit e))
      (hb : v.client? e = some client) :
      (v.outcome defaults s).stores.ledger ≠ s.ledger ↔
        Passes v.world s.ledger (v.context defaults e client) client.helper client.payload ∧
          s.ledger.held? v.minted.messageId = none := by
    obtain ⟨effects, result, ledger, course, hout⟩ := Visit.exists_course defaults s hr hb
    rw [hout, ← Visit.messageId_context defaults]
    exact course.ledger_ne_iff
  constructor
  · intro hne
    by_cases hr : ∃ e client, v.route? = some (.submit e) ∧ v.client? e = some client
    · obtain ⟨e, client, hr, hb⟩ := hr
      exact ⟨e, client, hr, hb, (hsubmitted hr hb).1 hne⟩
    · -- Without a write the ledger is the same, which it is not.
      have hkinds := Visit.kinds_of_no_client defaults s (Visit.client?_eq_none hr)
      have hrun : (v.outcome defaults s).stores.ledger =
          s.ledger.recordAll (entriesOf (v.outcome defaults s).effects) := Plan.run_ledger _ _ s
      rw [entriesOf_eq_nil fun effect he => (hkinds effect he).1] at hrun
      exact absurd hrun hne
  · rintro ⟨e, client, hr, hb, hpasses⟩
    exact (hsubmitted hr hb).2 hpasses

end

/-! ### The ledger after many visits -/

/-- A gateway that started with nothing holds the first entry that it owes to each id. -/
theorem exists_owed (defaults : ContextDefaults) (visits : List Visit) :
    ∃ es, Owed (transcript defaults .empty visits) es ∧
      (∀ m, (after defaults .empty visits).ledger.held? m = es.find? (·.messageId == m)) ∧
      ((es.map (·.messageId)).Nodup → (after defaults .empty visits).ledger.entries = es) := by
  refine ⟨_, owed_transcript defaults visits Stores.online_empty, ?_, ?_⟩
  · intro m
    rw [ledger_after, Ledger.held?_recordAll rfl]
    rfl
  · intro hd
    rw [ledger_after, Ledger.entries_recordAll rfl (fun _ _ => rfl) hd]
    rfl

/-- After any visits to a gateway that started with nothing, the
ledger holds exactly the submissions that were acknowledged, under
the ids minted for them. No entry is ever lost or changed. -/
theorem ledger_holds_acknowledged (defaults : ContextDefaults) (visits : List Visit) :
    let done := transcript defaults .empty visits
    let s := after defaults .empty visits
    (∀ m, (∃ entry ∈ s.ledger.entries, entry.messageId = m) ↔
      ∃ x ∈ done, ∃ e, x.Acknowledged e ∧ x.visit.minted.messageId = m) ∧
    (∀ entry ∈ s.ledger.entries, ∃ x ∈ done, ∃ e, x.Acknowledged e ∧ entry = x.entry e) ∧
    (∀ x ∈ done, ∀ e, x.Acknowledged e →
      ∃! entry, entry ∈ s.ledger.entries ∧ entry.messageId = x.visit.minted.messageId) ∧
    ((visits.map (·.minted.messageId)).Nodup → Owed done s.ledger.entries ∧
      ∀ x ∈ done, ∀ e, x.Acknowledged e → x.entry e ∈ s.ledger.entries) ∧
    (∀ later, s.ledger.entries <+: (after defaults .empty (visits ++ later)).ledger.entries) ∧
    (∀ v : Visit, (v.outcome defaults s).stores.ledger ≠ s.ledger ↔
      ∃ e client, v.route? = some (.submit e) ∧ v.client? e = some client ∧
        Passes v.world s.ledger (v.context defaults e client) client.helper client.payload ∧
        s.ledger.held? v.minted.messageId = none) := by
  intro done s
  obtain ⟨es, howed, hheld, hentries⟩ := exists_owed defaults visits
  -- Whatever the ledger holds is the first entry owed to its id.
  have hmem : ∀ entry ∈ s.ledger.entries, entry ∈ es := by
    intro entry hentry
    have hfind := Ledger.held?_eq_some_iff.2 ⟨hentry, rfl⟩
    rw [hheld] at hfind
    exact List.mem_of_find?_eq_some hfind
  -- And every id that is owed an entry has one.
  have hsome : ∀ entry ∈ es, ∃ first ∈ s.ledger.entries, first.messageId = entry.messageId := by
    intro entry hentry
    have hfound : (s.ledger.held? entry.messageId).isSome := by
      rw [hheld, List.find?_isSome]
      exact ⟨entry, hentry, beq_self_eq_true _⟩
    exact Ledger.isSome_held?_iff.1 hfound
  have horigin : ∀ entry ∈ s.ledger.entries, ∃ x ∈ done, ∃ e,
      x.Acknowledged e ∧ entry = x.entry e :=
    fun entry hentry => howed.mem_iff.1 (hmem entry hentry)
  have hentry : ∀ x ∈ done, ∀ e, x.Acknowledged e → x.entry e ∈ es :=
    fun x hx e hack => howed.mem_iff.2 ⟨x, hx, e, hack, rfl⟩
  refine ⟨?_, horigin, ?_, ?_, ?_, fun v => ledger_ne_iff defaults v⟩
  · intro m
    constructor
    · rintro ⟨entry, hin, hid⟩
      obtain ⟨x, hx, e, hack, rfl⟩ := horigin entry hin
      exact ⟨x, hx, e, hack, hid⟩
    · rintro ⟨x, hx, e, hack, hid⟩
      obtain ⟨first, hfirst, hsame⟩ := hsome _ (hentry x hx e hack)
      exact ⟨first, hfirst, hsame.trans hid⟩
  · intro x hx e hack
    obtain ⟨first, hfirst, hsame⟩ := hsome _ (hentry x hx e hack)
    refine ⟨first, ⟨hfirst, hsame⟩, ?_⟩
    rintro other ⟨hother, hid⟩
    exact List.inj_on_of_nodup_map s.ledger.distinct hother hfirst (hid.trans hsame.symm)
  · intro hd
    -- The ids of all entries owed are distinct, so none of them is turned away.
    have hids : (done.map (·.visit.minted.messageId)).Nodup := by
      rw [← map_visit_transcript defaults .empty visits, List.map_map] at hd
      exact hd
    have hall : s.ledger.entries = es := hentries (howed.sublist.nodup hids)
    rw [hall]
    exact ⟨howed, hentry⟩
  · intro later
    rw [after_append]
    exact entries_prefix_after defaults later s

/-- A search that is acknowledged has the one entry in the ledger, whatever comes behind it. -/
theorem acknowledged_search_is_held :
    let visits := [Sample.search, Sample.onSearch, Sample.poll]
    let x : Visited := ⟨Sample.search, Sample.search.outcome Sample.defaults .empty⟩
    x ∈ transcript Sample.defaults .empty visits ∧ x.Acknowledged .search ∧
      (after Sample.defaults .empty visits).ledger.entries = [⟨"m", .search, Sample.noon⟩] := by
  intro visits x
  obtain ⟨-, -, -, hdistinct, -⟩ := ledger_holds_acknowledged Sample.defaults visits
  obtain ⟨-, hentries⟩ := hdistinct (by decide +kernel)
  have hx : x ∈ transcript Sample.defaults .empty visits := List.mem_cons_self
  have hcall : (Session.callsOf x.outcome.effects).map (·.2.context.messageId) = ["m"] := by
    decide +kernel
  obtain ⟨⟨base, request⟩, hcalls, hid⟩ := List.map_eq_singleton_iff.1 hcall
  have hack : x.Acknowledged .search :=
    ⟨Visit.route?_eq_submit_iff.2 ⟨by decide +kernel, by decide +kernel⟩, base, request, hcalls,
      hid, Sample.acknowledges_world base request⟩
  have hheld := hentries x hx .search hack
  have hsize : (after Sample.defaults .empty visits).ledger.entries.length = 1 := by
    decide +kernel
  obtain ⟨entry, hone⟩ := List.length_eq_one_iff.1 hsize
  rw [hone, List.mem_singleton] at hheld
  refine ⟨hx, hack, ?_⟩
  rw [hone, ← hheld]
  rfl

end BuyerGateway.Gateway

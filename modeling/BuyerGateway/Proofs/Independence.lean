import BuyerGateway.Proofs.Transcript
/-!
Visits that do not touch each other. Two gateways that hold the same entries and, id by id, the same
callbacks in the same order answer every visit alike from then on, however the callbacks of
different ids are mingled in their stores. Visits whose effects are apart therefore commute.
-/
namespace BuyerGateway.Gateway

/-! ### Stores that answer alike -/

/-- Stores that answer alike all that a plan may do: they hold the same of every id that it records
or asks for, and the same callbacks of every id that it reads. -/
structure Stores.AlikeFor (may : Effect → Prop) (s t : Stores) : Prop where
  left : s.Online
  right : t.Online
  recorded : ∀ entry, may (.record entry) →
    s.ledger.held? entry.messageId = t.ledger.held? entry.messageId
  known : ∀ m, may (.known m) → s.ledger.held? m = t.ledger.held? m
  arrived : ∀ e m, may (.arrived e m) →
    (s.callbacks e).recordsOf m = (t.callbacks e).recordsOf m

/-- Stores that answer everything alike. -/
abbrev Stores.Alike : Stores → Stores → Prop := Stores.AlikeFor fun _ => True

namespace Stores.AlikeFor

variable {may : Effect → Prop} {s t : Stores}

theorem mono {may' : Effect → Prop} (h : AlikeFor may s t)
    (hsub : ∀ effect, may' effect → may effect) : AlikeFor may' s t where
  left := h.left
  right := h.right
  recorded entry hmay := h.recorded entry (hsub _ hmay)
  known m hmay := h.known m (hsub _ hmay)
  arrived e m hmay := h.arrived e m (hsub _ hmay)

theorem answer (h : AlikeFor may s t) (world : World) {effect : Effect} (hmay : may effect) :
    (effect.apply world s).1 = (effect.apply world t).1 := by
  cases effect with
  | lookup request => rfl
  | call base request => rfl
  | record entry =>
    have hs := Ledger.record_answer h.left.ledger entry
    rw [h.recorded entry hmay, ← Ledger.record_answer h.right.ledger entry] at hs
    exact hs
  | known m =>
    have hs := Ledger.contains_of_online h.left.ledger m
    rw [h.known m hmay, ← Ledger.contains_of_online h.right.ledger m] at hs
    exact hs
  | append e c =>
    have hs := CallbackStore.append_of_online (h.left.callbacks e) c
    have ht := CallbackStore.append_of_online (h.right.callbacks e) c
    exact (congrArg Prod.fst hs).trans (congrArg Prod.fst ht).symm
  | arrived e m =>
    have hs := CallbackStore.find_of_online (h.left.callbacks e) m
    rw [h.arrived e m hmay, ← CallbackStore.find_of_online (h.right.callbacks e) m] at hs
    exact hs

/-- Runs with the same effects write the same. -/
theorem run (h : AlikeFor may s t) (world : World) {α : Type} (plan : Plan α)
    (heffects : (plan.run world s).effects = (plan.run world t).effects) :
    AlikeFor may (plan.run world s).stores (plan.run world t).stores where
  left := Plan.run_online world plan h.left
  right := Plan.run_online world plan h.right
  recorded entry hmay := by
    rw [Plan.held?_run world plan h.left, Plan.held?_run world plan h.right, heffects,
      h.recorded entry hmay]
  known m hmay := by
    rw [Plan.held?_run world plan h.left, Plan.held?_run world plan h.right, heffects,
      h.known m hmay]
  arrived e m hmay := by
    rw [Plan.recordsOf_run world plan h.left, Plan.recordsOf_run world plan h.right, heffects,
      h.arrived e m hmay]

end Stores.AlikeFor

/-- A steady plan comes to the same end in stores that answer alike what it may do. -/
theorem Plan.Steady.run_alike {α : Type} {may : Effect → Prop} {n : Nat} {plan : Plan α}
    (h : Steady may n plan) (world : World) {s t : Stores} (hst : s.AlikeFor may t) :
    (plan.run world s).result = (plan.run world t).result ∧
      (plan.run world s).effects = (plan.run world t).effects := by
  -- Each effect is answered alike, and leaves stores that answer alike the rest of the plan.
  induction h generalizing s t with
  | done => exact ⟨rfl, rfl⟩
  | @use n effect resume hmay hend hrest ih =>
    have hanswer := hst.answer world hmay
    have hnext : Stores.AlikeFor may (effect.apply world s).2 (effect.apply world t).2 :=
      hst.run world (Plan.perform effect) rfl
    obtain ⟨hresult, heffects⟩ := ih (effect.apply world s).1 hnext
    simp only [Plan.run]
    rw [hanswer] at hresult heffects ⊢
    exact ⟨hresult, congrArg (effect :: ·) heffects⟩

/-! ### Effects that are apart -/

/-- Two effects that do not touch the same id in the same place, unless both only read it there. -/
def Effect.Apart : Effect → Effect → Prop
  | .record x, .record y => x.messageId ≠ y.messageId
  | .record x, .known m => x.messageId ≠ m
  | .known m, .record x => x.messageId ≠ m
  | .append e c, .append e' c' => e = e' → c.messageId ≠ c'.messageId
  | .append e c, .arrived e' m => e = e' → c.messageId ≠ m
  | .arrived e m, .append e' c => e = e' → c.messageId ≠ m
  | _, _ => True

theorem Effect.Apart.symm {a b : Effect} (h : a.Apart b) : b.Apart a := by
  cases a with
  | record x =>
    cases b with
    | record y => exact Ne.symm h
    | known m => exact h
    | _ => trivial
  | known m =>
    cases b with
    | record x => exact h
    | _ => trivial
  | append e c =>
    cases b with
    | append e' c' => exact fun he => (h he.symm).symm
    | arrived e' m => exact fun he => h he.symm
    | _ => trivial
  | arrived e m =>
    cases b with
    | append e' c => exact fun he => h he.symm
    | _ => trivial
  | lookup request => cases b <;> trivial
  | call base request => cases b <;> trivial

namespace Visit

/-- Whatever one visit may do is apart from whatever another may do. -/
def Apart (v w : Visit) : Prop := ∀ a b, v.May a → w.May b → a.Apart b

theorem Apart.symm {v w : Visit} (h : v.Apart w) : w.Apart v :=
  fun b a hb ha => (h a b ha hb).symm

variable (defaults : ContextDefaults) {v w : Visit} {s : Stores} {m : String}

/-! ### What a visit leaves alone -/

theorem find?_entriesOf_outcome (hno : ∀ entry, v.May (.record entry) → entry.messageId ≠ m) :
    (entriesOf (v.outcome defaults s).effects).find? (·.messageId == m) = none := by
  rw [List.find?_eq_none]
  intro entry hentry
  have hmay := may_of_mem defaults v s (mem_entriesOf.1 hentry)
  simpa using hno entry hmay

theorem filter_callbacksOf_outcome {e : Exchange}
    (hno : ∀ c : Callback e, v.May (.append e c) → c.messageId ≠ m) :
    (callbacksOf e (v.outcome defaults s).effects).filter (·.messageId == m) = [] := by
  rw [List.filter_eq_nil_iff]
  intro c hc
  have hmay := may_of_mem defaults v s (mem_callbacksOf.1 hc)
  simpa using hno c hmay

/-- An id that a visit does not record, or that is held already, keeps its entry. -/
theorem held?_outcome (hs : s.Online)
    (h : (s.ledger.held? m).isSome ∨ ∀ entry, v.May (.record entry) → entry.messageId ≠ m) :
    (v.outcome defaults s).stores.ledger.held? m = s.ledger.held? m := by
  have hrun : (v.outcome defaults s).stores.ledger.held? m = (s.ledger.held? m).or _ :=
    Plan.held?_run v.world (v.plan defaults) hs m
  rw [hrun]
  rcases h with hheld | hno
  · obtain ⟨entry, hentry⟩ := Option.isSome_iff_exists.1 hheld
    rw [hentry, Option.some_or]
  · have hnone := find?_entriesOf_outcome defaults (s := s) hno
    rw [outcome] at hnone
    rw [plan, hnone, Option.or_none]

theorem recordsOf_outcome {e : Exchange} (hs : s.Online)
    (hno : ∀ c : Callback e, v.May (.append e c) → c.messageId ≠ m) :
    ((v.outcome defaults s).stores.callbacks e).recordsOf m = (s.callbacks e).recordsOf m := by
  have hrun : ((v.outcome defaults s).stores.callbacks e).recordsOf m =
      (s.callbacks e).recordsOf m ++ _ :=
    Plan.recordsOf_run v.world (v.plan defaults) hs e m
  have hnil := filter_callbacksOf_outcome defaults (s := s) hno
  rw [outcome] at hnil
  rw [hrun, plan, hnil, List.append_nil]

/-- A visit changes nothing of what visits apart from it may ask for. -/
theorem Apart.alikeFor (h : v.Apart w) (hs : s.Online) :
    Stores.AlikeFor v.May s (w.outcome defaults s).stores where
  left := hs
  right := online_outcome defaults w hs
  recorded entry hmay := by
    refine (held?_outcome defaults hs (.inr ?_)).symm
    exact fun other hother => (h _ _ hmay hother).symm
  known m hmay := by
    refine (held?_outcome defaults hs (.inr ?_)).symm
    exact fun other hother => h _ _ hmay hother
  arrived e m hmay := by
    refine (recordsOf_outcome defaults hs ?_).symm
    exact fun c hc => h _ _ hmay hc rfl

/-! ### Visits in the other order -/

/-- A visit comes to the same end behind one that is apart from it. -/
theorem Apart.outcome_eq (h : v.Apart w) (hs : s.Online) :
    (v.outcome defaults (w.outcome defaults s).stores).result = (v.outcome defaults s).result ∧
      (v.outcome defaults (w.outcome defaults s).stores).effects =
        (v.outcome defaults s).effects := by
  obtain ⟨hresult, heffects⟩ :=
    (steady_plan defaults v).run_alike v.world (h.alikeFor defaults hs)
  exact ⟨hresult.symm, heffects.symm⟩

theorem held?_outcome_eq (hs : s.Online) (m : String) :
    (v.outcome defaults s).stores.ledger.held? m = (s.ledger.held? m).or
      ((entriesOf (v.outcome defaults s).effects).find? (·.messageId == m)) :=
  Plan.held?_run v.world (v.plan defaults) hs m

theorem recordsOf_outcome_eq (hs : s.Online) (e : Exchange) (m : String) :
    ((v.outcome defaults s).stores.callbacks e).recordsOf m = (s.callbacks e).recordsOf m ++
      (callbacksOf e (v.outcome defaults s).effects).filter (·.messageId == m) :=
  Plan.recordsOf_run v.world (v.plan defaults) hs e m

/-- Of two visits that are apart, one writes no entry of a given id. -/
theorem Apart.unrecorded (h : v.Apart w) (m : String) :
    (entriesOf (v.outcome defaults s).effects).find? (·.messageId == m) = none ∨
      (entriesOf (w.outcome defaults s).effects).find? (·.messageId == m) = none := by
  by_cases hmay : ∃ entry, v.May (.record entry) ∧ entry.messageId = m
  · obtain ⟨entry, hentry, hid⟩ := hmay
    right
    apply find?_entriesOf_outcome
    intro other hother
    rw [← hid]
    exact (h _ _ hentry hother).symm
  · left
    apply find?_entriesOf_outcome
    exact fun entry hentry hid => hmay ⟨entry, hentry, hid⟩

/-- Of two visits that are apart, one stores no callback of a given id for an exchange. -/
theorem Apart.unstored (h : v.Apart w) (e : Exchange) (m : String) :
    (callbacksOf e (v.outcome defaults s).effects).filter (·.messageId == m) = [] ∨
      (callbacksOf e (w.outcome defaults s).effects).filter (·.messageId == m) = [] := by
  by_cases hmay : ∃ c : Callback e, v.May (.append e c) ∧ c.messageId = m
  · obtain ⟨c, hc, hid⟩ := hmay
    right
    apply filter_callbacksOf_outcome
    intro other hother
    rw [← hid]
    exact (h _ _ hc hother rfl).symm
  · left
    apply filter_callbacksOf_outcome
    exact fun c hc hid => hmay ⟨c, hc, hid⟩

/-- The stores behind two visits that are apart answer alike in whichever order the two came. Only
the order of callbacks of different ids may differ. -/
theorem Apart.alike (h : v.Apart w) (hs : s.Online) :
    Stores.Alike (w.outcome defaults (v.outcome defaults s).stores).stores
      (v.outcome defaults (w.outcome defaults s).stores).stores := by
  have hsv := online_outcome defaults v hs
  have hsw := online_outcome defaults w hs
  have hv := (h.outcome_eq defaults hs).2
  have hw := (h.symm.outcome_eq defaults hs).2
  have hledger (m : String) :
      (w.outcome defaults (v.outcome defaults s).stores).stores.ledger.held? m =
        (v.outcome defaults (w.outcome defaults s).stores).stores.ledger.held? m := by
    let byV := (entriesOf (v.outcome defaults s).effects).find? (·.messageId == m)
    let byW := (entriesOf (w.outcome defaults s).effects).find? (·.messageId == m)
    have hone : byV = none ∨ byW = none := h.unrecorded defaults m
    calc
      _ = ((s.ledger.held? m).or byV).or byW := by
        rw [held?_outcome_eq defaults hsv, hw, held?_outcome_eq defaults hs]
      _ = ((s.ledger.held? m).or byW).or byV := by
        rcases hone with hnone | hnone <;> rw [hnone, Option.or_none, Option.or_none]
      _ = _ := by rw [held?_outcome_eq defaults hsw, hv, held?_outcome_eq defaults hs]
  have hcallbacks (e : Exchange) (m : String) :
      ((w.outcome defaults (v.outcome defaults s).stores).stores.callbacks e).recordsOf m =
        ((v.outcome defaults (w.outcome defaults s).stores).stores.callbacks e).recordsOf m := by
    let byV := (callbacksOf e (v.outcome defaults s).effects).filter (·.messageId == m)
    let byW := (callbacksOf e (w.outcome defaults s).effects).filter (·.messageId == m)
    have hone : byV = [] ∨ byW = [] := h.unstored defaults e m
    calc
      _ = (s.callbacks e).recordsOf m ++ byV ++ byW := by
        rw [recordsOf_outcome_eq defaults hsv, hw, recordsOf_outcome_eq defaults hs]
      _ = (s.callbacks e).recordsOf m ++ byW ++ byV := by
        rcases hone with hnil | hnil <;> rw [hnil, List.append_nil, List.append_nil]
      _ = _ := by rw [recordsOf_outcome_eq defaults hsw, hv, recordsOf_outcome_eq defaults hs]
  refine ⟨online_outcome defaults w hsv, online_outcome defaults v hsw, ?_, ?_, ?_⟩
  · exact fun entry _ => hledger entry.messageId
  · exact fun m _ => hledger m
  · exact fun e m _ => hcallbacks e m

end Visit

/-- What others notice of a visit: its answer, and whatever it did to the network and the stores. -/
def Visited.trace (x : Visited) : Web.Response × List Effect :=
  (x.outcome.result, x.outcome.effects)

/-- Stores that answer alike cannot be told apart by any visits. -/
theorem trace_transcript_of_alike (defaults : ContextDefaults) (vs : List Visit) {s t : Stores}
    (hst : s.Alike t) :
    (transcript defaults s vs).map Visited.trace =
      (transcript defaults t vs).map Visited.trace := by
  induction vs generalizing s t with
  | nil => rfl
  | cons v vs ih =>
    obtain ⟨hresult, heffects⟩ :=
      (v.steady_plan defaults).run_alike v.world (hst.mono fun _ _ => trivial)
    have hhead : (⟨v, v.outcome defaults s⟩ : Visited).trace =
        (⟨v, v.outcome defaults t⟩ : Visited).trace := Prod.ext hresult heffects
    have hnext : Stores.Alike (v.outcome defaults s).stores (v.outcome defaults t).stores :=
      hst.run v.world (v.plan defaults) heffects
    rw [transcript_cons, transcript_cons, List.map_cons, List.map_cons, hhead, ih hnext]

/-! ### Independent visits -/

/-- Visits whose order does not matter, told from their routes, the ids they name and the ids minted
for them. A body that cannot be read names no id. -/
inductive Visit.Independent : Visit → Visit → Prop
  | callbacks {v w : Visit} {e e' : Exchange} (hv : v.route? = some (.callback e))
      (hw : w.route? = some (.callback e'))
      (h : e = e' → ∀ c c', v.callback? e = some c → w.callback? e' = some c' →
        c.messageId ≠ c'.messageId) : Independent v w
  | callbackSubmit {v w : Visit} {e e' : Exchange} (hv : v.route? = some (.callback e))
      (hw : w.route? = some (.submit e')) : Independent v w
  | pollCallback {v w : Visit} {e e' : Exchange} (hv : v.route? = some (.poll e))
      (hw : w.route? = some (.callback e'))
      (h : e = e' → ∀ m c, v.polled? = some m → w.callback? e' = some c → c.messageId ≠ m) :
      Independent v w
  | pollSubmit {v w : Visit} {e e' : Exchange} (hv : v.route? = some (.poll e))
      (hw : w.route? = some (.submit e'))
      (h : ∀ m, v.polled? = some m → w.minted.messageId ≠ m) : Independent v w
  | polls {v w : Visit} {e e' : Exchange} (hv : v.route? = some (.poll e))
      (hw : w.route? = some (.poll e')) : Independent v w
  | submits {v w : Visit} {e e' : Exchange} (hv : v.route? = some (.submit e))
      (hw : w.route? = some (.submit e')) (h : v.minted.messageId ≠ w.minted.messageId) :
      Independent v w
  | symm {v w : Visit} (h : Independent v w) : Independent w v

theorem Visit.Independent.apart {v w : Visit} (h : Independent v w) : v.Apart w := by
  induction h with
  | callbacks hv hw h =>
    intro a b ha hb
    obtain ⟨c, rfl, hc⟩ := ha.of_callback hv
    obtain ⟨c', rfl, hc'⟩ := hb.of_callback hw
    exact fun he => h he c c' hc hc'
  | callbackSubmit hv hw =>
    intro a b ha hb
    obtain ⟨c, rfl, -⟩ := ha.of_callback hv
    obtain ⟨request, rfl⟩ | ⟨base, request, rfl⟩ | ⟨entry, rfl, -⟩ := hb.of_submit hw <;> trivial
  | pollCallback hv hw h =>
    intro a b ha hb
    obtain ⟨m, hm, rfl | rfl⟩ := ha.of_poll hv
    · obtain ⟨c, rfl, -⟩ := hb.of_callback hw
      trivial
    · obtain ⟨c, rfl, hc⟩ := hb.of_callback hw
      exact fun he => h he m c hm hc
  | pollSubmit hv hw h =>
    intro a b ha hb
    obtain ⟨m, hm, rfl | rfl⟩ := ha.of_poll hv
    · obtain ⟨request, rfl⟩ | ⟨base, request, rfl⟩ | ⟨entry, rfl, hid⟩ := hb.of_submit hw
      · trivial
      · trivial
      · have hne : entry.messageId ≠ m := by
          rw [hid]
          exact h m hm
        exact hne
    · obtain ⟨request, rfl⟩ | ⟨base, request, rfl⟩ | ⟨entry, rfl, -⟩ := hb.of_submit hw <;> trivial
  | polls hv hw =>
    intro a b ha hb
    obtain ⟨m, -, rfl | rfl⟩ := ha.of_poll hv <;>
      obtain ⟨m', -, rfl | rfl⟩ := hb.of_poll hw <;> trivial
  | submits hv hw h =>
    intro a b ha hb
    obtain ⟨request, rfl⟩ | ⟨base, request, rfl⟩ | ⟨entry, rfl, hid⟩ := ha.of_submit hv
    · trivial
    · trivial
    · obtain ⟨request, rfl⟩ | ⟨base, request, rfl⟩ | ⟨entry', rfl, hid'⟩ := hb.of_submit hw
      · trivial
      · trivial
      · have hne : entry.messageId ≠ entry'.messageId := by rwa [hid, hid']
        exact hne
  | symm h ih => exact ih.symm

/-- A visit that has no part in what a poll of an exchange for an id is answered: it brings no
callback of that id to that exchange, and mints that id only if the ledger holds it already. -/
structure Visit.Unrelated (e : Exchange) (m : String) (held : Bool) (w : Visit) : Prop where
  callback : w.route? = some (.callback e) → ∀ c, w.callback? e = some c → c.messageId ≠ m
  submit : held = false → ∀ e', w.route? = some (.submit e') → w.minted.messageId ≠ m

/-- Whatever unrelated visits do, a poll for the id is answered as before. -/
theorem Visit.result_after_unrelated (defaults : ContextDefaults) {p : Visit} {e : Exchange}
    {m : String} (hp : p.route? = some (.poll e)) (hm : p.polled? = some m) (others : List Visit)
    {s : Stores} (hs : s.Online)
    (hothers : ∀ w ∈ others, w.Unrelated e m (s.ledger.held? m).isSome) :
    (p.outcome defaults (after defaults s others)).result = (p.outcome defaults s).result := by
  -- Each visit leaves the entry and the callbacks of the id as they are, so the next one is
  -- unrelated too.
  induction others generalizing s with
  | nil => rfl
  | cons w others ih =>
    obtain ⟨hcallback, hsubmit⟩ := hothers w List.mem_cons_self
    have hledger : (w.outcome defaults s).stores.ledger.held? m = s.ledger.held? m := by
      refine held?_outcome defaults hs ?_
      by_cases hheld : (s.ledger.held? m).isSome
      · exact .inl hheld
      · refine .inr ?_
        rintro entry ⟨hid, e', client, hroute, -⟩
        exact hid ▸ hsubmit (by simpa using hheld) e' hroute
    have hrecords : ((w.outcome defaults s).stores.callbacks e).recordsOf m =
        (s.callbacks e).recordsOf m :=
      recordsOf_outcome defaults hs fun c hc => hcallback hc.1 c hc.2
    have halike : Stores.AlikeFor p.May s (w.outcome defaults s).stores := by
      refine ⟨hs, online_outcome defaults w hs, ?_, ?_, ?_⟩
      · rintro entry ⟨-, e', client, hroute, -⟩
        cases hp.symm.trans hroute
      · rintro m' ⟨hm', -⟩
        cases hm.symm.trans hm'
        exact hledger.symm
      · rintro e' m' ⟨hm', hroute⟩
        cases hm.symm.trans hm'
        cases hp.symm.trans hroute
        exact hrecords.symm
    have hstep := ((steady_plan defaults p).run_alike p.world halike).1
    rw [after_cons, ih (online_outcome defaults w hs)]
    · exact hstep.symm
    · rw [hledger]
      exact fun w' hw' => hothers w' (List.mem_cons_of_mem w hw')

/-- Two independent visits may change their order, for neither they nor any later visit can tell.
What a poll is answered depends on no visit but the submission that its id was minted for and the
callbacks that carry this id on the route of the poll's exchange. -/
theorem independent_visits_commute (defaults : ContextDefaults) (before : List Visit) :
    let s := after defaults .empty before
    (∀ v w : Visit, v.Independent w → ∀ later : List Visit, ∃ x y rest,
      (transcript defaults s (v :: w :: later)).map Visited.trace = x :: y :: rest ∧
      (transcript defaults s (w :: v :: later)).map Visited.trace = y :: x :: rest) ∧
    ∀ (p : Visit) (e : Exchange) (m : String), p.route? = some (.poll e) → p.polled? = some m →
      ∀ others : List Visit, (∀ w ∈ others, w.Unrelated e m (s.ledger.held? m).isSome) →
        (p.outcome defaults (after defaults s others)).result = (p.outcome defaults s).result := by
  intro s
  have hs : s.Online := online_after defaults before Stores.online_empty
  refine ⟨?_, ?_⟩
  · intro v w h later
    have hapart := h.apart
    obtain ⟨hvresult, hveffects⟩ := hapart.outcome_eq defaults hs
    obtain ⟨hwresult, hweffects⟩ := hapart.symm.outcome_eq defaults hs
    have hlater := trace_transcript_of_alike defaults later (hapart.alike defaults hs)
    refine ⟨_, _, _, rfl, ?_⟩
    simp only [transcript_cons, List.map_cons, Visited.trace]
    rw [hvresult, hveffects, hwresult, hweffects, hlater]
  · intro p e m hp hm others hothers
    exact Visit.result_after_unrelated defaults hp hm others hs hothers

/-- A catalog before the search it answers is to the poll behind them as one after it. Once the id
is held, neither polls nor another submission under it change what the poll is answered. -/
theorem early_catalog_commutes :
    (∃ x y z, (transcript Sample.defaults .empty [Sample.onSearch, Sample.search, Sample.poll]).map
        Visited.trace = [x, y, z] ∧
      (transcript Sample.defaults .empty [Sample.search, Sample.onSearch, Sample.poll]).map
        Visited.trace = [y, x, z]) ∧
    (Sample.poll.outcome Sample.defaults
        (after Sample.defaults .empty [Sample.search, Sample.poll, Sample.search])).result =
      (Sample.poll.outcome Sample.defaults
        (after Sample.defaults .empty [Sample.search])).result := by
  have hsubmit : Sample.search.route? = some (.submit .search) := by decide +kernel
  have hpoll : Sample.poll.route? = some (.poll .search) := by decide +kernel
  refine ⟨?_, ?_⟩
  · have hcallback : Sample.onSearch.route? = some (.callback .search) := by decide +kernel
    obtain ⟨x, y, rest, hone, hother⟩ := (independent_visits_commute Sample.defaults []).1 _ _
      (.callbackSubmit hcallback hsubmit) [Sample.poll]
    simp only [transcript_cons, transcript_nil, List.map_cons, List.map_nil] at hone
    cases hone
    exact ⟨_, _, _, rfl, hother⟩
  · have hheld :
        ((after Sample.defaults .empty [Sample.search]).ledger.held? "m").isSome = true := by
      decide +kernel
    refine (independent_visits_commute Sample.defaults [Sample.search]).2 Sample.poll .search "m"
      hpoll (by decide +kernel) [Sample.poll, Sample.search] ?_
    rw [hheld]
    intro w hw
    refine ⟨fun hroute => ?_, nofun⟩
    obtain rfl | rfl : w = Sample.poll ∨ w = Sample.search := by simpa using hw
    · cases hpoll.symm.trans hroute
    · cases hsubmit.symm.trans hroute

end BuyerGateway.Gateway

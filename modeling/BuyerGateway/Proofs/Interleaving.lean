import BuyerGateway.Proofs.Arrivals
import BuyerGateway.Proofs.Pool
/-!
Requests in progress at the same time are answered as if each had been served alone, all at once, at
the moment of its last effect. A request goes on only from answers that will stand, so whatever
others write between two of its effects, it would have come as far had it started later.
-/
namespace BuyerGateway.Gateway

/-! ### One request among others -/

/-- How a request stands when `now` is remembered: it has done `own`, and the plan
`current` is left. -/
structure Thread {ι : Type} (defaults : ContextDefaults) (v : Visit) (now : Stores)
    (current : Plan Web.Response) (own : List (Event ι)) : Prop where
  steady : ∃ n, own.length + n ≤ 3 ∧ current.Steady v.May n
  may : ∀ x ∈ own, v.May x.effect
  /-- A write to the ledger is the last effect. -/
  recorded : ∀ x ∈ own, x.effect.kind = .record → own.getLast? = some x ∧ ∃ a, current = .done a
  /-- From now on, to go on is the same as to start afresh. -/
  waiting : ∀ effect resume, current = .use effect resume → ∀ t, now.Grown t →
    v.outcome defaults t =
      let rest := current.run v.world t
      { rest with effects := own.map (·.effect) ++ rest.effects }
  answered : ∀ a, current = .done a →
    own = [] ∧ v.plan defaults = .done a ∨ ∃ early last, own = early ++ [last] ∧
      v.outcome defaults last.seen =
        ⟨a, own.map (·.effect), (last.effect.apply v.world last.seen).2⟩

namespace Thread

variable {ι : Type} {defaults : ContextDefaults} {v : Visit} {now : Stores}
  {current : Plan Web.Response} {own : List (Event ι)}

theorem start : Thread defaults v now (v.plan defaults) ([] : List (Event ι)) where
  steady := ⟨3, Nat.le_refl 3, v.steady_plan defaults⟩
  may _ hx := absurd hx List.not_mem_nil
  recorded _ hx := absurd hx List.not_mem_nil
  waiting _ _ _ _ _ := rfl
  answered _ h := .inl ⟨rfl, h⟩

/-- What others do leaves a request as it stands. -/
theorem later (h : Thread defaults v now current own) {now' : Stores} (hgrown : now.Grown now') :
    Thread defaults v now' current own :=
  { h with waiting := fun effect resume hc t ht => h.waiting effect resume hc t (hgrown.trans ht) }

theorem next {effect : Effect} {resume : effect.Answer → Plan Web.Response} {i : ι}
    (h : Thread defaults v now (.use effect resume) own) (hnow : now.Online) :
    Thread defaults v (effect.apply v.world now).2 (resume (effect.apply v.world now).1)
      (own ++ [⟨i, effect, now⟩]) := by
  obtain ⟨n, hbound, hsteady⟩ := h.steady
  have hstart := h.waiting effect resume rfl
  cases hsteady with
  | @use n _ _ hmay hend hrest =>
    have hgoes (hopen : ¬ effect.Settled (effect.apply v.world now).1) :
        ∃ a, resume (effect.apply v.world now).1 = .done a := hend _ hopen
    refine ⟨⟨n, ?_, hrest _⟩, ?_, ?_, ?_, ?_⟩
    · rw [List.length_append, List.length_singleton]
      omega
    · intro x hx
      rcases List.mem_append.1 hx with hx | hx
      · exact h.may x hx
      · rw [List.mem_singleton.1 hx]
        exact hmay
    · intro x hx hrecord
      rcases List.mem_append.1 hx with hx | hx
      · -- Behind a write the request would not have gone on.
        obtain ⟨-, a, ha⟩ := h.recorded x hx hrecord
        cases ha
      · rw [List.mem_singleton.1 hx] at hrecord ⊢
        refine ⟨List.getLast?_concat, hgoes ?_⟩
        cases effect with
        | record entry => exact id
        | _ => cases hrecord
    · -- It goes on, so the answer was settled: it is the same later, with nothing written for it.
      intro effect' resume' hcurrent t ht
      have hsettled : effect.Settled (effect.apply v.world now).1 := by
        by_contra hopen
        obtain ⟨a, ha⟩ := hgoes hopen
        cases ha.symm.trans hcurrent
      have hnothing : (effect.apply v.world now).2 = now :=
        congrArg Prod.snd (hsettled.apply_eq hnow (.refl hnow))
      rw [hnothing] at ht
      rw [hstart t ht, Plan.run_use, hsettled.apply_eq hnow ht]
      simp only [List.map_append, List.map_cons, List.map_nil, List.append_assoc]
      rfl
    · -- It is at its end, which a fresh start right now would come to as well.
      intro a ha
      refine .inr ⟨own, _, rfl, ?_⟩
      rw [hstart now (.refl hnow), Plan.run_use, ha, List.map_append]
      rfl

end Thread

/-! ### All requests of a pool -/

namespace Pool

variable {ι : Type} [DecidableEq ι] {defaults : ContextDefaults} {visits : ι → Visit} {s : Stores}
  {p : Pool ι}

/-- Every request of a pool stands as its plan and its part of the log have it. -/
def Sound (defaults : ContextDefaults) (visits : ι → Visit) (p : Pool ι) : Prop :=
  ∀ i, Thread defaults (visits i) p.stores (p.plans i) (p.eventsOf i)

theorem Sound.turn (h : Sound defaults visits p) (honline : p.stores.Online) (i : ι) :
    Sound defaults visits (p.turn visits i) := by
  cases hplan : p.plans i with
  | done a =>
    rw [turn_of_done hplan]
    exact h
  | use effect resume =>
    -- The request itself goes a step further; to the others only the stores have grown.
    intro j
    by_cases hj : j = i
    · subst hj
      have hnext := (hplan ▸ h j).next (i := j) honline
      rw [eventsOf_turn hplan, turn_of_use hplan]
      simp only [Function.update_self]
      exact hnext
    · obtain ⟨hplans, hevents⟩ := turn_of_ne (p := p) visits hj
      rw [hplans, hevents, turn_of_use hplan]
      exact (h j).later (effect.grown (visits i).world honline)

theorem Sound.run (h : Sound defaults visits p) (haccount : Account visits s p)
    (schedule : List ι) : Sound defaults visits (p.run visits schedule) := by
  induction schedule generalizing p with
  | nil => exact h
  | cons i schedule ih => exact ih (h.turn haccount.online i) (haccount.turn i)

/-- A request that is not answered has done one effect in each of its turns. -/
theorem answered_or_served (visits : ι → Visit) (hstart : p.log = []) (schedule : List ι) (i : ι) :
    (∃ a, (p.run visits schedule).plans i = .done a) ∨
      ((p.run visits schedule).eventsOf i).length = schedule.count i := by
  -- The last turn is either lost on an answered request or adds one event to those of its request.
  induction schedule using List.reverseRecOn with
  | nil =>
    right
    rw [run, List.foldl_nil, eventsOf, hstart]
    rfl
  | append_singleton schedule j ih =>
    rw [run_concat]
    generalize p.run visits schedule = q at ih ⊢
    by_cases hj : i = j
    · subst hj
      cases hplan : q.plans i with
      | done a =>
        rw [turn_of_done hplan]
        exact .inl ⟨a, hplan⟩
      | use effect resume =>
        obtain ⟨a, ha⟩ | hcount := ih
        · cases hplan.symm.trans ha
        right
        rw [eventsOf_turn hplan, List.length_append, List.count_append, hcount,
          List.count_singleton_self]
        rfl
    · obtain ⟨hplans, hevents⟩ := turn_of_ne (p := q) visits hj
      have hother : [j].count i = 0 := List.count_eq_zero.2 (by simpa using hj)
      rw [hplans, hevents, List.count_append, hother]
      exact ih

/-- Three effects suffice for an answer. -/
theorem Sound.answered (h : Sound defaults visits p) {i : ι}
    (hdone : 3 ≤ (p.eventsOf i).length) : ∃ a, p.plans i = .done a := by
  obtain ⟨n, hbound, hsteady⟩ := (h i).steady
  have hn : n = 0 := by omega
  rw [hn] at hsteady
  generalize p.plans i = current at hsteady ⊢
  cases hsteady with
  | done => exact ⟨_, rfl⟩

/-- A request writes to the ledger once at most. -/
theorem Sound.record_unique (h : Sound defaults visits p) {x y : Event ι} (hx : x ∈ p.log)
    (hy : y ∈ p.log) (hxy : x.request = y.request) (hxr : x.effect.kind = .record)
    (hyr : y.effect.kind = .record) : x = y := by
  have hlast := ((h x.request).recorded x (mem_eventsOf.2 ⟨hx, rfl⟩) hxr).1
  have hlast' := ((h x.request).recorded y (mem_eventsOf.2 ⟨hy, hxy.symm⟩) hyr).1
  exact Option.some.inj (hlast.symm.trans hlast')

/-- When no two requests are minted the same id, and none is minted an id held at the start, no
write to the ledger meets an id that is held. -/
theorem Sound.unheld_of_record (h : Sound defaults visits p) (haccount : Account visits s p)
    (hdistinct : Function.Injective fun i => (visits i).minted.messageId)
    (hfresh : ∀ i, s.ledger.held? (visits i).minted.messageId = none)
    {x : Event ι} (hx : x ∈ p.log) {entry : LedgerEntry} (hrecord : x.effect = .record entry) :
    x.seen.ledger.held? entry.messageId = none := by
  have hminted {y : Event ι} {other : LedgerEntry} (hy : y ∈ p.log)
      (hyr : y.effect = .record other) :
      other.messageId = (visits y.request).minted.messageId := by
    have hmay := (h y.request).may y (mem_eventsOf.2 ⟨hy, rfl⟩)
    rw [hyr] at hmay
    exact hmay.1
  rw [Option.eq_none_iff_forall_ne_some]
  intro other hheld
  obtain ⟨hother, hid⟩ := Ledger.held?_eq_some_iff.1 hheld
  have hgrown : x.seen.Grown p.stores :=
    (x.grown visits (haccount.seen x hx)).trans (haccount.past x hx)
  have hfinal := hgrown.entries.subset hother
  rw [haccount.entries, List.mem_append, List.mem_filterMap] at hfinal
  rcases hfinal with hold | ⟨y, hy, hentry⟩
  · -- The entry was there at the start.
    have hsome := Ledger.held?_eq_some_iff.2 ⟨hold, hid.trans (hminted hx hrecord)⟩
    rw [hfresh] at hsome
    cases hsome
  · -- The entry was written by a request with the same id, so by this one, and in its only write.
    obtain ⟨hyr, hunheld⟩ := Event.entry?_eq_some_iff.1 hentry
    have hids : (visits x.request).minted.messageId = (visits y.request).minted.messageId := by
      rw [← hminted hx hrecord, ← hminted hy hyr, hid]
    have hxy : x = y := h.record_unique hx hy (hdistinct hids) (congrArg Effect.kind hrecord)
      (congrArg Effect.kind hyr)
    rw [← hxy, hid, hheld] at hunheld
    cases hunheld

theorem Sound.entries_of_distinct (h : Sound defaults visits p) (haccount : Account visits s p)
    (hdistinct : Function.Injective fun i => (visits i).minted.messageId)
    (hfresh : ∀ i, s.ledger.held? (visits i).minted.messageId = none) :
    p.log.filterMap Event.entry? = entriesOf p.effects := by
  rw [effects, entriesOf, List.filterMap_map]
  refine List.filterMap_congr fun x hx => ?_
  have hunheld (entry : LedgerEntry) (hrecord : x.effect = .record entry) :
      x.entry? = some entry :=
    Event.entry?_eq_some_iff.2
      ⟨hrecord, h.unheld_of_record haccount hdistinct hfresh hx hrecord⟩
  rw [Function.comp_apply]
  cases heffect : x.effect with
  | record entry => exact hunheld entry heffect
  | _ => rw [Event.entry?, heffect]

/-- A request was answered as by a visit that does all its
effects at once, when its last one was due. -/
structure AnsweredAt (defaults : ContextDefaults) (visits : ι → Visit) (p : Pool ι) (i : ι)
    (last : Event ι) (a : Web.Response) : Prop where
  isLast : (p.eventsOf i).getLast? = some last
  atomic : (visits i).outcome defaults last.seen =
    ⟨a, (p.eventsOf i).map (·.effect), last.left visits⟩

theorem AnsweredAt.mem {i : ι} {last : Event ι} {a : Web.Response}
    (h : p.AnsweredAt defaults visits i last a) : last ∈ p.log ∧ last.request = i :=
  mem_eventsOf.1 (List.mem_of_getLast? h.isLast)

theorem AnsweredAt.last_effect {i : ι} {last : Event ι} {a : Web.Response}
    (h : p.AnsweredAt defaults visits i last a) :
    ((visits i).outcome defaults last.seen).effects.getLast? = some last.effect := by
  rw [h.atomic, List.getLast?_map, h.isLast]
  rfl

/-- Every request that is answered had no effect at all, or was answered as at its last one. -/
theorem Sound.answeredAt (h : Sound defaults visits p) {i : ι} {a : Web.Response}
    (ha : p.plans i = .done a) :
    p.eventsOf i = [] ∧ (∀ t, (visits i).outcome defaults t = ⟨a, [], t⟩) ∨
      ∃ last, p.AnsweredAt defaults visits i last a := by
  rcases (h i).answered a ha with ⟨hnone, hplan⟩ | ⟨early, last, hown, hatomic⟩
  · refine .inl ⟨hnone, fun t => ?_⟩
    have houtcome : (visits i).outcome defaults t =
        ((visits i).plan defaults).run (visits i).world t := rfl
    rw [houtcome, hplan]
    rfl
  · have hlast : (p.eventsOf i).getLast? = some last := by
      rw [hown]
      exact List.getLast?_concat
    have hrequest : last.request = i := (mem_eventsOf.1 (List.mem_of_getLast? hlast)).2
    refine .inr ⟨last, hlast, ?_⟩
    rw [hatomic, Event.left, hrequest]

/-- How a poll of an exchange for an id was answered: with the id unknown when it asked for it, or
with the callbacks of the id that were stored when it read them, all those among them that were
stored before the id was known. -/
inductive Polled (defaults : ContextDefaults) (visits : ι → Visit) (p : Pool ι) (i : ι)
    (e : Exchange) (m : String) (last : Event ι) (a : Web.Response) : Prop
  | unknown (heffect : last.effect = .known m) (hunknown : last.seen.ledger.held? m = none)
      (ha : a = (visits i).withoutBody ((visits i).pollAnswer defaults e m (.error (.notFound m))))
  | known (heffect : last.effect = .arrived e m) (hknown : (last.seen.ledger.held? m).isSome)
      (ha : a = (visits i).withoutBody ⟨200, some ((PollAnswer.shape e).encode
        (.ofCallbacks defaults (visits i).minted e m ((last.seen.callbacks e).recordsOf m)))⟩)
      (hearly : ∀ y ∈ p.log, ∀ c : Callback e, y.effect = .append e c → c.messageId = m →
        y.seen.ledger.held? m = none → c ∈ (last.seen.callbacks e).recordsOf m)

theorem Sound.polled (h : Sound defaults visits p) (haccount : Account visits s p) {i : ι}
    {e : Exchange} {m : String} {a : Web.Response} (hroute : (visits i).route? = some (.poll e))
    (hpolled : (visits i).polled? = some m) (ha : p.plans i = .done a) :
    ∃ last, p.AnsweredAt defaults visits i last a ∧ Polled defaults visits p i e m last a := by
  rcases h.answeredAt ha with ⟨-, hnothing⟩ | ⟨last, hlast⟩
  · -- A poll for an id has an effect.
    have hreads := Visit.getLast?_effects_of_poll defaults haccount.online hroute hpolled
    rw [hnothing] at hreads
    cases hreads
  · have hmem := hlast.mem.1
    have honline := haccount.seen last hmem
    have hreads := Visit.getLast?_effects_of_poll defaults honline hroute hpolled
    have heffect := Option.some.inj (hlast.last_effect.symm.trans hreads)
    have hresult : a = ((visits i).outcome defaults last.seen).result := by rw [hlast.atomic]
    refine ⟨last, hlast, ?_⟩
    cases hheld : last.seen.ledger.held? m with
    | none =>
      rw [hheld] at heffect
      refine .unknown heffect hheld ?_
      rw [hresult, Visit.outcome_of_unknown_poll honline hroute hpolled hheld]
    | some entry =>
      rw [hheld] at heffect
      have hknown : (last.seen.ledger.held? m).isSome := by
        rw [hheld]
        rfl
      refine .known heffect hknown ?_ ?_
      · rw [hresult, Visit.outcome_of_known_poll honline hroute hpolled hknown]
      · intro y hy c hstored hid hunknown
        have hc := haccount.early_callback_stored hmem heffect hknown hy hstored hunknown
        exact List.mem_filter.2 ⟨hc, by simpa using hid⟩

end Pool

/-- A search, two catalogs for it, and a poll. -/
def Sample.race : Fin 4 → Visit
  | 0 => search
  | 1 => onSearch
  | 2 => { onSearch with minted := ⟨"t3", "m3", noon⟩ }
  | 3 => poll

/-- Any number of requests in progress at the same time leave the
stores as their effects in the order in which they happened. Each is
answered, as it would have been alone, when its last effect was due. -/
theorem interleaved_requests_atomic {ι : Type} [DecidableEq ι] (defaults : ContextDefaults)
    (visits : ι → Visit) {s : Stores} (hs : s.Online) (schedule : List ι) :
    let p := (Pool.start visits defaults s).run visits schedule
    ((∀ e, (p.stores.callbacks e).records = (s.callbacks e).records ++ callbacksOf e p.effects) ∧
      p.stores.ledger.entries = s.ledger.entries ++ p.log.filterMap Event.entry? ∧
      ((Function.Injective fun i => (visits i).minted.messageId) →
        (∀ i, s.ledger.held? (visits i).minted.messageId = none) →
        p.stores.ledger.entries = s.ledger.entries ++ entriesOf p.effects)) ∧
    (∀ i, 3 ≤ schedule.count i → ∃ a, p.plans i = .done a) ∧
    (∀ i a, p.plans i = .done a →
      p.eventsOf i = [] ∧ (∀ t, (visits i).outcome defaults t = ⟨a, [], t⟩) ∨
        ∃ last, p.AnsweredAt defaults visits i last a) ∧
    ∀ i e m a, (visits i).route? = some (.poll e) → (visits i).polled? = some m →
      p.plans i = .done a →
      ∃ last, p.AnsweredAt defaults visits i last a ∧ p.Polled defaults visits i e m last a := by
  intro p
  have haccount : p.Account visits s := (Pool.Account.start defaults hs).run schedule
  have hsound : p.Sound defaults visits :=
    Pool.Sound.run (fun _ => .start) (.start defaults hs) schedule
  refine ⟨⟨haccount.records, haccount.entries, ?_⟩, ?_, ?_, ?_⟩
  · intro hdistinct hfresh
    rw [haccount.entries, hsound.entries_of_distinct haccount hdistinct hfresh]
  · intro i hturns
    have hstart : (Pool.start visits defaults s).log = [] := rfl
    rcases Pool.answered_or_served visits hstart schedule i with hdone | hcount
    · exact hdone
    · exact hsound.answered (hcount ▸ hturns)
  · exact fun i a ha => hsound.answeredAt ha
  · exact fun i e m a hroute hpolled ha => hsound.polled haccount hroute hpolled ha

/-- One catalog comes before the search that it answers is recorded, another between the two reads
of a poll, and the poll shows both. -/
theorem overtaking_catalog_is_shown :
    let p := (Pool.start Sample.race Sample.defaults .empty).run Sample.race
      [0, 0, 1, 0, 3, 2, 3, 3]
    p.stores.ledger.entries = entriesOf p.effects ∧
    ∃ a last, p.AnsweredAt Sample.defaults Sample.race 3 last a ∧
      last.effect = .arrived .search "m" ∧ a.status = 200 ∧
      a.catalogs? = some [⟨some "b", none, {}⟩, ⟨some "b", none, {}⟩] := by
  intro p
  obtain ⟨⟨-, -, hentries⟩, hanswered, -, hpolls⟩ := interleaved_requests_atomic Sample.defaults
    Sample.race Stores.online_empty [0, 0, 1, 0, 3, 2, 3, 3]
  have hdistinct : ∀ i j : Fin 4,
      (Sample.race i).minted.messageId = (Sample.race j).minted.messageId → i = j := by
    decide +kernel
  refine ⟨hentries (fun i j => hdistinct i j) (by decide +kernel), ?_⟩
  obtain ⟨a, ha⟩ := hanswered 3 (by decide +kernel)
  obtain ⟨last, hlast, hpolled⟩ := hpolls 3 .search "m" a
    (Visit.route?_eq_poll_iff.2 ⟨by decide +kernel, .inl rfl⟩) (by decide +kernel) ha
  have hreads : (p.eventsOf 3).getLast?.map (fun x =>
      let o := (Sample.race 3).outcome Sample.defaults x.seen
      ((x.seen.ledger.held? "m").isSome, o.result.status, o.result.catalogs?)) =
      some (true, 200, some [⟨some "b", none, {}⟩, ⟨some "b", none, {}⟩]) := by
    decide +kernel
  rw [hlast.isLast, Option.map_some, hlast.atomic, Option.some.injEq, Prod.mk.injEq,
    Prod.mk.injEq] at hreads
  obtain ⟨hknown, hstatus, hcatalogs⟩ := hreads
  refine ⟨a, last, hlast, ?_, hstatus, hcatalogs⟩
  cases hpolled with
  | unknown heffect hunknown ha =>
    rw [hunknown] at hknown
    cases hknown
  | known heffect hheld ha hearly => exact heffect

end BuyerGateway.Gateway

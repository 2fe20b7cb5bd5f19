import BuyerGateway.Proofs.Footprint
import Mathlib.Data.List.Pairwise
import Mathlib.Logic.Function.Basic
/-!
Requests in progress at the same time. They take turns in any order, one effect at a time, each
effect on what is remembered when its turn comes. A log has every effect with what was remembered
when it was due, and accounts for all that is remembered in the end: nothing that a request wrote is
lost, doubled or replaced by another.
-/
namespace BuyerGateway.Gateway

/-! ### Stores that have grown -/

/-- What stores become as others write to them: all that was remembered stays, and in its place. -/
structure Stores.Grown (s t : Stores) : Prop where
  online : t.Online
  entries : s.ledger.entries <+: t.ledger.entries
  records : ∀ e, (s.callbacks e).records <+: (t.callbacks e).records

namespace Stores.Grown

variable {s t u : Stores}

theorem refl (h : s.Online) : s.Grown s := ⟨h, List.prefix_refl _, fun _ => List.prefix_refl _⟩

theorem trans (hst : s.Grown t) (htu : t.Grown u) : s.Grown u where
  online := htu.online
  entries := hst.entries.trans htu.entries
  records e := (hst.records e).trans (htu.records e)

theorem held (h : s.Grown t) {m : String} (hm : (s.ledger.held? m).isSome) :
    (t.ledger.held? m).isSome := Ledger.held_of_prefix h.entries hm

end Stores.Grown

namespace Effect

variable {s t : Stores} (world : World)

theorem grown (effect : Effect) (h : s.Online) : s.Grown (effect.apply world s).2 where
  online := Plan.run_online world (Plan.perform effect) h
  entries := by
    rw [apply_ledger]
    exact Ledger.entries_prefix_recordAll ..
  records e := by
    rw [apply_callbacks, CallbackStore.appendAll_of_online (h.callbacks e)]
    exact List.prefix_append ..

/-- A settled answer is the same at any later time, and nothing is written for it. -/
theorem Settled.apply_eq {world : World} {effect : Effect} (hs : s.Online) (hst : s.Grown t)
    (h : effect.Settled (effect.apply world s).1) :
    effect.apply world t = ((effect.apply world s).1, t) := by
  cases effect with
  | lookup request => rfl
  | call base request => rfl
  | known m =>
    have hanswer : s.ledger.contains m = .ok true := h
    have hknown : (s.ledger.held? m).isSome = true := by
      rw [Ledger.contains_of_online hs.ledger] at hanswer
      exact Except.ok.inj hanswer
    have hlater : t.ledger.contains m = .ok true := by
      rw [Ledger.contains_of_online hst.online.ledger, hst.held hknown]
    exact Prod.ext (hlater.trans hanswer.symm) rfl
  | record entry => exact absurd h id
  | append e c => exact absurd h id
  | arrived e m => exact absurd h id

end Effect

/-! ### Turns -/

/-- An effect of a request, and what was remembered when it was due. -/
structure Event (ι : Type) where
  request : ι
  effect : Effect
  seen : Stores

/-- What is remembered of some requests in progress, what is left to do for each of them, and
what has been done. -/
structure Pool (ι : Type) where
  stores : Stores
  plans : ι → Plan Web.Response
  log : List (Event ι)

section

variable {ι : Type} (visits : ι → Visit)

namespace Event

/-- What is remembered behind an event. -/
def left (x : Event ι) : Stores := (x.effect.apply (visits x.request).world x.seen).2

theorem grown (x : Event ι) (h : x.seen.Online) : x.seen.Grown (x.left visits) :=
  x.effect.grown (visits x.request).world h

theorem records_left (x : Event ι) (h : x.seen.Online) (e : Exchange) :
    ((x.left visits).callbacks e).records =
      (x.seen.callbacks e).records ++ callbacksOf e [x.effect] := by
  rw [left, Effect.apply_callbacks, CallbackStore.appendAll_of_online (h.callbacks e)]

/-- The entry that an event adds to the ledger; an id that is held already keeps its own. -/
def entry? (x : Event ι) : Option LedgerEntry :=
  match x.effect with
  | .record entry => if (x.seen.ledger.held? entry.messageId).isSome then none else some entry
  | _ => none

theorem entry?_eq_some_iff {x : Event ι} {entry : LedgerEntry} :
    x.entry? = some entry ↔
      x.effect = .record entry ∧ x.seen.ledger.held? entry.messageId = none := by
  obtain ⟨i, effect, s⟩ := x
  cases effect with
  | record other =>
    have hentry : entry? ⟨i, .record other, s⟩ =
        if (s.ledger.held? other.messageId).isSome then none else some other := rfl
    rw [hentry, Effect.record.injEq]
    split
    · rename_i hheld
      refine ⟨nofun, ?_⟩
      rintro ⟨rfl, hnone⟩
      rw [hnone] at hheld
      cases hheld
    · rename_i hheld
      rw [Option.some_inj]
      refine ⟨?_, And.left⟩
      rintro rfl
      exact ⟨rfl, Option.not_isSome_iff_eq_none.1 hheld⟩
  | _ => exact ⟨nofun, nofun⟩

theorem entries_left (x : Event ι) (h : x.seen.Online) :
    (x.left visits).ledger.entries = x.seen.ledger.entries ++ x.entry?.toList := by
  obtain ⟨i, effect, s⟩ := x
  cases effect with
  | record entry =>
    have hleft : (left visits ⟨i, .record entry, s⟩).ledger = (s.ledger.record entry).2 := rfl
    rw [hleft, entry?]
    cases hheld : s.ledger.held? entry.messageId with
    | none => simp [hheld, Ledger.record_of_new h.ledger hheld, Ledger.insert]
    | some first => simp [hheld, Ledger.record_of_known h.ledger hheld]
  | _ => exact (List.append_nil _).symm

end Event

namespace Pool

def start (defaults : ContextDefaults) (s : Stores) : Pool ι :=
  ⟨s, fun i => (visits i).plan defaults, []⟩

/-- A request does the effect that is due, unless it is answered already. -/
def turn [DecidableEq ι] (p : Pool ι) (i : ι) : Pool ι :=
  match p.plans i with
  | .done _ => p
  | .use effect resume =>
    let (answer, stores) := effect.apply (visits i).world p.stores
    ⟨stores, Function.update p.plans i (resume answer), p.log ++ [⟨i, effect, p.stores⟩]⟩

/-- The requests take their turns as a schedule has them. -/
def run [DecidableEq ι] (p : Pool ι) (schedule : List ι) : Pool ι :=
  schedule.foldl (turn visits) p

/-- All that was done, in order. -/
def effects (p : Pool ι) : List Effect := p.log.map (·.effect)

/-- What was done for a request. -/
def eventsOf [DecidableEq ι] (p : Pool ι) (i : ι) : List (Event ι) :=
  p.log.filter (·.request = i)

variable {visits} {p : Pool ι} {i j : ι}

section

variable [DecidableEq ι]

theorem mem_eventsOf {x : Event ι} : x ∈ p.eventsOf i ↔ x ∈ p.log ∧ x.request = i := by
  rw [eventsOf, List.mem_filter, decide_eq_true_iff]

theorem turn_of_done {a : Web.Response} (h : p.plans i = .done a) : p.turn visits i = p := by
  rw [turn, h]

theorem turn_of_use {effect : Effect} {resume : effect.Answer → Plan Web.Response}
    (h : p.plans i = .use effect resume) :
    p.turn visits i =
      let x : Event ι := ⟨i, effect, p.stores⟩
      let answer := (effect.apply (visits i).world p.stores).1
      ⟨x.left visits, Function.update p.plans i (resume answer), p.log ++ [x]⟩ := by
  rw [turn, h]
  rfl

/-- A turn changes nothing of the other requests. -/
theorem turn_of_ne (visits : ι → Visit) (h : j ≠ i) :
    (p.turn visits i).plans j = p.plans j ∧ (p.turn visits i).eventsOf j = p.eventsOf j := by
  cases hplan : p.plans i with
  | done a =>
    rw [turn_of_done hplan]
    exact ⟨rfl, rfl⟩
  | use effect resume =>
    rw [turn_of_use hplan]
    refine ⟨Function.update_of_ne h _ _, ?_⟩
    rw [eventsOf, List.filter_append, List.filter_singleton, decide_eq_false h.symm]
    exact List.append_nil _

theorem eventsOf_turn {effect : Effect} {resume : effect.Answer → Plan Web.Response}
    (h : p.plans i = .use effect resume) :
    (p.turn visits i).eventsOf i = p.eventsOf i ++ [⟨i, effect, p.stores⟩] := by
  rw [turn_of_use h, eventsOf, List.filter_append, List.filter_singleton, decide_eq_true rfl]
  rfl

theorem run_concat (schedule : List ι) :
    p.run visits (schedule ++ [i]) = (p.run visits schedule).turn visits i := by
  rw [run, List.foldl_append]
  rfl

end

/-! ### What the log accounts for -/

/-- The log of a pool that started with `s` accounts for its stores, and is in the order of time. -/
structure Account (visits : ι → Visit) (s : Stores) (p : Pool ι) : Prop where
  online : p.stores.Online
  records : ∀ e, (p.stores.callbacks e).records =
    (s.callbacks e).records ++ callbacksOf e p.effects
  entries : p.stores.ledger.entries = s.ledger.entries ++ p.log.filterMap Event.entry?
  seen : ∀ x ∈ p.log, x.seen.Online
  past : ∀ x ∈ p.log, (x.left visits).Grown p.stores
  ordered : p.log.Pairwise fun x y => (x.left visits).Grown y.seen

namespace Account

variable {s : Stores}

theorem start (defaults : ContextDefaults) (h : s.Online) :
    Account visits s (Pool.start visits defaults s) where
  online := h
  records _ := (List.append_nil _).symm
  entries := (List.append_nil _).symm
  seen _ hx := absurd hx List.not_mem_nil
  past _ hx := absurd hx List.not_mem_nil
  ordered := .nil

theorem turn [DecidableEq ι] (h : Account visits s p) (i : ι) :
    Account visits s (p.turn visits i) := by
  cases hplan : p.plans i with
  | done a =>
    rw [turn_of_done hplan]
    exact h
  | use effect resume =>
    rw [turn_of_use hplan]
    have hnext : p.stores.Grown (Event.left visits ⟨i, effect, p.stores⟩) :=
      Event.grown visits ⟨i, effect, p.stores⟩ h.online
    refine ⟨hnext.online, ?_, ?_, ?_, ?_, ?_⟩
    · intro e
      rw [Event.records_left visits _ h.online, h.records e, List.append_assoc,
        ← callbacksOf_append, effects, effects, List.map_append]
      rfl
    · rw [Event.entries_left visits _ h.online, h.entries, List.append_assoc, List.filterMap_append]
      congr 2
    · intro x hx
      rcases List.mem_append.1 hx with hx | hx
      · exact h.seen x hx
      · rw [List.mem_singleton.1 hx]
        exact h.online
    · intro x hx
      rcases List.mem_append.1 hx with hx | hx
      · exact (h.past x hx).trans hnext
      · rw [List.mem_singleton.1 hx]
        exact .refl hnext.online
    · -- What was there behind each earlier event has grown to what this one meets.
      rw [List.pairwise_append]
      refine ⟨h.ordered, List.pairwise_singleton _ _, ?_⟩
      intro x hx y hy
      rw [List.mem_singleton.1 hy]
      exact h.past x hx

theorem run [DecidableEq ι] (h : Account visits s p) (schedule : List ι) :
    Account visits s (p.run visits schedule) := by
  induction schedule generalizing p with
  | nil => exact h
  | cons i schedule ih => exact ih (h.turn i)

/-- Of two events one comes behind the other. -/
theorem before_or_after (h : Account visits s p) {x y : Event ι} (hx : x ∈ p.log) (hy : y ∈ p.log)
    (hne : x ≠ y) : (x.left visits).Grown y.seen ∨ (y.left visits).Grown x.seen := by
  let R (x y : Event ι) : Prop := (x.left visits).Grown y.seen ∨ (y.left visits).Grown x.seen
  have hpairs : p.log.Pairwise R := h.ordered.imp Or.inl
  have hsymm : Std.Symm R := ⟨fun _ _ => Or.symm⟩
  exact hpairs.forall hx hy hne

/-- Whoever reads the callbacks of an id that is known finds those stored while it was unknown. -/
theorem early_callback_stored (h : Account visits s p) {x y : Event ι} {e : Exchange}
    {c : Callback e} {m : String} (hx : x ∈ p.log) (hread : x.effect = .arrived e m)
    (hknown : (x.seen.ledger.held? m).isSome) (hy : y ∈ p.log) (hstored : y.effect = .append e c)
    (hunknown : y.seen.ledger.held? m = none) : c ∈ (x.seen.callbacks e).records := by
  have hne : x ≠ y := by
    rintro rfl
    cases hread.symm.trans hstored
  rcases h.before_or_after hx hy hne with hxy | hyx
  · -- An id that is known stays known.
    have hleft : x.left visits = x.seen := by
      rw [Event.left, hread]
      rfl
    rw [hleft] at hxy
    have hstill := hxy.held hknown
    rw [hunknown] at hstill
    cases hstill
  · refine (hyx.records e).subset ?_
    rw [Event.records_left visits y (h.seen y hy)]
    have hc : c ∈ callbacksOf e [y.effect] := mem_callbacksOf.2 (by simp [hstored])
    exact List.mem_append_right _ hc

end Account

end Pool

end

end BuyerGateway.Gateway

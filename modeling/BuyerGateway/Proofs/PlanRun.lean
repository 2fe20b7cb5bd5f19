import BuyerGateway.Gateway.Session
import BuyerGateway.Proofs.Storage
/-!
Runs of plans. A run of two plans one after the other is their two runs put together, and what is
remembered behind any run is told by its effects alone: the entries written to the ledger and the
callbacks stored, in their order.
-/
namespace BuyerGateway.Gateway

/-! ### Effects of a run -/

/-- What an effect does, whatever its data. -/
inductive Effect.Kind where
  | lookup
  | call
  | record
  | known
  | append
  | arrived
  deriving DecidableEq, Repr

def Effect.kind : Effect → Kind
  | lookup _ => .lookup
  | call _ _ => .call
  | record _ => .record
  | known _ => .known
  | append _ _ => .append
  | arrived _ _ => .arrived

/-- The entries that some effects write to the ledger, in order. -/
def entriesOf (effects : List Effect) : List LedgerEntry :=
  effects.filterMap fun
    | .record entry => some entry
    | _ => none

/-- The callbacks of an exchange that some effects store, in order. -/
def callbacksOf (e : Exchange) (effects : List Effect) : List (Callback e) :=
  effects.filterMap fun
    | .append e' callback => if h : e' = e then some (h ▸ callback) else none
    | _ => none

section

variable {effects : List Effect}

theorem entriesOf_append (early late : List Effect) :
    entriesOf (early ++ late) = entriesOf early ++ entriesOf late := List.filterMap_append

theorem callbacksOf_append (e : Exchange) (early late : List Effect) :
    callbacksOf e (early ++ late) = callbacksOf e early ++ callbacksOf e late :=
  List.filterMap_append

theorem mem_entriesOf {entry : LedgerEntry} :
    entry ∈ entriesOf effects ↔ .record entry ∈ effects := by
  rw [entriesOf, List.mem_filterMap]
  constructor
  · rintro ⟨effect, he, heq⟩
    cases effect with
    | record x =>
      cases heq
      exact he
    | _ => cases heq
  · intro he
    exact ⟨_, he, rfl⟩

theorem mem_callbacksOf {e : Exchange} {c : Callback e} :
    c ∈ callbacksOf e effects ↔ .append e c ∈ effects := by
  rw [callbacksOf, List.mem_filterMap]
  constructor
  · rintro ⟨effect, he, heq⟩
    cases effect with
    | append e' c' =>
      simp only at heq
      split at heq
      · rename_i hee
        subst hee
        cases heq
        exact he
      · cases heq
    | _ => cases heq
  · intro he
    exact ⟨_, he, by simp⟩

theorem entriesOf_eq_nil (h : ∀ effect ∈ effects, effect.kind ≠ .record) :
    entriesOf effects = [] := by
  rw [List.eq_nil_iff_forall_not_mem]
  intro entry he
  exact h _ (mem_entriesOf.1 he) rfl

theorem callbacksOf_eq_nil {e : Exchange} (h : ∀ effect ∈ effects, effect.kind ≠ .append) :
    callbacksOf e effects = [] := by
  rw [List.eq_nil_iff_forall_not_mem]
  intro c he
  exact h _ (mem_callbacksOf.1 he) rfl

theorem callsOf_eq_nil (h : ∀ effect ∈ effects, effect.kind ≠ .call) :
    Session.callsOf effects = [] := by
  rw [Session.callsOf, List.filterMap_eq_nil_iff]
  intro effect he
  cases effect with
  | call base request => exact absurd rfl (h _ he)
  | _ => rfl

end

/-! ### Writes of an effect -/

namespace Effect

variable (world : World)

/-- The ledger behind an effect is the one before it with the entry that the
effect writes, if any. -/
theorem apply_ledger (effect : Effect) (s : Stores) :
    (effect.apply world s).2.ledger = s.ledger.recordAll (entriesOf [effect]) := by
  cases effect <;> rfl

/-- The callbacks behind an effect are those before it with the one that the
effect stores, if any. -/
theorem apply_callbacks (effect : Effect) (s : Stores) (e : Exchange) :
    (effect.apply world s).2.callbacks e =
      (s.callbacks e).appendAll (callbacksOf e [effect]) := by
  cases effect with
  | append e' callback =>
    -- The stores are told apart by their exchange, so the cast in `setCallbacks` goes only here.
    by_cases he : e' = e
    · subst he
      have hc : callbacksOf e' [.append e' callback] = [callback] := by simp [callbacksOf]
      rw [hc]
      exact Stores.setCallbacks_self ..
    · have hc : callbacksOf e [.append e' callback] = [] := by simp [callbacksOf, he]
      rw [hc]
      exact Stores.setCallbacks_of_ne _ (Ne.symm he) _
  | lookup request => rfl
  | call base request => rfl
  | record entry => rfl
  | known messageId => rfl
  | arrived e' messageId => rfl

end Effect

namespace Plan

variable {α β : Type} (world : World)

@[simp] theorem run_pure (a : α) (s : Stores) : (pure a : Plan α).run world s = ⟨a, [], s⟩ := rfl

theorem run_use (effect : Effect) (resume : effect.Answer → Plan α) (s : Stores) :
    (Plan.use effect resume).run world s =
      let rest := (resume (effect.apply world s).1).run world (effect.apply world s).2
      { rest with effects := effect :: rest.effects } := rfl

theorem run_bind (plan : Plan α) (f : α → Plan β) (s : Stores) :
    (plan >>= f).run world s =
      let first := plan.run world s
      let rest := (f first.result).run world first.stores
      ⟨rest.result, first.effects ++ rest.effects, rest.stores⟩ := by
  induction plan generalizing s with
  | done a => rfl
  | use effect resume ih =>
    have h := ih (effect.apply world s).1 (effect.apply world s).2
    exact congrArg (fun o : Outcome β => { o with effects := effect :: o.effects }) h

/-- A plan whose result is only put into another form. -/
theorem run_bind_of_pure (plan : Plan α) {f : α → Plan β} {g : α → β} (h : ∀ a, f a = pure (g a))
    (s : Stores) :
    (plan >>= f).run world s =
      let o := plan.run world s
      ⟨g o.result, o.effects, o.stores⟩ := by
  rw [run_bind]
  simp [h]

/-- The ledger behind a run is the one before it with the entries of its effects. -/
theorem run_ledger (plan : Plan α) (s : Stores) :
    (plan.run world s).stores.ledger =
      s.ledger.recordAll (entriesOf (plan.run world s).effects) := by
  induction plan generalizing s with
  | done a => rfl
  | use effect resume ih =>
    have hrest := ih (effect.apply world s).1 (effect.apply world s).2
    rw [Effect.apply_ledger, ← Ledger.recordAll_append, ← entriesOf_append] at hrest
    exact hrest

/-- The callbacks behind a run are those before it with the callbacks of its effects. -/
theorem run_callbacks (plan : Plan α) (s : Stores) (e : Exchange) :
    (plan.run world s).stores.callbacks e =
      (s.callbacks e).appendAll (callbacksOf e (plan.run world s).effects) := by
  induction plan generalizing s with
  | done a => rfl
  | use effect resume ih =>
    have hrest := ih (effect.apply world s).1 (effect.apply world s).2
    rw [Effect.apply_callbacks, ← CallbackStore.appendAll_append, ← callbacksOf_append] at hrest
    exact hrest

end Plan

/-! ### Attempts -/

namespace Attempt

variable {ε δ α β : Type} (world : World)

theorem require_ok_bind (cause : δ → ε) (a : α) (f : α → Attempt ε β) :
    (require cause (.ok a) >>= f) = f a := rfl

theorem require_error_bind (cause : δ → ε) (d : δ) (f : α → Attempt ε β) :
    (require cause (.error d) >>= f) = throw (cause d) := rfl

theorem run_perform_bind (effect : Effect) (f : effect.Answer → Attempt ε α) (s : Stores) :
    (perform effect >>= f).run.run world s =
      let rest := (f (effect.apply world s).1).run.run world (effect.apply world s).2
      { rest with effects := effect :: rest.effects } := rfl

theorem run_lift_bind (plan : Plan α) (f : α → Attempt ε β) (s : Stores) :
    (ExceptT.lift plan >>= f).run.run world s =
      let first := plan.run world s
      let rest := (f first.result).run.run world first.stores
      ⟨rest.result, first.effects ++ rest.effects, rest.stores⟩ := by
  rw [ExceptT.run_bind_lift, Plan.run_bind]

/-- An attempt whose result is only put into another form. -/
theorem run_bind_pure (attempt : Attempt ε α) (f : α → β) (s : Stores) :
    (attempt >>= fun a => pure (f a)).run.run world s =
      let o := attempt.run.run world s
      ⟨o.result.map f, o.effects, o.stores⟩ := by
  rw [ExceptT.run_bind]
  refine Plan.run_bind_of_pure world attempt.run (fun r => ?_) s
  cases r <;> rfl

end Attempt

/-! ### Storage that is not offline -/

/-- The ledger and all stores of callbacks are in order. -/
structure Stores.Online (s : Stores) : Prop where
  ledger : s.ledger.offline = false
  callbacks : ∀ e, (s.callbacks e).offline = false

theorem Stores.online_empty : Stores.empty.Online := ⟨rfl, fun _ => rfl⟩

namespace Plan

variable {α : Type} (world : World)

/-- No plan takes the storage offline. -/
theorem run_online (plan : Plan α) {s : Stores} (h : s.Online) :
    (plan.run world s).stores.Online := by
  constructor
  · rw [run_ledger, Ledger.offline_recordAll]
    exact h.ledger
  · intro e
    rw [run_callbacks, CallbackStore.appendAll_of_online (h.callbacks e)]
    exact h.callbacks e

/-- The callbacks of a run's effects stand behind those that were stored before. -/
theorem run_records (plan : Plan α) {s : Stores} (h : s.Online) (e : Exchange) :
    ((plan.run world s).stores.callbacks e).records =
      (s.callbacks e).records ++ callbacksOf e (plan.run world s).effects := by
  rw [run_callbacks, CallbackStore.appendAll_of_online (h.callbacks e)]

/-- What the ledger holds of an id behind a run: what it held before, or the first entry written. -/
theorem held?_run (plan : Plan α) {s : Stores} (h : s.Online) (m : String) :
    (plan.run world s).stores.ledger.held? m =
      (s.ledger.held? m).or
        ((entriesOf (plan.run world s).effects).find? (·.messageId == m)) := by
  rw [run_ledger, Ledger.held?_recordAll h.ledger]

theorem recordsOf_run (plan : Plan α) {s : Stores} (h : s.Online) (e : Exchange) (m : String) :
    ((plan.run world s).stores.callbacks e).recordsOf m =
      (s.callbacks e).recordsOf m ++
        (callbacksOf e (plan.run world s).effects).filter (·.messageId == m) := by
  rw [run_callbacks, CallbackStore.recordsOf_appendAll (h.callbacks e)]

end Plan

end BuyerGateway.Gateway

import BuyerGateway.CallbackStore
import BuyerGateway.Gateway.Plan
/-!
What the gateway remembers, and the run of a plan from its first effect to its end.
-/
namespace BuyerGateway.Gateway

/-- The ledger and one store of callbacks for each exchange. -/
structure Stores where
  ledger : Ledger
  callbacks : (e : Exchange) → CallbackStore e

/-- The network as a plan meets it: how the registry and the counterparties answer. -/
structure World where
  registry : Lookup → Found
  network : String → Request → Reply

namespace Stores

def empty : Stores := ⟨.empty, fun _ => .empty⟩

instance : Inhabited Stores := ⟨empty⟩

def setCallbacks (s : Stores) (e : Exchange) (store : CallbackStore e) : Stores :=
  { s with callbacks := fun e' => if h : e' = e then h ▸ store else s.callbacks e' }

@[simp] theorem setCallbacks_self (s : Stores) (e : Exchange) (store : CallbackStore e) :
    (s.setCallbacks e store).callbacks e = store := by simp [setCallbacks]

theorem setCallbacks_of_ne (s : Stores) {e e' : Exchange} (h : e' ≠ e) (store : CallbackStore e) :
    (s.setCallbacks e store).callbacks e' = s.callbacks e' := by simp [setCallbacks, h]

@[simp] theorem setCallbacks_ledger (s : Stores) (e : Exchange) (store : CallbackStore e) :
    (s.setCallbacks e store).ledger = s.ledger := rfl

end Stores

/-- One effect: its answer and what is remembered behind it. -/
def Effect.apply (world : World) : (effect : Effect) → Stores → effect.Answer × Stores
  | .lookup request, s => (world.registry request, s)
  | .call base request, s => (world.network base request, s)
  | .record entry, s =>
    let (answer, ledger) := s.ledger.record entry
    (answer, { s with ledger })
  | .known messageId, s => (s.ledger.contains messageId, s)
  | .append e callback, s =>
    let (answer, store) := (s.callbacks e).append callback
    (answer, s.setCallbacks e store)
  | .arrived e messageId, s => ((s.callbacks e).find messageId, s)

/-- The end of a run: the result, the effects in their order, and what is remembered. -/
structure Outcome (α : Type) where
  result : α
  effects : List Effect
  stores : Stores

/-- Runs a plan alone, from its first effect to its end. -/
def Plan.run {α : Type} (world : World) : Plan α → Stores → Outcome α
  | .done a, s => ⟨a, [], s⟩
  | .use effect resume, s =>
    let (answer, s') := effect.apply world s
    let rest := run world (resume answer) s'
    { rest with effects := effect :: rest.effects }

end BuyerGateway.Gateway

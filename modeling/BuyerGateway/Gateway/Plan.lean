import BuyerGateway.Callback
import BuyerGateway.Ledger
import BuyerGateway.Registry.Basic
import BuyerGateway.Reply
import BuyerGateway.Request
/-!
Plans of work that uses what lies outside of it. A plan stops at every effect and goes on with its
answer, so the same plan can be run to its end at once or one effect at a time between others.
-/
namespace BuyerGateway.Gateway

inductive Effect where
  /-- Asks the registry. -/
  | lookup (request : Lookup)
  /-- Posts a request to the counterparty at a base. -/
  | call (base : String) (request : Request)
  /-- Writes to the ledger. -/
  | record (entry : LedgerEntry)
  /-- Asks whether the ledger holds a message id. -/
  | known (messageId : String)
  /-- Stores a callback. -/
  | append (exchange : Exchange) (callback : Callback exchange)
  /-- Reads the callbacks of a message id. -/
  | arrived (exchange : Exchange) (messageId : String)

namespace Effect

abbrev Answer : Effect → Type
  | lookup _ => Found
  | call _ _ => Reply
  | record _ => Except BackendFailure LedgerEntry
  | known _ => Except BackendFailure Bool
  | append _ _ => Except BackendFailure Unit
  | arrived e _ => Except BackendFailure (List (Callback e))

end Effect

inductive Plan (α : Type) : Type where
  | done (a : α)
  | use (effect : Effect) (resume : effect.Answer → Plan α)

namespace Plan

def bind {α β : Type} : Plan α → (α → Plan β) → Plan β
  | done a, f => f a
  | use effect resume, f => use effect fun answer => bind (resume answer) f

instance : Monad Plan where
  pure := done
  bind := bind

def perform (effect : Effect) : Plan effect.Answer := use effect done

theorem bind_assoc {α β γ : Type} (t : Plan α) (f : α → Plan β) (g : β → Plan γ) :
    bind (bind t f) g = bind t fun a => bind (f a) g := by
  induction t with
  | done a => rfl
  | use effect resume ih => exact congrArg (use effect) (funext ih)

theorem bind_done {α : Type} (t : Plan α) : bind t done = t := by
  induction t with
  | done a => rfl
  | use effect resume ih => exact congrArg (use effect) (funext ih)

instance : LawfulMonad Plan :=
  LawfulMonad.mk' _ bind_done (fun _ _ => rfl) bind_assoc

end Plan

/-- A plan that may fail for a cause of its own. -/
abbrev Attempt (ε α : Type) : Type := ExceptT ε Plan α

namespace Attempt

def perform {ε : Type} (effect : Effect) : Attempt ε effect.Answer :=
  ExceptT.lift (Plan.perform effect)

/-- Goes on with a result, or fails for its cause seen from here. -/
def require {ε δ α : Type} (cause : δ → ε) : Except δ α → Attempt ε α
  | .ok a => pure a
  | .error d => throw (cause d)

end Attempt

end BuyerGateway.Gateway

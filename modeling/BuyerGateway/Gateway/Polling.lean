import BuyerGateway.Gateway.Plan
import BuyerGateway.PollAnswer
/-!
Polls and the reception of callbacks. Only a message id that the ledger holds has an answer; the
store of callbacks is not even read for any other.
-/
namespace BuyerGateway.Gateway

def poll (defaults : ContextDefaults) (minted : Minted) (e : Exchange) (messageId : String) :
    Attempt PollFailure (PollAnswer e) := do
  let known ← Attempt.perform (.known messageId)
  if ← Attempt.require (fun _ => .storage .onRead) known then
    let arrived ← Attempt.perform (.arrived e messageId)
    let callbacks ← Attempt.require (fun _ => .storage .onRead) arrived
    return .ofCallbacks defaults minted e messageId callbacks
  else
    throw (.notFound messageId)

def receive (e : Exchange) (callback : Callback e) : Attempt StorageFailure Unit := do
  let stored ← Attempt.perform (.append e callback)
  Attempt.require (fun _ => .onWrite) stored

end BuyerGateway.Gateway

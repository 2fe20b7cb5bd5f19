import BuyerGateway.Callback
/-!
Stores of callbacks, one for each exchange. A store only grows, keeps repetitions, and gives the
records of a message id in the order of their arrival. While it is offline, appending and finding
fail and change nothing.
-/
namespace BuyerGateway

structure CallbackStore (e : Exchange) where
  records : List (Callback e)
  offline : Bool
  deriving DecidableEq

namespace CallbackStore

variable {e : Exchange}

def empty : CallbackStore e := ⟨[], false⟩

instance : Inhabited (CallbackStore e) := ⟨empty⟩

def offlineFailure : BackendFailure := ⟨"Callback store offline"⟩

/-- The records of a message id, whether or not the store is offline. -/
def recordsOf (s : CallbackStore e) (messageId : String) : List (Callback e) :=
  s.records.filter (·.messageId == messageId)

def append (s : CallbackStore e) (c : Callback e) : Except BackendFailure Unit × CallbackStore e :=
  if s.offline then (.error offlineFailure, s)
  else (.ok (), { s with records := s.records ++ [c] })

def find (s : CallbackStore e) (messageId : String) : Except BackendFailure (List (Callback e)) :=
  if s.offline then .error offlineFailure else .ok (s.recordsOf messageId)

/-- Clearing works offline too. -/
def clear (s : CallbackStore e) : CallbackStore e := { s with records := [] }

def toggleOffline (s : CallbackStore e) : CallbackStore e := { s with offline := !s.offline }

end CallbackStore

end BuyerGateway

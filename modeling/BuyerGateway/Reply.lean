/-!
What comes back from an outbound call, before anyone reads it.
-/
namespace BuyerGateway

inductive Reply where
  | answer (status : Nat) (body : List UInt8)
  /-- The server could not be reached, or the connection broke. -/
  | unreachable (detail : String)
  | timeout
  deriving DecidableEq, Repr

/-- What stands at the addresses of the network: the reply to a body that is posted to one. -/
abbrev Server : Type := String → List UInt8 → Reply

/-- The statuses that stand for success. -/
def isSuccess (status : Nat) : Bool := 200 ≤ status && status < 300

end BuyerGateway

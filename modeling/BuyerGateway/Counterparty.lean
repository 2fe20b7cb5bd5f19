import BuyerGateway.Reply
import BuyerGateway.Request
import BuyerGateway.Shape.Text
/-!
Calls to counterparties: where a request is posted, and what its reply amounts to.
-/
namespace BuyerGateway.Counterparty

/-- The action's name behind the base, with one slash between them where the base has none. -/
def endpoint (base : String) (action : Action) : String :=
  (if base.toList.getLast? = some '/' then base else base ++ "/") ++ action.name

/-- Posts a request to the counterparty at a base. -/
def post (server : Server) (base : String) (r : Request) : Reply :=
  server (endpoint base r.action) ((Envelope.shape r.exchange.questionShape).toBytes r.envelope)

/-- An answer with the acknowledgement in its body, if the body is one. -/
structure Response where
  status : Nat
  body : Option Acknowledgement
  deriving DecidableEq

def Response.ofReply : Reply → Except TransportFailure Response
  | .answer status body =>
    .ok ⟨status, Acknowledgement.shape.ofBytes? body⟩
  | .unreachable detail => .error (.failed detail)
  | .timeout => .error .timeout

/-- A status beyond success counts before a missing body, and a missing body before a refusal. -/
def Response.classify (r : Response) : Except CounterpartyFailure Acknowledgement :=
  if isSuccess r.status then
    match r.body with
    | none => .error .nullResponse
    | some ack => if ack.status = .nack then .error .nack else .ok ack
  else
    .error .internal

/-- Whether a reply acknowledges the request. -/
def acknowledged (reply : Reply) : Except CounterpartyFailure Acknowledgement :=
  match Response.ofReply reply with
  | .ok response => response.classify
  | .error _ => .error .internal

end BuyerGateway.Counterparty

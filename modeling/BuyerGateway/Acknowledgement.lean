import BuyerGateway.Context
import BuyerGateway.Failure
/-!
Acknowledgements: the immediate answer to a message, both the one a counterparty sends and the one
that clients and counterparties get from the gateway.
-/
namespace BuyerGateway

inductive AckStatus where
  | ack
  | nack
  deriving DecidableEq, Repr

namespace AckStatus

def name : AckStatus → String
  | ack => "ACK"
  | nack => "NACK"

def shape : Shape AckStatus := .choice name [ack, nack] fun s => by cases s <;> rfl

/-- The status inside the message of an acknowledgement. -/
def messageShape : Shape AckStatus := .wrapped "ack" (.wrapped "status" shape)

end AckStatus

def ProtocolError.shape : Shape ProtocolError :=
  .plain (.required "code" .text <| .required "message" .text .done)
    (fun e => (e.code, e.message, ()))
    (fun (code, message, _) => ⟨code, message⟩)

structure Acknowledgement where
  context : Option Context
  status : AckStatus
  error : Option ProtocolError
  deriving DecidableEq

namespace Acknowledgement

def shape : Shape Acknowledgement :=
  .plain
    (.optional "context" Context.shape <| .required "message" AckStatus.messageShape <|
      .optional "error" ProtocolError.shape .done)
    (fun a => (a.context, a.status, a.error, ()))
    (fun (context, status, error, _) => ⟨context, status, error⟩)

def accept (context : Context) : Acknowledgement := ⟨some context, .ack, none⟩

def refuse (context : Context) (error : ProtocolError) : Acknowledgement :=
  ⟨some context, .nack, some error⟩

end Acknowledgement

end BuyerGateway

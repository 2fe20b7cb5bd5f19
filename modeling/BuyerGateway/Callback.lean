import BuyerGateway.Acknowledgement
import BuyerGateway.Order
/-!
Callbacks: the answers that counterparties post for an exchange some time after its request.
-/
namespace BuyerGateway

structure SearchAnswer where
  catalog : Catalog := {}
  deriving DecidableEq

def SearchAnswer.shape : Shape SearchAnswer :=
  .plain (.filled "catalog" Catalog.shape {} .done) (fun a => (a.catalog, ()))
    (fun (catalog, _) => ⟨catalog⟩)

structure SelectAnswer where
  selected : Order := {}
  deriving DecidableEq

def SelectAnswer.shape : Shape SelectAnswer :=
  .plain (.filled "selected" Order.shape {} .done) (fun a => (a.selected, ()))
    (fun (selected, _) => ⟨selected⟩)

structure InitAnswer where
  initialized : Order := {}
  deriving DecidableEq

def InitAnswer.shape : Shape InitAnswer :=
  .plain (.filled "initialized" Order.shape {} .done) (fun a => (a.initialized, ()))
    (fun (initialized, _) => ⟨initialized⟩)

structure ConfirmAnswer where
  order : Order := {}
  deriving DecidableEq

def ConfirmAnswer.shape : Shape ConfirmAnswer :=
  .plain (.filled "order" Order.shape {} .done) (fun a => (a.order, ())) (fun (order, _) => ⟨order⟩)

structure TrackAnswer where
  tracking : Tracking := {}
  deriving DecidableEq

def TrackAnswer.shape : Shape TrackAnswer :=
  .plain (.filled "tracking" Tracking.shape {} .done) (fun a => (a.tracking, ()))
    (fun (tracking, _) => ⟨tracking⟩)

structure SupportAnswer where
  phone : Option String := none
  email : Option String := none
  uri : Option String := none
  deriving DecidableEq

def SupportAnswer.shape : Shape SupportAnswer :=
  .plain (.optional "phone" .text <| .optional "email" .text <| .optional "uri" .text .done)
    (fun a => (a.phone, a.email, a.uri, ()))
    (fun (phone, email, uri, _) => ⟨phone, email, uri⟩)

namespace Exchange

/-- The message that answers an exchange. -/
abbrev Answer : Exchange → Type
  | search => SearchAnswer
  | select => SelectAnswer
  | init => InitAnswer
  | confirm => ConfirmAnswer
  | track => TrackAnswer
  | support => SupportAnswer

def answerShape : (e : Exchange) → Shape e.Answer
  | search => SearchAnswer.shape
  | select => SelectAnswer.shape
  | init => InitAnswer.shape
  | confirm => ConfirmAnswer.shape
  | track => TrackAnswer.shape
  | support => SupportAnswer.shape

instance : (e : Exchange) → DecidableEq e.Answer
  | search => inferInstanceAs (DecidableEq SearchAnswer)
  | select => inferInstanceAs (DecidableEq SelectAnswer)
  | init => inferInstanceAs (DecidableEq InitAnswer)
  | confirm => inferInstanceAs (DecidableEq ConfirmAnswer)
  | track => inferInstanceAs (DecidableEq TrackAnswer)
  | support => inferInstanceAs (DecidableEq SupportAnswer)

end Exchange

/-- One callback as a counterparty posted it. -/
structure Callback (e : Exchange) where
  context : Context
  message : Option e.Answer
  error : Option ProtocolError
  deriving DecidableEq

namespace Callback

def shape (e : Exchange) : Shape (Callback e) :=
  .plain
    (.required "context" Context.shape <| .optional "message" e.answerShape <|
      .optional "error" ProtocolError.shape .done)
    (fun c => (c.context, c.message, c.error, ()))
    (fun (context, message, error, _) => ⟨context, message, error⟩)

def messageId {e : Exchange} (c : Callback e) : String := c.context.messageId

end Callback

end BuyerGateway

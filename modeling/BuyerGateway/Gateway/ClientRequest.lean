import BuyerGateway.Request
import BuyerGateway.Shape.Text
/-!
The bodies that clients submit: a context, which may be left out, and the message of the exchange.
-/
namespace BuyerGateway.Gateway

/-- What a client may say about the context of its submission. -/
structure ClientContext where
  transactionId : Option String := none
  bppId : Option String := none
  deriving DecidableEq

def ClientContext.shape : Shape ClientContext :=
  .plain (.optional "transaction_id" .text <| .optional "bpp_id" .text .done)
    (fun c => (c.transactionId, c.bppId, ()))
    (fun (transactionId, bppId, _) => ⟨transactionId, bppId⟩)

structure SupportQuestion where
  refId : String
  bppId : Option String
  deriving DecidableEq

def SupportQuestion.shape : Shape SupportQuestion :=
  .plain (.required "ref_id" .text <| .optional "bpp_id" .text .done)
    (fun q => (q.refId, q.bppId, ()))
    (fun (refId, bppId, _) => ⟨refId, bppId⟩)

structure ClientRequest where
  context : ClientContext
  payload : Payload
  /-- The counterparty that is asked for help. -/
  helper : Option String
  deriving DecidableEq

namespace ClientRequest

/-- Reads a context and a message, and makes a request of them. -/
def read? {M : Type} (message : Shape M) (make : ClientContext → M → ClientRequest)
    (body : List UInt8) : Option ClientRequest :=
  let shape : Shape (ClientContext × M) :=
    .plain (.filled "context" ClientContext.shape {} <| .required "message" message .done)
      (fun r => (r.1, r.2, ()))
      (fun (context, message, _) => (context, message))
  (shape.ofBytes? body).map fun r => make r.1 r.2

/-- Help is asked of the counterparty that the message names, else of the one in the context; a
blank in the message counts as a name here. -/
def ofBody? : Exchange → List UInt8 → Option ClientRequest
  | .search => read? (.wrapped "criteria" SearchCriteria.shape) fun c criteria =>
    ⟨c, .search criteria, none⟩
  | .select => read? (.wrapped "cart" Cart.shape) fun c cart => ⟨c, .select cart.items, none⟩
  | .init => read? (.wrapped "order" ClientOrder.shape) fun c order => ⟨c, .init order, none⟩
  | .confirm => read? (.wrapped "order" ClientOrder.shape) fun c order =>
    ⟨c, .confirm order, none⟩
  | .track => read? TrackMessage.shape fun c m => ⟨c, .track m.orderId m.callbackUrl, none⟩
  | .support => read? SupportQuestion.shape fun c q => ⟨c, .support q.refId, q.bppId.or c.bppId⟩

end ClientRequest

end BuyerGateway.Gateway

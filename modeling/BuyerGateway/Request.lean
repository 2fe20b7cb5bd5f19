import BuyerGateway.Acknowledgement
import BuyerGateway.Cart
import BuyerGateway.Double.Shortest
/-!
Requests to counterparties. A payload is what a client wants done; it is mapped to the message of
its exchange, and travels in an envelope with the context.
-/
namespace BuyerGateway

structure Envelope (M : Type) where
  context : Context
  message : M
  deriving DecidableEq

def Envelope.shape {M : Type} (m : Shape M) : Shape (Envelope M) :=
  .plain (.required "context" Context.shape <| .required "message" m .done)
    (fun e => (e.context, e.message, ()))
    (fun (context, message, _) => ⟨context, message⟩)

/-! ### Messages -/

structure IntentProvider where
  id : String := ""
  deriving DecidableEq

def IntentProvider.shape : Shape IntentProvider :=
  .plain (.filled "id" .text "" .done) (fun p => (p.id, ())) (fun (id, _) => ⟨id⟩)

/-- What a buyer is looking for. -/
structure Intent where
  queryString : Option String := none
  provider : Option IntentProvider := none
  fulfillment : Option Fulfillment := none
  deriving DecidableEq

def Intent.shape : Shape Intent :=
  .plain
    (.optional "query_string" .text <| .optional "provider" IntentProvider.shape <|
      .optional "fulfillment" Fulfillment.shape .done)
    (fun i => (i.queryString, i.provider, i.fulfillment, ()))
    (fun (queryString, provider, fulfillment, _) => ⟨queryString, provider, fulfillment⟩)

structure SearchMessage where
  intent : Intent
  deriving DecidableEq

def SearchMessage.shape : Shape SearchMessage :=
  .plain (.required "intent" Intent.shape .done) (fun m => (m.intent, ()))
    (fun (intent, _) => ⟨intent⟩)

structure SelectedOrder where
  provider : SelectedProvider
  items : List SelectedItem
  deriving DecidableEq

def SelectedOrder.shape : Shape SelectedOrder :=
  .plain
    (.required "provider" SelectedProvider.shape <|
      .required "items" (.list SelectedItem.shape) .done)
    (fun o => (o.provider, o.items, ()))
    (fun (provider, items, _) => ⟨provider, items⟩)

structure SelectMessage where
  selected : SelectedOrder
  deriving DecidableEq

def SelectMessage.shape : Shape SelectMessage :=
  .plain (.required "selected" SelectedOrder.shape .done) (fun m => (m.selected, ()))
    (fun (selected, _) => ⟨selected⟩)

structure OrderMessage where
  order : Order
  deriving DecidableEq

def OrderMessage.shape : Shape OrderMessage :=
  .plain (.required "order" Order.shape .done) (fun m => (m.order, ())) (fun (order, _) => ⟨order⟩)

structure TrackMessage where
  orderId : String
  callbackUrl : Option String
  deriving DecidableEq

def TrackMessage.shape : Shape TrackMessage :=
  .plain (.required "order_id" .text <| .optional "callback_url" .text .done)
    (fun m => (m.orderId, m.callbackUrl, ()))
    (fun (orderId, callbackUrl, _) => ⟨orderId, callbackUrl⟩)

structure SupportMessage where
  refId : String
  deriving DecidableEq

def SupportMessage.shape : Shape SupportMessage :=
  .plain (.required "ref_id" .text .done) (fun m => (m.refId, ())) (fun (refId, _) => ⟨refId⟩)

namespace Exchange

/-- The message that opens an exchange. -/
abbrev Question : Exchange → Type
  | search => SearchMessage
  | select => SelectMessage
  | init => OrderMessage
  | confirm => OrderMessage
  | track => TrackMessage
  | support => SupportMessage

def questionShape : (e : Exchange) → Shape e.Question
  | search => SearchMessage.shape
  | select => SelectMessage.shape
  | init => OrderMessage.shape
  | confirm => OrderMessage.shape
  | track => TrackMessage.shape
  | support => SupportMessage.shape

instance : (e : Exchange) → DecidableEq e.Question
  | search => inferInstanceAs (DecidableEq SearchMessage)
  | select => inferInstanceAs (DecidableEq SelectMessage)
  | init => inferInstanceAs (DecidableEq OrderMessage)
  | confirm => inferInstanceAs (DecidableEq OrderMessage)
  | track => inferInstanceAs (DecidableEq TrackMessage)
  | support => inferInstanceAs (DecidableEq SupportMessage)

end Exchange

/-- A request ready to be sent. -/
structure Request where
  exchange : Exchange
  envelope : Envelope exchange.Question
  deriving DecidableEq

namespace Request

def action (r : Request) : Action := .request r.exchange

def context (r : Request) : Context := r.envelope.context

/-- The envelope alone is written; its context names the action. -/
def toJson (r : Request) : Json := (Envelope.shape r.exchange.questionShape).encode r.envelope

end Request

/-! ### From payloads to messages -/

inductive Payload where
  | search (criteria : SearchCriteria)
  | select (items : List CartItem)
  | init (order : ClientOrder)
  | confirm (order : ClientOrder)
  | track (orderId : String) (callbackUrl : Option String)
  | support (refId : String)
  deriving DecidableEq

def Payload.exchange : Payload → Exchange
  | search _ => .search
  | select _ => .select
  | init _ => .init
  | confirm _ => .confirm
  | track _ _ => .track
  | support _ => .support

def Payload.action (p : Payload) : Action := .request p.exchange

/-- Amounts are positional at any size, a whole amount has no point, and of two equally near
decimals the greater is taken. -/
def amountLayout : DecimalLayout := ⟨.up, fun _ => true, false⟩

/-- A place of delivery that is blank counts as absent. -/
def SearchCriteria.intent (c : SearchCriteria) : Intent where
  queryString := c.searchString
  provider := c.providerId.map fun id => { id }
  fulfillment := (c.deliveryLocation.bind Text.nonBlank?).map fun gps =>
    { destination := some { location := some { gps := some gps } } }

def SelectedItem.ofCart (i : CartItem) : SelectedItem where
  id := some i.id
  quantity := some i.quantity

/-- The provider is that of the first item, with all its locations. -/
def SelectedOrder.ofItems? : List CartItem → Except BuildFailure SelectedOrder
  | [] => .error .noItems
  | first :: rest => .ok {
      provider := {
        id := some first.provider.id
        locations := first.provider.locations.map fun id => { id := some id } }
      items := (first :: rest).map .ofCart }

namespace ClientOrder

/-- The order as it is proposed to a counterparty, for delivery at home from the first location of
the first item's provider. -/
def initialized (o : ClientOrder) : Except BuildFailure Order :=
  match o.items with
  | [] => .error .noItems
  | first :: _ =>
    match first.provider.locations with
    | [] => .error (.missingProviderLocation first.provider.id)
    | location :: _ => .ok {
        provider := some {
          id := some first.provider.id
          locations := [{ id := some location }] }
        items := o.items.map .ofCart
        billing := some o.billingInfo
        fulfillment := some {
          fulfillmentType := some "home_delivery"
          destination := some {
            location := some o.deliveryInfo.location
            contact := some { phone := o.deliveryInfo.phone, email := o.deliveryInfo.email } }
          customer := some { person := some { name := some o.deliveryInfo.name } } } }

/-- The order with the amount that has been paid. A missing
payment is reported before anything else. -/
def confirmed (o : ClientOrder) : Except BuildFailure Order :=
  match o.payment with
  | none => .error .missingPayment
  | some payment => do
    let order ← o.initialized
    return { order with
      payment := some {
        params := .singleton "amount" (amountLayout.render payment.paidAmount)
        status := some .paid } }

end ClientOrder

namespace Payload

/-- The message that opens the payload's exchange. -/
def question : (p : Payload) → Except BuildFailure p.exchange.Question
  | search criteria => .ok ⟨criteria.intent⟩
  | select items => (SelectedOrder.ofItems? items).map fun selected => ⟨selected⟩
  | init order => order.initialized.map fun order => ⟨order⟩
  | confirm order => order.confirmed.map fun order => ⟨order⟩
  | track orderId callbackUrl => .ok ⟨orderId, callbackUrl⟩
  | support refId => .ok ⟨refId⟩

/-- The request under this context, which must name the payload's own action. -/
def request (p : Payload) (context : Context) : Except BuildFailure Request :=
  if context.action = p.action then
    p.question.map fun message => ⟨p.exchange, ⟨context, message⟩⟩
  else
    .error (.actionMismatch p.action context.action)

end Payload

end BuyerGateway

import BuyerGateway.Catalog
/-!
Orders and what belongs to them: quantities, fulfillment, billing, payment and quotes, as they stand
in messages between the gateway and its counterparties.
-/
namespace BuyerGateway

structure Measure where
  unit : String := ""
  value : Double := .zero
  deriving DecidableEq

def Measure.shape : Shape Measure :=
  .plain (.filled "unit" .text "" <| .filled "value" .real .zero .done)
    (fun m => (m.unit, m.value, ()))
    (fun (unit, value, _) => ⟨unit, value⟩)

structure Quantity where
  count : UInt32 := 0
  measure : Option Measure := none
  deriving DecidableEq

def Quantity.shape : Shape Quantity :=
  .plain (.filled "count" .count 0 <| .optional "measure" Measure.shape .done)
    (fun q => (q.count, q.measure, ()))
    (fun (count, measure, _) => ⟨count, measure⟩)

structure SelectedItem where
  id : Option String := none
  quantity : Option Quantity := none
  deriving DecidableEq

def SelectedItem.shape : Shape SelectedItem :=
  .plain (.optional "id" .text <| .optional "quantity" Quantity.shape .done)
    (fun i => (i.id, i.quantity, ()))
    (fun (id, quantity, _) => ⟨id, quantity⟩)

structure SelectedProvider where
  id : Option String := none
  locations : List Location := []
  deriving DecidableEq

def SelectedProvider.shape : Shape SelectedProvider :=
  .plain (.optional "id" .text <| .several "locations" Location.shape .done)
    (fun p => (p.id, p.locations, ()))
    (fun (id, locations, _) => ⟨id, locations⟩)

structure Contact where
  phone : Option String := none
  email : Option String := none
  deriving DecidableEq

def Contact.shape : Shape Contact :=
  .plain (.optional "phone" .text <| .optional "email" .text .done)
    (fun c => (c.phone, c.email, ()))
    (fun (phone, email, _) => ⟨phone, email⟩)

structure Person where
  name : Option String := none
  deriving DecidableEq

def Person.shape : Shape Person :=
  .plain (.optional "name" .text .done) (fun p => (p.name, ())) (fun (name, _) => ⟨name⟩)

structure Customer where
  person : Option Person := none
  deriving DecidableEq

def Customer.shape : Shape Customer :=
  .plain (.optional "person" Person.shape .done) (fun c => (c.person, ()))
    (fun (person, _) => ⟨person⟩)

/-- Where a fulfillment ends: the place of delivery and whom to call there. -/
structure FulfillmentEnd where
  location : Option Location := none
  contact : Option Contact := none
  deriving DecidableEq

def FulfillmentEnd.shape : Shape FulfillmentEnd :=
  .plain (.optional "location" Location.shape <| .optional "contact" Contact.shape .done)
    (fun e => (e.location, e.contact, ()))
    (fun (location, contact, _) => ⟨location, contact⟩)

structure Fulfillment where
  id : Option String := none
  fulfillmentType : Option String := none
  tracking : Option Bool := none
  destination : Option FulfillmentEnd := none
  customer : Option Customer := none
  deriving DecidableEq

def Fulfillment.shape : Shape Fulfillment :=
  .plain
    (.optional "id" .text <| .optional "type" .text <| .optional "tracking" .flag <|
      .optional "end" FulfillmentEnd.shape <| .optional "customer" Customer.shape .done)
    (fun f => (f.id, f.fulfillmentType, f.tracking, f.destination, f.customer, ()))
    (fun (id, fulfillmentType, tracking, destination, customer, _) =>
      ⟨id, fulfillmentType, tracking, destination, customer⟩)

structure Billing where
  name : String := ""
  phone : Option String := none
  email : Option String := none
  address : Option Address := none
  deriving DecidableEq

def Billing.shape : Shape Billing :=
  .plain
    (.filled "name" .text "" <| .optional "phone" .text <| .optional "email" .text <|
      .optional "address" Address.shape .done)
    (fun b => (b.name, b.phone, b.email, b.address, ()))
    (fun (name, phone, email, address, _) => ⟨name, phone, email, address⟩)

inductive PaymentStatus where
  | paid
  | notPaid
  deriving DecidableEq, Repr

namespace PaymentStatus

def name : PaymentStatus → String
  | paid => "PAID"
  | notPaid => "NOT-PAID"

def shape : Shape PaymentStatus := .choice name [paid, notPaid] fun s => by cases s <;> rfl

end PaymentStatus

structure Payment where
  params : Dictionary := .empty
  paymentType : Option String := none
  status : Option PaymentStatus := none
  deriving DecidableEq

def Payment.shape : Shape Payment :=
  .plain
    (.defaulted "params" .dictionary .empty (fun d => !d.isEmpty) Dictionary.eq_empty <|
      .optional "type" .text <| .optional "status" PaymentStatus.shape .done)
    (fun p => (p.params, p.paymentType, p.status, ()))
    (fun (params, paymentType, status, _) => ⟨params, paymentType, status⟩)

structure QuoteBreakup where
  title : Option String := none
  price : Option Price := none
  deriving DecidableEq

def QuoteBreakup.shape : Shape QuoteBreakup :=
  .plain (.optional "title" .text <| .optional "price" Price.shape .done)
    (fun b => (b.title, b.price, ()))
    (fun (title, price, _) => ⟨title, price⟩)

structure Quote where
  price : Option Price := none
  breakup : List QuoteBreakup := []
  deriving DecidableEq

def Quote.shape : Shape Quote :=
  .plain (.optional "price" Price.shape <| .several "breakup" QuoteBreakup.shape .done)
    (fun q => (q.price, q.breakup, ()))
    (fun (price, breakup, _) => ⟨price, breakup⟩)

structure AddOn where
  id : String := ""
  deriving DecidableEq

def AddOn.shape : Shape AddOn :=
  .plain (.filled "id" .text "" .done) (fun a => (a.id, ())) (fun (id, _) => ⟨id⟩)

structure Offer where
  id : String := ""
  deriving DecidableEq

def Offer.shape : Shape Offer :=
  .plain (.filled "id" .text "" .done) (fun o => (o.id, ())) (fun (id, _) => ⟨id⟩)

structure Order where
  id : Option String := none
  state : Option String := none
  provider : Option SelectedProvider := none
  items : List SelectedItem := []
  addOns : List AddOn := []
  offers : List Offer := []
  billing : Option Billing := none
  fulfillment : Option Fulfillment := none
  quote : Option Quote := none
  payment : Option Payment := none
  deriving DecidableEq

def Order.shape : Shape Order :=
  .plain
    (.optional "id" .text <| .optional "state" .text <|
      .optional "provider" SelectedProvider.shape <|
      .filled "items" (.list SelectedItem.shape) [] <|
      .filled "add_ons" (.list AddOn.shape) [] <| .filled "offers" (.list Offer.shape) [] <|
      .optional "billing" Billing.shape <| .optional "fulfillment" Fulfillment.shape <|
      .optional "quote" Quote.shape <| .optional "payment" Payment.shape .done)
    (fun o => (o.id, o.state, o.provider, o.items, o.addOns, o.offers, o.billing, o.fulfillment,
      o.quote, o.payment, ()))
    (fun (id, state, provider, items, addOns, offers, billing, fulfillment, quote, payment, _) =>
      ⟨id, state, provider, items, addOns, offers, billing, fulfillment, quote, payment⟩)

structure Tracking where
  url : Option String := none
  status : Option String := none
  deriving DecidableEq

def Tracking.shape : Shape Tracking :=
  .plain (.optional "url" .text <| .optional "status" .text .done)
    (fun t => (t.url, t.status, ()))
    (fun (url, status, _) => ⟨url, status⟩)

end BuyerGateway

import BuyerGateway.Failure
import BuyerGateway.Order
/-!
What clients submit: search criteria, carts and orders. One submission may only address one provider
of one counterparty.
-/
namespace BuyerGateway

structure CartProvider where
  id : String
  locations : List String
  deriving DecidableEq

def CartProvider.shape : Shape CartProvider :=
  .plain (.required "id" .text <| .filled "locations" (.list .text) [] .done)
    (fun p => (p.id, p.locations, ()))
    (fun (id, locations, _) => ⟨id, locations⟩)

structure CartItem where
  id : String
  bppId : String
  provider : CartProvider
  quantity : Quantity
  deriving DecidableEq

def CartItem.shape : Shape CartItem :=
  .plain
    (.required "id" .text <| .required "bpp_id" .text <|
      .required "provider" CartProvider.shape <| .required "quantity" Quantity.shape .done)
    (fun i => (i.id, i.bppId, i.provider, i.quantity, ()))
    (fun (id, bppId, provider, quantity, _) => ⟨id, bppId, provider, quantity⟩)

structure Cart where
  items : List CartItem
  deriving DecidableEq

def Cart.shape : Shape Cart :=
  .plain (.filled "items" (.list CartItem.shape) [] .done) (fun c => (c.items, ()))
    (fun (items, _) => ⟨items⟩)

structure DeliveryInfo where
  name : String := ""
  phone : Option String := none
  email : Option String := none
  location : Location := {}
  deriving DecidableEq

def DeliveryInfo.shape : Shape DeliveryInfo :=
  .plain
    (.filled "name" .text "" <| .optional "phone" .text <| .optional "email" .text <|
      .filled "location" Location.shape {} .done)
    (fun d => (d.name, d.phone, d.email, d.location, ()))
    (fun (name, phone, email, location, _) => ⟨name, phone, email, location⟩)

structure OrderPayment where
  paidAmount : Double
  deriving DecidableEq

def OrderPayment.shape : Shape OrderPayment :=
  .plain (.required "paid_amount" .real .done) (fun p => (p.paidAmount, ()))
    (fun (paidAmount, _) => ⟨paidAmount⟩)

structure ClientOrder where
  items : List CartItem := []
  billingInfo : Billing := {}
  deliveryInfo : DeliveryInfo := {}
  payment : Option OrderPayment := none
  deriving DecidableEq

def ClientOrder.shape : Shape ClientOrder :=
  .plain
    (.filled "items" (.list CartItem.shape) [] <| .filled "billing_info" Billing.shape {} <|
      .filled "delivery_info" DeliveryInfo.shape {} <|
      .optional "payment" OrderPayment.shape .done)
    (fun o => (o.items, o.billingInfo, o.deliveryInfo, o.payment, ()))
    (fun (items, billingInfo, deliveryInfo, payment, _) =>
      ⟨items, billingInfo, deliveryInfo, payment⟩)

structure SearchCriteria where
  searchString : Option String := none
  providerId : Option String := none
  /-- Latitude and longitude of the place of delivery. -/
  deliveryLocation : Option String := none
  bppId : Option String := none
  deriving DecidableEq

def SearchCriteria.shape : Shape SearchCriteria :=
  .plain
    (.optional "search_string" .text <| .optional "provider_id" .text <|
      .optional "delivery_location" .text <| .optional "bpp_id" .text .done)
    (fun c => (c.searchString, c.providerId, c.deliveryLocation, c.bppId, ()))
    (fun (searchString, providerId, deliveryLocation, bppId, _) =>
      ⟨searchString, providerId, deliveryLocation, bppId⟩)

/-- Whom a list of items addresses. -/
inductive Selection where
  | empty
  | single (bppId providerId : String)
  deriving DecidableEq, Repr

namespace Selection

/-- Different providers are reported before different counterparties. -/
def ofItems : List CartItem → Except ValidationFailure Selection
  | [] => .ok empty
  | first :: rest =>
    if rest.any (·.provider.id != first.provider.id) then .error .multipleProviders
    else if rest.any (·.bppId != first.bppId) then .error .multipleBpps
    else .ok (single first.bppId first.provider.id)

end Selection

end BuyerGateway

import BuyerGateway.Shape.Basic
/-!
Catalogs: what counterparties offer. All fields may be absent, so that a payload with only some of
them is still read.
-/
namespace BuyerGateway

structure Descriptor where
  name : Option String := none
  code : Option String := none
  shortDesc : Option String := none
  longDesc : Option String := none
  images : List String := []
  deriving DecidableEq

def Descriptor.shape : Shape Descriptor :=
  .plain
    (.optional "name" .text <| .optional "code" .text <| .optional "short_desc" .text <|
      .optional "long_desc" .text <| .several "images" .text .done)
    (fun d => (d.name, d.code, d.shortDesc, d.longDesc, d.images, ()))
    (fun (name, code, shortDesc, longDesc, images, _) => ⟨name, code, shortDesc, longDesc, images⟩)

structure Price where
  currency : Option String := none
  value : Option String := none
  deriving DecidableEq

def Price.shape : Shape Price :=
  .plain (.optional "currency" .text <| .optional "value" .text .done)
    (fun p => (p.currency, p.value, ()))
    (fun (currency, value, _) => ⟨currency, value⟩)

structure Address where
  door : Option String := none
  building : Option String := none
  street : Option String := none
  city : Option String := none
  state : Option String := none
  country : Option String := none
  areaCode : Option String := none
  deriving DecidableEq

def Address.shape : Shape Address :=
  .plain
    (.optional "door" .text <| .optional "building" .text <| .optional "street" .text <|
      .optional "city" .text <| .optional "state" .text <| .optional "country" .text <|
      .optional "area_code" .text .done)
    (fun a => (a.door, a.building, a.street, a.city, a.state, a.country, a.areaCode, ()))
    (fun (door, building, street, city, state, country, areaCode, _) =>
      ⟨door, building, street, city, state, country, areaCode⟩)

structure Location where
  id : Option String := none
  gps : Option String := none
  address : Option Address := none
  deriving DecidableEq

def Location.shape : Shape Location :=
  .plain
    (.optional "id" .text <| .optional "gps" .text <| .optional "address" Address.shape .done)
    (fun l => (l.id, l.gps, l.address, ()))
    (fun (id, gps, address, _) => ⟨id, gps, address⟩)

structure Item where
  id : Option String := none
  parentItemId : Option String := none
  descriptor : Option Descriptor := none
  price : Option Price := none
  categoryId : Option String := none
  locationId : Option String := none
  matched : Option Bool := none
  deriving DecidableEq

def Item.shape : Shape Item :=
  .plain
    (.optional "id" .text <| .optional "parent_item_id" .text <|
      .optional "descriptor" Descriptor.shape <| .optional "price" Price.shape <|
      .optional "category_id" .text <| .optional "location_id" .text <|
      .optional "matched" .flag .done)
    (fun i => (i.id, i.parentItemId, i.descriptor, i.price, i.categoryId, i.locationId, i.matched,
      ()))
    (fun (id, parentItemId, descriptor, price, categoryId, locationId, matched, _) =>
      ⟨id, parentItemId, descriptor, price, categoryId, locationId, matched⟩)

structure Category where
  id : Option String := none
  descriptor : Option Descriptor := none
  deriving DecidableEq

def Category.shape : Shape Category :=
  .plain (.optional "id" .text <| .optional "descriptor" Descriptor.shape .done)
    (fun c => (c.id, c.descriptor, ()))
    (fun (id, descriptor, _) => ⟨id, descriptor⟩)

structure Provider where
  id : Option String := none
  descriptor : Option Descriptor := none
  categories : List Category := []
  locations : List Location := []
  items : List Item := []
  deriving DecidableEq

def Provider.shape : Shape Provider :=
  .plain
    (.optional "id" .text <| .optional "descriptor" Descriptor.shape <|
      .several "categories" Category.shape <| .several "locations" Location.shape <|
      .several "items" Item.shape .done)
    (fun p => (p.id, p.descriptor, p.categories, p.locations, p.items, ()))
    (fun (id, descriptor, categories, locations, items, _) =>
      ⟨id, descriptor, categories, locations, items⟩)

structure Catalog where
  bppDescriptor : Option Descriptor := none
  bppCategories : List Category := []
  bppProviders : List Provider := []
  exp : Option String := none
  deriving DecidableEq

namespace Catalog

abbrev Parts : Type := Option Descriptor × List Category × List Provider × Option String × Unit

def fields : Fields Parts :=
  .optional "bpp/descriptor" Descriptor.shape <| .several "bpp/categories" Category.shape <|
    .several "bpp/providers" Provider.shape <| .optional "exp" .text .done

def parts (c : Catalog) : Parts := (c.bppDescriptor, c.bppCategories, c.bppProviders, c.exp, ())

def ofParts : Parts → Catalog
  | (bppDescriptor, bppCategories, bppProviders, exp, _) =>
    ⟨bppDescriptor, bppCategories, bppProviders, exp⟩

def shape : Shape Catalog := .plain fields parts ofParts

end Catalog

/-- A catalog with the counterparty it came from, written into one object. -/
structure ClientCatalog where
  bppId : Option String
  bppUri : Option String
  catalog : Catalog
  deriving DecidableEq

def ClientCatalog.shape : Shape ClientCatalog :=
  .merged
    (.optional "bpp_id" .text <| .optional "bpp_uri" .text Catalog.fields)
    (fun c => (c.bppId, c.bppUri, c.catalog.parts))
    (fun (bppId, bppUri, catalog) => ⟨bppId, bppUri, .ofParts catalog⟩)

end BuyerGateway

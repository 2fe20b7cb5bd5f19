import BuyerGateway.Proofs.Addressing
import BuyerGateway.Proofs.Amounts
import Mathlib.Data.List.Perm.Basic
import Mathlib.Data.Option.Basic
import Mathlib.Data.Prod.Basic
/-!
Carts and the orders that are made of them. What a cart selects is a matter of which items are in
it: any two of them count, wherever they stand. The three messages that order something carry the
same items of the same provider, and an order says all that the client said of billing and delivery.
-/
namespace BuyerGateway

/-! ### What a cart selects -/

namespace Selection

/-- Neither the order of the items nor how often each of them is listed makes a difference. -/
theorem ofItems_congr {items items' : List CartItem} (h : ∀ i, i ∈ items' ↔ i ∈ items) :
    ofItems items' = ofItems items := by
  cases hr : ofItems items with
  | error cause =>
    rcases cause_of_ofItems hr with rfl | rfl
    · obtain ⟨i, hi, j, hj, hne⟩ := ofItems_eq_multipleProviders_iff.1 hr
      exact ofItems_eq_multipleProviders_iff.2 ⟨i, (h i).2 hi, j, (h j).2 hj, hne⟩
    · obtain ⟨hsame, i, hi, j, hj, hne⟩ := ofItems_eq_multipleBpps_iff.1 hr
      apply ofItems_eq_multipleBpps_iff.2
      refine ⟨?_, i, (h i).2 hi, j, (h j).2 hj, hne⟩
      intro k hk l hl
      exact hsame k ((h k).1 hk) l ((h l).1 hl)
  | ok selection =>
    cases selection with
    | empty =>
      have hnil : items = [] := ofItems_eq_empty_iff.1 hr
      apply ofItems_eq_empty_iff.2
      apply List.eq_nil_iff_forall_not_mem.2
      intro i hi
      rw [h i, hnil] at hi
      exact List.not_mem_nil hi
    | single bppId providerId =>
      obtain ⟨hne, hall⟩ := ofItems_eq_single_iff.1 hr
      apply ofItems_eq_single_iff.2
      refine ⟨?_, fun i hi => hall i ((h i).1 hi)⟩
      obtain ⟨first, hfirst⟩ := List.exists_mem_of_ne_nil items hne
      exact List.ne_nil_of_mem ((h first).2 hfirst)

/-- A cart selects nothing when it is empty, and one provider of one counterparty when all its items
are of these. So carts with the same items select the same, in whatever order and however often the
items are listed. -/
theorem selection_compares_all_items (items : List CartItem) :
    (ofItems items = .ok .empty ↔ items = []) ∧
    (∀ bppId providerId, ofItems items = .ok (.single bppId providerId) ↔
      items ≠ [] ∧ ∀ i ∈ items, i.bppId = bppId ∧ i.provider.id = providerId) ∧
    (ofItems items = .error .multipleProviders ↔
      ∃ i ∈ items, ∃ j ∈ items, i.provider.id ≠ j.provider.id) ∧
    (ofItems items = .error .multipleBpps ↔
      (∀ i ∈ items, ∀ j ∈ items, i.provider.id = j.provider.id) ∧
        ∃ i ∈ items, ∃ j ∈ items, i.bppId ≠ j.bppId) ∧
    (∀ items', items'.Perm items → ofItems items' = ofItems items) ∧
    ∀ items', (∀ i, i ∈ items' ↔ i ∈ items) → ofItems items' = ofItems items := by
  refine ⟨ofItems_eq_empty_iff, fun _ _ => ofItems_eq_single_iff, ofItems_eq_multipleProviders_iff,
    ofItems_eq_multipleBpps_iff, ?_, fun _ h => ofItems_congr h⟩
  intro items' hperm
  exact ofItems_congr fun i => hperm.mem_iff

/-- The odd item at the end is found, and found as well when it comes first and the others once. -/
theorem odd_item_is_found :
    let item := fun id provider : String => (⟨id, "b", ⟨provider, []⟩, ⟨1, none⟩⟩ : CartItem)
    let cart := [item "i" "p", item "i" "p", item "j" "q"]
    ofItems cart = .error .multipleProviders ∧
      ofItems [item "j" "q", item "i" "p"] = .error .multipleProviders := by
  intro item cart
  obtain ⟨-, -, hproviders, -, -, hsame⟩ := selection_compares_all_items cart
  have hcart : ofItems cart = .error .multipleProviders :=
    hproviders.2 ⟨item "i" "p", by decide, item "j" "q", by decide, by decide⟩
  refine ⟨hcart, (hsame _ ?_).trans hcart⟩
  intro i
  simp only [cart, List.mem_cons, List.not_mem_nil, or_false]
  tauto

end Selection

/-! ### What an order carries -/

theorem map_eq_error_iff {ε α β : Type} {x : Except ε α} {f : α → β} {cause : ε} :
    x.map f = .error cause ↔ x = .error cause := by
  cases x <;> simp [Except.map]

/-- The delivery that an order asks for, if the order says all of it. -/
def Order.delivery? (built : Order) : Option DeliveryInfo := do
  let fulfillment ← built.fulfillment
  let destination ← fulfillment.destination
  let location ← destination.location
  let contact ← destination.contact
  let customer ← fulfillment.customer
  let person ← customer.person
  let name ← person.name
  return ⟨name, contact.phone, contact.email, location⟩

/-- An order carries a client's order: each of its items in its place, the provider of the first of
them at the first of this provider's locations, and what is to be billed and delivered. -/
structure Order.Carries (built : Order) (o : ClientOrder) : Prop where
  items : built.items.map (fun i => (i.id, i.quantity)) =
    o.items.map fun i => (some i.id, some i.quantity)
  provider : ∃ first rest location others, o.items = first :: rest ∧
    first.provider.locations = location :: others ∧
    built.provider = some { id := some first.provider.id, locations := [{ id := some location }] }
  billing : built.billing = some o.billingInfo
  delivery : built.delivery? = some o.deliveryInfo

theorem SelectedItem.map_ofCart (items : List CartItem) :
    (items.map ofCart).map (fun i => (i.id, i.quantity)) =
      items.map fun i => (some i.id, some i.quantity) := by
  rw [List.map_map]
  rfl

/-- A selected item is no more than an id and a quantity. -/
theorem Order.Carries.items_eq {built : Order} {o : ClientOrder} (h : built.Carries o) :
    built.items = o.items.map .ofCart := by
  have hinj : Function.Injective fun i : SelectedItem => (i.id, i.quantity) := by
    intro i j hij
    cases i
    cases j
    cases hij
    rfl
  apply hinj.list_map
  exact h.items.trans (SelectedItem.map_ofCart o.items).symm

namespace ClientOrder

/-- Two orders of clients that ask for the same: the same items from the same place, billed
and delivered alike. -/
structure Alike (o o' : ClientOrder) : Prop where
  items : o.items.map (fun i => (i.id, i.quantity)) = o'.items.map fun i => (i.id, i.quantity)
  provider : o.items.head?.map (fun i => (i.provider.id, i.provider.locations.head?)) =
    o'.items.head?.map fun i => (i.provider.id, i.provider.locations.head?)
  billing : o.billingInfo = o'.billingInfo
  delivery : o.deliveryInfo = o'.deliveryInfo

/-- How a client's order fares, by what it lacks. -/
inductive Initialized (o : ClientOrder) : Except BuildFailure Order → Prop
  | empty (h : o.items = []) : Initialized o (.error .noItems)
  | nowhere {first : CartItem} {rest : List CartItem} (hi : o.items = first :: rest)
      (hl : first.provider.locations = []) :
      Initialized o (.error (.missingProviderLocation first.provider.id))
  | built {built : Order} (h : built.Carries o) (hp : built.payment = none) :
      Initialized o (.ok built)

theorem initialized_spec (o : ClientOrder) : Initialized o o.initialized := by
  rw [initialized]
  cases hi : o.items with
  | nil => exact .empty hi
  | cons first rest =>
    simp only
    cases hl : first.provider.locations with
    | nil => exact .nowhere hi hl
    | cons location others =>
      refine .built ⟨?_, ⟨first, rest, location, others, hi, hl, rfl⟩, rfl, rfl⟩ rfl
      rw [hi]
      exact SelectedItem.map_ofCart (first :: rest)

section

variable {o o' : ClientOrder}

theorem initialized_eq_noItems_iff : o.initialized = .error .noItems ↔ o.items = [] := by
  constructor
  · intro h
    have hspec := o.initialized_spec
    rw [h] at hspec
    cases hspec with
    | empty hi => exact hi
  · intro hi
    simp only [initialized, hi]

theorem initialized_eq_missingProviderLocation_iff {provider : String} :
    o.initialized = .error (.missingProviderLocation provider) ↔
      ∃ first rest, o.items = first :: rest ∧ first.provider.locations = [] ∧
        provider = first.provider.id := by
  constructor
  · intro h
    have hspec := o.initialized_spec
    rw [h] at hspec
    cases hspec with
    | nowhere hi hl => exact ⟨_, _, hi, hl, rfl⟩
  · rintro ⟨first, rest, hi, hl, rfl⟩
    simp only [initialized, hi, hl]

theorem exists_initialized_iff :
    (∃ built, o.initialized = .ok built) ↔
      ∃ first rest, o.items = first :: rest ∧ first.provider.locations ≠ [] := by
  constructor
  · rintro ⟨built, h⟩
    have hspec := o.initialized_spec
    rw [h] at hspec
    cases hspec with
    | built hcarries _ =>
      obtain ⟨first, rest, location, others, hi, hl, -⟩ := hcarries.provider
      refine ⟨first, rest, hi, ?_⟩
      rw [hl]
      exact List.cons_ne_nil _ _
  · rintro ⟨first, rest, hi, hne⟩
    obtain ⟨location, others, hl⟩ := List.exists_cons_of_ne_nil hne
    simp only [initialized, hi, hl]
    exact ⟨_, rfl⟩

theorem carries_of_initialized {built : Order} (h : o.initialized = .ok built) :
    built.Carries o ∧ built.payment = none := by
  have hspec := o.initialized_spec
  rw [h] at hspec
  cases hspec with
  | built hcarries hp => exact ⟨hcarries, hp⟩

theorem missing_of_initialized {failure : BuildFailure} (h : o.initialized = .error failure)
    (hne : o.items ≠ []) :
    ∃ first rest, o.items = first :: rest ∧ first.provider.locations = [] ∧
      failure = .missingProviderLocation first.provider.id := by
  have hspec := o.initialized_spec
  rw [h] at hspec
  cases hspec with
  | empty hi => exact absurd hi hne
  | nowhere hi hl => exact ⟨_, _, hi, hl, rfl⟩

/-- All that an order carries can be told from it. -/
theorem alike_of_carries {built : Order} (h : built.Carries o) (h' : built.Carries o') :
    o.Alike o' := by
  have hsome (items : List CartItem) :
      items.map (fun i => (some i.id, some i.quantity)) =
        (items.map fun i => (i.id, i.quantity)).map (Prod.map some some) := by
    rw [List.map_map]
    rfl
  have hinj : Function.Injective (Prod.map some some : String × Quantity → _) :=
    Function.Injective.prodMap (Option.some_injective _) (Option.some_injective _)
  refine ⟨?_, ?_, ?_, ?_⟩
  · apply hinj.list_map
    rw [← hsome, ← hsome]
    exact h.items.symm.trans h'.items
  · obtain ⟨first, rest, location, others, hi, hl, hp⟩ := h.provider
    obtain ⟨first', rest', location', others', hi', hl', hp'⟩ := h'.provider
    have hsame := hp.symm.trans hp'
    simp only [Option.some.injEq, SelectedProvider.mk.injEq, List.cons.injEq, Location.mk.injEq,
      and_true] at hsame
    simp only [hi, hi', List.head?_cons, Option.map_some, hl, hl', hsame]
  · exact Option.some.inj (h.billing.symm.trans h'.billing)
  · exact Option.some.inj (h.delivery.symm.trans h'.delivery)

/-- Orders of clients that ask for the same are built alike, or fail alike. -/
theorem initialized_congr (h : o.Alike o') : o'.initialized = o.initialized := by
  have hpairs (items : List CartItem) :
      items.map SelectedItem.ofCart =
        (items.map fun i => (i.id, i.quantity)).map fun p => ⟨some p.1, some p.2⟩ := by
    rw [List.map_map]
    rfl
  have hitems : o'.items.map SelectedItem.ofCart = o.items.map SelectedItem.ofCart := by
    rw [hpairs, hpairs, h.items]
  have hprovider := h.provider
  simp only [initialized, ← h.billing, ← h.delivery, hitems]
  -- Both have a first item or none, and it is of the same provider with the same first location.
  cases hi : o.items with
  | nil =>
    have hnil : o'.items = [] := by simpa [hi] using hprovider
    rw [hnil]
  | cons first rest =>
    cases hi' : o'.items with
    | nil => simp [hi, hi'] at hprovider
    | cons first' rest' =>
      simp only [hi, hi', List.head?_cons, Option.map_some, Option.some.injEq, Prod.mk.injEq]
        at hprovider
      obtain ⟨hid, hlocation⟩ := hprovider
      cases hl : first.provider.locations with
      | nil =>
        rw [hl] at hlocation
        have hl' : first'.provider.locations = [] := List.head?_eq_none_iff.1 hlocation.symm
        simp only [hl, hl', hid]
      | cons location others =>
        rw [hl] at hlocation
        obtain ⟨others', hl'⟩ := List.head?_eq_some_iff.1 hlocation.symm
        simp only [hl, hl', hid]

/-- The payment is asked for first, and is all that a confirmed order has of its own. -/
theorem confirmed_eq (o : ClientOrder) :
    o.confirmed = match o.payment with
      | none => .error .missingPayment
      | some paid => o.initialized.map fun built => { built with
          payment := some {
            params := .singleton "amount" (amountLayout.render paid.paidAmount)
            status := some .paid } } := by
  rw [confirmed]
  cases o.payment with
  | none => rfl
  | some paid => cases o.initialized <;> rfl

theorem confirmed_eq_missingPayment_iff :
    o.confirmed = .error .missingPayment ↔ o.payment = none := by
  rw [confirmed_eq]
  constructor
  · intro h
    cases hp : o.payment with
    | none => rfl
    | some paid =>
      -- An order that is only proposed fails for its items alone.
      have hspec := o.initialized_spec
      cases hinit : o.initialized with
      | ok built => simp [hp, hinit, Except.map] at h
      | error failure =>
        simp only [hp, hinit, Except.map, Except.error.injEq] at h
        rw [hinit, h] at hspec
        cases hspec
  · intro hp
    rw [hp]

theorem confirmed_eq_error_iff {paid : OrderPayment} (h : o.payment = some paid)
    {failure : BuildFailure} : o.confirmed = .error failure ↔ o.initialized = .error failure := by
  rw [confirmed_eq, h]
  exact map_eq_error_iff

theorem confirmed_eq_ok_iff {paid : OrderPayment} (h : o.payment = some paid) {order : Order} :
    o.confirmed = .ok order ↔ ∃ built params, o.initialized = .ok built ∧
      params.entries = [("amount", amountLayout.render paid.paidAmount)] ∧
      order = { built with payment := some { params, status := some .paid } } := by
  rw [confirmed_eq, h]
  cases hinit : o.initialized with
  | error failure => simp [Except.map]
  | ok built =>
    simp only [Except.map, Except.ok.injEq]
    constructor
    · rintro rfl
      exact ⟨built, _, rfl, rfl, rfl⟩
    · rintro ⟨_, params, rfl, hparams, rfl⟩
      have hsingle : params = .singleton "amount" (amountLayout.render paid.paidAmount) := by
        obtain ⟨entries, sorted⟩ := params
        cases hparams
        rfl
      rw [hsingle]

end

end ClientOrder

namespace SelectedOrder

theorem exists_failure_iff {items : List CartItem} :
    (∃ failure, ofItems? items = .error failure) ↔ items = [] := by
  cases items with
  | nil => exact ⟨fun _ => rfl, fun _ => ⟨_, rfl⟩⟩
  | cons first rest => exact ⟨nofun, nofun⟩

/-- What is selected are all items, of the first one's provider with all its locations. -/
theorem exists_first_of_ofItems? {items : List CartItem} {selected : SelectedOrder}
    (h : ofItems? items = .ok selected) :
    ∃ first rest, items = first :: rest ∧ selected.items = items.map .ofCart ∧
      selected.provider.id = some first.provider.id ∧
      selected.provider.locations.map (·.id) = first.provider.locations.map some := by
  cases items with
  | nil => cases h
  | cons first rest =>
    cases h
    refine ⟨first, rest, rfl, rfl, rfl, ?_⟩
    rw [List.map_map]
    rfl

end SelectedOrder

/-- An order is proposed if it has an item, and the provider of the first a location, and then says
all that its client said. It is confirmed as it is proposed, with a payment besides, whose amount is
written out in full; and a selection has the same items of the same provider. -/
theorem orders_carry_alike (o : ClientOrder) :
    (o.initialized = .error .noItems ↔ o.items = []) ∧
    (∀ provider, o.initialized = .error (.missingProviderLocation provider) ↔
      ∃ first rest, o.items = first :: rest ∧ first.provider.locations = [] ∧
        provider = first.provider.id) ∧
    ((∃ built, o.initialized = .ok built) ↔
      ∃ first rest, o.items = first :: rest ∧ first.provider.locations ≠ []) ∧
    (∀ built, o.initialized = .ok built → built.Carries o ∧
      ∀ o', o'.initialized = .ok built ↔ o.Alike o') ∧
    (o.confirmed = .error .missingPayment ↔ o.payment = none) ∧
    (∀ paid, o.payment = some paid →
      (∀ failure, o.confirmed = .error failure ↔ o.initialized = .error failure) ∧
      (∃ whole fraction,
        paid.paidAmount.WrittenOut (amountLayout.render paid.paidAmount) whole fraction) ∧
      ∀ order, o.confirmed = .ok order ↔ ∃ built params, o.initialized = .ok built ∧
        params.entries = [("amount", amountLayout.render paid.paidAmount)] ∧
        order = { built with payment := some { params, status := some .paid } }) ∧
    ((∃ failure, SelectedOrder.ofItems? o.items = .error failure) ↔ o.items = []) ∧
    ∀ selected, SelectedOrder.ofItems? o.items = .ok selected →
      ∃ first rest, o.items = first :: rest ∧
        selected.items.map (fun i => (i.id, i.quantity)) =
          o.items.map (fun i => (some i.id, some i.quantity)) ∧
        selected.provider.id = some first.provider.id ∧
        selected.provider.locations.map (·.id) = first.provider.locations.map some ∧
        ∀ built, o.initialized = .ok built →
          built.items = selected.items ∧ built.provider.bind (·.id) = selected.provider.id := by
  refine ⟨ClientOrder.initialized_eq_noItems_iff,
    fun _ => ClientOrder.initialized_eq_missingProviderLocation_iff,
    ClientOrder.exists_initialized_iff, ?_, ClientOrder.confirmed_eq_missingPayment_iff, ?_,
    SelectedOrder.exists_failure_iff, ?_⟩
  · intro built h
    have hcarries : built.Carries o := (ClientOrder.carries_of_initialized h).1
    refine ⟨hcarries, fun o' => ⟨fun h' => ?_, fun halike => ?_⟩⟩
    · exact ClientOrder.alike_of_carries hcarries (ClientOrder.carries_of_initialized h').1
    · exact (ClientOrder.initialized_congr halike).trans h
  · intro paid hp
    exact ⟨fun _ => ClientOrder.confirmed_eq_error_iff hp,
      exists_amountLayout_render paid.paidAmount, fun _ => ClientOrder.confirmed_eq_ok_iff hp⟩
  · intro selected h
    obtain ⟨first, rest, hi, hitems, hid, hlocations⟩ := SelectedOrder.exists_first_of_ofItems? h
    refine ⟨first, rest, hi, ?_, hid, hlocations, ?_⟩
    · rw [hitems]
      exact SelectedItem.map_ofCart o.items
    · intro built hbuilt
      have hcarries : built.Carries o := (ClientOrder.carries_of_initialized hbuilt).1
      obtain ⟨first', rest', location, others, hi', -, hprovider⟩ := hcarries.provider
      have hfirst : first' = first := (List.cons.inj (hi'.symm.trans hi)).1
      refine ⟨hcarries.items_eq.trans hitems.symm, ?_⟩
      rw [hprovider, hid, hfirst]
      rfl

/-- Two items of a provider with two locations, for one unit of money and a half. -/
def ClientOrder.sample : ClientOrder where
  items := [⟨"i", "b", ⟨"p", ["l", "k"]⟩, ⟨1, none⟩⟩, ⟨"j", "b", ⟨"p", []⟩, ⟨2, none⟩⟩]
  billingInfo := { name := "n" }
  deliveryInfo := { name := "n", phone := some "1", location := { gps := some "1,2" } }
  payment := some ⟨⟨false, 3 * Nat.pow 2 51, 1022, by decide⟩⟩

/-- The order is proposed with both items and its delivery, and confirmed with
the amount besides. -/
theorem sample_order_is_carried :
    ∃ built order params, ClientOrder.sample.initialized = .ok built ∧ built.items.length = 2 ∧
      built.delivery? = some ClientOrder.sample.deliveryInfo ∧
      ClientOrder.sample.confirmed = .ok order ∧ params.entries = [("amount", "1.5")] ∧
      order = { built with payment := some { params, status := some .paid } } := by
  obtain ⟨-, -, hbuilds, hcarries, -, hconfirmed, -, -⟩ := orders_carry_alike ClientOrder.sample
  obtain ⟨built, hbuilt⟩ := hbuilds.2 ⟨_, _, rfl, List.cons_ne_nil _ _⟩
  have h : built.Carries ClientOrder.sample := (hcarries built hbuilt).1
  have hlength : built.items.length = 2 := by
    rw [h.items_eq, List.length_map]
    rfl
  have hamount : (Dictionary.singleton "amount" "1.5").entries = [("amount", amountLayout.render
      ⟨false, 3 * Nat.pow 2 51, 1022, by decide⟩)] := by
    decide +kernel
  obtain ⟨-, -, hconfirmed⟩ := hconfirmed _ rfl
  have horder := (hconfirmed _).2 ⟨built, _, hbuilt, hamount, rfl⟩
  exact ⟨built, _, _, hbuilt, hlength, h.delivery, horder, rfl, rfl⟩

end BuyerGateway

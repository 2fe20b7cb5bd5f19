import BuyerGateway.Gateway.Submission
import Mathlib.Tactic.Push
import Mathlib.Tactic.SplitIfs
/-!
Whom a submission is for, told from what the client sent alone. A cart is refused for two providers
anywhere in it, then for two counterparties; a track and a request for support need a counterparty
that is not blank; everything else is for nobody or leads to one lookup.
-/
namespace BuyerGateway

/-! ### Carts -/

namespace Selection

variable {items : List CartItem}

theorem ofItems_cons (first : CartItem) (rest : List CartItem) :
    ofItems (first :: rest) =
      if rest.any (·.provider.id != first.provider.id) then .error .multipleProviders
      else if rest.any (·.bppId != first.bppId) then .error .multipleBpps
      else .ok (single first.bppId first.provider.id) := rfl

/-- Comparing every item with the first one finds any two that differ. -/
theorem any_ne_first_iff {β : Type} [DecidableEq β] (f : CartItem → β) (first : CartItem)
    (rest : List CartItem) :
    rest.any (fun i => f i != f first) = true ↔
      ∃ i ∈ first :: rest, ∃ j ∈ first :: rest, f i ≠ f j := by
  rw [List.any_eq_true]
  constructor
  · rintro ⟨i, hi, hne⟩
    exact ⟨i, List.mem_cons_of_mem _ hi, first, List.mem_cons_self, by simpa using hne⟩
  · rintro ⟨i, hi, j, hj, hne⟩
    -- One of the two differs from the first item, and is not the first item itself.
    have differs : ∀ k ∈ first :: rest, f k ≠ f first → ∃ x ∈ rest, (f x != f first) = true := by
      intro k hk hkf
      rcases List.mem_cons.1 hk with rfl | hk
      · exact absurd rfl hkf
      · exact ⟨k, hk, by simpa using hkf⟩
    by_cases hif : f i = f first
    · exact differs j hj fun hjf => hne (hif.trans hjf.symm)
    · exact differs i hi hif

theorem ofItems_eq_empty_iff : ofItems items = .ok .empty ↔ items = [] := by
  cases items with
  | nil => exact ⟨fun _ => rfl, fun _ => rfl⟩
  | cons first rest =>
    rw [ofItems_cons]
    split_ifs <;> simp

theorem ofItems_eq_multipleProviders_iff :
    ofItems items = .error .multipleProviders ↔
      ∃ i ∈ items, ∃ j ∈ items, i.provider.id ≠ j.provider.id := by
  cases items with
  | nil => simp [ofItems]
  | cons first rest =>
    rw [ofItems_cons, ← any_ne_first_iff (·.provider.id)]
    split_ifs with hp hb <;> simp_all

theorem ofItems_eq_multipleBpps_iff :
    ofItems items = .error .multipleBpps ↔
      (∀ i ∈ items, ∀ j ∈ items, i.provider.id = j.provider.id) ∧
        ∃ i ∈ items, ∃ j ∈ items, i.bppId ≠ j.bppId := by
  cases items with
  | nil => simp [ofItems]
  | cons first rest =>
    have hp := any_ne_first_iff (·.provider.id) first rest
    have hb := any_ne_first_iff (·.bppId) first rest
    have hsame : (∀ i ∈ first :: rest, ∀ j ∈ first :: rest, i.provider.id = j.provider.id) ↔
        ¬ rest.any (·.provider.id != first.provider.id) = true := by
      rw [hp]
      push Not
      rfl
    rw [ofItems_cons, hsame, ← hb]
    split_ifs with h h' <;> simp_all

theorem ofItems_eq_single_iff {bppId providerId : String} :
    ofItems items = .ok (.single bppId providerId) ↔
      items ≠ [] ∧ ∀ i ∈ items, i.bppId = bppId ∧ i.provider.id = providerId := by
  cases items with
  | nil => simp [ofItems]
  | cons first rest =>
    rw [ofItems_cons]
    split_ifs with hp hb
    · obtain ⟨i, hi, hne⟩ := List.any_eq_true.1 hp
      refine ⟨nofun, fun h => ?_⟩
      have hif := (h.2 i (List.mem_cons_of_mem _ hi)).2.trans (h.2 first List.mem_cons_self).2.symm
      simp [hif] at hne
    · obtain ⟨i, hi, hne⟩ := List.any_eq_true.1 hb
      refine ⟨nofun, fun h => ?_⟩
      have hif := (h.2 i (List.mem_cons_of_mem _ hi)).1.trans (h.2 first List.mem_cons_self).1.symm
      simp [hif] at hne
    · simp only [List.any_eq_true, not_exists, not_and, bne_iff_ne, ne_eq, Decidable.not_not]
        at hp hb
      constructor
      · intro h
        cases h
        refine ⟨List.cons_ne_nil _ _, fun i hi => ?_⟩
        rcases List.mem_cons.1 hi with rfl | hi
        · exact ⟨rfl, rfl⟩
        · exact ⟨hb i hi, hp i hi⟩
      · rintro ⟨-, h⟩
        obtain ⟨hbpp, hprovider⟩ := h first List.mem_cons_self
        rw [hbpp, hprovider]

/-- Items fail to be a selection for these two causes alone. -/
theorem cause_of_ofItems {cause : ValidationFailure} (h : ofItems items = .error cause) :
    cause = .multipleProviders ∨ cause = .multipleBpps := by
  cases items with
  | nil => cases h
  | cons first rest =>
    rw [ofItems_cons] at h
    split_ifs at h
    · exact .inl (Except.error.inj h).symm
    · exact .inr (Except.error.inj h).symm

end Selection

/-- The items of a payload that is a cart. -/
def Payload.cart? : Payload → Option (List CartItem)
  | .select items => some items
  | .init order => some order.items
  | .confirm order => some order.items
  | _ => none

namespace Gateway

/-! ### Addressees -/

section

variable (context : Context) (helper : Option String)

/-- Why a payload can be for nobody at all, by what is wrong with it. -/
inductive Misaddressed : Payload → ValidationFailure → Prop
  | providers {p : Payload} {items : List CartItem} (hp : p.cart? = some items)
      (h : ∃ i ∈ items, ∃ j ∈ items, i.provider.id ≠ j.provider.id) :
      Misaddressed p .multipleProviders
  | bpps {p : Payload} {items : List CartItem} (hp : p.cart? = some items)
      (same : ∀ i ∈ items, ∀ j ∈ items, i.provider.id = j.provider.id)
      (h : ∃ i ∈ items, ∃ j ∈ items, i.bppId ≠ j.bppId) :
      Misaddressed p .multipleBpps
  | track {orderId : String} {callbackUrl : Option String}
      (h : ∀ id, context.bppId = some id → Text.isBlank id = true) :
      Misaddressed (.track orderId callbackUrl) .bppIdNotPresent
  | support {refId : String} (h : ∀ id, helper = some id → Text.isBlank id = true) :
      Misaddressed (.support refId) .bppIdNotPresent

/-- The one lookup that a payload leads to, with the failure of finding nobody by it. -/
inductive Seeks : Payload → Lookup → RegistryFailure → Prop
  | cart {p : Payload} {items : List CartItem} {bppId providerId : String}
      (hp : p.cart? = some items) (hne : items ≠ [])
      (h : ∀ i ∈ items, i.bppId = bppId ∧ i.provider.id = providerId) :
      Seeks p (.bpp bppId) .noBppFound
  | named {criteria : SearchCriteria} {id : String} (h : criteria.bppId = some id)
      (hb : Text.isBlank id = false) : Seeks (.search criteria) (.bpp id) .noBppFound
  | anyone {criteria : SearchCriteria}
      (h : ∀ id, criteria.bppId = some id → Text.isBlank id = true) :
      Seeks (.search criteria) (.gateways context.domain context.country context.city)
        .noGatewayFound
  | track {orderId id : String} {callbackUrl : Option String} (h : context.bppId = some id)
      (hb : Text.isBlank id = false) :
      Seeks (.track orderId callbackUrl) (.bpp id) .noBppFound
  | support {refId id : String} (h : helper = some id) (hb : Text.isBlank id = false) :
      Seeks (.support refId) (.bpp id) .noBppFound

end

namespace Addressee

variable {context : Context} {helper : Option String}

/-- The lookup for an addressee, with the failure of finding nobody by it. -/
def lookup? : Addressee → Option (Lookup × RegistryFailure)
  | nobody => none
  | bpp id => some (.bpp id, .noBppFound)
  | gateway domain country city => some (.gateways domain country city, .noGatewayFound)

/-- What may become of a payload: it is refused, or is an empty cart, or leads to a lookup. -/
inductive Suits (context : Context) (helper : Option String) (p : Payload) :
    Except ValidationFailure Addressee → Prop
  | refused {cause : ValidationFailure} (h : Misaddressed context helper p cause) :
      Suits context helper p (.error cause)
  | nobody (h : p.cart? = some []) : Suits context helper p (.ok nobody)
  | somebody {a : Addressee} {lookup : Lookup} {missing : RegistryFailure}
      (hl : a.lookup? = some (lookup, missing)) (h : Seeks context helper p lookup missing) :
      Suits context helper p (.ok a)

theorem suits_ofSelection {p : Payload} {items : List CartItem} (hp : p.cart? = some items) :
    Suits context helper p ((Selection.ofItems items).map ofSelection) := by
  cases h : Selection.ofItems items with
  | error cause =>
    rcases Selection.cause_of_ofItems h with rfl | rfl
    · exact .refused (.providers hp (Selection.ofItems_eq_multipleProviders_iff.1 h))
    · have hb := Selection.ofItems_eq_multipleBpps_iff.1 h
      exact .refused (.bpps hp hb.1 hb.2)
  | ok selection =>
    cases selection with
    | empty => exact .nobody (Selection.ofItems_eq_empty_iff.1 h ▸ hp)
    | single bppId providerId =>
      have hs := Selection.ofItems_eq_single_iff.1 h
      exact .somebody rfl (.cart hp hs.1 hs.2)

/-- A counterparty that has to be named is refused where it is absent or blank. -/
theorem suits_named {p : Payload} {id? : Option String}
    (hnone : (∀ id, id? = some id → Text.isBlank id = true) →
      Misaddressed context helper p .bppIdNotPresent)
    (hsome : ∀ id, id? = some id → Text.isBlank id = false →
      Seeks context helper p (.bpp id) .noBppFound) :
    Suits context helper p (named id?) := by
  rw [named]
  cases h : id?.bind Text.nonBlank? with
  | none => exact .refused (hnone (Text.bind_nonBlank?_eq_none_iff.1 h))
  | some id =>
    obtain ⟨hid, hb⟩ := Text.bind_nonBlank?_eq_some_iff.1 h
    exact .somebody rfl (hsome id hid hb)

theorem suits_ofPayload (context : Context) (helper : Option String) (p : Payload) :
    Suits context helper p (ofPayload context helper p) := by
  cases p with
  | search criteria =>
    rw [ofPayload]
    cases h : criteria.bppId.bind Text.nonBlank? with
    | none => exact .somebody rfl (.anyone (Text.bind_nonBlank?_eq_none_iff.1 h))
    | some id =>
      obtain ⟨hid, hb⟩ := Text.bind_nonBlank?_eq_some_iff.1 h
      exact .somebody rfl (.named hid hb)
  | select items => exact suits_ofSelection rfl
  | init order => exact suits_ofSelection rfl
  | confirm order => exact suits_ofSelection rfl
  | track orderId callbackUrl => exact suits_named .track fun _ => .track
  | support refId => exact suits_named .support fun _ => .support

theorem ofPayload_of_cart {p : Payload} {items : List CartItem} (hp : p.cart? = some items) :
    ofPayload context helper p = (Selection.ofItems items).map ofSelection := by
  cases p <;> cases hp <;> rfl

theorem ofPayload_of_empty {p : Payload} (hp : p.cart? = some []) :
    ofPayload context helper p = .ok nobody := ofPayload_of_cart hp

theorem ofPayload_of_misaddressed {p : Payload} {cause : ValidationFailure}
    (h : Misaddressed context helper p cause) : ofPayload context helper p = .error cause := by
  cases h with
  | providers hp hi =>
    rw [ofPayload_of_cart hp, Selection.ofItems_eq_multipleProviders_iff.2 hi]
    rfl
  | bpps hp same hi =>
    rw [ofPayload_of_cart hp, Selection.ofItems_eq_multipleBpps_iff.2 ⟨same, hi⟩]
    rfl
  | track hb => rw [ofPayload, named, Text.bind_nonBlank?_eq_none_iff.2 hb]
  | support hb => rw [ofPayload, named, Text.bind_nonBlank?_eq_none_iff.2 hb]

/-- A payload that leads to a lookup is addressed, and its addressee has that lookup. -/
theorem ofPayload_of_seeks {p : Payload} {lookup : Lookup} {missing : RegistryFailure}
    (h : Seeks context helper p lookup missing) :
    ∃ a, ofPayload context helper p = .ok a ∧ a.lookup? = some (lookup, missing) := by
  cases h with
  | cart hp hne hi =>
    refine ⟨.bpp _, ?_, rfl⟩
    rw [ofPayload_of_cart hp, Selection.ofItems_eq_single_iff.2 ⟨hne, hi⟩]
    rfl
  | named hid hb =>
    refine ⟨.bpp _, ?_, rfl⟩
    rw [ofPayload, Text.bind_nonBlank?_eq_some_iff.2 ⟨hid, hb⟩]
  | anyone hb =>
    refine ⟨.gateway _ _ _, ?_, rfl⟩
    rw [ofPayload, Text.bind_nonBlank?_eq_none_iff.2 hb]
  | track hid hb =>
    refine ⟨.bpp _, ?_, rfl⟩
    rw [ofPayload, named, Text.bind_nonBlank?_eq_some_iff.2 ⟨hid, hb⟩]
  | support hid hb =>
    refine ⟨.bpp _, ?_, rfl⟩
    rw [ofPayload, named, Text.bind_nonBlank?_eq_some_iff.2 ⟨hid, hb⟩]

end Addressee

end Gateway

end BuyerGateway

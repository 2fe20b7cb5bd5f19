import BuyerGateway.Proofs.Json.Trailing
import BuyerGateway.Proofs.Shape.Leniency
/-!
Why a tree is not read as a value of a shape. A fault is one thing wrong at one place of the tree: a
field that is missing or repeated, or a part that is no value of its own shape. A tree is refused
exactly where it has a fault.
-/
namespace BuyerGateway

namespace Fields

theorem both_eq_none_iff {α β : Type} {x : Option α} {y : Option β} :
    both x y = none ↔ x = none ∨ y = none := by
  cases x <;> cases y <;> simp [both]

namespace Slot

variable {γ : Type} {key : String} {t : Shape γ}

/-- The values that the tree of a record gives for a field. -/
def valuesIn {β : Type} {fields : Fields β} (slot : Slot key t fields) : Json → List Json
  | .object given => Json.valuesAt key given
  | .array items => items[slot.index]?.toList
  | _ => []

variable {β : Type} {fields : Fields β} {room : Nat}

/-- An object is not read where one of its fields is not. -/
theorem decodeNamed_eq_none (slot : Slot key t fields) {given : List (String × Json)}
    (h : t.decodeOne? slot.fallback? room (Json.valuesAt key given) = none) :
    fields.decodeNamed room given = none := by
  induction slot with
  | required =>
    rw [decodeNamed_required]
    exact both_eq_none_iff.2 (.inl h)
  | defaulted =>
    rw [decodeNamed_defaulted]
    exact both_eq_none_iff.2 (.inl h)
  | behindRequired slot ih =>
    rw [decodeNamed_required]
    exact both_eq_none_iff.2 (.inr (ih h))
  | behindDefaulted slot ih =>
    rw [decodeNamed_defaulted]
    exact both_eq_none_iff.2 (.inr (ih h))

/-- A list is not read either. What is left of it where a field stands may be nothing. -/
theorem decodeListed_eq_none (slot : Slot key t fields) {items : List Json}
    (h : t.decodeOne? slot.fallback? room items[slot.index]?.toList = none) :
    fields.decodeListed room items = none := by
  induction slot generalizing items with
  | required =>
    cases items with
    | nil => rfl
    | cons v items => exact both_eq_none_iff.2 (.inl h)
  | defaulted =>
    cases items with
    | nil => cases h
    | cons v items => exact both_eq_none_iff.2 (.inl h)
  | behindRequired slot ih =>
    cases items with
    | nil => rfl
    | cons v items => exact both_eq_none_iff.2 (.inr (ih h))
  | behindDefaulted slot ih =>
    cases items with
    | nil => exact both_eq_none_iff.2 (.inr (ih h))
    | cons v items => exact both_eq_none_iff.2 (.inr (ih h))

end Slot

variable {room : Nat}

/-- An object that is not read has a field that is not. -/
theorem exists_slot_of_decodeNamed {given : List (String × Json)} :
    {β : Type} → (fields : Fields β) → fields.decodeNamed room given = none →
    ∃ (γ : Type) (key : String) (t : Shape γ) (slot : fields.Slot key t),
      t.decodeOne? slot.fallback? room (Json.valuesAt key given) = none
  | _, .done, h => nomatch h
  | _, .required key s rest, h => by
    rw [decodeNamed_required] at h
    rcases both_eq_none_iff.1 h with h | h
    · exact ⟨_, key, s, .required, h⟩
    · obtain ⟨γ, key, t, slot, hslot⟩ := exists_slot_of_decodeNamed rest h
      exact ⟨γ, key, t, .behindRequired slot, hslot⟩
  | _, .defaulted key s fallback written unwritten rest, h => by
    rw [decodeNamed_defaulted] at h
    rcases both_eq_none_iff.1 h with h | h
    · exact ⟨_, key, s, .defaulted, h⟩
    · obtain ⟨γ, key, t, slot, hslot⟩ := exists_slot_of_decodeNamed rest h
      exact ⟨γ, key, t, .behindDefaulted slot, hslot⟩

/-- A list that is not read is too long, or has a field that is not read. -/
theorem exists_slot_of_decodeListed :
    {β : Type} → (fields : Fields β) → {items : List Json} →
    fields.decodeListed room items = none →
    fields.keys.length < items.length ∨
      ∃ (γ : Type) (key : String) (t : Shape γ) (slot : fields.Slot key t),
        t.decodeOne? slot.fallback? room items[slot.index]?.toList = none
  | _, .done, [], h => nomatch h
  | _, .done, _ :: _, _ => .inl (Nat.zero_lt_succ _)
  | _, .required key s rest, [], _ => .inr ⟨_, key, s, .required, rfl⟩
  | _, .required key s rest, v :: items, h => by
    rcases both_eq_none_iff.1 h with h | h
    · exact .inr ⟨_, key, s, .required, h⟩
    · rcases exists_slot_of_decodeListed rest h with hlong | ⟨γ, key, t, slot, hslot⟩
      · exact .inl (Nat.succ_lt_succ hlong)
      · exact .inr ⟨γ, key, t, .behindRequired slot, hslot⟩
  | _, .defaulted key s fallback written unwritten rest, [], h => by
    rcases both_eq_none_iff.1 h with h | h
    · cases h
    · rcases exists_slot_of_decodeListed rest h with hlong | ⟨γ, key, t, slot, hslot⟩
      · exact absurd hlong (Nat.not_lt_zero _)
      · exact .inr ⟨γ, key, t, .behindDefaulted slot, hslot⟩
  | _, .defaulted key s fallback written unwritten rest, v :: items, h => by
    rcases both_eq_none_iff.1 h with h | h
    · exact .inr ⟨_, key, s, .defaulted, h⟩
    · rcases exists_slot_of_decodeListed rest h with hlong | ⟨γ, key, t, slot, hslot⟩
      · exact .inl (Nat.succ_lt_succ hlong)
      · exact .inr ⟨γ, key, t, .behindDefaulted slot, hslot⟩

theorem decodeListed_of_long : {β : Type} → (fields : Fields β) → {items : List Json} →
    fields.keys.length < items.length → fields.decodeListed room items = none
  | _, .done, _ :: _, _ => rfl
  | _, .required _ _ rest, _ :: _, h =>
    both_eq_none_iff.2 (.inr (rest.decodeListed_of_long (Nat.lt_of_succ_lt_succ h)))
  | _, .defaulted _ _ _ _ _ rest, _ :: _, h =>
    both_eq_none_iff.2 (.inr (rest.decodeListed_of_long (Nat.lt_of_succ_lt_succ h)))

end Fields

/-! ### Faults -/

namespace Shape

/-- No field has more than one value. -/
theorem decodeOne?_of_repeated {γ : Type} {t : Shape γ} {missing : Option γ} {room : Nat}
    {values : List Json} (h : 2 ≤ values.length) : t.decodeOne? missing room values = none := by
  match values with
  | [] => cases h
  | [v] => exact absurd h (Nat.lt_irrefl 1)
  | _ :: _ :: _ => rfl

/-- A shape without parts, whose values no names stand for. -/
def isSimple : {α : Type} → Shape α → Bool
  | _, .text => true
  | _, .flag => true
  | _, .count => true
  | _, .real => true
  | _, .moment => true
  | _, .dictionary => true
  | _, _ => false

end Shape

mutual

/-- What is wrong with a tree as a value of a shape, where
it may have `room` containers inside each other. -/
inductive Shape.Fault : {α : Type} → Shape α → Nat → Json → Prop
  | value {α : Type} {s : Shape α} {room : Nat} {v : Json} (hs : s.isSimple = true)
      (h : s.decode room v = none) : s.Fault room v
  | name {α : Type} {name : α → String} {all : List α}
      {find_name : ∀ a, all.find? (fun b => name b == name a) = some a} {room : Nat} {v : Json}
      (h : ∀ a ∈ all, v.name? ≠ some (name a)) : Shape.Fault (.choice name all find_name) room v
  | present {α : Type} {s : Shape α} {room : Nat} {v : Json} (hv : v ≠ .null)
      (h : s.Fault room v) : Shape.Fault (.nullable s) room v
  | noList {α : Type} {s : Shape α} {room : Nat} {v : Json} (h : ∀ items, v ≠ .array items) :
      Shape.Fault (.list s) room v
  | item {α : Type} {s : Shape α} {room : Nat} {items : List Json} {v : Json} (hv : v ∈ items)
      (h : s.Fault (room - 1) v) : Shape.Fault (.list s) room (.array items)
  | record {α β : Type} {form : Form} {fields : Fields β} {parts : α → β} {whole : β → α}
      {whole_parts : ∀ a, whole (parts a) = a} {room : Nat} {v : Json}
      (h : Fields.Fault form fields room v) :
      Shape.Fault (.record form fields parts whole whole_parts) room v

/-- What is wrong with a tree as a record of some fields. -/
inductive Fields.Fault : Form → {β : Type} → Fields β → Nat → Json → Prop
  | noRecord {form : Form} {β : Type} {fields : Fields β} {room : Nat} {v : Json}
      (h : ¬ v.Container) : Fields.Fault form fields room v
  | listed {β : Type} {fields : Fields β} {room : Nat} {items : List Json} :
      Fields.Fault .merged fields room (.array items)
  | deep {β : Type} {fields : Fields β} {room : Nat} {v : Json} (h : Json.fits room v = false) :
      Fields.Fault .merged fields room v
  | long {form : Form} {β : Type} {fields : Fields β} {room : Nat} {items : List Json}
      (h : fields.keys.length < items.length) : Fields.Fault form fields room (.array items)
  | missing {form : Form} {β γ : Type} {fields : Fields β} {room : Nat} {v : Json} {key : String}
      {t : Shape γ} (slot : fields.Slot key t) (hf : slot.fallback? = none)
      (h : slot.valuesIn v = []) : Fields.Fault form fields room v
  | repeated {form : Form} {β γ : Type} {fields : Fields β} {room : Nat} {v : Json} {key : String}
      {t : Shape γ} (slot : fields.Slot key t) (h : 2 ≤ (slot.valuesIn v).length) :
      Fields.Fault form fields room v
  | part {form : Form} {β γ : Type} {fields : Fields β} {room : Nat} {v w : Json} {key : String}
      {t : Shape γ} (slot : fields.Slot key t) (h : slot.valuesIn v = [w])
      (hpart : t.Fault (room - 1) w) : Fields.Fault form fields room v

end

namespace Shape

section

variable {α β γ : Type} {form : Form} {fields : Fields β} {parts : α → β} {whole : β → α}
  {whole_parts : ∀ a, whole (parts a) = a} {room : Nat} {v : Json} {key : String} {t : Shape γ}

theorem decode_record_of_not_container (h : ¬ v.Container) :
    (record form fields parts whole whole_parts).decode room v = none := by
  cases v with
  | array items => exact absurd (.array items) h
  | object given => exact absurd (.object given) h
  | _ => cases form <;> rfl

theorem container_of_decode_record {a : α}
    (h : (record form fields parts whole whole_parts).decode room v = some a) : v.Container := by
  cases v with
  | array items => exact .array items
  | object given => exact .object given
  | _ => cases form <;> cases h

/-- A record is not read where one of its fields is not. -/
theorem decode_record_of_slot (slot : fields.Slot key t)
    (h : t.decodeOne? slot.fallback? (room - 1) (slot.valuesIn v) = none) :
    (record form fields parts whole whole_parts).decode room v = none := by
  cases v with
  | object given =>
    have hnamed : fields.decodeNamed (room - 1) given = none := slot.decodeNamed_eq_none h
    cases form with
    | plain =>
      rw [decode, hnamed]
      rfl
    | merged =>
      rw [decode, hnamed]
      split <;> rfl
  | array items =>
    have hlisted : fields.decodeListed (room - 1) items = none := slot.decodeListed_eq_none h
    cases form with
    | plain =>
      rw [decode, hlisted]
      rfl
    | merged => rfl
  | _ =>
    apply decode_record_of_not_container
    intro hc
    cases hc

theorem decode_record_of_long {items : List Json} (h : fields.keys.length < items.length) :
    (record form fields parts whole whole_parts).decode room (.array items) = none := by
  cases form with
  | plain =>
    rw [decode, fields.decodeListed_of_long h]
    rfl
  | merged => rfl

theorem decode_merged_of_deep (h : Json.fits room v = false) :
    (record .merged fields parts whole whole_parts).decode room v = none := by
  cases v with
  | object given => rw [decode, h]; rfl
  | _ => rfl

end

theorem decode_choice_eq_none_iff {α : Type} {name : α → String} {all : List α}
    {find_name : ∀ a, all.find? (fun b => name b == name a) = some a} {room : Nat} {v : Json} :
    (choice name all find_name).decode room v = none ↔ ∀ a ∈ all, v.name? ≠ some (name a) := by
  rw [decode]
  cases v.name? with
  | none => exact ⟨fun _ a _ => (Option.some_ne_none (name a)).symm, fun _ => rfl⟩
  | some s =>
    rw [Option.bind_some, List.find?_eq_none]
    constructor
    · intro h a ha hs
      exact h a ha (beq_iff_eq.2 (Option.some.inj hs).symm)
    · intro h a ha hs
      exact h a ha (congrArg some (beq_iff_eq.1 hs).symm)

theorem decode_nullable_of_ne_null {α : Type} {s : Shape α} {room : Nat} {v : Json}
    (hv : v ≠ .null) : (nullable s).decode room v = (s.decode room v).map some := by
  rw [decode]
  exact hv

/-- A list of results is missing where one of them is. -/
theorem mapM_eq_none_iff {α β : Type} {read : α → Option β} {as : List α} :
    as.mapM read = none ↔ ∃ a ∈ as, read a = none := by
  induction as with
  | nil => exact ⟨nofun, nofun⟩
  | cons a as ih =>
    rw [List.mapM_cons]
    cases ha : read a with
    | none => exact ⟨fun _ => ⟨a, List.mem_cons_self, ha⟩, fun _ => rfl⟩
    | some b =>
      have hrest : (do
          let bs ← as.mapM read
          pure (b :: bs)) = none ↔ as.mapM read = none := by
        cases as.mapM read <;> simp
      rw [Option.bind_eq_bind, Option.bind_some, hrest, ih]
      simp [ha]

mutual

/-- A tree with a fault is refused. -/
theorem decode_of_fault {room : Nat} {v : Json} : {α : Type} → {s : Shape α} → s.Fault room v →
    s.decode room v = none
  | _, _, .value _ h => h
  | _, _, .name h => decode_choice_eq_none_iff.2 h
  | _, _, .present hv h => by
    rw [decode_nullable_of_ne_null hv, decode_of_fault h]
    rfl
  | _, _, .noList h => by
    cases v with
    | array items => exact absurd rfl (h items)
    | _ => rfl
  | _, _, .item hv h => by
    rw [decode, mapM_eq_none_iff]
    exact ⟨_, hv, decode_of_fault h⟩
  | _, _, .record h => decode_record_of_fault h

theorem decode_record_of_fault {form : Form} {room : Nat} {v : Json} : {β : Type} →
    {fields : Fields β} → Fields.Fault form fields room v → {α : Type} → {parts : α → β} →
    {whole : β → α} → {whole_parts : ∀ a, whole (parts a) = a} →
    (record form fields parts whole whole_parts).decode room v = none
  | _, _, .noRecord h, _, _, _, _ => decode_record_of_not_container h
  | _, _, .listed, _, _, _, _ => rfl
  | _, _, .deep h, _, _, _, _ => decode_merged_of_deep h
  | _, _, .long h, _, _, _, _ => decode_record_of_long h
  | _, _, .missing slot hf h, _, _, _, _ => decode_record_of_slot slot (by rw [hf, h]; rfl)
  | _, _, .repeated slot h, _, _, _, _ => decode_record_of_slot slot (decodeOne?_of_repeated h)
  | _, _, .part slot h hpart, _, _, _, _ =>
    decode_record_of_slot slot (by rw [h]; exact decode_of_fault hpart)

end

section

variable {α β : Type} {form : Form} {fields : Fields β} {parts : α → β} {whole : β → α}
  {whole_parts : ∀ a, whole (parts a) = a} {room : Nat} {v : Json}

/-- A field that is not read is missing, or repeated, or has a part that is refused. -/
theorem record_fault_of_slot
    (hparts : ∀ {γ : Type} {key : String} {t : Shape γ} {w : Json}, fields.Slot key t →
      t.decode (room - 1) w = none → t.Fault (room - 1) w)
    {γ : Type} {key : String} {t : Shape γ} (slot : fields.Slot key t)
    (h : t.decodeOne? slot.fallback? (room - 1) (slot.valuesIn v) = none) :
    Fields.Fault form fields room v := by
  match hvalues : slot.valuesIn v with
  | [] =>
    rw [hvalues] at h
    exact .missing slot h hvalues
  | [w] =>
    rw [hvalues] at h
    exact .part slot hvalues (hparts slot h)
  | _ :: _ :: _ =>
    refine .repeated slot ?_
    rw [hvalues]
    exact Nat.le_add_left 2 _

theorem record_fault_of_decode
    (hparts : ∀ {γ : Type} {key : String} {t : Shape γ} {w : Json}, fields.Slot key t →
      t.decode (room - 1) w = none → t.Fault (room - 1) w)
    (h : (record form fields parts whole whole_parts).decode room v = none) :
    Fields.Fault form fields room v := by
  cases v with
  | object given =>
    -- An object that is not too deep has a field that is not read.
    have named (hread : (fields.decodeNamed (room - 1) given).map whole = none) :
        Fields.Fault form fields room (.object given) := by
      obtain ⟨γ, key, t, slot, hslot⟩ :=
        fields.exists_slot_of_decodeNamed (Option.map_eq_none_iff.1 hread)
      exact record_fault_of_slot hparts slot hslot
    rw [decode.eq_def] at h
    cases form with
    | plain => exact named h
    | merged =>
      by_cases hfits : Json.fits room (.object given) = true
      · simp only [hfits, ↓reduceIte] at h
        exact named h
      · exact .deep (eq_false_of_ne_true hfits)
  | array items =>
    cases form with
    | plain =>
      rw [decode] at h
      rcases fields.exists_slot_of_decodeListed (Option.map_eq_none_iff.1 h) with
        hlong | ⟨γ, key, t, slot, hslot⟩
      · exact .long hlong
      · exact record_fault_of_slot hparts slot hslot
    | merged => exact .listed
  | _ => exact .noRecord nofun

end

mutual

/-- A tree that is refused has a fault. -/
theorem fault_of_decode {room : Nat} {v : Json} : {α : Type} → (s : Shape α) →
    s.decode room v = none → s.Fault room v
  | _, .text, h => .value rfl h
  | _, .flag, h => .value rfl h
  | _, .count, h => .value rfl h
  | _, .real, h => .value rfl h
  | _, .moment, h => .value rfl h
  | _, .dictionary, h => .value rfl h
  | _, .choice _ _ _, h => .name (decode_choice_eq_none_iff.1 h)
  | _, .nullable s, h => by
    have hv : v ≠ .null := by
      rintro rfl
      cases h
    rw [decode_nullable_of_ne_null hv] at h
    exact .present hv (fault_of_decode s (Option.map_eq_none_iff.1 h))
  | _, .list s, h => by
    cases v with
    | array items =>
      obtain ⟨w, hw, hnone⟩ := mapM_eq_none_iff.1 h
      exact .item hw (fault_of_decode s hnone)
    | _ => exact .noList nofun
  | _, .record _ fields _ _ _, h =>
    .record (record_fault_of_decode (fun slot hw => fault_of_slot fields slot hw) h)

/-- So has the value of a field, by recursion on the fields down to the one of the slot. -/
theorem fault_of_slot {room : Nat} {v : Json} : {β : Type} → (fields : Fields β) →
    {γ : Type} → {key : String} → {t : Shape γ} → fields.Slot key t → t.decode room v = none →
    t.Fault room v
  | _, _, _, _, t, .required, h => fault_of_decode t h
  | _, _, _, _, t, .defaulted, h => fault_of_decode t h
  | _, _, _, _, _, .behindRequired slot, h => fault_of_slot _ slot h
  | _, _, _, _, _, .behindDefaulted slot, h => fault_of_slot _ slot h

end

/-- A tree is refused exactly for its faults. -/
theorem decode_eq_none_iff {α : Type} {s : Shape α} {room : Nat} {v : Json} :
    s.decode room v = none ↔ s.Fault room v := ⟨fault_of_decode s, decode_of_fault⟩

end Shape

end BuyerGateway

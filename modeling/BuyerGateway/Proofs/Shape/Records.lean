import BuyerGateway.Shape.Basic
/-!
Records by their keys. What is read of a record depends on the values under its own keys alone, so a
field can be told apart from all others if no key is that of two fields.
-/
namespace BuyerGateway

namespace Json

theorem valuesAt_cons_self (key : String) (v : Json) (fields : List (String × Json)) :
    valuesAt key ((key, v) :: fields) = v :: valuesAt key fields := by
  simp [valuesAt]

theorem valuesAt_eq_nil {key : String} {fields : List (String × Json)}
    (h : ∀ f ∈ fields, f.1 ≠ key) : valuesAt key fields = [] := by
  have hnone : fields.filter (·.1 == key) = [] := by
    apply List.filter_eq_nil_iff.2
    intro f hf hkey
    exact h f hf (eq_of_beq hkey)
  rw [valuesAt, hnone]
  rfl

end Json

/-- The keys of a record in their written order. -/
def Fields.keys : {β : Type} → Fields β → List String
  | _, .done => []
  | _, .required key _ rest => key :: rest.keys
  | _, .defaulted key _ _ _ _ rest => key :: rest.keys

def Shape.isNullable : {α : Type} → Shape α → Bool
  | _, .nullable _ => true
  | _, _ => false

mutual

/-- No value can be taken for the absence of one, and no key is that of two fields. -/
def Shape.sound : {α : Type} → Shape α → Bool
  | _, .nullable s => !s.isNullable && s.sound
  | _, .list s => s.sound
  | _, .record _ fields _ _ _ => decide fields.keys.Nodup && fields.sound
  | _, _ => true

def Fields.sound : {β : Type} → Fields β → Bool
  | _, .done => true
  | _, .required _ s rest => s.sound && rest.sound
  | _, .defaulted _ s _ _ _ rest => s.sound && rest.sound

end

/-- Reads the values that are given for a field. There must be one, or none if there is something to
take for a missing one. -/
def Shape.decodeOne? {α : Type} (s : Shape α) (missing : Option α) (room : Nat) :
    List Json → Option α
  | [] => missing
  | [v] => s.decode room v
  | _ => none

namespace Fields

theorem both_eq_some_iff {α β : Type} {x : Option α} {y : Option β} {a : α} {b : β} :
    both x y = some (a, b) ↔ x = some a ∧ y = some b := by
  cases x <;> cases y <;> simp [both]

section

variable {α β : Type} {key : String} {s : Shape α} {rest : Fields β} {room : Nat}
  {given : List (String × Json)}

theorem decodeNamed_required :
    (required key s rest).decodeNamed room given =
      both (s.decodeOne? none room (Json.valuesAt key given)) (rest.decodeNamed room given) := by
  rw [decodeNamed]
  match Json.valuesAt key given with
  | [] => rfl
  | [v] => rfl
  | _ :: _ :: _ => rfl

theorem decodeNamed_defaulted {fallback : α} {written : α → Bool}
    {unwritten : ∀ a, written a = false → a = fallback} :
    (defaulted key s fallback written unwritten rest).decodeNamed room given =
      both (s.decodeOne? (some fallback) room (Json.valuesAt key given))
        (rest.decodeNamed room given) := by
  rw [decodeNamed]
  match Json.valuesAt key given with
  | [] => rfl
  | [v] => rfl
  | _ :: _ :: _ => rfl

end

theorem decodeNamed_congr {given given' : List (String × Json)} (room : Nat) :
    {β : Type} → (fields : Fields β) →
    (∀ key ∈ fields.keys, Json.valuesAt key given = Json.valuesAt key given') →
    fields.decodeNamed room given = fields.decodeNamed room given'
  | _, .done, _ => rfl
  | _, .required key s rest, h => by
    have hrest := decodeNamed_congr room rest fun k hk => h k (List.mem_cons_of_mem _ hk)
    rw [decodeNamed_required, decodeNamed_required, h key List.mem_cons_self, hrest]
  | _, .defaulted key s fallback written unwritten rest, h => by
    have hrest := decodeNamed_congr room rest fun k hk => h k (List.mem_cons_of_mem _ hk)
    rw [decodeNamed_defaulted, decodeNamed_defaulted, h key List.mem_cons_self, hrest]

/-- A record writes no key but its own. -/
theorem mem_keys_of_mem_encode {f : String × Json} :
    {β : Type} → (fields : Fields β) → (b : β) → f ∈ fields.encode b → f.1 ∈ fields.keys
  | _, .done, _, h => absurd h List.not_mem_nil
  | _, .required key s rest, (a, b), h => by
    rcases List.mem_cons.1 h with rfl | h
    · exact List.mem_cons_self
    · exact List.mem_cons_of_mem _ (mem_keys_of_mem_encode rest b h)
  | _, .defaulted key s fallback written unwritten rest, (a, b), h => by
    rw [encode] at h
    split at h
    · rcases List.mem_cons.1 h with rfl | h
      · exact List.mem_cons_self
      · exact List.mem_cons_of_mem _ (mem_keys_of_mem_encode rest b h)
    · exact List.mem_cons_of_mem _ (mem_keys_of_mem_encode rest b h)

theorem valuesAt_encode {β : Type} {fields : Fields β} {key : String} (h : key ∉ fields.keys)
    (b : β) : Json.valuesAt key (fields.encode b) = [] := by
  apply Json.valuesAt_eq_nil
  intro f hf hkey
  exact h (hkey ▸ mem_keys_of_mem_encode fields b hf)

/-- A key that is not the record's own is passed over. -/
theorem decodeNamed_cons {β : Type} {fields : Fields β} {key : String} (h : key ∉ fields.keys)
    (room : Nat) (v : Json) (given : List (String × Json)) :
    fields.decodeNamed room ((key, v) :: given) = fields.decodeNamed room given := by
  apply decodeNamed_congr
  intro k hk
  apply Json.valuesAt_cons_ne
  rintro rfl
  exact h hk

/-- A record is read from an object as though a field with a key that is not its
own were not there. -/
theorem decodeNamed_encode_defaulted {α β γ : Type} {fields : Fields γ} {key : String}
    (h : key ∉ fields.keys) (room : Nat) {s : Shape α} {fallback : α} {written : α → Bool}
    {unwritten : ∀ a, written a = false → a = fallback} {rest : Fields β} (a : α) (b : β) :
    fields.decodeNamed room ((defaulted key s fallback written unwritten rest).encode (a, b)) =
      fields.decodeNamed room (rest.encode b) := by
  rw [encode]
  split
  · exact decodeNamed_cons h room _ _
  · rfl

end Fields

/-! ### Records of one field -/

theorem Shape.decode_wrapped {α : Type} {key : String} {s : Shape α} {room : Nat}
    {given : List (String × Json)} {v : Json} (h : Json.valuesAt key given = [v]) :
    (Shape.wrapped key s).decode room (.object given) = s.decode (room - 1) v := by
  rw [wrapped, plain, decode, Fields.decodeNamed_required, h, Fields.decodeNamed, decodeOne?]
  cases s.decode (room - 1) v <;> rfl

theorem Shape.decode_wrapped_of_absent {α : Type} {key : String} {s : Shape α} {room : Nat}
    {given : List (String × Json)} (h : Json.valuesAt key given = []) :
    (Shape.wrapped key s).decode room (.object given) = none := by
  rw [wrapped, plain, decode, Fields.decodeNamed_required, h, decodeOne?]
  rfl

end BuyerGateway

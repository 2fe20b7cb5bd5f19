import BuyerGateway.Proofs.Shape.Places
/-!
Records that may be given in part or with more than they know. A key that is not a record's own
changes nothing in what is read of it; and where every field falls back to its blank value, any
field may be left out.
-/
namespace BuyerGateway

mutual

/-- The value that says nothing: an empty text, list or dictionary, zero, the absence of a value,
and a record of such values. -/
def Shape.blank? : {α : Type} → Shape α → Option α
  | _, .text => some ""
  | _, .flag => none
  | _, .count => some 0
  | _, .real => some .zero
  | _, .moment => none
  | _, .dictionary => some .empty
  | _, .choice .. => none
  | _, .nullable _ => some none
  | _, .list _ => some []
  | _, .record _ fields _ whole _ => fields.blank?.map whole

def Fields.blank? : {β : Type} → Fields β → Option β
  | _, .done => some ()
  | _, .required _ s rest => Fields.both s.blank? rest.blank?
  | _, .defaulted _ s _ _ _ rest => Fields.both s.blank? rest.blank?

end

mutual

/-- No field of a record at any depth is required, and each falls back to the blank value. -/
def Shape.Lenient : {α : Type} → Shape α → Prop
  | _, .nullable s => s.Lenient
  | _, .list s => s.Lenient
  | _, .record _ fields _ _ _ => fields.Lenient
  | _, _ => True

def Fields.Lenient : {β : Type} → Fields β → Prop
  | _, .done => True
  | _, .required .. => False
  | _, .defaulted _ s fallback _ _ rest => s.blank? = some fallback ∧ s.Lenient ∧ rest.Lenient

end

namespace Fields.Slot

variable {γ β : Type} {key : String} {t : Shape γ} {fields : Fields β}

theorem lenient (slot : Slot key t fields) (h : fields.Lenient) : t.Lenient := by
  induction slot with
  | required => exact h.elim
  | defaulted => exact h.2.1
  | behindRequired slot ih => exact h.elim
  | behindDefaulted slot ih => exact ih h.2.2

theorem exists_blank (slot : Slot key t fields) (h : fields.Lenient) :
    ∃ d, slot.fallback? = some d ∧ t.blank? = some d := by
  induction slot with
  | required => exact h.elim
  | @defaulted _ fallback => exact ⟨fallback, rfl, h.1⟩
  | behindRequired slot ih => exact h.elim
  | behindDefaulted slot ih => exact ih h.2.2

end Fields.Slot

namespace Shape

theorem Place.lenient {γ α : Type} {t : Shape γ} {w w' : Json} {s : Shape α} {v v' : Json}
    {lift : (γ → γ) → α → α} (p : Place t w w' s v v' lift) (h : s.Lenient) : t.Lenient := by
  induction p with
  | here => exact h
  | present p ih => exact ih h
  | item before p ih => exact ih h
  | field slot p holds ih => exact ih (slot.lenient h)

section

variable {α β γ : Type} {fields : Fields β} {parts : α → β} {whole : β → α}
  {whole_parts : ∀ a, whole (parts a) = a} {room : Nat}

/-- A key that is not the record's own is passed over, whatever is written under it. -/
theorem decode_unknown {key : String} (hkey : key ∉ fields.keys) (x : Json)
    (before after : List (String × Json)) :
    (record .plain fields parts whole whole_parts).decode room
        (.object (before ++ (key, x) :: after)) =
      (record .plain fields parts whole whole_parts).decode room (.object (before ++ after)) := by
  have hread : fields.decodeNamed (room - 1) (before ++ (key, x) :: after) =
      fields.decodeNamed (room - 1) (before ++ after) := by
    apply Fields.decodeNamed_congr
    intro k hk
    have hne : key ≠ k := by
      rintro rfl
      exact hkey hk
    rw [Json.valuesAt_append, Json.valuesAt_append, Json.valuesAt_cons_ne hne]
  rw [decode, decode, hread]

/-- A field that has a fallback may be left out, and the record is read with the fallback. -/
theorem decode_remove {key : String} {t : Shape γ} (slot : fields.Slot key t)
    (hk : fields.keys.Nodup) (he : ∀ b, parts (whole b) = b) {d : γ} (hd : slot.fallback? = some d)
    {given : List (String × Json)} {a : α}
    (h : (record .plain fields parts whole whole_parts).decode room (.object given) = some a) :
    (record .plain fields parts whole whole_parts).decode room (.object (Json.remove key given)) =
      some (whole (slot.modify (fun _ => d) (parts a))) := by
  rw [decode] at h ⊢
  obtain ⟨b, hb, rfl⟩ := Option.map_eq_some_iff.1 h
  rw [slot.decodeNamed_remove hk hd hb, he]
  rfl

end

/-- The second tree has one key more than the first in one of the records of a value, at any depth,
and it is none of this record's own; any value is written under it. -/
inductive Extended {α : Type} (s : Shape α) : Json → Json → Prop
  | intro {γ δ : Type} {fields : Fields δ} {parts : γ → δ} {whole : δ → γ}
      {whole_parts : ∀ a, whole (parts a) = a} {key : String} (hkey : key ∉ fields.keys)
      {x u u' : Json} (before after : List (String × Json)) {lift : (γ → γ) → α → α}
      (p : Place (.record .plain fields parts whole whole_parts) (.object (before ++ after))
        (.object (before ++ (key, x) :: after)) s u u' lift) : Extended s u u'

/-- A key that a record does not know makes no difference to what is read, nor to whether it is. -/
theorem Extended.decode_eq {α : Type} {s : Shape α} {u u' : Json} (h : s.Extended u u')
    (hs : s.sound = true) (he : s.Exact) (room : Nat) : s.decode room u = s.decode room u' := by
  obtain ⟨hkey, before, after, p⟩ := h
  exact p.decode_eq nofun nofun (fun room => (decode_unknown hkey _ before after).symm) hs he room

end Shape

end BuyerGateway

import BuyerGateway.Proofs.Shape.Places
import BuyerGateway.Proofs.Shape.RoundTrip
/-!
Absent values as they are written. If a shape has a value that may be absent only as a field that is
then left out, no tree of a value has a `null` in it, however deep, and in each record inside the
tree the key of an absent field is missing.
-/
namespace BuyerGateway

/-- No `null` stands anywhere in the tree, and nothing that would be printed as one. -/
inductive Json.NullFree : Json → Prop
  | flag (b : Bool) : NullFree (.flag b)
  | integer (n : Int) : NullFree (.integer n)
  | real (x : Double) : NullFree (.real x)
  | text (s : String) : NullFree (.text s)
  | array {items : List Json} (h : ∀ v ∈ items, NullFree v) : NullFree (.array items)
  | object {fields : List (String × Json)} (h : ∀ f ∈ fields, NullFree f.2) :
      NullFree (.object fields)

/-- Where the values of the shape may be absent, a field that is `written` so is left out. -/
def Shape.leavesOut : {α : Type} → Shape α → (α → Bool) → Bool
  | _, .nullable _, written => !written none
  | _, _, _ => true

mutual

/-- A value can be absent only in a field that is left out then. -/
def Shape.solid : {α : Type} → Shape α → Bool
  | _, .nullable s => !s.isNullable && s.solid
  | _, .list s => !s.isNullable && s.solid
  | _, .record _ fields _ _ _ => fields.solid
  | _, _ => true

def Fields.solid : {β : Type} → Fields β → Bool
  | _, .done => true
  | _, .required _ s rest => (!s.isNullable && s.solid) && rest.solid
  | _, .defaulted _ s _ written _ rest => (s.leavesOut written && s.solid) && rest.solid

end

/-! ### No nulls -/

/-- A field that is written holds a value. -/
theorem Shape.encode_ne_null_of_written {α : Type} {s : Shape α} {written : α → Bool}
    (hs : s.solid = true) (hw : s.leavesOut written = true) {a : α} (ha : written a = true) :
    s.encode a ≠ .null := by
  cases s with
  | nullable s =>
    have hnull : s.isNullable = false := by simpa using (Bool.and_eq_true_iff.1 hs).1
    cases a with
    | none =>
      have hnone : written none = false := by simpa [leavesOut] using hw
      rw [hnone] at ha
      cases ha
    | some a => exact s.encode_ne_null hnull a
  | _ => exact encode_ne_null _ rfl a

mutual

theorem Shape.nullFree_encode : {α : Type} → (s : Shape α) → s.solid = true → (a : α) →
    s.encode a ≠ .null → Json.NullFree (s.encode a)
  | _, .text, _, s, _ => .text s
  | _, .flag, _, b, _ => .flag b
  | _, .count, _, n, _ => .integer n.toNat
  | _, .real, _, x, _ => .real x
  | _, .moment, _, t, _ => .text t.toText
  | _, .dictionary, _, d, _ => by
    apply Json.NullFree.object
    intro f hf
    obtain ⟨e, -, rfl⟩ := List.mem_map.1 hf
    exact .text e.2
  | _, .choice name _ _, _, a, _ => .text (name a)
  -- The only tree that is `null` itself is that of an absent value.
  | _, .nullable _, _, none, h => absurd rfl h
  | _, .nullable s, hs, some a, h => s.nullFree_encode (Bool.and_eq_true_iff.1 hs).2 a h
  | _, .list s, hs, xs, _ => by
    obtain ⟨hnull, hsolid⟩ := Bool.and_eq_true_iff.1 hs
    apply Json.NullFree.array
    intro v hv
    obtain ⟨a, -, rfl⟩ := List.mem_map.1 hv
    exact s.nullFree_encode hsolid a (s.encode_ne_null (by simpa using hnull) a)
  | _, .record _ fields parts _ _, hs, a, _ =>
    .object fun f hf => fields.nullFree_encode hs (parts a) f hf

theorem Fields.nullFree_encode : {β : Type} → (fields : Fields β) → fields.solid = true → (b : β) →
    ∀ f ∈ fields.encode b, Json.NullFree f.2
  | _, .done, _, _ => nofun
  | _, .required key s rest, hs, (a, b) => by
    obtain ⟨hs, hrest⟩ := Bool.and_eq_true_iff.1 hs
    obtain ⟨hnull, hsolid⟩ := Bool.and_eq_true_iff.1 hs
    intro f hf
    rcases List.mem_cons.1 hf with rfl | hf
    · exact s.nullFree_encode hsolid a (s.encode_ne_null (by simpa using hnull) a)
    · exact rest.nullFree_encode hrest b f hf
  | _, .defaulted key s fallback written unwritten rest, hs, (a, b) => by
    obtain ⟨hs, hrest⟩ := Bool.and_eq_true_iff.1 hs
    obtain ⟨hout, hsolid⟩ := Bool.and_eq_true_iff.1 hs
    intro f hf
    rw [Fields.encode] at hf
    split at hf
    · -- A value that may be absent is there, since its field is written.
      rename_i hwritten
      rcases List.mem_cons.1 hf with rfl | hf
      · exact s.nullFree_encode hsolid a (Shape.encode_ne_null_of_written hsolid hout hwritten)
      · exact rest.nullFree_encode hrest b f hf
    · exact rest.nullFree_encode hrest b f hf

end

/-! ### Absent fields -/

namespace Fields.Slot

variable {γ : Type} {key : String}

/-- The value of this field. -/
def get {t : Shape γ} : {β : Type} → {fields : Fields β} → Slot key t fields → β → γ
  | _, _, .required, (a, _) => a
  | _, _, .defaulted, (a, _) => a
  | _, _, .behindRequired slot, (_, b) => slot.get b
  | _, _, .behindDefaulted slot, (_, b) => slot.get b

theorem solid {t : Shape γ} {β : Type} {fields : Fields β} (slot : Slot key t fields)
    (h : fields.solid = true) : t.solid = true := by
  induction slot with
  | required => exact (Bool.and_eq_true_iff.1 (Bool.and_eq_true_iff.1 h).1).2
  | defaulted => exact (Bool.and_eq_true_iff.1 (Bool.and_eq_true_iff.1 h).1).2
  | behindRequired slot ih => exact ih (Bool.and_eq_true_iff.1 h).2
  | behindDefaulted slot ih => exact ih (Bool.and_eq_true_iff.1 h).2

/-- Whether this field is written where it has a given value. -/
def writes {t : Shape γ} : {β : Type} → {fields : Fields β} → Slot key t fields → γ → Bool
  | _, _, .required, _ => true
  | _, .defaulted _ _ _ written _ _, .defaulted, c => written c
  | _, _, .behindRequired slot, c => slot.writes c
  | _, _, .behindDefaulted slot, c => slot.writes c

/-- Under the key of a field stands what is written of this field, and nothing else. -/
theorem valuesAt_encode {t : Shape γ} {β : Type} {fields : Fields β} (slot : Slot key t fields)
    (hk : fields.keys.Nodup) (b : β) :
    Json.valuesAt key (fields.encode b) =
      if slot.writes (slot.get b) then [t.encode (slot.get b)] else [] := by
  induction slot with
  | required =>
    obtain ⟨a, b⟩ := b
    obtain ⟨hkey, -⟩ := List.nodup_cons.1 hk
    rw [encode, Json.valuesAt_cons_self, Fields.valuesAt_encode hkey]
    rfl
  | @defaulted β fallback written unwritten rest =>
    obtain ⟨a, b⟩ := b
    obtain ⟨hkey, -⟩ := List.nodup_cons.1 hk
    have hrest : Json.valuesAt key (rest.encode b) = [] := Fields.valuesAt_encode hkey b
    show Json.valuesAt key
      (if written a then (key, t.encode a) :: rest.encode b else rest.encode b) =
        if written a then [t.encode a] else []
    split
    · rw [Json.valuesAt_cons_self, hrest]
    · exact hrest
  | behindRequired slot ih =>
    obtain ⟨a, b⟩ := b
    obtain ⟨hother, hkeys⟩ := List.nodup_cons.1 hk
    rw [encode, Json.valuesAt_cons_ne (slot.ne_of_not_mem hother).symm]
    exact ih hkeys b
  | behindDefaulted slot ih =>
    obtain ⟨a, b⟩ := b
    obtain ⟨hother, hkeys⟩ := List.nodup_cons.1 hk
    rw [encode]
    -- The field in front has another key, so it makes no difference whether it is written.
    split
    · rw [Json.valuesAt_cons_ne (slot.ne_of_not_mem hother).symm]
      exact ih hkeys b
    · exact ih hkeys b

theorem writes_of_required {t : Shape γ} {β : Type} {fields : Fields β} (slot : Slot key t fields)
    (h : slot.fallback? = none) (c : γ) : slot.writes c = true := by
  induction slot with
  | required => rfl
  | defaulted => cases h
  | behindRequired slot ih => exact ih h
  | behindDefaulted slot ih => exact ih h

theorem writes_none {u : Shape γ} {β : Type} {fields : Fields β}
    (slot : Slot key (.nullable u) fields) (hs : fields.solid = true) :
    slot.writes none = false := by
  induction slot with
  | required =>
    -- A field that is always written is not nullable.
    cases (Bool.and_eq_true_iff.1 (Bool.and_eq_true_iff.1 hs).1).1
  | @defaulted β fallback written unwritten rest =>
    have hout : (!written none) = true :=
      (Bool.and_eq_true_iff.1 (Bool.and_eq_true_iff.1 hs).1).1
    exact (Bool.not_eq_true' _).mp hout
  | behindRequired slot ih => exact ih (Bool.and_eq_true_iff.1 hs).2
  | behindDefaulted slot ih => exact ih (Bool.and_eq_true_iff.1 hs).2

/-- A field that must not be missing is written, once. -/
theorem valuesAt_encode_of_required {t : Shape γ} {β : Type} {fields : Fields β}
    (slot : Slot key t fields) (hk : fields.keys.Nodup) (hr : slot.fallback? = none) (b : β) :
    Json.valuesAt key (fields.encode b) = [t.encode (slot.get b)] := by
  rw [slot.valuesAt_encode hk, if_pos (slot.writes_of_required hr _)]

/-- Nothing is written under the key of a field whose value is absent. -/
theorem valuesAt_encode_of_absent {u : Shape γ} {β : Type} {fields : Fields β}
    (slot : Slot key (.nullable u) fields) (hk : fields.keys.Nodup) (hs : fields.solid = true)
    {b : β} (h : slot.get b = none) : Json.valuesAt key (fields.encode b) = [] := by
  rw [slot.valuesAt_encode hk, h, slot.writes_none hs]
  rfl

end Fields.Slot

namespace Shape

/-- The shape `t` stands inside another, at any depth. -/
inductive Within {γ : Type} (t : Shape γ) : {α : Type} → Shape α → Prop
  | here : Within t t
  | present {α : Type} {s : Shape α} (inner : Within t s) : Within t (.nullable s)
  | item {α : Type} {s : Shape α} (inner : Within t s) : Within t (.list s)
  | field {α β δ : Type} {s : Shape α} {key : String} {form : Form} {fields : Fields β}
      {parts : δ → β} {whole : β → δ} {h : ∀ a, whole (parts a) = a} (slot : fields.Slot key s)
      (inner : Within t s) : Within t (.record form fields parts whole h)

namespace Within

variable {γ α : Type} {t : Shape γ} {s : Shape α}

theorem sound (inside : Within t s) (h : s.sound = true) : t.sound = true := by
  induction inside with
  | here => exact h
  | present _ ih => exact ih (Bool.and_eq_true_iff.1 h).2
  | item _ ih => exact ih h
  | field slot _ ih => exact ih (slot.sound (Bool.and_eq_true_iff.1 h).2)

theorem solid (inside : Within t s) (h : s.solid = true) : t.solid = true := by
  induction inside with
  | here => exact h
  | present _ ih => exact ih (Bool.and_eq_true_iff.1 h).2
  | item _ ih => exact ih (Bool.and_eq_true_iff.1 h).2
  | field slot _ ih => exact ih (slot.solid h)

/-- In every record inside a solid shape the key of an absent field is missing. -/
theorem valuesAt_of_absent {β δ ε : Type} {form : Form} {fields : Fields β} {parts : δ → β}
    {whole : β → δ} {whole_parts : ∀ a, whole (parts a) = a} {key : String} {u : Shape ε}
    (inside : Within (.record form fields parts whole whole_parts) s) (hsound : s.sound = true)
    (hsolid : s.solid = true) (slot : fields.Slot key (.nullable u)) {a : δ}
    (h : slot.get (parts a) = none) : Json.valuesAt key (fields.encode (parts a)) = [] := by
  have hkeys : decide fields.keys.Nodup = true := (Bool.and_eq_true_iff.1 (inside.sound hsound)).1
  exact slot.valuesAt_encode_of_absent (of_decide_eq_true hkeys) (inside.solid hsolid) h

end Within

end Shape

end BuyerGateway

import BuyerGateway.Proofs.Json.Texts
import BuyerGateway.Proofs.Shape.Records
/-!
Writing a value and reading it back. A shape that cannot mistake a value for its absence, nor a
field for another, reads the tree of every value as that value, and the value's text as well, as far
as the texts of the doubles and timestamps inside it are read back themselves.
-/
namespace BuyerGateway

mutual

/-- How many containers the values of a shape have inside each other at most. -/
def Shape.height : {α : Type} → Shape α → Nat
  | _, .dictionary => 1
  | _, .nullable s => s.height
  | _, .list s => s.height + 1
  | _, .record _ fields _ _ _ => fields.height + 1
  | _, _ => 0

def Fields.height : {β : Type} → Fields β → Nat
  | _, .done => 0
  | _, .required _ s rest => max s.height rest.height
  | _, .defaulted _ s _ _ _ rest => max s.height rest.height

end

mutual

/-- The text of every double and of every timestamp inside the value is read back as the same. -/
def Shape.Legible : {α : Type} → Shape α → α → Prop
  | _, .real, x => Json.parse? (Json.render (.real x)) = some (.real x)
  | _, .moment, t => Timestamp.ofText? t.toText = some t
  | _, .nullable s, o => ∀ a, o = some a → s.Legible a
  | _, .list s, xs => ∀ a ∈ xs, s.Legible a
  | _, .record _ fields parts _ _, a => fields.Legible (parts a)
  | _, _, _ => True

def Fields.Legible : {β : Type} → Fields β → β → Prop
  | _, .done, _ => True
  | _, .required _ s rest, (a, b) => s.Legible a ∧ rest.Legible b
  | _, .defaulted _ s _ _ _ rest, (a, b) => s.Legible a ∧ rest.Legible b

end

instance Json.decidableEqSomeReal (o : Option Json) (x : Double) : Decidable (o = some (.real x)) :=
  match o with
  | some (.real y) => decidable_of_iff (y = x) ⟨fun h => h ▸ rfl, fun h => by cases h; rfl⟩
  | none => isFalse nofun
  | some .null => isFalse nofun
  | some (.flag _) => isFalse nofun
  | some (.integer _) => isFalse nofun
  | some (.text _) => isFalse nofun
  | some (.array _) => isFalse nofun
  | some (.object _) => isFalse nofun
  | some .unreadable => isFalse nofun

mutual

def Shape.decidableLegible : {α : Type} → (s : Shape α) → (a : α) → Decidable (s.Legible a)
  | _, .real, x =>
    inferInstanceAs (Decidable (Json.parse? (Json.render (.real x)) = some (.real x)))
  | _, .moment, t => inferInstanceAs (Decidable (Timestamp.ofText? t.toText = some t))
  | _, .nullable _, none => isTrue nofun
  | _, .nullable s, some a =>
    have := s.decidableLegible a
    decidable_of_iff (s.Legible a) ⟨fun h _ hb => Option.some.inj hb ▸ h, fun h => h a rfl⟩
  | _, .list s, xs =>
    have := s.decidableLegible
    inferInstanceAs (Decidable (∀ a ∈ xs, s.Legible a))
  | _, .record _ fields parts _ _, a => fields.decidableLegible (parts a)
  | _, .text, _ => isTrue trivial
  | _, .flag, _ => isTrue trivial
  | _, .count, _ => isTrue trivial
  | _, .dictionary, _ => isTrue trivial
  | _, .choice .., _ => isTrue trivial

def Fields.decidableLegible : {β : Type} → (fields : Fields β) → (b : β) →
    Decidable (fields.Legible b)
  | _, .done, _ => isTrue trivial
  | _, .required _ s rest, (a, b) =>
    have := s.decidableLegible a
    have := rest.decidableLegible b
    inferInstanceAs (Decidable (s.Legible a ∧ rest.Legible b))
  | _, .defaulted _ s _ _ _ rest, (a, b) =>
    have := s.decidableLegible a
    have := rest.decidableLegible b
    inferInstanceAs (Decidable (s.Legible a ∧ rest.Legible b))

end

instance {α : Type} (s : Shape α) (a : α) : Decidable (s.Legible a) := s.decidableLegible a

mutual

/-- The values of the shape hold no double and no timestamp. -/
def Shape.verbatim : {α : Type} → Shape α → Bool
  | _, .real => false
  | _, .moment => false
  | _, .nullable s => s.verbatim
  | _, .list s => s.verbatim
  | _, .record _ fields _ _ _ => fields.verbatim
  | _, _ => true

def Fields.verbatim : {β : Type} → Fields β → Bool
  | _, .done => true
  | _, .required _ s rest => s.verbatim && rest.verbatim
  | _, .defaulted _ s _ _ _ rest => s.verbatim && rest.verbatim

end

mutual

/-- Where nothing depends on the text of a number or of a time, every value is legible. -/
theorem Shape.legible_of_verbatim : {α : Type} → (s : Shape α) → s.verbatim = true → (a : α) →
    s.Legible a
  | _, .text, _, _ => trivial
  | _, .flag, _, _ => trivial
  | _, .count, _, _ => trivial
  | _, .dictionary, _, _ => trivial
  | _, .choice .., _, _ => trivial
  | _, .nullable s, h, _ => fun a _ => s.legible_of_verbatim h a
  | _, .list s, h, _ => fun a _ => s.legible_of_verbatim h a
  | _, .record _ fields parts _ _, h, a => fields.legible_of_verbatim h (parts a)

theorem Fields.legible_of_verbatim : {β : Type} → (fields : Fields β) → fields.verbatim = true →
    (b : β) → fields.Legible b
  | _, .done, _, _ => trivial
  | _, .required _ s rest, h, (a, b) =>
    ⟨s.legible_of_verbatim (Bool.and_eq_true_iff.1 h).1 a,
      rest.legible_of_verbatim (Bool.and_eq_true_iff.1 h).2 b⟩
  | _, .defaulted _ s _ _ _ rest, h, (a, b) =>
    ⟨s.legible_of_verbatim (Bool.and_eq_true_iff.1 h).1 a,
      rest.legible_of_verbatim (Bool.and_eq_true_iff.1 h).2 b⟩

end

/-! ### Leaves -/

theorem Json.count?_integer (n : UInt32) : Json.count? (.integer n.toNat) = some n := by
  have hlt : (n.toNat : Int) < Nat.pow 2 32 := Int.ofNat_lt.2 n.toNat_lt
  rw [Json.count?, if_pos ⟨Int.natCast_nonneg _, hlt⟩, Int.toNat_natCast, UInt32.ofNat_toNat]

theorem Dictionary.ofFields?_entries (d : Dictionary) :
    Dictionary.ofFields? (d.entries.map fun e => (e.1, Json.text e.2)) = some d := by
  have hread (es : List (String × String)) :
      (es.map fun e => (e.1, Json.text e.2)).mapM
        (fun f : String × Json => f.2.text?.map (f.1, ·)) = some es := by
    induction es with
    | nil => rfl
    | cons e es ih =>
      rw [List.map_cons, List.mapM_cons, ih]
      rfl
  rw [ofFields?, hread, Option.map_some, ofList_entries]

/-! ### Trees -/

theorem Shape.encode_ne_null : {α : Type} → (s : Shape α) → s.isNullable = false → (a : α) →
    s.encode a ≠ .null
  | _, .text, _, _ => nofun
  | _, .flag, _, _ => nofun
  | _, .count, _, _ => nofun
  | _, .real, _, _ => nofun
  | _, .moment, _, _ => nofun
  | _, .dictionary, _, _ => nofun
  | _, .choice .., _, _ => nofun
  | _, .list _, _, _ => nofun
  | _, .record .., _, _ => nofun

theorem Json.fits_array {room : Nat} {items : List Json}
    (h : ∀ v ∈ items, Json.fits room v = true) :
    Json.fits (room + 1) (.array items) = true := List.all_eq_true.2 h

theorem Json.fits_object {room : Nat} {fields : List (String × Json)}
    (h : ∀ f ∈ fields, Json.fits room f.2 = true) :
    Json.fits (room + 1) (.object fields) = true := List.all_eq_true.2 h

theorem Json.fits_text (room : Nat) (s : String) : Json.fits room (.text s) = true := by
  cases room <;> rfl

mutual

theorem Shape.fits_encode : {α : Type} → (s : Shape α) → (a : α) → {room : Nat} →
    s.height ≤ room → Json.fits room (s.encode a) = true
  | _, .text, s, _, _ => Json.fits_text _ s
  | _, .flag, b, room, _ => by cases room <;> rfl
  | _, .count, n, room, _ => by cases room <;> rfl
  | _, .real, x, room, _ => by cases room <;> rfl
  | _, .moment, t, _, _ => Json.fits_text _ t.toText
  | _, .dictionary, d, room + 1, _ => by
    apply Json.fits_object
    intro f hf
    obtain ⟨e, -, rfl⟩ := List.mem_map.1 hf
    exact Json.fits_text room e.2
  | _, .choice name _ _, a, _, _ => Json.fits_text _ (name a)
  | _, .nullable _, none, room, _ => by cases room <;> rfl
  | _, .nullable s, some a, _, h => s.fits_encode a h
  | _, .list s, xs, room + 1, h => by
    apply Json.fits_array
    intro v hv
    obtain ⟨a, -, rfl⟩ := List.mem_map.1 hv
    exact s.fits_encode a (Nat.le_of_succ_le_succ h)
  | _, .record _ fields parts _ _, a, room + 1, h =>
    Json.fits_object fun f hf => fields.fits_encode (parts a) (Nat.le_of_succ_le_succ h) f hf

theorem Fields.fits_encode : {β : Type} → (fields : Fields β) → (b : β) → {room : Nat} →
    fields.height ≤ room → ∀ f ∈ fields.encode b, Json.fits room f.2 = true
  | _, .done, _, _, _ => nofun
  | _, .required key s rest, (a, b), room, h => by
    intro f hf
    rcases List.mem_cons.1 hf with rfl | hf
    · exact s.fits_encode a (Nat.le_trans (Nat.le_max_left _ _) h)
    · exact rest.fits_encode b (Nat.le_trans (Nat.le_max_right _ _) h) f hf
  | _, .defaulted key s fallback written unwritten rest, (a, b), room, h => by
    intro f hf
    have hrest := rest.fits_encode b (Nat.le_trans (Nat.le_max_right _ _) h)
    rw [Fields.encode] at hf
    split at hf
    · rcases List.mem_cons.1 hf with rfl | hf
      · exact s.fits_encode a (Nat.le_trans (Nat.le_max_left _ _) h)
      · exact hrest f hf
    · exact hrest f hf

end

mutual

/-- The tree of a value is one that its text tells. -/
theorem Shape.legible_encode : {α : Type} → (s : Shape α) → (a : α) → s.Legible a →
    Json.Legible (s.encode a)
  | _, .text, s, _ => .text s
  | _, .flag, b, _ => .flag b
  | _, .count, n, _ => .natural (Nat.lt_of_lt_of_le n.toNat_lt (by decide))
  | _, .real, _, h => .real h
  | _, .moment, t, _ => .text t.toText
  | _, .dictionary, d, _ => by
    apply Json.Legible.object
    intro f hf
    obtain ⟨e, -, rfl⟩ := List.mem_map.1 hf
    exact .text e.2
  | _, .choice name _ _, a, _ => .text (name a)
  | _, .nullable _, none, _ => .null
  | _, .nullable s, some a, h => s.legible_encode a (h a rfl)
  | _, .list s, xs, h => by
    apply Json.Legible.array
    intro v hv
    obtain ⟨a, ha, rfl⟩ := List.mem_map.1 hv
    exact s.legible_encode a (h a ha)
  | _, .record _ fields parts _ _, a, h =>
    .object fun f hf => fields.legible_encode (parts a) h f hf

theorem Fields.legible_encode : {β : Type} → (fields : Fields β) → (b : β) → fields.Legible b →
    ∀ f ∈ fields.encode b, Json.Legible f.2
  | _, .done, _, _ => nofun
  | _, .required key s rest, (a, b), h => by
    intro f hf
    rcases List.mem_cons.1 hf with rfl | hf
    · exact s.legible_encode a h.1
    · exact rest.legible_encode b h.2 f hf
  | _, .defaulted key s fallback written unwritten rest, (a, b), h => by
    intro f hf
    rw [Fields.encode] at hf
    split at hf
    · rcases List.mem_cons.1 hf with rfl | hf
      · exact s.legible_encode a h.1
      · exact rest.legible_encode b h.2 f hf
    · exact rest.legible_encode b h.2 f hf

end

/-! ### Reading back -/

mutual

theorem Shape.decode_encode : {α : Type} → (s : Shape α) → s.sound = true → (a : α) → {room : Nat} →
    s.height ≤ room → s.Legible a → s.decode room (s.encode a) = some a
  | _, .text, _, _, _, _, _ => rfl
  | _, .flag, _, _, _, _, _ => rfl
  | _, .count, _, n, _, _, _ => Json.count?_integer n
  | _, .real, _, _, _, _, _ => rfl
  | _, .moment, _, t, _, _, h => by
    rw [Shape.encode, Shape.decode, Json.text?, Option.bind_some]
    exact h
  | _, .dictionary, _, d, _, _, _ => Dictionary.ofFields?_entries d
  | _, .choice _ _ find_name, _, a, _, _, _ => find_name a
  | _, .nullable _, _, none, _, _, _ => rfl
  | _, .nullable s, hs, some a, room, hr, h => by
    -- What is not nullable is never written as null, and so not taken for the absence of a value.
    obtain ⟨hnull, hsound⟩ := Bool.and_eq_true_iff.1 hs
    have hne : s.encode a ≠ .null := s.encode_ne_null (by simpa using hnull) a
    have hread := s.decode_encode hsound a hr (h a rfl)
    rw [Shape.encode, Shape.decode, hread]
    · rfl
    · exact hne
  | _, .list s, hs, xs, room, hr, h => by
    have hroom : s.height ≤ room - 1 := Nat.le_sub_one_of_lt hr
    have hitems (ys : List _) (hys : ∀ a ∈ ys, s.Legible a) :
        (ys.map s.encode).mapM (s.decode (room - 1)) = some ys := by
      induction ys with
      | nil => rfl
      | cons y ys ih =>
        have hy := s.decode_encode hs y hroom (hys y List.mem_cons_self)
        rw [List.map_cons, List.mapM_cons, hy, ih fun a ha => hys a (List.mem_cons_of_mem _ ha)]
        rfl
    exact hitems xs h
  | _, .record form fields parts whole whole_parts, hs, a, room, hr, h => by
    obtain ⟨hkeys, hsound⟩ := Bool.and_eq_true_iff.1 hs
    have hfields := fields.decodeNamed_encode (of_decide_eq_true hkeys) hsound (parts a)
      (Nat.le_sub_one_of_lt hr) h
    have hfits : Json.fits room (.object (fields.encode (parts a))) = true :=
      (Shape.record form fields parts whole whole_parts).fits_encode a hr
    rw [Shape.encode]
    cases form with
    | plain => rw [Shape.decode, hfields, Option.map_some, whole_parts]
    | merged => rw [Shape.decode, if_pos hfits, hfields, Option.map_some, whole_parts]

theorem Fields.decodeNamed_encode : {β : Type} → (fields : Fields β) → fields.keys.Nodup →
    fields.sound = true → (b : β) → {room : Nat} → fields.height ≤ room → fields.Legible b →
    fields.decodeNamed room (fields.encode b) = some b
  | _, .done, _, _, _, _, _, _ => rfl
  | _, .required key s rest, hk, hs, (a, b), room, hr, h => by
    obtain ⟨hkey, hkeys⟩ := List.nodup_cons.1 hk
    obtain ⟨hsound, hsounds⟩ := Bool.and_eq_true_iff.1 hs
    have ha := s.decode_encode hsound a (Nat.le_trans (Nat.le_max_left _ _) hr) h.1
    have hb := rest.decodeNamed_encode hkeys hsounds b (Nat.le_trans (Nat.le_max_right _ _) hr) h.2
    -- No field behind this one has its key, so it is given once, and the others do without it.
    rw [Fields.encode, Fields.decodeNamed, Json.valuesAt_cons_self, Fields.valuesAt_encode hkey,
      Fields.decodeNamed_cons hkey, hb]
    simp only [ha]
    rfl
  | _, .defaulted key s fallback written unwritten rest, hk, hs, (a, b), room, hr, h => by
    obtain ⟨hkey, hkeys⟩ := List.nodup_cons.1 hk
    obtain ⟨hsound, hsounds⟩ := Bool.and_eq_true_iff.1 hs
    have ha := s.decode_encode hsound a (Nat.le_trans (Nat.le_max_left _ _) hr) h.1
    have hb := rest.decodeNamed_encode hkeys hsounds b (Nat.le_trans (Nat.le_max_right _ _) hr) h.2
    rw [Fields.encode]
    split
    · rw [Fields.decodeNamed, Json.valuesAt_cons_self, Fields.valuesAt_encode hkey,
        Fields.decodeNamed_cons hkey, hb]
      simp only [ha]
      rfl
    · -- What is not written is the fallback, which is read where there is nothing.
      rename_i hwritten
      have hfallback : a = fallback := unwritten a (Bool.not_eq_true _ ▸ hwritten)
      rw [Fields.decodeNamed, Fields.valuesAt_encode hkey, hb, hfallback]
      rfl

end

namespace Shape

variable {α : Type} {s : Shape α} {a : α}

/-- The text of a value is read back as the value. -/
theorem ofText?_toText (hs : s.sound = true) (hr : s.height ≤ roomOfText) (h : s.Legible a) :
    s.ofText? (s.toText a) = some a := by
  rw [ofText?, toText, Json.parse?_render (s.legible_encode a h), Option.bind_some]
  exact s.decode_encode hs a hr h

theorem ofBytes?_toBytes (hs : s.sound = true) (hr : s.height ≤ roomOfText) (h : s.Legible a) :
    s.ofBytes? (s.toBytes a) = some a := ofText?_toText hs hr h

end Shape

end BuyerGateway

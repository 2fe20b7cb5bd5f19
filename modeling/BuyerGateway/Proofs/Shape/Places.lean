import BuyerGateway.Proofs.Shape.Records
/-!
Places inside a value and its tree. What stands at a place of a tree can be exchanged for something
else; what is read then differs at this place alone, by the change in what is read there.
-/
namespace BuyerGateway

namespace Json

theorem valuesAt_middle (key : String) (v : Json) (before after : List (String × Json)) :
    valuesAt key (before ++ (key, v) :: after) =
      valuesAt key before ++ v :: valuesAt key after := by
  rw [valuesAt_append, valuesAt_cons_self]

theorem valuesAt_middle_ne {key other : String} (h : other ≠ key) (v v' : Json)
    (before after : List (String × Json)) :
    valuesAt key (before ++ (other, v) :: after) =
      valuesAt key (before ++ (other, v') :: after) := by
  rw [valuesAt_append, valuesAt_append, valuesAt_cons_ne h, valuesAt_cons_ne h]

/-- The fields of an object without those under a key. -/
def remove (key : String) (fields : List (String × Json)) : List (String × Json) :=
  fields.filter (·.1 != key)

theorem valuesAt_remove_self (key : String) (fields : List (String × Json)) :
    valuesAt key (remove key fields) = [] := by
  apply valuesAt_eq_nil
  intro f hf
  exact bne_iff_ne.1 (List.mem_filter.1 hf).2

theorem valuesAt_remove_ne {key other : String} (h : key ≠ other)
    (fields : List (String × Json)) : valuesAt key (remove other fields) = valuesAt key fields := by
  rw [valuesAt, valuesAt, remove, List.filter_filter]
  congr 1
  apply List.filter_congr
  intro f _
  by_cases hf : f.1 = key
  · simp [hf, h]
  · simp [hf]

end Json

namespace Fields

/-- A field of a record, by its key, its shape and where it stands. -/
inductive Slot {γ : Type} (key : String) (t : Shape γ) : {β : Type} → Fields β → Type 1 where
  | required {β : Type} {rest : Fields β} : Slot key t (.required key t rest)
  | defaulted {β : Type} {fallback : γ} {written : γ → Bool}
      {unwritten : ∀ a, written a = false → a = fallback} {rest : Fields β} :
      Slot key t (.defaulted key t fallback written unwritten rest)
  | behindRequired {α β : Type} {other : String} {s : Shape α} {rest : Fields β}
      (slot : Slot key t rest) : Slot key t (.required other s rest)
  | behindDefaulted {α β : Type} {other : String} {s : Shape α} {fallback : α} {written : α → Bool}
      {unwritten : ∀ a, written a = false → a = fallback} {rest : Fields β}
      (slot : Slot key t rest) : Slot key t (.defaulted other s fallback written unwritten rest)

namespace Slot

variable {γ : Type} {key : String} {t : Shape γ}

/-- The record with this field changed. -/
def modify (f : γ → γ) : {β : Type} → {fields : Fields β} → Slot key t fields → β → β
  | _, _, .required, (a, b) => (f a, b)
  | _, _, .defaulted, (a, b) => (f a, b)
  | _, _, .behindRequired slot, (a, b) => (a, slot.modify f b)
  | _, _, .behindDefaulted slot, (a, b) => (a, slot.modify f b)

theorem modify_id : {β : Type} → {fields : Fields β} → (slot : Slot key t fields) → (b : β) →
    slot.modify id b = b
  | _, _, .required, _ => rfl
  | _, _, .defaulted, _ => rfl
  | _, _, .behindRequired slot, (a, b) => congrArg (a, ·) (slot.modify_id b)
  | _, _, .behindDefaulted slot, (a, b) => congrArg (a, ·) (slot.modify_id b)

/-- How many fields stand in front of this one. -/
def index : {β : Type} → {fields : Fields β} → Slot key t fields → Nat
  | _, _, .required => 0
  | _, _, .defaulted => 0
  | _, _, .behindRequired slot => slot.index + 1
  | _, _, .behindDefaulted slot => slot.index + 1

/-- What the field is where it is missing, unless it must not be. -/
def fallback? : {β : Type} → {fields : Fields β} → Slot key t fields → Option γ
  | _, _, .required => none
  | _, .defaulted _ _ d _ _ _, .defaulted => some d
  | _, _, .behindRequired slot => slot.fallback?
  | _, _, .behindDefaulted slot => slot.fallback?

/-- The value `v` stands for the field in the first tree of a record, and `v'` in the second, which
is the same otherwise. -/
inductive Holds {β : Type} {fields : Fields β} (slot : Slot key t fields) (v v' : Json) :
    Json → Json → Prop
  | named (before : List (String × Json)) {after : List (String × Json)} :
      Holds slot v v' (.object (before ++ (key, v) :: after))
        (.object (before ++ (key, v') :: after))
  | listed (before : List Json) {after : List Json} (h : before.length = slot.index) :
      Holds slot v v' (.array (before ++ v :: after)) (.array (before ++ v' :: after))

theorem Holds.symm {β : Type} {fields : Fields β} {slot : Slot key t fields} {v v' u u' : Json}
    (h : slot.Holds v v' u u') : slot.Holds v' v u' u := by
  cases h with
  | named before => exact .named before
  | listed before hlength => exact .listed before hlength

/-! ### What is read of a field -/

theorem key_mem_keys : {β : Type} → {fields : Fields β} → Slot key t fields → key ∈ fields.keys
  | _, _, .required => List.mem_cons_self
  | _, _, .defaulted => List.mem_cons_self
  | _, _, .behindRequired slot => List.mem_cons_of_mem _ slot.key_mem_keys
  | _, _, .behindDefaulted slot => List.mem_cons_of_mem _ slot.key_mem_keys

theorem ne_of_not_mem {β : Type} {fields : Fields β} (slot : Slot key t fields) {other : String}
    (h : other ∉ fields.keys) : key ≠ other := by
  rintro rfl
  exact h slot.key_mem_keys

end Slot

/-- A value under a key that is not the record's own makes no difference. -/
theorem decodeNamed_middle_ne {β : Type} {fields : Fields β} {key : String} (h : key ∉ fields.keys)
    (room : Nat) (v v' : Json) (before after : List (String × Json)) :
    fields.decodeNamed room (before ++ (key, v) :: after) =
      fields.decodeNamed room (before ++ (key, v') :: after) := by
  apply decodeNamed_congr
  intro k hk
  apply Json.valuesAt_middle_ne
  rintro rfl
  exact h hk

namespace Slot

variable {γ : Type} {key : String} {t : Shape γ} {f : γ → γ} {v v' : Json} {room : Nat}

theorem decodeOne?_middle {before after : List Json} {missing : Option γ}
    (hf : ∀ c, t.decode room v = some c → t.decode room v' = some (f c)) {c : γ}
    (h : t.decodeOne? missing room (before ++ v :: after) = some c) :
    t.decodeOne? missing room (before ++ v' :: after) = some (f c) := by
  -- There is nothing around the value, or nothing would have been read.
  match before, after with
  | [], [] => exact hf c h
  | [], _ :: _ => cases h
  | [_], _ => cases h
  | _ :: _ :: _, _ => cases h

/-- Another value under the key of a field changes this field alone in what is read of an object. -/
theorem decodeNamed_middle {before after : List (String × Json)}
    (hf : ∀ c, t.decode room v = some c → t.decode room v' = some (f c)) {β : Type}
    {fields : Fields β} (slot : Slot key t fields) (hk : fields.keys.Nodup) {b : β}
    (h : fields.decodeNamed room (before ++ (key, v) :: after) = some b) :
    fields.decodeNamed room (before ++ (key, v') :: after) = some (slot.modify f b) := by
  induction slot with
  | required =>
    obtain ⟨c, b⟩ := b
    obtain ⟨hkey, -⟩ := List.nodup_cons.1 hk
    rw [decodeNamed_required, Json.valuesAt_middle] at h ⊢
    obtain ⟨hc, hb⟩ := both_eq_some_iff.1 h
    -- The fields behind have other keys, and are read alike from both objects.
    rw [decodeNamed_middle_ne hkey room v v'] at hb
    exact both_eq_some_iff.2 ⟨decodeOne?_middle hf hc, hb⟩
  | defaulted =>
    obtain ⟨c, b⟩ := b
    obtain ⟨hkey, -⟩ := List.nodup_cons.1 hk
    rw [decodeNamed_defaulted, Json.valuesAt_middle] at h ⊢
    obtain ⟨hc, hb⟩ := both_eq_some_iff.1 h
    rw [decodeNamed_middle_ne hkey room v v'] at hb
    exact both_eq_some_iff.2 ⟨decodeOne?_middle hf hc, hb⟩
  | behindRequired slot ih =>
    obtain ⟨a, b⟩ := b
    obtain ⟨hother, hkeys⟩ := List.nodup_cons.1 hk
    rw [decodeNamed_required] at h ⊢
    rw [← Json.valuesAt_middle_ne (slot.ne_of_not_mem hother) v v']
    obtain ⟨ha, hb⟩ := both_eq_some_iff.1 h
    exact both_eq_some_iff.2 ⟨ha, ih hkeys hb⟩
  | behindDefaulted slot ih =>
    obtain ⟨a, b⟩ := b
    obtain ⟨hother, hkeys⟩ := List.nodup_cons.1 hk
    rw [decodeNamed_defaulted] at h ⊢
    rw [← Json.valuesAt_middle_ne (slot.ne_of_not_mem hother) v v']
    obtain ⟨ha, hb⟩ := both_eq_some_iff.1 h
    exact both_eq_some_iff.2 ⟨ha, ih hkeys hb⟩

/-- Another value at the position of a field changes this field alone in what is read of a list. -/
theorem decodeListed_middle {before after : List Json}
    (hf : ∀ c, t.decode room v = some c → t.decode room v' = some (f c)) {β : Type}
    {fields : Fields β} (slot : Slot key t fields) (hb : before.length = slot.index) {b : β}
    (h : fields.decodeListed room (before ++ v :: after) = some b) :
    fields.decodeListed room (before ++ v' :: after) = some (slot.modify f b) := by
  induction slot generalizing before with
  | required =>
    obtain ⟨c, b⟩ := b
    cases List.length_eq_zero_iff.1 hb
    obtain ⟨hc, hrest⟩ := both_eq_some_iff.1 h
    exact both_eq_some_iff.2 ⟨hf c hc, hrest⟩
  | defaulted =>
    obtain ⟨c, b⟩ := b
    cases List.length_eq_zero_iff.1 hb
    obtain ⟨hc, hrest⟩ := both_eq_some_iff.1 h
    exact both_eq_some_iff.2 ⟨hf c hc, hrest⟩
  | behindRequired slot ih =>
    obtain ⟨a, b⟩ := b
    cases before with
    | nil => cases hb
    | cons u before =>
      obtain ⟨ha, hrest⟩ := both_eq_some_iff.1 h
      exact both_eq_some_iff.2 ⟨ha, ih (Nat.succ.inj hb) hrest⟩
  | behindDefaulted slot ih =>
    obtain ⟨a, b⟩ := b
    cases before with
    | nil => cases hb
    | cons u before =>
      obtain ⟨ha, hrest⟩ := both_eq_some_iff.1 h
      exact both_eq_some_iff.2 ⟨ha, ih (Nat.succ.inj hb) hrest⟩

/-- Without a field that may be missing, an object is read with the field's fallback. -/
theorem decodeNamed_remove {given : List (String × Json)} {β : Type} {fields : Fields β}
    (slot : Slot key t fields) (hk : fields.keys.Nodup) {d : γ} (hd : slot.fallback? = some d)
    {b : β} (h : fields.decodeNamed room given = some b) :
    fields.decodeNamed room (Json.remove key given) = some (slot.modify (fun _ => d) b) := by
  induction slot with
  | required => cases hd
  | @defaulted β fallback written unwritten rest =>
    obtain ⟨c, b⟩ := b
    obtain ⟨hkey, -⟩ := List.nodup_cons.1 hk
    have hrest : rest.decodeNamed room (Json.remove key given) = rest.decodeNamed room given := by
      apply decodeNamed_congr
      intro k hkrest
      apply Json.valuesAt_remove_ne
      rintro rfl
      exact hkey hkrest
    rw [decodeNamed_defaulted] at h ⊢
    rw [Json.valuesAt_remove_self, hrest]
    exact both_eq_some_iff.2 ⟨hd, (both_eq_some_iff.1 h).2⟩
  | behindRequired slot ih =>
    obtain ⟨a, b⟩ := b
    obtain ⟨hother, hkeys⟩ := List.nodup_cons.1 hk
    rw [decodeNamed_required] at h ⊢
    rw [Json.valuesAt_remove_ne (slot.ne_of_not_mem hother).symm]
    obtain ⟨ha, hb⟩ := both_eq_some_iff.1 h
    exact both_eq_some_iff.2 ⟨ha, ih hkeys hd hb⟩
  | behindDefaulted slot ih =>
    obtain ⟨a, b⟩ := b
    obtain ⟨hother, hkeys⟩ := List.nodup_cons.1 hk
    rw [decodeNamed_defaulted] at h ⊢
    rw [Json.valuesAt_remove_ne (slot.ne_of_not_mem hother).symm]
    obtain ⟨ha, hb⟩ := both_eq_some_iff.1 h
    exact both_eq_some_iff.2 ⟨ha, ih hkeys hd hb⟩

/-- A record is read from the second tree as from the first, but for the field
that they differ in. -/
theorem Holds.decode {β δ : Type} {fields : Fields β} {slot : Slot key t fields} {u u' : Json}
    (holds : slot.Holds v v' u u') (hk : fields.keys.Nodup) {parts : δ → β} {whole : β → δ}
    {whole_parts : ∀ a, whole (parts a) = a} (he : ∀ b, parts (whole b) = b)
    (hf : ∀ room c, t.decode room v = some c → t.decode room v' = some (f c)) {a : δ}
    (h : (Shape.record .plain fields parts whole whole_parts).decode room u = some a) :
    (Shape.record .plain fields parts whole whole_parts).decode room u' =
      some (whole (slot.modify f (parts a))) := by
  cases holds with
  | named before =>
    rw [Shape.decode] at h ⊢
    obtain ⟨b, hb, rfl⟩ := Option.map_eq_some_iff.1 h
    rw [slot.decodeNamed_middle (hf _) hk hb, he]
    rfl
  | listed before hlength =>
    rw [Shape.decode] at h ⊢
    obtain ⟨b, hb, rfl⟩ := Option.map_eq_some_iff.1 h
    rw [slot.decodeListed_middle (hf _) hlength hb, he]
    rfl

end Slot

end Fields

mutual

/-- Records are taken apart into just what they were put together of. -/
def Shape.Exact : {α : Type} → Shape α → Prop
  | _, .nullable s => s.Exact
  | _, .list s => s.Exact
  | _, .record _ fields parts whole _ => (∀ b, parts (whole b) = b) ∧ fields.Exact
  | _, _ => True

def Fields.Exact : {β : Type} → Fields β → Prop
  | _, .done => True
  | _, .required _ s rest => s.Exact ∧ rest.Exact
  | _, .defaulted _ s _ _ _ rest => s.Exact ∧ rest.Exact

end

namespace Fields.Slot

variable {γ β : Type} {key : String} {t : Shape γ} {fields : Fields β}

theorem exact (slot : Slot key t fields) (h : fields.Exact) : t.Exact := by
  induction slot with
  | required => exact h.1
  | defaulted => exact h.1
  | behindRequired slot ih => exact ih h.2
  | behindDefaulted slot ih => exact ih h.2

theorem sound (slot : Slot key t fields) (h : fields.sound = true) : t.sound = true := by
  induction slot with
  | required => exact (Bool.and_eq_true_iff.1 h).1
  | defaulted => exact (Bool.and_eq_true_iff.1 h).1
  | behindRequired slot ih => exact ih (Bool.and_eq_true_iff.1 h).2
  | behindDefaulted slot ih => exact ih (Bool.and_eq_true_iff.1 h).2

end Fields.Slot

/-- One value of a list of results is changed where one that they come from is exchanged. -/
theorem mapM_middle {α β : Type} {read : α → Option β} {f : β → β} {v v' : α}
    {before after : List α} (hf : ∀ b, read v = some b → read v' = some (f b)) {bs : List β}
    (h : (before ++ v :: after).mapM read = some bs) :
    (before ++ v' :: after).mapM read = some (bs.modify before.length f) := by
  induction before generalizing bs with
  | nil =>
    rw [List.nil_append, List.mapM_cons] at h ⊢
    obtain ⟨b, hb, h⟩ := Option.bind_eq_some_iff.1 h
    obtain ⟨cs, hcs, h⟩ := Option.bind_eq_some_iff.1 h
    cases h
    rw [hf b hb, hcs]
    rfl
  | cons u before ih =>
    rw [List.cons_append, List.mapM_cons] at h ⊢
    obtain ⟨b, hb, h⟩ := Option.bind_eq_some_iff.1 h
    obtain ⟨cs, hcs, h⟩ := Option.bind_eq_some_iff.1 h
    cases h
    rw [hb, ih hcs]
    rfl

namespace Shape

/-- In the first tree `w` stands where the shape has `t`, at any depth, and in the second `w'`;
otherwise they are the same. A change of what is read there lifts to a change of the whole value. -/
inductive Place {γ : Type} (t : Shape γ) (w w' : Json) :
    {α : Type} → Shape α → Json → Json → ((γ → γ) → α → α) → Prop
  | here : Place t w w' t w w' id
  | present {α : Type} {s : Shape α} {v v' : Json} {lift : (γ → γ) → α → α}
      (p : Place t w w' s v v' lift) : Place t w w' (.nullable s) v v' fun f => Option.map (lift f)
  | item {α : Type} {s : Shape α} {v v' : Json} {lift : (γ → γ) → α → α} (before : List Json)
      {after : List Json} (p : Place t w w' s v v' lift) :
      Place t w w' (.list s) (.array (before ++ v :: after)) (.array (before ++ v' :: after))
        fun f xs => xs.modify before.length (lift f)
  | field {α β δ : Type} {s : Shape α} {v v' u u' : Json} {lift : (γ → γ) → α → α} {key : String}
      {fields : Fields β} {parts : δ → β} {whole : β → δ} {h : ∀ a, whole (parts a) = a}
      (slot : fields.Slot key s) (p : Place t w w' s v v' lift) (holds : slot.Holds v v' u u') :
      Place t w w' (.record .plain fields parts whole h) u u'
        fun f a => whole (slot.modify (lift f) (parts a))

namespace Place

variable {γ α : Type} {t : Shape γ} {w w' : Json} {s : Shape α} {v v' : Json}
  {lift : (γ → γ) → α → α}

theorem ne_null (p : Place t w w' s v v' lift) (hw : w ≠ .null) (hw' : w' ≠ .null) :
    v ≠ .null ∧ v' ≠ .null := by
  induction p with
  | here => exact ⟨hw, hw'⟩
  | present p ih => exact ih
  | item before p ih => exact ⟨nofun, nofun⟩
  | field slot p holds ih => cases holds <;> exact ⟨nofun, nofun⟩

theorem exact (p : Place t w w' s v v' lift) (h : s.Exact) : t.Exact := by
  induction p with
  | here => exact h
  | present p ih => exact ih h
  | item before p ih => exact ih h
  | field slot p holds ih => exact ih (slot.exact h.2)

theorem sound (p : Place t w w' s v v' lift) (h : s.sound = true) : t.sound = true := by
  induction p with
  | here => exact h
  | present p ih => exact ih (Bool.and_eq_true_iff.1 h).2
  | item before p ih => exact ih h
  | field slot p holds ih => exact ih (slot.sound (Bool.and_eq_true_iff.1 h).2)

/-- A change that leaves all as it is lifts to one that does. -/
theorem lift_id (p : Place t w w' s v v' lift) : lift id = id := by
  induction p with
  | here => rfl
  | present p ih =>
    funext o
    simp only [ih, Option.map_id, id_eq]
  | item before p ih =>
    funext xs
    simp only [ih, List.modify_id, id_eq]
  | @field _ _ _ _ _ _ _ _ _ _ _ parts whole h slot p holds ih =>
    funext a
    simp only [ih, slot.modify_id, h, id_eq]

/-- A value at a place of a tree can be exchanged for one that is read as something else. The tree
is then read as before, but for this place. -/
theorem decode (p : Place t w w' s v v' lift) (hw : w ≠ .null) (hw' : w' ≠ .null)
    {f : γ → γ} (hf : ∀ room c, t.decode room w = some c → t.decode room w' = some (f c))
    (hs : s.sound = true) (he : s.Exact) {room : Nat} {a : α} (h : s.decode room v = some a) :
    s.decode room v' = some (lift f a) := by
  induction p generalizing room with
  | here => exact hf room a h
  | @present _ s v v' lift p ih =>
    obtain ⟨hnull, hnull'⟩ := p.ne_null hw hw'
    rw [Shape.decode] at h ⊢
    · -- A value is present on both sides, so neither is read as absent.
      obtain ⟨b, hb, rfl⟩ := Option.map_eq_some_iff.1 h
      rw [ih (Bool.and_eq_true_iff.1 hs).2 he hb]
      rfl
    · exact hnull'
    · exact hnull
  | item before p ih =>
    rw [Shape.decode] at h ⊢
    exact mapM_middle (fun b hb => ih hs he hb) h
  | @field _ _ _ _ _ _ _ _ _ _ _ parts whole whole_parts slot p holds ih =>
    obtain ⟨hkeys, hsound⟩ := Bool.and_eq_true_iff.1 hs
    exact holds.decode (of_decide_eq_true hkeys) he.1
      (fun room c hc => ih (slot.sound hsound) (slot.exact he.2) hc) h

theorem symm (p : Place t w w' s v v' lift) : Place t w' w s v' v lift := by
  induction p with
  | here => exact .here
  | present p ih => exact .present ih
  | item before p ih => exact .item before ih
  | field slot p holds ih => exact .field slot ih holds.symm

/-- Two trees that differ at a place, where the same is read of both, are read alike. -/
theorem decode_eq (p : Place t w w' s v v' lift) (hw : w ≠ .null) (hw' : w' ≠ .null)
    (h : ∀ room, t.decode room w = t.decode room w') (hs : s.sound = true) (he : s.Exact)
    (room : Nat) : s.decode room v = s.decode room v' := by
  have forth {a : α} (ha : s.decode room v = some a) : s.decode room v' = some a := by
    have hread := p.decode hw hw' (f := id) (fun room c hc => (h room).symm.trans hc) hs he ha
    rwa [p.lift_id] at hread
  have back {a : α} (ha : s.decode room v' = some a) : s.decode room v = some a := by
    have hread := p.symm.decode hw' hw (f := id) (fun room c hc => (h room).trans hc) hs he ha
    rwa [p.lift_id] at hread
  exact Option.ext fun a => ⟨forth, back⟩

end Place

end Shape

end BuyerGateway

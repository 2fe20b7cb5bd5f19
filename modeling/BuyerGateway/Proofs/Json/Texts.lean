import BuyerGateway.Proofs.Json.Numbers
/-!
A tree is read back from its text. The text of a value is cut into lexemes in the same way whatever
ends it, and its lexemes take the reader from where a value may come to behind that value, whatever
containers are open around it.
-/
namespace BuyerGateway.Json

open Text Lexeme

/-- A tree all of which its text tells: nothing in it is unreadable, its integers are natural
numbers of 64 bits, and each of its doubles is read back from its own text. -/
inductive Legible : Json → Prop
  | null : Legible .null
  | flag (b : Bool) : Legible (.flag b)
  | natural {n : Nat} (h : n < Nat.pow 2 64) : Legible (.integer n)
  | real {x : Double} (h : parse? (render (.real x)) = some (.real x)) : Legible (.real x)
  | text (s : String) : Legible (.text s)
  | array {items : List Json} (h : ∀ v ∈ items, Legible v) : Legible (.array items)
  | object {fields : List (String × Json)} (h : ∀ f ∈ fields, Legible f.2) :
      Legible (.object fields)

/-- The bytes are cut into these lexemes, whatever ends them. -/
def Cut (bs : List UInt8) (ls : List Lexeme) : Prop :=
  ∀ done rest, Ends rest → scan .between done (bs ++ rest) = scan .between (ls.reverse ++ done) rest

/-- The lexemes make up this value, also at the start of an array. -/
structure Spells (ls : List Lexeme) (v : Json) : Prop where
  value : ∀ frames, ls.foldlM Partial.step ⟨.value, frames⟩ = some ⟨.after v, frames⟩
  firstItem : ∀ frames, ls.foldlM Partial.step ⟨.firstItem, frames⟩ = some ⟨.after v, frames⟩

/-- The text of the value is cut into lexemes that make it up again. -/
def Told (v : Json) : Prop := ∃ ls, Cut (bytesOf (render v).toList) ls ∧ Spells ls v

/-! ### Single lexemes -/

theorem told_of_scalar {v : Json} (hne : bytesOf (render v).toList ≠ [])
    (hbytes : ∀ b ∈ bytesOf (render v).toList, WordByte b)
    (h : ofWord? (bytesOf (render v).toList) = some (.scalar v)) : Told v := by
  refine ⟨[.scalar v], ?_, fun _ => rfl, fun _ => rfl⟩
  intro done rest hrest
  rw [scan_word hne hbytes done hrest, h]
  rfl

theorem told_text (s : String) : Told (.text s) := by
  refine ⟨[.string (some s)], ?_, fun _ => rfl, fun _ => rfl⟩
  intro done rest _
  rw [render]
  exact scan_quote s done rest

theorem told_natural {n : Nat} (h : n < Nat.pow 2 64) : Told (.integer n) := by
  have hchars : (render (.integer n)).toList = Nat.toDigits 10 n := by
    rw [render]
    exact String.toList_ofList
  apply told_of_scalar
  · rw [hchars]
    intro hnil
    have hword := ofWord?_toDigits h
    rw [hnil] at hword
    cases hword
  · rw [hchars]
    exact (bytesOf_number (NumberChars.toDigits n)).2
  · rw [hchars]
    exact ofWord?_toDigits h

theorem told_real {x : Double} (h : parse? (render (.real x)) = some (.real x)) :
    Told (.real x) := by
  have hword := ofWord?_real h
  apply told_of_scalar
  · intro hnil
    rw [hnil] at hword
    cases hword
  · rw [render]
    exact (bytesOf_number (NumberChars.render numberLayout x)).2
  · exact hword

/-! ### Containers -/

theorem scan_mark {b : UInt8} {mark : Lexeme} (hw : isWhite b = false) (hq : b ≠ 0x22)
    (hm : punctuation? b = some mark) (done : List Lexeme) (rest : List UInt8) :
    scan .between done (b :: rest) = scan .between (mark :: done) rest := by
  rw [scan, if_neg (by simp [hw]), if_neg hq, hm]

theorem bytesOf_items (v : Json) (vs : List Json) :
    bytesOf (renderItems (v :: vs)).toList =
      0x2c :: (bytesOf (render v).toList ++ bytesOf (renderItems vs).toList) := by
  have hcomma : bytesOf ",".toList = [0x2c] := rfl
  simp only [renderItems, String.toList_append, bytesOf_append, hcomma, List.append_assoc,
    List.singleton_append]

theorem bytesOf_fields (k : String) (v : Json) (fs : List (String × Json)) :
    bytesOf (renderFields ((k, v) :: fs)).toList =
      0x2c :: (bytesOf (quote k).toList ++
        0x3a :: (bytesOf (render v).toList ++ bytesOf (renderFields fs).toList)) := by
  have hcomma : bytesOf ",".toList = [0x2c] := rfl
  have hcolon : bytesOf ":".toList = [0x3a] := rfl
  simp only [renderFields, String.toList_append, bytesOf_append, hcomma, hcolon, List.append_assoc,
    List.singleton_append]

theorem ends_items (vs : List Json) (rest : List UInt8) :
    Ends (bytesOf (renderItems vs).toList ++ 0x5d :: rest) := by
  cases vs with
  | nil => exact .mark (.inr (.inl rfl))
  | cons v vs =>
    rw [bytesOf_items]
    exact .mark (.inl rfl)

theorem ends_fields (fs : List (String × Json)) (rest : List UInt8) :
    Ends (bytesOf (renderFields fs).toList ++ 0x7d :: rest) := by
  cases fs with
  | nil => exact .mark (.inr (.inr rfl))
  | cons f fs =>
    rw [bytesOf_fields]
    exact .mark (.inl rfl)

/-- Behind an item, the text of the others up to the bracket makes up the array. -/
theorem told_items {vs : List Json} (h : ∀ v ∈ vs, Told v) :
    ∃ ls : List Lexeme,
      (∀ done rest, scan .between done (bytesOf (renderItems vs).toList ++ 0x5d :: rest) =
        scan .between (ls.reverse ++ done) rest) ∧
      ∀ last before frames, ls.foldlM Partial.step ⟨.after last, .items before :: frames⟩ =
        some ⟨.after (.array (before.reverse ++ last :: vs)), frames⟩ := by
  induction vs with
  | nil =>
    refine ⟨[.closeArray], fun done rest => scan_mark rfl (by decide) rfl done rest, ?_⟩
    intro last before frames
    have hitems : (last :: before).reverse = before.reverse ++ [last] := List.reverse_cons
    rw [← hitems]
    rfl
  | cons v vs ih =>
    obtain ⟨ls, hcut, hspell⟩ := h v List.mem_cons_self
    obtain ⟨ms, hcuts, hspells⟩ := ih fun w hw => h w (List.mem_cons_of_mem _ hw)
    refine ⟨.comma :: (ls ++ ms), fun done rest => ?_, fun last before frames => ?_⟩
    · -- Behind an item there is a comma or the bracket, and each of them ends it.
      rw [bytesOf_items, List.cons_append, List.append_assoc, scan_mark rfl (by decide) rfl,
        hcut _ _ (ends_items vs rest), hcuts]
      simp
    · -- The comma puts the item before it away, and another value may come.
      have hcomma : Partial.step ⟨.after last, .items before :: frames⟩ .comma =
        some ⟨.value, .items (last :: before) :: frames⟩ := rfl
      rw [List.foldlM_cons, hcomma, Option.bind_eq_bind, Option.bind_some, List.foldlM_append,
        hspell.value, Option.bind_eq_bind, Option.bind_some, hspells, List.reverse_cons,
        List.append_assoc]
      rfl

theorem told_array {items : List Json} (h : ∀ v ∈ items, Told v) : Told (.array items) := by
  cases items with
  | nil =>
    refine ⟨[.openArray, .closeArray], fun done rest _ => ?_, fun _ => rfl, fun _ => rfl⟩
    exact (scan_mark rfl (by decide) rfl done _).trans (scan_mark rfl (by decide) rfl _ rest)
  | cons v vs =>
    obtain ⟨ls, hcut, hspell⟩ := h v List.mem_cons_self
    obtain ⟨ms, hcuts, hspells⟩ := told_items fun w hw => h w (List.mem_cons_of_mem _ hw)
    have hbytes : bytesOf (render (.array (v :: vs))).toList =
        0x5b :: (bytesOf (render v).toList ++ (bytesOf (renderItems vs).toList ++ [0x5d])) := by
      have hopen : bytesOf "[".toList = [0x5b] := rfl
      have hclose : bytesOf "]".toList = [0x5d] := rfl
      simp only [render, String.toList_append, bytesOf_append, hopen, hclose, List.append_assoc,
        List.singleton_append]
    -- Behind the bracket the first item is read, then the others up to the closing bracket.
    have hopen (frames : List Frame) :
        (ls ++ ms).foldlM Partial.step ⟨.firstItem, .items [] :: frames⟩ =
          some ⟨.after (.array (v :: vs)), frames⟩ := by
      rw [List.foldlM_append, hspell.firstItem, Option.bind_eq_bind, Option.bind_some, hspells]
      rfl
    refine ⟨.openArray :: (ls ++ ms), fun done rest _ => ?_, hopen, hopen⟩
    rw [hbytes, List.cons_append, List.append_assoc, List.append_assoc,
      scan_mark rfl (by decide) rfl, List.singleton_append, hcut _ _ (ends_items vs rest), hcuts]
    simp

/-- Behind a field, the text of the others up to the brace makes up the object. -/
theorem told_fields {fs : List (String × Json)} (h : ∀ f ∈ fs, Told f.2) :
    ∃ ls : List Lexeme,
      (∀ done rest, scan .between done (bytesOf (renderFields fs).toList ++ 0x7d :: rest) =
        scan .between (ls.reverse ++ done) rest) ∧
      ∀ key last before frames,
        ls.foldlM Partial.step ⟨.after last, .fields (some before) (some key) :: frames⟩ =
          some ⟨.after (.object (before.reverse ++ (key, last) :: fs)), frames⟩ := by
  induction fs with
  | nil =>
    refine ⟨[.closeObject], fun done rest => scan_mark rfl (by decide) rfl done rest, ?_⟩
    intro key last before frames
    have hfields : ((key, last) :: before).reverse = before.reverse ++ [(key, last)] :=
      List.reverse_cons
    rw [← hfields]
    rfl
  | cons f fs ih =>
    obtain ⟨k, v⟩ := f
    obtain ⟨ls, hcut, hspell⟩ := h (k, v) List.mem_cons_self
    obtain ⟨ms, hcuts, hspells⟩ := ih fun w hw => h w (List.mem_cons_of_mem _ hw)
    refine ⟨.comma :: .string (some k) :: .colon :: (ls ++ ms), fun done rest => ?_,
      fun key last before frames => ?_⟩
    · rw [bytesOf_fields, List.cons_append, List.append_assoc, List.cons_append, List.append_assoc,
        scan_mark rfl (by decide) rfl, scan_quote, scan_mark rfl (by decide) rfl,
        hcut _ _ (ends_fields fs rest), hcuts]
      simp
    · have hkey : [Lexeme.comma, .string (some k), .colon].foldlM Partial.step
          ⟨.after last, .fields (some before) (some key) :: frames⟩ =
          some ⟨.value, .fields (some ((key, last) :: before)) (some k) :: frames⟩ := rfl
      have hsplit : Lexeme.comma :: .string (some k) :: .colon :: (ls ++ ms) =
          [Lexeme.comma, .string (some k), .colon] ++ (ls ++ ms) := rfl
      rw [hsplit, List.foldlM_append, hkey, Option.bind_eq_bind, Option.bind_some,
        List.foldlM_append, hspell.value, Option.bind_eq_bind, Option.bind_some, hspells,
        List.reverse_cons, List.append_assoc]
      rfl

theorem told_object {fields : List (String × Json)} (h : ∀ f ∈ fields, Told f.2) :
    Told (.object fields) := by
  cases fields with
  | nil =>
    refine ⟨[.openObject, .closeObject], fun done rest _ => ?_, fun _ => rfl, fun _ => rfl⟩
    exact (scan_mark rfl (by decide) rfl done _).trans (scan_mark rfl (by decide) rfl _ rest)
  | cons f fs =>
    obtain ⟨k, v⟩ := f
    obtain ⟨ls, hcut, hspell⟩ := h (k, v) List.mem_cons_self
    obtain ⟨ms, hcuts, hspells⟩ := told_fields fun w hw => h w (List.mem_cons_of_mem _ hw)
    have hbytes : bytesOf (render (.object ((k, v) :: fs))).toList =
        0x7b :: (bytesOf (quote k).toList ++ 0x3a ::
          (bytesOf (render v).toList ++ (bytesOf (renderFields fs).toList ++ [0x7d]))) := by
      have hopen : bytesOf "\x7b".toList = [0x7b] := rfl
      have hclose : bytesOf "\x7d".toList = [0x7d] := rfl
      have hcolon : bytesOf ":".toList = [0x3a] := rfl
      simp only [render, String.toList_append, bytesOf_append, hopen, hcolon, hclose,
        List.append_assoc, List.singleton_append]
    -- Behind the brace the first key opens a field, and the others follow up to the closing brace.
    have hopen (frames : List Frame) :
        (.string (some k) :: .colon :: (ls ++ ms)).foldlM Partial.step
            ⟨.firstKey, .fields (some []) none :: frames⟩ =
          some ⟨.after (.object ((k, v) :: fs)), frames⟩ := by
      have hkey : [Lexeme.string (some k), .colon].foldlM Partial.step
          ⟨.firstKey, .fields (some []) none :: frames⟩ =
          some ⟨.value, .fields (some []) (some k) :: frames⟩ := rfl
      have hsplit : Lexeme.string (some k) :: .colon :: (ls ++ ms) =
          [Lexeme.string (some k), .colon] ++ (ls ++ ms) := rfl
      rw [hsplit, List.foldlM_append, hkey, Option.bind_eq_bind, Option.bind_some,
        List.foldlM_append, hspell.value, Option.bind_eq_bind, Option.bind_some, hspells]
      rfl
    refine ⟨.openObject :: .string (some k) :: .colon :: (ls ++ ms), fun done rest _ => ?_, hopen,
      hopen⟩
    rw [hbytes, List.cons_append, List.append_assoc, scan_mark rfl (by decide) rfl, scan_quote,
      List.cons_append, List.append_assoc, List.append_assoc, scan_mark rfl (by decide) rfl,
      List.singleton_append, hcut _ _ (ends_fields fs rest), hcuts]
    simp

/-! ### Trees -/

theorem wordBytes_of_all {bs : List UInt8} (h : bs.all (fun b => decide (WordByte b)) = true) :
    ∀ b ∈ bs, WordByte b := fun b hb => of_decide_eq_true (List.all_eq_true.1 h b hb)

theorem Legible.told {v : Json} (h : Legible v) : Told v := by
  induction h with
  | null => exact told_of_scalar (by decide) (wordBytes_of_all rfl) rfl
  | flag b =>
    cases b with
    | false => exact told_of_scalar (by decide) (wordBytes_of_all rfl) rfl
    | true => exact told_of_scalar (by decide) (wordBytes_of_all rfl) rfl
  | natural h => exact told_natural h
  | real h => exact told_real h
  | text s => exact told_text s
  | array _ ih => exact told_array ih
  | object _ ih => exact told_object ih

/-- What is printed is read back. -/
theorem parse?_render {v : Json} (h : Legible v) : parse? (render v) = some v := by
  obtain ⟨ls, hcut, hspell⟩ := h.told
  have hcuts : lexemes (bytesOf (render v).toList) = some ls := by
    have hscan := hcut [] [] .nothing
    rw [List.append_nil, List.append_nil] at hscan
    have hend : scan .between ls.reverse [] = some ls.reverse.reverse := rfl
    rw [lexemes, hscan, hend, List.reverse_reverse]
  rw [parse?, read?, toList_toUTF8, hcuts, Option.bind_some, assemble?, Partial.start,
    hspell.value, Option.bind_some]
  rfl

end BuyerGateway.Json

import BuyerGateway.Proofs.Json.Strings
/-!
A number is read back from its text. A number is written as one word, so that its text is
read within a longer text as it is read alone: a natural number of 64 bits as itself, and a
double as its text alone.
-/
namespace BuyerGateway

open Text

namespace Text

/-! ### Digits -/

theorem isDigit_of_mem_toDigits {n : Nat} {c : Char} (h : c ∈ Nat.toDigits 10 n) :
    c.isDigit = true := Nat.isDigit_of_mem_toDigits (by decide) (by decide) h

theorem digit?_of_isDigit {c : Char} (h : c.isDigit = true) :
    digit? c = some (c.toNat - '0'.toNat) := by
  simp only [Char.isDigit, Bool.and_eq_true, decide_eq_true_eq] at h
  exact if_pos h

theorem ofDigits_map {cs : List Char} :
    ofDigits (cs.map fun c => c.toNat - '0'.toNat) = Nat.ofDigitChars 10 cs 0 := by
  rw [ofDigits, List.foldl_map, Nat.ofDigitChars_eq_foldl]
  simp only [Nat.mul_comm]

/-- The values of the digits that a number is written with. -/
def digitsOf (n : Nat) : List Nat := (Nat.toDigits 10 n).map fun c => c.toNat - '0'.toNat

theorem ofDigits_digitsOf (n : Nat) : ofDigits (digitsOf n) = n := by
  rw [digitsOf, ofDigits_map, Nat.ofDigitChars_ten_toDigits]

/-- Only zero is written with a zero in front. -/
theorem exists_digitsOf {n : Nat} (h : 0 < n) : ∃ d ds, digitsOf n = d :: ds ∧ d ≠ 0 := by
  induction n using Nat.strongRecOn with
  | ind n ih =>
    by_cases hn : n < 10
    · refine ⟨n, [], ?_, by omega⟩
      rw [digitsOf, Nat.toDigits_of_lt_base hn]
      exact congrArg (· :: []) (Nat.toNat_digitChar_sub_48_of_lt_ten hn)
    · obtain ⟨d, ds, hds, hd⟩ := ih (n / 10) (by omega) (by omega)
      rw [digitsOf] at hds
      rw [digitsOf, Nat.toDigits_of_base_le (by decide) (by omega), List.map_append, hds]
      exact ⟨d, _, rfl, hd⟩
end Text

namespace Json

namespace Lexeme

/-! ### Words -/

/-- A byte of a word. -/
def WordByte (b : UInt8) : Prop := isWhite b = false ∧ b ≠ 0x22 ∧ punctuation? b = none

instance (b : UInt8) : Decidable (WordByte b) :=
  inferInstanceAs (Decidable (_ ∧ _ ∧ punctuation? b = none))

/-- What may stand behind a value: nothing, or a mark that ends or separates. -/
inductive Ends : List UInt8 → Prop
  | nothing : Ends []
  | mark {b : UInt8} {rest : List UInt8} (h : b = 0x2c ∨ b = 0x5d ∨ b = 0x7d) : Ends (b :: rest)

theorem scan_wordBytes {w : List UInt8} (h : ∀ b ∈ w, WordByte b) (passed : List UInt8)
    (done : List Lexeme) (rest : List UInt8) :
    scan (.word passed) done (w ++ rest) = scan (.word (w.reverse ++ passed)) done rest := by
  induction w generalizing passed with
  | nil => rfl
  | cons b w ih =>
    obtain ⟨hwhite, hquote, hmark⟩ := h b List.mem_cons_self
    rw [List.cons_append, scan, if_neg (by simp [hwhite]), if_neg hquote, hmark]
    simp only
    rw [ih fun b' hb' => h b' (List.mem_cons_of_mem _ hb'), List.reverse_cons, List.append_assoc]
    rfl

/-- A word is one lexeme, if it is any, whatever may stand behind it. -/
theorem scan_word {w : List UInt8} (hne : w ≠ []) (h : ∀ b ∈ w, WordByte b) (done : List Lexeme)
    {rest : List UInt8} (hrest : Ends rest) :
    scan .between done (w ++ rest) = (ofWord? w).bind fun l => scan .between (l :: done) rest := by
  cases w with
  | nil => exact absurd rfl hne
  | cons b w =>
    obtain ⟨hwhite, hquote, hmark⟩ := h b List.mem_cons_self
    have hfirst : scan .between done (b :: w ++ rest) = scan (.word [b]) done (w ++ rest) := by
      rw [List.cons_append, scan, if_neg (by simp [hwhite]), if_neg hquote, hmark]
    have hend : endWord (.word (w.reverse ++ [b])) done = (ofWord? (b :: w)).map (· :: done) := by
      rw [endWord, ← List.reverse_cons, List.reverse_reverse]
    rw [hfirst, scan_wordBytes fun b' hb' => h b' (List.mem_cons_of_mem _ hb')]
    cases hrest with
    | nothing =>
      rw [scan, hend]
      cases ofWord? (b :: w) <;> rfl
    | @mark c rest hc =>
      -- The mark ends the word, and then is read as it would be behind the lexeme.
      obtain ⟨m, hm, hw, hq⟩ : ∃ m, punctuation? c = some m ∧ isWhite c = false ∧ c ≠ 0x22 := by
        rcases hc with rfl | rfl | rfl
        · exact ⟨_, rfl, rfl, by decide⟩
        · exact ⟨_, rfl, rfl, by decide⟩
        · exact ⟨_, rfl, rfl, by decide⟩
      simp only [scan, hw, hq, hm, hend]
      cases ofWord? (b :: w) <;> rfl

/-! ### The characters of numbers -/

/-- The characters that numbers are written with. -/
def NumberChar (c : Char) : Prop := c.isDigit = true ∨ c ∈ ['.', '-', '+', 'e']

theorem NumberChar.byte {c : Char} (h : NumberChar c) :
    c.toNat < 0x80 ∧ WordByte (UInt8.ofNat c.toNat) := by
  rcases h with h | h
  · simp only [Char.isDigit, Bool.and_eq_true, decide_eq_true_eq] at h
    have hlow : 0x30 ≤ c.toNat := h.1
    have hhigh : c.toNat ≤ 0x39 := h.2
    have hdigit : ∀ k : Fin 10, WordByte (UInt8.ofNat (0x30 + k)) := by decide
    have hvalue : 0x30 + (c.toNat - 0x30) = c.toNat := by omega
    refine ⟨by omega, ?_⟩
    rw [← hvalue]
    exact hdigit ⟨c.toNat - 0x30, by omega⟩
  · simp only [List.mem_cons, List.not_mem_nil, or_false] at h
    rcases h with rfl | rfl | rfl | rfl <;> decide

/-- A number is written with one byte for each character, all of them bytes of a word. -/
theorem bytesOf_number {cs : List Char} (h : ∀ c ∈ cs, NumberChar c) :
    bytesOf cs = cs.map (fun c => UInt8.ofNat c.toNat) ∧ ∀ b ∈ bytesOf cs, WordByte b := by
  induction cs with
  | nil => exact ⟨rfl, nofun⟩
  | cons c cs ih =>
    obtain ⟨hbytes, hword⟩ := ih fun c' hc' => h c' (List.mem_cons_of_mem _ hc')
    have hc := (h c List.mem_cons_self).byte
    have hcons : bytesOf (c :: cs) = UInt8.ofNat c.toNat :: bytesOf cs := by
      rw [bytesOf_cons, utf8EncodeChar_of_lt hc.1]
      rfl
    rw [hcons]
    refine ⟨by rw [hbytes, List.map_cons], fun b hb => ?_⟩
    rcases List.mem_cons.1 hb with rfl | hb
    · exact hc.2
    · exact hword b hb

end Lexeme

/-- All of these characters belong to numbers. -/
def NumberChars (cs : List Char) : Prop := ∀ c ∈ cs, Lexeme.NumberChar c

namespace NumberChars

theorem cons {c : Char} {cs : List Char} (hc : Lexeme.NumberChar c) (h : NumberChars cs) :
    NumberChars (c :: cs) := by
  intro d hd
  rcases List.mem_cons.1 hd with rfl | hd
  · exact hc
  · exact h d hd

theorem append {cs ds : List Char} (hc : NumberChars cs) (hd : NumberChars ds) :
    NumberChars (cs ++ ds) := by
  intro c h
  exact (List.mem_append.1 h).elim (hc c) (hd c)

theorem subset {cs ds : List Char} (h : NumberChars ds) (hsub : cs ⊆ ds) : NumberChars cs :=
  fun c hc => h c (hsub hc)

theorem zeros (n : Nat) : NumberChars (List.replicate n '0') := by
  intro c hc
  rw [List.eq_of_mem_replicate hc]
  exact .inl rfl

theorem toDigits (n : Nat) : NumberChars (Nat.toDigits 10 n) :=
  fun _ hc => .inl (isDigit_of_mem_toDigits hc)

/-- The bytes of a number stand for its characters. -/
theorem map_bytesOf {cs : List Char} (h : NumberChars cs) :
    (bytesOf cs).map (fun b => Char.ofNat b.toNat) = cs := by
  have hback : ∀ c ∈ cs, Char.ofNat (UInt8.ofNat c.toNat).toNat = c := by
    intro c hc
    have hascii : c.toNat < 0x80 := (h c hc).byte.1
    rw [UInt8.toNat_ofNat', Nat.mod_eq_of_lt (by omega), Char.ofNat_toNat]
  rw [(Lexeme.bytesOf_number h).1, List.map_map]
  exact (List.map_congr_left hback).trans (List.map_id _)

theorem mark {c : Char} (h : c ∈ ['.', '-', '+', 'e']) : Lexeme.NumberChar c := .inr h

theorem place (layout : DecimalLayout) {digits : List Char} (h : NumberChars digits) (point : Int) :
    NumberChars (layout.place digits point) := by
  have hzero : Lexeme.NumberChar '0' := .inl rfl
  have hpoint : Lexeme.NumberChar '.' := mark (by decide)
  cases point with
  | ofNat n =>
    rw [DecimalLayout.place.eq_def]
    simp only
    split_ifs
    · apply (h.append (zeros _)).append
      exact cons hpoint (cons hzero nofun)
    · exact (h.append (zeros _)).append nofun
    · exact cons hzero (cons hpoint h)
    · apply (h.subset (List.take_subset _ _)).append
      exact cons hpoint (h.subset (List.drop_subset _ _))
  | negSucc n => exact cons hzero (cons hpoint ((zeros _).append h))

theorem withExponent {digits : List Char} (h : NumberChars digits) (e : Int) :
    NumberChars (DecimalLayout.withExponent digits e) := by
  have htail : NumberChars ('e' :: (if e < 0 then '-' else '+') :: Nat.toDigits 10 e.natAbs) := by
    refine cons (mark (by decide)) (cons ?_ (toDigits _))
    split
    · exact mark (by decide)
    · exact mark (by decide)
  rw [DecimalLayout.withExponent.eq_def]
  refine append ?_ htail
  split
  · exact cons (h _ List.mem_cons_self)
      (cons (mark (by decide)) (h.subset (List.subset_cons_self _ _)))
  · exact h

theorem render (layout : DecimalLayout) (x : Double) : NumberChars (layout.render x).toList := by
  rw [DecimalLayout.render, String.toList_ofList]
  have hstrip (cs : List Char) : DecimalLayout.stripZeros cs ⊆ cs := by
    intro c hc
    exact List.mem_reverse.1 ((List.dropWhile_sublist _).subset (List.mem_reverse.1 hc))
  have hdigits : NumberChars (if (x.shortest layout.tie).significand = 0 then
      Nat.toDigits 10 (x.shortest layout.tie).significand
      else DecimalLayout.stripZeros (Nat.toDigits 10 (x.shortest layout.tie).significand)) := by
    split
    · exact toDigits _
    · exact (toDigits _).subset (hstrip _)
  split
  · refine cons (mark (by decide)) ?_
    split
    · exact place layout hdigits _
    · exact withExponent hdigits _
  · split
    · exact place layout hdigits _
    · exact withExponent hdigits _

end NumberChars

/-! ### What a written number is read as -/

theorem spanDigits_of_isDigit {cs : List Char} (h : ∀ c ∈ cs, c.isDigit = true) :
    Lexeme.spanDigits cs = (cs.map fun c => c.toNat - '0'.toNat, []) := by
  induction cs with
  | nil => rfl
  | cons c cs ih =>
    rw [Lexeme.spanDigits, digit?_of_isDigit (h c List.mem_cons_self)]
    simp only [ih fun d hd => h d (List.mem_cons_of_mem _ hd), List.map_cons]

theorem wholeDigits_digitsOf (n : Nat) : Lexeme.wholeDigits (digitsOf n) = true := by
  cases n with
  | zero => rfl
  | succ n =>
    obtain ⟨d, ds, hds, hd⟩ := exists_digitsOf (Nat.succ_pos n)
    rw [hds]
    cases ds with
    | nil => rfl
    | cons d' ds => exact bne_iff_ne.2 hd

theorem numeral?_toDigits (n : Nat) :
    Lexeme.numeral? (Nat.toDigits 10 n) = some ⟨false, digitsOf n, [], none⟩ := by
  -- No digit is a sign, so the number is read from its first character on.
  have hminus : ∀ cs, Nat.toDigits 10 n ≠ '-' :: cs := by
    intro cs hcs
    have hmem : '-' ∈ Nat.toDigits 10 n := by
      rw [hcs]
      exact List.mem_cons_self
    cases isDigit_of_mem_toDigits hmem
  have hspan : Lexeme.spanDigits (Nat.toDigits 10 n) = (digitsOf n, []) :=
    spanDigits_of_isDigit fun c hc => isDigit_of_mem_toDigits hc
  simp [Lexeme.numeral?, hspan, wholeDigits_digitsOf, Lexeme.exponent?]

/-- The digits of a number below the limit are all absorbed. -/
theorem absorb_of_lt {seed : Nat} {ds : List Nat}
    (h : ds.foldl (fun n d => n * 10 + d) seed < Nat.pow 2 64) :
    Numeral.absorb seed ds = (ds.foldl (fun n d => n * 10 + d) seed, []) := by
  -- Another digit never makes the value less, so no part of it exceeds the limit either.
  have hmono (ds : List Nat) (seed : Nat) : seed ≤ ds.foldl (fun n d => n * 10 + d) seed := by
    induction ds generalizing seed with
    | nil => exact Nat.le_refl _
    | cons d ds ih =>
      have hstep : seed ≤ seed * 10 + d := by omega
      exact Nat.le_trans hstep (ih _)
  induction ds generalizing seed with
  | nil => rfl
  | cons d ds ih =>
    have hlt : seed * 10 + d < Nat.pow 2 64 := Nat.lt_of_le_of_lt (hmono ds _) h
    rw [Numeral.absorb, if_pos hlt, ih h]
    rfl

/-- A natural number of 64 bits is read from its digits. -/
theorem ofWord?_toDigits {n : Nat} (h : n < Nat.pow 2 64) :
    Lexeme.ofWord? (bytesOf (Nat.toDigits 10 n)) = some (.scalar (.integer n)) := by
  have hvalue : Lexeme.ofNumeral ⟨false, digitsOf n, [], none⟩ = .integer n := by
    have hfold : (digitsOf n).foldl (fun n d => n * 10 + d) 0 = n := ofDigits_digitsOf n
    have habsorb : Numeral.absorb 0 (digitsOf n) = (n, []) := by
      rw [absorb_of_lt (by rw [hfold]; exact h), hfold]
    simp [Lexeme.ofNumeral, Numeral.toInt?, habsorb]
  -- No digit begins one of the three names.
  have hdigit {c : Char} {cs : List Char} (hcs : Nat.toDigits 10 n = c :: cs) :
      c.isDigit = true := by
    have hmem : c ∈ Nat.toDigits 10 n := by
      rw [hcs]
      exact List.mem_cons_self
    exact isDigit_of_mem_toDigits hmem
  rw [Lexeme.ofWord?, (NumberChars.toDigits n).map_bytesOf]
  split
  · rename_i hcs
    exact absurd (hdigit hcs) (by decide)
  · rename_i hcs
    exact absurd (hdigit hcs) (by decide)
  · rename_i hcs
    exact absurd (hdigit hcs) (by decide)
  · rw [numeral?_toDigits, Option.map_some, hvalue]

/-- A double whose text alone is read as itself stands for itself as a word. -/
theorem ofWord?_real {x : Double} (h : parse? (render (.real x)) = some (.real x)) :
    Lexeme.ofWord? (bytesOf (render (.real x)).toList) = some (.scalar (.real x)) := by
  have hword := (Lexeme.bytesOf_number (NumberChars.render numberLayout x)).2
  -- The text is one word, and so what is read of it alone is what this word stands for.
  rw [parse?, read?, toList_toUTF8] at h
  rw [render] at h ⊢
  generalize bytesOf (numberLayout.render x).toList = w at hword h ⊢
  have hne : w ≠ [] := by
    rintro rfl
    cases h
  have hscan := Lexeme.scan_word hne hword [] .nothing
  rw [List.append_nil] at hscan
  rw [lexemes, hscan] at h
  cases hl : Lexeme.ofWord? w with
  | none =>
    rw [hl] at h
    cases h
  | some l =>
    rw [hl] at h
    have hassemble : assemble? [l] = some (.real x) := h
    -- Of all lexemes alone only a scalar is a whole value that is a number.
    cases l with
    | scalar v =>
      cases hassemble
      rfl
    | string text => cases text <;> cases hassemble
    | _ => cases hassemble

end Json

end BuyerGateway

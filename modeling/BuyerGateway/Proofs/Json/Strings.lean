import BuyerGateway.Shape.Text
import Mathlib.Tactic.SplitIfs
/-!
A string is read back from its text. Between its quotes every character stands as it is, behind a
backslash as a letter, or as a number of four digits; each way is one that the scanner passes over
and that the pieces of a string spell as the character again.
-/
namespace BuyerGateway

namespace Text

/-! ### The bytes of characters -/

/-- The UTF-8 bytes of some characters, one after the other. -/
def bytesOf (cs : List Char) : List UInt8 := cs.flatMap String.utf8EncodeChar

theorem bytesOf_cons (c : Char) (cs : List Char) :
    bytesOf (c :: cs) = String.utf8EncodeChar c ++ bytesOf cs := List.flatMap_cons

theorem bytesOf_append (cs ds : List Char) : bytesOf (cs ++ ds) = bytesOf cs ++ bytesOf ds :=
  List.flatMap_append

theorem toList_loop (bytes : ByteArray) (i : Nat) (done : List UInt8) :
    ByteArray.toList.loop bytes i done = done.reverse ++ bytes.data.toList.drop i := by
  fun_induction ByteArray.toList.loop bytes i done with
  | case1 i done h ih =>
    have hi : i < bytes.data.toList.length := h
    have hget : bytes.get! i = bytes.data.toList[i] := getElem!_pos bytes.data i h
    rw [ih, List.reverse_cons, List.append_assoc, List.drop_eq_getElem_cons hi, hget]
    rfl
  | case2 i done h =>
    have hi : bytes.data.toList.length ≤ i := Nat.le_of_not_lt h
    rw [List.drop_eq_nil_of_le hi, List.append_nil]

theorem toList_toUTF8 (s : String) : s.toUTF8.toList = bytesOf s.toList := by
  have h : s.toUTF8.toList = s.toByteArray.data.toList := toList_loop s.toByteArray 0 []
  rw [h, ← String.utf8Encode_toList, List.utf8Encode]
  exact List.toList_data_toByteArray

theorem fromUTF8?_bytesOf (s : String) :
    String.fromUTF8? ⟨(bytesOf s.toList).toArray⟩ = some s := by
  have hbytes : (⟨(bytesOf s.toList).toArray⟩ : ByteArray) = s.toByteArray := by
    apply ByteArray.ext
    rw [← String.utf8Encode_toList, List.utf8Encode, List.data_toByteArray]
    rfl
  rw [hbytes, String.fromUTF8?, dif_pos s.isValidUTF8]
  rfl

theorem utf8EncodeChar_of_lt {c : Char} (h : c.toNat < 0x80) :
    String.utf8EncodeChar c = [UInt8.ofNat c.toNat] := if_pos (Nat.le_of_lt_succ h)

/-- No byte of a character beyond ASCII is an ASCII byte. -/
theorem le_of_mem_utf8EncodeChar {c : Char} (h : 0x80 ≤ c.toNat) {b : UInt8}
    (hb : b ∈ String.utf8EncodeChar c) : 0x80 ≤ b.toNat := by
  have hv : ¬ c.val.toNat ≤ 0x7f := Nat.not_le_of_lt h
  rw [String.utf8EncodeChar] at hb
  simp only [hv, ↓reduceIte] at hb
  split at hb
  · simp only [List.mem_cons, List.not_mem_nil, or_false] at hb
    rcases hb with rfl | rfl <;> rw [UInt8.toNat_ofNat'] <;> omega
  · split at hb
    · simp only [List.mem_cons, List.not_mem_nil, or_false] at hb
      rcases hb with rfl | rfl | rfl <;> rw [UInt8.toNat_ofNat'] <;> omega
    · simp only [List.mem_cons, List.not_mem_nil, or_false] at hb
      rcases hb with rfl | rfl | rfl | rfl <;> rw [UInt8.toNat_ofNat'] <;> omega

end Text

open Text

namespace Json

namespace Lexeme

/-! ### How a character is written -/

/-- A byte that stands for itself between quotes. -/
def Plain (b : UInt8) : Prop := b ≠ 0x22 ∧ b ≠ 0x5c ∧ 0x20 ≤ b

instance (b : UInt8) : Decidable (Plain b) := inferInstanceAs (Decidable (_ ∧ _ ∧ _))

/-- The ways a character is written between quotes: behind a backslash by a letter or by its
number, or as it stands. -/
inductive Written (c : Char) : List UInt8 → Prop
  | letter {l : UInt8} (hl : 0x20 ≤ l) (hc : c.toNat < 0x80)
      (h : escaped? l = some (UInt8.ofNat c.toNat)) : Written c [0x5c, l]
  | number {high low : UInt8} (hc : c.toNat < 0x20) (hh : Plain high) (hl : Plain low)
      (h : hexDigit? high = some (c.toNat / 16)) (h' : hexDigit? low = some (c.toNat % 16)) :
      Written c [0x5c, 0x75, 0x30, 0x30, high, low]
  | plain (h : ∀ b ∈ String.utf8EncodeChar c, Plain b) : Written c (String.utf8EncodeChar c)

theorem plain_of_mem_utf8EncodeChar {c : Char} (hq : c ≠ '"') (hb : c ≠ '\\') (hc : 0x20 ≤ c.toNat)
    {b : UInt8} (h : b ∈ String.utf8EncodeChar c) : Plain b := by
  by_cases hascii : c.toNat < 0x80
  · rw [utf8EncodeChar_of_lt hascii, List.mem_singleton] at h
    have hne (d : Char) (hd : d.toNat < 0x80) (hcd : c ≠ d) : b ≠ UInt8.ofNat d.toNat := by
      intro hbd
      apply hcd
      have hn := congrArg UInt8.toNat (h.symm.trans hbd)
      rw [UInt8.toNat_ofNat', UInt8.toNat_ofNat'] at hn
      apply Char.toNat_inj.1
      omega
    refine ⟨hne '"' (by decide) hq, hne '\\' (by decide) hb, ?_⟩
    rw [h, UInt8.le_iff_toNat_le, UInt8.toNat_ofNat']
    change 32 ≤ _
    omega
  · have hle := le_of_mem_utf8EncodeChar (Nat.le_of_not_lt hascii) h
    refine ⟨?_, ?_, ?_⟩
    · rintro rfl
      exact absurd hle (by decide)
    · rintro rfl
      exact absurd hle (by decide)
    · rw [UInt8.le_iff_toNat_le]
      exact Nat.le_trans (by decide) hle

/-- The two hexadecimal digits of a control character, behind two zeros. -/
theorem hexDigits_of_lt : ∀ n : Fin 32,
    bytesOf (hexDigits (Char.ofNat n)) = [0x30, 0x30,
      UInt8.ofNat (Nat.digitChar (n / 16)).toNat, UInt8.ofNat (Nat.digitChar (n % 16)).toNat] := by
  decide

theorem hexDigit?_digitChar : ∀ n : Fin 16,
    hexDigit? (UInt8.ofNat (Nat.digitChar n).toNat) = some n.val ∧
      Plain (UInt8.ofNat (Nat.digitChar n).toNat) := by
  decide

theorem written_escape (c : Char) : Written c (bytesOf (escape c)) := by
  have single (d : Char) : bytesOf [d] = String.utf8EncodeChar d := List.append_nil _
  rw [escape]
  split_ifs with h1 h2 h3 h4 h5 h6 h7 h8
  · subst h1; exact .letter (l := 0x22) (by decide) (by decide) rfl
  · subst h2; exact .letter (l := 0x5c) (by decide) (by decide) rfl
  · subst h3; exact .letter (l := 0x62) (by decide) (by decide) rfl
  · subst h4; exact .letter (l := 0x66) (by decide) (by decide) rfl
  · subst h5; exact .letter (l := 0x6e) (by decide) (by decide) rfl
  · subst h6; exact .letter (l := 0x72) (by decide) (by decide) rfl
  · subst h7; exact .letter (l := 0x74) (by decide) (by decide) rfl
  · have hdigits := hexDigits_of_lt ⟨c.toNat, h8⟩
    rw [Char.ofNat_toNat] at hdigits
    rw [bytesOf_cons, bytesOf_cons, hdigits]
    have hhigh := hexDigit?_digitChar ⟨c.toNat / 16, by omega⟩
    have hlow := hexDigit?_digitChar ⟨c.toNat % 16, by omega⟩
    exact .number h8 hhigh.2 hlow.2 hhigh.1 hlow.1
  · rw [single]
    exact .plain fun b hb => plain_of_mem_utf8EncodeChar h1 h2 (Nat.le_of_not_lt h8) hb

/-! ### How it is read -/

theorem scan_plain {b : UInt8} (h : Plain b) (passed : List UInt8) (done : List Lexeme)
    (rest : List UInt8) :
    scan (.quoted passed) done (b :: rest) = scan (.quoted (b :: passed)) done rest := by
  have hlow : ¬ b < 0x20 := UInt8.not_lt.2 h.2.2
  rw [scan, if_neg h.1, if_neg h.2.1, if_neg hlow]

theorem scan_all_plain {bs : List UInt8} (h : ∀ b ∈ bs, Plain b) (passed : List UInt8)
    (done : List Lexeme) (rest : List UInt8) :
    scan (.quoted passed) done (bs ++ rest) = scan (.quoted (bs.reverse ++ passed)) done rest := by
  induction bs generalizing passed with
  | nil => rfl
  | cons b bs ih =>
    rw [List.cons_append, scan_plain (h b List.mem_cons_self),
      ih fun b' hb' => h b' (List.mem_cons_of_mem _ hb'), List.reverse_cons, List.append_assoc]
    rfl

theorem scan_backslash {l : UInt8} (h : 0x20 ≤ l) (passed : List UInt8) (done : List Lexeme)
    (rest : List UInt8) :
    scan (.quoted passed) done (0x5c :: l :: rest) =
      scan (.quoted (l :: 0x5c :: passed)) done rest := by
  have hlow : ¬ l < 0x20 := UInt8.not_lt.2 h
  rw [scan, if_neg (by decide), if_pos rfl, scan, if_neg hlow]

/-- The scanner passes over a written character. -/
theorem Written.scan {c : Char} {bs : List UInt8} (h : Written c bs) (passed : List UInt8)
    (done : List Lexeme) (rest : List UInt8) :
    scan (.quoted passed) done (bs ++ rest) = scan (.quoted (bs.reverse ++ passed)) done rest := by
  cases h with
  | letter hl hc h => exact scan_backslash hl passed done rest
  | @number high low hc hh hl h h' =>
    -- The scanner takes the letter behind the backslash alone; the digits are plain to it.
    have hplain : ∀ b ∈ [0x30, 0x30, high, low], Plain b := by
      intro b hb
      simp only [List.mem_cons, List.not_mem_nil, or_false] at hb
      rcases hb with rfl | rfl | rfl | rfl
      · decide
      · decide
      · exact hh
      · exact hl
    have hu : (0x20 : UInt8) ≤ 0x75 := by decide
    exact (scan_backslash hu passed done _).trans (scan_all_plain hplain _ done rest)
  | plain h => exact scan_all_plain h passed done rest

theorem pieces_plain {b : UInt8} (h : Plain b) (done : List Piece) (rest : List UInt8) :
    pieces done (b :: rest) = pieces (.byte b :: done) rest :=
  pieces.eq_4 done b rest (fun _ _ _ _ _ hb _ => h.2.1 hb) fun _ _ hb _ => h.2.1 hb

theorem pieces_all_plain {bs : List UInt8} (h : ∀ b ∈ bs, Plain b) (done : List Piece)
    (rest : List UInt8) :
    pieces done (bs ++ rest) = pieces ((bs.map .byte).reverse ++ done) rest := by
  induction bs generalizing done with
  | nil => rfl
  | cons b bs ih =>
    rw [List.cons_append, pieces_plain (h b List.mem_cons_self),
      ih fun b' hb' => h b' (List.mem_cons_of_mem _ hb'), List.map_cons, List.reverse_cons,
      List.append_assoc]
    rfl

theorem spell_bytes (bs : List UInt8) (done : List UInt8) (rest : List Piece) :
    spell done (bs.map .byte ++ rest) = spell (bs.reverse ++ done) rest := by
  induction bs generalizing done with
  | nil => rfl
  | cons b bs ih =>
    rw [List.map_cons, List.cons_append, spell, ih, List.reverse_cons, List.append_assoc]
    rfl

/-- A number below all surrogates is a character of its own, whatever follows it. -/
theorem spell_unit {u : Nat} (h : u < 0x20) (done : List UInt8) (rest : List Piece) :
    spell done (.unit u :: rest) =
      spell ((String.utf8EncodeChar (Char.ofNat u)).reverse ++ done) rest := by
  have hhigh : isHighSurrogate u = false := by
    rw [isHighSurrogate, Bool.and_eq_false_iff, decide_eq_false_iff_not]
    exact .inl (by omega)
  have hlow : isLowSurrogate u = false := by
    rw [isLowSurrogate, Bool.and_eq_false_iff, decide_eq_false_iff_not]
    exact .inl (by omega)
  cases rest with
  | nil => simp [spell, hhigh, hlow]
  | cons p rest => cases p <;> simp [spell, hhigh, hlow]

/-- A written character is cut into pieces that spell its bytes. -/
theorem Written.pieces {c : Char} {bs : List UInt8} (h : Written c bs) :
    ∃ ps : List Piece,
      (∀ done rest, pieces done (bs ++ rest) = pieces (ps.reverse ++ done) rest) ∧
      ∀ done rest, spell done (ps ++ rest) =
        spell ((String.utf8EncodeChar c).reverse ++ done) rest := by
  cases h with
  | @letter l hl hc h =>
    refine ⟨[.byte (UInt8.ofNat c.toNat)], fun done rest => ?_, fun done rest => ?_⟩
    · -- No letter but `u` begins a number, and `u` stands for no byte.
      have hu : l ≠ 0x75 := by
        rintro rfl
        cases h
      have hstep := pieces.eq_3 done l rest fun _ _ _ _ _ hl _ => hu hl
      rw [h] at hstep
      exact hstep
    · rw [utf8EncodeChar_of_lt hc]
      exact spell_bytes [UInt8.ofNat c.toNat] done rest
  | @number high low hc hh hl h h' =>
    refine ⟨[.unit c.toNat], fun done rest => ?_, fun done rest => ?_⟩
    · have hstep := pieces.eq_2 done 0x30 0x30 high low rest
      rw [h, h'] at hstep
      have hvalue : ((0 * 16 + 0) * 16 + c.toNat / 16) * 16 + c.toNat % 16 = c.toNat := by omega
      have hzero : hexDigit? 0x30 = some 0 := rfl
      simp only [hzero, Option.bind_eq_bind, Option.bind_some, hvalue] at hstep
      exact hstep
    · have hstep := spell_unit hc done rest
      rw [Char.ofNat_toNat] at hstep
      exact hstep
  | plain h =>
    exact ⟨(String.utf8EncodeChar c).map .byte, fun done rest => pieces_all_plain h done rest,
      fun done rest => spell_bytes _ done rest⟩

/-- A text as it stands between quotes. -/
def written (cs : List Char) : List UInt8 := bytesOf (cs.flatMap escape)

theorem written_cons (c : Char) (cs : List Char) :
    written (c :: cs) = bytesOf (escape c) ++ written cs := by
  rw [written, List.flatMap_cons, bytesOf_append]
  rfl

theorem scan_written (cs : List Char) (passed : List UInt8) (done : List Lexeme)
    (rest : List UInt8) :
    scan (.quoted passed) done (written cs ++ rest) =
      scan (.quoted ((written cs).reverse ++ passed)) done rest := by
  induction cs generalizing passed with
  | nil => rfl
  | cons c cs ih =>
    rw [written_cons, List.append_assoc, (written_escape c).scan, ih, List.reverse_append,
      List.append_assoc]

theorem exists_pieces_written (cs : List Char) :
    ∃ ps : List Piece,
      (∀ done rest, pieces done (written cs ++ rest) = pieces (ps.reverse ++ done) rest) ∧
      ∀ done rest, spell done (ps ++ rest) = spell ((bytesOf cs).reverse ++ done) rest := by
  induction cs with
  | nil => exact ⟨[], fun _ _ => rfl, fun _ _ => rfl⟩
  | cons c cs ih =>
    obtain ⟨ps, hps, hspell⟩ := ih
    obtain ⟨qs, hqs, hspell'⟩ := (written_escape c).pieces
    refine ⟨qs ++ ps, fun done rest => ?_, fun done rest => ?_⟩
    · rw [written_cons, List.append_assoc, hqs, hps, List.reverse_append, List.append_assoc]
    · rw [List.append_assoc, hspell', hspell, bytesOf_cons, List.reverse_append,
        List.append_assoc]

theorem ofQuoted?_written (s : String) : ofQuoted? (written s.toList) = some (string (some s)) := by
  obtain ⟨ps, hps, hspell⟩ := exists_pieces_written s.toList
  have hpieces : pieces [] (written s.toList) = some ps := by
    have h := hps [] []
    rw [List.append_nil, List.append_nil] at h
    rw [h, pieces, List.reverse_reverse]
  have hbytes : spell [] ps = some (bytesOf s.toList) := by
    have h := hspell [] []
    rw [List.append_nil, List.append_nil] at h
    rw [h, spell, List.reverse_reverse]
  rw [ofQuoted?, hpieces, Option.map_some, hbytes, Option.bind_some, fromUTF8?_bytesOf]

end Lexeme

theorem bytesOf_quote (s : String) :
    bytesOf (quote s).toList = 0x22 :: (Lexeme.written s.toList ++ [0x22]) := by
  have hchars : (quote s).toList = '"' :: (s.toList.flatMap escape ++ ['"']) := by simp [quote]
  rw [hchars, bytesOf_cons, bytesOf_append]
  rfl

/-- A quoted text is one lexeme, which spells the text. -/
theorem scan_quote (s : String) (done : List Lexeme) (rest : List UInt8) :
    Lexeme.scan .between done (bytesOf (quote s).toList ++ rest) =
      Lexeme.scan .between (.string (some s) :: done) rest := by
  have hopen (bs : List UInt8) :
      Lexeme.scan .between done (0x22 :: bs) = Lexeme.scan (.quoted []) done bs := rfl
  have hclose (passed : List UInt8) :
      Lexeme.scan (.quoted passed) done (0x22 :: rest) = (do
        Lexeme.scan .between ((← Lexeme.ofQuoted? passed.reverse) :: done) rest) := rfl
  rw [bytesOf_quote, List.cons_append, List.append_assoc, hopen, Lexeme.scan_written]
  rw [List.append_nil, List.singleton_append, hclose, List.reverse_reverse,
    Lexeme.ofQuoted?_written]
  rfl

end Json

end BuyerGateway

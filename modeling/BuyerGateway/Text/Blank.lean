/-!
White space as Unicode lists it, and the texts that hold nothing else. An identifier that is blank
counts as absent; every other identifier is kept as it stands, outer spaces included.
-/
namespace BuyerGateway.Text

/-- The characters of the property `White_Space`, in order. -/
def whiteSpace : List Char :=
  ['\u0009', '\u000a', '\u000b', '\u000c', '\u000d', '\u0020', '\u0085', '\u00a0', '\u1680',
    '\u2000', '\u2001', '\u2002', '\u2003', '\u2004', '\u2005', '\u2006', '\u2007', '\u2008',
    '\u2009', '\u200a', '\u2028', '\u2029', '\u202f', '\u205f', '\u3000']

def isSpace (c : Char) : Bool := whiteSpace.contains c

/-- A blank text is empty or consists of white space. -/
def isBlank (s : String) : Bool := s.toList.all isSpace

def dropSpaces (cs : List Char) : List Char := cs.dropWhile isSpace

/-- The text itself, unless it is blank. -/
def nonBlank? (s : String) : Option String := if isBlank s then none else some s

example : whiteSpace.length = 25 := rfl

theorem isSpace_of_isWhitespace {c : Char} (h : c.isWhitespace = true) : isSpace c = true := by
  simp only [Char.isWhitespace, Bool.or_eq_true, decide_eq_true_eq] at h
  rcases h with ((rfl | rfl) | rfl) | rfl <;> rfl

@[simp] theorem isBlank_empty : isBlank "" = true := rfl

theorem nonBlank?_eq_some_iff {s t : String} :
    nonBlank? s = some t ↔ isBlank s = false ∧ t = s := by
  unfold nonBlank?
  cases isBlank s
  · exact ⟨fun h => ⟨rfl, (Option.some.inj h).symm⟩, fun h => congrArg some h.2.symm⟩
  · exact ⟨nofun, fun h => nomatch h.1⟩

theorem bind_nonBlank?_eq_some_iff {s? : Option String} {t : String} :
    s?.bind nonBlank? = some t ↔ s? = some t ∧ isBlank t = false := by
  rw [Option.bind_eq_some_iff]
  constructor
  · rintro ⟨s, hs, ht⟩
    obtain ⟨hb, rfl⟩ := nonBlank?_eq_some_iff.1 ht
    exact ⟨hs, hb⟩
  · rintro ⟨hs, hb⟩
    exact ⟨t, hs, nonBlank?_eq_some_iff.2 ⟨hb, rfl⟩⟩

/-- A text counts as absent when it is absent or blank. -/
theorem bind_nonBlank?_eq_none_iff {s? : Option String} :
    s?.bind nonBlank? = none ↔ ∀ s, s? = some s → isBlank s = true := by
  rw [Option.eq_none_iff_forall_ne_some]
  refine forall_congr' fun s => ?_
  rw [Ne, bind_nonBlank?_eq_some_iff, not_and, Bool.not_eq_false]

end BuyerGateway.Text

/-!
Unsigned decimal numerals: digits with an optional plus sign in front. A numeral above the limit of
its reader is refused; nothing is wrapped or cut off.
-/
namespace BuyerGateway.Text

def digit? (c : Char) : Option Nat :=
  if '0' ≤ c ∧ c ≤ '9' then some (c.toNat - '0'.toNat) else none

/-- The value of a run of decimal digits, most significant first. -/
def ofDigits (digits : List Nat) : Nat := digits.foldl (fun n d => n * 10 + d) 0

def unsigned? (cs : List Char) : Option Nat :=
  match cs.mapM digit? with
  | some (d :: ds) => some (ofDigits (d :: ds))
  | _ => none

/-- Reads a numeral of value at most `limit`. -/
def numeral? (limit : Nat) (s : String) : Option Nat :=
  let digits := match s.toList with
    | '+' :: cs => cs
    | cs => cs
  (unsigned? digits).filter (· ≤ limit)

/-- Writes `n` in decimal with at least `width` digits. -/
def padded (width n : Nat) : String :=
  let digits := Nat.toDigits 10 n
  String.ofList (List.replicate (width - digits.length) '0' ++ digits)

example : numeral? 65535 "+0080" = some 80 := by decide +kernel
example : numeral? 65535 "65536" = none := by decide +kernel

theorem numeral?_le {limit n : Nat} {s : String} (h : numeral? limit s = some n) : n ≤ limit := by
  have h' := (Option.filter_eq_some_iff.1 h).2
  simpa using h'

end BuyerGateway.Text

import BuyerGateway.Double.Basic
/-!
The shortest decimal of a double: the fewest digits that read back to it and, among those, the
nearest. For each number of digits only the two neighbours of the double on that decimal grid can
lie in the interval of numbers that round to it, so both are tried in exact arithmetic.
-/
namespace BuyerGateway

/-- Which of two equally near decimals is taken. -/
inductive Tie where
  | even
  | up
  deriving DecidableEq, Repr

/-- A decimal `significand * 10 ^ exponent` without a sign. -/
structure Decimal where
  significand : Nat
  exponent : Int
  deriving DecidableEq, Repr

namespace Double

/-- The magnitude and the ends of the interval that rounds to it, in quarters of a quantum. -/
def span (x : Double) : Nat × Nat × Nat :=
  let gap := Nat.pow 2 x.place
  let below := if x.mantissa = Nat.pow 2 52 ∧ 0 < x.place then gap else 2 * gap
  let v := 4 * x.quanta
  (v - below, v, v + 2 * gap)

def digitCount (n : Nat) : Nat := (Nat.toDigits 10 n).length

/-- The power of ten of the leading digit of `v / one`, for `v` above zero. -/
def magnitude (v one : Nat) : Int :=
  if one ≤ v then (digitCount (v / one) : Int) - 1
  else -(digitCount ((one - 1) / v) : Int)

/-- The better neighbour of the double on the grid of `10 ^ p`, if one reads back to it. -/
def onGrid? (tie : Tie) (x : Double) (p : Int) : Option Nat :=
  let (low, v, high) := x.span
  let (num, den) := match p with
    | .ofNat n => (1, 4 * one * Nat.pow 10 n)
    | .negSucc n => (Nat.pow 10 (n + 1), 4 * one)
  let closed := x.mantissa % 2 = 0
  let inside := fun c =>
    if closed then low * num ≤ c * den ∧ c * den ≤ high * num
    else low * num < c * den ∧ c * den < high * num
  let c := v * num / den
  let r := v * num % den
  let upper := if 2 * r = den then tie = .up ∨ c % 2 = 1 else den < 2 * r
  match decide (inside c), decide (inside (c + 1)) with
  | false, false => none
  | true, false => some c
  | false, true => some (c + 1)
  | true, true => some (if upper then c + 1 else c)

/-- Seventeen digits always suffice. -/
def shortest (tie : Tie) (x : Double) : Decimal :=
  if x.mantissa = 0 then ⟨0, 0⟩
  else
    let e := magnitude (4 * x.quanta) (4 * one)
    let grids := (List.range 17).map fun n : Nat => e - n
    match grids.findSome? fun p => (onGrid? tie x p).map fun c => (⟨c, p⟩ : Decimal) with
    | some d => d
    | none => ⟨0, 0⟩

end Double

/-- How a decimal is laid out as text. -/
structure DecimalLayout where
  tie : Tie
  /-- Leading digits of these powers of ten are written with a positional point. -/
  positional : Int → Bool
  /-- Whether a whole number ends in `.0`. -/
  pointZero : Bool

namespace DecimalLayout

/-- Drops the zeros at the end, which the exponent then counts. -/
def stripZeros : List Char → List Char
  | cs => (cs.reverse.dropWhile (· == '0')).reverse

/-- Digits with the point behind the first `point` of them, zeros filled in on either side. -/
def place (layout : DecimalLayout) (digits : List Char) (point : Int) : List Char :=
  match point with
  | .ofNat n =>
    if digits.length ≤ n then
      digits ++ List.replicate (n - digits.length) '0' ++
        (if layout.pointZero then ['.', '0'] else [])
    else if n = 0 then
      '0' :: '.' :: digits
    else
      digits.take n ++ '.' :: digits.drop n
  | .negSucc n => '0' :: '.' :: (List.replicate (n + 1) '0' ++ digits)

/-- One digit before the point and the power of ten behind the letter. -/
def withExponent (digits : List Char) (e : Int) : List Char :=
  let body := match digits with
    | d :: d' :: ds => d :: '.' :: d' :: ds
    | ds => ds
  body ++ 'e' :: (if e < 0 then '-' else '+') :: Nat.toDigits 10 e.natAbs

def render (layout : DecimalLayout) (x : Double) : String :=
  let d := x.shortest layout.tie
  let all := Nat.toDigits 10 d.significand
  let digits := if d.significand = 0 then all else stripZeros all
  let e : Int := all.length + d.exponent - 1
  let body := if layout.positional e then layout.place digits (e + 1) else withExponent digits e
  String.ofList (if x.negative then '-' :: body else body)

end DecimalLayout

end BuyerGateway

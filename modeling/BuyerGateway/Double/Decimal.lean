import BuyerGateway.Double.Basic
/-!
Doubles from decimal numerals. A numeral is read with a 64-bit significand: the digits that fit are
kept, those after them only count. The significand, rounded, is then multiplied or divided by the
power of ten, rounded itself; the last bit may therefore differ from the nearest double.
-/
namespace BuyerGateway

/-- A decimal numeral in its written parts. The digits stand most significant first. -/
structure Numeral where
  negative : Bool
  whole : List Nat
  fraction : List Nat
  /-- The power of ten behind the digits, when one is written. -/
  exponent : Option Int
  deriving DecidableEq, Repr

namespace Numeral

/-- Takes digits behind `seed` as long as the significand stays below `2 ^ 64`. -/
def absorb (seed : Nat) : List Nat → Nat × List Nat
  | [] => (seed, [])
  | d :: ds => if seed * 10 + d < Nat.pow 2 64 then absorb (seed * 10 + d) ds else (seed, d :: ds)

def sign (negative : Bool) (x : Double) : Double := if negative then x.neg else x

/-- A positive significand divided by `10 ^ n`. Beyond the greatest power of ten the division is
made in two steps, and nothing of 64 bits is left after a third. -/
def shrink (x : Double) (n : Nat) : Option Double := do
  if n ≤ 308 then
    x.div? (← Double.ofNat? (Nat.pow 10 n))
  else if n ≤ 616 then
    let y ← x.div? (← Double.ofNat? (Nat.pow 10 308))
    y.div? (← Double.ofNat? (Nat.pow 10 (n - 308)))
  else
    some Double.zero

/-- `significand * 10 ^ exponent` in doubles; a number out of range is none. -/
def scale (significand : Nat) (exponent : Int) : Option Double := do
  if significand = 0 then
    some Double.zero
  else
    let x ← Double.ofNat? significand
    match exponent with
    | .ofNat n => if n ≤ 308 then x.mul? (← Double.ofNat? (Nat.pow 10 n)) else none
    | .negSucc n => shrink x (n + 1)

/-- The significand and the power of ten that a reader of 64 bits sees. -/
def scientific (n : Numeral) : Nat × Int :=
  let (whole, beyond) := absorb 0 n.whole
  let (significand, unread) := absorb whole n.fraction
  let places : Int := beyond.length - (n.fraction.length - unread.length : Nat)
  (significand, places + n.exponent.getD 0)

def toDouble? (n : Numeral) : Option Double :=
  (scale n.scientific.1 n.scientific.2).map (sign n.negative)

/-- The integer that is written, if the numeral has neither fraction nor exponent and fits in 64
bits: unsigned without a minus sign, signed with one. A negative zero is no integer. -/
def toInt? (n : Numeral) : Option Int :=
  match n.fraction, n.exponent, absorb 0 n.whole with
  | [], none, (k, []) =>
    if n.negative then
      if 0 < k ∧ k ≤ Nat.pow 2 63 then some (-k) else none
    else
      some k
  | _, _, _ => none

end Numeral

end BuyerGateway

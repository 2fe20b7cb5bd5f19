/-!
Finite binary64 numbers. A magnitude is a whole number of quanta of `2 ^ -1074`, so sums of digits,
products and quotients are exact before they are rounded once, to the nearest number and from half
way to the even one.
-/
namespace BuyerGateway

/-- A finite binary64 number: a sign and `mantissa * 2 ^ place` quanta. Above the least place a
mantissa has all its 53 bits, so every number is written in one way. -/
structure Double where
  negative : Bool
  mantissa : Nat
  place : Nat
  canonical : mantissa < Nat.pow 2 53 ∧ place ≤ 2045 ∧ (place = 0 ∨ Nat.pow 2 52 ≤ mantissa)
  deriving DecidableEq

namespace Double

/-- The number with these parts; parts beyond the greatest place make none. -/
def ofParts? (negative : Bool) (mantissa place : Nat) : Option Double :=
  if h : mantissa < Nat.pow 2 53 ∧ place ≤ 2045 ∧ (place = 0 ∨ Nat.pow 2 52 ≤ mantissa) then
    some ⟨negative, mantissa, place, h⟩
  else
    none

def zero : Double := ⟨false, 0, 0, by decide⟩

instance : Inhabited Double := ⟨zero⟩

def neg (x : Double) : Double := { x with negative := !x.negative }

/-- The magnitude, counted in quanta. -/
def quanta (x : Double) : Nat := x.mantissa * Nat.pow 2 x.place

/-- Quanta in one. -/
def one : Nat := Nat.pow 2 1074

/-- The whole number nearest to `num / den`, from half way the even one. -/
def nearest (num den : Nat) : Nat :=
  let q := num / den
  let r := num % den
  if den < 2 * r ∨ (2 * r = den ∧ q % 2 = 1) then q + 1 else q

/-- Rounds `num / den` quanta; there is none when the result is beyond the greatest number. -/
def round? (negative : Bool) (num den : Nat) : Option Double :=
  let place := (num / den).log2 - 52
  let m := nearest num (den * Nat.pow 2 place)
  if m = Nat.pow 2 53 then ofParts? negative (Nat.pow 2 52) (place + 1)
  else ofParts? negative m place

def ofNat? (n : Nat) : Option Double := round? false (n * one) 1

def ofInt? (n : Int) : Option Double := round? (n < 0) (n.natAbs * one) 1

def mul? (x y : Double) : Option Double :=
  round? (x.negative != y.negative) (x.quanta * y.quanta) one

/-- The quotient by a divisor other than zero. -/
def div? (x y : Double) : Option Double :=
  round? (x.negative != y.negative) (x.quanta * one) y.quanta

theorem nearest_exact (n : Nat) {den : Nat} (h : 0 < den) : nearest (n * den) den = n := by
  have hd : n * den / den = n := Nat.mul_div_cancel n h
  simp only [nearest, hd, Nat.mul_mod_left]
  split <;> omega

example : (ofNat? 5).map quanta = some (5 * one) := by decide +kernel
example : ofNat? (Nat.pow 10 309) = none := by decide +kernel
example : ofNat? (Nat.pow 2 53 + 1) = ofNat? (Nat.pow 2 53) := by decide +kernel

end Double

end BuyerGateway

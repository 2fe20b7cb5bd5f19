import BuyerGateway.Proofs.Json.Numbers
import BuyerGateway.Request
import Mathlib.Algebra.Order.Field.Power
import Mathlib.Data.List.TakeWhile
import Mathlib.Data.Rat.Cast.Order
import Mathlib.Tactic.FieldSimp
import Mathlib.Tactic.Linarith
import Mathlib.Tactic.Positivity
import Mathlib.Tactic.Ring
/-!
Amounts as they are written. The shortest decimal of a double is no further from it than half of the
distance to the next double, and an amount is this decimal written out in full.
-/
namespace BuyerGateway

def Decimal.value (d : Decimal) : ℚ := d.significand * 10 ^ d.exponent

namespace Double

/-- The magnitude. -/
def value (x : Double) : ℚ := x.quanta / one

/-- The distance from the magnitude to the next greater one. -/
def gap (x : Double) : ℚ := Nat.pow 2 x.place / one

theorem one_pos : 0 < one := by decide +kernel

-- No proof needs to know how many quanta there are in one.
attribute [local irreducible] one

/-! ### The leading digit -/

theorem lt_pow_digitCount (n : Nat) : n < 10 ^ digitCount n :=
  (Nat.length_toDigits_le_iff (by decide) Nat.length_toDigits_pos).1 (Nat.le_refl _)

theorem pow_digitCount_le {n : Nat} (h : 0 < n) : 10 ^ (digitCount n - 1) ≤ n := by
  rcases Nat.eq_zero_or_pos (digitCount n - 1) with hone | hmore
  · rw [hone]
    exact h
  · by_contra hlt
    have hle := (Nat.length_toDigits_le_iff (by decide) hmore).2 (Nat.lt_of_not_le hlt)
    have hpos : 0 < digitCount n := Nat.length_toDigits_pos
    rw [← digitCount] at hle
    omega

/-- The power of ten of the leading digit is no more than the number. -/
theorem pow_magnitude_le {v unit : Nat} (hv : 0 < v) (hunit : 0 < unit) :
    (10 : ℚ) ^ magnitude v unit ≤ v / unit := by
  have hunit' : (0 : ℚ) < unit := Nat.cast_pos.2 hunit
  rw [magnitude, le_div_iff₀ hunit']
  split
  · rename_i hle
    have hpos : 0 < digitCount (v / unit) := Nat.length_toDigits_pos
    have hexp : (digitCount (v / unit) : Int) - 1 = ((digitCount (v / unit) - 1 : Nat) : Int) := by
      omega
    have hdigits := pow_digitCount_le (Nat.div_pos hle hunit)
    have hmul : 10 ^ (digitCount (v / unit) - 1) * unit ≤ v :=
      (Nat.mul_le_mul_right unit hdigits).trans (Nat.div_mul_le_self v unit)
    rw [hexp, zpow_natCast]
    exact_mod_cast hmul
  · -- Below one the reciprocal has as many digits as there are places before the leading one.
    have hdigits := lt_pow_digitCount ((unit - 1) / v)
    have hlt : unit - 1 < 10 ^ digitCount ((unit - 1) / v) * v :=
      (Nat.div_lt_iff_lt_mul hv).1 hdigits
    have hmul : unit ≤ 10 ^ digitCount ((unit - 1) / v) * v := by omega
    rw [zpow_neg, zpow_natCast, inv_mul_le_iff₀ (by positivity)]
    exact_mod_cast hmul

/-! ### The interval of a double -/

/-- The interval that rounds to a double reaches half of a gap to either side, if not to a quarter
below, and that is wide enough for a grid of seventeen digits. -/
theorem span_spec {x : Double} (h : x.mantissa ≠ 0) :
    x.span.2.1 = 4 * x.quanta ∧ x.span.2.2 = x.span.2.1 + 2 * Nat.pow 2 x.place ∧
      0 < x.span.1 ∧ x.span.1 < x.span.2.1 ∧ x.span.2.1 ≤ x.span.1 + 2 * Nat.pow 2 x.place ∧
      x.span.2.1 + 10 ^ 16 * x.span.1 < 10 ^ 16 * x.span.2.2 := by
  have hgap : 0 < Nat.pow 2 x.place := Nat.pow_pos (by decide)
  have hmin : Nat.pow 2 x.place ≤ x.quanta := Nat.le_mul_of_pos_left _ (Nat.pos_of_ne_zero h)
  have hmax : x.quanta < 2 ^ 53 * Nat.pow 2 x.place :=
    Nat.mul_lt_mul_of_pos_right x.canonical.1 hgap
  have hpower : x.mantissa = Nat.pow 2 52 → x.quanta = 2 ^ 52 * Nat.pow 2 x.place := by
    intro h52
    rw [quanta, h52]
    rfl
  obtain ⟨below, hspan, hbelow⟩ : ∃ below,
      x.span = (4 * x.quanta - below, 4 * x.quanta, 4 * x.quanta + 2 * Nat.pow 2 x.place) ∧
      (below = Nat.pow 2 x.place ∧ x.mantissa = Nat.pow 2 52 ∨ below = 2 * Nat.pow 2 x.place) := by
    refine ⟨_, rfl, ?_⟩
    split
    · rename_i hleast
      exact .inl ⟨rfl, hleast.1⟩
    · exact .inr rfl
  rw [hspan]
  refine ⟨rfl, rfl, ?_⟩
  simp only
  generalize Nat.pow 2 x.place = gap at *
  generalize x.quanta = q at *
  rcases hbelow with ⟨rfl, h52⟩ | rfl
  · have := hpower h52
    omega
  · omega

/-- The step of the grid of `10 ^ p`, in quarters of a quantum, as its divisor and its dividend. -/
def step : Int → Nat × Nat
  | .ofNat n => (1, 4 * one * Nat.pow 10 n)
  | .negSucc n => (Nat.pow 10 (n + 1), 4 * one)

theorem step_spec (p : Int) :
    0 < (step p).1 ∧ 0 < (step p).2 ∧ ((step p).2 : ℚ) / (step p).1 = 4 * one * 10 ^ p := by
  have hone := one_pos
  cases p with
  | ofNat n =>
    refine ⟨Nat.one_pos, Nat.mul_pos (by omega) (Nat.pow_pos (by decide)), ?_⟩
    simp [step]
  | negSucc n =>
    refine ⟨Nat.pow_pos (by decide), Nat.mul_pos (by decide) hone, ?_⟩
    simp [step, zpow_negSucc, div_eq_mul_inv]

/-- The point `c` of a grid is in the interval, to which both ends belong for an even mantissa. -/
def Inside (x : Double) (step : Nat × Nat) (c : Nat) : Prop :=
  if x.mantissa % 2 = 0 then
    x.span.1 * step.1 ≤ c * step.2 ∧ c * step.2 ≤ x.span.2.2 * step.1
  else x.span.1 * step.1 < c * step.2 ∧ c * step.2 < x.span.2.2 * step.1

instance (x : Double) (step : Nat × Nat) (c : Nat) : Decidable (x.Inside step c) :=
  inferInstanceAs (Decidable (if x.mantissa % 2 = 0 then
    x.span.1 * step.1 ≤ c * step.2 ∧ c * step.2 ≤ x.span.2.2 * step.1
    else x.span.1 * step.1 < c * step.2 ∧ c * step.2 < x.span.2.2 * step.1))

/-- What is found on a grid is in the interval, and nothing is found where neither neighbour is. -/
theorem onGrid?_cases (tie : Tie) (x : Double) (p : Int) :
    (∃ c, onGrid? tie x p = some c ∧ x.Inside (step p) c) ∨
      let c := x.span.2.1 * (step p).1 / (step p).2
      onGrid? tie x p = none ∧ ¬ x.Inside (step p) c ∧ ¬ x.Inside (step p) (c + 1) := by
  cases p <;>
  · rw [onGrid?]
    simp only
    split
    · rename_i hfloor hceil
      exact .inr ⟨rfl, of_decide_eq_false hfloor, of_decide_eq_false hceil⟩
    · rename_i hfloor hceil
      exact .inl ⟨_, rfl, of_decide_eq_true hfloor⟩
    · rename_i hfloor hceil
      exact .inl ⟨_, rfl, of_decide_eq_true hceil⟩
    · rename_i hfloor hceil
      refine .inl ⟨_, rfl, ?_⟩
      apply iteInduction
      · exact fun _ => of_decide_eq_true hceil
      · exact fun _ => of_decide_eq_true hfloor

theorem Inside.le {x : Double} {step : Nat × Nat} {c : Nat} (h : x.Inside step c) :
    x.span.1 * step.1 ≤ c * step.2 ∧ c * step.2 ≤ x.span.2.2 * step.1 := by
  rw [Inside] at h
  split at h
  · exact h
  · exact ⟨h.1.le, h.2.le⟩

/-- A point in the interval is not zero, and no further from the double than half of the gap. -/
theorem Inside.within {x : Double} (hx : x.mantissa ≠ 0) {p : Int} {c : Nat}
    (h : x.Inside (step p) c) : 0 < c ∧ |(c : ℚ) * 10 ^ p - x.value| ≤ x.gap / 2 := by
  obtain ⟨hnum, -, hstep⟩ := step_spec p
  obtain ⟨hv, hhigh, hpos, -, hlow, -⟩ := span_spec hx
  obtain ⟨hl, hh⟩ := h.le
  refine ⟨?_, ?_⟩
  · refine Nat.pos_of_ne_zero fun hc => ?_
    have := Nat.mul_pos hpos hnum
    rw [hc] at hl
    omega
  have hone : (0 : ℚ) < one := Nat.cast_pos.2 one_pos
  have hnum' : (0 : ℚ) < (step p).1 := Nat.cast_pos.2 hnum
  have hl' : (x.span.1 : ℚ) ≤ c * (4 * one * 10 ^ p) := by
    rw [← hstep, ← mul_div_assoc, le_div_iff₀ hnum']
    exact_mod_cast hl
  have hh' : (c : ℚ) * (4 * one * 10 ^ p) ≤ x.span.2.2 := by
    rw [← hstep, ← mul_div_assoc, div_le_iff₀ hnum']
    exact_mod_cast hh
  have hlow' : (4 * x.quanta : ℚ) ≤ x.span.1 + 2 * Nat.pow 2 x.place := by
    exact_mod_cast hv ▸ hlow
  have hhigh' : (x.span.2.2 : ℚ) = 4 * x.quanta + 2 * Nat.pow 2 x.place := by
    exact_mod_cast hv ▸ hhigh
  have hquanta : (x.quanta : ℚ) = x.value * one := (div_mul_cancel₀ _ hone.ne').symm
  have hgap : (Nat.pow 2 x.place : ℚ) = x.gap * one := (div_mul_cancel₀ _ hone.ne').symm
  rw [hquanta, hgap] at hlow' hhigh'
  rw [abs_le]
  constructor
  · refine le_of_mul_le_mul_right ?_ hone
    linarith
  · refine le_of_mul_le_mul_right ?_ hone
    linarith

/-- Something is found on a grid that is narrower than the interval. -/
theorem onGrid?_ne_none {tie : Tie} {x : Double} (hx : x.mantissa ≠ 0) {p : Int}
    (h : 4 * one * (10 : ℚ) ^ p < x.span.2.2 - x.span.1) : onGrid? tie x p ≠ none := by
  obtain ⟨hnum, hden, hstep⟩ := step_spec p
  obtain ⟨-, hhigh, -, hlow, -, -⟩ := span_spec hx
  have hwide : x.span.1 * (step p).1 + (step p).2 < x.span.2.2 * (step p).1 := by
    have hnum' : (0 : ℚ) < (step p).1 := Nat.cast_pos.2 hnum
    rw [← hstep, div_lt_iff₀ hnum', sub_mul] at h
    have h' : (x.span.1 * (step p).1 + (step p).2 : ℚ) < x.span.2.2 * (step p).1 := by linarith
    exact_mod_cast h'
  rcases onGrid?_cases tie x p with ⟨c, hc, -⟩ | ⟨-, hfloor, hceil⟩
  · rw [hc]
    exact Option.some_ne_none c
  · -- The double is between both neighbours, so if neither is in the interval, the grid is wider.
    have hgap : 0 < Nat.pow 2 x.place := Nat.pow_pos (by decide)
    have hlow' := Nat.mul_lt_mul_of_pos_right hlow hnum
    have hhigh' : x.span.2.1 * (step p).1 < x.span.2.2 * (step p).1 :=
      Nat.mul_lt_mul_of_pos_right (by omega) hnum
    have hbelow := Nat.div_mul_le_self (x.span.2.1 * (step p).1) (step p).2
    have habove := Nat.lt_div_mul_add hden (a := x.span.2.1 * (step p).1)
    rw [Inside] at hfloor hceil
    rw [Nat.add_mul, Nat.one_mul] at hceil
    generalize x.span.2.1 * (step p).1 / (step p).2 * (step p).2 = floor at *
    by_cases heven : x.mantissa % 2 = 0
    · rw [if_pos heven] at hfloor hceil
      omega
    · rw [if_neg heven] at hfloor hceil
      omega

/-! ### The decimal -/

theorem shortest_of_zero (tie : Tie) {x : Double} (h : x.mantissa = 0) :
    x.shortest tie = ⟨0, 0⟩ := by
  rw [shortest, if_pos h]

/-- The decimal is found on one of the grids, the last of which has seventeen digits. -/
theorem shortest_spec (tie : Tie) {x : Double} (h : x.mantissa ≠ 0) :
    x.Inside (step (x.shortest tie).exponent) (x.shortest tie).significand := by
  obtain ⟨hv, -, -, hlow, -, hwidth⟩ := span_spec h
  -- With the leading digit at `10 ^ e` the grid of `10 ^ (e - 16)` is narrower than the interval.
  have hlast : onGrid? tie x (magnitude (4 * x.quanta) (4 * one) - 16) ≠ none := by
    apply onGrid?_ne_none h
    have hquarters : 0 < 4 * one := Nat.mul_pos (by decide) one_pos
    have hlead := pow_magnitude_le (v := 4 * x.quanta) (by omega) hquarters
    rw [le_div_iff₀ (Nat.cast_pos.2 hquarters)] at hlead
    push_cast at hlead
    have hwidth' : (4 * x.quanta + 10 ^ 16 * x.span.1 : ℚ) < 10 ^ 16 * x.span.2.2 := by
      exact_mod_cast hv ▸ hwidth
    have hsixteen : (10 : ℚ) ^ (16 : ℤ) = 10 ^ 16 := by norm_cast
    rw [zpow_sub₀ (by norm_num), hsixteen, mul_div_assoc', div_lt_iff₀ (by norm_num)]
    linarith
  rw [shortest, if_neg h]
  simp only
  split
  · rename_i d hfound
    obtain ⟨p, -, hp⟩ := List.exists_of_findSome?_eq_some hfound
    obtain ⟨c, hc, rfl⟩ := Option.map_eq_some_iff.1 hp
    rcases onGrid?_cases tie x p with ⟨c', hc', hinside⟩ | ⟨hnone, -⟩
    · cases hc.symm.trans hc'
      exact hinside
    · cases hc.symm.trans hnone
  · rename_i hnone
    have := List.findSome?_eq_none_iff.1 hnone _ (List.mem_map.2 ⟨16, by decide, rfl⟩)
    exact absurd (Option.map_eq_none_iff.1 this) hlast

/-- The decimal of a double is no further from it than half of the gap. -/
theorem abs_shortest_sub_le (tie : Tie) (x : Double) :
    |(x.shortest tie).value - x.value| ≤ x.gap / 2 := by
  by_cases h : x.mantissa = 0
  · have hvalue : x.value = 0 := by simp [value, quanta, h]
    have hgap : 0 ≤ x.gap := div_nonneg (Nat.cast_nonneg _) (Nat.cast_nonneg _)
    simpa [shortest_of_zero tie h, Decimal.value, hvalue] using div_nonneg hgap (by norm_num)
  · exact ((shortest_spec tie h).within h).2

end Double

/-! ### Digits -/

namespace Text

/-- The first of these characters is not a zero. -/
def Leads (cs : List Char) : Prop := ∃ c, cs.head? = some c ∧ c ≠ '0'

/-- Only zero is written with a zero in front. -/
theorem leads_toDigits {n : Nat} (h : 0 < n) : Leads (Nat.toDigits 10 n) := by
  obtain ⟨d, ds, hds, hd⟩ := exists_digitsOf h
  obtain ⟨c, cs, hcs, rfl, -⟩ := List.map_eq_cons_iff.1 hds
  refine ⟨c, by rw [hcs]; rfl, ?_⟩
  rintro rfl
  exact hd rfl

/-- Zeros are stripped up to the last digit that is none. -/
theorem exists_stripZeros (cs : List Char) :
    (∃ k, cs = DecimalLayout.stripZeros cs ++ List.replicate k '0') ∧
      (DecimalLayout.stripZeros cs).getLast? ≠ some '0' := by
  let kept := cs.reverse.dropWhile (· == '0')
  let zeros := cs.reverse.takeWhile (· == '0')
  constructor
  · have hzeros : zeros = List.replicate zeros.length '0' :=
      List.eq_replicate_iff.2 ⟨rfl, fun c hc => by simpa using List.mem_takeWhile_imp hc⟩
    refine ⟨zeros.length, ?_⟩
    calc
      cs = (zeros ++ kept).reverse := by
        rw [List.takeWhile_append_dropWhile, List.reverse_reverse]
      _ = kept.reverse ++ zeros.reverse := List.reverse_append
      _ = kept.reverse ++ List.replicate zeros.length '0' := by
        rw [hzeros, List.reverse_replicate, List.length_replicate]
  · change kept.reverse.getLast? ≠ some '0'
    rw [List.getLast?_reverse]
    intro h
    have hno := List.head?_dropWhile_not (· == '0') cs.reverse
    change kept.head? = some '0' at h
    rw [h] at hno
    cases hno

/-- The digits of a number without the zeros at its end. -/
theorem stripZeros_toDigits {n : Nat} (h : 0 < n) :
    ∃ k, Nat.toDigits 10 n = DecimalLayout.stripZeros (Nat.toDigits 10 n) ++ List.replicate k '0' ∧
      Leads (DecimalLayout.stripZeros (Nat.toDigits 10 n)) := by
  obtain ⟨⟨k, hk⟩, -⟩ := exists_stripZeros (Nat.toDigits 10 n)
  obtain ⟨c, hc, hne⟩ := leads_toDigits h
  refine ⟨k, hk, c, ?_, hne⟩
  rw [hk, List.head?_append] at hc
  cases hfirst : (DecimalLayout.stripZeros (Nat.toDigits 10 n)).head? with
  | some d =>
    rw [hfirst] at hc
    exact hc
  | none =>
    -- Then all digits are zeros, but the first is not.
    rw [hfirst, Option.none_or] at hc
    exact absurd (List.eq_of_mem_replicate (List.mem_of_head? hc)) hne

end Text

/-! ### The text of an amount -/

/-- The point and the digits behind it, if there are any. -/
def pointed (fraction : List Char) : List Char := if fraction = [] then [] else '.' :: fraction

/-- Digits around a point: none are left out, at least one stands in front, a zero in front stands
alone, and no zero stands at the end. -/
structure Spread (whole fraction : List Char) : Prop where
  digits : ∀ c ∈ whole ++ fraction, c.isDigit = true
  leading : whole = ['0'] ∨ Text.Leads whole
  trimmed : fraction.getLast? ≠ some '0'

/-- Digits with the point behind the first `point` of them, laid out around it. They have the value
of the number that the digits alone spell, shifted to the point. -/
structure Laid (cs : List Char) (point : Int) (whole fraction : List Char) : Prop
    extends Spread whole fraction where
  text : amountLayout.place cs point = whole ++ pointed fraction
  value : (Nat.ofDigitChars 10 (whole ++ fraction) 0 : ℚ) / 10 ^ fraction.length =
    Nat.ofDigitChars 10 cs 0 * 10 ^ (point - cs.length)

section Placing

variable {digits : List Char} (hdigits : ∀ c ∈ digits, c.isDigit = true)
  (hlead : Text.Leads digits) (hlast : digits.getLast? ≠ some '0')

theorem isDigit_zeros (n : Nat) : ∀ c ∈ List.replicate n '0', c.isDigit = true := by
  intro c hc
  rw [List.eq_of_mem_replicate hc]
  rfl

theorem pointed_of_ne_nil {fraction : List Char} (h : fraction ≠ []) :
    pointed fraction = '.' :: fraction :=
  if_neg h

include hdigits hlead in
/-- All digits stand in front of the point, and zeros fill the places up to it. -/
theorem laid_in_front {n : Nat} (hn : digits.length ≤ n) :
    Laid digits n (digits ++ List.replicate (n - digits.length) '0') [] := by
  refine ⟨⟨?_, .inr ?_, (Option.some_ne_none _).symm⟩, ?_, ?_⟩
  · rw [List.append_nil, List.forall_mem_append]
    exact ⟨hdigits, isDigit_zeros _⟩
  · obtain ⟨c, hc, hne⟩ := hlead
    exact ⟨c, by rw [List.head?_append, hc]; rfl, hne⟩
  · exact if_pos hn
  · have hexp : (n : Int) - digits.length = (n - digits.length : Nat) := by omega
    rw [List.append_nil, Nat.ofDigitChars_append, Nat.ofDigitChars_replicate_zero, hexp,
      zpow_natCast, List.length_nil, pow_zero, div_one]
    push_cast
    ring

include hdigits hlead hlast in
/-- The point stands among the digits. -/
theorem laid_around {n : Nat} (hn : n ≠ 0) (hlong : n < digits.length) :
    Laid digits n (digits.take n) (digits.drop n) := by
  have hlong' : ¬ digits.length ≤ n := Nat.not_le_of_lt hlong
  refine ⟨⟨?_, .inr ?_, ?_⟩, ?_, ?_⟩
  · rw [List.take_append_drop]
    exact hdigits
  · obtain ⟨c, hc, hne⟩ := hlead
    exact ⟨c, by rw [List.head?_take, if_neg hn, hc], hne⟩
  · rw [List.getLast?_drop, if_neg hlong']
    exact hlast
  · rw [pointed_of_ne_nil fun hnil => hlong' (List.drop_eq_nil_iff.1 hnil)]
    exact (if_neg hlong').trans (if_neg hn)
  · have hexp : (n : Int) - digits.length = -(digits.drop n).length := by
      rw [List.length_drop]
      omega
    rw [List.take_append_drop, hexp, zpow_neg, zpow_natCast, div_eq_mul_inv]

include hdigits hlead hlast in
/-- All digits stand behind the point, and zeros fill the places down to it. -/
theorem laid_behind (n : Nat) : Laid digits (-n) ['0'] (List.replicate n '0' ++ digits) := by
  have hne : digits ≠ [] := by
    rintro rfl
    obtain ⟨c, hc, -⟩ := hlead
    cases hc
  refine ⟨⟨?_, .inl rfl, ?_⟩, ?_, ?_⟩
  · rw [List.forall_mem_append, List.forall_mem_append]
    exact ⟨isDigit_zeros 1, isDigit_zeros n, hdigits⟩
  · rw [List.getLast?_append_of_ne_nil _ hne]
    exact hlast
  · rw [pointed_of_ne_nil fun hnil => hne (List.append_eq_nil_iff.1 hnil).2]
    cases n with
    | zero =>
      have hlong : ¬ digits.length ≤ 0 := fun h => hne (List.length_eq_zero_iff.1 (Nat.le_zero.1 h))
      exact (if_neg hlong).trans (if_pos rfl)
    | succ n => rfl
  · have hzero : (['0'] ++ (List.replicate n '0' ++ digits)) =
        List.replicate (n + 1) '0' ++ digits := rfl
    have hexp : -(n : Int) - digits.length = -(List.replicate n '0' ++ digits).length := by
      rw [List.length_append, List.length_replicate]
      omega
    rw [hzero, Nat.ofDigitChars_append, Nat.ofDigitChars_replicate_zero, Nat.mul_zero, hexp,
      zpow_neg, zpow_natCast, div_eq_mul_inv]

include hdigits hlead hlast in
/-- Wherever the point stands, the digits are laid out around it. -/
theorem exists_laid (point : Int) : ∃ whole fraction, Laid digits point whole fraction := by
  cases point with
  | ofNat n =>
    rcases Nat.eq_zero_or_pos n with rfl | hn
    · exact ⟨_, _, laid_behind hdigits hlead hlast 0⟩
    · rcases Nat.lt_or_ge n digits.length with hlong | hshort
      · exact ⟨_, _, laid_around hdigits hlead hlast hn.ne' hlong⟩
      · exact ⟨_, _, laid_in_front hdigits hlead hshort⟩
  | negSucc n => exact ⟨_, _, laid_behind hdigits hlead hlast (n + 1)⟩

end Placing

/-- The layout of a decimal has the value of the decimal. -/
theorem Decimal.exists_place {d : Decimal} (h : 0 < d.significand) :
    ∃ whole fraction, Spread whole fraction ∧
      amountLayout.place (DecimalLayout.stripZeros (Nat.toDigits 10 d.significand))
        ((Nat.toDigits 10 d.significand).length + d.exponent) = whole ++ pointed fraction ∧
      (Nat.ofDigitChars 10 (whole ++ fraction) 0 : ℚ) / 10 ^ fraction.length = d.value := by
  have hdigits : ∀ c ∈ Nat.toDigits 10 d.significand, c.isDigit = true :=
    fun c hc => Text.isDigit_of_mem_toDigits hc
  have hsignificand : Nat.ofDigitChars 10 (Nat.toDigits 10 d.significand) 0 = d.significand :=
    Nat.ofDigitChars_ten_toDigits
  obtain ⟨k, hk, hlead⟩ := Text.stripZeros_toDigits h
  obtain ⟨-, hlast⟩ := Text.exists_stripZeros (Nat.toDigits 10 d.significand)
  generalize DecimalLayout.stripZeros (Nat.toDigits 10 d.significand) = digits at *
  rw [hk] at hdigits hsignificand ⊢
  rw [Nat.ofDigitChars_append, Nat.ofDigitChars_replicate_zero] at hsignificand
  rw [List.length_append, List.length_replicate]
  obtain ⟨whole, fraction, hlaid⟩ := exists_laid (List.forall_mem_append.1 hdigits).1 hlead hlast
    ((digits.length + k : Nat) + d.exponent)
  refine ⟨whole, fraction, hlaid.toSpread, hlaid.text, ?_⟩
  -- The zeros that were stripped are made up for by the point.
  have hexp : ((digits.length + k : Nat) : Int) + d.exponent - digits.length = k + d.exponent := by
    omega
  rw [hlaid.value, value, hexp, zpow_add₀ (by norm_num), zpow_natCast, ← hsignificand]
  push_cast
  ring

/-- The text is that of a magnitude in digits around a point, no further from the double than half
of the gap, behind a minus sign for a negative one. -/
structure Double.WrittenOut (x : Double) (text : String) (whole fraction : List Char) : Prop
    extends Spread whole fraction where
  text : text.toList = (if x.negative then ['-'] else []) ++ (whole ++ pointed fraction)
  near : |(Nat.ofDigitChars 10 (whole ++ fraction) 0 : ℚ) / 10 ^ fraction.length - x.value| ≤
    x.gap / 2

/-- An amount is written out in full: without an exponent, and without a point
behind a whole number. -/
theorem exists_amountLayout_render (x : Double) :
    ∃ whole fraction, x.WrittenOut (amountLayout.render x) whole fraction := by
  have hrender : (amountLayout.render x).toList = (if x.negative then ['-'] else []) ++
      let d := x.shortest .up
      let all := Nat.toDigits 10 d.significand
      amountLayout.place (if d.significand = 0 then all else DecimalLayout.stripZeros all)
        (all.length + d.exponent - 1 + 1) := by
    rw [DecimalLayout.render, String.toList_ofList]
    cases x.negative <;> rfl
  have hnear := x.abs_shortest_sub_le .up
  by_cases h : x.mantissa = 0
  · rw [x.shortest_of_zero .up h] at hrender hnear
    have hdigit : ∀ c ∈ ['0'], c.isDigit = true := by
      intro c hc
      rw [List.mem_singleton.1 hc]
      rfl
    have hzero : Nat.ofDigitChars 10 ['0'] 0 = 0 := rfl
    refine ⟨['0'], [], ⟨hdigit, .inl rfl, (Option.some_ne_none _).symm⟩, hrender, ?_⟩
    simpa [hzero, Decimal.value] using hnear
  · have hpos := ((x.shortest_spec .up h).within h).1
    obtain ⟨whole, fraction, hspread, hplace, hvalue⟩ := Decimal.exists_place hpos
    simp only [if_neg hpos.ne', Int.sub_add_cancel, hplace] at hrender
    exact ⟨whole, fraction, hspread, hrender, hvalue ▸ hnear⟩

end BuyerGateway

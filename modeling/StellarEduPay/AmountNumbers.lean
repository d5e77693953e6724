import StellarEduPay.Decimals
import StellarEduPay.Doubles
import StellarEduPay.Money

/-! # Amounts as numbers

The model counts amounts in stroops.  The documents and the answers hold them as numbers, which are
doubles: each is the nearest to its amount, and what the code adds up and subtracts without a decimal
library is rounded again.
-/
namespace StellarEduPay
open Decimals Doubles

/-- The number of an amount: `stroopsToNumber` of `utils/stellarAmount.js`, `toNumber` of a decimal with
seven places, an amount that was stored. -/
def stroopsToNumber (stroops : Int) : ℚ := nearest (stroops / 10 ^ moneyDecimals)

/-- The stroops of a value at seven places, as `toFixed(7)` writes them. -/
def stroopsOf (q : ℚ) : ℤ := roundAway (q * 10 ^ moneyDecimals)

/-- `parseFloat(x.toFixed(7))` -/
def fixedNumber (x : ℚ) : ℚ := stroopsToNumber (stroopsOf x)

/-- The decimal with the fewest significant digits that is read as the number `x`. -/
def shortest (x : ℚ) : ℚ :=
  (((List.range 17).map fun p => roundSignificant (p + 1) x).find? fun d => nearest d = x).getD x

/-- How JavaScript prints the number of an amount. -/
def numberText (x : ℚ) : String := jsNumber (stroopsOf (shortest x))

section Numbers
variable {a b : Int}

@[simp] theorem stroopsToNumber_zero : stroopsToNumber 0 = 0 := by
  simp [stroopsToNumber]

@[simp] theorem fixedNumber_zero : fixedNumber 0 = 0 := by
  simp [fixedNumber, stroopsOf, roundAway]

theorem stroopsToNumber_mono (h : a ≤ b) : stroopsToNumber a ≤ stroopsToNumber b := by
  refine nearest_mono (div_le_div_of_nonneg_right ?_ (by positivity))
  exact_mod_cast h

theorem stroopsToNumber_pos (h : 0 < a) : 0 < stroopsToNumber a :=
  nearest_pos (div_pos (by exact_mod_cast h) (by positivity))

@[simp] theorem stroopsToNumber_eq_zero_iff : stroopsToNumber a = 0 ↔ a = 0 := by
  rw [stroopsToNumber, nearest_eq_zero_iff, div_eq_zero_iff]
  simp

/-- What remains of `b` after `a` has been paid, reckoned from a number `x` for `b`: the subtraction has to
be right where something is left, and elsewhere `x` must not exceed what was paid. -/
theorem max_sub_of_left {x : ℚ} (hpaid : b ≤ a → x ≤ stroopsToNumber a)
    (h : a < b → sub x (stroopsToNumber a) = stroopsToNumber (b - a)) :
    max 0 (sub x (stroopsToNumber a)) = stroopsToNumber (max 0 (b - a)) := by
  rcases le_or_gt b a with hle | hlt
  · rw [max_sub_of_le (hpaid hle), max_eq_left (sub_nonpos.mpr hle), stroopsToNumber_zero]
  · have hpos := stroopsToNumber_pos (sub_pos.mpr hlt)
    rw [h hlt, max_eq_right hpos.le, max_eq_right (sub_pos.mpr hlt).le]

theorem max_sub_stroopsToNumber
    (h : a < b → sub (stroopsToNumber b) (stroopsToNumber a) = stroopsToNumber (b - a)) :
    max 0 (sub (stroopsToNumber b) (stroopsToNumber a)) = stroopsToNumber (max 0 (b - a)) :=
  max_sub_of_left stroopsToNumber_mono h

/-- Where the subtraction is right, the numbers are ordered as the amounts are. -/
theorem stroopsToNumber_le_iff
    (h : a < b → sub (stroopsToNumber b) (stroopsToNumber a) = stroopsToNumber (b - a)) :
    stroopsToNumber b ≤ stroopsToNumber a ↔ b ≤ a := by
  refine ⟨fun hle => ?_, stroopsToNumber_mono⟩
  by_contra hlt
  have hpos := stroopsToNumber_pos (sub_pos.mpr (not_le.mp hlt))
  rw [← h (not_le.mp hlt)] at hpos
  exact (sub_pos_iff.mp hpos).not_ge hle

/-- And conversely, if something is left as a number. -/
theorem eq_of_max_eq {x : ℚ} (h : 0 < a) (hmax : max 0 x = stroopsToNumber (max 0 a)) :
    x = stroopsToNumber a := by
  have hpos := stroopsToNumber_pos h
  rw [max_eq_right h.le] at hmax
  rcases max_choice 0 x with hzero | hx
  · rw [hzero] at hmax
    exact absurd hmax hpos.ne
  · rwa [hx] at hmax

end Numbers

end StellarEduPay

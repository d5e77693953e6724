import StellarEduPay.AmountNumbers
import StellarEduPay.StroopCodec

/-! # Comparing what was paid with the fee

`classifyFeePayment` of `utils/money.js` rounds the total paid and compares it with the fee as it
is; `validatePaymentAgainstFee` of `services/stellarService.js` rounds both to stroops.  The amounts
are decimals here, with any number of places, as the strings they come in spell them; what is returned
are numbers, the doubles nearest to the amounts.
-/
namespace StellarEduPay
open Checks Decimals Doubles

/-! ## The two comparisons -/

/-- What `classifyFeePayment` returns. -/
structure DecimalClassification where
  status : FeeStatus
  feePaid : Bool
  cumulativeTotal : ℚ
  excessAmount : ℚ
  remainingBalance : ℚ
  deriving DecidableEq, Repr

namespace DecimalMoney

/-- `toMoneyNumber` -/
def toMoneyNumber (value : ℚ) : ℚ := nearest (round value)

/-- `a.minus(b)`, which rounds to the default `precision` of 20 significant digits. -/
def minus (a b : ℚ) : ℚ := roundSignificant 20 (a - b)

/-- `classifyFeePayment` of a rounded total and a parsed fee. -/
def classification (cumulative fee : ℚ) : DecimalClassification where
  status := if cumulative < fee then .partPaid else if fee < cumulative then .overpaid else .valid
  feePaid := decide (fee ≤ cumulative)
  cumulativeTotal := nearest cumulative
  excessAmount := if fee < cumulative then toMoneyNumber (minus cumulative fee) else 0
  remainingBalance := toMoneyNumber (max 0 (minus fee cumulative))

/-- `classifyFeePayment` -/
def classifyFeePayment (new : DecimalParser) (cumulativeTotal feeAmount : String) :
    Except DecimalError DecimalClassification := do
  let cumulative ← roundMoney new cumulativeTotal
  let fee ← toMoney new feeAmount
  .ok (classification cumulative fee)

end DecimalMoney

/-- What `validatePaymentAgainstFee` returns. -/
structure FeeValidation where
  status : FeeStatus
  excessAmount : ℚ
  message : String
  deriving DecidableEq, Repr

/-- The comparison of `validatePaymentAgainstFee`. -/
def compareStroops (paymentAmount expectedFee : String) (paidStroops feeStroops : Int) :
    FeeValidation :=
  if paidStroops < feeStroops then
    ⟨.underpaid, 0,
      "Payment of " ++ paymentAmount ++ " is less than the required fee of " ++ expectedFee⟩
  else if feeStroops < paidStroops then
    ⟨.overpaid, stroopsToNumber (paidStroops - feeStroops),
      "Payment of " ++ paymentAmount ++ " exceeds the required fee of " ++ expectedFee ++ " by " ++
        numberText (stroopsToNumber (paidStroops - feeStroops))⟩
  else ⟨.valid, 0, "Payment matches the required fee"⟩

/-- `validatePaymentAgainstFee`, on amounts as they are written -/
def DecimalMoney.validatePaymentAgainstFee (paymentAmount expectedFee : String) :
    Except String FeeValidation := do
  let paidStroops ← toStroops paymentAmount
  let feeStroops ← toStroops expectedFee
  .ok (compareStroops paymentAmount expectedFee paidStroops feeStroops)

/-! ## Agreement -/

/-- Below, at or above the fee. -/
def FeeStatus.position : FeeStatus → Option Ordering
  | .partPaid | .underpaid => some .lt
  | .valid => some .eq
  | .overpaid => some .gt
  | .unknown => none

/-- The two comparisons agree, and the classification is coherent. -/
structure FeesCoherent (k : DecimalClassification) (v : FeeValidation) (fee : ℚ) : Prop where
  status : k.status.position = v.status.position
  excess : k.excessAmount = v.excessAmount
  paid : k.feePaid = true ↔ k.remainingBalance = 0
  part : k.feePaid = true ↔ k.status ≠ .partPaid
  total : DecimalMoney.round (k.cumulativeTotal + k.remainingBalance) =
    DecimalMoney.round (fee + k.excessAmount)

/-- What rounding to stroops leaves of a value. -/
def subStroop (q : ℚ) : ℚ := q * 10 ^ moneyDecimals - stroopsOf q

/-- How close to half a stroop 20 significant digits let a difference of `n` stroops come. -/
def halfStroop (n : Nat) : ℚ := 1 / 2 - 1 / (2 * 10 ^ (19 - Nat.log 10 n))

/-- What the number of an amount is off by, in stroops. -/
def numberError (stroops : ℤ) : ℚ := stroopsToNumber stroops * 10 ^ moneyDecimals - stroops

/-- The stroops between a rounded total and the rounded fee. -/
def feeDistance (paid fee : ℚ) : ℕ := (stroopsOf paid - stroopsOf fee).natAbs

/-- The fee has no part of a stroop where it is met to the stroop; above it, it is not so close to half
a stroop that the difference rounds across it, unless the number of the difference is the same; and in
no case do the errors of the numbers come to another stroop. -/
structure FeeClear (paid fee : ℚ) : Prop where
  met : stroopsOf paid = stroopsOf fee →
    subStroop fee = 0 ∧ round (numberError (stroopsOf fee)) = 0
  above : stroopsOf fee < stroopsOf paid →
    (-subStroop fee < halfStroop (feeDistance paid fee) ∨
      stroopsToNumber (feeDistance paid fee + 1) = stroopsToNumber (feeDistance paid fee)) ∧
    round (numberError (stroopsOf paid)) = round (subStroop fee + numberError (feeDistance paid fee))
  below : stroopsOf paid < stroopsOf fee →
    if subStroop fee < halfStroop (feeDistance paid fee) then
      round (numberError (stroopsOf paid) + numberError (feeDistance paid fee)) = 0
    else round (numberError (stroopsOf paid) + numberError (feeDistance paid fee + 1)) = -1

section Compare
variable {paid fee : ℚ}

theorem round_div_pow (q : ℚ) :
    DecimalMoney.round (q / 10 ^ moneyDecimals) = roundAway q / 10 ^ moneyDecimals := by
  rw [DecimalMoney.round, DecimalMoney.toDecimalPlaces, div_mul_cancel₀ _ (by positivity)]

/-- A difference rounded to seven places, in stroops. -/
theorem round_minus (a b : ℚ) : DecimalMoney.round (DecimalMoney.minus a b) =
    roundAway (roundSignificant 20 ((a - b) * 10 ^ moneyDecimals)) / 10 ^ moneyDecimals := by
  rw [← round_div_pow, ← roundSignificant_div_pow, mul_div_cancel_right₀ _ (by positivity)]
  rfl

/-- Seven places of a number that is `m` stroops and a rest. -/
theorem stroopsOf_eq {q e : ℚ} {m : ℤ} (h : 0 ≤ q) (hq : q * 10 ^ moneyDecimals = m + e) :
    stroopsOf q = m + round e := by
  rw [stroopsOf, roundAway_of_nonneg (by positivity), hq, round_intCast_add]

theorem stroopsToNumber_nonneg {m : ℤ} (h : 0 ≤ m) : 0 ≤ stroopsToNumber m := by
  simpa using stroopsToNumber_mono h

theorem stroopsToNumber_mul (m : ℤ) :
    stroopsToNumber m * 10 ^ moneyDecimals = m + numberError m := by
  rw [numberError]
  ring

theorem subStroop_bounds (h : 0 ≤ fee) : -(1 / 2) ≤ subStroop fee ∧ subStroop fee < 1 / 2 := by
  have hround := round_eq_iff.mp (rfl : round (fee * 10 ^ moneyDecimals) = _)
  rw [Set.mem_Ico] at hround
  rw [subStroop, stroopsOf, roundAway_of_nonneg (by positivity)]
  constructor <;> linarith [hround.1, hround.2]

/-- The difference from a rounded total, in stroops. -/
theorem minus_stroops (paid fee : ℚ) :
    ((stroopsOf paid : ℚ) / 10 ^ moneyDecimals - fee) * 10 ^ moneyDecimals =
      (stroopsOf paid - stroopsOf fee : ℤ) - subStroop fee := by
  rw [sub_mul, div_mul_cancel₀ _ (by positivity), subStroop]
  push_cast
  ring

/-- A nonnegative value whose stroops fit in a signed 64-bit integer. -/
structure InStroopRange (q : ℚ) : Prop where
  nonneg : 0 ≤ q
  bounded : q * 10 ^ moneyDecimals ≤ 2 ^ 63 - 1

theorem InStroopRange.stroops (h : InStroopRange paid) :
    0 ≤ stroopsOf paid ∧ stroopsOf paid < 10 ^ 19 := by
  have hscaled : 0 ≤ paid * 10 ^ moneyDecimals := mul_nonneg h.nonneg (by positivity)
  have hbound := h.bounded
  rw [stroopsOf, roundAway_of_nonneg hscaled, round_eq]
  constructor
  · exact Int.floor_nonneg.mpr (by linarith)
  · refine Int.floor_lt.mpr ?_
    push_cast
    linarith

/-- A difference of `n` stroops and a rest rounds to `n`, or to the next across the half. -/
theorem roundDifference {n : ℕ} {r : ℚ} (hn : 0 < n) (hrange : n < 10 ^ 19)
    (hlow : -(1 / 2) ≤ r) (hhigh : r ≤ 1 / 2) :
    roundAway (roundSignificant 20 (n + r)) = if r < halfStroop n then (n : ℤ) else n + 1 := by
  have hlog : Nat.log 10 n < 19 := Nat.log_lt_of_lt_pow hn.ne' hrange
  have hhalf : n + r < (n : ℚ) + 1 / 2 - 1 / (2 * 10 ^ (20 - 1 - Nat.log 10 n)) ↔
      r < halfStroop n := by
    rw [halfStroop]
    constructor <;> intro h <;> linarith
  rw [round_roundSignificant hn (by omega) (by linarith) (by linarith)]
  simp only [hhalf]

/-- The classification of a rounded total, by the difference `x` in stroops. -/
theorem classification_eq {x : ℚ} (hx : (stroopsOf paid - stroopsOf fee : ℤ) - subStroop fee = x) :
    DecimalMoney.classification (stroopsOf paid / 10 ^ moneyDecimals) fee =
      { status := if x < 0 then .partPaid else if 0 < x then .overpaid else .valid
        feePaid := decide (0 ≤ x)
        cumulativeTotal := stroopsToNumber (stroopsOf paid)
        excessAmount := if 0 < x then stroopsToNumber (roundAway (roundSignificant 20 x)) else 0
        remainingBalance :=
          if x < 0 then stroopsToNumber (roundAway (roundSignificant 20 (-x))) else 0 } := by
  obtain ⟨c, hc⟩ : ∃ c : ℚ, c = stroopsOf paid / 10 ^ moneyDecimals := ⟨_, rfl⟩
  have hten : (0 : ℚ) < 10 ^ moneyDecimals := by positivity
  have hdiff : (c - fee) * 10 ^ moneyDecimals = x := by rw [hc, minus_stroops, hx]
  have hdiff' : (fee - c) * 10 ^ moneyDecimals = -x := by rw [← hdiff]; ring
  have hlt : c < fee ↔ x < 0 := by rw [← neg_pos, ← hdiff', mul_pos_iff_of_pos_right hten, sub_pos]
  have hgt : fee < c ↔ 0 < x := by rw [← hdiff, mul_pos_iff_of_pos_right hten, sub_pos]
  have hge : fee ≤ c ↔ 0 ≤ x := by rw [← not_lt, hlt, not_lt]
  have hnumber : stroopsToNumber (stroopsOf paid) = nearest c := by rw [hc]; rfl
  have hremaining : DecimalMoney.toMoneyNumber (max 0 (DecimalMoney.minus fee c)) =
      if x < 0 then stroopsToNumber (roundAway (roundSignificant 20 (-x))) else 0 := by
    split
    · rename_i hx
      have hnonneg : 0 ≤ DecimalMoney.minus fee c :=
        roundSignificant_nonneg (sub_nonneg.mpr (hlt.mpr hx).le)
      rw [max_eq_right hnonneg, DecimalMoney.toMoneyNumber, round_minus, hdiff']
      rfl
    · rename_i hx
      have hnonneg : 0 ≤ roundSignificant 20 (c - fee) :=
        roundSignificant_nonneg (sub_nonneg.mpr (hge.mpr (not_lt.mp hx)))
      have hneg : DecimalMoney.minus fee c ≤ 0 := by
        rw [DecimalMoney.minus, ← neg_sub, roundSignificant_neg]
        linarith
      rw [max_eq_left hneg]
      simp [DecimalMoney.toMoneyNumber, DecimalMoney.round, DecimalMoney.toDecimalPlaces, roundAway]
  have hexcess : DecimalMoney.toMoneyNumber (DecimalMoney.minus c fee) =
      stroopsToNumber (roundAway (roundSignificant 20 x)) := by
    rw [DecimalMoney.toMoneyNumber, round_minus, hdiff]
    rfl
  rw [← hc]
  simp only [DecimalMoney.classification, hlt, hgt, hge, hremaining, hexcess, hnumber]

/-- At seven places values are the same if they have the same stroops. -/
theorem round_eq_round_iff {a b : ℚ} :
    DecimalMoney.round a = DecimalMoney.round b ↔ stroopsOf a = stroopsOf b := by
  change (stroopsOf a : ℚ) / 10 ^ moneyDecimals = stroopsOf b / 10 ^ moneyDecimals ↔ _
  rw [div_left_inj' (by positivity), Int.cast_inj]

theorem subStroop_mul (fee : ℚ) : fee * 10 ^ moneyDecimals = stroopsOf fee + subStroop fee := by
  rw [subStroop]
  ring

/-- The stroops of the number of a rounded total. -/
theorem stroopsOf_number {m : ℤ} (h : 0 ≤ m) : stroopsOf (stroopsToNumber m) = m + round (numberError m) :=
  stroopsOf_eq (stroopsToNumber_nonneg h) (stroopsToNumber_mul m)

/-- Below the fee by `n` stroops. -/
theorem coherent_below_iff (payment expected : String) (hpaid : 0 ≤ stroopsOf paid)
    (hfee : InStroopRange fee) {n : ℕ} (hn : 0 < n) (hrange : n < 10 ^ 19)
    (hdiff : stroopsOf fee = stroopsOf paid + n) :
    FeesCoherent (DecimalMoney.classification (stroopsOf paid / 10 ^ moneyDecimals) fee)
      (compareStroops payment expected (stroopsOf paid) (stroopsOf fee)) fee ↔
        if subStroop fee < halfStroop n then
          round (numberError (stroopsOf paid) + numberError n) = 0
        else round (numberError (stroopsOf paid) + numberError (n + 1)) = -1 := by
  obtain ⟨hlow, hhigh⟩ := subStroop_bounds hfee.nonneg
  have hone : (1 : ℚ) ≤ n := by exact_mod_cast hn
  have hx : (stroopsOf paid - stroopsOf fee : ℤ) - subStroop fee = -(n + subStroop fee) := by
    rw [hdiff]
    push_cast
    ring
  have hneg : -(n + subStroop fee) < 0 := by linarith
  obtain ⟨message, hcompare⟩ : ∃ message,
      compareStroops payment expected (stroopsOf paid) (stroopsOf fee) = ⟨.underpaid, 0, message⟩ :=
    ⟨_, if_pos (by omega)⟩
  -- whatever the difference rounds to
  have hremaining : ∀ r : ℤ, 0 < r →
      (FeesCoherent ⟨.partPaid, false, stroopsToNumber (stroopsOf paid), 0, stroopsToNumber r⟩
        ⟨.underpaid, 0, message⟩ fee ↔
          round (numberError (stroopsOf paid) + numberError r) = n - r) := by
    intro r hr
    have hsum : (stroopsToNumber (stroopsOf paid) + stroopsToNumber r) * 10 ^ moneyDecimals =
        (stroopsOf paid + r : ℤ) + (numberError (stroopsOf paid) + numberError r) := by
      rw [add_mul, stroopsToNumber_mul, stroopsToNumber_mul]
      push_cast
      ring
    have hnonneg := add_nonneg (stroopsToNumber_nonneg hpaid) (stroopsToNumber_nonneg hr.le)
    have htotal : DecimalMoney.round (stroopsToNumber (stroopsOf paid) + stroopsToNumber r) =
        DecimalMoney.round (fee + 0) ↔
          round (numberError (stroopsOf paid) + numberError r) = n - r := by
      rw [round_eq_round_iff, add_zero, stroopsOf_eq hnonneg hsum, hdiff]
      omega
    exact ⟨fun h => htotal.mp h.total, fun h => ⟨rfl, rfl, by simp [hr.ne'], by simp, htotal.mpr h⟩⟩
  rw [classification_eq hx, hcompare]
  simp only [neg_neg, if_pos hneg, if_neg hneg.not_gt, decide_eq_false hneg.not_ge,
    roundDifference hn hrange hlow hhigh.le]
  split
  · rw [hremaining n (by omega), sub_self]
  · rw [hremaining (n + 1) (by omega), sub_add_cancel_left]

/-- Above the fee by `n` stroops. -/
theorem coherent_above_iff (payment expected : String) (hfee : InStroopRange fee) {n : ℕ}
    (hn : 0 < n) (hrange : n < 10 ^ 19) (hdiff : stroopsOf paid = stroopsOf fee + n) :
    FeesCoherent (DecimalMoney.classification (stroopsOf paid / 10 ^ moneyDecimals) fee)
      (compareStroops payment expected (stroopsOf paid) (stroopsOf fee)) fee ↔
        (-subStroop fee < halfStroop n ∨ stroopsToNumber (n + 1) = stroopsToNumber n) ∧
          round (numberError (stroopsOf paid)) = round (subStroop fee + numberError n) := by
  obtain ⟨hlow, hhigh⟩ := subStroop_bounds hfee.nonneg
  have hone : (1 : ℚ) ≤ n := by exact_mod_cast hn
  have hpaid : 0 ≤ stroopsOf paid := by
    have := hfee.stroops.1
    omega
  have hx : (stroopsOf paid - stroopsOf fee : ℤ) - subStroop fee = n + -subStroop fee := by
    rw [hdiff]
    push_cast
    ring
  have hpos : 0 < n + -subStroop fee := by linarith
  obtain ⟨message, hcompare⟩ : ∃ message,
      compareStroops payment expected (stroopsOf paid) (stroopsOf fee) =
        ⟨.overpaid, stroopsToNumber n, message⟩ := by
    rw [compareStroops, if_neg (by omega), if_pos (by omega),
      show stroopsOf paid - stroopsOf fee = n by omega]
    exact ⟨_, rfl⟩
  have hsum : (fee + stroopsToNumber n) * 10 ^ moneyDecimals =
      (stroopsOf fee + n : ℤ) + (subStroop fee + numberError n) := by
    rw [add_mul, stroopsToNumber_mul, subStroop_mul]
    push_cast
    ring
  have htotal : DecimalMoney.round (stroopsToNumber (stroopsOf paid) + 0) =
      DecimalMoney.round (fee + stroopsToNumber n) ↔
        round (numberError (stroopsOf paid)) = round (subStroop fee + numberError n) := by
    rw [round_eq_round_iff, add_zero, stroopsOf_number hpaid,
      stroopsOf_eq (add_nonneg hfee.nonneg (stroopsToNumber_nonneg (by omega))) hsum, ← hdiff,
      add_right_inj]
  -- whatever the difference rounds to
  have hexcess : ∀ r : ℤ,
      FeesCoherent ⟨.overpaid, true, stroopsToNumber (stroopsOf paid), stroopsToNumber r, 0⟩
        ⟨.overpaid, stroopsToNumber n, message⟩ fee ↔
          stroopsToNumber r = stroopsToNumber n ∧
            round (numberError (stroopsOf paid)) = round (subStroop fee + numberError n) := by
    intro r
    constructor
    · intro h
      have hr : stroopsToNumber r = stroopsToNumber n := h.excess
      have hsame := h.total
      simp only [hr] at hsame
      exact ⟨hr, htotal.mp hsame⟩
    · rintro ⟨hr, hsame⟩
      rw [hr]
      exact ⟨rfl, rfl, by simp, by simp, htotal.mpr hsame⟩
  rw [classification_eq hx, hcompare]
  simp only [if_pos hpos, if_neg hpos.not_gt, decide_eq_true hpos.le,
    roundDifference hn hrange (by linarith : -(1 / 2) ≤ -subStroop fee) (by linarith)]
  split
  · rename_i h
    simp [hexcess, h]
  · rename_i h
    simp [hexcess, h]

/-- At the fee, to the stroop. -/
theorem coherent_met_iff (payment expected : String) (hfee : 0 ≤ stroopsOf fee)
    (hdiff : stroopsOf paid = stroopsOf fee) :
    FeesCoherent (DecimalMoney.classification (stroopsOf paid / 10 ^ moneyDecimals) fee)
      (compareStroops payment expected (stroopsOf paid) (stroopsOf fee)) fee ↔
        subStroop fee = 0 ∧ round (numberError (stroopsOf fee)) = 0 := by
  have hx : (stroopsOf paid - stroopsOf fee : ℤ) - subStroop fee = -subStroop fee := by
    rw [hdiff, sub_self, Int.cast_zero, zero_sub]
  have hcompare : compareStroops payment expected (stroopsOf paid) (stroopsOf fee) =
      ⟨.valid, 0, "Payment matches the required fee"⟩ := by
    rw [compareStroops, if_neg (by omega), if_neg (by omega)]
  have htotal : DecimalMoney.round (stroopsToNumber (stroopsOf paid) + 0) =
      DecimalMoney.round (fee + 0) ↔ round (numberError (stroopsOf fee)) = 0 := by
    rw [add_zero, add_zero, round_eq_round_iff, hdiff, stroopsOf_number hfee, add_eq_left]
  rw [classification_eq hx, hcompare]
  constructor
  · intro h
    have hzero : subStroop fee = 0 := by
      have hstatus := h.status
      by_contra hne
      rcases lt_or_gt_of_ne hne with hlt | hgt
      · have hpos : 0 < -subStroop fee := by linarith
        simp only [if_pos hpos, if_neg hpos.not_gt] at hstatus
        cases hstatus
      · have hneg : -subStroop fee < 0 := by linarith
        simp only [if_pos hneg] at hstatus
        cases hstatus
    have hsame := h.total
    simp only [hzero, neg_zero, lt_irrefl, if_false] at hsame
    exact ⟨hzero, htotal.mp hsame⟩
  · rintro ⟨hzero, hsame⟩
    simp only [hzero, neg_zero, lt_irrefl, if_false, le_refl, decide_true]
    exact ⟨rfl, rfl, by simp, by simp, htotal.mpr hsame⟩

/-- **Coherence, in stroops.** -/
theorem coherent_iff (payment expected : String) (hpaid : InStroopRange paid)
    (hfee : InStroopRange fee) :
    FeesCoherent (DecimalMoney.classification (stroopsOf paid / 10 ^ moneyDecimals) fee)
      (compareStroops payment expected (stroopsOf paid) (stroopsOf fee)) fee ↔ FeeClear paid fee := by
  obtain ⟨hpaid0, hpaidMax⟩ := hpaid.stroops
  obtain ⟨hfee0, hfeeMax⟩ := hfee.stroops
  have hdistance : (feeDistance paid fee : ℤ) = |stroopsOf paid - stroopsOf fee| := by
    rw [feeDistance, Int.natCast_natAbs]
  rcases lt_trichotomy (stroopsOf paid) (stroopsOf fee) with hlt | heq | hgt
  · rw [abs_of_neg (by omega)] at hdistance
    rw [coherent_below_iff payment expected hpaid0 hfee (n := feeDistance paid fee)
      (by omega) (by omega) (by omega)]
    exact ⟨fun h => ⟨fun _ => by omega, fun _ => by omega, fun _ => h⟩, fun h => h.below hlt⟩
  · rw [coherent_met_iff payment expected hfee0 heq]
    exact ⟨fun h => ⟨fun _ => h, fun _ => by omega, fun _ => by omega⟩, fun h => h.met heq⟩
  · rw [abs_of_pos (by omega)] at hdistance
    rw [coherent_above_iff payment expected hfee (n := feeDistance paid fee)
      (by omega) (by omega) (by omega)]
    exact ⟨fun h => ⟨fun _ => by omega, fun _ => h, fun _ => by omega⟩, fun h => h.above hgt⟩

end Compare

/-- **The fee comparison** is coherent, and the two agree, exactly when the fee is clear of the part of
a stroop on which they differ. -/
theorem fee_comparison_iff (new : DecimalParser) (paid fee : PlainDecimal)
    (hpaid : InStroopRange paid.value) (hfee : InStroopRange fee.value) :
    ∃ k v, DecimalMoney.classifyFeePayment new paid.text fee.text = .ok k ∧
      DecimalMoney.validatePaymentAgainstFee paid.text fee.text = .ok v ∧
        (FeesCoherent k v fee.value ↔ FeeClear paid.value fee.value) := by
  refine ⟨_, _, ?_, ?_, coherent_iff paid.text fee.text hpaid hfee⟩
  · rw [DecimalMoney.classifyFeePayment, roundMoney_of_text, toMoney_of_text]
    rfl
  · rw [DecimalMoney.validatePaymentAgainstFee, toStroops_of_text (jsTrim_text paid).symm,
      toStroops_of_text (jsTrim_text fee).symm]
    rfl

/-- `10`, and two fees near it. -/
def tenPaid : PlainDecimal := ⟨false, ['1', '0'], none, by decide, by decide, by decide⟩

def feeOfNine : PlainDecimal :=
  ⟨false, ['9'], some ['2', '5'], by decide, by decide, by decide⟩

def feeJustAboveTen : PlainDecimal :=
  ⟨false, ['1', '0'], some ['0', '0', '0', '0', '0', '0', '0', '4'], by decide, by decide, by decide⟩

/-- A payment of `10` for a fee of `9.25`. -/
theorem fee_comparison_iff_nine : ∃ k v,
    DecimalMoney.classifyFeePayment plainParser "10" "9.25" = .ok k ∧
      DecimalMoney.validatePaymentAgainstFee "10" "9.25" = .ok v ∧ FeesCoherent k v (37 / 4) := by
  have hclear : FeeClear tenPaid.value feeOfNine.value :=
    ⟨by decide +kernel, by decide +kernel, by decide +kernel⟩
  obtain ⟨k, v, hk, hv, hiff⟩ := fee_comparison_iff plainParser tenPaid feeOfNine
    ⟨by decide +kernel, by decide +kernel⟩ ⟨by decide +kernel, by decide +kernel⟩
  have hvalue : feeOfNine.value = 37 / 4 := by decide +kernel
  exact ⟨k, v, hk, hv, hvalue ▸ hiff.mpr hclear⟩

/-- `10` for a fee of `10.00000004`: one comparison says partial, the other says valid. -/
theorem fee_comparison_differs : ¬ ∀ (new : DecimalParser) (paid fee : PlainDecimal),
    InStroopRange paid.value → InStroopRange fee.value →
      ∃ k v, DecimalMoney.classifyFeePayment new paid.text fee.text = .ok k ∧
        DecimalMoney.validatePaymentAgainstFee paid.text fee.text = .ok v ∧
          FeesCoherent k v fee.value := by
  intro h
  obtain ⟨k, v, hk, hv, hcoherent⟩ := h plainParser tenPaid feeJustAboveTen
    ⟨by decide +kernel, by decide +kernel⟩ ⟨by decide +kernel, by decide +kernel⟩
  have hk' : (DecimalMoney.classifyFeePayment plainParser tenPaid.text feeJustAboveTen.text).map
      (·.status) = .ok .partPaid := by decide +kernel
  have hv' : (DecimalMoney.validatePaymentAgainstFee tenPaid.text feeJustAboveTen.text).map (·.status) =
      .ok .valid := by decide +kernel
  rw [hk] at hk'
  rw [hv] at hv'
  have hpart : k.status = .partPaid := Except.ok.inj hk'
  have hvalid : v.status = .valid := Except.ok.inj hv'
  have hstatus := hcoherent.status
  rw [hpart, hvalid] at hstatus
  cases hstatus

/-! ## `feeValidationStatusFromClassification` -/

/-- A number of JavaScript, or a `Decimal`. -/
inductive JsMoney
  | number (q : ℚ)
  | decimal (q : ℚ)
  deriving DecidableEq, Repr

/-- The fields `feeValidationStatusFromClassification` reads; one that is missing is `undefined`. -/
structure ClassificationFields where
  feeAmount : Option JsMoney
  feePaid : Bool
  remainingBalance : Option JsMoney
  deriving DecidableEq, Repr

/-- The result of `classifyFeePayment` has no `feeAmount`, and its amounts are numbers. -/
def DecimalClassification.fields (k : DecimalClassification) : ClassificationFields where
  feeAmount := none
  feePaid := k.feePaid
  remainingBalance := some (.number k.remainingBalance)

/-- `feeValidationStatusFromClassification` -/
def feeValidationStatusFromClassification (classification : Option ClassificationFields) :
    Except String FeeStatus :=
  match classification with
  | none => .ok .unknown
  | some c =>
    if c.feeAmount = none then .ok .unknown
    else if c.feePaid then .ok .valid
    else match c.remainingBalance with
    | none => .ok .overpaid
    | some (.decimal r) => if 0 < r then .ok .partPaid else .ok .overpaid
    | some (.number r) =>
      if r = 0 then .ok .overpaid
      else .error "classification.remainingBalance.greaterThan is not a function"

/-- The status of the classification is mapped back. -/
def MapsBack (new : DecimalParser) (cumulativeTotal feeAmount : String) : Prop :=
  ∃ k, DecimalMoney.classifyFeePayment new cumulativeTotal feeAmount = .ok k ∧
    feeValidationStatusFromClassification (some k.fields) = .ok k.status

theorem classifyFeePayment_status {new : DecimalParser} {cumulativeTotal feeAmount : String}
    {k : DecimalClassification}
    (h : DecimalMoney.classifyFeePayment new cumulativeTotal feeAmount = .ok k) :
    k.status ≠ .unknown := by
  obtain ⟨cumulative, -, h⟩ := bind_ok_iff.mp h
  obtain ⟨fee, -, h⟩ := bind_ok_iff.mp h
  cases h
  simp only [DecimalMoney.classification]
  split
  · simp
  · split <;> simp

/-- **The status is never mapped back**: without a `feeAmount` it is always `unknown`. -/
theorem status_never_mapped_back (new : DecimalParser) (cumulativeTotal feeAmount : String) :
    ¬ MapsBack new cumulativeTotal feeAmount := by
  rintro ⟨k, hk, hmap⟩
  exact classifyFeePayment_status hk (Except.ok.inj hmap).symm

/-- `5` of `10` is partial, and mapped to `unknown`. -/
theorem part_paid_mapped_to_unknown : ¬ MapsBack plainParser "5" "10" := by
  rintro ⟨k, hk, hmap⟩
  have hstatus : (DecimalMoney.classifyFeePayment plainParser "5" "10").map (·.status) =
      .ok .partPaid := by decide +kernel
  rw [hk] at hstatus
  have hpart : k.status = .partPaid := Except.ok.inj hstatus
  rw [hpart] at hmap
  cases hmap

end StellarEduPay

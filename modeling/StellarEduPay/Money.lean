import Mathlib.Algebra.Order.Ring.Int

/-! # Exact money (`utils/money.js`)

Amounts are exact decimals with the seven places Stellar gives both assets, so an
amount is an `Int` that counts stroops (units of `10⁻⁷`) and rounding to
`MONEY_DECIMALS` is the identity on it.
What JavaScript hands to `toMoney` need not be an amount, though: a missing
value reads as zero and an object makes `new Decimal` throw.  `MoneyValue` keeps
those cases apart, because one caller does pass an object.
-/
namespace StellarEduPay

/-- `MONEY_DECIMALS`. -/
def moneyDecimals : Nat := 7

/-- The decimal digits of `n` with trailing zeros removed, padded on the left to
the seven places of a fraction. -/
def fractionDigits (n : Nat) : List Char :=
  let digits := (toString n).toList
  let padded := List.replicate (moneyDecimals - digits.length) '0' ++ digits
  (padded.reverse.dropWhile (· = '0')).reverse

/-- How JavaScript prints an amount: plain decimal notation, exponent notation
below `10⁻⁶`. -/
def jsNumber (m : Int) : String :=
  let n := m.natAbs
  let sign := if m < 0 then "-" else ""
  if n = 0 then "0"
  else if n < 10 then sign ++ toString n ++ "e-7"
  else
    let fraction := fractionDigits (n % 10 ^ moneyDecimals)
    let point := if fraction.isEmpty then "" else "."
    sign ++ toString (n / 10 ^ moneyDecimals) ++ point ++ String.ofList fraction

/-- What a caller may pass where an amount is expected. -/
inductive MoneyValue
  | decimal (m : Int)
  | nullish
  | object
  deriving DecidableEq, Repr

/-- `new Decimal(value)` on something that is no number. -/
inductive DecimalError
  | invalidArgument
  deriving DecidableEq, Repr

/-- Parse any monetary value: `null` and `undefined` are zero, an object throws. -/
def toMoney : MoneyValue → Except DecimalError Int
  | .decimal m => .ok m
  | .nullish => .ok 0
  | .object => .error .invalidArgument

/-- The `feeValidationStatus` vocabulary.  `partPaid` is the source's `'partial'`. -/
inductive FeeStatus
  | valid
  | partPaid
  | overpaid
  | underpaid
  | unknown
  deriving DecidableEq, Repr

/-- What `classifyFeePayment` returns. -/
structure Classification where
  status : FeeStatus
  feePaid : Bool
  cumulativeTotal : Int
  excessAmount : Int
  remainingBalance : Int
  deriving DecidableEq, Repr

/-- The comparison at the heart of `classifyFeePayment`, on parsed amounts. -/
def classify (cumulative fee : Int) : Classification where
  status := if cumulative < fee then .partPaid else if fee < cumulative then .overpaid else .valid
  feePaid := decide (fee ≤ cumulative)
  cumulativeTotal := cumulative
  excessAmount := if fee < cumulative then cumulative - fee else 0
  remainingBalance := max 0 (fee - cumulative)

/-- Classify a cumulative total against a fee.  The total is parsed first. -/
def classifyFeePayment (cumulativeTotal feeAmount : MoneyValue) :
    Except DecimalError Classification :=
  match toMoney cumulativeTotal with
  | .error e => .error e
  | .ok cumulative =>
    match toMoney feeAmount with
    | .error e => .error e
    | .ok fee => .ok (classify cumulative fee)

@[simp] theorem classify_cumulativeTotal (c f : Int) : (classify c f).cumulativeTotal = c := rfl

@[simp] theorem classify_remainingBalance (c f : Int) :
    (classify c f).remainingBalance = max 0 (f - c) := rfl

@[simp] theorem classify_feePaid (c f : Int) : (classify c f).feePaid = decide (f ≤ c) := rfl

end StellarEduPay

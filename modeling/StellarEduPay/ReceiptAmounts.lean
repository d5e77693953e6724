import StellarEduPay.StroopCodec

/-! # The amount of a receipt (`services/receiptService.js`)

The payload that is signed for a receipt has the amount as an integer number of stroops, so that the
way the amount was written cannot invalidate the signature. `toStroopsString` reads it with a parser
of its own, which knows exponents, cuts off what is beyond seven places and puts the sign back in
front of whatever comes out.

Where `toStroops` reads an amount too, the two agree on those with less than half a stroop beyond
the last place, unless there is a minus sign and not one whole stroop. -/

namespace StellarEduPay
open Decimals

/-! ## Reading -/

/-- What the regular expression captures: whether the sign is a minus, the digits on both sides of
the point, and the exponent. -/
structure AmountMatch where
  negative : Bool
  intPart : List Char
  fracPart : List Char
  exp : Int
  intDigits : IsDigits intPart
  fracDigits : IsDigits fracPart
  deriving DecidableEq

/-- `([+-]?)`: whether it is a minus, and the rest. -/
def readSign : List Char → Bool × List Char
  | '-' :: cs => (true, cs)
  | '+' :: cs => (false, cs)
  | cs => (false, cs)

/-- `(?:\.(\d*))?`: the digits, and the rest. -/
def readFraction : List Char → List Char × List Char
  | '.' :: cs => (cs.takeWhile Char.isDigit, cs.dropWhile Char.isDigit)
  | cs => ([], cs)

/-- `(?:[eE]([+-]?\d+))?$` -/
def readExponent : List Char → Option Int
  | [] => some 0
  | e :: cs =>
    let digits := (readSign cs).2
    if (e = 'e' ∨ e = 'E') ∧ digits ≠ [] ∧ digits.all Char.isDigit then
      some (if (readSign cs).1 then -digitsValue digits else digitsValue digits)
    else none

theorem isDigits_takeWhile (cs : List Char) : IsDigits (cs.takeWhile Char.isDigit) :=
  fun _ hc => List.mem_takeWhile_imp hc

theorem isDigits_readFraction (cs : List Char) : IsDigits (readFraction cs).1 := by
  unfold readFraction
  split
  · exact isDigits_takeWhile _
  · exact fun _ hc => nomatch hc

/-- `/^([+-]?)(\d*)(?:\.(\d*))?(?:[eE]([+-]?\d+))?$/.exec(str)` -/
def matchAmount (str : List Char) : Option AmountMatch :=
  let unsigned := (readSign str).2
  let fraction := readFraction (unsigned.dropWhile Char.isDigit)
  (readExponent fraction.2).map fun exp =>
    ⟨(readSign str).1, unsigned.takeWhile Char.isDigit, fraction.1, exp, isDigits_takeWhile _,
      isDigits_readFraction _⟩

namespace AmountMatch
variable (m : AmountMatch)

/-- `match[2] || '0'` -/
def int : List Char := if m.intPart = [] then ['0'] else m.intPart

/-- The digits with the point `pointPos` places in, both padded until the point is among them. -/
def shifted : List Char × Nat :=
  let digits := m.int ++ m.fracPart
  let pointPos := m.int.length + m.exp
  let digits := if pointPos < 0 then List.replicate (-pointPos).toNat '0' ++ digits else digits
  let pointPos := pointPos.toNat
  (digits ++ List.replicate (pointPos - digits.length) '0', pointPos)

/-- The stroops without the sign. -/
def stroops : Int :=
  let whole := m.shifted.1.take m.shifted.2
  let frac := m.shifted.1.drop m.shifted.2
  let fracPadded := (frac ++ List.replicate 7 '0').take 7
  bigInt whole * 10000000 + bigInt fracPadded

def stroopsText : String := (if m.negative then "-" else "") ++ toString m.stroops

/-- The number that was spelled, without its sign. -/
def magnitude : ℚ :=
  digitsValue (m.intPart ++ m.fracPart) * (10 : ℚ) ^ (m.exp - m.fracPart.length)

def value : ℚ := if m.negative then -m.magnitude else m.magnitude

end AmountMatch

/-- `toStroopsString` of `String(amount)`, or of no amount. `fixed7` is `Number(str).toFixed(7)`, as
the expression matches it, for what the expression does not match and is finite. -/
def toStroopsString (fixed7 : String → Option AmountMatch) : Option String → String
  | none => "0"
  | some amount =>
    let str := jsTrim amount
    if str = "" then "0"
    else match matchAmount str.toList with
      | some m => m.stroopsText
      | none => (fixed7 str).elim "0" AmountMatch.stroopsText

/-- The fields of a receipt that are signed; an `opIndex` that is no integer is none. -/
structure Receipt where
  amount : Option String
  assetCode : Option String
  confirmedAt : Int
  opIndex : Option Int
  schoolId : String
  studentId : String
  txHash : String

/-- The payload, in the order of its keys. -/
structure ReceiptPayload where
  amount : String
  assetCode : String
  confirmedAt : String
  opIndex : Int
  schoolId : String
  studentId : String
  txHash : String
  deriving DecidableEq

/-- `buildCanonicalPayload` -/
def buildCanonicalPayload (fixed7 : String → Option AmountMatch) (receipt : Receipt) :
    ReceiptPayload where
  amount := toStroopsString fixed7 receipt.amount
  assetCode := (truthy receipt.assetCode).getD "XLM"
  confirmedAt := toISOString receipt.confirmedAt
  opIndex := receipt.opIndex.getD 0
  schoolId := receipt.schoolId
  studentId := receipt.studentId
  txHash := receipt.txHash

/-! ## The stroops of a spelling -/

namespace AmountMatch
variable (m : AmountMatch)

theorem isDigits_int : IsDigits m.int := by
  unfold int
  split
  · exact fun c hc => by rw [List.mem_singleton.mp hc]; rfl
  · exact m.intDigits

theorem isDigits_shifted : IsDigits m.shifted.1 := by
  unfold shifted
  dsimp only
  refine IsDigits.append ?_ (isDigits_replicate_zero _)
  split
  · exact (isDigits_replicate_zero _).append (m.isDigits_int.append m.fracDigits)
  · exact m.isDigits_int.append m.fracDigits

/-- The zero in place of no digits is no part of the number. -/
theorem digitsValue_int :
    digitsValue (m.int ++ m.fracPart) = digitsValue (m.intPart ++ m.fracPart) := by
  unfold int
  split
  · rename_i h
    rw [h, digitsValue_append, digitsValue_append]
    rfl
  · rfl

theorem pow_sub_div (a b : Nat) : (10 : ℚ) ^ (a - b) / 10 ^ (b - a) = 10 ^ ((a : ℤ) - b) := by
  rcases le_total a b with h | h
  · obtain ⟨c, rfl⟩ := Nat.exists_eq_add_of_le h
    rw [Nat.sub_self_add, Nat.add_sub_cancel_left, pow_zero, one_div, ← zpow_natCast, ← zpow_neg]
    congr 1
    push_cast
    omega
  · obtain ⟨c, rfl⟩ := Nat.exists_eq_add_of_le h
    rw [Nat.sub_self_add, Nat.add_sub_cancel_left, pow_zero, div_one, ← zpow_natCast]
    congr 1
    push_cast
    omega

/-- Shifting the point keeps the number. -/
theorem shifted_value :
    (digitsValue m.shifted.1 : ℚ) / 10 ^ (m.shifted.1.length - m.shifted.2) = m.magnitude := by
  have hplace : m.exp - m.fracPart.length =
      (m.int.length + m.exp) - (m.int ++ m.fracPart).length := by
    rw [List.length_append]
    push_cast
    omega
  rw [magnitude, hplace, ← m.digitsValue_int]
  unfold shifted
  dsimp only
  generalize m.int ++ m.fracPart = digits
  generalize (m.int.length : ℤ) + m.exp = pointPos
  by_cases hneg : pointPos < 0
  · obtain ⟨k, rfl⟩ : ∃ k : ℕ, pointPos = -k := ⟨(-pointPos).toNat, by omega⟩
    have hzero : (-(k : ℤ)).toNat = 0 := by omega
    have hback : (- -(k : ℤ)).toNat = k := by omega
    rw [if_pos hneg, hzero, hback, Nat.zero_sub, List.replicate_zero, List.append_nil, Nat.sub_zero,
      digitsValue_append, digitsValue_replicate_zero, Nat.zero_mul, Nat.zero_add, List.length_append,
      List.length_replicate, div_eq_mul_inv, ← zpow_natCast, ← zpow_neg]
    congr 2
    push_cast
    omega
  · obtain ⟨k, rfl⟩ := Int.eq_ofNat_of_zero_le (not_lt.mp hneg)
    rw [if_neg hneg, Int.toNat_natCast, digitsValue_append, digitsValue_replicate_zero, Nat.add_zero,
      List.length_append, List.length_replicate]
    have hlength : digits.length + (k - digits.length) - k = digits.length - k := by omega
    rw [hlength, ← pow_sub_div]
    push_cast
    ring

theorem stroops_eq : m.stroops = ⌊m.magnitude * 10 ^ 7⌋ := by
  have hdigits : IsDigits (m.shifted.1.drop m.shifted.2) := fun c hc =>
    m.isDigits_shifted c (List.mem_of_mem_drop hc)
  have hfloor := floor_places 7 (m.shifted.1.take m.shifted.2) hdigits
  rw [List.take_append_drop, List.length_drop, m.shifted_value] at hfloor
  rw [hfloor, stroops, bigInt_eq, bigInt_eq]
  push_cast
  rfl

theorem magnitude_nonneg : 0 ≤ m.magnitude :=
  mul_nonneg (Nat.cast_nonneg _) (zpow_pos (by norm_num) _).le

end AmountMatch

theorem toString_nat_inj {a b : Nat} (h : toString a = toString b) : a = b := by
  rw [Nat.toString_eq_ofList_toDigits, Nat.toString_eq_ofList_toDigits] at h
  rw [← digitsValue_toDigits a, String.ofList_injective h, digitsValue_toDigits]

/-- A minus sign in front of a number spells an integer when it is the opposite of the number, and
not zero. -/
theorem minus_eq_toString (a b : Nat) :
    "-" ++ toString a = toString (-(b : Int)) ↔ a = b ∧ a ≠ 0 := by
  cases b with
  | zero =>
    refine iff_of_false (fun h => ?_) (fun h => h.2 h.1)
    have hhead := congrArg (fun s => s.toList.head?) h
    rw [String.toList_append] at hhead
    cases hhead
  | succ b =>
    have hneg : toString (-((b + 1 : Nat) : Int)) = "-" ++ toString (b + 1) := rfl
    rw [hneg]
    constructor
    · intro h
      have heq := toString_nat_inj (String.append_right_inj _ |>.mp h)
      exact ⟨heq, by omega⟩
    · rintro ⟨rfl, -⟩
      rfl

/-- Less than half a stroop is cut off, and a minus sign stands before one stroop at least. -/
def CanonicalSpelling (m : AmountMatch) : Prop :=
  Int.fract (m.magnitude * 10 ^ 7) < 1 / 2 ∧ (m.negative = true → 1 ≤ m.magnitude * 10 ^ 7)

namespace AmountMatch
variable (m : AmountMatch)

/-- **When the text is the number**, rounded to stroops. -/
theorem stroopsText_eq_iff :
    m.stroopsText = toString (roundAway (m.value * 10 ^ 7)) ↔ CanonicalSpelling m := by
  have hnonneg : 0 ≤ m.magnitude * 10 ^ 7 := mul_nonneg m.magnitude_nonneg (by positivity)
  obtain ⟨a, ha⟩ := Int.eq_ofNat_of_zero_le (Int.floor_nonneg.mpr hnonneg)
  obtain ⟨b, hb⟩ := Int.eq_ofNat_of_zero_le (show 0 ≤ round (m.magnitude * 10 ^ 7) by
    rw [round_eq]
    exact Int.floor_nonneg.mpr (by linarith))
  -- the rounded number is the one that is cut off, or the next
  have hsame : a = b ↔ Int.fract (m.magnitude * 10 ^ 7) < 1 / 2 := by
    have hcast : a = b ↔ round (m.magnitude * 10 ^ 7) = ⌊m.magnitude * 10 ^ 7⌋ := by
      rw [ha, hb, Nat.cast_inj]
      exact eq_comm
    rw [hcast, round_eq_floor_iff]
  have hone : a ≠ 0 ↔ 1 ≤ m.magnitude * 10 ^ 7 := by
    have hfloor : (1 : ℤ) ≤ ⌊m.magnitude * 10 ^ 7⌋ ↔ ((1 : ℤ) : ℚ) ≤ m.magnitude * 10 ^ 7 :=
      Int.le_floor
    rw [ha, Int.cast_one] at hfloor
    rw [← hfloor]
    omega
  rw [stroopsText, stroops_eq, ha, CanonicalSpelling, ← hsame, ← hone, value]
  cases m.negative with
  | false =>
    rw [if_neg Bool.false_ne_true, if_neg Bool.false_ne_true, roundAway_of_nonneg hnonneg, hb]
    simp only [String.empty_append, Bool.false_eq_true, false_imp_iff, and_true]
    exact ⟨toString_nat_inj, fun h => by rw [h]⟩
  | true =>
    rw [if_pos rfl, if_pos rfl, neg_mul, roundAway_neg, roundAway_of_nonneg hnonneg, hb]
    simp only [true_imp_iff]
    exact minus_eq_toString a b

end AmountMatch

/-! ## Plain decimals -/

theorem matchAmount_parts (str : List Char) {exp : Int}
    (h : readExponent (readFraction ((readSign str).2.dropWhile Char.isDigit)).2 = some exp) :
    ∃ m, matchAmount str = some m ∧ m.negative = (readSign str).1 ∧
      m.intPart = (readSign str).2.takeWhile Char.isDigit ∧
      m.fracPart = (readFraction ((readSign str).2.dropWhile Char.isDigit)).1 ∧ m.exp = exp :=
  ⟨_, by rw [matchAmount, h]; rfl, rfl, rfl, rfl, rfl⟩

theorem readSign_text (d : PlainDecimal) : readSign d.text.toList = (d.negative, d.unsigned) := by
  have hunsigned : readSign d.unsigned = (false, d.unsigned) := by
    unfold readSign
    split
    · rename_i cs hcs
      rcases PlainDecimal.mem_unsigned (hcs ▸ List.mem_cons_self) with h | h <;> cases h
    · rename_i cs hcs
      rcases PlainDecimal.mem_unsigned (hcs ▸ List.mem_cons_self) with h | h <;> cases h
    · rfl
  rw [PlainDecimal.text, String.toList_ofList]
  cases d.negative with
  | false => exact hunsigned
  | true => rfl

/-- The expression takes a plain decimal apart as it was put together. -/
theorem matchAmount_text (d : PlainDecimal) :
    ∃ m, matchAmount d.text.toList = some m ∧ m.negative = d.negative ∧ m.value = d.value := by
  have htake : d.unsigned.takeWhile Char.isDigit = d.whole := by
    rw [PlainDecimal.unsigned, List.takeWhile_append_of_pos d.wholeDigits]
    cases d.fraction <;> exact List.append_nil _
  have hdrop : d.unsigned.dropWhile Char.isDigit = d.fraction.elim [] ('.' :: ·) := by
    rw [PlainDecimal.unsigned, List.dropWhile_append_of_pos d.wholeDigits]
    cases d.fraction <;> rfl
  have hfraction : readFraction (d.fraction.elim [] ('.' :: ·)) = (d.decimals, []) := by
    have hdigits := d.isDigits_decimals
    rw [PlainDecimal.decimals] at hdigits ⊢
    cases hf : d.fraction with
    | none => rfl
    | some f =>
      rw [hf] at hdigits
      exact Prod.ext (List.takeWhile_eq_self_iff.mpr hdigits) (List.dropWhile_eq_nil_iff.mpr hdigits)
  obtain ⟨m, hm, hnegative, hint, hfrac, hexp⟩ := matchAmount_parts d.text.toList
    (by rw [readSign_text, hdrop, hfraction]; rfl)
  rw [readSign_text] at hnegative hint hfrac
  rw [htake] at hint
  rw [hdrop, hfraction] at hfrac
  refine ⟨m, hm, hnegative, ?_⟩
  have hmagnitude : m.magnitude = d.magnitude := by
    rw [AmountMatch.magnitude, PlainDecimal.magnitude, hint, hfrac, hexp, digitsValue_append,
      zero_sub, zpow_neg, zpow_natCast]
    push_cast
    field_simp
  rw [AmountMatch.value, PlainDecimal.value, hnegative, hmagnitude]

/-- The number a string spells, with an exponent or without one. -/
def spelledValue (s : String) : Option ℚ := (matchAmount (jsTrim s).toList).map AmountMatch.value

/-- What `toStroops` accepts is spelled, and rounded to stroops. -/
theorem spelledValue_of_toStroops {x : String} {n : Int} (h : toStroops x = .ok n) :
    ∃ v, spelledValue x = some v ∧ n = roundAway (v * 10 ^ 7) := by
  obtain ⟨d, hd⟩ := text_of_toStroops h
  obtain ⟨m, hm, -, hvalue⟩ := matchAmount_text d
  refine ⟨d.value, ?_, ?_⟩
  · rw [spelledValue, ← hd, hm, Option.map_some, hvalue]
  · exact Except.ok.inj (h.symm.trans (toStroops_of_text hd))

section
variable {fixed7 : String → Option AmountMatch} {receipt : Receipt} {x y z : String} {n : Int}
  {m k : AmountMatch}

theorem toStroopsString_of_match (h : matchAmount (jsTrim y).toList = some m) :
    toStroopsString fixed7 (some y) = m.stroopsText := by
  simp only [toStroopsString]
  split
  · rename_i hempty
    rw [hempty] at h
    obtain rfl := Option.some.inj h
    rfl
  · rw [h]

theorem magnitude_eq_abs (m : AmountMatch) : m.magnitude = |m.value| := by
  rw [AmountMatch.value]
  split
  · rw [abs_neg, abs_of_nonneg m.magnitude_nonneg]
  · rw [abs_of_nonneg m.magnitude_nonneg]

/-- Of two spellings of one number the texts are the same if the signs are, which differ only at
zero. -/
theorem stroopsText_eq_stroopsText (h : k.value = m.value) :
    k.stroopsText = m.stroopsText ↔ k.negative = m.negative := by
  have hstroops : k.stroops = m.stroops := by
    rw [AmountMatch.stroops_eq, AmountMatch.stroops_eq, magnitude_eq_abs, magnitude_eq_abs, h]
  have hminus : ∀ s : String, "-" ++ s ≠ s := fun s heq => by
    have hlength := congrArg String.length heq
    have hone : "-".length = 1 := rfl
    rw [String.length_append] at hlength
    omega
  have hempty : ∀ s : String, "" ++ s = s := fun _ => String.empty_append
  rw [AmountMatch.stroopsText, AmountMatch.stroopsText, hstroops]
  cases k.negative <;> cases m.negative <;>
    simp only [Bool.false_eq_true, if_true, if_false, hempty, hminus, (hminus _).symm, reduceCtorEq]

end

/-- **When the amount of a receipt is canonical.** Of an amount `x` that `toStroops` accepts and any
spelling `y` of the same number, with an exponent or without one, the payload has the stroops exactly
if less than half a stroop is cut off and a minus sign stands before one stroop at least; and the
payload with another spelling `z` of it is the same exactly if `z` has the sign of `y`. -/
theorem receipt_amount_canonical_iff (fixed7 : String → Option AmountMatch) (receipt : Receipt)
    {x y z : String} {n : Int} {m k : AmountMatch} (hx : toStroops x = .ok n)
    (hy : matchAmount (jsTrim y).toList = some m) (hz : matchAmount (jsTrim z).toList = some k)
    (hyx : spelledValue y = spelledValue x) (hzx : spelledValue z = spelledValue x) :
    ((buildCanonicalPayload fixed7 { receipt with amount := some y }).amount = toString n ↔
      CanonicalSpelling m) ∧
    (buildCanonicalPayload fixed7 { receipt with amount := some z } =
      buildCanonicalPayload fixed7 { receipt with amount := some y } ↔ k.negative = m.negative) := by
  obtain ⟨v, hv, rfl⟩ := spelledValue_of_toStroops hx
  rw [hv, spelledValue, hy, Option.map_some, Option.some.injEq] at hyx
  rw [hv, spelledValue, hz, Option.map_some, Option.some.injEq] at hzx
  constructor
  · rw [buildCanonicalPayload, toStroopsString_of_match hy, ← hyx]
    exact m.stroopsText_eq_iff
  · rw [← stroopsText_eq_stroopsText (hzx.trans hyx.symm)]
    simp only [buildCanonicalPayload, toStroopsString_of_match hy, toStroopsString_of_match hz,
      ReceiptPayload.mk.injEq, and_true]

/-- A receipt of an amount. -/
def receiptOf (amount : String) : Receipt where
  amount := some amount
  assetCode := some "XLM"
  confirmedAt := 1710046800000
  opIndex := some 0
  schoolId := "S1"
  studentId := "A1"
  txHash := "T1"

/-- Half a stroop is cut off. -/
theorem half_stroop_cut_off :
    ¬ ∀ (fixed7 : String → Option AmountMatch) (receipt : Receipt) (x : String) (n : Int),
      toStroops x = .ok n →
        (buildCanonicalPayload fixed7 { receipt with amount := some x }).amount = toString n := by
  intro h
  exact absurd (h (fun _ => none) (receiptOf "1") "1.00000005" 10000001 (by decide +kernel))
    (by decide +kernel)

/-- What is captured of `15e-1`, and of `01.50`. -/
def fifteenTenths : AmountMatch := ⟨false, ['1', '5'], [], -1, by decide, by decide⟩

def oneAndHalf : AmountMatch := ⟨false, ['0', '1'], ['5', '0'], 0, by decide, by decide⟩

theorem canonical_fifteenTenths : CanonicalSpelling fifteenTenths := by
  have hmagnitude : fifteenTenths.magnitude * 10 ^ 7 = ((15000000 : ℤ) : ℚ) := by
    have hdigits : digitsValue ['1', '5'] = 15 := by decide
    simp only [AmountMatch.magnitude, fifteenTenths, List.append_nil, hdigits]
    norm_num
  rw [CanonicalSpelling, hmagnitude, Int.fract_intCast]
  exact ⟨by norm_num, nofun⟩

theorem receipt_amount_canonical_one_and_half :
    (buildCanonicalPayload (fun _ => none) (receiptOf "15e-1")).amount = toString (15000000 : Int) ∧
      buildCanonicalPayload (fun _ => none) (receiptOf "01.50") =
        buildCanonicalPayload (fun _ => none) (receiptOf "15e-1") := by
  obtain ⟨hamount, hsame⟩ := receipt_amount_canonical_iff (fun _ => none) (receiptOf "1.5")
    (show toStroops "1.5" = .ok 15000000 by decide +kernel)
    (show matchAmount (jsTrim "15e-1").toList = some fifteenTenths by decide +kernel)
    (show matchAmount (jsTrim "01.50").toList = some oneAndHalf by decide +kernel)
    (by decide +kernel) (by decide +kernel)
  exact ⟨hamount.mpr canonical_fifteenTenths, hsame.mpr rfl⟩

end StellarEduPay

import Mathlib.Data.List.TakeWhile
import StellarEduPay.Checks
import StellarEduPay.Decimals
import StellarEduPay.JsString
import StellarEduPay.Money

/-! # The stroop codec (`utils/stellarAmount.js`)

`toStroops` reads an amount as an integer number of stroops, `fromStroops` writes one with seven
places.  `roundMoney` of `utils/money.js` reads the same strings with `new Decimal`, which is a
parameter here.
-/
namespace StellarEduPay
open Checks Decimals

/-! ## The codec -/

/-- `/^\d*(\.\d*)?$/.test(str)` -/
def isAmount (str : List Char) : Bool :=
  match str.dropWhile Char.isDigit with
  | [] => true
  | c :: rest => c = '.' && rest.all Char.isDigit

/-- `BigInt(digits || '0')` -/
def bigInt (digits : List Char) : Int := digitsValue (if digits = [] then ['0'] else digits)

/-- The stroops of an unsigned amount that was accepted. -/
def unsignedStroops (str : List Char) : Int :=
  let intPart := str.takeWhile (· ≠ '.')
  let fracRaw := (str.dropWhile (· ≠ '.')).tail
  let frac := (fracRaw ++ List.replicate moneyDecimals '0').take moneyDecimals
  let stroops := bigInt intPart * 10 ^ moneyDecimals + bigInt frac
  -- one look-ahead digit rounds half up
  if moneyDecimals < fracRaw.length ∧ fracRaw[moneyDecimals]?.any (5 ≤ digitValue ·) then stroops + 1
  else stroops

/-- `toStroops` of a string. -/
def toStroops (amount : String) : Except String Int :=
  if amount = "" then .error ("Cannot convert " ++ amount ++ " to stroops")
  else
    let trimmed := (jsTrim amount).toList
    let negative := trimmed.head? = some '-'
    let str := if negative then trimmed.tail else trimmed
    if !isAmount str || str = [] || str = ['.'] then
      .error ("Invalid amount for stroop conversion: " ++ amount)
    else .ok (if negative then -unsignedStroops str else unsignedStroops str)

/-- `fromStroops` -/
def fromStroops (stroops : Int) : String :=
  let abs := stroops.natAbs
  let frac := (toString (abs % 10 ^ moneyDecimals)).toList
  let padStart := List.replicate (moneyDecimals - frac.length) '0' ++ frac
  (if stroops < 0 then "-" else "") ++ toString (abs / 10 ^ moneyDecimals) ++ "." ++
    String.ofList padStart

/-! ## `decimal.js` -/

/-- `new Decimal(s)`, as far as the amounts here go: it reads plain decimals exactly, and it throws
on white space around a number.  What else it reads is left open. -/
structure DecimalParser where
  parse : String → Option ℚ
  plain : ∀ d : PlainDecimal, parse d.text = some d.value
  untrimmed : ∀ s, jsTrim s ≠ s → parse s = none

namespace DecimalMoney

/-- `toMoney` of a string. -/
def toMoney (new : DecimalParser) (value : String) : Except DecimalError ℚ :=
  if value = "" then .ok 0 else orThrow (new.parse value) .invalidArgument

/-- `toDecimalPlaces(k, ROUND_HALF_UP)` -/
def toDecimalPlaces (k : Nat) (q : ℚ) : ℚ := roundAway (q * 10 ^ k) / 10 ^ k

/-- `roundMoney` of a decimal. -/
def round (value : ℚ) : ℚ := toDecimalPlaces moneyDecimals value

/-- `roundMoney` -/
def roundMoney (new : DecimalParser) (value : String) : Except DecimalError ℚ :=
  (toMoney new value).map round

end DecimalMoney

/-! ## Reading -/

theorem bigInt_eq (digits : List Char) : bigInt digits = digitsValue digits := by
  unfold bigInt
  split
  · rename_i h; rw [h]; rfl
  · rfl

theorem isAmount_iff {str : List Char} :
    isAmount str = true ↔ ∃ (whole : List Char) (fraction : Option (List Char)),
      IsDigits whole ∧ IsDigits (fraction.getD []) ∧ str = whole ++ fraction.elim [] ('.' :: ·) := by
  constructor
  · intro h
    have hsplit := List.takeWhile_append_dropWhile (p := Char.isDigit) (l := str)
    have hdigits : IsDigits (str.takeWhile Char.isDigit) := fun c hc => List.mem_takeWhile_imp hc
    unfold isAmount at h
    split at h
    · rename_i hdrop
      exact ⟨_, none, hdigits, by simp [IsDigits], by rw [← hdrop]; exact hsplit.symm⟩
    · rename_i c rest hdrop
      obtain ⟨hc, hrest⟩ := (Bool.and_eq_true _ _).mp h
      refine ⟨_, some rest, hdigits, by simpa [IsDigits] using hrest, ?_⟩
      rw [Option.elim_some, ← of_decide_eq_true hc, ← hdrop]
      exact hsplit.symm
  · rintro ⟨whole, fraction, hwhole, hfraction, rfl⟩
    unfold isAmount
    rw [List.dropWhile_append_of_pos hwhole]
    cases fraction with
    | none => rfl
    | some f => simpa [IsDigits] using hfraction

/-- `split('.')` of a plain decimal. -/
theorem split_unsigned (d : PlainDecimal) :
    d.unsigned.takeWhile (· ≠ '.') = d.whole ∧ (d.unsigned.dropWhile (· ≠ '.')).tail = d.decimals := by
  have hwhole : ∀ c ∈ d.whole, (decide (c ≠ '.')) = true := fun c hc =>
    decide_eq_true fun h => by simpa [h] using d.wholeDigits c hc
  unfold PlainDecimal.unsigned PlainDecimal.decimals
  rw [List.takeWhile_append_of_pos hwhole, List.dropWhile_append_of_pos hwhole]
  cases d.fraction <;> simp

/-- The regular expression and its two exceptions let the plain decimals without a sign through. -/
theorem accepts_iff (negative : Bool) {str : List Char} :
    (!isAmount str || str = [] || str = ['.']) = false ↔
      ∃ d : PlainDecimal, d.negative = negative ∧ d.unsigned = str := by
  simp only [Bool.or_eq_false_iff, Bool.not_eq_false', decide_eq_false_iff_not, and_assoc]
  constructor
  · rintro ⟨hmatch, hne, hdot⟩
    obtain ⟨whole, fraction, hwhole, hfraction, rfl⟩ := isAmount_iff.mp hmatch
    refine ⟨⟨negative, whole, fraction, hwhole, hfraction, ?_⟩, rfl, rfl⟩
    by_contra hempty
    obtain ⟨rfl, hf⟩ : whole = [] ∧ fraction.getD [] = [] := by simpa using hempty
    cases fraction with
    | none => exact hne rfl
    | some f => exact hdot (by simpa using hf)
  · rintro ⟨d, -, rfl⟩
    refine ⟨isAmount_iff.mpr ⟨_, _, d.wholeDigits, d.fractionDigits, rfl⟩, d.unsigned_ne_nil,
      fun h => ?_⟩
    obtain ⟨hwhole, hdecimals⟩ := split_unsigned d
    rw [h] at hwhole hdecimals
    exact d.nonempty.elim (· hwhole.symm) (· hdecimals.symm)

/-- The text of a plain decimal after its sign. -/
theorem strip_sign (d : PlainDecimal) :
    decide (d.text.toList.head? = some '-') = d.negative ∧
      (if d.text.toList.head? = some '-' then d.text.toList.tail else d.text.toList) = d.unsigned := by
  have hhead := d.head?_unsigned_ne_minus
  unfold PlainDecimal.text
  rw [String.toList_ofList]
  cases d.negative <;> simp [hhead]

theorem text_ne_empty (d : PlainDecimal) : d.text ≠ "" := by
  intro h
  have hstr := (strip_sign d).2
  simp [h, d.unsigned_ne_nil.symm] at hstr

/-- The look-ahead digit rounds to the nearest stroop. -/
theorem unsignedStroops_unsigned (d : PlainDecimal) :
    unsignedStroops d.unsigned = ((digitsValue d.whole * 10 ^ moneyDecimals +
      digitsValue (places moneyDecimals d.decimals) +
        if roundsUp moneyDecimals d.decimals then 1 else 0 : Nat) : ℤ) := by
  obtain ⟨hwhole, hfrac⟩ := split_unsigned d
  have hup : (moneyDecimals < d.decimals.length ∧
      d.decimals[moneyDecimals]?.any (5 ≤ digitValue ·) = true) ↔
        roundsUp moneyDecimals d.decimals = true := by
    refine ⟨fun h => h.2, fun h => ⟨?_, h⟩⟩
    by_contra hle
    simp [roundsUp, List.getElem?_eq_none (not_lt.mp hle)] at h
  simp only [unsignedStroops, hwhole, hfrac, bigInt_eq, hup]
  split <;> push_cast <;> simp [places]

/-- **What `toStroops` reads**: a plain decimal, in stroops. -/
theorem toStroops_of_text {s : String} {d : PlainDecimal} (h : d.text = jsTrim s) :
    toStroops s = .ok (roundAway (d.value * 10 ^ moneyDecimals)) := by
  obtain ⟨hsign, hstr⟩ := strip_sign d
  have hne : s ≠ "" := by
    rintro rfl
    exact text_ne_empty d h
  have haccept := (accepts_iff d.negative).mpr ⟨d, rfl, rfl⟩
  unfold toStroops
  rw [if_neg hne, ← h]
  simp only [hstr, haccept, Bool.false_eq_true, if_false]
  rw [d.roundAway_value, unsignedStroops_unsigned, ← hsign]
  by_cases hminus : d.text.toList.head? = some '-' <;> simp [hminus]

/-- Nothing else is read. -/
theorem text_of_toStroops {s : String} {n : Int} (h : toStroops s = .ok n) :
    ∃ d : PlainDecimal, d.text = jsTrim s := by
  by_contra hnone
  have hreject : ∀ str, (str = if (jsTrim s).toList.head? = some '-' then (jsTrim s).toList.tail
      else (jsTrim s).toList) → (!isAmount str || str = [] || str = ['.']) = true := by
    rintro str hstr
    by_contra haccept
    obtain ⟨d, hneg, hd⟩ := (accepts_iff (decide ((jsTrim s).toList.head? = some '-'))).mp
      (Bool.eq_false_iff.mpr haccept)
    refine hnone ⟨d, ?_⟩
    rw [PlainDecimal.text, hneg, hd, hstr]
    by_cases hminus : (jsTrim s).toList.head? = some '-'
    · obtain ⟨cs, hcs⟩ := List.head?_eq_some_iff.mp hminus
      rw [if_pos (decide_eq_true hminus), if_pos hminus, hcs, List.tail_cons, List.singleton_append,
        ← hcs, String.ofList_toList]
    · simp [hminus, String.ofList_toList]
  unfold toStroops at h
  split at h
  · cases h
  · simp only [hreject _ rfl, if_true] at h
    cases h

theorem toMoney_of_text (new : DecimalParser) (d : PlainDecimal) :
    DecimalMoney.toMoney new d.text = .ok d.value := by
  rw [DecimalMoney.toMoney, if_neg (text_ne_empty d), new.plain]
  rfl

/-- **`roundMoney` agrees**, once the white space around the amount is gone. -/
theorem roundMoney_of_text (new : DecimalParser) (d : PlainDecimal) :
    DecimalMoney.roundMoney new d.text =
      .ok (roundAway (d.value * 10 ^ moneyDecimals) / 10 ^ moneyDecimals) := by
  rw [DecimalMoney.roundMoney, toMoney_of_text]
  rfl

/-! ## Writing -/

/-- Digits, the dot and the minus sign are no white space. -/
theorem jsTrim_text (d : PlainDecimal) : jsTrim d.text = d.text := by
  have hspace : ∀ c ∈ d.text.toList, isJsSpace c = false := by
    intro c hc
    unfold PlainDecimal.text at hc
    rw [String.toList_ofList, List.mem_append] at hc
    have hchar : c = '-' ∨ c.isDigit = true ∨ c = '.' := by
      rcases hc with hc | hc
      · left; split at hc <;> simp_all
      · exact Or.inr (PlainDecimal.mem_unsigned hc)
    rcases hchar with rfl | hdigit | rfl
    · rfl
    · exact isJsSpace_of_isDigit hdigit
    · rfl
  exact jsTrim_of_no_space hspace

/-- `fromStroops` writes with seven places. -/
theorem fromStroops_eq (n : Int) : fromStroops n = (PlainDecimal.ofUnits moneyDecimals n).text := by
  have hdigits : ∀ m : Nat, (toString m).toList = Nat.toDigits 10 m := fun m => by
    rw [Nat.toString_eq_ofList_toDigits, String.toList_ofList]
  refine String.toList_inj.mp ?_
  unfold fromStroops PlainDecimal.text PlainDecimal.unsigned PlainDecimal.ofUnits padded
  simp only [String.toList_append, String.toList_ofList, hdigits]
  split <;> simp_all

/-- Writing and reading again. -/
theorem toStroops_fromStroops (n : Int) : toStroops (fromStroops n) = .ok n := by
  have htext : (PlainDecimal.ofUnits moneyDecimals n).text = jsTrim (fromStroops n) := by
    rw [fromStroops_eq, jsTrim_text]
  have hvalue := PlainDecimal.ofUnits_value (by decide : 0 < moneyDecimals) n
  have hunits : (n : ℚ) / 10 ^ moneyDecimals * 10 ^ moneyDecimals = n :=
    div_mul_cancel₀ _ (by positivity)
  rw [toStroops_of_text htext, hvalue, hunits, roundAway_intCast]

/-! ## The codec as a whole -/

/-- The string spells the number with seven places. -/
def SevenPlaces (s : String) (q : ℚ) : Prop :=
  ∃ d : PlainDecimal, d.text = s ∧ d.WithPlaces moneyDecimals ∧ d.value = q

theorem fromStroops_sevenPlaces (n : Int) : SevenPlaces (fromStroops n) (n / 10 ^ moneyDecimals) :=
  ⟨_, (fromStroops_eq n).symm, PlainDecimal.ofUnits_withPlaces (by decide) n,
    PlainDecimal.ofUnits_value (by decide) n⟩

/-- There is one such spelling. -/
theorem SevenPlaces.unique {s t : String} {q : ℚ} (hs : SevenPlaces s q) (ht : SevenPlaces t q) :
    s = t := by
  obtain ⟨d, rfl, hd, hdq⟩ := hs
  obtain ⟨e, rfl, he, heq⟩ := ht
  rw [PlainDecimal.eq_of_value hd he (hdq.trans heq.symm)]

/-- What the codec makes of the string `s`, which spells `d`. -/
structure Reads (new : DecimalParser) (s : String) (d : PlainDecimal) (n : Int) : Prop where
  rounded : n = roundAway (d.value * 10 ^ moneyDecimals)
  money : ∃ q, DecimalMoney.roundMoney new (jsTrim s) = .ok q ∧ q * 10 ^ moneyDecimals = n
  spelling : SevenPlaces (fromStroops n) (n / 10 ^ moneyDecimals)
  canonical : ∀ (s' : String) (d' : PlainDecimal), d'.text = jsTrim s' → d'.value = d.value →
    (toStroops s').map fromStroops = .ok (fromStroops n)

/-- **The stroop codec**: it reads the plain decimals between white space and nothing else, each as
its value in stroops, which is also what `roundMoney` makes of the trimmed string; and it reads back
what it writes. -/
theorem stroop_codec (new : DecimalParser) :
    (∀ s, (∃ n, toStroops s = .ok n) ↔ ∃ d : PlainDecimal, d.text = jsTrim s) ∧
      (∀ (s : String) (n : Int) (d : PlainDecimal), toStroops s = .ok n → d.text = jsTrim s →
        Reads new s d n) ∧
        ∀ n, toStroops (fromStroops n) = .ok n := by
  refine ⟨fun s => ⟨fun ⟨n, h⟩ => text_of_toStroops h, fun ⟨d, h⟩ => ⟨_, toStroops_of_text h⟩⟩,
    fun s n d h htext => ?_, toStroops_fromStroops⟩
  obtain rfl : roundAway (d.value * 10 ^ moneyDecimals) = n :=
    Except.ok.inj ((toStroops_of_text htext).symm.trans h)
  refine ⟨rfl, ⟨_, htext ▸ roundMoney_of_text new d, div_mul_cancel₀ _ (by positivity)⟩,
    fromStroops_sevenPlaces _, fun s' d' htext' hvalue => ?_⟩
  rw [toStroops_of_text htext', hvalue]
  rfl

/-! ## White space -/

/-- A parser of plain decimals and nothing else. -/
def plainParser : DecimalParser where
  parse s := (PlainDecimal.ofText s).map (·.value)
  plain d := by rw [PlainDecimal.ofText_eq_some.mpr rfl]; rfl
  untrimmed s h := by
    cases hs : PlainDecimal.ofText s with
    | none => rfl
    | some d => exact absurd (PlainDecimal.ofText_eq_some.mp hs ▸ jsTrim_text d) h

/-- `toStroops` takes white space around the amount, `roundMoney` throws on it. -/
theorem roundMoney_white_space : ¬ ∀ (new : DecimalParser) (s : String) (n : Int),
    toStroops s = .ok n →
      ∃ q, DecimalMoney.roundMoney new s = .ok q ∧ q * 10 ^ moneyDecimals = n := by
  intro h
  obtain ⟨q, hq, -⟩ := h plainParser " 5" 50000000 (by decide +kernel)
  have hnone : plainParser.parse " 5" = none := plainParser.untrimmed " 5" (by decide +kernel)
  rw [DecimalMoney.roundMoney, DecimalMoney.toMoney, if_neg (by decide), hnone] at hq
  cases hq

end StellarEduPay

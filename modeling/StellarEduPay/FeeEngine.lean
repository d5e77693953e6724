import StellarEduPay.Checks
import StellarEduPay.FeeAdjustments
import StellarEduPay.StroopCodec

/-! # The dynamic fee engine (`services/feeAdjustmentEngine.js`)

An engine keeps its rules in descending order of priority and applies every rule that matches to the
running fee, which is clamped only at the end.  In between it may be negative, where a percentage
turns around, and a percentage discount above 100 turns whatever comes before it.

The numbers are a parameter, with operations that round as those of `Decimal` do, at 20 significant
digits; the results are about exact ones.  A rule has a priority: without one the comparison of the
sort is `NaN`, and the order is left to the implementation.
-/
namespace StellarEduPay
open Checks

/-! ## Rules and contexts -/

/-- `toDecimalPlaces`. -/
class DecimalPlaces (Num : Type) where
  toDecimalPlaces : Nat → Num → Num

instance : DecimalPlaces ℚ where
  toDecimalPlaces := DecimalMoney.toDecimalPlaces

/-- What a fee is calculated for, as far as the default rules read it. -/
structure EngineContext (Num : Type) where
  baseAmount : Option Num
  isEarly : Bool := false
  isLate : Bool := false
  userType : Option String := none
  totalPaymentsThisMonth : Option Num := none
  promoCode : Option String := none
  deriving DecidableEq, Repr

inductive EngineRuleType
  | discount
  | penalty
  deriving DecidableEq, Repr

/-- A rule that was accepted. -/
structure EngineRule (Num : Type) [LE Num] [Zero Num] where
  id : String
  name : String
  type : EngineRuleType
  condition : EngineContext Num → Bool
  value : Num
  priority : Num
  isFixed : Bool := false
  description : Option String := none
  nonneg : 0 ≤ value

/-- A rule as `addRule` gets it; a field is `none` where it is absent or of another type. -/
structure EngineRuleBody (Num : Type) where
  id : Option String
  name : Option String
  type : Option String
  condition : Option (EngineContext Num → Bool)
  value : Option Num
  priority : Num
  isFixed : Bool := false
  description : Option String := none

def EngineRuleType.ofText (text : String) : Option EngineRuleType :=
  if text = "discount" then some .discount else if text = "penalty" then some .penalty else none

section
variable {Num : Type} [LinearOrder Num] [Zero Num]

/-- The checks of `addRule`, on what may be no object at all. -/
def validateEngineRule (body : Option (EngineRuleBody Num)) : Except String (EngineRule Num) := do
  let body ← orThrow body "rule must be an object"
  let id ← orThrow (truthy body.id) "rule.id is required"
  let name ← orThrow (truthy body.name) "rule.name is required"
  let type ← orThrow (body.type.bind EngineRuleType.ofText)
    "rule.type must be \"discount\" or \"penalty\""
  let value ← orThrow (body.value.bind fun value => if h : 0 ≤ value then some ⟨value, h⟩ else none)
    "rule.value must be a non-negative number"
  let condition ← orThrow body.condition "rule.condition must be a function"
  pure {
    id, name, type, condition
    value := value.val
    priority := body.priority
    isFixed := body.isFixed
    description := body.description
    nonneg := Subtype.property (p := (0 ≤ ·)) value }

/-! ## The engine -/

/-- `this.rules.sort((a, b) => b.priority - a.priority)` -/
def sortEngineRules (rules : List (EngineRule Num)) : List (EngineRule Num) :=
  rules.insertionSort fun a b => b.priority ≤ a.priority

/-- The rules of an engine are in descending order of priority. -/
structure FeeEngine (Num : Type) [LinearOrder Num] [Zero Num] where
  rules : List (EngineRule Num)
  sorted : rules.Pairwise fun a b => b.priority ≤ a.priority

theorem sortEngineRules_sorted (rules : List (EngineRule Num)) :
    (sortEngineRules rules).Pairwise fun a b => b.priority ≤ a.priority := by
  have : Std.Total fun a b : EngineRule Num => b.priority ≤ a.priority :=
    ⟨fun a b => le_total b.priority a.priority⟩
  have : IsTrans (EngineRule Num) fun a b => b.priority ≤ a.priority :=
    ⟨fun _ _ _ hab hbc => hbc.trans hab⟩
  exact List.pairwise_insertionSort _ rules

/-- The end of `loadDefaultRules`, for any default rules. -/
def FeeEngine.ofRules (rules : List (EngineRule Num)) : FeeEngine Num :=
  ⟨sortEngineRules rules, sortEngineRules_sorted rules⟩

/-- `addRule` -/
def FeeEngine.addRule (engine : FeeEngine Num) (body : Option (EngineRuleBody Num)) :
    Except String (FeeEngine Num) := do
  let rule ← validateEngineRule body
  pure (FeeEngine.ofRules (engine.rules ++ [rule]))

end

/-- The rules of `loadDefaultRules`. -/
def defaultEngineRules : List (EngineRule ℚ) :=
  [{ id := "early-payment"
     name := "Early Payment Discount"
     type := .discount
     condition := fun ctx => ctx.isEarly
     value := 15
     priority := 10
     description := some "15% discount for payments made at least 7 days in advance"
     nonneg := by norm_num },
   { id := "student-discount"
     name := "Student Discount"
     type := .discount
     condition := fun ctx => ctx.userType = some "student"
     value := 20
     priority := 8
     description := some "20% discount for verified students"
     nonneg := by norm_num },
   { id := "late-penalty"
     name := "Late Payment Penalty"
     type := .penalty
     condition := fun ctx => ctx.isLate
     value := 12
     priority := 15
     description := some "12% penalty for late payments"
     nonneg := by norm_num },
   { id := "volume-discount"
     name := "Volume Discount"
     type := .discount
     condition := fun ctx => ctx.totalPaymentsThisMonth.any (3 ≤ ·)
     value := 10
     priority := 12
     description := some "10% discount for 3 or more payments in a month"
     nonneg := by norm_num },
   { id := "promo-edu2026"
     name := "Promo Code Discount"
     type := .discount
     condition := fun ctx => (truthy ctx.promoCode).any (jsUpper · = "EDU2026")
     value := 25
     priority := 5
     description := some "Special 25% discount with promo code EDU2026"
     nonneg := by norm_num }]

/-! ## The calculation -/

section
variable {Num : Type} [LinearOrder Num] [Zero Num] [OfNat Num 100] [Add Num] [Neg Num] [Mul Num]
  [Div Num]

/-- The rule is `isFixed`, or its description begins with that word. -/
def EngineRule.fixed (rule : EngineRule Num) : Bool :=
  rule.isFixed || rule.description.any fun text =>
    "fixed".toList.isPrefixOf (text.toList.map Char.toLower)

/-- `adjustmentAmount`; its third branch is for types `addRule` refuses. -/
def engineAdjustment (currentFee : Num) (rule : EngineRule Num) : Num :=
  match rule.type with
  | .discount => if rule.fixed then -rule.value else -(currentFee * rule.value / 100)
  | .penalty => if rule.fixed then rule.value else currentFee * rule.value / 100

/-- An entry of `adjustments`. -/
structure EngineAdjustment (Num : Type) where
  ruleName : String
  type : EngineRuleType
  value : Num
  amountAdjusted : Num
  finalFeeAfterRule : Num
  reason : Option String
  deriving DecidableEq, Repr

/-- The loop of `calculateFee`: the running fee at its end, and the adjustments. -/
def runEngineRules [DecimalPlaces Num] (ctx : EngineContext Num) :
    Num → List (EngineRule Num) → Num × List (EngineAdjustment Num)
  | currentFee, [] => (currentFee, [])
  | currentFee, rule :: rules =>
    if rule.condition ctx then
      let amount := engineAdjustment currentFee rule
      let currentFee := currentFee + amount
      let adjustment : EngineAdjustment Num :=
        { ruleName := rule.name
          type := rule.type
          value := rule.value
          amountAdjusted := DecimalPlaces.toDecimalPlaces 2 (jsAbs amount)
          finalFeeAfterRule := DecimalPlaces.toDecimalPlaces 2 currentFee
          reason := rule.description }
      let (currentFee, adjustments) := runEngineRules ctx currentFee rules
      (currentFee, adjustment :: adjustments)
    else runEngineRules ctx currentFee rules

/-- What `calculateFee` returns. -/
structure EngineFee (Num : Type) where
  baseFee : Num
  finalFee : Num
  adjustments : List (EngineAdjustment Num)
  effectiveRate : Num
  totalAdjustments : Nat
  deriving DecidableEq, Repr

/-- `calculateFee` -/
def FeeEngine.calculateFee [DecimalPlaces Num] (engine : FeeEngine Num) (ctx : EngineContext Num) :
    EngineFee Num :=
  let base := ctx.baseAmount.getD 0
  let (currentFee, adjustments) := runEngineRules ctx base engine.rules
  let finalFee := max 0 currentFee
  { baseFee := DecimalPlaces.toDecimalPlaces 2 base
    finalFee := DecimalPlaces.toDecimalPlaces 2 finalFee
    adjustments
    effectiveRate := if 0 < base then DecimalPlaces.toDecimalPlaces 2 (finalFee / base * 100) else 100
    totalAdjustments := adjustments.length }

end

/-! ## The place of a new rule -/

section Place
variable {Num : Type} [LinearOrder Num] [Zero Num] {rule : EngineRule Num}
  {rules : List (EngineRule Num)}

/-- The rules that stay ahead of a new one: the sort is stable. -/
def rulesAhead (rule : EngineRule Num) (rules : List (EngineRule Num)) : List (EngineRule Num) :=
  rules.takeWhile (rule.priority ≤ ·.priority)

/-- The rules behind a new one. -/
def rulesBehind (rule : EngineRule Num) (rules : List (EngineRule Num)) : List (EngineRule Num) :=
  rules.dropWhile (rule.priority ≤ ·.priority)

theorem rulesAhead_append_rulesBehind (rule : EngineRule Num) (rules : List (EngineRule Num)) :
    rulesAhead rule rules ++ rulesBehind rule rules = rules :=
  List.takeWhile_append_dropWhile

/-- A list that begins with the highest priority is not changed by putting that rule in front. -/
theorem orderedInsert_first {l : List (EngineRule Num)} (h : ∀ b ∈ l, b.priority ≤ rule.priority) :
    l.orderedInsert (fun a b => b.priority ≤ a.priority) rule = rule :: l := by
  cases l with
  | nil => rfl
  | cons b l => exact List.orderedInsert_cons_of_le _ l (h b List.mem_cons_self)

/-- **A new rule takes its place**, and the others stay in theirs: by induction on the rules. -/
theorem sortEngineRules_append (hsorted : rules.Pairwise fun a b => b.priority ≤ a.priority) :
    sortEngineRules (rules ++ [rule]) = rulesAhead rule rules ++ rule :: rulesBehind rule rules := by
  induction rules with
  | nil => rfl
  | cons first rules ih =>
    obtain ⟨hfirst, hrest⟩ := List.pairwise_cons.mp hsorted
    have hstep : sortEngineRules (first :: (rules ++ [rule])) =
        (rulesAhead rule rules ++ rule :: rulesBehind rule rules).orderedInsert
          (fun a b => b.priority ≤ a.priority) first := by
      rw [← ih hrest]
      rfl
    have hmem : ∀ b ∈ rulesAhead rule rules ++ rule :: rulesBehind rule rules,
        b = rule ∨ b ∈ rules := by
      intro b hb
      have hb := List.mem_cons.mp (List.perm_middle.mem_iff.mp hb)
      rwa [rulesAhead_append_rulesBehind] at hb
    rw [List.cons_append, hstep]
    by_cases hle : rule.priority ≤ first.priority
    · have hall : ∀ b ∈ rulesAhead rule rules ++ rule :: rulesBehind rule rules,
          b.priority ≤ first.priority := by
        intro b hb
        rcases hmem b hb with rfl | hb
        · exact hle
        · exact hfirst b hb
      rw [orderedInsert_first hall]
      simp [rulesAhead, rulesBehind, hle]
    · -- all the rules have a lower priority than the new one
      have hnone : rulesAhead rule rules = [] := by
        cases rules with
        | nil => rfl
        | cons b rules =>
          have hb : ¬ rule.priority ≤ b.priority := fun h =>
            hle (h.trans (hfirst b List.mem_cons_self))
          simp [rulesAhead, hb]
      have hrules : rulesBehind rule rules = rules := by
        have := rulesAhead_append_rulesBehind rule rules
        rwa [hnone] at this
      have hinsert : (rule :: rules).orderedInsert (fun a b => b.priority ≤ a.priority) first =
          rule :: rules.orderedInsert (fun a b => b.priority ≤ a.priority) first :=
        List.orderedInsert_of_not_le _ rules hle
      rw [hnone, hrules, List.nil_append, hinsert, orderedInsert_first hfirst]
      simp [rulesAhead, rulesBehind, hle]

theorem addRule_ok {engine engine' : FeeEngine Num} {body : Option (EngineRuleBody Num)}
    (h : engine.addRule body = .ok engine') : ∃ rule, validateEngineRule body = .ok rule ∧
      engine'.rules = rulesAhead rule engine.rules ++ rule :: rulesBehind rule engine.rules := by
  obtain ⟨rule, hrule, h⟩ := bind_ok_iff.mp h
  obtain rfl := pure_ok_iff.mp h
  exact ⟨rule, hrule, sortEngineRules_append engine.sorted⟩

end Place

/-! ## Exact fees -/

/-- What a rule multiplies the running fee by. -/
def EngineRule.factor (rule : EngineRule ℚ) : ℚ :=
  if rule.fixed then 1
  else match rule.type with
  | .discount => 1 - rule.value / 100
  | .penalty => 1 + rule.value / 100

/-- What a rule adds to the running fee, whatever it is. -/
def EngineRule.fixedAmount (rule : EngineRule ℚ) : ℚ :=
  if rule.fixed then
    match rule.type with
    | .discount => -rule.value
    | .penalty => rule.value
  else 0

/-- What the matching rules multiply an amount by. -/
def engineGrowth (ctx : EngineContext ℚ) : List (EngineRule ℚ) → ℚ
  | [] => 1
  | rule :: rules =>
    if rule.condition ctx then rule.factor * engineGrowth ctx rules else engineGrowth ctx rules

/-- What the fixed amounts come to, each multiplied by the percentages behind it. -/
def engineFixedPart (ctx : EngineContext ℚ) : List (EngineRule ℚ) → ℚ
  | [] => 0
  | rule :: rules =>
    if rule.condition ctx then
      rule.fixedAmount * engineGrowth ctx rules + engineFixedPart ctx rules
    else engineFixedPart ctx rules

/-- The fee before it is clamped. -/
def engineTotal (ctx : EngineContext ℚ) (fee : ℚ) (rules : List (EngineRule ℚ)) : ℚ :=
  fee * engineGrowth ctx rules + engineFixedPart ctx rules

/-- What a new rule moves the total by: its adjustment in its place, multiplied by the percentages
behind it. -/
def engineShift (ctx : EngineContext ℚ) (rules : List (EngineRule ℚ)) (rule : EngineRule ℚ) : ℚ :=
  engineAdjustment (engineTotal ctx (ctx.baseAmount.getD 0) (rulesAhead rule rules)) rule *
    engineGrowth ctx (rulesBehind rule rules)

/-- The next half cent above a fee: from there on it is rounded to more. -/
def halfCentAbove (fee : ℚ) : ℚ := (⌊fee * 100 + 1 / 2⌋ + 1 / 2) / 100

/-- The shift has the direction its type names, or it is too small to show. -/
def ShiftsAsNamed (ctx : EngineContext ℚ) (rules : List (EngineRule ℚ)) (rule : EngineRule ℚ) : Prop :=
  let total := engineTotal ctx (ctx.baseAmount.getD 0) rules
  let shift := engineShift ctx rules rule
  match rule.type with
  | .discount => shift ≤ 0 ∨ total + shift < halfCentAbove (max 0 total)
  | .penalty => 0 ≤ shift ∨ total < halfCentAbove (max 0 (total + shift))

section Exact
variable {ctx : EngineContext ℚ} {fee : ℚ} {rule : EngineRule ℚ}
  {rules ahead behind : List (EngineRule ℚ)}

/-- A rule is a linear step. -/
theorem engine_step (fee : ℚ) (rule : EngineRule ℚ) :
    fee + engineAdjustment fee rule = fee * rule.factor + rule.fixedAmount := by
  unfold engineAdjustment EngineRule.factor EngineRule.fixedAmount
  cases rule.type <;> cases rule.fixed <;> simp only [Bool.false_eq_true, if_true, if_false] <;> ring

/-- By induction on the rules: the loop comes to the total. -/
theorem runEngineRules_fst (fee : ℚ) (rules : List (EngineRule ℚ)) :
    (runEngineRules ctx fee rules).1 = engineTotal ctx fee rules := by
  induction rules generalizing fee with
  | nil => simp [runEngineRules, engineTotal, engineGrowth, engineFixedPart]
  | cons rule rules ih =>
    unfold runEngineRules engineTotal engineGrowth engineFixedPart
    by_cases hmatches : rule.condition ctx = true
    · simp only [hmatches, if_true]
      rw [ih, engine_step, engineTotal]
      ring
    · simp only [hmatches, if_false, Bool.false_eq_true]
      exact ih fee

theorem engineTotal_append (fee : ℚ) (ahead behind : List (EngineRule ℚ)) :
    engineTotal ctx fee (ahead ++ behind) = engineTotal ctx (engineTotal ctx fee ahead) behind := by
  induction ahead generalizing fee with
  | nil => simp [engineTotal, engineGrowth, engineFixedPart]
  | cons rule ahead ih =>
    rw [← runEngineRules_fst, ← runEngineRules_fst fee, List.cons_append, runEngineRules,
      runEngineRules]
    split
    · dsimp only
      rw [runEngineRules_fst, runEngineRules_fst, ih]
    · rw [runEngineRules_fst, runEngineRules_fst, ih]

/-- **One more matching rule** moves the total by its shift. -/
theorem engineTotal_insert (hmatches : rule.condition ctx = true) (fee : ℚ) :
    engineTotal ctx fee (ahead ++ rule :: behind) = engineTotal ctx fee (ahead ++ behind) +
      engineAdjustment (engineTotal ctx fee ahead) rule * engineGrowth ctx behind := by
  have hrule : ∀ x, engineTotal ctx x (rule :: behind) =
      engineTotal ctx (x + engineAdjustment x rule) behind := by
    intro x
    rw [← runEngineRules_fst, ← runEngineRules_fst, runEngineRules, if_pos hmatches]
  rw [engineTotal_append, engineTotal_append, hrule]
  generalize engineTotal ctx fee ahead = running
  simp only [engineTotal]
  ring

theorem toDecimalPlaces_of_nonneg (h : 0 ≤ fee) :
    DecimalPlaces.toDecimalPlaces 2 fee = (⌊fee * 100 + 1 / 2⌋ : ℚ) / 100 := by
  have hscaled : 0 ≤ fee * 10 ^ 2 := by positivity
  change (Decimals.roundAway (fee * 10 ^ 2) : ℚ) / 10 ^ 2 = _
  rw [Decimals.roundAway_of_nonneg hscaled, round_eq]
  norm_num

/-- A clamped total is rounded to no more than a fee as long as it is below the next half cent. -/
theorem clamped_le_iff (h : 0 ≤ fee) (total : ℚ) :
    (DecimalPlaces.toDecimalPlaces 2 (max 0 total) : ℚ) ≤ DecimalPlaces.toDecimalPlaces 2 fee ↔
      total < halfCentAbove fee := by
  have hcents : (0 : ℚ) ≤ ⌊fee * 100 + 1 / 2⌋ := by
    exact_mod_cast Int.floor_nonneg.mpr (by positivity)
  have habove : 0 < halfCentAbove fee := by
    unfold halfCentAbove
    positivity
  rw [toDecimalPlaces_of_nonneg h, toDecimalPlaces_of_nonneg (le_max_left 0 total),
    div_le_div_iff_of_pos_right (by norm_num), Int.cast_le, ← Int.lt_add_one_iff, Int.floor_lt]
  have hmax : max 0 total < halfCentAbove fee ↔ total < halfCentAbove fee :=
    max_lt_iff.trans (and_iff_right habove)
  rw [← hmax, halfCentAbove, lt_div_iff₀ (by norm_num)]
  push_cast
  constructor <;> intro hlt <;> linarith

end Exact

/-- A rule as it is added, whatever the context. -/
def engineBody (name type : String) (value priority : ℚ) (isFixed : Bool) :
    Option (EngineRuleBody ℚ) :=
  some { id := some name, name := some name, type := some type, condition := some fun _ => true
         value := some value, priority, isFixed }

/-- What `engineBody` is accepted as. -/
def engineBodyRule (name : String) (type : EngineRuleType) (value priority : ℚ) (isFixed : Bool)
    (nonneg : 0 ≤ value) : EngineRule ℚ :=
  { id := name, name, type, condition := fun _ => true, value, priority, isFixed, nonneg }

end StellarEduPay

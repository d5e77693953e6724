import Mathlib.Algebra.Order.BigOperators.GroupWithZero.List
import Mathlib.Tactic.Linarith
import Mathlib.Tactic.Positivity
import Mathlib.Tactic.Ring
import StellarEduPay.FeeAdjustments

/-! # The policy `best_for_student`

Under this policy the evaluation has to come to the lowest fee that one of the matching discounts, or
none, leads to together with all penalties.  It decides in one pass: the first discount stays, the
later ones are passed over.
-/
namespace StellarEduPay

/-! ## Choices -/

section
variable {Num : Type}

/-- The rules that are no discounts. -/
def penalties (rules : List (FeeRule Num)) : List (FeeRule Num) := rules.filter (!·.type.isDiscount)

/-- All penalties, and at most one of the discounts, in the order of the rules. -/
inductive Choice (rules : List (FeeRule Num)) : List (FeeRule Num) → Prop
  | none : Choice rules (penalties rules)
  | one {before after : List (FeeRule Num)} {discount : FeeRule Num}
      (hrules : rules = before ++ discount :: after) (hdiscount : discount.type.isDiscount = true) :
      Choice rules (penalties before ++ discount :: penalties after)

/-- The choice of the discount that comes first. -/
def firstChoice : List (FeeRule Num) → List (FeeRule Num)
  | [] => []
  | rule :: rules => rule :: if rule.type.isDiscount then penalties rules else firstChoice rules

variable {rule : FeeRule Num} {rules l : List (FeeRule Num)}

theorem penalties_discount (h : rule.type.isDiscount = true) :
    penalties (rule :: rules) = penalties rules :=
  List.filter_cons_of_neg (by simp [h])

theorem penalties_penalty (h : rule.type.isDiscount = false) :
    penalties (rule :: rules) = rule :: penalties rules :=
  List.filter_cons_of_pos (by simp [h])

/-- A discount ahead of the rules is taken, or left out. -/
theorem choice_cons_discount (h : rule.type.isDiscount = true) :
    Choice (rule :: rules) l ↔ l = rule :: penalties rules ∨ Choice rules l := by
  constructor
  · rintro (_ | ⟨hrules, hdiscount⟩)
    · rw [penalties_discount h]
      exact Or.inr .none
    · rename_i before after discount
      cases before with
      | nil =>
        obtain ⟨rfl, rfl⟩ := List.cons_eq_cons.mp hrules
        exact Or.inl rfl
      | cons head before =>
        obtain ⟨rfl, htail⟩ := List.cons.inj hrules
        rw [penalties_discount h]
        exact Or.inr (.one htail hdiscount)
  · rintro (rfl | hchoice)
    · exact @Choice.one _ _ [] rules rule rfl h
    · cases hchoice with
      | none => exact @penalties_discount _ rule rules h ▸ Choice.none
      | @one before after discount hrules hdiscount =>
        rw [← @penalties_discount _ rule before h]
        exact .one (congrArg _ hrules) hdiscount

theorem choice_cons_penalty (h : rule.type.isDiscount = false) :
    Choice (rule :: rules) l ↔ ∃ l', Choice rules l' ∧ rule :: l' = l := by
  constructor
  · rintro (_ | ⟨hrules, hdiscount⟩)
    · exact ⟨_, .none, (penalties_penalty h).symm⟩
    · rename_i before after discount
      cases before with
      | nil =>
        obtain ⟨rfl, rfl⟩ := List.cons_eq_cons.mp hrules
        exact absurd hdiscount (by simp [h])
      | cons head before =>
        obtain ⟨rfl, htail⟩ := List.cons.inj hrules
        rw [penalties_penalty h]
        exact ⟨_, .one htail hdiscount, rfl⟩
  · rintro ⟨l', hchoice, rfl⟩
    cases hchoice with
    | none => exact penalties_penalty h ▸ Choice.none
    | @one before after discount hrules hdiscount =>
      rw [← List.cons_append, ← penalties_penalty h]
      exact .one (congrArg _ hrules) hdiscount

theorem firstChoice_append {before after : List (FeeRule Num)} {discount : FeeRule Num}
    (hbefore : ∀ rule ∈ before, rule.type.isDiscount = false)
    (hdiscount : discount.type.isDiscount = true) :
    firstChoice (before ++ discount :: after) = penalties before ++ discount :: penalties after := by
  induction before with
  | nil =>
    rw [List.nil_append, firstChoice, if_pos hdiscount]
    rfl
  | cons rule before ih =>
    obtain ⟨hrule, hrest⟩ := List.forall_mem_cons.mp hbefore
    rw [List.cons_append, firstChoice, hrule, if_neg Bool.false_ne_true, ih hrest,
      penalties_penalty hrule, List.cons_append]

/-- The choices, listed. -/
def choices : List (FeeRule Num) → List (List (FeeRule Num))
  | [] => [[]]
  | rule :: rules =>
    if rule.type.isDiscount then (rule :: penalties rules) :: choices rules
    else (choices rules).map (rule :: ·)

theorem mem_choices : l ∈ choices rules ↔ Choice rules l := by
  induction rules generalizing l with
  | nil =>
    rw [choices, List.mem_singleton]
    constructor
    · rintro rfl
      exact .none
    · rintro (_ | ⟨hrules, -⟩)
      · rfl
      · exact absurd hrules (by simp)
  | cons rule rules ih =>
    unfold choices
    cases h : rule.type.isDiscount with
    | true => rw [if_pos rfl, List.mem_cons, ih, choice_cons_discount h]
    | false => simp only [Bool.false_eq_true, if_false, List.mem_map, ih, choice_cons_penalty h]

theorem firstChoice_choice (rules : List (FeeRule Num)) : Choice rules (firstChoice rules) := by
  induction rules with
  | nil => exact .none
  | cons rule rules ih =>
    unfold firstChoice
    cases h : rule.type.isDiscount with
    | true => exact (choice_cons_discount h).mpr (Or.inl rfl)
    | false => exact (choice_cons_penalty h).mpr ⟨_, ih, rfl⟩

end

/-! ## The single pass -/

section
variable {Num : Type} [LinearOrder Num] [Zero Num] [OfNat Num 100] [Add Num] [Sub Num] [Neg Num]
  [Mul Num] [Div Num]

/-- Apply the rules one after the other. -/
def stackRules (fee : Num) (rules : List (FeeRule Num)) : Num :=
  rules.foldl (fun fee rule => max 0 (fee + adjustmentAmount fee rule)) fee

/-- `Math.round(finalFee * 100) / 100` -/
def resolveFee [JsRounding Num] (finalFee : Num) : Num := JsRounding.mathRound (finalFee * 100) / 100

/-- No other discount, and none at all, leads to a lower fee than the first one. -/
def FirstIsBest [JsRounding Num] (fee : Num) (rules : List (FeeRule Num)) : Prop :=
  ∀ l, Choice rules l → resolveFee (stackRules fee (firstChoice rules)) ≤ resolveFee (stackRules fee l)

omit [Sub Num] in
/-- By induction on the rules: a discount is applied only while there is none among those applied. -/
theorem applyMatching_best {fee : Num} {applied : List (Adjustment Num)} {rules : List (FeeRule Num)}
    (hwaiver : ∀ rule ∈ rules, rule.type ≠ .waiver) :
    (applyMatching (some .bestForStudent) fee applied rules).1 =
      stackRules fee
        (if applied.any (·.type.isDiscount) then penalties rules else firstChoice rules) := by
  induction rules generalizing fee applied with
  | nil => simp [applyMatching, stackRules, penalties, firstChoice]
  | cons rule rules ih =>
    obtain ⟨hrule, hrest⟩ := List.forall_mem_cons.mp hwaiver
    have hpolicy : ¬ ConflictResolutionPolicy.bestForStudent = .firstOnly := by decide
    simp only [applyMatching, Option.getD_some, hpolicy, decide_false, Bool.false_and, decide_true,
      Bool.true_and, Bool.false_eq_true, if_false, hrule]
    cases hdiscount : rule.type.isDiscount with
    | true =>
      cases happlied : applied.any (·.type.isDiscount) with
      | true =>
        rw [if_pos (by simp), ih hrest, happlied, if_pos rfl, if_pos rfl, penalties_discount hdiscount]
      | false =>
        rw [if_neg (by simp), ih hrest, if_pos (by simp [hdiscount]), if_neg Bool.false_ne_true,
          firstChoice, if_pos hdiscount]
        rfl
    | false =>
      rw [if_neg (by simp), ih hrest]
      cases happlied : applied.any (·.type.isDiscount) with
      | true =>
        rw [if_pos (by simp [happlied]), if_pos rfl, penalties_penalty hdiscount]
        rfl
      | false =>
        rw [if_neg (by simp [happlied, hdiscount]), if_neg Bool.false_ne_true, firstChoice,
          if_neg (by simp [hdiscount])]
        rfl

/-- **The single pass** comes to what the first discount and all penalties lead to. -/
theorem applyRules_finalFee [JsRounding Num] {fee : Num} {ctx : PaymentContext Num}
    {rules rest : List (FeeRule Num)} {first : FeeRule Num}
    (hmatching : rules.filter (ruleApplies · ctx) = first :: rest)
    (hpolicy : first.conflictResolutionPolicy = some .bestForStudent)
    (hwaiver : ∀ rule ∈ first :: rest, rule.type ≠ .waiver) :
    (applyRules fee ctx rules).finalFee =
      resolveFee (stackRules fee (firstChoice (first :: rest))) := by
  have hstart : applyMatching none fee [] (first :: rest) =
      applyMatching (some .bestForStudent) fee [] (first :: rest) := by
    rw [applyMatching, applyMatching, hpolicy]
    rfl
  have hpass := @applyMatching_best _ _ _ _ _ _ _ _ fee [] (first :: rest) hwaiver
  rw [List.any_nil, if_neg Bool.false_ne_true] at hpass
  simp only [applyRules, hmatching, hstart, hpass, resolveFee]

/-- **`best_for_student` is best** exactly when the first matching discount is. -/
theorem best_for_student_iff [JsRounding Num] {fee : Num} {ctx : PaymentContext Num}
    {rules rest : List (FeeRule Num)} {first : FeeRule Num}
    (hmatching : rules.filter (ruleApplies · ctx) = first :: rest)
    (hpolicy : first.conflictResolutionPolicy = some .bestForStudent)
    (hwaiver : ∀ rule ∈ first :: rest, rule.type ≠ .waiver) :
    IsLeast {x | ∃ l, Choice (first :: rest) l ∧ resolveFee (stackRules fee l) = x}
        (applyRules fee ctx rules).finalFee ↔
      FirstIsBest fee (first :: rest) := by
  rw [applyRules_finalFee hmatching hpolicy hwaiver]
  constructor
  · rintro ⟨-, hleast⟩ l hl
    exact hleast ⟨l, hl, rfl⟩
  · refine fun hbest => ⟨⟨_, firstChoice_choice _, rfl⟩, ?_⟩
    rintro x ⟨l, hl, rfl⟩
    exact hbest l hl

instance [JsRounding Num] (fee : Num) (rules : List (FeeRule Num)) :
    Decidable (FirstIsBest fee rules) :=
  decidable_of_iff
    (∀ l ∈ choices rules, resolveFee (stackRules fee (firstChoice rules)) ≤
      resolveFee (stackRules fee l))
    (forall_congr' fun _ => imp_congr_left mem_choices)

end

/-! ## Exact fees -/

/-- What the penalties make of an amount, beside the fixed ones. -/
def growth (rules : List (FeeRule ℚ)) : ℚ :=
  (rules.map fun rule => if rule.type = .penaltyPercentage then 1 + rule.value / 100 else 1).prod

/-- What a discount takes off a fee. -/
def takesOff (fee : ℚ) (discount : FeeRule ℚ) : ℚ := min fee (-adjustmentAmount fee discount)

/-- What a discount is worth in the end: what it takes off in its place, grown by the penalties
after it. -/
def worth (fee : ℚ) (before : List (FeeRule ℚ)) (discount : FeeRule ℚ)
    (after : List (FeeRule ℚ)) : ℚ :=
  takesOff (stackRules fee (penalties before)) discount * growth (penalties after)

/-- No waiver, and no value below zero. -/
def Ordinary (rules : List (FeeRule ℚ)) : Prop :=
  ∀ rule ∈ rules, rule.type ≠ .waiver ∧ 0 ≤ rule.value

section Exact
variable {fee : ℚ} {rule discount : FeeRule ℚ} {rules before after : List (FeeRule ℚ)}

theorem Ordinary.penalties (h : Ordinary rules) : Ordinary (penalties rules) :=
  fun rule hrule => h rule (List.mem_of_mem_filter hrule)

theorem stackRules_nonneg (h : 0 ≤ fee) (rules : List (FeeRule ℚ)) : 0 ≤ stackRules fee rules := by
  induction rules generalizing fee with
  | nil => exact h
  | cons rule rules ih => exact ih (le_max_left 0 _)

theorem stackRules_append (rules' : List (FeeRule ℚ)) :
    stackRules fee (rules ++ rules') = stackRules (stackRules fee rules) rules' :=
  List.foldl_append

theorem growth_cons (rule : FeeRule ℚ) (rules : List (FeeRule ℚ)) :
    growth (rule :: rules) = growth [rule] * growth rules := by
  simp [growth]

/-- A penalty is a linear step that never lowers the fee. -/
theorem penalty_step (hpenalty : rule.type.isDiscount = false) (hwaiver : rule.type ≠ .waiver)
    (hvalue : 0 ≤ rule.value) (hfee : 0 ≤ fee) :
    1 ≤ growth [rule] ∧ 0 ≤ adjustmentAmount 0 rule ∧
      max 0 (fee + adjustmentAmount fee rule) = fee * growth [rule] + adjustmentAmount 0 rule := by
  have hpercent : 0 ≤ fee * rule.value / 100 := by positivity
  cases htype : rule.type with
  | discountPercentage => simp [htype, FeeRuleType.isDiscount] at hpenalty
  | discountFixed => simp [htype, FeeRuleType.isDiscount] at hpenalty
  | waiver => exact absurd htype hwaiver
  | penaltyPercentage =>
    simp only [growth, adjustmentAmount, htype, List.map_cons, List.map_nil, List.prod_cons,
      List.prod_nil, if_true]
    rw [max_eq_right (by linarith)]
    refine ⟨by linarith, by simp, by ring⟩
  | penaltyFixed =>
    simp only [growth, adjustmentAmount, htype, List.map_cons, List.map_nil, List.prod_cons,
      List.prod_nil, reduceCtorEq, if_false]
    rw [max_eq_right (by linarith)]
    exact ⟨by norm_num, hvalue, by ring⟩

/-- **What comes off a fee** comes off in the end, grown by the penalties: by induction on them. -/
theorem stackRules_sub {off : ℚ} (hpenalties : ∀ rule ∈ rules, rule.type.isDiscount = false)
    (hordinary : Ordinary rules) (hoff : 0 ≤ off) (hle : off ≤ fee) :
    stackRules (fee - off) rules = stackRules fee rules - off * growth rules := by
  induction rules generalizing fee off with
  | nil => simp [stackRules, growth]
  | cons rule rules ih =>
    obtain ⟨hrule, hpenalties⟩ := List.forall_mem_cons.mp hpenalties
    obtain ⟨⟨hwaiver, hvalue⟩, hordinary⟩ := List.forall_mem_cons.mp hordinary
    obtain ⟨hgrowth, hfixed, hstep⟩ := penalty_step hrule hwaiver hvalue (hoff.trans hle)
    obtain ⟨-, -, hstep'⟩ := penalty_step hrule hwaiver hvalue (sub_nonneg.mpr hle)
    have hgrown : off * growth [rule] ≤ fee * growth [rule] :=
      mul_le_mul_of_nonneg_right hle (zero_le_one.trans hgrowth)
    have hrest := ih hpenalties hordinary (mul_nonneg hoff (zero_le_one.trans hgrowth))
      (hgrown.trans (le_add_of_nonneg_right hfixed))
    change stackRules (max 0 (fee - off + adjustmentAmount (fee - off) rule)) rules =
      stackRules (max 0 (fee + adjustmentAmount fee rule)) rules - off * growth (rule :: rules)
    rw [hstep, hstep', growth_cons rule rules, ← mul_assoc, ← hrest]
    congr 1
    ring

theorem adjustment_of_discount (hdiscount : discount.type.isDiscount = true)
    (hvalue : 0 ≤ discount.value) (hfee : 0 ≤ fee) : adjustmentAmount fee discount ≤ 0 := by
  have hpercent : 0 ≤ fee * discount.value / 100 := by positivity
  cases htype : discount.type with
  | discountPercentage =>
    simp only [adjustmentAmount, htype]
    linarith
  | discountFixed =>
    simp only [adjustmentAmount, htype]
    linarith
  | _ => simp [htype, FeeRuleType.isDiscount] at hdiscount

theorem takesOff_nonneg (hdiscount : discount.type.isDiscount = true) (hvalue : 0 ≤ discount.value)
    (hfee : 0 ≤ fee) : 0 ≤ takesOff fee discount :=
  le_min hfee (neg_nonneg.mpr (adjustment_of_discount hdiscount hvalue hfee))

theorem discount_step : max 0 (fee + adjustmentAmount fee discount) = fee - takesOff fee discount := by
  rw [takesOff]
  rcases le_total fee (-adjustmentAmount fee discount) with h | h
  · rw [min_eq_left h, max_eq_left (by linarith), sub_self]
  · rw [min_eq_right h, max_eq_right (by linarith), sub_neg_eq_add]

theorem isDiscount_of_mem_penalties (h : rule ∈ penalties rules) : rule.type.isDiscount = false := by
  simpa using List.of_mem_filter h

theorem growth_nonneg (h : Ordinary rules) : 0 ≤ growth rules := by
  refine List.prod_nonneg fun x hx => ?_
  obtain ⟨rule, hrule, rfl⟩ := List.mem_map.mp hx
  have hvalue := (h rule hrule).2
  split
  · positivity
  · exact zero_le_one

/-- A discount is never worth less than none. -/
theorem worth_nonneg (hfee : 0 ≤ fee) (hordinary : Ordinary (before ++ discount :: after))
    (hdiscount : discount.type.isDiscount = true) : 0 ≤ worth fee before discount after := by
  obtain ⟨-, hrest⟩ := List.forall_mem_append.mp hordinary
  obtain ⟨⟨-, hvalue⟩, hafter⟩ := List.forall_mem_cons.mp hrest
  exact mul_nonneg (takesOff_nonneg hdiscount hvalue (stackRules_nonneg hfee _))
    (growth_nonneg (Ordinary.penalties hafter))

/-- **A choice** leaves the fee with all penalties, less what its discount is worth. -/
theorem stackRules_choice (hfee : 0 ≤ fee) (hordinary : Ordinary (before ++ discount :: after))
    (hdiscount : discount.type.isDiscount = true) :
    stackRules fee (penalties before ++ discount :: penalties after) =
      stackRules fee (penalties (before ++ discount :: after)) - worth fee before discount after := by
  obtain ⟨-, hrest⟩ := List.forall_mem_append.mp hordinary
  obtain ⟨⟨-, hvalue⟩, hafter⟩ := List.forall_mem_cons.mp hrest
  have hrunning := stackRules_nonneg hfee (penalties before)
  have hall : penalties (before ++ discount :: after) = penalties before ++ penalties after := by
    rw [penalties, List.filter_append]
    exact congrArg _ (penalties_discount hdiscount)
  rw [hall, stackRules_append, stackRules_append, worth,
    ← stackRules_sub (fun _ h => isDiscount_of_mem_penalties h) (Ordinary.penalties hafter)
      (takesOff_nonneg hdiscount hvalue hrunning) (min_le_left _ _), ← discount_step]
  rfl

theorem resolveFee_mono {x y : ℚ} (h : x ≤ y) : resolveFee x ≤ resolveFee y := by
  refine div_le_div_of_nonneg_right ?_ (by norm_num)
  exact Int.cast_le.mpr (Int.floor_le_floor (by linarith))

/-- In exact numbers the first discount is best exactly when no later one is worth more, up to what
rounds to the same fee. -/
theorem firstIsBest_iff_worth (hfee : 0 ≤ fee) (hordinary : Ordinary (before ++ discount :: after))
    (hbefore : ∀ rule ∈ before, rule.type.isDiscount = false)
    (hdiscount : discount.type.isDiscount = true) :
    FirstIsBest fee (before ++ discount :: after) ↔
      ∀ before' other after', before ++ discount :: after = before' ++ other :: after' →
        other.type.isDiscount = true →
          resolveFee (stackRules fee (penalties (before ++ discount :: after)) -
              worth fee before discount after) ≤
            resolveFee (stackRules fee (penalties (before ++ discount :: after)) -
              worth fee before' other after') := by
  rw [FirstIsBest, firstChoice_append hbefore hdiscount, stackRules_choice hfee hordinary hdiscount]
  constructor
  · intro hbest before' other after' hrules hother
    have hchoice := hbest _ (.one hrules hother)
    rw [hrules] at hordinary hchoice ⊢
    rwa [stackRules_choice hfee hordinary hother] at hchoice
  · rintro hworth l (_ | ⟨hrules, hother⟩)
    · exact resolveFee_mono (sub_le_self _ (worth_nonneg hfee hordinary hdiscount))
    · rename_i before' after' other
      have hle := hworth before' other after' hrules hother
      rw [hrules] at hordinary hle ⊢
      rwa [stackRules_choice hfee hordinary hother]

end Exact

/-- A rule without conditions, under the policy. -/
def bestRule (name : String) (type : FeeRuleType) (value : ℚ) (priority : ℚ) : FeeRule ℚ :=
  ⟨name, type, value, {}, some priority, some .bestForStudent⟩

/-- A student, and the day of the calculation. -/
def feeOnly : PaymentContext ℚ where
  student := ⟨1, "SCH", "STU001", "Ada", "JSS1", none, 1000, none, none, false, none⟩
  academicYear := none
  paymentDate := some 0
  baseAmount := 1000

/-- The better discount first, and a penalty after it. -/
theorem best_for_student_iff_half_off : (applyRules 1000 feeOnly
      [bestRule "half" .discountPercentage 50 1, bestRule "tenth" .discountPercentage 10 2,
        bestRule "late" .penaltyFixed 20 3]).finalFee = 520 ∧
    IsLeast {x | ∃ l, Choice [bestRule "half" .discountPercentage 50 1,
        bestRule "tenth" .discountPercentage 10 2, bestRule "late" .penaltyFixed 20 3] l ∧
          resolveFee (stackRules 1000 l) = x}
      (applyRules 1000 feeOnly
        [bestRule "half" .discountPercentage 50 1, bestRule "tenth" .discountPercentage 10 2,
          bestRule "late" .penaltyFixed 20 3]).finalFee :=
  ⟨by decide +kernel, (best_for_student_iff (by decide +kernel) rfl (by decide)).mpr
    (by decide +kernel)⟩

/-- A tenth off first, half off second: the second one is passed over. -/
theorem later_discount_is_better : ¬ ∀ (fee : ℚ) (ctx : PaymentContext ℚ)
    (rules rest : List (FeeRule ℚ)) (first : FeeRule ℚ),
      rules.Pairwise (fun a b => a.priority.getD 0 ≤ b.priority.getD 0) →
        rules.filter (ruleApplies · ctx) = first :: rest →
          first.conflictResolutionPolicy = some .bestForStudent →
            (∀ rule ∈ first :: rest, rule.type ≠ .waiver) →
              IsLeast {x | ∃ l, Choice (first :: rest) l ∧ resolveFee (stackRules fee l) = x}
                (applyRules fee ctx rules).finalFee := by
  intro h
  let tenth := bestRule "tenth" .discountPercentage 10 1
  let half := bestRule "half" .discountPercentage 50 2
  obtain ⟨-, hleast⟩ := h 1000 feeOnly [tenth, half] [half] tenth (by decide +kernel)
    (by decide +kernel) rfl (by decide)
  have hhalf : Choice [tenth, half] [half] := mem_choices.mp (by decide +kernel)
  exact absurd (hleast ⟨[half], hhalf, rfl⟩) (by decide +kernel)

end StellarEduPay

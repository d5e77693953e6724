import StellarEduPay.BestForStudent

/-! # The policy `stack`

Under the default policy the matching rules are applied one after the other, up to a waiver.  Each
step is monotone in the fee it starts from, so what a rule does to the fee in its place it does to
the final fee.
-/
namespace StellarEduPay

section
variable {Num : Type} [LinearOrder Num] [Zero Num] [OfNat Num 100] [Add Num] [Sub Num] [Neg Num]
  [Mul Num] [Div Num]

/-- The rules that are come to: a waiver is the last. -/
def upToWaiver : List (FeeRule Num) → List (FeeRule Num)
  | [] => []
  | rule :: rules => rule :: if rule.type = .waiver then [] else upToWaiver rules

/-- Every rule that matches has the policy `stack`. -/
def AllStack (ctx : PaymentContext Num) (rules : List (FeeRule Num)) : Prop :=
  ∀ rule ∈ rules, ruleApplies rule ctx = true → rule.conflictResolutionPolicy.getD .stack = .stack

instance (ctx : PaymentContext Num) (rules : List (FeeRule Num)) : Decidable (AllStack ctx rules) :=
  inferInstanceAs (Decidable (∀ rule ∈ rules, _ → _))

omit [Sub Num] in
/-- By induction on the rules: nothing is skipped. -/
theorem applyMatching_stack {policy : Option ConflictResolutionPolicy} {fee : Num}
    {applied : List (Adjustment Num)} {rules : List (FeeRule Num)}
    (hpolicy : policy.getD .stack = .stack)
    (hrules : ∀ rule ∈ rules, rule.conflictResolutionPolicy.getD .stack = .stack) :
    (applyMatching policy fee applied rules).1 = stackRules fee (upToWaiver rules) := by
  induction rules generalizing policy fee applied with
  | nil => rfl
  | cons rule rules ih =>
    obtain ⟨hrule, hrest⟩ := List.forall_mem_cons.mp hrules
    have hstack : policy.getD (rule.conflictResolutionPolicy.getD .stack) = .stack := by
      cases policy with
      | none => exact hrule
      | some policy => exact hpolicy
    rw [applyMatching, hstack]
    simp only [reduceCtorEq, decide_false, Bool.false_and, Bool.false_eq_true, if_false]
    by_cases hwaiver : rule.type = .waiver
    · rw [if_pos hwaiver, upToWaiver, if_pos hwaiver]
      rfl
    · rw [if_neg hwaiver, ih rfl hrest, upToWaiver, if_neg hwaiver]
      rfl

/-- **The evaluation under `stack`** goes through the matching rules up to a waiver. -/
theorem applyRules_stack [JsRounding Num] {fee : Num} {ctx : PaymentContext Num}
    {rules : List (FeeRule Num)} (h : AllStack ctx rules) :
    (applyRules fee ctx rules).finalFee =
      resolveFee (stackRules fee (upToWaiver (rules.filter (ruleApplies · ctx)))) := by
  have hmatching : ∀ rule ∈ rules.filter (ruleApplies · ctx),
      rule.conflictResolutionPolicy.getD .stack = .stack := fun rule hrule =>
    h rule (List.mem_of_mem_filter hrule) (by simpa using List.of_mem_filter hrule)
  have hpass := @applyMatching_stack _ _ _ _ _ _ _ _ none fee [] _ rfl hmatching
  simp only [applyRules, hpass, resolveFee]

end

/-! ## Monotone steps -/

/-- No value is below zero. -/
def NonnegValues (rules : List (FeeRule ℚ)) : Prop := ∀ rule ∈ rules, 0 ≤ rule.value

section Exact
variable {fee fee' : ℚ} {rule : FeeRule ℚ} {rules before after : List (FeeRule ℚ)}

/-- A step never brings a larger fee below a smaller one: a percentage above 100 leaves nothing of
either. -/
theorem stack_step_mono (hvalue : 0 ≤ rule.value) (hfee : 0 ≤ fee) (hle : fee ≤ fee') :
    max 0 (fee + adjustmentAmount fee rule) ≤ max 0 (fee' + adjustmentAmount fee' rule) := by
  cases htype : rule.type with
  | discountPercentage =>
    have hfactor : ∀ x : ℚ, x + adjustmentAmount x rule = x * (1 - rule.value / 100) := by
      intro x
      simp only [adjustmentAmount, htype]
      ring
    rw [hfactor, hfactor]
    rcases le_total 0 (1 - rule.value / 100) with hnonneg | hneg
    · exact max_le_max le_rfl (mul_le_mul_of_nonneg_right hle hnonneg)
    · rw [max_eq_left (mul_nonpos_of_nonneg_of_nonpos hfee hneg)]
      exact le_max_left _ _
  | penaltyPercentage =>
    have hfactor : ∀ x : ℚ, x + adjustmentAmount x rule = x * (1 + rule.value / 100) := by
      intro x
      simp only [adjustmentAmount, htype]
      ring
    rw [hfactor, hfactor]
    exact max_le_max le_rfl (mul_le_mul_of_nonneg_right hle (by positivity))
  | discountFixed =>
    simp only [adjustmentAmount, htype]
    exact max_le_max le_rfl (by linarith)
  | penaltyFixed =>
    simp only [adjustmentAmount, htype]
    exact max_le_max le_rfl (by linarith)
  | waiver => simp [adjustmentAmount, htype]

/-- A discount or a waiver does not raise the fee in its place. -/
theorem stack_step_le (hlowers : rule.type.isDiscount = true ∨ rule.type = .waiver)
    (hvalue : 0 ≤ rule.value) (hfee : 0 ≤ fee) : max 0 (fee + adjustmentAmount fee rule) ≤ fee := by
  have hadjustment : adjustmentAmount fee rule ≤ 0 := by
    rcases hlowers with hdiscount | hwaiver
    · exact adjustment_of_discount hdiscount hvalue hfee
    · simp only [adjustmentAmount, hwaiver]
      linarith
  exact max_le hfee (by linarith)

/-- A penalty does not lower the fee in its place. -/
theorem le_stack_step (hraises : rule.type = .penaltyPercentage ∨ rule.type = .penaltyFixed)
    (hvalue : 0 ≤ rule.value) (hfee : 0 ≤ fee) : fee ≤ max 0 (fee + adjustmentAmount fee rule) := by
  have hadjustment : 0 ≤ adjustmentAmount fee rule := by
    rcases hraises with htype | htype
    · simp only [adjustmentAmount, htype]
      positivity
    · simp only [adjustmentAmount, htype]
      exact hvalue
  exact le_max_of_le_right (by linarith)

/-- By induction on the rules: a larger fee stays the larger one. -/
theorem stackRules_mono (hvalues : NonnegValues rules) (hfee : 0 ≤ fee) (hle : fee ≤ fee') :
    stackRules fee rules ≤ stackRules fee' rules := by
  induction rules generalizing fee fee' with
  | nil => exact hle
  | cons rule rules ih =>
    obtain ⟨hvalue, hvalues⟩ := List.forall_mem_cons.mp hvalues
    exact ih hvalues (le_max_left 0 _) (stack_step_mono hvalue hfee hle)

theorem upToWaiver_subset (rules : List (FeeRule ℚ)) : upToWaiver rules ⊆ rules := by
  induction rules with
  | nil => exact List.Subset.refl _
  | cons rule rules ih =>
    unfold upToWaiver
    split
    · exact List.cons_subset_cons _ (List.nil_subset _)
    · exact List.cons_subset_cons _ ih

theorem NonnegValues.upToWaiver (h : NonnegValues rules) : NonnegValues (upToWaiver rules) :=
  fun rule hrule => h rule (upToWaiver_subset rules hrule)

/-- By induction on the rules before it: a discount or a waiver anywhere does not raise the fee. -/
theorem stackRules_insert_le (hlowers : rule.type.isDiscount = true ∨ rule.type = .waiver)
    (hvalue : 0 ≤ rule.value) (hafter : NonnegValues after) (hfee : 0 ≤ fee) :
    stackRules fee (upToWaiver (before ++ rule :: after)) ≤
      stackRules fee (upToWaiver (before ++ after)) := by
  induction before generalizing fee with
  | nil =>
    rw [List.nil_append, List.nil_append, upToWaiver]
    by_cases hwaiver : rule.type = .waiver
    · rw [if_pos hwaiver]
      have hnothing : stackRules fee [rule] = 0 := by
        simp [stackRules, adjustmentAmount, hwaiver]
      exact hnothing.trans_le (stackRules_nonneg hfee _)
    · rw [if_neg hwaiver]
      exact stackRules_mono hafter.upToWaiver (le_max_left 0 _) (stack_step_le hlowers hvalue hfee)
  | cons first before ih =>
    rw [List.cons_append, List.cons_append, upToWaiver, upToWaiver]
    split
    · exact le_rfl
    · exact ih (le_max_left 0 _)

/-- By induction on the rules before it: a penalty anywhere does not lower the fee. -/
theorem le_stackRules_insert (hraises : rule.type = .penaltyPercentage ∨ rule.type = .penaltyFixed)
    (hvalue : 0 ≤ rule.value) (hafter : NonnegValues after) (hfee : 0 ≤ fee) :
    stackRules fee (upToWaiver (before ++ after)) ≤
      stackRules fee (upToWaiver (before ++ rule :: after)) := by
  induction before generalizing fee with
  | nil =>
    have hwaiver : rule.type ≠ .waiver := by
      rcases hraises with htype | htype <;> simp [htype]
    rw [List.nil_append, List.nil_append, upToWaiver, if_neg hwaiver]
    exact stackRules_mono hafter.upToWaiver hfee (le_stack_step hraises hvalue hfee)
  | cons first before ih =>
    rw [List.cons_append, List.cons_append, upToWaiver, upToWaiver]
    split
    · exact le_rfl
    · exact ih (le_max_left 0 _)

theorem resolveFee_nonneg (h : 0 ≤ fee) : 0 ≤ resolveFee fee := by
  have hzero : resolveFee (0 : ℚ) = 0 := by norm_num [resolveFee, JsRounding.mathRound]
  exact hzero.symm.trans_le (resolveFee_mono h)

end Exact

/-- The matching rules stack, and their values are not below zero. -/
structure Stacking (ctx : PaymentContext ℚ) (rules : List (FeeRule ℚ)) : Prop where
  policy : AllStack ctx rules
  values : ∀ rule ∈ rules, ruleApplies rule ctx = true → 0 ≤ rule.value

section Stacking
variable {fee : ℚ} {ctx ctx' : PaymentContext ℚ} {rule : FeeRule ℚ}
  {rules before after : List (FeeRule ℚ)}

theorem Stacking.matching (h : Stacking ctx rules) :
    NonnegValues (rules.filter (ruleApplies · ctx)) := fun rule hrule =>
  h.values rule (List.mem_of_mem_filter hrule) (by simpa using List.of_mem_filter hrule)

theorem Stacking.insert (h : Stacking ctx (before ++ after)) (hrule : Stacking ctx [rule]) :
    Stacking ctx (before ++ rule :: after) := by
  have hmem : ∀ x ∈ before ++ rule :: after, x = rule ∨ x ∈ before ++ after :=
    fun x hx => List.mem_cons.mp (List.perm_middle.mem_iff.mp hx)
  constructor
  · intro x hx
    rcases hmem x hx with rfl | hx
    · exact hrule.policy x (List.mem_singleton_self x)
    · exact h.policy x hx
  · intro x hx
    rcases hmem x hx with rfl | hx
    · exact hrule.values x (List.mem_singleton_self x)
    · exact h.values x hx

/-- The matching rules with one more: it is among them in its place, or it changes nothing. -/
theorem filter_insert (ctx : PaymentContext ℚ) (rule : FeeRule ℚ) (before after : List (FeeRule ℚ)) :
    (before ++ rule :: after).filter (ruleApplies · ctx) =
      if ruleApplies rule ctx then
        before.filter (ruleApplies · ctx) ++ rule :: after.filter (ruleApplies · ctx)
      else (before ++ after).filter (ruleApplies · ctx) := by
  rw [List.filter_append, List.filter_append, List.filter_cons]
  split <;> rfl

/-- **Stacked rules are monotone**: in the discounts and waivers downwards, in the penalties upwards,
and in the base fee. -/
theorem stacked_rules_monotone (hfee : 0 ≤ fee) (hstacking : Stacking ctx rules) :
    0 ≤ (applyRules fee ctx rules).finalFee ∧
    (∀ before after rule, rules = before ++ after → Stacking ctx [rule] →
      (rule.type.isDiscount = true ∨ rule.type = .waiver →
        (applyRules fee ctx (before ++ rule :: after)).finalFee ≤
          (applyRules fee ctx rules).finalFee) ∧
      (rule.type = .penaltyPercentage ∨ rule.type = .penaltyFixed →
        (applyRules fee ctx rules).finalFee ≤
          (applyRules fee ctx (before ++ rule :: after)).finalFee)) ∧
    ∀ fee' ctx', fee ≤ fee' → (∀ rule ∈ rules, ruleApplies rule ctx' = ruleApplies rule ctx) →
      (applyRules fee ctx rules).finalFee ≤ (applyRules fee' ctx' rules).finalFee := by
  refine ⟨?_, ?_, ?_⟩
  · rw [applyRules_stack hstacking.policy]
    exact resolveFee_nonneg (stackRules_nonneg hfee _)
  · rintro before after rule rfl hrule
    rw [applyRules_stack hstacking.policy, applyRules_stack (hstacking.insert hrule).policy,
      filter_insert]
    split
    · rename_i happlies
      have hvalue := hrule.values rule (List.mem_singleton_self rule) happlies
      have hvalues := hstacking.matching
      rw [List.filter_append] at hvalues ⊢
      have hafter : NonnegValues (after.filter (ruleApplies · ctx)) :=
        fun x hx => hvalues x (List.mem_append_right _ hx)
      exact ⟨fun hlowers => resolveFee_mono (stackRules_insert_le hlowers hvalue hafter hfee),
        fun hraises => resolveFee_mono (le_stackRules_insert hraises hvalue hafter hfee)⟩
    · exact ⟨fun _ => le_rfl, fun _ => le_rfl⟩
  · intro fee' ctx' hle hconditions
    have hmatching : rules.filter (ruleApplies · ctx') = rules.filter (ruleApplies · ctx) :=
      List.filter_congr hconditions
    have hpolicy' : AllStack ctx' rules := fun rule hrule happlies =>
      hstacking.policy rule hrule (hconditions rule hrule ▸ happlies)
    rw [applyRules_stack hstacking.policy, applyRules_stack hpolicy', hmatching]
    exact resolveFee_mono (stackRules_mono hstacking.matching.upToWaiver hfee hle)

end Stacking

/-- A rule without conditions, under the default policy. -/
def stackRule (name : String) (type : FeeRuleType) (value : ℚ) (priority : ℚ) : FeeRule ℚ :=
  ⟨name, type, value, {}, some priority, none⟩

/-- A voucher of 50 put between a penalty of a tenth and a discount of a fifth. -/
theorem stacked_rules_monotone_voucher :
    let late := stackRule "late" .penaltyPercentage 10 1
    let fifth := stackRule "fifth" .discountPercentage 20 3
    (applyRules 1000 feeOnly ([late] ++ stackRule "voucher" .discountFixed 50 2 :: [fifth])).finalFee ≤
      (applyRules 1000 feeOnly [late, fifth]).finalFee := by
  have hstacking : Stacking feeOnly [stackRule "late" .penaltyPercentage 10 1,
      stackRule "fifth" .discountPercentage 20 3] := ⟨by decide +kernel, by decide +kernel⟩
  have hvoucher : Stacking feeOnly [stackRule "voucher" .discountFixed 50 2] :=
    ⟨by decide +kernel, by decide +kernel⟩
  exact ((stacked_rules_monotone (by norm_num) hstacking).2.1 [_] [_] _ rfl hvoucher).1 (Or.inl rfl)

end StellarEduPay

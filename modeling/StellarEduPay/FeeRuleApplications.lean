import StellarEduPay.BestForStudent
import StellarEduPay.FeeRuleRequests

/-! # Applying fee rules again

An application writes the fees the rules give over the fees they were given for, and it evaluates all
rules of the school, whichever of them is named.  So the order of two applications does not matter,
but their number does: the second one starts from what the first one left.
-/
namespace StellarEduPay
open Checks

/-! ## The rules in force -/

section
variable {Num : Type} [LinearOrder Num] [Zero Num] [OfNat Num 100] [Add Num] [Sub Num] [Neg Num]
  [Mul Num] [Div Num]

/-- The matching rules that a policy lets through, after a discount or without one. -/
def letThrough (policy : ConflictResolutionPolicy) : Bool → List (FeeRule Num) → List (FeeRule Num)
  | _, [] => []
  | discounted, rule :: rules =>
    if policy = .bestForStudent && rule.type.isDiscount && discounted then
      letThrough policy discounted rules
    else
      rule :: if policy = .firstOnly || rule.type = .waiver then []
        else letThrough policy (discounted || rule.type.isDiscount) rules

/-- The rules whose adjustments make the fee: the first match has the policy. -/
def rulesInForce (ctx : PaymentContext Num) (rules : List (FeeRule Num)) : List (FeeRule Num) :=
  match rules.filter (ruleApplies · ctx) with
  | [] => []
  | first :: rest =>
    letThrough (first.conflictResolutionPolicy.getD .stack) false (first :: rest)

omit [Sub Num] in
/-- By induction on the rules: the loop applies what the policy lets through, under `first_only`
nothing more once something is applied. -/
theorem applyMatching_letThrough {policy : ConflictResolutionPolicy} {fee : Num}
    {applied : List (Adjustment Num)} {rules : List (FeeRule Num)} :
    (applyMatching (some policy) fee applied rules).1 =
      stackRules fee (if policy = .firstOnly && !applied.isEmpty then []
        else letThrough policy (applied.any (·.type.isDiscount)) rules) := by
  induction rules generalizing fee applied with
  | nil => simp [applyMatching, stackRules, letThrough]
  | cons rule rules ih =>
    rw [applyMatching, Option.getD_some, letThrough]
    by_cases hfirst : policy = .firstOnly && !applied.isEmpty
    · rw [if_pos hfirst, if_pos hfirst]
      rfl
    · rw [if_neg hfirst, if_neg hfirst]
      by_cases hpassed : policy = .bestForStudent && rule.type.isDiscount &&
          applied.any (·.type.isDiscount)
      · rw [if_pos hpassed, if_pos hpassed, ih, if_neg hfirst]
      · rw [if_neg hpassed, if_neg hpassed]
        by_cases hwaiver : rule.type = .waiver
        · simp [hwaiver, stackRules]
        · simp only [hwaiver, if_false, ih, decide_false, Bool.or_false, List.any_append,
            List.any_cons, List.any_nil]
          by_cases honly : policy = .firstOnly
          · simp [honly, stackRules]
          · simp [honly, stackRules]

/-- **The evaluation** applies the rules in force. -/
theorem applyRules_inForce [JsRounding Num] (fee : Num) (ctx : PaymentContext Num)
    (rules : List (FeeRule Num)) :
    (applyRules fee ctx rules).finalFee = resolveFee (stackRules fee (rulesInForce ctx rules)) := by
  unfold applyRules rulesInForce
  cases rules.filter (ruleApplies · ctx) with
  | nil => rfl
  | cons first rest =>
    have hstart : applyMatching none fee [] (first :: rest) =
        applyMatching (some (first.conflictResolutionPolicy.getD .stack)) fee [] (first :: rest) := by
      rw [applyMatching, applyMatching]
      rfl
    simp only [hstart, applyMatching_letThrough]
    simp [resolveFee]

/-! ## Applications in turn -/

variable [JsRounding Num]

/-- A run of applications of the rules with these ids. -/
def applyInTurn (collate : LocaleCompare) (schoolId : String) (cohort : Cohort)
    (paymentDate : Option Int) (store : FeeStore Num) (ids : List Nat) :
    Except FeeRuleError (FeeStore Num) :=
  ids.foldlM (fun store id => do
    let (_, store) ← applyRule collate store schoolId id cohort paymentDate
    pure store) store

/-- What one application makes of a student. -/
def applied (schoolId : String) (cohort : Cohort) (rules : List (FeeRule Num))
    (paymentDate : Option Int) (student : FeeStudent Num) : FeeStudent Num :=
  if cohort.matches schoolId student then appliedTo schoolId rules paymentDate student else student

/-- An active rule of the school. -/
def FeeStore.HasRule (store : FeeStore Num) (schoolId : String) (id : Nat) : Prop :=
  ∃ doc ∈ store.rules.docs, doc.id = id ∧ doc.schoolId = schoolId ∧ doc.isActive = true

theorem applyRule_rules {collate : LocaleCompare} {store store' : FeeStore Num} {schoolId : String}
    {id : Nat} {cohort : Cohort} {paymentDate : Option Int} {result : AppliedRule Num}
    (h : applyRule collate store schoolId id cohort paymentDate = .ok (result, store')) :
    store'.rules = store.rules := by
  obtain ⟨rule, -, h⟩ := orThrow_bind_ok_iff.mp h
  obtain ⟨-, rfl⟩ := Prod.mk.inj (pure_ok_iff.mp h)
  rfl

/-- **A run of applications** is the number of them, by induction on the run: each evaluates the same
rules. -/
theorem applyInTurn_students (collate : LocaleCompare) {schoolId : String} (cohort : Cohort)
    (paymentDate : Option Int) {store : FeeStore Num} {ids : List Nat}
    (hids : ∀ id ∈ ids, store.HasRule schoolId id) :
    let rules := fetchSortedRules collate store.rules.docs schoolId
    ∃ store', applyInTurn collate schoolId cohort paymentDate store ids = .ok store' ∧
      store'.rules = store.rules ∧ store'.students.docs =
        store.students.docs.map (applied schoolId cohort rules paymentDate)^[ids.length] := by
  induction ids generalizing store with
  | nil => exact ⟨store, rfl, rfl, List.map_id _ |>.symm⟩
  | cons id ids ih =>
    obtain ⟨⟨doc, hdoc, rfl, rfl, hactive⟩, hrest⟩ := List.forall_mem_cons.mp hids
    obtain ⟨result, store₁, happly⟩ := exists_applyRule collate hdoc hactive cohort paymentDate
    have hrules := applyRule_rules happly
    obtain ⟨store', hrun, hrules', hstudents⟩ := @ih store₁ fun id hid => by
      rw [FeeStore.HasRule, hrules]
      exact hrest id hid
    refine ⟨store', ?_, hrules'.trans hrules, ?_⟩
    · rw [applyInTurn, List.foldlM_cons, happly]
      exact hrun
    · rw [hstudents, applyRule_students happly, hrules, List.map_map, List.length_cons,
        Function.iterate_succ]
      rfl

end

/-! ## Settled fees -/

/-- What the rules together move a fee by, each of them down to zero at most. -/
def feeDrift : ℚ → List (FeeRule ℚ) → ℚ
  | _, [] => 0
  | fee, rule :: rules =>
    let moved := max (-fee) (adjustmentAmount fee rule)
    moved + feeDrift (fee + moved) rules

/-- The rules in force at the student's fee move it by less than what rounds to another cent. -/
def FeeSettled (rules : List (FeeRule ℚ)) (paymentDate : Option Int) (student : FeeStudent ℚ) : Prop :=
  let drift := feeDrift student.feeAmount (rulesInForce (feeContext student paymentDate) rules)
  drift < 1 / 200 ∧ -1 / 200 ≤ drift

instance (rules : List (FeeRule ℚ)) (paymentDate : Option Int) (student : FeeStudent ℚ) :
    Decidable (FeeSettled rules paymentDate student) :=
  inferInstanceAs (Decidable (_ ∧ _))

section
variable {rules : List (FeeRule ℚ)} {paymentDate : Option Int} {student : FeeStudent ℚ}
  {schoolId : String} {fee : ℚ}

theorem stackRules_eq_add_drift (fee : ℚ) (rules : List (FeeRule ℚ)) :
    stackRules fee rules = fee + feeDrift fee rules := by
  induction rules generalizing fee with
  | nil => simp [stackRules, feeDrift]
  | cons rule rules ih =>
    have hmoved : max 0 (fee + adjustmentAmount fee rule) =
        fee + max (-fee) (adjustmentAmount fee rule) := by
      rw [← max_add_add_left, add_neg_cancel]
    rw [feeDrift, ← add_assoc, ← ih, ← hmoved]
    rfl

/-- A fee in cents rounds to itself from half a cent below it on. -/
theorem resolveFee_eq_iff (cents : ℤ) (drift : ℚ) :
    resolveFee ((cents : ℚ) / 100 + drift) = cents / 100 ↔ drift < 1 / 200 ∧ -1 / 200 ≤ drift := by
  have hscaled : resolveFee ((cents : ℚ) / 100 + drift) =
      (⌊((cents : ℚ) / 100 + drift) * 100 + 1 / 2⌋ : ℚ) / 100 := rfl
  rw [hscaled, div_left_inj' (by norm_num), Int.cast_inj, Int.floor_eq_iff]
  constructor
  · rintro ⟨hlow, hhigh⟩
    constructor <;> linarith
  · rintro ⟨hhigh, hlow⟩
    constructor <;> linarith

/-- After an application a student's fee is in cents. -/
theorem appliedTo_cents (hschool : student.schoolId = schoolId) :
    ∃ cents : ℤ, (appliedTo schoolId rules paymentDate student).feeAmount = cents / 100 := by
  rw [appliedTo_feeAmount hschool, applyRules_inForce]
  exact ⟨_, rfl⟩

/-- A fee in cents is one the rules leave exactly when it is settled. -/
theorem appliedTo_eq_self_iff (hschool : student.schoolId = schoolId) {cents : ℤ}
    (hcents : student.feeAmount = cents / 100) :
    appliedTo schoolId rules paymentDate student = student ↔ FeeSettled rules paymentDate student := by
  have hsettled : (applyRules student.feeAmount (feeContext student paymentDate) rules).finalFee =
      student.feeAmount ↔ FeeSettled rules paymentDate student := by
    rw [applyRules_inForce, stackRules_eq_add_drift, FeeSettled, hcents]
    exact resolveFee_eq_iff cents _
  rw [← hsettled]
  constructor
  · intro hsame
    rw [← appliedTo_feeAmount hschool, hsame]
  · intro hsame
    rw [appliedTo, feeUpdate, if_pos hsame]
    rfl

/-- Once applied, the rules leave a student as they are exactly when the fee is settled, or when the
cohort leaves the student out. -/
theorem applied_eq_self_iff {cohort : Cohort} {students : List (FeeStudent ℚ)}
    (hmem : student ∈ students.map (applied schoolId cohort rules paymentDate)) :
    applied schoolId cohort rules paymentDate student = student ↔
      (cohort.matches schoolId student = true → FeeSettled rules paymentDate student) := by
  by_cases hmatch : cohort.matches schoolId student = true
  · rw [forall_prop_of_true hmatch]
    obtain ⟨before, -, rfl⟩ := List.mem_map.mp hmem
    rw [applied, if_pos hmatch]
    rw [applied] at hmatch ⊢
    by_cases hbefore : cohort.matches schoolId before
    · rw [if_pos hbefore] at hmatch ⊢
      obtain ⟨cents, hcents⟩ := appliedTo_cents (school_of_matches hbefore)
      exact appliedTo_eq_self_iff (school_of_matches hmatch) hcents
    · rw [if_neg hbefore] at hmatch
      exact absurd hmatch hbefore
  · simp [applied, hmatch]

end

/-- A school with one rule for everybody, and a student who owes 1000 and has paid a part of it. -/
def oneRuleStore (type : FeeRuleType) (value totalPaid : ℚ) : FeeStore ℚ where
  rules := ⟨[⟨1, "s1", ⟨"Scholarship", type, value, {}, some 10, some .stack⟩, true, none⟩],
    List.nodup_singleton _⟩
  students := ⟨[⟨1, "s1", "ST1", "A", "JSS1", none, 1000, some totalPaid, some (1000 - totalPaid),
    totalPaid = 1000, none⟩], List.nodup_singleton _⟩

theorem oneRuleStore_hasRule (type : FeeRuleType) (value totalPaid : ℚ) :
    (oneRuleStore type value totalPaid).HasRule "s1" 1 :=
  ⟨_, List.mem_singleton_self _, rfl, rfl, rfl⟩

/-- What `updateStudentBalance` leaves of a student: what remains of the fee, and whether it is paid. -/
structure CoherentBalance (student : FeeStudent ℚ) : Prop where
  remaining : student.remainingBalance =
    some (max 0 (student.feeAmount - student.totalPaid.getD 0))
  paid : student.feePaid = true ↔ student.feeAmount ≤ student.totalPaid.getD 0

theorem coherentBalance_iff (student : FeeStudent ℚ) : CoherentBalance student ↔
    student.remainingBalance = some (max 0 (student.feeAmount - student.totalPaid.getD 0)) ∧
      (student.feePaid = true ↔ student.feeAmount ≤ student.totalPaid.getD 0) :=
  ⟨fun h => ⟨h.remaining, h.paid⟩, fun h => ⟨h.1, h.2⟩⟩

instance (student : FeeStudent ℚ) : Decidable (CoherentBalance student) :=
  decidable_of_iff _ (coherentBalance_iff student).symm

/-- A paid fee is not raised above what was paid, and an unpaid one is not brought down to nothing. -/
def KeepsPaid (student : FeeStudent ℚ) (newFee : ℚ) : Prop :=
  let totalPaid := student.totalPaid.getD 0
  (student.feeAmount ≤ totalPaid → newFee ≤ totalPaid) ∧
    (totalPaid < student.feeAmount → newFee ≤ totalPaid → 0 < newFee)

instance (student : FeeStudent ℚ) (newFee : ℚ) : Decidable (KeepsPaid student newFee) :=
  inferInstanceAs (Decidable ((_ → _) ∧ (_ → _ → _)))

section
variable {rules : List (FeeRule ℚ)} {paymentDate : Option Int} {student : FeeStudent ℚ}
  {schoolId : String}

/-- **The update of one student**: the remaining balance is recomputed, and whether the fee is paid
only where it is above zero and nothing remains of it. -/
theorem appliedTo_coherent_iff (hschool : student.schoolId = schoolId)
    (hcoherent : CoherentBalance student) :
    CoherentBalance (appliedTo schoolId rules paymentDate student) ↔
      KeepsPaid student
        (applyRules student.feeAmount (feeContext student paymentDate) rules).finalFee := by
  unfold appliedTo feeUpdate KeepsPaid
  generalize (applyRules student.feeAmount (feeContext student paymentDate) rules).finalFee = newFee
  generalize htotal : student.totalPaid.getD 0 = totalPaid
  have hpaid := hcoherent.paid
  rw [htotal] at hpaid
  by_cases hsame : newFee = student.feeAmount
  · subst hsame
    rw [if_pos rfl]
    refine iff_of_true hcoherent ⟨id, fun hlt hle => absurd hle (not_le.mpr hlt)⟩
  rw [if_neg hsame, Option.elim_some, FeeUpdate.apply, if_pos hschool, coherentBalance_iff]
  simp only [htotal, true_and]
  rcases lt_or_ge totalPaid newFee with hmore | hless
  · -- something remains, and the old mark stays
    have hremains : ¬ max 0 (newFee - totalPaid) = 0 := by
      rw [max_eq_right (by linarith)]
      linarith
    have hnot : ¬ newFee ≤ totalPaid := not_le.mpr hmore
    rw [if_neg fun h => hremains h.1, hpaid]
    simp [hnot]
  · have hnothing : max 0 (newFee - totalPaid) = 0 := max_eq_left (by linarith)
    by_cases hpositive : 0 < newFee
    · rw [if_pos ⟨hnothing, hpositive⟩]
      simp [hless, hpositive]
    · -- the old mark stays at a fee of nothing, too
      rw [if_neg fun h => hpositive h.2, hpaid]
      simp [hless, hpositive]

end

end StellarEduPay

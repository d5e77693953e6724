import StellarEduPay.Checks
import StellarEduPay.Collection
import StellarEduPay.FeeAdjustments

/-! # The requests on fee rules (`feeAdjustmentController`)

A rule is created, previewed on a cohort of students without being stored, and applied to a cohort.
The preview builds its rule from the body of the request and sorts it in with the stored ones; the
application reads the stored rules only and writes the fees that differ.

The school of a request is the one its session is for.  The date a fee is calculated for is the one
the request names, or its own time.
-/
namespace StellarEduPay
open Checks

/-! ## Names -/

def FeeRuleType.text : FeeRuleType → String
  | .discountPercentage => "discount_percentage"
  | .discountFixed => "discount_fixed"
  | .penaltyPercentage => "penalty_percentage"
  | .penaltyFixed => "penalty_fixed"
  | .waiver => "waiver"

def ConflictResolutionPolicy.text : ConflictResolutionPolicy → String
  | .stack => "stack"
  | .firstOnly => "first_only"
  | .bestForStudent => "best_for_student"

/-- `VALID_TYPES`. -/
def validTypes : List FeeRuleType :=
  [.discountPercentage, .discountFixed, .penaltyPercentage, .penaltyFixed, .waiver]

/-- `VALID_POLICIES`. -/
def validPolicies : List ConflictResolutionPolicy := [.stack, .firstOnly, .bestForStudent]

def FeeRuleType.ofText (text : String) : Option FeeRuleType := validTypes.find? (·.text = text)

def ConflictResolutionPolicy.ofText (text : String) : Option ConflictResolutionPolicy :=
  validPolicies.find? (·.text = text)

/-! ## Bodies and errors -/

/-- The body of a rule, with conditions of the model's types.  A field is `none` where it is absent;
so are a name that is no string, and a value or a priority that is `null`. -/
structure RuleBody (Num : Type) where
  name : Option String
  type : Option String
  value : Option Num
  conditions : Option (RuleConditions Num)
  priority : Option Num
  conflictResolutionPolicy : Option String
  description : Option String
  deriving DecidableEq, Repr

inductive FeeRuleErrorCode
  | validationError
  | duplicateRule
  | notFound
  deriving DecidableEq, Repr

structure FeeRuleError where
  code : FeeRuleErrorCode
  status : Nat
  message : String
  deriving DecidableEq, Repr

def validationFailed (message : String) : FeeRuleError := ⟨.validationError, 400, message⟩

/-! ## The store -/

/-- The unique index `{ schoolId, name }`. -/
def FeeRuleDoc.key {Num : Type} (doc : FeeRuleDoc Num) : String × String :=
  (doc.schoolId, doc.rule.name)

structure FeeStore (Num : Type) where
  rules : Collection (FeeRuleDoc Num) (String × String) FeeRuleDoc.key
  students : Collection (FeeStudent Num) Nat FeeStudent.id

/-- The cohort filters of a request. -/
structure Cohort where
  studentClass : Option String
  academicYear : Option String
  deriving DecidableEq, Repr

/-- The `studentFilter` of a request. -/
def Cohort.matches {Num : Type} (cohort : Cohort) (schoolId : String)
    (student : FeeStudent Num) : Bool :=
  student.schoolId = schoolId && student.deletedAt.isNone &&
    (truthy cohort.studentClass).all (student.className = ·) &&
    (truthy cohort.academicYear).all (student.academicYear = some ·)

theorem school_of_matches {Num : Type} {cohort : Cohort} {schoolId : String} {student : FeeStudent Num}
    (h : cohort.matches schoolId student = true) : student.schoolId = schoolId := by
  simp only [Cohort.matches, Bool.and_eq_true, decide_eq_true_eq] at h
  exact h.1.1.1

def FeeStore.findStudents {Num : Type} (store : FeeStore Num) (schoolId : String)
    (cohort : Cohort) : List (FeeStudent Num) :=
  store.students.docs.filter (cohort.matches schoolId)

/-- The context of a student's own fee. -/
def feeContext {Num : Type} (student : FeeStudent Num) (paymentDate : Option Int) : PaymentContext Num :=
  ⟨student, student.academicYear, paymentDate, student.feeAmount⟩

/-! ## Creating a rule -/

section
variable {Num : Type} [LinearOrder Num] [Zero Num] [OfNat Num 10]

/-- `validateBody`, and the rule of the fields it lets through, with the defaults of `createRule`. -/
def validateBody (body : RuleBody Num) : Except FeeRuleError (FeeRule Num) := do
  let name ← orThrow (body.name.filter (jsTrim · ≠ "")) (validationFailed "name is required")
  let type ← orThrow (body.type.bind FeeRuleType.ofText) (validationFailed
    ("type must be one of: " ++ ", ".intercalate (validTypes.map (·.text))))
  let value ← orThrow (body.value.filter (0 ≤ ·))
    (validationFailed "value must be a non-negative number")
  let policy := body.conflictResolutionPolicy.bind ConflictResolutionPolicy.ofText
  require (body.conflictResolutionPolicy.isNone || policy.isSome) (validationFailed
    ("conflictResolutionPolicy must be one of: " ++
      ", ".intercalate (validPolicies.map (·.text))))
  pure { name := jsTrim name
         type := type
         value := value
         conditions := body.conditions.getD {}
         priority := some (body.priority.getD 10)
         conflictResolutionPolicy := some (policy.getD .stack) }

/-- `createRule`, where the store gives the document its id. -/
def createRule (store : FeeStore Num) (schoolId : String) (id : Nat) (body : RuleBody Num) :
    Except FeeRuleError (FeeRuleDoc Num × FeeStore Num) := do
  let rule ← validateBody body
  let doc : FeeRuleDoc Num := ⟨id, schoolId, rule, true, body.description⟩
  let rules ← orThrow (store.rules.insert doc) ⟨.duplicateRule, 409,
    "A rule named \"" ++ body.name.getD "" ++ "\" already exists for this school"⟩
  pure (doc, { store with rules := rules })

/-- **A created rule** is the one its body describes, and all that is new. -/
theorem createRule_ok {store store' : FeeStore Num} {schoolId : String} {id : Nat}
    {body : RuleBody Num} {doc : FeeRuleDoc Num}
    (h : createRule store schoolId id body = .ok (doc, store')) :
    ∃ rule, validateBody body = .ok rule ∧ doc = ⟨id, schoolId, rule, true, body.description⟩ ∧
      store.rules.insert doc = some store'.rules ∧ store'.students = store.students := by
  obtain ⟨rule, hrule, h⟩ := bind_ok_iff.mp h
  obtain ⟨rules, hinsert, h⟩ := orThrow_bind_ok_iff.mp h
  obtain ⟨rfl, rfl⟩ := Prod.mk.inj (pure_ok_iff.mp h)
  exact ⟨rule, hrule, rfl, hinsert, rfl⟩

end

/-! ## Writing fees -/

section
variable {Num : Type}

/-- An operation of the `bulkWrite`. -/
structure FeeUpdate (Num : Type) where
  id : Nat
  feeAmount : Num
  remainingBalance : Num
  feePaid : Bool
  deriving DecidableEq, Repr

/-- The update of a student of the school. -/
def FeeUpdate.apply (schoolId : String) (update : FeeUpdate Num) (student : FeeStudent Num) :
    FeeStudent Num :=
  if student.schoolId = schoolId then
    { student with
      feeAmount := update.feeAmount
      remainingBalance := some update.remainingBalance
      feePaid := update.feePaid }
  else student

theorem FeeUpdate.apply_id (schoolId : String) (update : FeeUpdate Num) (student : FeeStudent Num) :
    (update.apply schoolId student).id = student.id := by
  unfold FeeUpdate.apply
  split <;> rfl

/-- The updates, written a thousand at a time. -/
def writeUpdates (schoolId : String) (students : Collection (FeeStudent Num) Nat FeeStudent.id)
    (bulkOps : List (FeeUpdate Num)) : Collection (FeeStudent Num) Nat FeeStudent.id :=
  (slices 1000 bulkOps).foldl (fun students chunk =>
    students.modifyAll chunk (·.id) (FeeUpdate.apply schoolId) (FeeUpdate.apply_id schoolId)) students

theorem writeUpdates_eq (schoolId : String) (bulkOps : List (FeeUpdate Num))
    (students : Collection (FeeStudent Num) Nat FeeStudent.id) :
    writeUpdates schoolId students bulkOps =
      students.modifyAll bulkOps (·.id) (FeeUpdate.apply schoolId) (FeeUpdate.apply_id schoolId) := by
  conv_rhs => rw [← flatten_slices (n := 1000) (by decide) bulkOps]
  exact (List.foldl_flatten ..).symm

end

/-! ## The application -/

section
variable {Num : Type} [LinearOrder Num] [Zero Num] [OfNat Num 100] [Add Num] [Sub Num] [Neg Num]
  [Mul Num] [Div Num] [JsRounding Num]

/-- What an application writes of a student; nothing where the fee stays. -/
def feeUpdate (rules : List (FeeRule Num)) (paymentDate : Option Int) (student : FeeStudent Num) :
    Option (FeeUpdate Num) :=
  let newFee := (applyRules student.feeAmount (feeContext student paymentDate) rules).finalFee
  let totalPaid := student.totalPaid.getD 0
  let newRemainingBalance := max 0 (newFee - totalPaid)
  if newFee = student.feeAmount then none
  else some {
    id := student.id
    feeAmount := newFee
    remainingBalance := newRemainingBalance
    feePaid := if newRemainingBalance = 0 ∧ 0 < newFee then newFee ≤ totalPaid
      else student.feePaid }

/-- An entry of the `overpayments` of an application. -/
structure FeeOverpayment (Num : Type) where
  studentId : String
  name : String
  previousFee : Num
  newFee : Num
  amountPaid : Num
  creditAmount : Num
  deriving DecidableEq, Repr

def feeOverpayment (student : FeeStudent Num) (update : FeeUpdate Num) :
    Option (FeeOverpayment Num) :=
  let amountPaid := student.totalPaid.getD 0
  if update.feeAmount < amountPaid then
    some ⟨student.studentId, student.name, student.feeAmount, update.feeAmount, amountPaid,
      JsRounding.toFixed2 (amountPaid - update.feeAmount)⟩
  else none

structure AppliedRule (Num : Type) where
  ruleId : Nat
  ruleName : String
  studentsProcessed : Nat
  studentsUpdated : Nat
  studentsSkipped : Nat
  overpayments : List (FeeOverpayment Num)
  deriving DecidableEq, Repr

/-- `applyRule`, whose updates are one transaction. -/
def applyRule (collate : LocaleCompare) (store : FeeStore Num) (schoolId : String) (id : Nat)
    (cohort : Cohort) (paymentDate : Option Int) :
    Except FeeRuleError (AppliedRule Num × FeeStore Num) := do
  let rule ← orThrow
    (store.rules.findOne fun doc => doc.id = id && doc.schoolId = schoolId && doc.isActive)
    ⟨.notFound, 404, "Fee adjustment rule not found or inactive"⟩
  let students := store.findStudents schoolId cohort
  let activeRules := fetchSortedRules collate store.rules.docs schoolId
  let update := feeUpdate activeRules paymentDate
  let bulkOps := students.filterMap update
  pure ({ ruleId := rule.id
          ruleName := rule.rule.name
          studentsProcessed := students.length
          studentsUpdated := bulkOps.length
          studentsSkipped := students.length - bulkOps.length
          overpayments := students.filterMap fun student =>
            (update student).bind (feeOverpayment student) },
        { store with students := writeUpdates schoolId store.students bulkOps })

/-- An active rule of the school can be applied. -/
theorem exists_applyRule (collate : LocaleCompare) {store : FeeStore Num} {doc : FeeRuleDoc Num}
    (hdoc : doc ∈ store.rules.docs) (hactive : doc.isActive = true) (cohort : Cohort)
    (paymentDate : Option Int) : ∃ result store',
      applyRule collate store doc.schoolId doc.id cohort paymentDate = .ok (result, store') := by
  have hfound : (store.rules.findOne fun old =>
      old.id = doc.id && old.schoolId = doc.schoolId && old.isActive).isSome :=
    List.find?_isSome.mpr ⟨doc, hdoc, by simp [hactive]⟩
  obtain ⟨rule, hrule⟩ := Option.isSome_iff_exists.mp hfound
  exact ⟨_, _, orThrow_bind_ok_iff.mpr ⟨rule, hrule, rfl⟩⟩

/-- A student of the school after an application. -/
def appliedTo (schoolId : String) (rules : List (FeeRule Num)) (paymentDate : Option Int)
    (student : FeeStudent Num) : FeeStudent Num :=
  (feeUpdate rules paymentDate student).elim student (·.apply schoolId student)

/-- **The fee an application leaves** is the one the rules give, whether it was written or was there
already. -/
theorem appliedTo_feeAmount {schoolId : String} {rules : List (FeeRule Num)}
    {paymentDate : Option Int} {student : FeeStudent Num} (hschool : student.schoolId = schoolId) :
    (appliedTo schoolId rules paymentDate student).feeAmount =
      (applyRules student.feeAmount (feeContext student paymentDate) rules).finalFee := by
  unfold appliedTo
  by_cases hsame : (applyRules student.feeAmount (feeContext student paymentDate) rules).finalFee =
      student.feeAmount
  · simp [feeUpdate, hsame]
  · simp [feeUpdate, hsame, FeeUpdate.apply, hschool]

/-- Besides the fee and what hangs on it a student stays as it is. -/
theorem appliedTo_eq (schoolId : String) (rules : List (FeeRule Num)) (paymentDate : Option Int)
    (student : FeeStudent Num) : ∃ feeAmount remainingBalance feePaid,
      appliedTo schoolId rules paymentDate student =
        { student with feeAmount, remainingBalance, feePaid } := by
  unfold appliedTo
  cases feeUpdate rules paymentDate student with
  | none => exact ⟨_, _, _, rfl⟩
  | some update =>
    by_cases hschool : student.schoolId = schoolId
    · exact ⟨_, _, _, by rw [Option.elim_some, FeeUpdate.apply, if_pos hschool]⟩
    · exact ⟨_, _, _, by rw [Option.elim_some, FeeUpdate.apply, if_neg hschool]⟩

theorem appliedTo_studentId {schoolId : String} {rules : List (FeeRule Num)}
    {paymentDate : Option Int} {student : FeeStudent Num} :
    (appliedTo schoolId rules paymentDate student).studentId = student.studentId := by
  obtain ⟨feeAmount, remainingBalance, feePaid, h⟩ := appliedTo_eq schoolId rules paymentDate student
  rw [h]

/-- A student stays in its cohorts. -/
theorem matches_appliedTo {cohort : Cohort} {schoolId : String} {rules : List (FeeRule Num)}
    {paymentDate : Option Int} {student : FeeStudent Num} :
    cohort.matches schoolId (appliedTo schoolId rules paymentDate student) =
      cohort.matches schoolId student := by
  obtain ⟨feeAmount, remainingBalance, feePaid, h⟩ := appliedTo_eq schoolId rules paymentDate student
  rw [h]
  rfl

theorem feeUpdate_id {rules : List (FeeRule Num)} {paymentDate : Option Int}
    {student : FeeStudent Num} {update : FeeUpdate Num}
    (h : feeUpdate rules paymentDate student = some update) : update.id = student.id := by
  simp only [feeUpdate] at h
  split at h
  · cases h
  · cases h
    rfl

/-- **What an application does**: every student of the cohort gets the fee the stored rules give, and
the others are as they were. -/
theorem applyRule_students {collate : LocaleCompare} {store store' : FeeStore Num}
    {schoolId : String} {id : Nat} {cohort : Cohort} {paymentDate : Option Int}
    {result : AppliedRule Num}
    (h : applyRule collate store schoolId id cohort paymentDate = .ok (result, store')) :
    store'.students.docs = store.students.docs.map fun student =>
      if cohort.matches schoolId student then
        appliedTo schoolId (fetchSortedRules collate store.rules.docs schoolId) paymentDate student
      else student := by
  obtain ⟨rule, -, h⟩ := orThrow_bind_ok_iff.mp h
  obtain ⟨-, rfl⟩ := Prod.mk.inj (pure_ok_iff.mp h)
  rw [writeUpdates_eq]
  exact store.students.modifyAll_filterMap _ feeUpdate_id

/-- The cohort after an application. -/
theorem applyRule_findStudents {collate : LocaleCompare} {store store' : FeeStore Num}
    {schoolId : String} {id : Nat} {cohort : Cohort} {paymentDate : Option Int}
    {result : AppliedRule Num}
    (h : applyRule collate store schoolId id cohort paymentDate = .ok (result, store')) :
    store'.findStudents schoolId cohort = (store.findStudents schoolId cohort).map
      (appliedTo schoolId (fetchSortedRules collate store.rules.docs schoolId) paymentDate) := by
  unfold FeeStore.findStudents
  rw [applyRule_students h]
  induction store.students.docs with
  | nil => rfl
  | cons student students ih =>
    by_cases hmatch : cohort.matches schoolId student
    · simp [hmatch, matches_appliedTo, ih]
    · simp [hmatch, ih]

/-! ## The preview -/

variable [OfNat Num 10]

/-- The `syntheticRule` of a preview.  A policy without a meaning leaves the rules stacked. -/
def syntheticRule (body : RuleBody Num) (type : FeeRuleType) (value : Num) : FeeRule Num where
  name := (truthy body.name).getD dryRunPreviewName
  type := type
  value := value
  conditions := body.conditions.getD {}
  priority := some (body.priority.getD 10)
  conflictResolutionPolicy :=
    some ((body.conflictResolutionPolicy.bind ConflictResolutionPolicy.ofText).getD .stack)

structure FeePreview (Num : Type) where
  studentId : String
  name : String
  className : String
  currentFee : Num
  projectedFee : Num
  delta : Num
  adjustmentsApplied : List (Adjustment Num)
  ruleWouldApply : Bool
  overpaymentRisk : Bool
  deriving DecidableEq, Repr

structure FeeSummary (Num : Type) where
  totalStudents : Nat
  affectedStudents : Nat
  unaffectedStudents : Nat
  totalSavings : Num
  totalSurcharges : Num
  overpaymentRisks : Nat
  deriving DecidableEq, Repr

structure DryRun (Num : Type) where
  rule : FeeRule Num
  summary : FeeSummary Num
  previews : List (FeePreview Num)
  deriving DecidableEq, Repr

def previewStudent (collate : LocaleCompare) (existingRules : List (FeeRule Num))
    (extraRule : FeeRule Num) (paymentDate : Option Int) (student : FeeStudent Num) :
    FeePreview Num :=
  let ctx := feeContext student paymentDate
  let existing := applyRules student.feeAmount ctx existingRules
  let (withNew, ruleApplied) :=
    simulateWithExtraWithRules collate student.feeAmount ctx extraRule existingRules
  { studentId := student.studentId
    name := student.name
    className := student.className
    currentFee := existing.finalFee
    projectedFee := withNew.finalFee
    delta := withNew.finalFee - existing.finalFee
    adjustmentsApplied := withNew.adjustmentsApplied
    ruleWouldApply := ruleApplied
    overpaymentRisk := student.totalPaid.any (withNew.finalFee < ·) }

def feeSummary (previews : List (FeePreview Num)) : FeeSummary Num :=
  let deltas := (previews.map (·.delta)).filter (· ≠ 0)
  { totalStudents := previews.length
    affectedStudents := deltas.length
    unaffectedStudents := previews.length - deltas.length
    totalSavings := JsRounding.toFixed2
      ((deltas.filter (· < 0)).foldl (fun total delta => total + jsAbs delta) 0)
    totalSurcharges := JsRounding.toFixed2
      ((deltas.filter (0 ≤ ·)).foldl (· + ·) 0)
    overpaymentRisks := previews.countP (·.overpaymentRisk) }

/-- `dryRunRule`. -/
def dryRunRule (collate : LocaleCompare) (store : FeeStore Num) (schoolId : String)
    (body : Option (RuleBody Num)) (cohort : Cohort) (paymentDate : Option Int) :
    Except FeeRuleError (DryRun Num) := do
  let required := validationFailed "rule with type and value is required for dry-run"
  let body ← orThrow body required
  let text ← orThrow (truthy body.type) required
  let value ← orThrow body.value required
  let type ← orThrow (FeeRuleType.ofText text) (validationFailed
    ("rule.type must be one of: " ++ ", ".intercalate (validTypes.map (·.text))))
  let extraRule := syntheticRule body type value
  let existingRules := fetchSortedRules collate store.rules.docs schoolId
  let previews := (store.findStudents schoolId cohort).map
    (previewStudent collate existingRules extraRule paymentDate)
  pure ⟨extraRule, feeSummary previews, previews⟩

end
end StellarEduPay

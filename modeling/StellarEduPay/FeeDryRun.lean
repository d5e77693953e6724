import StellarEduPay.FeeRuleRequests

/-! # The preview tells the fees

A preview evaluates a rule that is not stored; the application that follows its creation evaluates
what the store has.  Both evaluate the same rules in the same order: the preview's rule is the one
that would be created, and as names are unique in a school the order has no ties.
-/
namespace StellarEduPay
open Checks

/-- The rules of a school have distinct names. -/
theorem nodup_ruleNames {Num : Type} (schoolId : String)
    (rules : Collection (FeeRuleDoc Num) (String × String) FeeRuleDoc.key) :
    (((rules.docs.filter fun doc => doc.isActive && doc.schoolId = schoolId).map (·.rule)).map
      (·.name)).Nodup := by
  rw [List.map_map]
  refine List.pairwise_map.mpr (List.pairwise_filter.mpr ?_)
  refine (List.pairwise_map.mp rules.nodup).imp fun hkey ha hb hname => hkey ?_
  simp only [Bool.and_eq_true, decide_eq_true_eq] at ha hb
  exact Prod.ext (ha.2.trans hb.2.symm) hname

section
variable {Num : Type} [LinearOrder Num] [Zero Num] [OfNat Num 10] {store store' : FeeStore Num}
  {schoolId : String} {id : Nat} {body : RuleBody Num} {doc : FeeRuleDoc Num}

/-- **The rule of a preview** is the one that would be stored, if its name has no blanks to trim. -/
theorem syntheticRule_of_validateBody {rule : FeeRule Num} (hname : body.name.map jsTrim = body.name)
    (h : validateBody body = .ok rule) :
    ∃ text type value, truthy body.type = some text ∧ FeeRuleType.ofText text = some type ∧
      body.value = some value ∧ syntheticRule body type value = rule := by
  simp only [validateBody, orThrow_bind_ok_iff, require_bind_ok_iff, pure_ok_iff] at h
  obtain ⟨name, hfilter, type, htype, value, hvalue, -, rfl⟩ := h
  obtain ⟨hbody, hfilled⟩ := Option.filter_eq_some_iff.mp hfilter
  obtain ⟨text, htext, htype⟩ := Option.bind_eq_some_iff.mp htype
  have htrim : jsTrim name = name := by simpa [hbody] using hname
  have hnonempty : text ≠ "" := by
    rintro rfl
    revert htype
    cases type <;> decide
  refine ⟨text, type, value, ?_, htype, (Option.filter_eq_some_iff.mp hvalue).1, ?_⟩
  · rw [htext, truthy_of_ne hnonempty]
  · have hfilled : name ≠ "" := by simpa [htrim] using hfilled
    simp [syntheticRule, hbody, truthy_of_ne hfilled, htrim]

/-- **One order of evaluation**: with its rule stored a school has the rules of the preview, in the
preview's order. -/
theorem fetchSortedRules_created {collate : LocaleCompare} (hseparates : collate.Separates)
    (h : createRule store schoolId id body = .ok (doc, store')) :
    fetchSortedRules collate store'.rules.docs schoolId =
      sortRules collate (fetchSortedRules collate store.rules.docs schoolId ++ [doc.rule]) := by
  obtain ⟨rule, -, rfl, hinsert, -⟩ := createRule_ok h
  have hnames := nodup_ruleNames schoolId store'.rules
  rw [store.rules.insert_docs hinsert] at hnames
  rw [fetchSortedRules, store.rules.insert_docs hinsert, fetchSortedRules]
  simp only [List.filter_append, List.map_append, List.filter_cons, List.filter_nil, Bool.true_and,
    decide_true, if_true, List.map_cons, List.map_nil] at hnames ⊢
  refine (sortRules_extra hseparates ?_).symm
  simpa using hnames

end

section
variable {Num : Type} [LinearOrder Num] [Zero Num] [OfNat Num 10] [OfNat Num 100] [Add Num]
  [Sub Num] [Neg Num] [Mul Num] [Div Num] [JsRounding Num] {store store' : FeeStore Num}
  {schoolId : String} {id : Nat} {body : RuleBody Num} {doc : FeeRuleDoc Num}

/-- **The preview tells the fees**: what it projects for a cohort is what the cohort is charged once
the rule is created and applied to it. -/
theorem dryRun_projects_applied_fees {collate : LocaleCompare} (hseparates : collate.Separates)
    (hname : body.name.map jsTrim = body.name)
    (hcreated : createRule store schoolId id body = .ok (doc, store'))
    (cohort : Cohort) (paymentDate : Option Int) :
    ∃ preview result store'',
      dryRunRule collate store schoolId (some body) cohort paymentDate = .ok preview ∧
      applyRule collate store' schoolId doc.id cohort paymentDate = .ok (result, store'') ∧
      preview.previews.map (fun p => (p.studentId, p.projectedFee)) =
        (store''.findStudents schoolId cohort).map (fun s => (s.studentId, s.feeAmount)) := by
  obtain ⟨rule, hrule, rfl, hinsert, hstudents⟩ := createRule_ok hcreated
  obtain ⟨text, type, value, htext, htype, hvalue, hextra⟩ :=
    syntheticRule_of_validateBody hname hrule
  have hrules := fetchSortedRules_created hseparates hcreated
  have hdoc : (⟨id, schoolId, rule, true, body.description⟩ : FeeRuleDoc Num) ∈ store'.rules.docs := by
    rw [store.rules.insert_docs hinsert]
    exact List.mem_append_right _ (List.mem_singleton_self _)
  obtain ⟨result, store'', happlied⟩ := exists_applyRule collate hdoc rfl cohort paymentDate
  refine ⟨_, result, store'', orThrow_bind_ok_iff.mpr ⟨body, rfl, orThrow_bind_ok_iff.mpr ⟨text,
    htext, orThrow_bind_ok_iff.mpr ⟨value, hvalue, orThrow_bind_ok_iff.mpr ⟨type, htype, rfl⟩⟩⟩⟩,
    happlied, ?_⟩
  have hcohort : store'.findStudents schoolId cohort = store.findStudents schoolId cohort := by
    rw [FeeStore.findStudents, hstudents, FeeStore.findStudents]
  rw [applyRule_findStudents happlied, hcohort, hrules, hextra, List.map_map, List.map_map]
  refine List.map_congr_left fun student hstudent => ?_
  have hschool : student.schoolId = schoolId := school_of_matches (List.mem_filter.mp hstudent).2
  refine Prod.ext appliedTo_studentId.symm ?_
  exact (appliedTo_feeAmount hschool).symm

end

/-! ## Two rules of one priority -/

/-- A school with a penalty for everybody, and a student in each of two classes. -/
def penaltyStore : FeeStore ℚ where
  rules := ⟨[⟨1, "s1", ⟨"Late Penalty", .penaltyFixed, 500, {}, some 10, some .stack⟩, true, none⟩],
    by decide⟩
  students := ⟨[
    ⟨1, "s1", "ST1", "A", "JSS1", none, 1000, some 0, none, false, none⟩,
    ⟨2, "s1", "ST2", "B", "JSS2", none, 2000, some 0, none, false, none⟩], by decide⟩

/-- A tenth less for one of the classes. -/
def earlyBird : RuleBody ℚ where
  name := some "Early Bird"
  type := some "discount_percentage"
  value := some 10
  conditions := some { studentClass := ["JSS1"] }
  priority := none
  conflictResolutionPolicy := none
  description := none

/-- The discount comes before the penalty, by name, in the preview and in the application. -/
theorem dryRun_projects_early_bird : ∃ doc store' preview result store'',
    createRule penaltyStore "s1" 2 earlyBird = .ok (doc, store') ∧
    dryRunRule codePointOrder penaltyStore "s1" (some earlyBird) ⟨none, none⟩ (some 0) = .ok preview ∧
    applyRule codePointOrder store' "s1" doc.id ⟨none, none⟩ (some 0) = .ok (result, store'') ∧
    (store''.findStudents "s1" ⟨none, none⟩).map (fun s => (s.studentId, s.feeAmount)) =
      [("ST1", 1400), ("ST2", 2500)] := by
  have hfees : (dryRunRule codePointOrder penaltyStore "s1" (some earlyBird) ⟨none, none⟩
      (some 0)).toOption.map (·.previews.map fun p => (p.studentId, p.projectedFee)) =
        some [("ST1", 1400), ("ST2", 2500)] := by decide +kernel
  have hcreated : (createRule penaltyStore "s1" 2 earlyBird).isOk := by decide +kernel
  cases hcreate : createRule penaltyStore "s1" 2 earlyBird with
  | error e => simp [hcreate, Except.isOk, Except.toBool] at hcreated
  | ok created =>
    obtain ⟨preview, result, store'', hpreview, happlied, hsame⟩ := dryRun_projects_applied_fees
      codePointOrder_separates (by decide +kernel) hcreate ⟨none, none⟩ (some 0)
    refine ⟨created.1, created.2, preview, result, store'', rfl, hpreview, happlied, ?_⟩
    rw [hpreview] at hfees
    exact hsame.symm.trans (Option.some.inj hfees)

end StellarEduPay

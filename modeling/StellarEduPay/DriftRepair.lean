import StellarEduPay.StudentBalance

/-! # Scheduled repairs of student balances

`checkStudentBalanceConsistency` (`services/consistencyService.js`) and the correction in
`reconcileAll` (`services/reconciliationService.js`) recompute the balance of a student on
their own and overwrite the stored one where it drifted.  They count suspicious payments,
which `updateStudentBalance` does not, and each looks at some of the three figures only.

Amounts are exact, so the tolerance of `10⁻⁷` is one stroop.
-/
namespace StellarEduPay

/-! ## What the repairs compute -/

/-- The `$match` of both repairs. -/
def repairMatch (schoolId studentId : String) (p : Payment) : Bool :=
  p.schoolId == schoolId && p.studentId == studentId && p.status == .success && p.live

/-- `computedTotal` -/
def repairTotal (db : Db) (student : Student) : Int :=
  ((db.payments.docs.filter (repairMatch student.schoolId student.studentId)).map
    Payment.amount).sum + student.creditAdjustments

/-- The three figures of a total. -/
def figuresOf (feeAmount total : Int) : Balance :=
  ⟨total, max 0 (feeAmount - total), decide (feeAmount ≤ total)⟩

/-- The figures both repairs write. -/
def repairBalance (db : Db) (student : Student) : Balance :=
  figuresOf student.feeAmount (repairTotal db student)

def writeBalance (balance : Balance) (student : Student) : Student :=
  { student with
    totalPaid := balance.totalPaid
    remainingBalance := some balance.remainingBalance
    feePaid := balance.feePaid }

theorem writeBalance_key (balance : Balance) (student : Student) :
    (writeBalance balance student).key = student.key := rfl

/-- Two amounts are more than the tolerance apart. -/
def Drifted (computed stored : Int) : Prop := 1 < (computed - stored).natAbs

instance (computed stored : Int) : Decidable (Drifted computed stored) :=
  inferInstanceAs (Decidable (1 < (computed - stored).natAbs))

/-! ## The two repairs -/

/-- An entry of the report of `checkStudentBalanceConsistency`. -/
structure BalanceMismatch where
  type : String
  schoolId : String
  studentId : String
  storedTotal : Int
  computedTotal : Int
  storedRemaining : Int
  computedRemaining : Int
  diff : Int
  message : String
  deriving DecidableEq, Repr

def balanceMismatch (student : Student) (computed : Balance) : BalanceMismatch where
  type := "student_balance_drift"
  schoolId := student.schoolId
  studentId := student.studentId
  storedTotal := student.totalPaid
  computedTotal := computed.totalPaid
  storedRemaining := student.remainingBalance.getD 0
  computedRemaining := computed.remainingBalance
  diff := computed.totalPaid - student.totalPaid
  message := "Student " ++ student.studentId ++ " balance drift detected and repaired"

/-- The drift the consistency check looks for. -/
def BalanceDrifted (db : Db) (student : Student) : Prop :=
  Drifted (repairBalance db student).totalPaid student.totalPaid ∨
    Drifted (repairBalance db student).remainingBalance (student.remainingBalance.getD 0)

instance (db : Db) (student : Student) : Decidable (BalanceDrifted db student) :=
  inferInstanceAs (Decidable (Drifted _ _ ∨ Drifted _ _))

/-- The write of a repair. -/
def repairStudent (db : Db) (student : Student) : Db :=
  { db with
    students := db.students.modify student.key (writeBalance (repairBalance db student))
      (writeBalance_key _) }

/-- The body of the loop of `checkStudentBalanceConsistency`. -/
def checkStudent (report : List BalanceMismatch × Db) (student : Student) :
    List BalanceMismatch × Db :=
  if BalanceDrifted report.2 student then
    (report.1 ++ [balanceMismatch student (repairBalance report.2 student)],
      repairStudent report.2 student)
  else report

/-- Compare the balances of a school with its payments, and overwrite those that drifted. -/
def checkStudentBalanceConsistency (db : Db) (schoolId : String) : List BalanceMismatch × Db :=
  (db.students.docs.filter fun s => s.schoolId == schoolId && s.live).foldl checkStudent ([], db)

/-- The drift the reconciliation looks for. -/
def TotalDrifted (db : Db) (student : Student) : Prop :=
  Drifted (repairBalance db student).totalPaid student.totalPaid

instance (db : Db) (student : Student) : Decidable (TotalDrifted db student) :=
  inferInstanceAs (Decidable (Drifted _ _))

/-- The correction of one student in `reconcileAll`, and whether there was something to fix. -/
def reconcileStudent (db : Db) (student : Student) : Bool × Db :=
  if TotalDrifted db student then (true, repairStudent db student) else (false, db)

/-! ## The writers of a student's balance -/

inductive BalanceWriter
  | check
  | reconcile
  | update
  deriving DecidableEq, Repr

/-- The store after a writer has handled a student; the consistency check handles the others
of the school with it. -/
def BalanceWriter.run (schoolId studentId : String) (db : Db) : BalanceWriter → Db
  | .check => (checkStudentBalanceConsistency db schoolId).2
  | .reconcile =>
    match db.findStudent schoolId studentId with
    | none => db
    | some student => (reconcileStudent db student).2
  | .update => (updateStudentBalance db schoolId studentId).2

/-- What a writer makes of the student it handles. -/
def BalanceWriter.apply (db : Db) (student : Student) : BalanceWriter → Student
  | .check =>
    if BalanceDrifted db student then writeBalance (repairBalance db student) student else student
  | .reconcile =>
    if TotalDrifted db student then writeBalance (repairBalance db student) student else student
  | .update => withBalance db student

section Loop
variable {db : Db} {report : List BalanceMismatch × Db} {student s : Student}

theorem repairTotal_congr {db' : Db} (h : db'.payments = db.payments) (s : Student) :
    repairTotal db' s = repairTotal db s := by
  rw [repairTotal, repairTotal, h]

theorem balanceDrifted_congr {db' : Db} (h : db'.payments = db.payments) (s : Student) :
    BalanceDrifted db' s ↔ BalanceDrifted db s := by
  rw [BalanceDrifted, BalanceDrifted, repairBalance, repairBalance, repairTotal_congr h]

theorem checkStudent_payments (report : List BalanceMismatch × Db) (student : Student) :
    (checkStudent report student).2.payments = report.2.payments := by
  unfold checkStudent
  split
  · rfl
  · rfl

theorem checkStudent_loop_payments (students : List Student) (report : List BalanceMismatch × Db) :
    (students.foldl checkStudent report).2.payments = report.2.payments := by
  induction students generalizing report with
  | nil => rfl
  | cons student students ih => exact (ih _).trans (checkStudent_payments report student)

/-- A repair of one student leaves the others alone. -/
theorem checkStudent_other (hs : s ∈ report.2.students.docs) (hne : s.key ≠ student.key) :
    s ∈ (checkStudent report student).2.students.docs := by
  unfold checkStudent
  split
  · exact (report.2.students.mem_modify (writeBalance_key _)).mpr ⟨s, hs, if_neg hne⟩
  · exact hs

theorem checkStudent_self (hs : s ∈ report.2.students.docs) :
    BalanceWriter.apply report.2 s .check ∈ (checkStudent report s).2.students.docs := by
  rw [BalanceWriter.apply, checkStudent]
  split
  · exact (report.2.students.mem_modify (writeBalance_key _)).mpr ⟨s, hs, if_pos rfl⟩
  · exact hs

theorem checkStudent_loop_other {students : List Student} (hs : s ∈ report.2.students.docs)
    (hother : ∀ x ∈ students, s.key ≠ x.key) :
    s ∈ (students.foldl checkStudent report).2.students.docs := by
  induction students generalizing report with
  | nil => exact hs
  | cons student students ih =>
    exact ih (checkStudent_other hs (hother student List.mem_cons_self))
      fun x hx => hother x (List.mem_cons_of_mem _ hx)

/-- **Each student is handled once.** -/
theorem checkStudent_loop_self {students : List Student} (hkeys : (students.map Student.key).Nodup)
    (hs : s ∈ students) (hstored : s ∈ report.2.students.docs) :
    BalanceWriter.apply report.2 s .check ∈
      (students.foldl checkStudent report).2.students.docs := by
  induction students generalizing report with
  | nil => cases hs
  | cons student students ih =>
    obtain ⟨hnew, hkeys⟩ := List.nodup_cons.mp hkeys
    rw [List.foldl_cons]
    rcases List.mem_cons.mp hs with rfl | hs
    · refine checkStudent_loop_other (checkStudent_self hstored) fun x hx hk => hnew ?_
      have hkey : (BalanceWriter.apply report.2 s .check).key = s.key := by
        rw [BalanceWriter.apply]
        split
        · rfl
        · rfl
      exact List.mem_map.mpr ⟨x, hx, hk.symm.trans hkey⟩
    · have hne : s.key ≠ student.key := fun hk => hnew (hk ▸ List.mem_map_of_mem hs)
      have hlater := ih hkeys hs (checkStudent_other hstored hne)
      have hsame : BalanceWriter.apply (checkStudent report student).2 s .check =
          BalanceWriter.apply report.2 s .check := by
        have hpayments := checkStudent_payments report student
        simp only [BalanceWriter.apply, balanceDrifted_congr hpayments, repairBalance,
          repairTotal_congr hpayments]
      rwa [hsame] at hlater

/-- A student without drift is not in the report. -/
theorem checkStudent_loop_report {students : List Student} {studentId : String}
    (hquiet : ∀ x ∈ students, x.studentId = studentId → ¬BalanceDrifted report.2 x)
    (hreport : ∀ m ∈ report.1, m.studentId ≠ studentId) :
    ∀ m ∈ (students.foldl checkStudent report).1, m.studentId ≠ studentId := by
  induction students generalizing report with
  | nil => exact hreport
  | cons student students ih =>
    have hpayments := checkStudent_payments report student
    refine ih (fun x hx hid => ?_) ?_
    · rw [balanceDrifted_congr hpayments]
      exact hquiet x (List.mem_cons_of_mem _ hx) hid
    · unfold checkStudent
      split
      · rename_i hdrift
        intro m hm
        rcases List.mem_append.mp hm with hm | hm
        · exact hreport m hm
        · obtain rfl := List.mem_singleton.mp hm
          exact fun hid => hquiet student List.mem_cons_self hid hdrift
      · exact hreport

end Loop

/-! ## What a writer leaves of its student -/

section Writers
variable {db : Db} {schoolId studentId : String} {s : Student}

theorem BalanceWriter.apply_key (db : Db) (s : Student) (writer : BalanceWriter) :
    (writer.apply db s).key = s.key ∧ (writer.apply db s).live = s.live := by
  cases writer with
  | check =>
    rw [BalanceWriter.apply]
    split
    · exact ⟨rfl, rfl⟩
    · exact ⟨rfl, rfl⟩
  | reconcile =>
    rw [BalanceWriter.apply]
    split
    · exact ⟨rfl, rfl⟩
    · exact ⟨rfl, rfl⟩
  | update => exact ⟨rfl, rfl⟩

theorem BalanceWriter.run_payments (schoolId studentId : String) (db : Db) (writer : BalanceWriter) :
    (writer.run schoolId studentId db).payments = db.payments := by
  cases writer with
  | check => exact checkStudent_loop_payments _ _
  | reconcile =>
    rw [BalanceWriter.run]
    split
    · rfl
    · rw [reconcileStudent]
      split
      · rfl
      · rfl
  | update => exact updateStudentBalance_payments db schoolId studentId

/-- **What a writer leaves of its student.** -/
theorem BalanceWriter.run_student (h : db.findStudent schoolId studentId = some s)
    (writer : BalanceWriter) :
    (writer.run schoolId studentId db).findStudent schoolId studentId = some (writer.apply db s) := by
  have hmem := Db.findStudent_mem h
  obtain ⟨hlive, hschool, hstudent⟩ := Db.findStudent_sat h
  have hfound : writer.apply db s ∈ (writer.run schoolId studentId db).students.docs := by
    cases writer with
    | check =>
      refine checkStudent_loop_self (db.students.nodup.sublist (List.filter_sublist.map _)) ?_ hmem
      exact List.mem_filter.mpr ⟨hmem, by simp [hschool, hlive]⟩
    | reconcile =>
      simp only [BalanceWriter.run, h, BalanceWriter.apply, reconcileStudent]
      split
      · exact (db.students.mem_modify (writeBalance_key _)).mpr ⟨s, hmem, if_pos rfl⟩
      · exact hmem
    | update => exact Db.findStudent_mem (findStudent_withBalance h)
  obtain ⟨hkey, hkept⟩ := writer.apply_key db s
  rw [Student.key, Student.key, Prod.mk.injEq] at hkey
  have := Db.findStudent_of_mem hfound (hkept.trans hlive)
  rwa [hkey.1, hkey.2, hschool, hstudent] at this

/-- Writers one after the other. -/
def runWriters (schoolId studentId : String) (writers : List BalanceWriter) (db : Db) : Db :=
  writers.foldl (BalanceWriter.run schoolId studentId) db

/-- The three figures of a student are those of a balance, up to the tolerance. -/
structure AgreesWith (s : Student) (balance : Balance) : Prop where
  totalPaid : ¬Drifted balance.totalPaid s.totalPaid
  remainingBalance : ∃ remaining, s.remainingBalance = some remaining ∧
    ¬Drifted balance.remainingBalance remaining
  feePaid : s.feePaid = balance.feePaid

/-- **The repairs agree with the canonical writer**: after any of the three, or any sequence of
them, the student has the figures `updateStudentBalance` would write, and after
`updateStudentBalance` neither repair finds a drift. -/
structure RepairsAgree (db : Db) (schoolId studentId : String) : Prop where
  figures : ∀ writers, writers ≠ [] →
    ∃ s, (runWriters schoolId studentId writers db).findStudent schoolId studentId = some s ∧
      AgreesWith s (balanceOf (runWriters schoolId studentId writers db) s)
  unreported : ∀ m ∈ (checkStudentBalanceConsistency
    (updateStudentBalance db schoolId studentId).2 schoolId).1, m.studentId ≠ studentId
  unfixed : ∀ s, (updateStudentBalance db schoolId studentId).2.findStudent schoolId studentId =
    some s → (reconcileStudent (updateStudentBalance db schoolId studentId).2 s).1 = false

/-- What the repairs count of a student and `updateStudentBalance` does not. -/
def suspiciousTotal (db : Db) (s : Student) : Int :=
  ((db.payments.docs.filter fun p => repairMatch s.schoolId s.studentId p && p.isSuspicious).map
    Payment.amount).sum

/-- When the repairs agree with the canonical writer. -/
structure RepairsSafe (db : Db) (s : Student) : Prop where
  suspicious : (suspiciousTotal db s).natAbs ≤ 1
  fee : BalanceDrifted db s → (s.feeAmount ≤ canonicalTotal db s + suspiciousTotal db s ↔
    s.feeAmount ≤ canonicalTotal db s)
  stored : ¬TotalDrifted db s → AgreesWith s (balanceOf db s)

theorem repairTotal_eq (db : Db) (s : Student) :
    repairTotal db s = canonicalTotal db s + suspiciousTotal db s := by
  have hsplit : ∀ l : List Payment,
      ((l.filter (repairMatch s.schoolId s.studentId)).map Payment.amount).sum =
        ((l.filter (canonicalPaidMatch s.schoolId s.studentId none)).map Payment.amount).sum +
          ((l.filter fun p => repairMatch s.schoolId s.studentId p && p.isSuspicious).map
            Payment.amount).sum := by
    intro l
    induction l with
    | nil => rfl
    | cons p l ih =>
      have hcanonical : canonicalPaidMatch s.schoolId s.studentId none p =
          (repairMatch s.schoolId s.studentId p && !p.isSuspicious) := by
        simp only [canonicalPaidMatch, repairMatch, Bool.and_true]
        ac_rfl
      rw [List.filter_cons, List.filter_cons, List.filter_cons, hcanonical]
      cases repairMatch s.schoolId s.studentId p with
      | false => simpa using ih
      | true =>
        cases p.isSuspicious with
        | false =>
          simp only [Bool.not_false, Bool.and_self, Bool.and_false, Bool.false_eq_true, if_true,
            if_false, List.map_cons, List.sum_cons]
          omega
        | true =>
          simp only [Bool.not_true, Bool.and_self, Bool.and_false, Bool.false_eq_true, if_true,
            if_false, List.map_cons, List.sum_cons]
          omega
  rw [repairTotal, canonicalTotal, sumCanonicalPayments, suspiciousTotal, hsplit]
  omega

theorem balanceOf_eq (db : Db) (s : Student) :
    balanceOf db s = figuresOf s.feeAmount (canonicalTotal db s) := rfl

theorem repairBalance_eq (db : Db) (s : Student) :
    repairBalance db s = figuresOf s.feeAmount (canonicalTotal db s + suspiciousTotal db s) := by
  rw [repairBalance, repairTotal_eq]

/-- What a writer leaves of the student that its balance is computed from. -/
structure SameAccount (s s' : Student) : Prop where
  school : s'.schoolId = s.schoolId
  student : s'.studentId = s.studentId
  fee : s'.feeAmount = s.feeAmount
  credit : s'.creditAdjustments = s.creditAdjustments

theorem BalanceWriter.apply_account (db : Db) (s : Student) (writer : BalanceWriter) :
    SameAccount s (writer.apply db s) := by
  cases writer with
  | check =>
    rw [BalanceWriter.apply]
    split
    · exact ⟨rfl, rfl, rfl, rfl⟩
    · exact ⟨rfl, rfl, rfl, rfl⟩
  | reconcile =>
    rw [BalanceWriter.apply]
    split
    · exact ⟨rfl, rfl, rfl, rfl⟩
    · exact ⟨rfl, rfl, rfl, rfl⟩
  | update => exact ⟨rfl, rfl, rfl, rfl⟩

section Account
variable {db' : Db} {s' : Student} (hpayments : db'.payments = db.payments) (h : SameAccount s s')
include hpayments h

theorem SameAccount.canonicalTotal_eq : canonicalTotal db' s' = canonicalTotal db s := by
  simp only [canonicalTotal, sumCanonicalPayments, hpayments, h.school, h.student, h.credit]

theorem SameAccount.suspiciousTotal_eq : suspiciousTotal db' s' = suspiciousTotal db s := by
  simp only [suspiciousTotal, hpayments, h.school, h.student]

theorem SameAccount.balanceOf_eq : balanceOf db' s' = balanceOf db s := by
  rw [StellarEduPay.balanceOf_eq, StellarEduPay.balanceOf_eq, h.canonicalTotal_eq hpayments, h.fee]

end Account

/-- A student whose figures are those of a total close to both the canonical one and the one the
repairs compute is safe. -/
theorem safe_of_figures {s' : Student} {total : Int} (h : SameAccount s s')
    (htotal : s'.totalPaid = total) (hremaining : s'.remainingBalance =
      some (max 0 (s.feeAmount - total))) (hpaid : s'.feePaid = decide (s.feeAmount ≤ total))
    (hsuspicious : (suspiciousTotal db s).natAbs ≤ 1)
    (hclose : total = canonicalTotal db s ∨ total = canonicalTotal db s + suspiciousTotal db s)
    (hfee : s.feeAmount ≤ total ↔ s.feeAmount ≤ canonicalTotal db s) :
    RepairsSafe db s' ∧ AgreesWith s' (balanceOf db s) := by
  have hagree : AgreesWith s' (balanceOf db s) := by
    refine ⟨?_, ⟨_, hremaining, ?_⟩, ?_⟩
    · rw [htotal]
      change ¬1 < (canonicalTotal db s - total).natAbs
      omega
    · change ¬1 < (max 0 (s.feeAmount - canonicalTotal db s) - max 0 (s.feeAmount - total)).natAbs
      omega
    · rw [hpaid]
      exact decide_eq_decide.mpr hfee
  refine ⟨⟨?_, fun hdrift => ?_, fun _ => ?_⟩, hagree⟩
  · rw [h.suspiciousTotal_eq rfl]
    exact hsuspicious
  · -- neither figure is far from what the repairs compute
    exfalso
    rw [BalanceDrifted, repairBalance_eq, h.canonicalTotal_eq rfl, h.suspiciousTotal_eq rfl, h.fee,
      htotal, hremaining] at hdrift
    rcases hdrift with hdrift | hdrift
    · change 1 < (canonicalTotal db s + suspiciousTotal db s - total).natAbs at hdrift
      omega
    · change 1 < (max 0 (s.feeAmount - (canonicalTotal db s + suspiciousTotal db s)) -
        max 0 (s.feeAmount - total)).natAbs at hdrift
      omega
  · rw [h.balanceOf_eq rfl]
    exact hagree

/-- **A writer keeps a safe student safe**, and leaves the canonical figures. -/
theorem RepairsSafe.apply (h : RepairsSafe db s) (writer : BalanceWriter) :
    RepairsSafe db (writer.apply db s) ∧ AgreesWith (writer.apply db s) (balanceOf db s) := by
  have hrepair : BalanceDrifted db s → RepairsSafe db (writeBalance (repairBalance db s) s) ∧
      AgreesWith (writeBalance (repairBalance db s) s) (balanceOf db s) := by
    intro hdrift
    rw [repairBalance_eq]
    exact safe_of_figures ⟨rfl, rfl, rfl, rfl⟩ rfl rfl rfl h.suspicious (Or.inr rfl) (h.fee hdrift)
  cases writer with
  | check =>
    rw [BalanceWriter.apply]
    split
    · rename_i hdrift
      exact hrepair hdrift
    · rename_i hquiet
      exact ⟨h, h.stored fun htotal => hquiet (Or.inl htotal)⟩
  | reconcile =>
    rw [BalanceWriter.apply]
    split
    · rename_i hdrift
      exact hrepair (Or.inl hdrift)
    · rename_i hquiet
      exact ⟨h, h.stored hquiet⟩
  | update => exact safe_of_figures ⟨rfl, rfl, rfl, rfl⟩ rfl rfl rfl h.suspicious (Or.inl rfl) Iff.rfl

/-- Being safe is about the payments and the student only. -/
theorem RepairsSafe.congr {db' : Db} (hpayments : db'.payments = db.payments)
    (h : RepairsSafe db s) : RepairsSafe db' s := by
  have haccount : SameAccount s s := ⟨rfl, rfl, rfl, rfl⟩
  have hrepair : repairBalance db' s = repairBalance db s := by
    rw [repairBalance, repairBalance, repairTotal_congr hpayments]
  refine ⟨?_, ?_, ?_⟩
  · rw [haccount.suspiciousTotal_eq hpayments]
    exact h.suspicious
  · rw [BalanceDrifted, hrepair, haccount.suspiciousTotal_eq hpayments,
      haccount.canonicalTotal_eq hpayments]
    exact h.fee
  · rw [TotalDrifted, hrepair, haccount.balanceOf_eq hpayments]
    exact h.stored

theorem RepairsSafe.run (h : RepairsSafe db s) (hs : db.findStudent schoolId studentId = some s)
    (writer : BalanceWriter) (writers : List BalanceWriter) :
    ∃ s', (runWriters schoolId studentId (writer :: writers) db).findStudent schoolId studentId =
        some s' ∧
      AgreesWith s' (balanceOf (runWriters schoolId studentId (writer :: writers) db) s') := by
  have hpayments := writer.run_payments schoolId studentId db
  have hrun := BalanceWriter.run_student hs writer
  obtain ⟨hsafe, hagree⟩ := h.apply writer
  induction writers generalizing db s writer with
  | nil =>
    refine ⟨_, hrun, ?_⟩
    have hbalance := (writer.apply_account db s).balanceOf_eq hpayments
    exact hbalance.symm ▸ hagree
  | cons next writers ih =>
    have hsafe' := hsafe.congr hpayments
    exact ih hsafe' hrun next (next.run_payments schoolId studentId _)
      (BalanceWriter.run_student hrun next) (hsafe'.apply next).1 (hsafe'.apply next).2

/-- After `updateStudentBalance` what the repairs take for drift are the suspicious payments. -/
theorem updated_drifted {db' : Db} (hpayments : db'.payments = db.payments) (s : Student) :
    (TotalDrifted db' (withBalance db s) ↔ 1 < (suspiciousTotal db s).natAbs) ∧
      (BalanceDrifted db' (withBalance db s) ↔ 1 < (suspiciousTotal db s).natAbs) := by
  have haccount : SameAccount s (withBalance db s) := ⟨rfl, rfl, rfl, rfl⟩
  have hrepair : repairBalance db' (withBalance db s) =
      figuresOf s.feeAmount (canonicalTotal db s + suspiciousTotal db s) := by
    rw [repairBalance_eq, haccount.canonicalTotal_eq hpayments,
      haccount.suspiciousTotal_eq hpayments, haccount.fee]
  have htotal : (Drifted (canonicalTotal db s + suspiciousTotal db s) (canonicalTotal db s) ↔
      1 < (suspiciousTotal db s).natAbs) := by
    unfold Drifted
    omega
  constructor
  · rw [TotalDrifted, hrepair]
    exact htotal
  · rw [BalanceDrifted, hrepair]
    refine ⟨?_, fun hdrift => Or.inl (htotal.mpr hdrift)⟩
    rintro (hdrift | hdrift)
    · exact htotal.mp hdrift
    · change 1 < (max 0 (s.feeAmount - (canonicalTotal db s + suspiciousTotal db s)) -
        max 0 (s.feeAmount - canonicalTotal db s)).natAbs at hdrift
      omega

theorem RepairsSafe.agree (h : RepairsSafe db s) (hs : db.findStudent schoolId studentId = some s) :
    RepairsAgree db schoolId studentId where
  figures writers hne := by
    cases writers with
    | nil => exact absurd rfl hne
    | cons writer writers => exact h.run hs writer writers
  unreported := by
    refine checkStudent_loop_report (fun x hx hid => ?_) (by simp)
    obtain ⟨hmem, hx⟩ := List.mem_filter.mp hx
    obtain ⟨hschool, hlive⟩ := Bool.and_eq_true_iff.mp hx
    have hfound := Db.findStudent_of_mem hmem hlive
    rw [beq_iff_eq.mp hschool, hid] at hfound
    obtain rfl := Option.some.inj (hfound.symm.trans (findStudent_withBalance hs))
    rw [(updated_drifted (updateStudentBalance_payments db schoolId studentId) s).2]
    exact Nat.not_lt.mpr h.suspicious
  unfixed x hx := by
    obtain rfl := Option.some.inj (hx.symm.trans (findStudent_withBalance hs))
    have hquiet : ¬TotalDrifted (updateStudentBalance db schoolId studentId).2 (withBalance db s) := by
      rw [(updated_drifted (updateStudentBalance_payments db schoolId studentId) s).1]
      exact Nat.not_lt.mpr h.suspicious
    rw [reconcileStudent, if_neg hquiet]

theorem RepairsAgree.first (h : RepairsAgree db schoolId studentId)
    (hs : db.findStudent schoolId studentId = some s) (writer : BalanceWriter) :
    AgreesWith (writer.apply db s) (balanceOf db s) := by
  obtain ⟨s', hs', hagree⟩ := h.figures [writer] (List.cons_ne_nil _ _)
  obtain rfl := Option.some.inj (hs'.symm.trans (BalanceWriter.run_student hs writer))
  have hpayments := writer.run_payments schoolId studentId db
  have hbalance := (writer.apply_account db s).balanceOf_eq hpayments
  exact hbalance ▸ hagree

theorem RepairsAgree.safe (h : RepairsAgree db schoolId studentId)
    (hs : db.findStudent schoolId studentId = some s) : RepairsSafe db s where
  suspicious := by
    have hfixed := h.unfixed _ (findStudent_withBalance hs)
    by_contra hlarge
    have hdrift := (updated_drifted (updateStudentBalance_payments db schoolId studentId) s).1.mpr
      (Nat.not_le.mp hlarge)
    rw [reconcileStudent, if_pos hdrift] at hfixed
    cases hfixed
  fee hdrift := by
    have hpaid := (h.first hs .check).feePaid
    rw [BalanceWriter.apply, if_pos hdrift, repairBalance_eq] at hpaid
    exact decide_eq_decide.mp hpaid
  stored hquiet := by
    have hagree := h.first hs .reconcile
    rwa [BalanceWriter.apply, if_neg hquiet] at hagree

/-- **The repairs agree with the canonical writer** for exactly the safe students. -/
theorem repairs_agree_iff (hs : db.findStudent schoolId studentId = some s) :
    RepairsAgree db schoolId studentId ↔ RepairsSafe db s :=
  ⟨fun h => h.safe hs, fun h => h.agree hs⟩

/-- The student of the sample store has no suspicious payment. -/
theorem repairs_agree_iff_paid : RepairsAgree paidDb "SCH" "STU001" := by
  refine (repairs_agree_iff (s := paidStudent) rfl).mpr ⟨by decide, fun hdrift => ?_, fun _ => ?_⟩
  · exact absurd hdrift (by decide)
  · exact ⟨by decide, ⟨0, rfl, by decide⟩, rfl⟩

/-- The sample store with a second, suspicious payment. -/
def suspiciousDb : Db := { paidDb with
  payments := ⟨[paidRow, { paidRow with txHash := "tx2", isSuspicious := true }], by decide⟩ }

/-- The suspicious payment is credited by the consistency check. -/
theorem repair_counts_suspicious :
    ¬ ∀ (db : Db) (schoolId studentId : String) (s : Student),
      db.findStudent schoolId studentId = some s → RepairsAgree db schoolId studentId := by
  intro h
  have hagree := h suspiciousDb "SCH" "STU001" paidStudent rfl
  exact absurd ((hagree.first rfl .check).totalPaid) (by decide)

end Writers
end StellarEduPay

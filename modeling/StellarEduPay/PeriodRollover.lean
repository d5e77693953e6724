import StellarEduPay.Checks
import StellarEduPay.StudentBalance

/-! # Rolling over to the next academic period (`services/academicPeriodService.js`)

A rollover closes the current period, makes the next one current, and starts every student
afresh: nothing paid, and due is the fee of the new period with what was left of the old
one.  The recomputation that follows the next payment knows nothing of that: it sums all
payments the student ever made against the fee alone.
-/
namespace StellarEduPay

/-! ## The store -/

/-- A `FeeStructure` document; the schema admits no negative fee. -/
structure FeeStructure where
  schoolId : String
  className : String
  feeAmount : Int
  isActive : Bool
  deletedAt : Option Nat
  nonneg : 0 ≤ feeAmount
  deriving DecidableEq, Repr

/-- The unique index `{ schoolId, className }`. -/
def FeeStructure.key (f : FeeStructure) : String × String := (f.schoolId, f.className)

/-- The store with what a rollover reads besides: the ids of the closed periods (`isClosed`),
the fee structures, and the class of each student. -/
structure PeriodDb where
  db : Db
  closedPeriods : List String
  feeStructures : Collection FeeStructure (String × String) FeeStructure.key
  className : String × String → String

/-- The arguments of a rollover. -/
structure RolloverRequest where
  schoolId : String
  nextPeriodId : String
  performedBy : String
  deriving DecidableEq, Repr

/-- Why a rollover was refused. -/
inductive RolloverError
  | argumentsRequired
  | noCurrentPeriod
  | nextPeriodNotFound
  | nextPeriodClosed
  | alreadyCurrent
  deriving DecidableEq, Repr

def RolloverError.code : RolloverError → String
  | .argumentsRequired | .nextPeriodClosed | .alreadyCurrent => "VALIDATION_ERROR"
  | .noCurrentPeriod | .nextPeriodNotFound => "NOT_FOUND"

def RolloverError.message : RolloverError → String
  | .argumentsRequired => "schoolId, nextPeriodId and performedBy are required"
  | .noCurrentPeriod => "No current academic period found for this school"
  | .nextPeriodNotFound => "Target academic period not found"
  | .nextPeriodClosed => "Target period is already closed and cannot be made current"
  | .alreadyCurrent => "Target period is already the current period"

namespace PeriodDb
variable (store : PeriodDb)

/-- `AcademicPeriod.findOne({ schoolId, isCurrent: true })` -/
def currentPeriod (schoolId : String) : Option AcademicPeriod :=
  store.db.academicPeriods.find? fun p => p.schoolId == schoolId && p.isCurrent

/-- `AcademicPeriod.findOne({ _id, schoolId })` -/
def findPeriod (schoolId periodId : String) : Option AcademicPeriod :=
  store.db.academicPeriods.find? fun p => p.id == periodId && p.schoolId == schoolId

/-- The second read of the pre-flight checks, against the current period read first. -/
def checkNext (req : RolloverRequest) (current : AcademicPeriod) :
    Except RolloverError AcademicPeriod :=
  match store.findPeriod req.schoolId req.nextPeriodId with
  | none => .error .nextPeriodNotFound
  | some next =>
    if next.id ∈ store.closedPeriods then .error .nextPeriodClosed
    else if next.id = current.id then .error .alreadyCurrent
    else .ok next

/-- The pre-flight checks, made before the transaction. -/
def preflight (req : RolloverRequest) : Except RolloverError (AcademicPeriod × AcademicPeriod) :=
  if req.schoolId = "" ∨ req.nextPeriodId = "" ∨ req.performedBy = "" then
    .error .argumentsRequired
  else match store.currentPeriod req.schoolId with
  | none => .error .noCurrentPeriod
  | some current => (store.checkNext req current).map fun next => (current, next)

/-! ## What a student starts the new period with -/

/-- The row of a student in a period. -/
def periodFee (schoolId studentId periodId : String) : Option StudentPeriodFee :=
  store.db.studentPeriodFees.findOne fun f =>
    f.schoolId == schoolId && f.studentId == studentId && f.periodId == periodId

/-- What is left of the closing period: of the student's row, or of the student document where
there is none. -/
def arrears (closing : AcademicPeriod) (student : Student) : Int :=
  match store.periodFee student.schoolId student.studentId closing.id with
  | some row => max 0 (row.feeAmount + row.carriedArrears - row.totalPaid)
  | none =>
    match student.remainingBalance with
    | some remaining => max 0 remaining
    | none => 0

/-- `feeByClass.get(student.class) ?? student.feeAmount` -/
def newFeeAmount (student : Student) : Int :=
  match store.feeStructures.findOne fun f => f.schoolId == student.schoolId &&
      f.className == store.className student.key && f.isActive && f.deletedAt.isNone with
  | some f => f.feeAmount
  | none => student.feeAmount

/-- The students a rollover starts afresh. -/
def studentsOf (schoolId : String) : List Student :=
  store.db.students.docs.filter fun s => s.schoolId == schoolId && s.live

end PeriodDb

/-- The fields a rollover sets on the row of the new period. -/
def openRow (fee arrears : Int) (row : StudentPeriodFee) : StudentPeriodFee :=
  { row with
    feeAmount := fee
    carriedArrears := arrears
    totalPaid := 0
    remainingBalance := some (fee + arrears)
    feePaid := decide (fee + arrears ≤ 0) }

/-- The row a student gets who has none in the new period. -/
def newRow (student : Student) (periodId : String) (fee arrears : Int) : StudentPeriodFee :=
  openRow fee arrears
    { schoolId := student.schoolId
      studentId := student.studentId
      periodId := periodId
      feeAmount := fee
      carriedArrears := arrears
      creditAdjustments := 0
      totalPaid := 0
      remainingBalance := none
      feePaid := false }

theorem openRow_key (fee arrears : Int) (row : StudentPeriodFee) :
    (openRow fee arrears row).key = row.key := rfl

/-- The fields a rollover sets on the student. -/
def openStudent (fee arrears : Int) (student : Student) : Student :=
  { student with
    feeAmount := fee
    totalPaid := 0
    remainingBalance := some (fee + arrears)
    feePaid := decide (fee + arrears ≤ 0) }

theorem openStudent_key (fee arrears : Int) (student : Student) :
    (openStudent fee arrears student).key = student.key := rfl

namespace PeriodDb
variable (store : PeriodDb)

/-- The writes for one student; fee and arrears were read at the start of the transaction. -/
def rolloverStudent (closing next : AcademicPeriod) (db : Db) (student : Student) : Db :=
  let arrears := store.arrears closing student
  let fee := store.newFeeAmount student
  { db with
    studentPeriodFees := db.studentPeriodFees.upsert (newRow student next.id fee arrears)
      (openRow fee arrears) (openRow_key fee arrears)
    students := db.students.modify student.key (openStudent fee arrears)
      (openStudent_key fee arrears) }

/-- `isCurrent` moves from the closing period to the next. -/
def movePeriods (closing next : AcademicPeriod) (p : AcademicPeriod) : AcademicPeriod :=
  if p.id = next.id then { p with isCurrent := true }
  else if p.id = closing.id then { p with isCurrent := false }
  else p

/-- The two updates of the period documents. -/
def rolloverPeriods (closing next : AcademicPeriod) : PeriodDb :=
  { store with
    db := { store.db with academicPeriods := store.db.academicPeriods.map (movePeriods closing next) }
    closedPeriods := closing.id :: store.closedPeriods }

/-- The transaction of a rollover. -/
def rolloverTransaction (closing next : AcademicPeriod) (schoolId : String) : PeriodDb :=
  let moved := store.rolloverPeriods closing next
  { moved with
    db := (store.studentsOf schoolId).foldl (store.rolloverStudent closing next) moved.db }

/-- Close the current period and open the next. -/
def rolloverToNextPeriod (req : RolloverRequest) : Except RolloverError PeriodDb :=
  match store.preflight req with
  | .error e => .error e
  | .ok (current, next) => .ok (store.rolloverTransaction current next req.schoolId)

end PeriodDb

/-! ## What a rollover leaves behind -/

section Rollover
variable {store : PeriodDb} {closing next : AcademicPeriod} {req : RolloverRequest}

theorem checkNext_ok {current : AcademicPeriod} (h : store.checkNext req current = .ok next) :
    store.findPeriod req.schoolId req.nextPeriodId = some next ∧
      next.id ∉ store.closedPeriods ∧ next.id ≠ current.id := by
  unfold PeriodDb.checkNext at h
  split at h
  · cases h
  rename_i target htarget
  split at h
  · cases h
  rename_i hopen
  split at h
  · cases h
  rename_i hne
  cases h
  exact ⟨htarget, hopen, hne⟩

theorem preflight_ok (h : store.preflight req = .ok (closing, next)) :
    store.currentPeriod req.schoolId = some closing ∧
      store.findPeriod req.schoolId req.nextPeriodId = some next ∧
      next.id ∉ store.closedPeriods ∧ next.id ≠ closing.id := by
  unfold PeriodDb.preflight at h
  split at h
  · cases h
  split at h
  · cases h
  rename_i current hcurrent
  obtain ⟨target, htarget, hpair⟩ := Checks.map_ok_iff.mp h
  cases hpair
  exact ⟨hcurrent, checkNext_ok htarget⟩

theorem rolloverToNextPeriod_ok {store' : PeriodDb} (h : store.rolloverToNextPeriod req = .ok store') :
    ∃ closing next, store.preflight req = .ok (closing, next) ∧
      store' = store.rolloverTransaction closing next req.schoolId := by
  unfold PeriodDb.rolloverToNextPeriod at h
  split at h
  · cases h
  · rename_i current target hpre
    exact ⟨current, target, hpre, (Except.ok.inj h).symm⟩

/-- The period documents of a school are well formed: ids are unique, and at most one of the
school's periods is current. -/
structure OnePeriod (store : PeriodDb) (schoolId : String) : Prop where
  ids : (store.db.academicPeriods.map AcademicPeriod.id).Nodup
  current : ∀ p ∈ store.db.academicPeriods, ∀ q ∈ store.db.academicPeriods,
    p.schoolId = schoolId → q.schoolId = schoolId → p.isCurrent = true → q.isCurrent = true →
    p.id = q.id

theorem currentPeriod_sat {schoolId : String} {p : AcademicPeriod}
    (h : store.currentPeriod schoolId = some p) :
    p ∈ store.db.academicPeriods ∧ p.schoolId = schoolId ∧ p.isCurrent = true := by
  have hsat := List.find?_some h
  simp only [Bool.and_eq_true, beq_iff_eq] at hsat
  exact ⟨List.mem_of_find?_eq_some h, hsat⟩

theorem findPeriod_sat {schoolId periodId : String} {p : AcademicPeriod}
    (h : store.findPeriod schoolId periodId = some p) :
    p ∈ store.db.academicPeriods ∧ p.id = periodId ∧ p.schoolId = schoolId := by
  have hsat := List.find?_some h
  simp only [Bool.and_eq_true, beq_iff_eq] at hsat
  exact ⟨List.mem_of_find?_eq_some h, hsat⟩

@[simp] theorem movePeriods_id (closing next p : AcademicPeriod) :
    (PeriodDb.movePeriods closing next p).id = p.id := by
  unfold PeriodDb.movePeriods
  split
  · rfl
  · split
    · rfl
    · rfl

@[simp] theorem movePeriods_schoolId (closing next p : AcademicPeriod) :
    (PeriodDb.movePeriods closing next p).schoolId = p.schoolId := by
  unfold PeriodDb.movePeriods
  split
  · rfl
  · split
    · rfl
    · rfl

/-- After the two updates the next period is the one found as current. -/
theorem currentPeriod_moved (hone : OnePeriod store req.schoolId)
    (hpre : store.preflight req = .ok (closing, next)) :
    (store.db.academicPeriods.map (PeriodDb.movePeriods closing next)).find?
        (fun p => p.schoolId == req.schoolId && p.isCurrent) =
      some { next with isCurrent := true } := by
  obtain ⟨hcurrent, hnext, -, hne⟩ := preflight_ok hpre
  obtain ⟨hclosing, hclosingSchool, hclosingCurrent⟩ := currentPeriod_sat hcurrent
  obtain ⟨hnextMem, -, hnextSchool⟩ := findPeriod_sat hnext
  have hmoved : PeriodDb.movePeriods closing next next = { next with isCurrent := true } := by
    simp [PeriodDb.movePeriods]
  cases hfound : (store.db.academicPeriods.map (PeriodDb.movePeriods closing next)).find?
      (fun p => p.schoolId == req.schoolId && p.isCurrent) with
  | none =>
    have hno := List.find?_eq_none.mp hfound _ (List.mem_map_of_mem hnextMem)
    simp [hmoved, hnextSchool] at hno
  | some p' =>
    obtain ⟨p, hp, rfl⟩ := List.mem_map.mp (List.mem_of_find?_eq_some hfound)
    have hsat := List.find?_some hfound
    simp only [Bool.and_eq_true, beq_iff_eq, movePeriods_schoolId] at hsat
    have hid : p.id = next.id := by
      by_contra hpn
      by_cases hpc : p.id = closing.id
      · have hoff := hsat.2
        rw [PeriodDb.movePeriods, if_neg hpn, if_pos hpc] at hoff
        cases hoff
      · have hon := hsat.2
        rw [PeriodDb.movePeriods, if_neg hpn, if_neg hpc] at hon
        exact hpc (hone.current p hp closing hclosing hsat.1 hclosingSchool hon hclosingCurrent)
    have hsame : p = next := List.inj_on_of_nodup_map hone.ids hp hnextMem hid
    rw [hsame, hmoved]

/-- A rollover keeps the periods of its school well formed. -/
theorem onePeriod_moved (hone : OnePeriod store req.schoolId)
    (hpre : store.preflight req = .ok (closing, next)) :
    OnePeriod (store.rolloverPeriods closing next) req.schoolId := by
  obtain ⟨hcurrent, hnext, -, -⟩ := preflight_ok hpre
  obtain ⟨hclosing, hclosingSchool, hclosingCurrent⟩ := currentPeriod_sat hcurrent
  have hids : (store.db.academicPeriods.map (PeriodDb.movePeriods closing next)).map
      AcademicPeriod.id = store.db.academicPeriods.map AcademicPeriod.id := by
    rw [List.map_map]
    exact List.map_congr_left fun p _ => movePeriods_id closing next p
  have honly : ∀ p ∈ store.db.academicPeriods, p.schoolId = req.schoolId →
      (PeriodDb.movePeriods closing next p).isCurrent = true → p.id = next.id := by
    intro p hp hschool hon
    by_contra hpn
    by_cases hpc : p.id = closing.id
    · rw [PeriodDb.movePeriods, if_neg hpn, if_pos hpc] at hon
      cases hon
    · rw [PeriodDb.movePeriods, if_neg hpn, if_neg hpc] at hon
      exact hpc (hone.current p hp closing hclosing hschool hclosingSchool hon hclosingCurrent)
  constructor
  · exact hids.symm ▸ hone.ids
  · intro p' hp' q' hq' hp'School hq'School hp'On hq'On
    obtain ⟨p, hp, rfl⟩ := List.mem_map.mp hp'
    obtain ⟨q, hq, rfl⟩ := List.mem_map.mp hq'
    rw [movePeriods_schoolId] at hp'School hq'School
    rw [movePeriods_id, movePeriods_id, honly p hp hp'School hp'On, honly q hq hq'School hq'On]

/-! ### The writes for one student, and for the others -/

theorem row_owner {r : StudentPeriodFee} {s : Student} {periodId : String}
    (h : r.key = (s.schoolId, s.studentId, periodId)) : (r.schoolId, r.studentId) = s.key := by
  rw [StudentPeriodFee.key, Prod.mk.injEq, Prod.mk.injEq] at h
  exact Prod.ext h.1 h.2.1

theorem rolloverStudent_students {db : Db} {student x : Student} (hstudent : student ∈ db.students.docs) :
    x ∈ (store.rolloverStudent closing next db student).students.docs ↔
      x = openStudent (store.newFeeAmount student) (store.arrears closing student) student ∨
        (x ∈ db.students.docs ∧ x.key ≠ student.key) :=
  db.students.mem_modify_key (openStudent_key _ _) hstudent

theorem rolloverStudent_students_of_ne {db : Db} {student x : Student} (hx : x ∈ db.students.docs)
    (hne : x.key ≠ student.key) :
    x ∈ (store.rolloverStudent closing next db student).students.docs :=
  (db.students.mem_modify (openStudent_key _ _)).mpr ⟨x, hx, if_neg hne⟩

theorem rolloverStudent_rows {db : Db} {student : Student} {r : StudentPeriodFee}
    (hkey : r.key ≠ (student.schoolId, student.studentId, next.id)) :
    r ∈ (store.rolloverStudent closing next db student).studentPeriodFees.docs ↔
      r ∈ db.studentPeriodFees.docs := by
  refine db.studentPeriodFees.mem_upsert.trans ⟨?_, fun h => Or.inr (Or.inr ⟨h, hkey⟩)⟩
  rintro (⟨rfl, -⟩ | ⟨x, -, hx, rfl⟩ | ⟨hr, -⟩)
  · exact absurd rfl hkey
  · exact absurd hx hkey
  · exact hr

/-- The row of the student in the new period: the stored one opened again, or a new one. -/
theorem rolloverStudent_row (store : PeriodDb) (closing next : AcademicPeriod) (db : Db)
    (student : Student) :
    (∃ r ∈ db.studentPeriodFees.docs, r.key = (student.schoolId, student.studentId, next.id) ∧
        openRow (store.newFeeAmount student) (store.arrears closing student) r ∈
          (store.rolloverStudent closing next db student).studentPeriodFees.docs) ∨
      ((∀ r ∈ db.studentPeriodFees.docs, r.key ≠ (student.schoolId, student.studentId, next.id)) ∧
        newRow student next.id (store.newFeeAmount student) (store.arrears closing student) ∈
          (store.rolloverStudent closing next db student).studentPeriodFees.docs) := by
  by_cases hrow : ∃ r ∈ db.studentPeriodFees.docs,
      r.key = (student.schoolId, student.studentId, next.id)
  · obtain ⟨r, hr, hkey⟩ := hrow
    exact Or.inl ⟨r, hr, hkey, db.studentPeriodFees.mem_upsert.mpr (Or.inr (Or.inl
      ⟨r, hr, hkey, rfl⟩))⟩
  · have hfresh : ∀ r ∈ db.studentPeriodFees.docs,
        r.key ≠ (student.schoolId, student.studentId, next.id) := fun r hr hkey => hrow ⟨r, hr, hkey⟩
    exact Or.inr ⟨hfresh, db.studentPeriodFees.mem_upsert.mpr (Or.inl ⟨rfl, hfresh⟩)⟩

/-- What the writes for all the students leave alone. -/
theorem rollover_fold_frame (store : PeriodDb) (closing next : AcademicPeriod)
    (students : List Student) (db : Db) :
    (students.foldl (store.rolloverStudent closing next) db).payments = db.payments ∧
      (students.foldl (store.rolloverStudent closing next) db).academicPeriods =
        db.academicPeriods := by
  induction students generalizing db with
  | nil => exact ⟨rfl, rfl⟩
  | cons student students ih => exact ih _

theorem rollover_fold_students {students : List Student} {db : Db} {x : Student}
    (hx : x ∈ db.students.docs) (hother : ∀ s ∈ students, x.key ≠ s.key) :
    x ∈ (students.foldl (store.rolloverStudent closing next) db).students.docs := by
  induction students generalizing db with
  | nil => exact hx
  | cons student students ih =>
    refine ih (rolloverStudent_students_of_ne hx (hother student List.mem_cons_self)) ?_
    exact fun s hs => hother s (List.mem_cons_of_mem _ hs)

theorem rollover_fold_rows {students : List Student} {db : Db} {r : StudentPeriodFee}
    (hother : ∀ s ∈ students, r.key ≠ (s.schoolId, s.studentId, next.id)) :
    r ∈ (students.foldl (store.rolloverStudent closing next) db).studentPeriodFees.docs ↔
      r ∈ db.studentPeriodFees.docs := by
  induction students generalizing db with
  | nil => exact Iff.rfl
  | cons student students ih =>
    refine (ih fun s hs => hother s (List.mem_cons_of_mem _ hs)).trans ?_
    exact rolloverStudent_rows (hother student List.mem_cons_self)

/-- **Each student starts the new period** with the new fee and the arrears: on the student
document, and on the row of the new period. -/
theorem rollover_fold_self (store : PeriodDb) (closing next : AcademicPeriod)
    {students : List Student} {db : Db} {s : Student}
    (hkeys : (students.map Student.key).Nodup) (hs : s ∈ students) (hstored : s ∈ db.students.docs) :
    openStudent (store.newFeeAmount s) (store.arrears closing s) s ∈
        (students.foldl (store.rolloverStudent closing next) db).students.docs ∧
      ((∃ r ∈ db.studentPeriodFees.docs, r.key = (s.schoolId, s.studentId, next.id) ∧
          openRow (store.newFeeAmount s) (store.arrears closing s) r ∈
            (students.foldl (store.rolloverStudent closing next) db).studentPeriodFees.docs) ∨
        ((∀ r ∈ db.studentPeriodFees.docs, r.key ≠ (s.schoolId, s.studentId, next.id)) ∧
          newRow s next.id (store.newFeeAmount s) (store.arrears closing s) ∈
            (students.foldl (store.rolloverStudent closing next) db).studentPeriodFees.docs)) := by
  induction students generalizing db with
  | nil => cases hs
  | cons student students ih =>
    obtain ⟨hnew, hkeys⟩ := List.nodup_cons.mp hkeys
    rw [List.foldl_cons]
    rcases List.mem_cons.mp hs with rfl | hs
    · -- written first, and left alone by the writes for the others
      have hother : ∀ x ∈ students, s.key ≠ x.key := fun x hx hk =>
        hnew (hk ▸ List.mem_map_of_mem hx)
      refine ⟨rollover_fold_students
        ((rolloverStudent_students hstored).mpr (Or.inl rfl)) hother, ?_⟩
      rcases rolloverStudent_row store closing next db s with
        ⟨r, hr, hkey, hmem⟩ | ⟨hfresh, hmem⟩
      · refine Or.inl ⟨r, hr, hkey, (rollover_fold_rows fun x hx => ?_).mpr hmem⟩
        exact fun hk => hother x hx ((row_owner hkey).symm.trans (row_owner hk))
      · refine Or.inr ⟨hfresh, (rollover_fold_rows fun x hx hk => ?_).mpr hmem⟩
        exact hother x hx (row_owner hk)
    · have hne : s.key ≠ student.key := fun hk => hnew (hk ▸ List.mem_map_of_mem hs)
      obtain ⟨hstudent, hrows⟩ := ih hkeys hs (rolloverStudent_students_of_ne hstored hne)
      refine ⟨hstudent, ?_⟩
      have hsame : ∀ r : StudentPeriodFee, r.key = (s.schoolId, s.studentId, next.id) →
          (r ∈ (store.rolloverStudent closing next db student).studentPeriodFees.docs ↔
            r ∈ db.studentPeriodFees.docs) := by
        intro r hkey
        exact rolloverStudent_rows fun hk => hne ((row_owner hkey).symm.trans (row_owner hk))
      rcases hrows with ⟨r, hr, hkey, hmem⟩ | ⟨hfresh, hmem⟩
      · exact Or.inl ⟨r, (hsame r hkey).mp hr, hkey, hmem⟩
      · exact Or.inr ⟨fun r hr hkey => hfresh r ((hsame r hkey).mpr hr) hkey, hmem⟩

end Rollover

end StellarEduPay

import Mathlib.Algebra.Order.Field.Rat
import Mathlib.Logic.Function.Basic
import Mathlib.Tactic.Linarith
import StellarEduPay.Collection
import StellarEduPay.Runs

/-! # The student quota (`services/studentQuota.js`)

`registerStudent` and `restoreStudent` make a student active inside `withStudentQuota`: the school's
lock, a count of its active students, and one write if a seat is left.  What they read before the
lock may be out of date by then.  `deleteStudent` takes no lock.

A step is one operation of the database or of the lock, with the code up to the next one.  The lock
does not expire: only its holder gives it back.
-/
namespace StellarEduPay
open Runs Function

/-! ## The quota -/

/-- `maxStudents` of a school, with the `min` of its schema. -/
structure MaxStudents where
  value : ℚ
  atLeastOne : 1 ≤ value

/-- What the quota sees of a student document. -/
structure EnrolledStudent where
  schoolId : String
  studentId : String
  deletedAt : Option Nat := none
  deriving DecidableEq, Repr

/-- The unique index of the collection. -/
def EnrolledStudent.key (d : EnrolledStudent) : String × String := (d.schoolId, d.studentId)

/-- `{ schoolId, deletedAt: null }` -/
def EnrolledStudent.isActive (schoolId : String) (d : EnrolledStudent) : Bool :=
  d.schoolId = schoolId ∧ d.deletedAt = none

abbrev EnrolledStudents := Collection EnrolledStudent (String × String) EnrolledStudent.key

/-- `countDocuments({ schoolId, deletedAt: null })` -/
def EnrolledStudents.countActive (schoolId : String) (students : EnrolledStudents) : Nat :=
  students.docs.countP (·.isActive schoolId)

/-- `remaining` of `withStudentQuota`, for a school with a quota. -/
def remainingSeats (limit : MaxStudents) (count : Nat) : ℚ := max 0 (limit.value - count)

/-- `Student.create` -/
def EnrolledStudents.create (schoolId studentId : String) (students : EnrolledStudents) :
    Option EnrolledStudents :=
  students.insert { schoolId, studentId }

/-- `student.restore()` and `student.softDelete()`: `deletedAt` of the stored document is set. -/
def EnrolledStudents.setDeletedAt (schoolId studentId : String) (deletedAt : Option Nat)
    (students : EnrolledStudents) : EnrolledStudents :=
  students.modify (schoolId, studentId) (fun d => { d with deletedAt }) fun _ => rfl

/-! ## The requests -/

inductive StudentError
  | duplicateStudent (studentId : String)
  | previouslyDeleted (studentId : String)
  | notFound
  | notDeleted (studentId : String)
  | quotaExceeded (limit : MaxStudents)
  | quotaBusy
  | idGenerationFailed
  | collision
  | alreadyExists
  | duplicateKey
  | thrown (message : String)

def StudentError.code : StudentError → Option String
  | .duplicateStudent _ | .collision | .alreadyExists => some "DUPLICATE_STUDENT"
  | .previouslyDeleted _ => some "STUDENT_PREVIOUSLY_DELETED"
  | .notFound => some "NOT_FOUND"
  | .notDeleted _ => some "STUDENT_NOT_DELETED"
  | .quotaExceeded _ => some "STUDENT_QUOTA_EXCEEDED"
  | .quotaBusy => some "STUDENT_QUOTA_BUSY"
  | .idGenerationFailed => some "STUDENT_ID_GENERATION_FAILED"
  | .duplicateKey => some "11000"
  | .thrown _ => none

/-- `spell` is how a number reads in a template string. -/
def StudentError.message (spell : ℚ → String) : StudentError → String
  | .duplicateStudent studentId => "A student with ID \"" ++ studentId ++ "\" already exists"
  | .previouslyDeleted studentId =>
    "Student ID \"" ++ studentId ++ "\" was previously deleted. Cannot re-register with the same ID."
  | .notFound => "Student not found"
  | .notDeleted studentId => "Student \"" ++ studentId ++ "\" is not deleted and cannot be restored"
  | .quotaExceeded limit => "School has reached maximum student quota of " ++ spell limit.value
  | .quotaBusy => "Student registration is busy for this school. Please retry."
  | .idGenerationFailed => "Failed to generate a unique student ID after several attempts"
  | .collision => "Student ID collision could not be resolved"
  | .alreadyExists => "Student ID already exists in this school"
  | .duplicateKey => "E11000 duplicate key error"
  | .thrown message => message

/-- What a request wants a seat for; a registration says whether it made up the ID, and whether this
is its second try. -/
inductive SeatRequest
  | create (studentId : String) (autoGenerated retry : Bool)
  | restore (studentId : String)
  deriving DecidableEq, Repr

/-- Where a request is. -/
inductive QuotaCall
  | checkDeleted (studentId : String) (autoGenerated : Bool)
  | checkFees (studentId : String) (autoGenerated : Bool)
  | acquiring (seat : SeatRequest)
  | counting (seat : SeatRequest)
  | writing (seat : SeatRequest)
  | releasing (seat : SeatRequest) (outcome : Except StudentError Unit)
  | regenerating
  | answered (answer : Except StudentError Unit)

/-- Between `acquire` and `release`. -/
def QuotaCall.inside : QuotaCall → Bool
  | .counting _ | .writing _ | .releasing .. => true
  | _ => false

/-- What a request makes of the outcome of `withStudentQuota`: the `catch` of `registerStudent`
tries a made-up ID once more. -/
def SeatRequest.settle : SeatRequest → Except StudentError Unit → QuotaCall
  | .create _ true false, .error .duplicateKey => .regenerating
  | .create _ false _, .error .duplicateKey => .answered (.error .alreadyExists)
  | .create _ _ true, .error _ => .answered (.error .collision)
  | _, outcome => .answered outcome

/-- An operation throws. -/
def QuotaCall.throw (error : StudentError) : QuotaCall → Option QuotaCall
  | .checkDeleted .. | .checkFees .. => some (.answered (.error error))
  | .acquiring seat => some (seat.settle (.error error))
  | .counting seat | .writing seat => some (.releasing seat (.error error))
  | .regenerating => some (.answered (.error .collision))
  | .releasing .. | .answered _ => none

/-- The students, the holder of the school's lock, and the requests. -/
structure QuotaSystem where
  students : EnrolledStudents
  lock : Option Nat
  calls : Nat → Option QuotaCall

inductive QuotaAction
  | registerStudent (p : Nat) (studentId : String) (autoGenerated : Bool)
  | restoreStudent (p : Nat) (studentId : String)
  | readDeleted (p : Nat)
  | readFees (p : Nat) (refusal : Option String)
  | acquire (p : Nat)
  | count (p : Nat)
  | write (p : Nat) (lost : Option String)
  | release (p : Nat)
  | regenerate (p : Nat) (studentId : Option String)
  | throws (p : Nat) (message : String)
  | deleteStudent (schoolId studentId : String) (now : Nat)
  deriving DecidableEq, Repr

namespace QuotaSystem

def goto (s : QuotaSystem) (p : Nat) (call : QuotaCall) : QuotaSystem :=
  { s with calls := update s.calls p (some call) }

/-- The write of the holder, and what it ends with. -/
def write (schoolId : String) (s : QuotaSystem) : SeatRequest → QuotaSystem × Except StudentError Unit
  | .create studentId _ _ =>
    match s.students.create schoolId studentId with
    | some students => ({ s with students }, .ok ())
    | none => (s, .error .duplicateKey)
  | .restore studentId =>
    ({ s with students := s.students.setDeletedAt schoolId studentId none }, .ok ())

end QuotaSystem

/-- The first lookup of `restoreStudent`. -/
def restoreCheck (studentId : String) : Option EnrolledStudent → QuotaCall
  | none => .answered (.error .notFound)
  | some student =>
    if student.deletedAt = none then .answered (.error (.notDeleted studentId))
    else .acquiring (.restore studentId)

/-- The requests are those of the school `schoolId`, whose quota is `maxStudents`. -/
def quotaStep (schoolId : String) (maxStudents : Option MaxStudents) (s : QuotaSystem) :
    QuotaAction → Option QuotaSystem
  | .registerStudent p studentId autoGenerated =>
    if (s.calls p).isSome then none
    else match s.students.findOne fun d => d.isActive schoolId && d.studentId = studentId with
    | some _ => some (s.goto p (.answered (.error (.duplicateStudent studentId))))
    | none => some (s.goto p (.checkDeleted studentId autoGenerated))
  | .restoreStudent p studentId =>
    if (s.calls p).isSome then none
    else some (s.goto p (restoreCheck studentId (s.students.findKey (schoolId, studentId))))
  | .readDeleted p =>
    match s.calls p with
    | some (.checkDeleted studentId autoGenerated) =>
      if (s.students.findKey (schoolId, studentId)).any (·.deletedAt.isSome) then
        some (s.goto p (.answered (.error (.previouslyDeleted studentId))))
      else some (s.goto p (.checkFees studentId autoGenerated))
    | _ => none
  | .readFees p refusal =>
    match s.calls p with
    | some (.checkFees studentId autoGenerated) =>
      some (s.goto p (refusal.elim (.acquiring (.create studentId autoGenerated false))
        fun message => .answered (.error (.thrown message))))
    | _ => none
  | .acquire p =>
    match s.calls p with
    | some (.acquiring seat) =>
      if s.lock = none then some { s.goto p (.counting seat) with lock := some p }
      else some (s.goto p (seat.settle (.error .quotaBusy)))
    | _ => none
  | .count p =>
    match s.calls p with
    | some (.counting seat) =>
      match maxStudents with
      | some limit =>
        if remainingSeats limit (s.students.countActive schoolId) < 1 then
          some (s.goto p (.releasing seat (.error (.quotaExceeded limit))))
        else some (s.goto p (.writing seat))
      | none => some (s.goto p (.writing seat))
    | _ => none
  | .write p lost =>
    match s.calls p with
    | some (.writing seat) =>
      let (s, outcome) := s.write schoolId seat
      some (s.goto p (.releasing seat (lost.elim outcome fun message => .error (.thrown message))))
    | _ => none
  | .release p =>
    match s.calls p with
    | some (.releasing seat outcome) =>
      some { s.goto p (seat.settle outcome) with lock := if s.lock = some p then none else s.lock }
    | _ => none
  | .regenerate p studentId =>
    match s.calls p with
    | some .regenerating =>
      some (s.goto p (studentId.elim (.answered (.error .idGenerationFailed))
        fun studentId => .acquiring (.create studentId true true)))
    | _ => none
  | .throws p message => ((s.calls p).bind (·.throw (.thrown message))).map (s.goto p)
  | .deleteStudent schoolId studentId now =>
    some { s with students := s.students.setDeletedAt schoolId studentId (some now) }

/-! ## What the operations do to the count -/

section Count
variable {schoolId : String} {students : EnrolledStudents}

theorem countActive_create_le {studentId : String} {students' : EnrolledStudents}
    (h : students.create schoolId studentId = some students') :
    students'.countActive schoolId ≤ students.countActive schoolId + 1 := by
  unfold EnrolledStudents.countActive
  rw [students.insert_docs h, List.countP_append]
  exact Nat.add_le_add_left (List.countP_le_length.trans_eq List.length_singleton) _

theorem countActive_restore_le (studentId : String) :
    (students.setDeletedAt schoolId studentId none).countActive schoolId ≤
      students.countActive schoolId + 1 :=
  students.countP_modify_le (f := fun d => { d with deletedAt := none }) fun _ => rfl

theorem countActive_delete_le (ofSchool studentId : String) (now : Nat) :
    (students.setDeletedAt ofSchool studentId (some now)).countActive schoolId ≤
      students.countActive schoolId :=
  students.countP_modify_le_of_imp (f := fun d => { d with deletedAt := some now }) (fun _ => rfl)
    fun d h => by simp [EnrolledStudent.isActive] at h

/-- A write changes nothing but the students. -/
theorem write_frame (s : QuotaSystem) (seat : SeatRequest) :
    (s.write schoolId seat).1 = { s with students := (s.write schoolId seat).1.students } := by
  cases seat with
  | create studentId =>
    simp only [QuotaSystem.write]
    cases s.students.create schoolId studentId <;> rfl
  | restore studentId => rfl

theorem countActive_write_le (s : QuotaSystem) (seat : SeatRequest) :
    (s.write schoolId seat).1.students.countActive schoolId ≤ s.students.countActive schoolId + 1 := by
  cases seat with
  | create studentId =>
    simp only [QuotaSystem.write]
    cases h : s.students.create schoolId studentId with
    | none => exact Nat.le_succ _
    | some students => exact countActive_create_le h
  | restore studentId => exact countActive_restore_le studentId

/-- A seat that is left is one more student within the quota. -/
theorem seat_of_remainingSeats {limit : MaxStudents} {count : Nat}
    (h : ¬ remainingSeats limit count < 1) : (count : ℚ) + 1 ≤ limit.value := by
  have hseat : 1 ≤ limit.value - count := by
    rcases le_max_iff.mp (not_lt.mp h) with h | h
    · exact absurd h (by decide)
    · exact h
  linarith

end Count

/-! ## Steps -/

/-- What a step comes to: a request moves outside the lock, enters it, finds a seat, writes, gives
up, or leaves it, or a student is deleted. -/
inductive QuotaMove (schoolId : String) (limit : MaxStudents) (s : QuotaSystem) : QuotaSystem → Prop
  | outside {p call} : (∀ c, s.calls p = some c → c.inside = false) → call.inside = false →
      QuotaMove schoolId limit s (s.goto p call)
  | entered {p seat} : s.lock = none →
      QuotaMove schoolId limit s { s.goto p (.counting seat) with lock := some p }
  | seated {p seat} : s.calls p = some (.counting seat) →
      (s.students.countActive schoolId : ℚ) + 1 ≤ limit.value →
      QuotaMove schoolId limit s (s.goto p (.writing seat))
  | wrote {p seat students outcome} : s.calls p = some (.writing seat) →
      students.countActive schoolId ≤ s.students.countActive schoolId + 1 →
      QuotaMove schoolId limit s { s.goto p (.releasing seat outcome) with students }
  | gaveUp {p c seat outcome} : s.calls p = some c → c.inside = true →
      QuotaMove schoolId limit s (s.goto p (.releasing seat outcome))
  | left {p c call lock} : s.calls p = some c → c.inside = true → call.inside = false →
      QuotaMove schoolId limit s { s.goto p call with lock }
  | deleted {students} : students.countActive schoolId ≤ s.students.countActive schoolId →
      QuotaMove schoolId limit s { s with students }

/-- A request settles outside the lock. -/
theorem SeatRequest.settle_outside (seat : SeatRequest) (outcome : Except StudentError Unit) :
    (seat.settle outcome).inside = false := by
  unfold SeatRequest.settle
  split <;> rfl

theorem restoreCheck_outside (studentId : String) (found : Option EnrolledStudent) :
    (restoreCheck studentId found).inside = false := by
  unfold restoreCheck
  split
  · rfl
  · split <;> rfl

section Step
variable {schoolId : String} {limit : MaxStudents} {s t : QuotaSystem} {a : QuotaAction}

/-- A request that is at `c`, outside the lock. -/
theorem QuotaMove.of_outside {p : Nat} {c call : QuotaCall} (h : s.calls p = some c)
    (hc : c.inside = false) (hcall : call.inside = false) :
    QuotaMove schoolId limit s (s.goto p call) :=
  .outside (fun _ h' => Option.some.inj (h.symm.trans h') ▸ hc) hcall

theorem QuotaMove.of_throw {p : Nat} {c call : QuotaCall} {error : StudentError}
    (h : s.calls p = some c) (hthrow : c.throw error = some call) :
    QuotaMove schoolId limit s (s.goto p call) := by
  cases c with
  | checkDeleted | checkFees | regenerating =>
    obtain rfl := Option.some.inj hthrow
    exact .of_outside h rfl rfl
  | acquiring seat =>
    obtain rfl := Option.some.inj hthrow
    exact .of_outside h rfl (seat.settle_outside _)
  | counting | writing =>
    obtain rfl := Option.some.inj hthrow
    exact .gaveUp h rfl
  | releasing | answered => cases hthrow

theorem QuotaMove.of_step (h : quotaStep schoolId (some limit) s a = some t) :
    QuotaMove schoolId limit s t := by
  cases a with
  | registerStudent p studentId autoGenerated =>
    simp only [quotaStep] at h
    split at h
    · cases h
    · rename_i hidle
      have hnone : s.calls p = none := by simpa using hidle
      split at h <;> cases h <;> exact .outside (fun c hc => by simp [hnone] at hc) rfl
  | restoreStudent p studentId =>
    simp only [quotaStep] at h
    split at h
    · cases h
    · rename_i hidle
      have hnone : s.calls p = none := by simpa using hidle
      cases h
      exact .outside (fun c hc => by simp [hnone] at hc) (restoreCheck_outside ..)
  | readDeleted p =>
    simp only [quotaStep] at h
    split at h
    · rename_i hcall
      split at h <;> cases h <;> exact .of_outside hcall rfl rfl
    · cases h
  | readFees p refusal =>
    simp only [quotaStep] at h
    split at h
    · rename_i hcall
      cases h
      exact .of_outside hcall rfl (by cases refusal <;> rfl)
    · cases h
  | acquire p =>
    simp only [quotaStep] at h
    split at h
    · rename_i seat hcall
      split at h
      · rename_i hfree
        cases h
        exact .entered hfree
      · cases h
        exact .of_outside hcall rfl (seat.settle_outside _)
    · cases h
  | count p =>
    simp only [quotaStep] at h
    split at h
    · rename_i hcall
      split at h
      · cases h
        exact .gaveUp hcall rfl
      · rename_i hseat
        cases h
        exact .seated hcall (seat_of_remainingSeats hseat)
    · cases h
  | write p lost =>
    simp only [quotaStep] at h
    split at h
    · rename_i seat hcall
      cases h
      rw [write_frame]
      exact .wrote hcall (countActive_write_le s seat)
    · cases h
  | release p =>
    simp only [quotaStep] at h
    split at h
    · rename_i seat outcome hcall
      cases h
      exact .left hcall rfl (seat.settle_outside outcome)
    · cases h
  | regenerate p studentId =>
    simp only [quotaStep] at h
    split at h
    · rename_i hcall
      cases h
      exact .of_outside hcall rfl (by cases studentId <;> rfl)
    · cases h
  | throws p message =>
    obtain ⟨call, hcall, rfl⟩ := Option.map_eq_some_iff.mp h
    obtain ⟨c, hc, hthrow⟩ := Option.bind_eq_some_iff.mp hcall
    exact .of_throw hc hthrow
  | deleteStudent ofSchool studentId now =>
    cases h
    exact .deleted (countActive_delete_le ofSchool studentId now)

end Step

/-! ## Runs -/

/-- **The invariant of the quota**: a request between `acquire` and `release` holds the lock, the
quota is kept, and a request about to write has a seat left. -/
structure QuotaInv (schoolId : String) (limit : MaxStudents) (s : QuotaSystem) : Prop where
  held : ∀ p c, s.calls p = some c → c.inside = true → s.lock = some p
  bound : (s.students.countActive schoolId : ℚ) ≤ limit.value
  seat : ∀ p seat, s.calls p = some (.writing seat) →
    (s.students.countActive schoolId : ℚ) + 1 ≤ limit.value

namespace QuotaInv
variable {schoolId : String} {limit : MaxStudents} {s t : QuotaSystem}

/-- Two requests are never between `acquire` and `release` together. -/
theorem alone (h : QuotaInv schoolId limit s) {p q : Nat} {c d : QuotaCall} (hp : s.calls p = some c)
    (hc : c.inside = true) (hq : s.calls q = some d) (hd : d.inside = true) : q = p :=
  Option.some.inj ((h.held q d hq hd).symm.trans (h.held p c hp hc))

/-- A request that is inside holds the lock, also after one that was inside has moved on. -/
theorem held_goto (h : QuotaInv schoolId limit s) {p q : Nat} {c d call : QuotaCall}
    (hp : s.calls p = some c) (hc : c.inside = true) (hq : (s.goto p call).calls q = some d)
    (hd : d.inside = true) : s.lock = some q := by
  rcases update_some_iff.mp hq with ⟨rfl, -⟩ | ⟨-, hq⟩
  · exact h.held q c hp hc
  · exact h.held q d hq hd

/-- Who is about to write is so after another request has moved on to something else. -/
theorem seat_goto (h : QuotaInv schoolId limit s) {p q : Nat} {call : QuotaCall} {seat : SeatRequest}
    (hcall : ∀ seat, call ≠ .writing seat) (hq : (s.goto p call).calls q = some (.writing seat)) :
    (s.students.countActive schoolId : ℚ) + 1 ≤ limit.value := by
  rcases update_some_iff.mp hq with ⟨-, hwriting⟩ | ⟨-, hq⟩
  · exact absurd hwriting.symm (hcall seat)
  · exact h.seat q seat hq

theorem ne_writing_of_outside {call : QuotaCall} (h : call.inside = false) (seat : SeatRequest) :
    call ≠ .writing seat := by
  rintro rfl
  cases h

theorem move (h : QuotaInv schoolId limit s) (hm : QuotaMove schoolId limit s t) :
    QuotaInv schoolId limit t := by
  cases hm with
  | @outside p call hfrom hto =>
    refine ⟨fun q d hq hd => ?_, h.bound, fun q seat => h.seat_goto (ne_writing_of_outside hto)⟩
    rcases update_some_iff.mp hq with ⟨-, rfl⟩ | ⟨-, hq⟩
    · exact absurd hd (by simp [hto])
    · exact h.held q d hq hd
  | @entered p seat hfree =>
    refine ⟨fun q d hq hd => ?_, h.bound, fun q seat => h.seat_goto fun _ => nofun⟩
    rcases update_some_iff.mp hq with ⟨rfl, -⟩ | ⟨-, hq⟩
    · rfl
    · exact absurd (h.held q d hq hd) (by simp [hfree])
  | @seated p seat hcall hleft =>
    exact ⟨fun q d => h.held_goto hcall rfl, h.bound, fun _ _ _ => hleft⟩
  | @wrote p seat students outcome hcall hle =>
    have hseat := h.seat p seat hcall
    have hle' : (students.countActive schoolId : ℚ) ≤ s.students.countActive schoolId + 1 := by
      exact_mod_cast hle
    refine ⟨fun q d => h.held_goto hcall rfl, hle'.trans hseat, fun q seat' hq => ?_⟩
    -- another request about to write would hold the lock as well
    rcases update_some_iff.mp hq with ⟨-, hq⟩ | ⟨hne, hq⟩
    · cases hq
    · exact absurd (h.alone hcall rfl hq rfl) hne
  | @gaveUp p c seat outcome hcall hc =>
    exact ⟨fun q d => h.held_goto hcall hc, h.bound, fun q seat => h.seat_goto fun _ => nofun⟩
  | @left p c call lock hcall hc hout =>
    refine ⟨fun q d hq hd => ?_, h.bound, fun q seat => h.seat_goto (ne_writing_of_outside hout)⟩
    rcases update_some_iff.mp hq with ⟨-, rfl⟩ | ⟨hne, hq⟩
    · exact absurd hd (by simp [hout])
    · exact absurd (h.alone hcall hc hq hd) hne
  | @deleted students hle =>
    have hle' : (students.countActive schoolId : ℚ) ≤ s.students.countActive schoolId := by
      exact_mod_cast hle
    refine ⟨h.held, hle'.trans h.bound, fun q seat hq => ?_⟩
    exact (add_le_add_left hle' 1).trans (h.seat q seat hq)

end QuotaInv

/-- **The quota is never exceeded**, whatever the order of the steps. -/
theorem student_quota_kept {schoolId : String} {limit : MaxStudents} {s t : QuotaSystem}
    (hidle : ∀ p, s.calls p = none) (hstart : (s.students.countActive schoolId : ℚ) ≤ limit.value)
    (hrun : Reach (quotaStep schoolId (some limit)) Free s t) :
    (t.students.countActive schoolId : ℚ) ≤ limit.value := by
  have h0 : QuotaInv schoolId limit s :=
    ⟨fun p c hc => by simp [hidle p] at hc, hstart, fun p seat hc => by simp [hidle p] at hc⟩
  exact (hrun.invariant h0 fun ht _ hs => ht.move (.of_step hs)).bound

/-- One student is active and one deleted, of a quota of two. -/
def oneSeatLeft : QuotaSystem where
  students := ⟨[⟨"SCH", "STU001", none⟩, ⟨"SCH", "STU002", some 5⟩], by decide⟩
  lock := none
  calls := fun _ => none

/-- A registration and two restores ask for the last seat, one of them while the lock is held. -/
theorem student_quota_kept_last_seat : ∃ t : QuotaSystem,
    (t.students.countActive "SCH" : ℚ) ≤ (2 : ℚ) ∧ t.students.countActive "SCH" = 2 := by
  let limit : MaxStudents := ⟨2, by decide⟩
  have hend : ((exec (quotaStep "SCH" (some limit)) oneSeatLeft
      [.registerStudent 0 "STU003" false, .restoreStudent 1 "STU002", .restoreStudent 2 "STU002",
        .readDeleted 0, .readFees 0 none, .acquire 0, .count 0, .acquire 1, .write 0 none, .release 0,
        .acquire 2, .count 2, .release 2]).map fun t => t.students.countActive "SCH") = some 2 := by
    decide +kernel
  obtain ⟨t, ht, hcount⟩ := Option.map_eq_some_iff.mp hend
  exact ⟨t, @student_quota_kept "SCH" limit oneSeatLeft t (fun _ => rfl) (by decide +kernel)
    (reach_of_exec ht), hcount⟩

end StellarEduPay

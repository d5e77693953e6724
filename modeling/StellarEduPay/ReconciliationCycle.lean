import Mathlib.Order.Basic
import Mathlib.Data.List.Nodup
import StellarEduPay.Cursor
import StellarEduPay.JsString

/-! # The reconciliation cycle (`reconcileAll`)

The students are checked in batches, in the order of their ids, and a cursor document is to say how
far a cycle has got, so that it can be resumed after a crash.  A cycle that starts works on a cursor
that is never saved; and the batch query names a batch size the module does not define, on which the
function throws before its first query.

What a call does is the list of its operations on the store, so that a crash leaves a part of that
list.  The check of one student is the one of the drift repair.
-/
namespace StellarEduPay
open Cursors

/-! ## One call -/

/-- `BATCH_SIZE`, if there is such a constant, and whether `mongoose.Types.ObjectId` can be called
without `new`. -/
structure ReconcileEnv where
  batchSize : Option Nat
  objectIdCallable : Bool
  deriving DecidableEq, Repr

/-- The module as it stands: no constant of that name, and `ObjectId` is a class. -/
def reconciliationModule : ReconcileEnv := ⟨none, false⟩

inductive CursorStatus
  | inProgress
  | completed
  | failed
  deriving DecidableEq, Repr

structure ReconciliationCursor where
  lastProcessedStudentId : Option Nat := none
  processedCount : Nat := 0
  status : CursorStatus := .inProgress
  deriving DecidableEq, Repr

/-- What is thrown: a `ReferenceError`, the tenant scope's error, a `TypeError`. -/
inductive ReconcileError
  | batchSizeNotDefined
  | tenantScopeMissing
  | objectIdWithoutNew
  deriving DecidableEq, Repr

/-- An operation of a call, and its end.  An update by the id of a cursor that was never saved finds
no document (`found = false`). -/
inductive ReconcileOp
  | findCursor
  | findStudents (after : Option Nat)
  | check (id : Nat)
  | updateCursor (found : Bool) (cursor : ReconciliationCursor)
  | returned
  | threw (error : ReconcileError)
  deriving DecidableEq, Repr

/-- The document of the cycle after an operation. -/
def ReconcileOp.apply (store : Option ReconciliationCursor) :
    ReconcileOp → Option ReconciliationCursor
  | .updateCursor true cursor => some cursor
  | _ => store

/-- `find({ _id: { $gt: after } })`, the students being in the order of their ids. -/
def studentsAfter (students : List Nat) : Option Nat → List Nat
  | none => students
  | some id => after students id

/-- `limit(n)`, where zero is no limit. -/
def mongoLimit (n : Nat) (docs : List Nat) : List Nat := if n = 0 then docs else docs.take n

def finishCycle (found : Bool) (cursor : ReconciliationCursor) : List ReconcileOp :=
  [.updateCursor found { cursor with status := .completed }, .returned]

def failCycle (found : Bool) (cursor : ReconciliationCursor) (error : ReconcileError) :
    List ReconcileOp :=
  [.updateCursor found { cursor with status := .failed }, .threw error]

/-- The loop over the batches. -/
def reconcileBatches (env : ReconcileEnv) (tenant found : Bool) (students : List Nat) :
    Nat → Option Nat → ReconciliationCursor → List ReconcileOp
  | 0, _, _ => []
  | fuel + 1, after, cursor =>
    match env.batchSize with
    | none => failCycle found cursor .batchSizeNotDefined
    | some batchSize =>
      if !tenant then failCycle found cursor .tenantScopeMissing
      else
        let batch := mongoLimit batchSize (studentsAfter students after)
        .findStudents after :: match batch.getLast? with
          | none => finishCycle found cursor
          | some last =>
            let cursor := { cursor with
              lastProcessedStudentId := some last
              processedCount := cursor.processedCount + batch.length }
            batch.map .check ++ .updateCursor found cursor ::
              if batch.length < batchSize then finishCycle found cursor
              else if !env.objectIdCallable then failCycle found cursor .objectIdWithoutNew
              else reconcileBatches env tenant found students fuel (some last) cursor

/-- `reconcileAll`, on the students there are and the cursor document that is stored. -/
def reconcileAll (env : ReconcileEnv) (schoolId : Option String) (students : List Nat)
    (store : Option ReconciliationCursor) : List ReconcileOp :=
  let stored := store.filter (·.status = .inProgress)
  let cursor := stored.getD {}
  .findCursor ::
    if cursor.lastProcessedStudentId.isSome && !env.objectIdCallable then
      failCycle stored.isSome cursor .objectIdWithoutNew
    else reconcileBatches env (truthy schoolId).isSome stored.isSome students
      (students.length + 1) cursor.lastProcessedStudentId cursor

/-! ## Crashes and the call that completes -/

/-- A call that crashes: the students it finds, and how many of its operations it gets through. -/
structure CrashedCall where
  students : List Nat
  operations : Nat
  deriving DecidableEq, Repr

/-- The operations of calls that crash one after the other, before they have returned or thrown, and
the document they leave. -/
def crashedCalls (env : ReconcileEnv) (schoolId : Option String)
    (store : Option ReconciliationCursor) :
    List CrashedCall → List ReconcileOp × Option ReconciliationCursor
  | [] => ([], store)
  | call :: rest =>
    let ops := (reconcileAll env schoolId call.students store).dropLast.take call.operations
    let (later, store) := crashedCalls env schoolId (ops.foldl ReconcileOp.apply store) rest
    (ops ++ later, store)

/-- The call after the last crash. -/
def lastCall (env : ReconcileEnv) (schoolId : Option String) (store : Option ReconciliationCursor)
    (crashes : List CrashedCall) (students : List Nat) : List ReconcileOp :=
  reconcileAll env schoolId students (crashedCalls env schoolId store crashes).2

/-- The students that were checked, in order. -/
def checkedStudents (ops : List ReconcileOp) : List Nat :=
  ops.filterMap fun
    | .check id => some id
    | _ => none

/-- All that were checked between the first call and the end of the last. -/
def cycleChecks (env : ReconcileEnv) (schoolId : Option String) (store : Option ReconciliationCursor)
    (crashes : List CrashedCall) (students : List Nat) : List Nat :=
  checkedStudents ((crashedCalls env schoolId store crashes).1 ++
    lastCall env schoolId store crashes students)

/-- **Resumable reconciliation**: the last call returns; every student that was there all along was
checked, and exactly once if nothing crashed. -/
structure ReconciliationResumes (env : ReconcileEnv) (schoolId : Option String)
    (store : Option ReconciliationCursor) (crashes : List CrashedCall) (students : List Nat) :
    Prop where
  completes : .returned ∈ lastCall env schoolId store crashes students
  covers : ∀ id ∈ students, (∀ call ∈ crashes, id ∈ call.students) →
    id ∈ cycleChecks env schoolId store crashes students
  once : crashes = [] → ∀ id ∈ students,
    (cycleChecks env schoolId store crashes students).count id = 1

/-! ## What the operations leave and check -/

variable {env : ReconcileEnv} {schoolId : Option String} {tenant found : Bool}
  {students : List Nat} {fuel : Nat} {position : Option Nat} {cursor : ReconciliationCursor}
  {store : Option ReconciliationCursor} {op : ReconcileOp} {ops : List ReconcileOp}

/-- What an operation on a cursor that was never saved does to the document. -/
def ReconcileOp.Keeps (op : ReconcileOp) : Prop := ∀ store, op.apply store = store

theorem mem_failCycle_keeps {error : ReconcileError} (hop : op ∈ failCycle false cursor error) :
    op.Keeps := by
  intro store
  rcases List.mem_pair.mp hop with rfl | rfl <;> rfl

theorem mem_finishCycle_keeps (hop : op ∈ finishCycle false cursor) : op.Keeps := by
  intro store
  rcases List.mem_pair.mp hop with rfl | rfl <;> rfl

theorem mem_reconcileBatches_keeps (hop : op ∈ reconcileBatches env tenant false students fuel
    position cursor) : op.Keeps := by
  induction fuel generalizing position cursor with
  | zero => simp [reconcileBatches] at hop
  | succ fuel ih =>
    unfold reconcileBatches at hop
    split at hop
    · exact mem_failCycle_keeps hop
    · split at hop
      · exact mem_failCycle_keeps hop
      · rcases List.mem_cons.mp hop with rfl | hop
        · exact fun _ => rfl
        · split at hop
          · exact mem_finishCycle_keeps hop
          · rcases List.mem_append.mp hop with hop | hop
            · obtain ⟨id, -, rfl⟩ := List.mem_map.mp hop
              exact fun _ => rfl
            · rcases List.mem_cons.mp hop with rfl | hop
              · exact fun _ => rfl
              · split at hop
                · exact mem_finishCycle_keeps hop
                · split at hop
                  · exact mem_failCycle_keeps hop
                  · exact ih hop

theorem foldl_apply_keeps (h : ∀ op ∈ ops, op.Keeps) : ops.foldl ReconcileOp.apply store = store := by
  induction ops with
  | nil => rfl
  | cons op ops ih =>
    rw [List.foldl_cons, h op (List.mem_cons_self ..)]
    exact ih fun op' hop => h op' (List.mem_cons_of_mem _ hop)

/-- A call that finds no cycle in progress works on a cursor of its own, from the first student. -/
theorem reconcileAll_first (hfirst : ∀ c ∈ store, c.status ≠ .inProgress) :
    reconcileAll env schoolId students store = .findCursor ::
      reconcileBatches env (truthy schoolId).isSome false students (students.length + 1) none {} := by
  have hnone : store.filter (·.status = .inProgress) = none := by
    refine Option.filter_eq_none_iff.mpr fun c hc => ?_
    simpa using hfirst c hc
  simp [reconcileAll, hnone]

/-- **No progress is stored**: however many calls crash, the document is as it was. -/
theorem crashedCalls_store (hfirst : ∀ c ∈ store, c.status ≠ .inProgress)
    (crashes : List CrashedCall) : (crashedCalls env schoolId store crashes).2 = store := by
  induction crashes with
  | nil => rfl
  | cons call crashes ih =>
    have hkeeps : ∀ op ∈
        (reconcileAll env schoolId call.students store).dropLast.take call.operations, op.Keeps := by
      intro op hop
      have hop := List.dropLast_subset _ (List.take_subset _ _ hop)
      rw [reconcileAll_first hfirst] at hop
      rcases List.mem_cons.mp hop with rfl | hop
      · exact fun _ => rfl
      · exact mem_reconcileBatches_keeps hop
    simpa only [crashedCalls, foldl_apply_keeps hkeeps] using ih

/-! ## The loop -/

@[simp] theorem checkedStudents_findStudents :
    checkedStudents (.findStudents position :: ops) = checkedStudents ops := rfl

@[simp] theorem checkedStudents_updateCursor :
    checkedStudents (.updateCursor found cursor :: ops) = checkedStudents ops := rfl

@[simp] theorem checkedStudents_finishCycle : checkedStudents (finishCycle found cursor) = [] := rfl

@[simp] theorem checkedStudents_append (ops later : List ReconcileOp) :
    checkedStudents (ops ++ later) = checkedStudents ops ++ checkedStudents later :=
  List.filterMap_append ..

@[simp] theorem checkedStudents_checks (batch : List Nat) :
    checkedStudents (batch.map .check) = batch := by
  induction batch with
  | nil => rfl
  | cons id batch ih =>
    simpa only [List.map_cons, checkedStudents, List.filterMap_cons] using congrArg _ ih

theorem exists_mongoLimit_append (n : Nat) (docs : List Nat) :
    ∃ rest, mongoLimit n docs ++ rest = docs := by
  unfold mongoLimit
  split
  · exact ⟨[], List.append_nil _⟩
  · exact ⟨_, List.take_append_drop ..⟩

theorem mongoLimit_eq_nil {n : Nat} {docs : List Nat} : mongoLimit n docs = [] ↔ docs = [] := by
  unfold mongoLimit
  split
  · rfl
  · simp_all

theorem length_mongoLimit_lt {n : Nat} {docs : List Nat} :
    (mongoLimit n docs).length < n ↔ docs.length < n := by
  unfold mongoLimit
  split
  · rfl
  · rw [List.length_take]
    omega

theorem mongoLimit_of_length_lt {n : Nat} {docs : List Nat} (h : docs.length < n) :
    mongoLimit n docs = docs := by
  rw [mongoLimit, if_neg (by omega), List.take_of_length_le h.le]

/-- The query after a batch finds what the batch left. -/
theorem studentsAfter_last (hsorted : students.Pairwise (· < ·)) {batch rest : List Nat} {last : Nat}
    (hbatch : batch ++ rest = studentsAfter students position) (hlast : batch.getLast? = some last) :
    studentsAfter students (some last) = rest := by
  cases position with
  | none =>
    obtain rfl : batch ++ rest = students := hbatch
    exact after_last hsorted hlast
  | some id =>
    have hid : id ≤ last := by
      have hmem : last ∈ after students id :=
        (show batch ++ rest = after students id from hbatch) ▸
          List.mem_append_left _ (List.mem_of_getLast? hlast)
      simpa [after] using (List.mem_filter.mp hmem).2 |> of_decide_eq_true |> le_of_lt
    have hsorted : (batch ++ rest).Pairwise (· < ·) := by
      rw [hbatch]
      exact hsorted.filter _
    calc after students last = after (batch ++ rest) last := by
          rw [hbatch]
          exact (after_after hid).symm
      _ = rest := after_last hsorted hlast

/-- **The loop** checks what lies after its position and comes to its end: `ObjectId` can be called,
or a first batch that is not full is the only one. -/
theorem reconcileBatches_checks {n : Nat} (hsize : env.batchSize = some n)
    (hsorted : students.Pairwise (· < ·))
    (hcall : env.objectIdCallable = true ∨ studentsAfter students position = [] ∨
      (studentsAfter students position).length < n)
    (hfuel : (studentsAfter students position).length < fuel) :
    checkedStudents (reconcileBatches env true found students fuel position cursor) =
        studentsAfter students position ∧
      .returned ∈ reconcileBatches env true found students fuel position cursor := by
  induction fuel generalizing position cursor with
  | zero => omega
  | succ fuel ih =>
    obtain ⟨rest, hrest⟩ := exists_mongoLimit_append n (studentsAfter students position)
    simp only [reconcileBatches, hsize, Bool.not_true, Bool.false_eq_true, if_false]
    split
    case h_1 hlast =>
      have hnil := mongoLimit_eq_nil.mp (List.getLast?_eq_none_iff.mp hlast)
      rw [hnil]
      exact ⟨rfl, by simp [finishCycle]⟩
    case h_2 last hlast =>
      by_cases hshort : (mongoLimit n (studentsAfter students position)).length < n
      · -- A batch that is not full is all there was.
        have hall := mongoLimit_of_length_lt (length_mongoLimit_lt.mp hshort)
        rw [if_pos hshort, hall]
        exact ⟨by simp, by simp [finishCycle]⟩
      · have hcallable : env.objectIdCallable = true := by
          rcases hcall with hcall | hnil | hlt
          · exact hcall
          · rw [mongoLimit_eq_nil.mpr hnil] at hlast
            exact absurd hlast (by simp)
          · exact absurd (length_mongoLimit_lt.mpr hlt) hshort
        have hnext := studentsAfter_last hsorted hrest hlast
        have hlength : rest.length < fuel := by
          have hpos : mongoLimit n (studentsAfter students position) ≠ [] := by
            rintro hnil
            rw [hnil] at hlast
            exact absurd hlast (by simp)
          have := congrArg List.length hrest
          rw [List.length_append] at this
          have := List.length_pos_iff.mpr hpos
          omega
        rw [if_neg hshort, if_neg (by simp [hcallable])]
        have hrec (cursor : ReconciliationCursor) :=
          @ih (some last) cursor (.inl hcallable) (by rwa [hnext])
        constructor
        · simp [(hrec _).1, hnext, hrest]
        · simp [(hrec _).2]

/-- A loop that returns has a school and a batch size, and calls `ObjectId` for no second batch
unless it can. -/
theorem of_returned_mem_reconcileBatches
    (h : .returned ∈ reconcileBatches env tenant found students fuel position cursor) :
    tenant = true ∧ ∃ n, env.batchSize = some n ∧ (env.objectIdCallable = true ∨
      studentsAfter students position = [] ∨ (studentsAfter students position).length < n) := by
  cases fuel with
  | zero => simp [reconcileBatches] at h
  | succ fuel =>
    unfold reconcileBatches at h
    split at h
    case h_1 => simp [failCycle] at h
    case h_2 n hsize =>
      cases tenant with
      | false => simp [failCycle] at h
      | true =>
        refine ⟨rfl, n, hsize, ?_⟩
        by_contra hnot
        push Not at hnot
        obtain ⟨hcallable, hsome, hfull⟩ := hnot
        have hbatch : mongoLimit n (studentsAfter students position) ≠ [] :=
          mt mongoLimit_eq_nil.mp hsome
        have hlength : ¬(mongoLimit n (studentsAfter students position)).length < n :=
          mt length_mongoLimit_lt.mp (by omega)
        obtain ⟨last, hlast⟩ := Option.isSome_iff_exists.mp (List.getLast?_isSome.mpr hbatch)
        simp [hlast, hlength, hcallable, failCycle] at h

/-! ## The cycle -/

/-- What the loop needs to come to its end, of the module and of the call. -/
structure CanResume (env : ReconcileEnv) (schoolId : Option String) (students : List Nat) : Prop where
  school : (truthy schoolId).isSome
  batches : ∃ n, env.batchSize = some n ∧
    (env.objectIdCallable = true ∨ students = [] ∨ students.length < n)

/-- **The reconciliation is resumable exactly if** a school is given and the batch size defined, and
one batch is enough or `ObjectId` can be called: the last call then begins afresh.  As the module
stands no call comes to its end. -/
theorem reconciliation_resumes_iff {store : Option ReconciliationCursor}
    (hfirst : ∀ c ∈ store, c.status ≠ .inProgress) (crashes : List CrashedCall)
    {students : List Nat} (hsorted : students.Pairwise (· < ·)) :
    ReconciliationResumes env schoolId store crashes students ↔ CanResume env schoolId students := by
  have hlast : lastCall env schoolId store crashes students = .findCursor ::
      reconcileBatches env (truthy schoolId).isSome false students (students.length + 1) none {} := by
    rw [lastCall, crashedCalls_store hfirst, reconcileAll_first hfirst]
  constructor
  · intro h
    have hreturned := h.completes
    rw [hlast] at hreturned
    obtain ⟨hschool, hbatches⟩ :=
      of_returned_mem_reconcileBatches ((List.mem_cons.mp hreturned).resolve_left (by simp))
    exact ⟨hschool, hbatches⟩
  · rintro ⟨hschool, n, hsize, hcall⟩
    rw [hschool] at hlast
    obtain ⟨hchecks, hreturned⟩ := @reconcileBatches_checks env false students
      (students.length + 1) none {} n hsize hsorted hcall (by simp [studentsAfter])
    have hchecked : checkedStudents (lastCall env schoolId store crashes students) = students := by
      rw [hlast]
      exact hchecks
    exact {
      completes := by
        rw [hlast]
        exact List.mem_cons_of_mem _ hreturned
      covers := fun id hid _ => by
        rw [cycleChecks, checkedStudents_append, hchecked]
        exact List.mem_append_right _ hid
      once := by
        rintro rfl id hid
        have hnodup : students.Nodup := hsorted.imp ne_of_lt
        rw [cycleChecks, checkedStudents_append, hchecked]
        exact List.count_eq_one_of_mem hnodup hid }

/-- One student, and no crash: the module as it stands throws before its first query. -/
theorem reconciliation_not_defined :
    ¬ReconciliationResumes reconciliationModule (some "s1") none [] [1] :=
  fun h => absurd h.completes (by decide)

/-- Three students and a crash within the second batch, first as the module stands. -/
theorem reconciliation_resumes_iff_batches :
    ¬ReconciliationResumes reconciliationModule (some "s1") none [⟨[1, 2, 3], 5⟩] [1, 2, 3] ∧
      ReconciliationResumes ⟨some 2, true⟩ (some "s1") none [⟨[1, 2, 3], 5⟩] [1, 2, 3] := by
  constructor
  · intro h
    obtain ⟨-, n, hsize, -⟩ := (reconciliation_resumes_iff (by simp) _ (by decide)).mp h
    simp [reconciliationModule] at hsize
  · exact (reconciliation_resumes_iff (by simp) _ (by decide)).mpr
      ⟨by decide, 2, rfl, .inl rfl⟩

end StellarEduPay

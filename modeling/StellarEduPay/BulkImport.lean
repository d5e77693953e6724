import Mathlib.Data.List.Basic
import Mathlib.Data.Int.Order.Basic

/-! # Inserting imported rows (`controllers/studentController.js`)

The rows of a bulk import are inserted in chunks of 500.  A chunk is inserted, or splits into inserted
documents and write errors, or ends with an error that tells of neither.

Each row that is counted also adds to the details as long as there is room for it, except that a write
error is counted only if there is.
-/
namespace StellarEduPay

/-! ## Rows, documents and results -/

/-- What is read of a validated row. -/
structure ValidatedRow where
  index : Nat
  studentId : String

structure InsertedStudent where
  id : String
  studentId : String

structure StudentWriteError where
  index : Nat
  code : Int
  message : String

inductive ImportDetail
  | created (row : Nat) (studentId id : String)
  | failed (row : Nat) (studentId error code : String)

structure ImportResults where
  created : Nat
  failed : Nat
  details : List ImportDetail

/-- How an `insertMany` ends, the last with as many students inserted as there may be. -/
inductive InsertOutcome
  | allInserted (students : List InsertedStudent)
  | bulkWriteError (insertedDocs : List InsertedStudent) (writeErrors : List StudentWriteError)
  | otherError (inserted : Nat)

def InsertOutcome.inserted : InsertOutcome → Nat
  | allInserted students => students.length
  | bulkWriteError insertedDocs _ => insertedDocs.length
  | otherError inserted => inserted

/-- The documents are rows of the chunk, and the errors the rest of it. -/
def InsertOutcome.OfChunk (chunk : List ValidatedRow) : InsertOutcome → Prop
  | allInserted students => students.length = chunk.length ∧
      ∀ s ∈ students, ∃ row ∈ chunk, row.studentId = s.studentId
  | bulkWriteError insertedDocs writeErrors =>
      insertedDocs.length + writeErrors.length = chunk.length ∧
        (∀ s ∈ insertedDocs, ∃ row ∈ chunk, row.studentId = s.studentId) ∧
        ∀ e ∈ writeErrors, e.index < chunk.length
  | otherError inserted => inserted ≤ chunk.length

/-! ## `insertValidatedRows` -/

section
variable (maxFailures : Int) (chunk : List ValidatedRow)

/-- The detail of an inserted document; `none` is a `TypeError`. -/
def recordCreated (results : ImportResults) (student : InsertedStudent) : Option ImportResults :=
  if (results.details.length : Int) < maxFailures then do
    let originalRow ← chunk.find? fun r => r.studentId = student.studentId
    return { results with
      details := results.details ++ [.created (originalRow.index + 2) student.studentId student.id] }
  else some results

def recordFailed (results : ImportResults) (writeErr : StudentWriteError) : Option ImportResults :=
  if (results.details.length : Int) < maxFailures then do
    let failedRow ← chunk[writeErr.index]?
    let duplicate := writeErr.code = 11000
    return { results with
      failed := results.failed + 1
      details := results.details ++ [.failed (failedRow.index + 2) failedRow.studentId
        (if duplicate then "Student ID already exists in this school" else writeErr.message)
        (if duplicate then "DUPLICATE_STUDENT_ID" else "INSERT_ERROR")] }
  else some results

def recordDocs (results : ImportResults) (docs : List InsertedStudent) : Option ImportResults :=
  docs.foldlM (recordCreated maxFailures chunk)
    { results with created := results.created + docs.length }

def recordChunk (results : ImportResults) : InsertOutcome → Option ImportResults
  | .allInserted students => recordDocs maxFailures chunk results students
  | .bulkWriteError insertedDocs writeErrors => do
    let results ← recordDocs maxFailures chunk results insertedDocs
    writeErrors.foldlM (recordFailed maxFailures chunk) results
  | .otherError _ => some results

end

/-- `CHUNK_SIZE` -/
def importChunkSize : Nat := 500

/-- `validatedRows.slice(i, i + CHUNK_SIZE)` -/
def chunkAt (rows : List ValidatedRow) (k : Nat) : List ValidatedRow :=
  (rows.drop (k * importChunkSize)).take importChunkSize

/-- How many times `i` is less than the number of rows. -/
def chunkCount (rows : List ValidatedRow) : Nat :=
  (rows.length + (importChunkSize - 1)) / importChunkSize

/-- Chunk `k` ends with `insertMany k`. -/
def insertValidatedRows (maxFailures : Int) (insertMany : Nat → InsertOutcome)
    (rows : List ValidatedRow) (results : ImportResults) : Option ImportResults :=
  (List.range (chunkCount rows)).foldlM
    (fun results k => recordChunk maxFailures (chunkAt rows k) results (insertMany k)) results

/-! ## What is recorded -/

/-- The number of details when there are `n` more to record. -/
def detailsAfter (maxFailures : Int) (details n : Nat) : Int :=
  max (details : Int) (min (details + n) maxFailures)

section
variable {maxFailures : Int} {details n : Nat}

theorem detailsAfter_zero (maxFailures : Int) (details : Nat) :
    detailsAfter maxFailures details 0 = details := by
  rw [detailsAfter]
  omega

/-- Some are recorded, and then some more. -/
theorem detailsAfter_detailsAfter {between : Nat}
    (h : (between : Int) = detailsAfter maxFailures details n) (k : Nat) :
    detailsAfter maxFailures between k = detailsAfter maxFailures details (n + k) := by
  rw [detailsAfter] at h ⊢
  rw [h, detailsAfter]
  omega

/-- All of the last `k` are recorded when there is room for them. -/
theorem detailsAfter_add_eq_iff (maxFailures : Int) (details n k : Nat) :
    detailsAfter maxFailures details (n + k) = detailsAfter maxFailures details n + k ↔
      (k ≠ 0 → (details + n + k : Int) ≤ maxFailures) := by
  rw [detailsAfter, detailsAfter]
  omega

theorem detailsAfter_add_le (k : Nat) :
    detailsAfter maxFailures details (n + k) ≤ detailsAfter maxFailures details n + k := by
  rw [detailsAfter, detailsAfter]
  omega

end

section
variable (maxFailures : Int) {chunk : List ValidatedRow} (results : ImportResults)

theorem recordCreated_spec {student : InsertedStudent}
    (hrow : ∃ row ∈ chunk, row.studentId = student.studentId) :
    ∃ r, recordCreated maxFailures chunk results student = some r ∧ r.created = results.created ∧
      r.failed = results.failed ∧
      (r.details.length : Int) = detailsAfter maxFailures results.details.length 1 := by
  unfold recordCreated detailsAfter
  split_ifs with hroom
  · obtain ⟨row, hmem, hid⟩ := hrow
    have hfound : (chunk.find? fun r => r.studentId = student.studentId).isSome = true := by
      rw [List.find?_isSome]
      exact ⟨row, hmem, decide_eq_true hid⟩
    obtain ⟨originalRow, hfind⟩ := Option.isSome_iff_exists.mp hfound
    rw [hfind]
    refine ⟨_, rfl, rfl, rfl, ?_⟩
    simp only [List.length_append, List.length_singleton]
    omega
  · exact ⟨results, rfl, rfl, rfl, by omega⟩

theorem recordFailed_spec {writeErr : StudentWriteError} (hindex : writeErr.index < chunk.length) :
    ∃ r, recordFailed maxFailures chunk results writeErr = some r ∧ r.created = results.created ∧
      (r.details.length : Int) = detailsAfter maxFailures results.details.length 1 ∧
      r.failed + results.details.length = results.failed + r.details.length := by
  unfold recordFailed detailsAfter
  split_ifs with hroom
  · rw [List.getElem?_eq_getElem hindex]
    refine ⟨_, rfl, rfl, ?_, ?_⟩ <;> simp only [List.length_append, List.length_singleton] <;> omega
  · exact ⟨results, rfl, rfl, by omega, rfl⟩

theorem foldlM_recordCreated {docs : List InsertedStudent}
    (hrows : ∀ s ∈ docs, ∃ row ∈ chunk, row.studentId = s.studentId) :
    ∃ r, docs.foldlM (recordCreated maxFailures chunk) results = some r ∧
      r.created = results.created ∧ r.failed = results.failed ∧
      (r.details.length : Int) = detailsAfter maxFailures results.details.length docs.length := by
  induction docs generalizing results with
  | nil =>
    exact ⟨results, rfl, rfl, rfl, (detailsAfter_zero _ _).symm⟩
  | cons student docs ih =>
    obtain ⟨r, hr, hcreated, hfailed, hdetails⟩ :=
      recordCreated_spec maxFailures results (hrows student List.mem_cons_self)
    obtain ⟨r', hr', hcreated', hfailed', hdetails'⟩ :=
      ih r fun s hs => hrows s (List.mem_cons_of_mem student hs)
    refine ⟨r', ?_, hcreated'.trans hcreated, hfailed'.trans hfailed, ?_⟩
    · rw [List.foldlM_cons, hr]
      exact hr'
    · rw [hdetails', detailsAfter_detailsAfter hdetails, List.length_cons, Nat.add_comm]

/-- The inserted documents are counted, and recorded as long as there is room. -/
theorem recordDocs_spec {docs : List InsertedStudent}
    (hrows : ∀ s ∈ docs, ∃ row ∈ chunk, row.studentId = s.studentId) :
    ∃ r, recordDocs maxFailures chunk results docs = some r ∧
      r.created = results.created + docs.length ∧ r.failed = results.failed ∧
      (r.details.length : Int) = detailsAfter maxFailures results.details.length docs.length :=
  foldlM_recordCreated maxFailures _ hrows

/-- The write errors are counted as far as they are recorded. -/
theorem foldlM_recordFailed {writeErrors : List StudentWriteError}
    (hindex : ∀ e ∈ writeErrors, e.index < chunk.length) :
    ∃ r, writeErrors.foldlM (recordFailed maxFailures chunk) results = some r ∧
      r.created = results.created ∧
      (r.details.length : Int) =
        detailsAfter maxFailures results.details.length writeErrors.length ∧
      r.failed + results.details.length = results.failed + r.details.length := by
  induction writeErrors generalizing results with
  | nil =>
    exact ⟨results, rfl, rfl, (detailsAfter_zero _ _).symm, rfl⟩
  | cons e writeErrors ih =>
    obtain ⟨r, hr, hcreated, hdetails, hfailed⟩ :=
      recordFailed_spec maxFailures results (hindex e List.mem_cons_self)
    obtain ⟨r', hr', hcreated', hdetails', hfailed'⟩ :=
      ih r fun e' he' => hindex e' (List.mem_cons_of_mem e he')
    refine ⟨r', ?_, hcreated'.trans hcreated, ?_, by omega⟩
    · rw [List.foldlM_cons, hr]
      exact hr'
    · rw [hdetails', detailsAfter_detailsAfter hdetails, List.length_cons, Nat.add_comm]

/-! ## One chunk -/

/-- The chunk is counted in full: it does not end with another error, and if there are write errors,
there is room for all its rows after `details` others. -/
def InsertOutcome.Counted (details rows : Nat) : InsertOutcome → Prop
  | allInserted _ => True
  | bulkWriteError _ writeErrors => writeErrors ≠ [] → (details + rows : Int) ≤ maxFailures
  | otherError _ => False

/-- **A chunk.**  It counts its students unless it ends with another error, and no more than its rows;
it records no more than there is room for. -/
theorem recordChunk_spec {outcome : InsertOutcome} (hchunk : outcome.OfChunk chunk)
    (hpos : 0 < chunk.length) :
    ∃ r, recordChunk maxFailures chunk results outcome = some r ∧
      r.created ≤ results.created + outcome.inserted ∧
      r.created + r.failed ≤ results.created + results.failed + chunk.length ∧
      (r.details.length : Int) ≤ detailsAfter maxFailures results.details.length chunk.length ∧
      (∀ d n, (results.details.length : Int) = detailsAfter maxFailures d n →
        (r.created + r.failed = results.created + results.failed + chunk.length ↔
          outcome.Counted maxFailures (d + n) chunk.length) ∧
        (outcome.Counted maxFailures (d + n) chunk.length →
          r.created = results.created + outcome.inserted ∧
          (r.details.length : Int) = detailsAfter maxFailures d (n + chunk.length))) := by
  cases outcome with
  | allInserted students =>
    obtain ⟨hlength, hrows⟩ := hchunk
    obtain ⟨r, hr, hcreated, hfailed, hdetails⟩ := recordDocs_spec maxFailures results hrows
    have hinserted : (InsertOutcome.allInserted students).inserted = students.length := rfl
    rw [hlength] at hdetails
    exact ⟨r, hr, by omega, by omega, Int.le_of_eq hdetails, fun d n hd =>
      ⟨iff_of_true (by omega) trivial, fun _ =>
        ⟨by omega, hdetails.trans (detailsAfter_detailsAfter hd _)⟩⟩⟩
  | bulkWriteError insertedDocs writeErrors =>
    obtain ⟨hlength, hrows, hindex⟩ := hchunk
    obtain ⟨r, hr, hcreated, hfailed, hdetails⟩ := recordDocs_spec maxFailures results hrows
    obtain ⟨r', hr', hcreated', hdetails', hfailed'⟩ := foldlM_recordFailed maxFailures r hindex
    have hinserted : (InsertOutcome.bulkWriteError insertedDocs writeErrors).inserted =
      insertedDocs.length := rfl
    -- the documents are recorded first, and the errors have what room is left
    have hall : (r'.details.length : Int) =
        detailsAfter maxFailures results.details.length chunk.length := by
      rw [hdetails', detailsAfter_detailsAfter hdetails, hlength]
    have hmore : (r'.details.length : Int) ≤ r.details.length + writeErrors.length := by
      rw [hall, hdetails, ← hlength]
      exact detailsAfter_add_le _
    refine ⟨r', ?_, by omega, by omega, Int.le_of_eq hall, fun d n hd => ⟨?_, fun _ => ⟨by omega, ?_⟩⟩⟩
    · rw [recordChunk, hr]
      exact hr'
    · have hrecorded : (r.details.length : Int) =
          detailsAfter maxFailures d (n + insertedDocs.length) := by
        rw [hdetails, detailsAfter_detailsAfter hd]
      have hroom := detailsAfter_add_eq_iff maxFailures d (n + insertedDocs.length)
        writeErrors.length
      rw [← detailsAfter_detailsAfter hrecorded, ← hdetails', ← hrecorded] at hroom
      have hnone : writeErrors ≠ [] ↔ writeErrors.length ≠ 0 := by
        rw [ne_eq, ne_eq, List.length_eq_zero_iff]
      have hcount : r'.created + r'.failed = results.created + results.failed + chunk.length ↔
          (r'.details.length : Int) = r.details.length + writeErrors.length := by
        omega
      rw [hcount, hroom, InsertOutcome.Counted, hnone, ← hlength]
      push_cast
      rw [Int.add_assoc, Int.add_assoc, Int.add_assoc]
    · rw [hall, detailsAfter_detailsAfter hd]
  | otherError inserted =>
    refine ⟨results, rfl, Nat.le_add_right _ _, by omega, ?_, fun d n hd =>
      ⟨iff_of_false (by omega) id, fun hcounted => hcounted.elim⟩⟩
    rw [detailsAfter]
    omega

end

/-! ## The import -/

/-- How many rows there are before chunk `k`. -/
def rowsBefore (rows : List ValidatedRow) (k : Nat) : Nat := min (k * importChunkSize) rows.length

/-- How many students the first `c` chunks have inserted. -/
def insertedBy (insertMany : Nat → InsertOutcome) : Nat → Nat
  | 0 => 0
  | c + 1 => insertedBy insertMany c + (insertMany c).inserted

/-- The first `c` chunks are counted in full: none ends with another error, and up to the end of each
that has write errors there are as many rows as there is room for beside the details there were. -/
def ImportCounted (maxFailures : Int) (insertMany : Nat → InsertOutcome) (rows : List ValidatedRow)
    (details c : Nat) : Prop :=
  ∀ k < c, (insertMany k).Counted maxFailures (details + rowsBefore rows k) (chunkAt rows k).length

section
variable {rows : List ValidatedRow} {k : Nat}

theorem lt_length_of_chunk (hk : k < chunkCount rows) : k * importChunkSize < rows.length := by
  rw [chunkCount, importChunkSize] at hk
  rw [importChunkSize]
  omega

theorem rowsBefore_succ (rows : List ValidatedRow) (k : Nat) :
    rowsBefore rows (k + 1) = rowsBefore rows k + (chunkAt rows k).length := by
  rw [rowsBefore, rowsBefore, chunkAt, List.length_take, List.length_drop, importChunkSize]
  omega

theorem rowsBefore_chunkCount (rows : List ValidatedRow) :
    rowsBefore rows (chunkCount rows) = rows.length := by
  rw [rowsBefore, chunkCount, importChunkSize]
  omega

theorem chunkAt_length_pos (hk : k < chunkCount rows) : 0 < (chunkAt rows k).length := by
  have hlt := lt_length_of_chunk hk
  rw [chunkAt, List.length_take, List.length_drop]
  rw [importChunkSize] at hlt ⊢
  omega

theorem importCounted_succ {maxFailures : Int} {insertMany : Nat → InsertOutcome} {details c : Nat} :
    ImportCounted maxFailures insertMany rows details (c + 1) ↔
      ImportCounted maxFailures insertMany rows details c ∧
        (insertMany c).Counted maxFailures (details + rowsBefore rows c) (chunkAt rows c).length := by
  constructor
  · intro h
    exact ⟨fun k hk => h k (Nat.lt_succ_of_lt hk), h c (Nat.lt_succ_self c)⟩
  · rintro ⟨h, hlast⟩ k hk
    rcases Nat.lt_or_eq_of_le (Nat.le_of_lt_succ hk) with hk | rfl
    · exact h k hk
    · exact hlast

/-- **The chunks**, one after another. -/
theorem recordChunks_spec (maxFailures : Int) {insertMany : Nat → InsertOutcome}
    (hchunks : ∀ k < chunkCount rows, (insertMany k).OfChunk (chunkAt rows k))
    (results : ImportResults) {c : Nat} (hc : c ≤ chunkCount rows) :
    ∃ r, (List.range c).foldlM
        (fun results k => recordChunk maxFailures (chunkAt rows k) results (insertMany k)) results =
          some r ∧
      r.created ≤ results.created + insertedBy insertMany c ∧
      r.created + r.failed ≤ results.created + results.failed + rowsBefore rows c ∧
      (r.details.length : Int) ≤ max (results.details.length : Int) maxFailures ∧
      (r.created + r.failed = results.created + results.failed + rowsBefore rows c ↔
        ImportCounted maxFailures insertMany rows results.details.length c) ∧
      (ImportCounted maxFailures insertMany rows results.details.length c →
        r.created = results.created + insertedBy insertMany c ∧
        (r.details.length : Int) =
          detailsAfter maxFailures results.details.length (rowsBefore rows c)) := by
  induction c with
  | zero =>
    have hnone : rowsBefore rows 0 = 0 := by rw [rowsBefore, Nat.zero_mul, Nat.zero_min]
    refine ⟨results, rfl, Nat.le_refl _, by omega, by omega, iff_of_true (by omega) nofun,
      fun _ => ⟨rfl, ?_⟩⟩
    rw [hnone, detailsAfter]
    omega
  | succ c ih =>
    obtain ⟨r, hr, hcreated, hcounted, hdetails, hfull, hsofar⟩ := ih (by omega)
    obtain ⟨r', hr', hcreated', hcounted', hdetails', hexact⟩ :=
      recordChunk_spec maxFailures r (hchunks c hc) (chunkAt_length_pos hc)
    have hrows := rowsBefore_succ rows c
    refine ⟨r', ?_, ?_, by omega, ?_, ?_, ?_⟩
    · rw [List.range_succ, List.foldlM_append, hr]
      simpa using hr'
    · rw [insertedBy]
      omega
    · rw [detailsAfter] at hdetails'
      omega
    · rw [importCounted_succ, hrows]
      constructor
      · intro hall
        have hbefore := hfull.mp (by omega)
        obtain ⟨hlast, -⟩ := hexact _ _ (hsofar hbefore).2
        exact ⟨hbefore, hlast.mp (by have := hfull.mpr hbefore; omega)⟩
      · rintro ⟨hbefore, hlast⟩
        obtain ⟨hiff, -⟩ := hexact _ _ (hsofar hbefore).2
        have hall := hfull.mpr hbefore
        have hchunk := hiff.mpr hlast
        omega
    · intro hall
      obtain ⟨hbefore, hlast⟩ := importCounted_succ.mp hall
      obtain ⟨hsame, hroom⟩ := hsofar hbefore
      obtain ⟨hnew, hroom'⟩ := (hexact _ _ hroom).2 hlast
      rw [hrows, insertedBy]
      exact ⟨by omega, hroom'⟩

end

/-- **A bulk import adds up** when its chunks are counted in full, and only then; the details never
grow past their limit. -/
theorem bulkImport_adds_up_iff (maxFailures : Int) (insertMany : Nat → InsertOutcome)
    (rows : List ValidatedRow) (results : ImportResults)
    (hchunks : ∀ k < chunkCount rows, (insertMany k).OfChunk (chunkAt rows k)) :
    ∃ r, insertValidatedRows maxFailures insertMany rows results = some r ∧
      (r.details.length : Int) ≤ max (results.details.length : Int) maxFailures ∧
      (r.created = results.created + insertedBy insertMany (chunkCount rows) ∧
          r.created + r.failed = results.created + results.failed + rows.length ↔
        ImportCounted maxFailures insertMany rows results.details.length (chunkCount rows)) := by
  obtain ⟨r, hr, -, -, hdetails, hfull, hcounted⟩ :=
    recordChunks_spec maxFailures hchunks results (Nat.le_refl _)
  rw [rowsBefore_chunkCount] at hfull
  exact ⟨r, hr, hdetails, fun h => hfull.mp h.2, fun h => ⟨(hcounted h).1, hfull.mpr h⟩⟩

/-- One row is inserted, and there is room for the one that is not. -/
theorem bulkImport_adds_up_room :
    ∃ r, insertValidatedRows 100
        (fun _ => .bulkWriteError [⟨"id", "STU001"⟩] [⟨1, 11000, "E11000"⟩])
        [⟨0, "STU001"⟩, ⟨1, "STU002"⟩] ⟨0, 0, []⟩ = some r ∧ r.created + r.failed = 2 := by
  obtain ⟨r, hr, -, hiff⟩ := bulkImport_adds_up_iff 100
    (fun _ => .bulkWriteError [⟨"id", "STU001"⟩] [⟨1, 11000, "E11000"⟩])
    [⟨0, "STU001"⟩, ⟨1, "STU002"⟩] ⟨0, 0, []⟩ (fun k hk => by
      obtain rfl : k = 0 := Nat.lt_one_iff.mp hk
      exact ⟨rfl, by simp [chunkAt, importChunkSize], by simp [chunkAt, importChunkSize]⟩)
  have hcounted := hiff.mpr fun k hk => by
    obtain rfl : k = 0 := Nat.lt_one_iff.mp hk
    exact fun _ => by decide
  exact ⟨r, hr, hcounted.2⟩

/-- Where 100 rows have failed already, a duplicate is counted nowhere. -/
theorem bulkImport_uncounted : ¬∀ (maxFailures : Int) (insertMany : Nat → InsertOutcome)
    (rows : List ValidatedRow) (results : ImportResults),
    (∀ k < chunkCount rows, (insertMany k).OfChunk (chunkAt rows k)) →
    ∃ r, insertValidatedRows maxFailures insertMany rows results = some r ∧
      r.created + r.failed = results.created + results.failed + rows.length := by
  intro h
  obtain ⟨r, hr, hsum⟩ := h 100 (fun _ => .bulkWriteError [] [⟨0, 11000, "E11000"⟩])
    [⟨100, "STU101"⟩] ⟨0, 100, List.replicate 100 (.failed 2 "" "studentId is required" "")⟩
    (fun k hk => by
      obtain rfl : k = 0 := Nat.lt_one_iff.mp hk
      exact ⟨rfl, nofun, by simp [chunkAt, importChunkSize]⟩)
  have hlost : insertValidatedRows 100 (fun _ => .bulkWriteError [] [⟨0, 11000, "E11000"⟩])
      [⟨100, "STU101"⟩] ⟨0, 100, List.replicate 100 (.failed 2 "" "studentId is required" "")⟩ =
        some ⟨0, 100, List.replicate 100 (.failed 2 "" "studentId is required" "")⟩ := rfl
  obtain rfl := Option.some.inj (hr.symm.trans hlost)
  cases hsum

end StellarEduPay

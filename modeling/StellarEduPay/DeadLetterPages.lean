import Mathlib.Data.List.TakeDrop
import StellarEduPay.JsString

/-! # Pages of the dead-letter queue (`controllers/paymentAdminController.js`)

The queue holds the jobs of all schools.  A page is filled from batches of the queue, passing over the
jobs that the caller may not see.  The controller asks `config/retryQueueSetup.js` for the queue, by a
name which that module does not export.

`getFailed(start, end)` is that of the queue, both ends included.
-/
namespace StellarEduPay

/-! ## Jobs and callers -/

/-- What is read of the data of a job; `schoolId` is `none` where it is `undefined`. -/
structure DeadLetterData where
  schoolId : Option String
  payload : String
  deriving DecidableEq

structure DeadLetterJob where
  id : String
  name : String
  data : Option DeadLetterData
  failedReason : String
  deriving DecidableEq

structure DlqRequest where
  admin : Bool
  schoolId : Option String
  start : Option String
  end_ : Option String

/-- `String(s)` -/
def stringOf (s : Option String) : String := s.getD "undefined"

def jobBelongsToSchool (job : DeadLetterJob) (schoolId : Option String) : Bool :=
  match job.data with
  | some data => stringOf data.schoolId = stringOf schoolId
  | none => false

def isDlqCrossTenantViewer (req : DlqRequest) : Bool := req.admin && (truthy req.schoolId).isNone

/-- The jobs that are not passed over. -/
def DlqRequest.sees (req : DlqRequest) (job : DeadLetterJob) : Bool :=
  isDlqCrossTenantViewer req || jobBelongsToSchool job req.schoolId

/-! ## Pages -/

/-- `DLQ_DEFAULT_PAGE_SIZE` -/
def dlqDefaultPageSize : Nat := 100

/-- `DLQ_MAX_PAGE_SIZE` -/
def dlqMaxPageSize : Nat := 500

/-- The job numbers of a page, the last one included. -/
structure DlqRange where
  start : Nat
  last : Nat
  deriving DecidableEq

def parseDlqRange (req : DlqRequest) : DlqRange :=
  let start := ((req.start.bind jsParseInt).getD 0).toNat
  match req.end_.bind jsParseInt with
  | some rawEnd =>
    if (start : Int) ≤ rawEnd then ⟨start, min rawEnd.toNat (start + dlqMaxPageSize - 1)⟩
    else ⟨start, start + dlqDefaultPageSize - 1⟩
  | none => ⟨start, start + dlqDefaultPageSize - 1⟩

theorem parseDlqRange_le (req : DlqRequest) : (parseDlqRange req).start ≤ (parseDlqRange req).last := by
  unfold parseDlqRange
  dsimp only [dlqDefaultPageSize, dlqMaxPageSize]
  split
  · split_ifs <;> dsimp only <;> omega
  · dsimp only
    omega

/-- What has been collected so far. -/
structure DlqScan where
  jobs : List DeadLetterJob
  total : Nat
  deriving DecidableEq

structure DlqResponse where
  jobs : List DeadLetterJob
  total : Nat
  range : Option DlqRange
  deriving DecidableEq

section
variable (sees : DeadLetterJob → Bool) (range : DlqRange)

def DlqScan.collect (s : DlqScan) (job : DeadLetterJob) : DlqScan :=
  if sees job then
    { jobs :=
        if range.start ≤ s.total ∧ s.jobs.length ≤ range.last then s.jobs ++ [job] else s.jobs
      total := s.total + 1 }
  else s

variable (getFailed : Nat → Nat → Option (List DeadLetterJob))

/-- The loop over the batches; `none` where it is still going on after so many. -/
def DlqScan.batches : Nat → Nat → DlqScan → Option DlqScan
  | 0, _, _ => none
  | fuel + 1, offset, s =>
    if s.jobs.length ≤ range.last then
      match getFailed offset (offset + dlqMaxPageSize - 1) with
      | none | some [] => some s
      | some batch =>
        let s := batch.foldl (DlqScan.collect sees range) s
        if batch.length < dlqMaxPageSize then some s
        else DlqScan.batches fuel (offset + batch.length) s
    else some s

end

/-- What `getDeadLetterJobs` answers with a queue in hand. -/
def deadLetterPage (fuel : Nat) (getFailed : Nat → Nat → Option (List DeadLetterJob))
    (req : DlqRequest) : Option DlqResponse :=
  let range := parseDlqRange req
  (DlqScan.batches req.sees range getFailed fuel 0 ⟨[], 0⟩).map fun s =>
    ⟨s.jobs, s.total, some range⟩

/-- `module.exports` of `config/retryQueueSetup.js`. -/
def retryQueueSetupExports : List String :=
  ["initializeRetryQueue", "getRetryQueueHealth", "getSystemStatus", "setupGracefulShutdown",
    "setupMonitoring", "gracefulShutdown"]

/-- `queue` is `none` where there is no dead-letter queue; an error goes to `next(err)`. -/
def getDeadLetterJobs (exports : List String) (fuel : Nat)
    (queue : Option (Nat → Nat → Option (List DeadLetterJob))) (req : DlqRequest) :
    Except String (Option DlqResponse) :=
  if "getDeadLetterQueue" ∈ exports then
    match queue with
    | none => .ok (some ⟨[], 0, none⟩)
    | some getFailed => .ok (deadLetterPage fuel getFailed req)
  else .error "getDeadLetterQueue is not a function"

/-! ## What a scan has collected -/

/-- The jobs number `first` to `last`, both included. -/
def ServesRange (queue : List DeadLetterJob) (getFailed : Nat → Nat → Option (List DeadLetterJob)) :
    Prop :=
  ∀ first last, getFailed first last = some ((queue.drop first).take (last + 1 - first))

/-- The scan has seen the jobs `seen`. -/
structure Collected (range : DlqRange) (seen : List DeadLetterJob) (s : DlqScan) : Prop where
  jobs : s.jobs = (seen.drop range.start).take (range.last + 1)
  total : s.total = seen.length

section
variable {sees : DeadLetterJob → Bool} {range : DlqRange} {seen : List DeadLetterJob} {s : DlqScan}

theorem Collected.push (h : Collected range seen s) {job : DeadLetterJob} (hsees : sees job = true) :
    Collected range (seen ++ [job]) (s.collect sees range job) := by
  rw [DlqScan.collect, if_pos hsees]
  refine ⟨?_, by simp [h.total]⟩
  have hlength : s.jobs.length = min (range.last + 1) (seen.length - range.start) := by
    rw [h.jobs, List.length_take, List.length_drop]
  rw [h.total]
  dsimp only
  split_ifs with hpush
  · obtain ⟨hstart, hroom⟩ := hpush
    have hfits : (seen.drop range.start).length ≤ range.last := by
      rw [List.length_drop]
      omega
    rw [h.jobs, List.drop_append_of_le_length hstart, List.take_of_length_le (by omega),
      List.take_of_length_le (by simpa using hfits)]
  · rw [h.jobs]
    by_cases hstart : range.start ≤ seen.length
    · have hfull : range.last + 1 ≤ (seen.drop range.start).length := by
        rw [List.length_drop]
        omega
      rw [List.drop_append_of_le_length hstart, List.take_append_of_le_length hfull]
    · rw [List.drop_eq_nil_of_le (by omega), List.drop_eq_nil_of_le (by simp; omega)]

theorem Collected.batch (h : Collected range seen s) (batch : List DeadLetterJob) :
    Collected range (seen ++ batch.filter sees) (batch.foldl (DlqScan.collect sees range) s) := by
  induction batch generalizing seen s with
  | nil => simpa using h
  | cons job batch ih =>
    rw [List.foldl_cons, List.filter_cons]
    by_cases hsees : sees job = true
    · rw [if_pos hsees, List.append_cons]
      exact ih (h.push hsees)
    · rw [if_neg hsees]
      have hsame : s.collect sees range job = s := if_neg hsees
      rw [hsame]
      exact ih h

theorem Collected.length_le_iff (h : Collected range seen s) :
    s.jobs.length ≤ range.last ↔ (seen.drop range.start).length ≤ range.last := by
  rw [h.jobs, List.length_take]
  omega

/-- The jobs that `sees` lets through. -/
def visible (sees : DeadLetterJob → Bool) (queue : List DeadLetterJob) : List DeadLetterJob :=
  queue.filter sees

/-- The page is full after the first `m` jobs of the queue. -/
def FullAfter (sees : DeadLetterJob → Bool) (range : DlqRange) (queue : List DeadLetterJob)
    (m : Nat) : Prop :=
  range.last < ((visible sees (queue.take m)).drop range.start).length

/-- What a scan ends with: it has read the first `m` jobs, in whole batches if that is not all, and
the page was not full any sooner. -/
structure Scanned (sees : DeadLetterJob → Bool) (range : DlqRange) (queue : List DeadLetterJob)
    (m : Nat) (s : DlqScan) : Prop where
  collected : Collected range (visible sees (queue.take m)) s
  sooner : ∀ k, 500 * k < m → ¬FullAfter sees range queue (500 * k)
  stopped : queue.length ≤ m ∨ ∃ k, m = 500 * k ∧ FullAfter sees range queue m

variable {queue : List DeadLetterJob} {getFailed : Nat → Nat → Option (List DeadLetterJob)}

/-- **The loop**, from one batch to the next. -/
theorem scanned_batches (hserves : ServesRange queue getFailed) (fuel k : Nat) (s : DlqScan)
    (hcollected : Collected range (visible sees (queue.take (500 * k))) s)
    (hsooner : ∀ j < k, ¬FullAfter sees range queue (500 * j)) (hk : 500 * k ≤ queue.length)
    (hfuel : queue.length < fuel + 500 * k) :
    ∃ m s', DlqScan.batches sees range getFailed fuel (500 * k) s = some s' ∧
      Scanned sees range queue m s' := by
  induction fuel generalizing k s with
  | zero => omega
  | succ fuel ih =>
    unfold DlqScan.batches
    by_cases hroom : s.jobs.length ≤ range.last
    · have hopen : ¬FullAfter sees range queue (500 * k) :=
        not_lt.mpr (hcollected.length_le_iff.mp hroom)
      have hsooner' : ∀ j, 500 * j < 500 * k + 500 → ¬FullAfter sees range queue (500 * j) := by
        intro j hj
        rcases Nat.lt_or_eq_of_le (show j ≤ k by omega) with hj | rfl
        · exact hsooner j hj
        · exact hopen
      have hbatch : getFailed (500 * k) (500 * k + dlqMaxPageSize - 1) =
          some ((queue.drop (500 * k)).take 500) := by
        rw [hserves]
        congr 2
        rw [dlqMaxPageSize]
        omega
      have hnext : Collected range (visible sees (queue.take (500 * k + 500)))
          (((queue.drop (500 * k)).take 500).foldl (DlqScan.collect sees range) s) := by
        rw [List.take_add, visible, List.filter_append]
        exact hcollected.batch _
      have hlength : ((queue.drop (500 * k)).take 500).length = min 500 (queue.length - 500 * k) := by
        rw [List.length_take, List.length_drop]
      rw [if_pos hroom, hbatch]
      -- the queue ends before this batch, or with it, or goes on
      split
      · rename_i heq
        cases heq
      · rename_i heq
        rw [Option.some.inj heq, List.length_nil] at hlength
        exact ⟨500 * k, s, rfl, hcollected, fun j hj => hsooner' j (by omega), .inl (by omega)⟩
      · rename_i batch hnonempty heq
        rw [Option.some.inj heq] at hlength hnext
        dsimp only
        split_ifs with hlast
        · rw [dlqMaxPageSize] at hlast
          exact ⟨500 * k + 500, _, rfl, hnext, hsooner', .inl (by omega)⟩
        · rw [dlqMaxPageSize] at hlast
          have hfull : batch.length = 500 := by omega
          rw [hfull]
          exact ih (k + 1) _ hnext (fun j hj => hsooner' j (by omega)) (by omega) (by omega)
    · rw [if_neg hroom]
      refine ⟨500 * k, s, rfl, hcollected, fun j hj => hsooner j (by omega), .inr ⟨k, rfl, ?_⟩⟩
      exact not_le.mp (mt hcollected.length_le_iff.mpr hroom)

/-! ## When a page is right -/

theorem visible_split (sees : DeadLetterJob → Bool) (queue : List DeadLetterJob) (m : Nat) :
    visible sees queue = visible sees (queue.take m) ++ visible sees (queue.drop m) := by
  rw [visible, visible, visible, ← List.filter_append, List.take_append_drop]

theorem visible_drop_of_le {m n : Nat} (hmn : m ≤ n) (h : visible sees (queue.drop m) = []) :
    visible sees (queue.drop n) = [] := by
  rw [visible, List.filter_eq_nil_iff] at h ⊢
  intro job hjob
  refine h job ?_
  rw [← Nat.add_sub_cancel' hmn, ← List.drop_drop] at hjob
  exact List.mem_of_mem_drop hjob

/-- The page holds the visible jobs number `start` to `last`, and the total counts all of them. -/
structure PageRight (sees : DeadLetterJob → Bool) (range : DlqRange) (queue : List DeadLetterJob)
    (jobs : List DeadLetterJob) (total : Nat) : Prop where
  jobs : jobs = ((visible sees queue).drop range.start).take (range.last + 1 - range.start)
  total : total = (visible sees queue).length

/-- There are no visible jobs after number `last`; or the page is the first, and none after the batch
that fills it. -/
def PageCovered (sees : DeadLetterJob → Bool) (range : DlqRange) (queue : List DeadLetterJob) : Prop :=
  (visible sees queue).length ≤ range.last + 1 ∨
    range.start = 0 ∧ ∀ k, range.last < (visible sees (queue.take (500 * k))).length →
      visible sees (queue.drop (500 * k)) = []

variable {m : Nat}

/-- The scan collects as many jobs as the page has numbers up to its last. -/
theorem Scanned.jobs_eq (h : Scanned sees range queue m s) :
    s.jobs = ((visible sees queue).drop range.start).take (range.last + 1) := by
  rw [h.collected.jobs]
  rcases h.stopped with hall | ⟨-, -, hfull⟩
  · rw [List.take_of_length_le hall]
  · have hlength : range.last < (visible sees (queue.take m)).length - range.start := by
      rw [← List.length_drop]
      exact hfull
    rw [visible_split sees queue m, List.drop_append_of_le_length (by omega),
      List.take_append_of_le_length hfull]

theorem Scanned.total_eq_iff (h : Scanned sees range queue m s) :
    s.total = (visible sees queue).length ↔ visible sees (queue.drop m) = [] := by
  rw [h.collected.total, visible_split sees queue m, List.length_append, ← List.length_eq_zero_iff]
  omega

theorem Scanned.right_of_covered (h : Scanned sees range queue m s)
    (hcovered : PageCovered sees range queue) : PageRight sees range queue s.jobs s.total := by
  have hsplit := congrArg List.length (visible_split sees queue m)
  rw [List.length_append] at hsplit
  rcases hcovered with hlast | ⟨hstart, hrest⟩
  · -- nothing is left behind the page: it may stop early only where it is the whole list
    refine ⟨?_, h.total_eq_iff.mpr ?_⟩
    · have hlength : ((visible sees queue).drop range.start).length ≤
          range.last + 1 - range.start := by
        rw [List.length_drop]
        omega
      rw [h.jobs_eq, List.take_of_length_le hlength, List.take_of_length_le (by omega)]
    · rcases h.stopped with hall | ⟨-, -, hfull⟩
      · rw [List.drop_eq_nil_of_le hall]
        rfl
      · rw [FullAfter, List.length_drop] at hfull
        exact List.length_eq_zero_iff.mp (by omega)
  · refine ⟨by rw [h.jobs_eq, hstart, Nat.sub_zero], h.total_eq_iff.mpr ?_⟩
    rcases h.stopped with hall | ⟨k, rfl, hfull⟩
    · rw [List.drop_eq_nil_of_le hall]
      rfl
    · rw [FullAfter, hstart, List.drop_zero] at hfull
      exact hrest k hfull

theorem Scanned.covered_of_right (h : Scanned sees range queue m s) (hrange : range.start ≤ range.last)
    (hright : PageRight sees range queue s.jobs s.total) : PageCovered sees range queue := by
  by_cases hlast : (visible sees queue).length ≤ range.last + 1
  · exact .inl hlast
  · -- a page that starts later would hold more than its numbers
    have hstart : range.start = 0 := by
      have hlengths := congrArg List.length (h.jobs_eq.symm.trans hright.jobs)
      rw [List.length_take, List.length_take, List.length_drop] at hlengths
      omega
    refine .inr ⟨hstart, fun k hk => ?_⟩
    by_cases hsooner : 500 * k < m
    · refine absurd ?_ (h.sooner k hsooner)
      rwa [FullAfter, hstart, List.drop_zero]
    · exact visible_drop_of_le (not_lt.mp hsooner) (h.total_eq_iff.mp hright.total)

end

/-! ## Walking the pages -/

section
variable {α : Type} (v : List α) (n : Nat)

/-- The slices of a list are the list. -/
theorem flatMap_slices (count : Nat) :
    ((List.range count).flatMap fun k => (v.drop (k * n)).take n) = v.take (count * n) := by
  induction count with
  | zero => simp
  | succ count ih =>
    rw [List.range_succ, List.flatMap_append, ih, List.flatMap_singleton, Nat.succ_mul, List.take_add]

/-- With more than two pages to list, the second shows too much. -/
theorem lt_length_pages (count : Nat) (hn : 0 < n) (hlong : 2 * n < v.length) :
    min v.length (count * n) + (if 2 ≤ count then 1 else 0) ≤
      ((List.range count).flatMap fun k => (v.drop (k * n)).take (k * n + n)).length := by
  induction count with
  | zero => simp
  | succ count ih =>
    rw [List.range_succ, List.flatMap_append, List.length_append, List.flatMap_singleton,
      List.length_take, List.length_drop, Nat.succ_mul]
    -- the second page is the one that shows too much
    rcases count with - | - | count
    · simp
    · rw [if_neg (by omega), Nat.zero_add, Nat.one_mul] at ih
      rw [if_pos (by omega), Nat.zero_add, Nat.one_mul]
      omega
    · rw [if_pos (by omega)] at ih ⊢
      omega

/-- The pages list everything exactly once when there are two of them or fewer. -/
theorem flatMap_pages_iff {count : Nat} (hn : 0 < n) (hcount : v.length ≤ count * n) :
    ((List.range count).flatMap fun k => (v.drop (k * n)).take (k * n + n)) = v ↔
      v.length ≤ 2 * n := by
  constructor
  · intro h
    by_contra hlong
    have hmore := lt_length_pages v n count hn (not_le.mp hlong)
    rw [h] at hmore
    by_cases htwo : 2 ≤ count
    · rw [if_pos htwo] at hmore
      omega
    · have hle := Nat.mul_le_mul_right n (show count ≤ 1 by omega)
      omega
  · intro hshort
    have hslices : ∀ k, (v.drop (k * n)).take (k * n + n) = (v.drop (k * n)).take n := by
      intro k
      rcases k with - | k
      · simp
      · have hlength : (v.drop ((k + 1) * n)).length ≤ n := by
          rw [List.length_drop, Nat.succ_mul]
          omega
        rw [List.take_of_length_le (by omega), List.take_of_length_le hlength]
    simp only [hslices]
    rw [flatMap_slices, List.take_of_length_le hcount]

end

/-- The jobs that a request gets. -/
def pageJobs (fuel : Nat) (getFailed : Nat → Nat → Option (List DeadLetterJob)) (req : DlqRequest) :
    List DeadLetterJob :=
  ((deadLetterPage fuel getFailed req).map DlqResponse.jobs).getD []

/-- Requests of one caller for page after page of `n` jobs. -/
structure Pages (req : DlqRequest) (n : Nat) (pages : Nat → DlqRequest) : Prop where
  sees : ∀ k, (pages k).sees = req.sees
  range : ∀ k, parseDlqRange (pages k) = ⟨k * n, k * n + n - 1⟩

section
variable {queue : List DeadLetterJob} {getFailed : Nat → Nat → Option (List DeadLetterJob)}
  {fuel : Nat}

/-- What a request gets, by its range. -/
theorem deadLetterPage_eq (hserves : ServesRange queue getFailed) (hfuel : queue.length < fuel)
    (req : DlqRequest) :
    ∃ m s, deadLetterPage fuel getFailed req =
        some ⟨s.jobs, s.total, some (parseDlqRange req)⟩ ∧
      Scanned req.sees (parseDlqRange req) queue m s := by
  have hnone : Collected (parseDlqRange req) (visible req.sees (queue.take (500 * 0))) ⟨[], 0⟩ :=
    ⟨by simp [visible], rfl⟩
  obtain ⟨m, s, hs, hscanned⟩ :=
    scanned_batches hserves fuel 0 ⟨[], 0⟩ hnone nofun (Nat.zero_le _) (by omega)
  refine ⟨m, s, ?_, hscanned⟩
  rw [Nat.mul_zero] at hs
  rw [deadLetterPage, hs]
  rfl

theorem pageJobs_eq (hserves : ServesRange queue getFailed) (hfuel : queue.length < fuel)
    (req : DlqRequest) : pageJobs fuel getFailed req =
      ((visible req.sees queue).drop (parseDlqRange req).start).take
        ((parseDlqRange req).last + 1) := by
  obtain ⟨m, s, hpage, hscanned⟩ := deadLetterPage_eq hserves hfuel req
  rw [pageJobs, hpage]
  exact hscanned.jobs_eq

theorem walk_iff (hserves : ServesRange queue getFailed) (hfuel : queue.length < fuel)
    {req : DlqRequest} {n count : Nat} (hn : 0 < n) {pages : Nat → DlqRequest}
    (hpages : Pages req n pages) (hcount : (visible req.sees queue).length ≤ count * n) :
    ((List.range count).flatMap fun k => pageJobs fuel getFailed (pages k)) =
        visible req.sees queue ↔ (visible req.sees queue).length ≤ 2 * n := by
  rw [← flatMap_pages_iff _ n hn hcount]
  have hpage : ∀ k, pageJobs fuel getFailed (pages k) =
      ((visible req.sees queue).drop (k * n)).take (k * n + n) := by
    intro k
    rw [pageJobs_eq hserves hfuel, hpages.sees, hpages.range]
    dsimp only
    rw [show k * n + n - 1 + 1 = k * n + n by omega]
  simp only [hpage]

end

/-- **Dead-letter pages**: no request gets one, whatever the queue holds and whoever asks.  The loop
would make a right page of a queue when it is covered, and only then; a walk in pages of `n` would list
each visible job once when there are at most `2 * n`, and only then; and a school would be shown no job
of another. -/
theorem deadLetterJobs_answers_no_page (queue : List DeadLetterJob)
    (getFailed : Nat → Nat → Option (List DeadLetterJob)) (req : DlqRequest) (fuel : Nat) :
    (∀ page, getDeadLetterJobs retryQueueSetupExports fuel (some getFailed) req ≠ .ok (some page)) ∧
      (ServesRange queue getFailed → queue.length < fuel →
        ∃ page, deadLetterPage fuel getFailed req = some page ∧
          page.range = some (parseDlqRange req) ∧
          (PageRight req.sees (parseDlqRange req) queue page.jobs page.total ↔
            PageCovered req.sees (parseDlqRange req) queue) ∧
          (∀ job ∈ page.jobs, isDlqCrossTenantViewer req = true ∨
            jobBelongsToSchool job req.schoolId = true) ∧
          ∀ n count pages, 0 < n → Pages req n pages →
            (visible req.sees queue).length ≤ count * n →
            (((List.range count).flatMap fun k => pageJobs fuel getFailed (pages k)) =
                visible req.sees queue ↔ (visible req.sees queue).length ≤ 2 * n)) := by
  constructor
  · intro page hpage
    cases hpage
  · intro hserves hfuel
    obtain ⟨m, s, hpage, hscanned⟩ := deadLetterPage_eq hserves hfuel req
    refine ⟨_, hpage, rfl, ⟨hscanned.covered_of_right (parseDlqRange_le req),
      hscanned.right_of_covered⟩, fun job hjob => ?_, fun n count pages hn hpages hcount =>
        walk_iff hserves hfuel hn hpages hcount⟩
    rw [hscanned.jobs_eq] at hjob
    have hvisible := List.mem_of_mem_drop (List.mem_of_mem_take hjob)
    have hsees := (List.mem_filter.mp hvisible).2
    rwa [DlqRequest.sees, Bool.or_eq_true] at hsees

/-- The queue that serves its own range. -/
def servedQueue (queue : List DeadLetterJob) (first last : Nat) : Option (List DeadLetterJob) :=
  some ((queue.drop first).take (last + 1 - first))

def failedJob (id : String) : DeadLetterJob := ⟨id, "retry", some ⟨some "SCH-1", ""⟩, "timeout"⟩

def threeFailed : List DeadLetterJob := [failedJob "0", failedJob "1", failedJob "2"]

/-- The first page of two jobs is not answered; the loop would make a right one. -/
theorem deadLetterJobs_answers_no_page_first :
    getDeadLetterJobs retryQueueSetupExports 4 (some (servedQueue threeFailed))
      ⟨false, some "SCH-1", some "0", some "1"⟩ ≠ .ok (some ⟨[failedJob "0", failedJob "1"], 3,
        some ⟨0, 1⟩⟩) ∧
    ∃ page, deadLetterPage 4 (servedQueue threeFailed) ⟨false, some "SCH-1", some "0", some "1"⟩ =
      some page ∧ page.total = 3 := by
  obtain ⟨hthrows, hloop⟩ := deadLetterJobs_answers_no_page threeFailed (servedQueue threeFailed)
    ⟨false, some "SCH-1", some "0", some "1"⟩ 4
  obtain ⟨page, hpage, -, hright, -⟩ := hloop (fun _ _ => rfl) (by decide)
  have hrange : parseDlqRange ⟨false, some "SCH-1", some "0", some "1"⟩ = ⟨0, 1⟩ := by decide +kernel
  refine ⟨hthrows _, page, hpage, (hright.mpr (.inr ⟨by rw [hrange], fun k hk => ?_⟩)).total⟩
  rw [hrange] at hk
  cases k with
  | zero => cases hk
  | succ k =>
    have hall : threeFailed.length ≤ 500 * (k + 1) := by
      rw [threeFailed, List.length_cons, List.length_cons, List.length_singleton]
      omega
    rw [List.drop_eq_nil_of_le hall]
    rfl

/-- Of three jobs, the page of number one alone is not answered, and the loop shows number two in it
as well. -/
theorem deadLetterJobs_answers_nothing :
    (¬∀ (queue : List DeadLetterJob) (getFailed : Nat → Nat → Option (List DeadLetterJob))
      (req : DlqRequest) (fuel : Nat), ServesRange queue getFailed → queue.length < fuel →
      ∃ page, getDeadLetterJobs retryQueueSetupExports fuel (some getFailed) req = .ok (some page) ∧
        PageRight req.sees (parseDlqRange req) queue page.jobs page.total) ∧
    ¬∀ (queue : List DeadLetterJob) (getFailed : Nat → Nat → Option (List DeadLetterJob))
      (req : DlqRequest) (fuel : Nat), ServesRange queue getFailed → queue.length < fuel →
      ∃ page, deadLetterPage fuel getFailed req = some page ∧
        PageRight req.sees (parseDlqRange req) queue page.jobs page.total := by
  constructor
  · intro h
    obtain ⟨page, hpage, -⟩ := h threeFailed (servedQueue threeFailed)
      ⟨false, some "SCH-1", some "1", some "1"⟩ 4 (fun _ _ => rfl) (by decide)
    cases hpage
  · intro h
    obtain ⟨page, hpage, hright⟩ := h threeFailed (servedQueue threeFailed)
      ⟨false, some "SCH-1", some "1", some "1"⟩ 4 (fun _ _ => rfl) (by decide)
    have hshown : deadLetterPage 4 (servedQueue threeFailed)
        ⟨false, some "SCH-1", some "1", some "1"⟩ =
          some ⟨[failedJob "1", failedJob "2"], 3, some ⟨1, 1⟩⟩ := by decide +kernel
    obtain rfl := Option.some.inj (hpage.symm.trans hshown)
    exact absurd hright.jobs (by decide +kernel)

end StellarEduPay

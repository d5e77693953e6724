import StellarEduPay.Runs
import StellarEduPay.TransactionQueue

/-! # Durability of the transaction queue

A record of MongoDB and a job of Redis have lifecycles of their own, and meet only in the hash.  Any
number of processes recover jobs, each access of a store being one step; the worker takes a job up
and attempts it; a crash makes BullMQ hand an active job out again.

A run begins with any records, such as those the retry service has left, and no job.  No job ever
comes to carry its school, and no attempt gets a record out of `pending` and `processing`.
-/
namespace StellarEduPay
open Runs Function

/-- Where a process is in the loop of `recoverPendingJobs`: the records it has left, and whether it
has reset the first. -/
structure Recovery where
  rest : List PendingVerification
  wasReset : Bool
  deriving DecidableEq, Repr

/-- `recovered` holds right after a recovery has completed. -/
structure DurableSystem where
  store : QueueStore
  clock : Nat
  recovery : Nat → Option Recovery
  recovered : Bool

/-- An attempt may meet anything; `redisUp` is whether the queue takes a job. -/
inductive QueueAction
  | tick (ms : Nat)
  | enqueue (txHash : String) (context : QueueContext) (redisUp : Bool)
  | take (txHash : String)
  | attempt (txHash : String) (ctx : WorkerContext)
  | stalled (txHash : String)
  | interrupt (txHash : String)
  | find (process : Nat)
  | reset (process : Nat)
  | add (process : Nat) (redisUp : Bool)
  | crash (process : Nat)

def DurableSystem.start (records : VerificationQueue) (db : Db) : DurableSystem where
  store := ⟨db, records, fun _ => none⟩
  clock := 0
  recovery := fun _ => none
  recovered := false

/-- The message of `drainWorker`. -/
def interruptMessage : String :=
  "Job interrupted by shutdown drain timeout — will be recovered on restart"

/-- One step of a process, of the worker or of BullMQ. -/
def durableStep (s : DurableSystem) : QueueAction → Option DurableSystem
  | .tick ms => some { s with clock := s.clock + ms, recovered := false }
  | .enqueue txHash context redisUp => some { s with
      store := ((enqueueTransaction txHash context s.clock redisUp).run.run s.store).2
      recovered := false }
  | .take txHash =>
    match s.store.jobs txHash with
    | some job =>
      if job.state = .waiting ∨ job.state = .delayed then some { s with
        store := s.store.setJob txHash (some { job with state := .active })
        recovered := false }
      else none
    | none => none
  | .attempt txHash ctx =>
    match s.store.jobs txHash with
    | some job =>
      if job.state = .active then
        let run := (jobProcessor ctx job.data).run.run s.store
        some { s with store := run.2.setJob txHash (settleJob run.1.isOk job), recovered := false }
      else none
    | none => none
  | .stalled txHash =>
    match s.store.jobs txHash with
    | some job =>
      if job.state = .active then some { s with
        store := s.store.setJob txHash (some { job with state := .waiting })
        recovered := false }
      else none
    | none => none
  | .interrupt txHash =>
    match s.store.jobs txHash with
    | some job =>
      if job.state = .active then some { s with
        store := s.store.modifyVerification job.data.txHash
          (markInterrupted s.clock interruptMessage) (markInterrupted_txHash s.clock interruptMessage)
        recovered := false }
      else none
    | none => none
  | .find process =>
    if s.recovery process = none then
      let found := s.store.verifications.docs.filter unresolved
      some { s with
        recovery := if found = [] then s.recovery else update s.recovery process (some ⟨found, false⟩)
        recovered := found = [] }
    else none
  | .reset process =>
    match s.recovery process with
    | some ⟨doc :: rest, false⟩ => some { s with
        store := s.store.modifyVerification doc.txHash (resetProcessing doc.schoolId)
          (resetProcessing_txHash doc.schoolId)
        recovery := update s.recovery process (some ⟨doc :: rest, true⟩)
        recovered := false }
    | _ => none
  | .add process redisUp =>
    match s.recovery process with
    | some ⟨doc :: rest, true⟩ => some { s with
        store := if redisUp then
            { s.store with jobs := addJob s.store.jobs doc.txHash (recoveredData doc) }
          else s.store
        recovery := update s.recovery process (if rest = [] then none else some ⟨rest, false⟩)
        recovered := rest = [] }
    | _ => none
  | .crash process => some { s with
      recovery := update s.recovery process none
      recovered := false }

/-! ## What durability means -/

/-- The record has a job that will still be run, with what the processor reads. -/
def WillRun (jobs : String → Option QueueJob) (doc : PendingVerification) : Prop :=
  ∃ job, jobs doc.txHash = some job ∧ job.state ≠ .failed ∧ job.data.txHash = doc.txHash ∧
    job.data.schoolId = doc.schoolId ∧ job.data.school.isSome

/-- **Nothing is stranded**: a record that is not settled has a job to come, and one whose job has
used up its attempts is dead. -/
structure QueueDurable (s : QueueStore) : Prop where
  queued : ∀ doc ∈ s.verifications.docs, unresolved doc = true → WillRun s.jobs doc
  exhausted : ∀ doc ∈ s.verifications.docs, ∀ job, s.jobs doc.txHash = some job →
    job.state = .failed → doc.status = .deadLetter

/-! ## What the steps of a recovery did -/

theorem reset_inv {s t : DurableSystem} {process : Nat}
    (h : durableStep s (.reset process) = some t) :
    ∃ doc rest, s.recovery process = some ⟨doc :: rest, false⟩ ∧ t = { s with
      store := s.store.modifyVerification doc.txHash (resetProcessing doc.schoolId)
        (resetProcessing_txHash doc.schoolId)
      recovery := update s.recovery process (some ⟨doc :: rest, true⟩)
      recovered := false } := by
  simp only [durableStep] at h
  split at h
  · rename_i doc rest hrecovery
    exact ⟨doc, rest, hrecovery, (Option.some.inj h).symm⟩
  · cases h

theorem add_inv {s t : DurableSystem} {process : Nat} {redisUp : Bool}
    (h : durableStep s (.add process redisUp) = some t) :
    ∃ doc rest, s.recovery process = some ⟨doc :: rest, true⟩ ∧ t = { s with
      store := if redisUp then
          { s.store with jobs := addJob s.store.jobs doc.txHash (recoveredData doc) }
        else s.store
      recovery := update s.recovery process (if rest = [] then none else some ⟨rest, false⟩)
      recovered := rest = [] } := by
  simp only [durableStep] at h
  split at h
  · rename_i doc rest hrecovery
    exact ⟨doc, rest, hrecovery, (Option.some.inj h).symm⟩
  · cases h

/-! ## The invariant -/

theorem resetProcessing_terminal (schoolId : String) (doc : PendingVerification) :
    (resetProcessing schoolId doc).status.terminal = doc.status.terminal := by
  unfold resetProcessing
  split
  · rename_i h
    rw [h.2]
    rfl
  · rfl

/-- What no step changes of a record. -/
def PendingVerification.stage (doc : PendingVerification) : String × Bool :=
  (doc.txHash, doc.status.terminal)

/-- The transaction has a record that was not settled at the start. -/
def OpenRecord (records : VerificationQueue) (txHash : String) : Prop :=
  ∃ doc ∈ records.docs, doc.txHash = txHash ∧ doc.status.terminal = false

/-- A job without a school, for a record that is not settled. -/
structure SchoolMissing (records : VerificationQueue) (txHash : String) (data : JobData) : Prop where
  school : data.school = none
  hash : data.txHash = txHash
  openRecord : OpenRecord records txHash

structure DurableInv (records : VerificationQueue) (s : DurableSystem) : Prop where
  stages : s.store.verifications.docs.map (·.stage) = records.docs.map (·.stage)
  jobs : ∀ txHash job, s.store.jobs txHash = some job → SchoolMissing records txHash job.data
  recovery : ∀ process r, s.recovery process = some r → ∀ doc ∈ r.rest, OpenRecord records doc.txHash

theorem DurableInv.start (records : VerificationQueue) (db : Db) :
    DurableInv records (.start records db) where
  stages := rfl
  jobs _ _ h := by cases h
  recovery _ _ h := by cases h

section
variable {records : VerificationQueue} {s t : DurableSystem}

/-- A change that leaves the stage of the record it is for. -/
theorem stages_modify {verifications : VerificationQueue} {txHash : String}
    {f : PendingVerification → PendingVerification} (hf : ∀ d, (f d).txHash = d.txHash)
    (hkeep : ∀ doc ∈ verifications.docs, doc.txHash = txHash →
      (f doc).status.terminal = doc.status.terminal) :
    (verifications.modify txHash f hf).docs.map (·.stage) = verifications.docs.map (·.stage) := by
  simp only [Collection.modify, List.map_map]
  refine List.map_congr_left fun doc hdoc => ?_
  simp only [comp_apply]
  split
  · rename_i hid
    exact Prod.ext (hf doc) (hkeep doc hdoc hid)
  · rfl

/-- The record of a transaction that was not settled at the start is not settled now. -/
theorem DurableInv.terminal_of_open (hinv : DurableInv records s) {txHash : String}
    (hopen : OpenRecord records txHash) {doc : PendingVerification}
    (hdoc : doc ∈ s.store.verifications.docs) (hid : doc.txHash = txHash) :
    doc.status.terminal = false := by
  obtain ⟨first, hfirst, hfid, hfopen⟩ := hopen
  have hstage : doc.stage ∈ records.docs.map (·.stage) :=
    hinv.stages ▸ List.mem_map_of_mem hdoc
  obtain ⟨other, hother, heq⟩ := List.mem_map.mp hstage
  have hsame : other = first :=
    records.eq_of_key hother hfirst ((congrArg Prod.fst heq).trans (hid.trans hfid.symm))
  have hterminal : other.status.terminal = doc.status.terminal := congrArg Prod.snd heq
  rw [← hterminal, hsame, hfopen]

theorem DurableInv.openRecord (hinv : DurableInv records s) {doc : PendingVerification}
    (hdoc : doc ∈ s.store.verifications.docs) (hterminal : doc.status.terminal = false) :
    OpenRecord records doc.txHash := by
  have hstage : doc.stage ∈ records.docs.map (·.stage) := hinv.stages ▸ List.mem_map_of_mem hdoc
  obtain ⟨first, hfirst, heq⟩ := List.mem_map.mp hstage
  exact ⟨first, hfirst, congrArg Prod.fst heq, (congrArg Prod.snd heq).trans hterminal⟩

/-- A job goes, or is there with the data it had. -/
theorem DurableInv.setJob (hinv : DurableInv records s) {txHash : String} {job : QueueJob}
    {next : Option QueueJob} (hjob : s.store.jobs txHash = some job)
    (hnext : ∀ j, next = some j → j.data = job.data) :
    DurableInv records { s with store := s.store.setJob txHash next, recovered := false } where
  stages := hinv.stages
  recovery := hinv.recovery
  jobs other j hj := by
    by_cases hother : other = txHash
    · subst hother
      rw [hnext j (by simpa [QueueStore.setJob] using hj)]
      exact hinv.jobs other job hjob
    · exact hinv.jobs other j (by simpa [QueueStore.setJob, hother] using hj)

theorem DurableInv.setState (hinv : DurableInv records s) {txHash : String} {job : QueueJob}
    (hjob : s.store.jobs txHash = some job) (state : JobState) :
    DurableInv records
      { s with store := s.store.setJob txHash (some { job with state }), recovered := false } := by
  refine hinv.setJob hjob fun j hj => ?_
  obtain rfl := Option.some.inj hj
  rfl

/-- A job is only ever for a record that is not settled, and `pending` is not either. -/
theorem DurableInv.interrupt (hinv : DurableInv records s) {txHash : String} {job : QueueJob}
    (hjob : s.store.jobs txHash = some job) :
    DurableInv records { s with
      store := s.store.modifyVerification job.data.txHash
        (markInterrupted s.clock interruptMessage) (markInterrupted_txHash s.clock interruptMessage)
      recovered := false } := by
  have hmissing := hinv.jobs txHash job hjob
  refine ⟨(stages_modify (markInterrupted_txHash _ _) fun doc hdoc hid => ?_).trans hinv.stages,
    hinv.jobs, hinv.recovery⟩
  exact (hinv.terminal_of_open hmissing.openRecord hdoc (hid.trans hmissing.hash)).symm

theorem settleJob_data {returned : Bool} {job j : QueueJob} (h : settleJob returned job = some j) :
    j.data = job.data := by
  unfold settleJob at h
  split at h
  · cases h
  · obtain rfl := Option.some.inj h
    rfl

theorem addJob_data {jobs : String → Option QueueJob} {jobId other : String} {data : JobData}
    {j : QueueJob} (h : addJob jobs jobId data other = some j) :
    jobs other = some j ∨ (other = jobId ∧ j.data = data) := by
  cases hjob : jobs jobId with
  | some job =>
    simp only [addJob, hjob] at h
    exact Or.inl h
  | none =>
    simp only [addJob, hjob] at h
    rcases update_some_iff.mp h with ⟨rfl, rfl⟩ | ⟨-, hold⟩
    · exact Or.inr ⟨rfl, rfl⟩
    · exact Or.inl hold

/-! ### A recovery -/

/-- A recovery has found the records that are not settled. -/
theorem DurableInv.find (hinv : DurableInv records s) (process : Nat) {found : List PendingVerification}
    (hfound : found = s.store.verifications.docs.filter unresolved) :
    DurableInv records { s with
      recovery := if found = [] then s.recovery else update s.recovery process (some ⟨found, false⟩)
      recovered := found = [] } := by
  refine ⟨hinv.stages, hinv.jobs, fun other r hr doc hdoc => ?_⟩
  dsimp only at hr
  split at hr
  · exact hinv.recovery other r hr doc hdoc
  · rcases update_some_iff.mp hr with ⟨rfl, rfl⟩ | ⟨-, hold⟩
    · rw [hfound] at hdoc
      obtain ⟨hmem, hopen⟩ := List.mem_filter.mp hdoc
      exact hinv.openRecord hmem (by simpa [unresolved] using hopen)
    · exact hinv.recovery other r hold doc hdoc

/-- It resets the first one. -/
theorem DurableInv.reset (hinv : DurableInv records s) {process : Nat}
    (hstep : durableStep s (.reset process) = some t) : DurableInv records t := by
  obtain ⟨doc, rest, hrecovery, rfl⟩ := reset_inv hstep
  refine ⟨?_, hinv.jobs, fun other r hr d hd => ?_⟩
  · refine (stages_modify (resetProcessing_txHash _) fun d _ _ => ?_).trans hinv.stages
    exact resetProcessing_terminal doc.schoolId d
  · rcases update_some_iff.mp hr with ⟨rfl, rfl⟩ | ⟨-, hold⟩
    · exact hinv.recovery other _ hrecovery d hd
    · exact hinv.recovery other r hold d hd

/-- It adds a job for it, without a school, and goes on with the rest. -/
theorem DurableInv.add (hinv : DurableInv records s) {process : Nat} {redisUp : Bool}
    (hstep : durableStep s (.add process redisUp) = some t) : DurableInv records t := by
  obtain ⟨doc, rest, hrecovery, rfl⟩ := add_inv hstep
  have hall := hinv.recovery process _ hrecovery
  refine ⟨?_, fun other j hj => ?_, fun other r hr d hd => ?_⟩
  · cases redisUp <;> exact hinv.stages
  · cases redisUp with
    | false => exact hinv.jobs other j hj
    | true =>
      rcases addJob_data hj with hold | ⟨rfl, hdata⟩
      · exact hinv.jobs other j hold
      · rw [hdata]
        exact ⟨rfl, rfl, hall doc List.mem_cons_self⟩
  · dsimp only at hr
    by_cases hother : other = process
    · subst hother
      rw [update_self] at hr
      split at hr
      · cases hr
      · obtain rfl := Option.some.inj hr
        exact hall d (List.mem_cons_of_mem doc hd)
    · rw [update_of_ne hother] at hr
      exact hinv.recovery other r hr d hd

/-- A step on account of a job finds the job. -/
theorem exists_job {P : QueueJob → Prop} [DecidablePred P] {txHash : String}
    {next : QueueJob → DurableSystem}
    (hstep : (match s.store.jobs txHash with
      | some job => if P job then some (next job) else none
      | none => none) = some t) :
    ∃ job, s.store.jobs txHash = some job ∧ P job ∧ t = next job := by
  cases hjob : s.store.jobs txHash with
  | none => simp [hjob] at hstep
  | some job =>
    simp only [hjob, Option.ite_none_right_eq_some, Option.some.injEq] at hstep
    exact ⟨job, rfl, hstep.1, hstep.2.symm⟩

/-- **Every step keeps the invariant**, whatever attempts meet. -/
theorem DurableInv.step (hinv : DurableInv records s) {a : QueueAction}
    (hstep : durableStep s a = some t) : DurableInv records t := by
  cases a with
  | tick ms =>
    obtain rfl := Option.some.inj hstep
    exact ⟨hinv.stages, hinv.jobs, hinv.recovery⟩
  | enqueue txHash context redisUp =>
    simp only [durableStep, enqueueTransaction_run, Option.some.injEq] at hstep
    subst hstep
    exact ⟨hinv.stages, hinv.jobs, hinv.recovery⟩
  | take txHash =>
    obtain ⟨job, hjob, -, rfl⟩ := exists_job hstep
    exact hinv.setState hjob _
  | attempt txHash ctx =>
    obtain ⟨job, hjob, -, rfl⟩ := exists_job hstep
    rw [jobProcessor_run]
    exact hinv.setJob hjob fun _ hj => settleJob_data hj
  | stalled txHash =>
    obtain ⟨job, hjob, -, rfl⟩ := exists_job hstep
    exact hinv.setState hjob _
  | interrupt txHash =>
    obtain ⟨job, hjob, -, rfl⟩ := exists_job hstep
    exact hinv.interrupt hjob
  | find process =>
    simp only [durableStep, Option.ite_none_right_eq_some, Option.some.injEq] at hstep
    obtain ⟨-, rfl⟩ := hstep
    exact hinv.find process rfl
  | reset process => exact hinv.reset hstep
  | add process redisUp => exact hinv.add hstep
  | crash process =>
    obtain rfl := Option.some.inj hstep
    refine ⟨hinv.stages, hinv.jobs, fun other r hr => ?_⟩
    exact hinv.recovery other r (update_none_iff.mp hr).2

end

/-- In every state of a run nothing is stranded exactly if every record was settled at the start. -/
theorem durable_iff_settled {records : VerificationQueue} {db : Db} {s : DurableSystem}
    (hs : Reach durableStep Free (.start records db) s) :
    QueueDurable s.store ↔ ∀ doc ∈ records.docs, doc.status.terminal = true := by
  have hinv : DurableInv records s :=
    hs.invariant (.start records db) fun h _ hstep => h.step hstep
  constructor
  · intro hdurable first hfirst
    by_contra hopen
    have hstage : first.stage ∈ s.store.verifications.docs.map (·.stage) :=
      hinv.stages ▸ List.mem_map_of_mem hfirst
    obtain ⟨doc, hdoc, heq⟩ := List.mem_map.mp hstage
    have hterminal : doc.status.terminal = first.status.terminal := congrArg Prod.snd heq
    obtain ⟨job, hjob, -, -, -, hschool⟩ :=
      hdurable.queued doc hdoc (by simpa [unresolved, hterminal] using hopen)
    rw [(hinv.jobs doc.txHash job hjob).school] at hschool
    cases hschool
  · intro hall
    have hsettled : ∀ doc ∈ s.store.verifications.docs, doc.status.terminal = true := by
      intro doc hdoc
      by_contra hopen
      obtain ⟨first, hfirst, -, hfopen⟩ := hinv.openRecord hdoc (by simpa using hopen)
      rw [hall first hfirst] at hfopen
      cases hfopen
    constructor
    · intro doc hdoc hopen
      simp [unresolved, hsettled doc hdoc] at hopen
    · intro doc hdoc job hjob _
      have hfalse := hinv.terminal_of_open (hinv.jobs doc.txHash job hjob).openRecord hdoc rfl
      rw [hsettled doc hdoc] at hfalse
      cases hfalse

/-! ## A recovery can complete -/

/-- The loop over the records that are left. -/
theorem recovery_loop {process : Nat} : ∀ {doc : PendingVerification}
    {rest : List PendingVerification} {s : DurableSystem},
    s.recovery process = some ⟨doc :: rest, false⟩ →
      ∃ t, Reach durableStep Free s t ∧ t.recovered = true
  | doc, rest, s, h => by
    obtain ⟨u, hu, hrecovery⟩ : ∃ u, durableStep s (.reset process) = some u ∧
        u.recovery process = some ⟨doc :: rest, true⟩ := by
      simp only [durableStep, h]
      exact ⟨_, rfl, update_self ..⟩
    obtain ⟨v, hv, hrest, hdone⟩ : ∃ v, durableStep u (.add process true) = some v ∧
        v.recovery process = (if rest = [] then none else some ⟨rest, false⟩) ∧
        v.recovered = decide (rest = []) := by
      simp only [durableStep, hrecovery]
      exact ⟨_, rfl, update_self .., rfl⟩
    cases rest with
    | nil => exact ⟨v, .head trivial hu (.head trivial hv .refl), hdone⟩
    | cons next rest =>
      obtain ⟨t, ht, hrecovered⟩ := recovery_loop hrest
      exact ⟨t, .head trivial hu (.head trivial hv ht), hrecovered⟩

theorem recovery_completes (process : Nat) {s : DurableSystem} (h : s.recovery process = none) :
    ∃ t, Reach durableStep Free s t ∧ t.recovered = true := by
  obtain ⟨t, ht, hrecovery, hdone⟩ : ∃ t, durableStep s (.find process) = some t ∧
      t.recovery = (if s.store.verifications.docs.filter unresolved = [] then s.recovery
        else update s.recovery process
          (some ⟨s.store.verifications.docs.filter unresolved, false⟩)) ∧
      t.recovered = decide (s.store.verifications.docs.filter unresolved = []) := by
    simp only [durableStep, h]
    exact ⟨_, rfl, rfl, rfl⟩
  cases hfound : s.store.verifications.docs.filter unresolved with
  | nil => exact ⟨t, .tail .refl trivial ht, by rw [hdone, hfound]; rfl⟩
  | cons doc rest =>
    rw [hfound, if_neg (List.cons_ne_nil doc rest)] at hrecovery
    obtain ⟨u, hu, hrecovered⟩ :=
      recovery_loop ((congrFun hrecovery process).trans (update_self ..))
    exact ⟨u, .head trivial ht hu, hrecovered⟩

/-- **Recoveries strand nothing exactly if there is nothing to recover**: if every record was
settled at the start. -/
theorem durable_after_recovery_iff (records : VerificationQueue) (db : Db) :
    (∀ s, Reach durableStep Free (.start records db) s → s.recovered = true →
        QueueDurable s.store) ↔ ∀ doc ∈ records.docs, doc.status.terminal = true := by
  constructor
  · intro hdurable
    obtain ⟨s, hs, hrecovered⟩ :=
      recovery_completes 0 (s := DurableSystem.start records db) rfl
    exact (durable_iff_settled hs).mp (hdurable s hs hrecovered)
  · exact fun hall s hs _ => (durable_iff_settled hs).mpr hall

/-- A transaction the retry service has put off. -/
def putOff : PendingVerification := { schoolId := "SCH", txHash := "tx2", nextRetryAt := 5 }

/-- It is recovered, and its job has no school. -/
theorem recovery_strands_record :
    ¬ ∀ (records : VerificationQueue) (db : Db) (s : DurableSystem),
        Reach durableStep Free (.start records db) s → s.recovered = true →
          QueueDurable s.store := by
  intro h
  obtain ⟨records, hrecords⟩ : ∃ records : VerificationQueue, records.docs = [putOff] :=
    ⟨⟨[putOff], by decide⟩, rfl⟩
  obtain ⟨s, hs, hrecovered⟩ :=
    recovery_completes 0 (s := DurableSystem.start records paidDb) rfl
  have hterminal := (durable_iff_settled hs).mp (h records paidDb s hs hrecovered) putOff
    (hrecords ▸ List.mem_singleton_self putOff)
  cases hterminal

end StellarEduPay

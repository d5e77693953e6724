import StellarEduPay.Ingestion
import StellarEduPay.Runs

/-! # The manual sync (`syncPaymentsForSchool` in `services/stellarService.js`)

The sync reads a wallet's transactions from the newest back, page by page, and stops
at the first one that already has a live row, or at which the extraction throws.  It
therefore sees all that is missing only if what is recorded is the older end of the
history and the extraction throws nowhere before it.  `verifyPayment` records a single
transaction wherever it stands.

How a valid payment is credited is not part of the sources past the lookup of its
student; what the scan relies on is that crediting a transaction stores or removes no
row of another (`CreditSpec`).  The step to the next page is not either; it follows the
comment on the loop, which ends at a recorded transaction or after the last page.
-/
namespace StellarEduPay
open Runs

/-- A transaction has a live row. -/
def recorded (db : Db) (schoolId hash : String) : Bool := (db.findPaymentByTx schoolId hash).isSome

/-- Two stores have the same rows of a transaction. -/
def SameRowsOf (db db' : Db) (hash : String) : Prop :=
  ∀ p : Payment, p.txHash = hash → (p ∈ db.payments.docs ↔ p ∈ db'.payments.docs)

theorem recorded_iff {db : Db} {schoolId hash : String} :
    recorded db schoolId hash = true ↔
      ∃ p ∈ db.payments.docs, p.live = true ∧ p.schoolId = schoolId ∧ p.txHash = hash := by
  simp [recorded, Db.findPaymentByTx, Db.findPayment, Collection.findOne]

theorem SameRowsOf.recorded_eq {db db' : Db} {hash : String} (h : SameRowsOf db db' hash)
    (schoolId : String) : recorded db schoolId hash = recorded db' schoolId hash := by
  rw [Bool.eq_iff_iff, recorded_iff, recorded_iff]
  constructor
  · rintro ⟨p, hp, hlive, hschool, htx⟩
    exact ⟨p, (h p htx).mp hp, hlive, hschool, htx⟩
  · rintro ⟨p, hp, hlive, hschool, htx⟩
    exact ⟨p, (h p htx).mpr hp, hlive, hschool, htx⟩

/-- The counters of the summary that the scan itself keeps. -/
structure SyncSummary where
  found : Nat
  new : Nat
  unmatched : Nat
  failed : Nat
  alreadyProcessed : Nat
  failedDetails : List (String × String)
  deriving DecidableEq, Repr

/-- The store, the summary, the error that ended the sync, if one did, and, as a ghost, the
transactions examined so far. -/
structure SyncState where
  db : Db
  summary : SyncSummary
  thrown : Option String
  examined : List Transaction

/-- The history of a wallet as Horizon pages it, newest first. -/
structure WalletPages where
  pages : List (List Transaction)
  distinct : (pages.flatten.map (·.hash)).Nodup

def WalletPages.history (w : WalletPages) : List Transaction := w.pages.flatten

section
variable (credit : Db → SyncSummary → Transaction → ValidPayment → Db × SyncSummary)
  (config : IngestConfig) (school : School)

/-- The body of the loop for a transaction that has no live row. -/
def examineTransaction (st : SyncState) (tx : Transaction) : SyncState :=
  let summary := { st.summary with new := st.summary.new + 1 }
  let st := { st with examined := st.examined ++ [tx] }
  let fail (reason : String) : SyncState := { st with summary := { summary with
    failed := summary.failed + 1, failedDetails := summary.failedDetails ++ [(tx.hash, reason)] } }
  match extractValidPayment config.sdk config.accepted tx school.stellarAddress with
  | .error message => { st with summary := summary, thrown := some message }
  | .ok none =>
    let wrongDest := tx.operations.find? fun op => isCreditableOpType op.type &&
      (op.toAddress.filter (· ≠ "")).isSome && op.toAddress != some school.stellarAddress
    match (if tx.successful = some true then wrongDest else none) with
    | some op => fail ("INVALID_DESTINATION: payment sent to " ++ op.toAddress.getD "undefined" ++
        ", expected " ++ school.stellarAddress)
    | none => { st with summary := { summary with unmatched := summary.unmatched + 1 } }
  | .ok (some valid) =>
    match valid.operations.find? fun o => o.payOp.toAddress != some school.stellarAddress with
    | some o => fail ("INVALID_DESTINATION: payment sent to " ++ o.payOp.toAddress.getD "undefined")
    | none =>
      let (db, summary) := credit st.db summary tx valid
      { st with db := db, summary := summary }

/-- Scan one page; `true` means that a recorded transaction was met, or an error. -/
def scanPage : List Transaction → SyncState → SyncState × Bool
  | [], st => (st, false)
  | tx :: records, st =>
    let st := { st with summary := { st.summary with found := st.summary.found + 1 } }
    if recorded st.db school.schoolId tx.hash then
      ({ st with summary := { st.summary with
        alreadyProcessed := st.summary.alreadyProcessed + 1 } }, true)
    else
      let st := examineTransaction credit config school st tx
      if st.thrown.isSome then (st, true) else scanPage records st

/-- Scan page after page until one ends the scan. -/
def scanPages : List (List Transaction) → SyncState → SyncState
  | [], st => st
  | page :: pages, st =>
    match scanPage credit config school page st with
    | (st, true) => st
    | (st, false) => scanPages pages st

/-- Fetch the transactions of a school's wallet and record what is new. -/
def syncPaymentsForSchool (wallet : WalletPages) (db : Db) : SyncState :=
  scanPages credit config school wallet.pages ⟨db, ⟨0, 0, 0, 0, 0, []⟩, none, []⟩

/-- Crediting a transaction leaves the rows of all others as they are. -/
structure CreditSpec : Prop where
  others : ∀ db summary tx valid hash, hash ≠ tx.hash →
    SameRowsOf (credit db summary tx valid).1 db hash

/-- The scan examines every transaction without a live row. -/
def MissesNothing (wallet : WalletPages) (db : Db) : Prop :=
  ∀ tx ∈ wallet.history, recorded db school.schoolId tx.hash = false →
    tx ∈ (syncPaymentsForSchool credit config school wallet db).examined

/-- The extraction throws on a transaction. -/
def extractionThrows (tx : Transaction) : Bool :=
  !(extractValidPayment config.sdk config.accepted tx school.stellarAddress).isOk

/-- What is recorded is the older end of the history, and there is nothing to record before a
transaction on which the extraction throws. -/
def RecordedSuffix (wallet : WalletPages) (db : Db) : Prop :=
  wallet.history.Pairwise fun newer older =>
    recorded db school.schoolId newer.hash = true ∨ extractionThrows config school newer = true →
      recorded db school.schoolId older.hash = true

/-! ## What the scan examines -/

variable {credit config school}

theorem examineTransaction_examined (st : SyncState) (tx : Transaction) :
    (examineTransaction credit config school st tx).examined = st.examined ++ [tx] := by
  unfold examineTransaction
  dsimp only
  split
  · rfl
  · split <;> rfl
  · split <;> rfl

theorem examineTransaction_thrown {st : SyncState} (h : st.thrown = none) (tx : Transaction) :
    (examineTransaction credit config school st tx).thrown.isSome =
      extractionThrows config school tx := by
  unfold examineTransaction extractionThrows
  dsimp only
  cases extractValidPayment config.sdk config.accepted tx school.stellarAddress with
  | error message => rfl
  | ok valid =>
    cases valid with
    | none => dsimp only; split <;> simp [h, Except.isOk, Except.toBool]
    | some valid => dsimp only; split <;> simp [h, Except.isOk, Except.toBool]

theorem examineTransaction_others (hcredit : CreditSpec credit) (st : SyncState)
    {tx : Transaction} {hash : String} (hne : hash ≠ tx.hash) :
    SameRowsOf (examineTransaction credit config school st tx).db st.db hash := by
  unfold examineTransaction
  dsimp only
  split
  · exact fun _ _ => Iff.rfl
  · split <;> exact fun _ _ => Iff.rfl
  · split
    · exact fun _ _ => Iff.rfl
    · exact hcredit.others _ _ _ _ _ hne

/-- The transactions before the first recorded one, up to the first on which the extraction
throws. -/
def examinedPart (config : IngestConfig) (school : School) (db : Db) :
    List Transaction → List Transaction
  | [] => []
  | tx :: txs =>
    if recorded db school.schoolId tx.hash then []
    else if extractionThrows config school tx then [tx]
    else tx :: examinedPart config school db txs

theorem scanPage_append (page rest : List Transaction) (st : SyncState) :
    scanPage credit config school (page ++ rest) st =
      if (scanPage credit config school page st).2 then scanPage credit config school page st
      else scanPage credit config school rest (scanPage credit config school page st).1 := by
  induction page generalizing st with
  | nil => rfl
  | cons tx page ih =>
    simp only [List.cons_append, scanPage]
    split
    · rfl
    split
    · rfl
    · exact ih _

/-- Where the pages are cut does not matter. -/
theorem scanPages_eq (pages : List (List Transaction)) (st : SyncState) :
    scanPages credit config school pages st =
      (scanPage credit config school pages.flatten st).1 := by
  induction pages generalizing st with
  | nil => rfl
  | cons page pages ih =>
    rw [List.flatten_cons, scanPage_append, scanPages]
    split
    · rename_i hscan
      simp [hscan]
    · rename_i hscan
      simp [hscan, ih]

/-- Crediting one transaction does not change where the rest of the scan stops. -/
theorem examinedPart_congr {db db' : Db} {txs : List Transaction}
    (h : ∀ tx ∈ txs, recorded db' school.schoolId tx.hash = recorded db school.schoolId tx.hash) :
    examinedPart config school db' txs = examinedPart config school db txs := by
  induction txs with
  | nil => rfl
  | cons tx txs ih =>
    obtain ⟨htx, htxs⟩ := List.forall_mem_cons.mp h
    simp only [examinedPart, htx, ih htxs]

/-- Everything without a row is examined exactly when nothing of it comes after a transaction
that ends the scan. -/
theorem forall_mem_examinedPart_iff {db : Db} {txs : List Transaction} (hn : txs.Nodup) :
    (∀ tx ∈ txs, recorded db school.schoolId tx.hash = false →
        tx ∈ examinedPart config school db txs) ↔
      txs.Pairwise fun newer older =>
        recorded db school.schoolId newer.hash = true ∨ extractionThrows config school newer = true →
          recorded db school.schoolId older.hash = true := by
  induction txs with
  | nil => simp
  | cons tx txs ih =>
    obtain ⟨htx, hn⟩ := List.nodup_cons.mp hn
    have hne : ∀ u ∈ txs, u ≠ tx := fun u hu heq => htx (heq ▸ hu)
    have hall : (∀ u ∈ txs, recorded db school.schoolId u.hash = true) →
        txs.Pairwise fun newer older =>
          recorded db school.schoolId newer.hash = true ∨ extractionThrows config school newer = true →
            recorded db school.schoolId older.hash = true :=
      fun h => List.pairwise_of_forall_mem_list fun _ _ older holder _ => h older holder
    rw [List.pairwise_cons, List.forall_mem_cons, examinedPart]
    by_cases hrec : recorded db school.schoolId tx.hash = true
    · rw [if_pos hrec]
      refine ⟨fun h => ?_, fun h => ⟨fun hnot => ?_, fun u hu hnot => ?_⟩⟩
      · have hrecs : ∀ u ∈ txs, recorded db school.schoolId u.hash = true := fun u hu =>
          by_contra fun hnot => List.not_mem_nil (h.2 u hu (Bool.eq_false_iff.mpr hnot))
        exact ⟨fun u hu _ => hrecs u hu, hall hrecs⟩
      · rw [hrec] at hnot
        cases hnot
      · rw [h.1 u hu (.inl hrec)] at hnot
        cases hnot
    rw [if_neg hrec]
    by_cases hthrows : extractionThrows config school tx = true
    · rw [if_pos hthrows]
      refine ⟨fun h => ?_, fun h => ⟨fun _ => List.mem_singleton_self _, fun u hu hnot => ?_⟩⟩
      · have hrecs : ∀ u ∈ txs, recorded db school.schoolId u.hash = true := fun u hu =>
          by_contra fun hnot =>
            hne u hu (List.mem_singleton.mp (h.2 u hu (Bool.eq_false_iff.mpr hnot)))
        exact ⟨fun u hu _ => hrecs u hu, hall hrecs⟩
      · rw [h.1 u hu (.inr hthrows)] at hnot
        cases hnot
    · rw [if_neg hthrows, ← ih hn]
      refine ⟨fun h => ⟨fun _ _ hends => absurd hends (not_or.mpr ⟨hrec, hthrows⟩), fun u hu hnot =>
        (List.mem_cons.mp (h.2 u hu hnot)).resolve_left (hne u hu)⟩, fun h => ⟨fun _ =>
        List.mem_cons_self .., fun u hu hnot => List.mem_cons_of_mem _ (h.2 u hu hnot)⟩⟩

theorem hash_ne_of_mem {tx u : Transaction} {txs : List Transaction}
    (h : tx.hash ∉ txs.map (·.hash)) (hu : u ∈ txs) : u.hash ≠ tx.hash :=
  fun heq => h (List.mem_map.mpr ⟨u, hu, heq⟩)

section
variable (hcredit : CreditSpec credit)
include hcredit

theorem scanPage_examined {txs : List Transaction} (hn : (txs.map (·.hash)).Nodup) {st : SyncState}
    (hst : st.thrown = none) :
    (scanPage credit config school txs st).1.examined =
      st.examined ++ examinedPart config school st.db txs := by
  induction txs generalizing st with
  | nil => simp [scanPage, examinedPart]
  | cons tx txs ih =>
    obtain ⟨htx, hn⟩ := List.nodup_cons.mp hn
    have hfound : ({ st with summary.found := st.summary.found + 1 } : SyncState).thrown = none := hst
    have hthrown : (examineTransaction credit config school
        { st with summary.found := st.summary.found + 1 } tx).thrown.isSome =
          extractionThrows config school tx := examineTransaction_thrown hfound tx
    simp only [scanPage, examinedPart]
    split
    · simp
    split
    · rename_i hthrows
      rw [if_pos (hthrown.symm.trans hthrows), examineTransaction_examined]
    · rename_i hthrows
      rw [if_neg (fun h => hthrows (hthrown.trans h)),
        ih hn (Option.not_isSome_iff_eq_none.mp hthrows), examineTransaction_examined,
        examinedPart_congr fun u hu =>
          (examineTransaction_others hcredit _ (hash_ne_of_mem htx hu)).recorded_eq _]
      simp

/-- No row is lost in a scan. -/
theorem scanPage_keeps {txs : List Transaction} {st : SyncState} {hash : String}
    (h : recorded st.db school.schoolId hash = true) :
    recorded (scanPage credit config school txs st).1.db school.schoolId hash = true := by
  induction txs generalizing st with
  | nil => exact h
  | cons tx txs ih =>
    simp only [scanPage]
    split
    · exact h
    rename_i hrec
    have hexamined : recorded (examineTransaction credit config school
        { st with summary.found := st.summary.found + 1 } tx).db school.schoolId hash = true := by
      rw [(examineTransaction_others hcredit _ _).recorded_eq]
      · exact h
      · rintro rfl
        exact hrec h
    split
    · exact hexamined
    · exact ih hexamined

/-- What the body stores for a transaction it finds as it was in `db` is there after the scan. -/
theorem scanPage_stores {db : Db} {txs : List Transaction}
    (hstores : ∀ tx ∈ txs, recorded db school.schoolId tx.hash = false →
      ∀ st : SyncState, SameRowsOf st.db db tx.hash →
        recorded (examineTransaction credit config school st tx).db school.schoolId tx.hash = true)
    (hn : (txs.map (·.hash)).Nodup) {st : SyncState} (hst : st.thrown = none)
    (hsame : ∀ tx ∈ txs, SameRowsOf st.db db tx.hash) :
    ∀ tx ∈ examinedPart config school db txs,
      recorded (scanPage credit config school txs st).1.db school.schoolId tx.hash = true := by
  induction txs generalizing st with
  | nil => intro tx htx; cases htx
  | cons tx txs ih =>
    obtain ⟨htx, hn⟩ := List.nodup_cons.mp hn
    obtain ⟨hhead, htail⟩ := List.forall_mem_cons.mp hstores
    obtain ⟨hsame₁, hsame⟩ := List.forall_mem_cons.mp hsame
    have hfound : ({ st with summary.found := st.summary.found + 1 } : SyncState).thrown = none := hst
    have hthrown : (examineTransaction credit config school
        { st with summary.found := st.summary.found + 1 } tx).thrown.isSome =
          extractionThrows config school tx := examineTransaction_thrown hfound tx
    intro u hu
    rw [examinedPart] at hu
    split at hu
    · cases hu
    rename_i hrec
    replace hrec : recorded db school.schoolId tx.hash = false := by simpa using hrec
    have hstored := hhead hrec { st with summary.found := st.summary.found + 1 } hsame₁
    simp only [scanPage]
    rw [if_neg (by rw [hsame₁.recorded_eq, hrec]; exact Bool.false_ne_true)]
    split at hu
    · rename_i hthrows
      obtain rfl := List.mem_singleton.mp hu
      rw [if_pos (hthrown.trans hthrows)]
      exact hstored
    · rename_i hthrows
      have hgoes : ¬ (examineTransaction credit config school
          { st with summary.found := st.summary.found + 1 } tx).thrown.isSome = true :=
        fun h => hthrows (hthrown.symm.trans h)
      rw [if_neg hgoes]
      rcases List.mem_cons.mp hu with rfl | hu
      · exact scanPage_keeps hcredit hstored
      · refine ih htail hn (Option.not_isSome_iff_eq_none.mp hgoes) (fun v hv p hp => ?_) u hu
        exact (examineTransaction_others hcredit _ (hash_ne_of_mem htx hv) p hp).trans
          (hsame v hv p hp)

theorem sync_examined (wallet : WalletPages) (db : Db) :
    (syncPaymentsForSchool credit config school wallet db).examined =
      examinedPart config school db wallet.history := by
  rw [syncPaymentsForSchool, scanPages_eq, scanPage_examined hcredit wallet.distinct rfl]
  rfl

/-- **The scan misses nothing exactly when the recorded transactions are the older end of the
history**, and no transaction on which the extraction throws comes before one to record. -/
theorem missesNothing_iff (wallet : WalletPages) (db : Db) :
    MissesNothing credit config school wallet db ↔ RecordedSuffix config school wallet db := by
  unfold MissesNothing
  rw [sync_examined hcredit]
  exact forall_mem_examinedPart_iff (List.Nodup.of_map _ wallet.distinct)

end

end

/-! ## Along runs of the ingestion paths -/

/-- The store, and the wallet as far as the ledger has got. -/
structure IngestState where
  store : PollStore
  wallet : WalletPages

/-- A call of one of the paths into the store, or a new transaction of the wallet.  The stream
calls `processTransaction` as the poller does. -/
inductive IngestCall
  | verify (tx : Transaction) (req : VerifyRequest)
  | poll (tx : Transaction) (ctx : PollContext)
  | sync
  | arrive (wallet : WalletPages)

section
variable (recordPayment : Db → Payment → Except RecordError Db)
  (credit : Db → SyncSummary → Transaction → ValidPayment → Db × SyncSummary)
  (config : IngestConfig) (school : School)

/-- One step.  A verification is for the school, under a hash of its transaction; a
transaction that arrives is the newest and has no row yet, and may shift the pages. -/
def ingestStep (s : IngestState) : IngestCall → Option IngestState
  | .verify tx req =>
    if req.schoolId = school.schoolId ∧ req.normalizedHash ∈ tx.hashes then
      some { s with store := { s.store with
        db := (verifyReported recordPayment config s.store.db tx school req).2 } }
    else none
  | .poll tx ctx => some { s with store := (processTransaction config s.store tx school ctx).2 }
  | .sync => some { s with store := { s.store with
      db := (syncPaymentsForSchool credit config school s.wallet s.store.db).db } }
  | .arrive wallet =>
    match wallet.history with
    | [] => none
    | tx :: older =>
      if older = s.wallet.history ∧ recorded s.store.db school.schoolId tx.hash = false then
        some { s with wallet := wallet }
      else none

/-- `verifyPayment` credits a transaction only when every older one is recorded, the sync runs
only when it stores a row for every transaction without one, and a transaction on which the
extraction throws arrives only when all others are recorded. -/
def SuffixSafe (s : IngestState) : IngestCall → Prop
  | .verify tx req => VerifyCredits config s.store.db tx school req →
      s.wallet.history.Pairwise fun newer older =>
        newer.hash = tx.hash → recorded s.store.db school.schoolId older.hash = true
  | .sync => ∀ tx ∈ s.wallet.history, recorded s.store.db school.schoolId tx.hash = false →
      ∀ st : SyncState, SameRowsOf st.db s.store.db tx.hash →
        recorded (examineTransaction credit config school st tx).db school.schoolId tx.hash = true
  | .arrive wallet => ∀ tx older, wallet.history = tx :: older →
      extractionThrows config school tx = true →
      ∀ u ∈ older, recorded s.store.db school.schoolId u.hash = true
  | .poll _ _ => True

variable {recordPayment credit config school}

/-- A new row records its own transaction and no other. -/
theorem recorded_append {db db' : Db} {row : Payment} {schoolId hash : String}
    (hdocs : db'.payments.docs = db.payments.docs ++ [row]) (hne : row.txHash ≠ hash) :
    recorded db' schoolId hash = recorded db schoolId hash := by
  unfold recorded Db.findPaymentByTx Db.findPayment Collection.findOne
  rw [hdocs, List.find?_append]
  simp [hne]

theorem recorded_mono {db db' : Db} {row : Payment} {schoolId hash : String}
    (hdocs : db'.payments.docs = db.payments.docs ++ [row])
    (h : recorded db schoolId hash = true) : recorded db' schoolId hash = true := by
  unfold recorded Db.findPaymentByTx Db.findPayment Collection.findOne at h ⊢
  rw [hdocs, List.find?_append]
  obtain ⟨p, hp⟩ := Option.isSome_iff_exists.mp h
  rw [hp]
  rfl

theorem recordedSuffix_step (hrec : RecordPaymentSpec recordPayment)
    (hcredit : CreditSpec credit) {s s' : IngestState} {a : IngestCall}
    (h : RecordedSuffix config school s.wallet s.store.db)
    (hsafe : SuffixSafe credit config school s a)
    (hstep : ingestStep recordPayment credit config school s a = some s') :
    RecordedSuffix config school s'.wallet s'.store.db := by
  cases a with
  | verify tx req =>
    simp only [ingestStep] at hstep
    split at hstep <;> cases hstep
    rcases verifyReported_rows hrec config s.store.db tx school req with
      hsame | ⟨hcredits, row, htx, hdocs⟩
    · refine h.imp fun hle => ?_
      simpa only [recorded, Db.findPaymentByTx, Db.findPayment, hsame] using hle
    · -- a row more of `tx`, with all that is older recorded
      refine (h.and (hsafe hcredits)).imp fun {newer older} ⟨hle, hold⟩ hends => ?_
      refine recorded_mono hdocs ?_
      rcases hends with hnewer | hthrows
      · by_cases htxn : newer.hash = tx.hash
        · exact hold htxn
        · rw [recorded_append hdocs (by rw [htx]; exact Ne.symm htxn)] at hnewer
          exact hle (.inl hnewer)
      · exact hle (.inr hthrows)
  | poll tx ctx =>
    simp only [ingestStep] at hstep
    cases hstep
    rw [processTransaction_store]
    exact h
  | sync =>
    simp only [ingestStep] at hstep
    cases hstep
    -- the scan stops where everything older is recorded, so nothing is left without a row
    refine List.pairwise_of_forall_mem_list fun _ _ tx htx _ => ?_
    rw [syncPaymentsForSchool, scanPages_eq]
    by_cases hrecd : recorded s.store.db school.schoolId tx.hash = true
    · exact scanPage_keeps hcredit hrecd
    · refine scanPage_stores hcredit hsafe s.wallet.distinct rfl (fun _ _ _ _ => Iff.rfl) tx ?_
      have hall : MissesNothing credit config school s.wallet s.store.db :=
        (missesNothing_iff hcredit s.wallet s.store.db).mpr h
      have hmem := hall tx htx (by simpa using hrecd)
      rw [sync_examined hcredit] at hmem
      exact hmem
  | arrive wallet =>
    simp only [ingestStep] at hstep
    split at hstep
    · cases hstep
    rename_i tx older hhistory
    split at hstep <;> cases hstep
    rename_i hnew
    obtain ⟨rfl, hunrecorded⟩ := hnew
    unfold RecordedSuffix
    rw [hhistory]
    refine List.pairwise_cons.mpr ⟨fun u hu hends => ?_, h⟩
    rcases hends with hrecd | hthrows
    · -- the newest transaction has no row
      rw [hunrecorded] at hrecd
      cases hrecd
    · exact hsafe tx _ hhistory hthrows u hu

end

/-- **The manual sync misses nothing** exactly when the recorded transactions are the older end
of the history and the extraction throws nowhere before it, and this is so along every run whose
calls keep it so. -/
theorem sync_misses_nothing_along_runs
    {recordPayment : Db → Payment → Except RecordError Db} (hrec : RecordPaymentSpec recordPayment)
    {credit : Db → SyncSummary → Transaction → ValidPayment → Db × SyncSummary} {school : School}
    (hcredit : CreditSpec credit) (config : IngestConfig) {s₀ : IngestState}
    (h₀ : RecordedSuffix config school s₀.wallet s₀.store.db) :
    (∀ s, Reach (ingestStep recordPayment credit config school) (SuffixSafe credit config school)
        s₀ s →
      MissesNothing credit config school s.wallet s.store.db) ∧
    (∀ wallet db, MissesNothing credit config school wallet db ↔
      RecordedSuffix config school wallet db) := by
  refine ⟨fun s hrun => ?_, missesNothing_iff hcredit⟩
  have h : (fun s : IngestState => RecordedSuffix config school s.wallet s.store.db) s :=
    hrun.invariant h₀ fun h hsafe hstep => recordedSuffix_step hrec hcredit h hsafe hstep
  exact (missesNothing_iff hcredit s.wallet s.store.db).mpr h

/-- The row of a transaction with one operation. -/
def creditedRow (tx : Transaction) (valid : ValidPayment) : Payment :=
  { Payment.withDefaults "SCH" valid.memo tx.hash (creditedTotal valid.operations) 0 with
    status := .success }

/-- Crediting that stores this row. -/
def creditRow (db : Db) (summary : SyncSummary) (tx : Transaction) (valid : ValidPayment) :
    Db × SyncSummary :=
  match db.payments.insert (creditedRow tx valid) with
  | none => (db, summary)
  | some payments => ({ db with payments := payments }, summary)

theorem creditRow_spec : CreditSpec creditRow where
  others db summary tx valid hash hne := by
    intro p hp
    unfold creditRow
    split
    · rfl
    · rename_i payments hins
      have hrow : p ≠ creditedRow tx valid := by
        rintro rfl
        exact hne hp.symm
      simp [db.payments.insert_docs hins, hrow]

theorem creditRow_records {db : Db} {tx : Transaction}
    (hfree : ∀ p ∈ db.payments.docs, p.txHash ≠ tx.hash) (summary : SyncSummary)
    (valid : ValidPayment) : recorded (creditRow db summary tx valid).1 "SCH" tx.hash = true := by
  have hkey : ∀ p ∈ db.payments.docs, p.key ≠ (creditedRow tx valid).key :=
    fun p hp heq => hfree p hp (congrArg (fun k => k.2.1) heq)
  obtain ⟨payments, hins⟩ := db.payments.insert_isSome hkey
  simp only [creditRow, hins]
  refine recorded_iff.mpr ⟨creditedRow tx valid, ?_, rfl, rfl, rfl⟩
  rw [db.payments.insert_docs hins]
  exact List.mem_append_right _ (List.mem_singleton_self _)

/-- A wallet with the transaction of the sample store. -/
def recordedHistory : WalletPages := ⟨[[{ plainPayment with hash := "tx1" }]], by decide⟩

/-- The plain payment has arrived after it. -/
def grownHistory : WalletPages :=
  ⟨[[plainPayment], [{ plainPayment with hash := "tx1" }]], by decide⟩

theorem sync_misses_nothing_along_runs_sync : ∃ s : IngestState,
    Reach (ingestStep savePayment creditRow xlmConfig sampleSchool)
      (SuffixSafe creditRow xlmConfig sampleSchool) ⟨sampleStore, recordedHistory⟩ s ∧
      MissesNothing creditRow xlmConfig sampleSchool s.wallet s.store.db ∧
      recorded s.store.db "SCH" "tx2" = true := by
  have hsafe : SuffixSafe creditRow xlmConfig sampleSchool ⟨sampleStore, grownHistory⟩ .sync := by
    intro tx htx hnew st hsame
    -- only the plain payment has no row yet
    obtain rfl : tx = plainPayment := by
      rcases List.mem_cons.mp htx with rfl | htx
      · rfl
      · rw [List.mem_singleton.mp htx] at hnew
        exact absurd hnew (by decide)
    have hfree : ∀ p ∈ st.db.payments.docs, p.txHash ≠ plainPayment.hash := by
      intro p hp htx
      obtain rfl : p = paidRow := List.mem_singleton.mp ((hsame p htx).mp hp)
      exact absurd htx (by decide)
    exact creditRow_records hfree _ _
  have harrives : SuffixSafe creditRow xlmConfig sampleSchool ⟨sampleStore, recordedHistory⟩
      (.arrive grownHistory) := by
    intro tx older hhistory hthrows
    obtain ⟨rfl, rfl⟩ := List.cons.inj hhistory
    exact absurd hthrows (by decide)
  have hrun : Reach (ingestStep savePayment creditRow xlmConfig sampleSchool)
      (SuffixSafe creditRow xlmConfig sampleSchool) ⟨sampleStore, recordedHistory⟩ _ :=
    .tail (.tail .refl harrives rfl) hsafe rfl
  refine ⟨_, hrun, (sync_misses_nothing_along_runs savePayment_spec creditRow_spec xlmConfig ?_).1 _
    hrun, by decide⟩
  unfold RecordedSuffix
  decide

/-- The plain payment, and before it one nobody has recorded. -/
def unrecordedHistory : WalletPages :=
  ⟨[[plainPayment], [{ plainPayment with hash := "tx0" }]], by decide⟩

/-- The older of the two alone. -/
def olderHistory : WalletPages := ⟨[[{ plainPayment with hash := "tx0" }]], by decide⟩

/-- `verifyPayment` records the newer of two transactions, and the sync stops at it; with an SDK
that lacks the function, it throws at the newer one. -/
theorem sync_stops_at_verified_payment :
    (¬ ∀ (config : IngestConfig) (school : School) (s₀ s : IngestState), config.sdk.Documented →
      RecordedSuffix config school s₀.wallet s₀.store.db →
      Reach (ingestStep savePayment creditRow config school) Free s₀ s →
      MissesNothing creditRow config school s.wallet s.store.db) ∧
    ¬ ∀ (config : IngestConfig) (school : School) (s₀ s : IngestState),
      config.sdk.fromXDRAmount = none →
      RecordedSuffix config school s₀.wallet s₀.store.db →
      Reach (ingestStep savePayment creditRow config school) Free s₀ s →
      MissesNothing creditRow config school s.wallet s.store.db := by
  constructor
  · intro h
    have hrun := reach_of_exec (show exec (ingestStep savePayment creditRow xlmConfig sampleSchool)
      ⟨sampleStore, unrecordedHistory⟩ [.verify plainPayment sampleRequest] = some _ from rfl)
    have hall := h xlmConfig sampleSchool ⟨sampleStore, unrecordedHistory⟩ _ xlmConfig_documented
      (by unfold RecordedSuffix; decide) hrun { plainPayment with hash := "tx0" } (by decide)
      (by decide)
    revert hall
    decide
  · intro h
    let config : IngestConfig := { xlmConfig with sdk := ⟨none⟩ }
    have hrun := reach_of_exec (show exec (ingestStep savePayment creditRow config sampleSchool)
      ⟨sampleStore, ⟨[], by decide⟩⟩ [.arrive olderHistory, .arrive unrecordedHistory] =
        some _ from rfl)
    have hall := h config sampleSchool ⟨sampleStore, ⟨[], by decide⟩⟩ _ rfl
      (by unfold RecordedSuffix; decide) hrun { plainPayment with hash := "tx0" } (by decide)
      (by decide)
    revert hall
    decide

end StellarEduPay

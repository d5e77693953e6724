import Mathlib.Algebra.Order.Field.Rat
import Mathlib.Data.List.AList
import Mathlib.Data.Rat.Defs
import Mathlib.Tactic.NormNum
import StellarEduPay.Checks
import StellarEduPay.Grouping
import StellarEduPay.Ingestion

/-! # The reconciliation report (`services/reconciliationService.js`)

The report of a school compares, asset by asset, what its payments credit with what its wallet
received.  It reads the wallet by itself: of each of the newest transactions it counts the first plain
payment to the wallet, whatever its transaction came to and whoever issued the asset, and nothing else.
What it has worked out it stores, and only then raises an alert; but the document is not one of its
schema (`models/reconciliationReportModel.js`), which asks for totals over all assets.

Amounts are exact, in stroops.
-/
namespace StellarEduPay
open Grouping

/-! ## The store and the ledger -/

/-- A payment with the code of its asset. -/
structure AssetPayment extends Payment where
  assetCode : Option String
  deriving DecidableEq, Repr

/-- A school with its name. -/
structure NamedSchool extends School where
  name : String
  deriving DecidableEq, Repr

/-- A transaction with the time of its ledger, `created_at`. -/
structure WalletTransaction extends Transaction where
  createdAt : Int
  deriving DecidableEq, Repr

/-- The transactions of a wallet, the newest first.  An operation that pays states its amount. -/
structure WalletPast where
  transactions : List WalletTransaction
  priced : ∀ tx ∈ transactions, ∀ op ∈ tx.operations, isCreditableOpType op.type = true →
    (resolveCreditedAmount op).isSome

/-- The clock, and the two settings of the report. -/
structure ReportEnv where
  now : Int
  lookbackDays : Int
  threshold : ℚ

/-! ## Reading the wallet -/

/-- `CHAIN_PAGE_SIZE` -/
def chainPageSize : Nat := 200

/-- `CHAIN_MAX_PAGES` -/
def chainMaxPages : Nat := 50

/-- `cutoff`, if it is a time to compare with. -/
def ReportEnv.cutoff (env : ReportEnv) : Option Int :=
  if 0 < env.lookbackDays then
    (some (env.now - env.lookbackDays * 24 * 60 * 60 * 1000)).filter (· ≠ 0)
  else none

/-- The transaction is not from before the lookback boundary. -/
def ReportEnv.recent (env : ReportEnv) (tx : WalletTransaction) : Bool :=
  env.cutoff.all (· ≤ tx.createdAt)

/-- The loop of `fetchChainTransactions`, on what comes behind the cursor. -/
def fetchChainPages (env : ReportEnv) :
    Nat → List WalletTransaction → List WalletTransaction → List WalletTransaction
  | 0, _, records => records
  | pages + 1, behind, records =>
    let batch := behind.take chainPageSize
    if batch.isEmpty then records
    else
      let kept := batch.takeWhile env.recent
      if kept.length < batch.length then records ++ kept
      else if batch.length < chainPageSize then records ++ batch
      else fetchChainPages env pages (behind.drop chainPageSize) (records ++ batch)

def fetchChainTransactions (env : ReportEnv) (history : WalletPast) : List WalletTransaction :=
  fetchChainPages env chainMaxPages history.transactions []

/-- The records of a page where the request names no limit. -/
def operationsPageSize : Nat := 10

/-- `payOp` -/
def reportedOperation (walletAddress : String) (tx : Transaction) : Option Operation :=
  (tx.operations.take operationsPageSize).find? fun op =>
    op.type = .payment && op.toAddress == some walletAddress

/-! ## Totals by asset -/

inductive ReportError
  /-- A name that every object has a property of is taken for an asset: the sum is a text, which has
  no `toFixed`. -/
  | toFixedIsNotAFunction
  /-- The `ValidationError` of a document that lacks these paths. -/
  | pathsRequired (paths : List String)
  deriving DecidableEq, Repr

/-- The names of `Object.prototype`. -/
def objectPrototypeNames : List String :=
  ["constructor", "__defineGetter__", "__defineSetter__", "hasOwnProperty", "__lookupGetter__",
    "__lookupSetter__", "isPrototypeOf", "propertyIsEnumerable", "toString", "valueOf",
    "__proto__", "toLocaleString"]

/-- An object of totals; `none` is `NaN`. -/
abbrev AssetTotals := AList fun _ : String => Option Int

/-- `totals[asset] || 0` -/
def AssetTotals.get (totals : AssetTotals) (asset : String) : Int :=
  (totals.lookup asset).join.getD 0

def addToTotals (totals : AssetTotals) (entry : String × Option Int) :
    Except ReportError AssetTotals :=
  if entry.1 ∈ objectPrototypeNames then .error .toFixedIsNotAFunction
  else .ok (totals.insert entry.1 (entry.2.map (totals.get entry.1 + ·)))

/-- The totals of assets and amounts. -/
def totalsByAsset (entries : List (String × Option Int)) : Except ReportError AssetTotals :=
  entries.foldlM addToTotals ∅

/-- The asset and the amount a payment is counted with. -/
def AssetPayment.entry (p : AssetPayment) : String × Option Int :=
  ((truthy p.assetCode).getD "XLM", some p.amount)

/-- The asset and the amount an operation is counted with. -/
def reportedEntry (op : Operation) : String × Option Int :=
  ((truthy op.assetCode).getD "XLM", op.amount)

/-! ## The report -/

structure AssetDrift where
  dbTotalCredited : Int
  chainTotalReceived : Int
  drift : Int
  driftPercentage : ℚ
  alertRaised : Bool
  deriving DecidableEq, Repr

structure ReconciliationReport where
  schoolId : String
  reportedAt : Int
  totalsByAsset : List (String × AssetDrift)
  threshold : ℚ
  alertRaised : Bool
  paymentCount : Nat
  chainTxCount : Nat
  schoolName : String
  checkTime : String
  deriving DecidableEq, Repr

def assetDrift (threshold : ℚ) (dbTotal chainTotal : Int) : AssetDrift :=
  let drift := |chainTotal - dbTotal|
  let driftPercentage : ℚ := if 0 < dbTotal then drift / dbTotal * 100 else 0
  { dbTotalCredited := dbTotal
    chainTotalReceived := chainTotal
    drift := drift
    driftPercentage := driftPercentage
    alertRaised := threshold < driftPercentage }

/-- `Payment.find({ schoolId, status: 'SUCCESS', deletedAt: null })` -/
def successPayments (schoolId : String) (payments : List AssetPayment) : List AssetPayment :=
  payments.filter fun p => p.schoolId == schoolId && p.status == .success && p.live

/-- What the report gives for each asset. -/
def driftByAsset (threshold : ℚ) (dbTotals chainTotals : AssetTotals) : List (String × AssetDrift) :=
  (dbTotals.keys ++ chainTotals.keys).dedup.map fun asset =>
    (asset, assetDrift threshold (dbTotals.get asset) (chainTotals.get asset))

/-- The paths `reconciliationReportSchema` requires. -/
def reportRequiredPaths : List String :=
  ["schoolId", "reportedAt", "dbTotalCredited", "chainTotalReceived", "drift", "driftPercentage",
    "threshold"]

/-- The paths of the document the service hands over. -/
def reportGivenPaths : List String :=
  ["schoolId", "reportedAt", "totalsByAsset", "threshold", "alertRaised", "paymentCount",
    "chainTxCount", "details"]

/-- `ReconciliationReport.create(…)` -/
def createReconciliationReport (report : ReconciliationReport) : Except ReportError ReconciliationReport :=
  let missing := reportRequiredPaths.filter (· ∉ reportGivenPaths)
  if missing = [] then .ok report else .error (.pathsRequired missing)

/-- The document of a report, with no totals of the chain cached. -/
def reconciliationDocument (env : ReportEnv) (school : NamedSchool) (payments : List AssetPayment)
    (history : WalletPast) : Except ReportError ReconciliationReport := do
  let dbPayments := successPayments school.schoolId payments
  let dbTotals ← totalsByAsset (dbPayments.map AssetPayment.entry)
  let chainTxs := fetchChainTransactions env history
  let payOps := chainTxs.filterMap fun tx =>
    reportedOperation school.stellarAddress tx.toTransaction
  let chainTotals ← totalsByAsset (payOps.map reportedEntry)
  let perAsset := driftByAsset env.threshold dbTotals chainTotals
  return { schoolId := school.schoolId
           reportedAt := env.now
           totalsByAsset := perAsset
           threshold := env.threshold
           alertRaised := perAsset.any fun entry => entry.2.alertRaised
           paymentCount := dbPayments.length
           chainTxCount := chainTxs.length
           schoolName := school.name
           checkTime := toISOString env.now }

/-- `generateReconciliationReport` -/
def generateReconciliationReport (env : ReportEnv) (school : Option NamedSchool)
    (payments : List AssetPayment) (history : WalletPast) :
    Except ReportError (Option ReconciliationReport) :=
  match school with
  | none => .ok none
  | some school => do
    let document ← reconciliationDocument env school payments history
    let report ← createReconciliationReport document
    return some report

/-! ## What was received, and what the report makes of it -/

/-- The total of an asset. -/
def totalOf (entries : List (String × Option Int)) (asset : String) : Int :=
  ((group Prod.fst entries asset).map fun entry => entry.2.getD 0).sum

/-- What a payment credits, over the payments of a school. -/
def creditedEntries (school : NamedSchool) (payments : List AssetPayment) :
    List (String × Option Int) :=
  (successPayments school.schoolId payments).map AssetPayment.entry

/-- The operations of a transaction that are creditable, with the amounts on the ledger. -/
def receivedOperations (accepted : AcceptedAsset) (walletAddress : String) (tx : Transaction) :
    List CreditableOperation :=
  ((validOperations accepted tx walletAddress).map Prod.snd).getD []

def CreditableOperation.entry (o : CreditableOperation) : String × Option Int :=
  (o.asset.assetCode, o.amount)

/-- The transactions the report looks at: the newest ten thousand, down to the first one from before
the lookback boundary. -/
def ReportEnv.window (env : ReportEnv) (history : WalletPast) : List WalletTransaction :=
  (history.transactions.take (chainMaxPages * chainPageSize)).takeWhile env.recent

/-- The transactions behind them. -/
def ReportEnv.beyond (env : ReportEnv) (history : WalletPast) : List WalletTransaction :=
  history.transactions.drop (env.window history).length

/-- The first plain payment to the wallet on the first page, with its position. -/
def firstPlainPayment (walletAddress : String) (tx : Transaction) : Option (Operation × Nat) :=
  (tx.operations.zipIdx.take operationsPageSize).find? fun (op, _) =>
    op.type = .payment && op.toAddress == some walletAddress

/-- A creditable operation is that payment, under the same code. -/
def CreditableOperation.isAt (o : CreditableOperation) (payment : Operation × Nat) : Bool :=
  o.opIndex = payment.2 && o.asset.assetCode = (reportedEntry payment.1).1

/-- The creditable operations of a transaction that the report overlooks: path payments, a second
payment, what stands on a later page. -/
def overlookedIn (accepted : AcceptedAsset) (walletAddress : String) (tx : Transaction) :
    List CreditableOperation :=
  (receivedOperations accepted walletAddress tx).filter fun o =>
    !(firstPlainPayment walletAddress tx).any o.isAt

/-- The payment the report counts though it is not creditable: it failed, or has no memo, or is in an
asset that is not accepted. -/
def strayIn (accepted : AcceptedAsset) (walletAddress : String) (tx : Transaction) :
    List Operation :=
  ((firstPlainPayment walletAddress tx).filter fun payment =>
    !(receivedOperations accepted walletAddress tx).any (·.isAt payment)).toList.map Prod.fst

section
variable (env : ReportEnv) (accepted : AcceptedAsset) (school : NamedSchool)
  (payments : List AssetPayment) (history : WalletPast)

/-- What was received, over the transactions of the wallet. -/
def receivedEntries : List (String × Option Int) :=
  history.transactions.flatMap fun tx =>
    (receivedOperations accepted school.stellarAddress tx.toTransaction).map (·.entry)

/-- What was received and is not in the report. -/
def overlookedEntries : List (String × Option Int) :=
  ((env.window history).flatMap fun tx =>
      (overlookedIn accepted school.stellarAddress tx.toTransaction).map (·.entry)) ++
    (env.beyond history).flatMap fun tx =>
      (receivedOperations accepted school.stellarAddress tx.toTransaction).map (·.entry)

/-- What is in the report and was not received. -/
def strayEntries : List (String × Option Int) :=
  (env.window history).flatMap fun tx =>
    (strayIn accepted school.stellarAddress tx.toTransaction).map reportedEntry

/-- What the report counts. -/
def reportedEntries : List (String × Option Int) :=
  ((env.window history).filterMap fun tx =>
    reportedOperation school.stellarAddress tx.toTransaction).map reportedEntry

end

/-! ## Reading the wallet by pages -/

theorem fetchChainPages_eq (env : ReportEnv) (pages : Nat) (behind records : List WalletTransaction) :
    fetchChainPages env pages behind records =
      records ++ (behind.take (pages * chainPageSize)).takeWhile env.recent := by
  induction pages generalizing behind records with
  | zero => simp [fetchChainPages]
  | succ pages ih =>
    have htake : behind.take ((pages + 1) * chainPageSize) = behind.take chainPageSize ++
        (behind.drop chainPageSize).take (pages * chainPageSize) := by
      rw [← List.take_add, Nat.succ_mul, Nat.add_comm]
    rw [htake, List.takeWhile_append]
    unfold fetchChainPages
    dsimp only
    have hle : ((behind.take chainPageSize).takeWhile env.recent).length ≤
        (behind.take chainPageSize).length := (List.takeWhile_prefix _).length_le
    by_cases hempty : (behind.take chainPageSize).isEmpty = true
    · have hbehind : behind = [] := by simpa [chainPageSize] using hempty
      simp [hbehind]
    rw [if_neg hempty]
    by_cases hkept : ((behind.take chainPageSize).takeWhile env.recent).length <
        (behind.take chainPageSize).length
    · rw [if_pos hkept, if_neg hkept.ne]
    rw [if_neg hkept, if_pos (le_antisymm hle (not_lt.mp hkept))]
    by_cases hlast : (behind.take chainPageSize).length < chainPageSize
    · have hdrop : behind.drop chainPageSize = [] := by
        rw [List.length_take] at hlast
        exact List.drop_eq_nil_iff.mpr (by omega)
      rw [if_pos hlast, hdrop, List.take_nil, List.takeWhile_nil, List.append_nil]
    · rw [if_neg hlast, ih, List.append_assoc]

theorem fetchChainTransactions_eq (env : ReportEnv) (history : WalletPast) :
    fetchChainTransactions env history = env.window history := by
  rw [fetchChainTransactions, fetchChainPages_eq, List.nil_append, ReportEnv.window]

theorem window_append_beyond (env : ReportEnv) (history : WalletPast) :
    env.window history ++ env.beyond history = history.transactions := by
  have hprefix : env.window history <+: history.transactions :=
    (List.takeWhile_prefix _).trans (List.take_prefix ..)
  rw [ReportEnv.beyond]
  exact (List.prefix_iff_eq_append.mp hprefix)

/-! ## Sums of totals -/

@[simp] theorem totalOf_nil (asset : String) : totalOf [] asset = 0 := rfl

theorem totalOf_append (entries entries' : List (String × Option Int)) (asset : String) :
    totalOf (entries ++ entries') asset = totalOf entries asset + totalOf entries' asset := by
  simp [totalOf, group]

theorem totalOf_cons (entry : String × Option Int) (entries : List (String × Option Int))
    (asset : String) :
    totalOf (entry :: entries) asset =
      (if entry.1 = asset then entry.2.getD 0 else 0) + totalOf entries asset := by
  by_cases h : entry.1 = asset <;> simp [totalOf, group, h]

theorem totalOf_perm {entries entries' : List (String × Option Int)} (h : entries.Perm entries')
    (asset : String) : totalOf entries asset = totalOf entries' asset :=
  ((h.filter _).map _).sum_eq

/-- Every entry has an amount. -/
def Priced (entries : List (String × Option Int)) : Prop := ∀ entry ∈ entries, entry.2.isSome

/-- No entry is in an asset named like a property of every object. -/
def PlainlyNamed (entries : List (String × Option Int)) : Prop :=
  ∀ entry ∈ entries, entry.1 ∉ objectPrototypeNames

theorem AssetTotals.get_insert (totals : AssetTotals) (asset other : String) (amount : Option Int) :
    AssetTotals.get (totals.insert asset amount) other =
      if asset = other then amount.getD 0 else totals.get other := by
  by_cases h : asset = other
  · subst h
    simp [AssetTotals.get]
  · rw [if_neg h]
    unfold AssetTotals.get
    rw [AList.lookup_insert_ne (Ne.symm h)]

/-- What the loop over the entries keeps: a total has grown by the total of the entries so far, and an
asset that is none of theirs is none of the object's. -/
theorem totalsByAsset_from {entries : List (String × Option Int)} (hnames : PlainlyNamed entries)
    (hpriced : Priced entries) (totals : AssetTotals) :
    ∃ totals', entries.foldlM addToTotals totals = .ok totals' ∧
      (∀ asset, totals'.get asset = totals.get asset + totalOf entries asset) ∧
      ∀ asset, asset ∈ totals' ↔ asset ∈ totals ∨ asset ∈ entries.map Prod.fst := by
  induction entries generalizing totals with
  | nil => exact ⟨totals, rfl, fun asset => (add_zero _).symm, fun asset => by simp⟩
  | cons entry entries ih =>
    obtain ⟨asset, amount⟩ := entry
    obtain ⟨x, rfl⟩ := Option.isSome_iff_exists.mp (hpriced _ List.mem_cons_self)
    have hname : asset ∉ objectPrototypeNames := hnames _ List.mem_cons_self
    obtain ⟨totals', hfold, hget, hmem⟩ :=
      ih (fun e he => hnames e (List.mem_cons_of_mem _ he))
        (fun e he => hpriced e (List.mem_cons_of_mem _ he))
        (totals.insert asset (some (totals.get asset + x)))
    refine ⟨totals', ?_, fun other => ?_, fun other => ?_⟩
    · rw [List.foldlM_cons, addToTotals, if_neg hname]
      exact hfold
    · rw [hget, AssetTotals.get_insert, totalOf_cons]
      by_cases h : asset = other
      · subst h
        simp [add_assoc]
      · simp [h]
    · rw [hmem, AList.mem_insert, List.map_cons, List.mem_cons]
      tauto

theorem totalsByAsset_ok {entries : List (String × Option Int)} (hnames : PlainlyNamed entries)
    (hpriced : Priced entries) :
    ∃ totals, totalsByAsset entries = .ok totals ∧
      (∀ asset, totals.get asset = totalOf entries asset) ∧
      ∀ asset, asset ∈ totals ↔ asset ∈ entries.map Prod.fst := by
  obtain ⟨totals, hfold, hget, hmem⟩ := totalsByAsset_from hnames hpriced ∅
  refine ⟨totals, hfold, fun asset => ?_, fun asset => ?_⟩
  · rw [hget]
    simp [AssetTotals.get]
  · rw [hmem]
    simp

theorem totalsByAsset_error {entries : List (String × Option Int)} (hnames : ¬ PlainlyNamed entries) :
    totalsByAsset entries = .error .toFixedIsNotAFunction := by
  suffices h : ∀ totals, entries.foldlM addToTotals totals = .error .toFixedIsNotAFunction from h ∅
  induction entries with
  | nil => exact absurd (fun _ h => by cases h) hnames
  | cons entry entries ih =>
    intro totals
    rw [List.foldlM_cons, addToTotals]
    by_cases hname : entry.1 ∈ objectPrototypeNames
    · rw [if_pos hname]
      rfl
    · rw [if_neg hname]
      refine ih (fun hrest => hnames fun e he => ?_) _
      rcases List.mem_cons.mp he with rfl | he
      · exact hname
      · exact hrest e he

/-! ## One transaction -/

theorem reportedOperation_eq (walletAddress : String) (tx : Transaction) :
    reportedOperation walletAddress tx = (firstPlainPayment walletAddress tx).map Prod.fst := by
  have htake : tx.operations.take operationsPageSize =
      (tx.operations.zipIdx.take operationsPageSize).map Prod.fst := by
    rw [List.map_take, List.zipIdx_map_fst]
  rw [reportedOperation, htake, List.find?_map]
  rfl

theorem firstPlainPayment_some {walletAddress : String} {tx : Transaction} {op : Operation} {i : Nat}
    (h : firstPlainPayment walletAddress tx = some (op, i)) :
    tx.operations[i]? = some op ∧ op.type = .payment ∧ op.toAddress = some walletAddress := by
  have hmem := List.mem_of_mem_take (List.mem_of_find?_eq_some h)
  have htest := List.find?_some h
  simp only [Bool.and_eq_true, decide_eq_true_eq, beq_iff_eq] at htest
  exact ⟨List.mem_zipIdx_iff_getElem?.mp hmem, htest⟩

theorem receivedOperations_cases (accepted : AcceptedAsset) (walletAddress : String)
    (tx : Transaction) :
    receivedOperations accepted walletAddress tx = [] ∨
      receivedOperations accepted walletAddress tx =
        creditable accepted (operationsTo tx walletAddress) := by
  unfold receivedOperations validOperations
  split_ifs with hfailed hmissing hunsupported
  · exact .inl rfl
  · exact .inl rfl
  · exact .inl rfl
  · split
    · exact .inl rfl
    · dsimp only
      split
      · exact .inl rfl
      · exact .inr rfl

/-- A creditable operation stands at its index, pays, and is credited with its own amount. -/
theorem mem_receivedOperations {accepted : AcceptedAsset} {walletAddress : String} {tx : Transaction}
    {o : CreditableOperation} (h : o ∈ receivedOperations accepted walletAddress tx) :
    tx.operations[o.opIndex]? = some o.payOp ∧ o.amount = resolveCreditedAmount o.payOp := by
  rcases receivedOperations_cases accepted walletAddress tx with hnil | hcreditable
  · rw [hnil] at h
    cases h
  · rw [hcreditable] at h
    obtain ⟨⟨op, i⟩, hop, hasset⟩ := List.mem_filterMap.mp h
    obtain ⟨asset, -, rfl⟩ := Option.map_eq_some_iff.mp hasset
    exact ⟨List.mem_zipIdx_iff_getElem?.mp (List.mem_of_mem_filter hop), rfl⟩

theorem creditable_opIndex_sublist (accepted : AcceptedAsset) (ops : List (Operation × Nat)) :
    ((creditable accepted ops).map (·.opIndex)).Sublist (ops.map Prod.snd) := by
  induction ops with
  | nil => exact .slnil
  | cons op ops ih =>
    obtain ⟨op, i⟩ := op
    cases hasset : detectAsset accepted op with
    | none => simpa [creditable, hasset] using ih.cons i
    | some asset => simpa [creditable, hasset] using ih.cons_cons i

/-- No two of them stand at one index. -/
theorem receivedOperations_nodup (accepted : AcceptedAsset) (walletAddress : String)
    (tx : Transaction) :
    ((receivedOperations accepted walletAddress tx).map (·.opIndex)).Nodup := by
  rcases receivedOperations_cases accepted walletAddress tx with h | h
  · simp [h]
  · rw [h]
    refine (creditable_opIndex_sublist accepted _).nodup ?_
    refine (List.filter_sublist.map _).nodup ?_
    rw [List.zipIdx_map_snd]
    exact List.nodup_range'

/-- Where the images are distinct, a test that only one image passes keeps one element. -/
theorem filter_eq_singleton {α β : Type} {f : α → β} {p : α → Bool} {l : List α} {x : α}
    (hnodup : (l.map f).Nodup) (hx : x ∈ l.filter p) (hsame : ∀ y ∈ l.filter p, f y = f x) :
    l.filter p = [x] := by
  have hnodup' : ((l.filter p).map f).Nodup := (List.filter_sublist.map f).nodup hnodup
  match hl : l.filter p with
  | [] => simp [hl] at hx
  | [y] =>
    rw [hl] at hx
    rw [List.mem_singleton.mp hx]
  | y :: z :: rest =>
    rw [hl] at hnodup' hsame
    have hyz : f y = f z := (hsame y (by simp)).trans (hsame z (by simp)).symm
    simp [hyz] at hnodup'

section
variable (accepted : AcceptedAsset) (walletAddress : String)

theorem entry_of_isAt {tx : Transaction} {o : CreditableOperation} {op : Operation} {i : Nat}
    (ho : o ∈ receivedOperations accepted walletAddress tx)
    (hfirst : firstPlainPayment walletAddress tx = some (op, i)) (hat : o.isAt (op, i) = true) :
    o.entry = reportedEntry op := by
  obtain ⟨hop, hamount⟩ := mem_receivedOperations ho
  obtain ⟨hop', htype, -⟩ := firstPlainPayment_some hfirst
  obtain ⟨rfl, hcode⟩ : o.opIndex = i ∧ o.asset.assetCode = (reportedEntry op).1 := by
    simpa [CreditableOperation.isAt] using hat
  have hpayOp : o.payOp = op := Option.some.inj (hop.symm.trans hop')
  have hplain : resolveCreditedAmount op = op.amount := by
    rw [resolveCreditedAmount, htype]
    rfl
  exact Prod.ext hcode (by rw [CreditableOperation.entry, hamount, hpayOp, hplain, reportedEntry])

/-- **One transaction**: what the report counts of it is what was received, less what it overlooks,
with what it counts besides. -/
theorem totalOf_reportedOperation (tx : Transaction) (asset : String) :
    totalOf ((reportedOperation walletAddress tx).toList.map reportedEntry) asset +
        totalOf ((overlookedIn accepted walletAddress tx).map (·.entry)) asset =
      totalOf ((receivedOperations accepted walletAddress tx).map (·.entry)) asset +
        totalOf ((strayIn accepted walletAddress tx).map reportedEntry) asset := by
  let seen := (receivedOperations accepted walletAddress tx).filter fun o =>
    (firstPlainPayment walletAddress tx).any o.isAt
  have hreceived : totalOf ((receivedOperations accepted walletAddress tx).map (·.entry)) asset =
      totalOf (seen.map (·.entry)) asset +
        totalOf ((overlookedIn accepted walletAddress tx).map (·.entry)) asset := by
    rw [← totalOf_append, ← List.map_append]
    exact totalOf_perm ((List.filter_append_perm _ _).symm.map _) asset
  suffices hseen : totalOf ((reportedOperation walletAddress tx).toList.map reportedEntry) asset =
      totalOf (seen.map (·.entry)) asset +
        totalOf ((strayIn accepted walletAddress tx).map reportedEntry) asset by omega
  rw [reportedOperation_eq, strayIn]
  cases hfirst : firstPlainPayment walletAddress tx with
  | none => simp [seen, hfirst]
  | some payment =>
    obtain ⟨op, i⟩ := payment
    by_cases hany : (receivedOperations accepted walletAddress tx).any (·.isAt (op, i)) = true
    · obtain ⟨o, ho, hat⟩ := List.any_eq_true.mp hany
      have hone : seen = [o] := by
        refine filter_eq_singleton (receivedOperations_nodup accepted walletAddress tx)
          (List.mem_filter.mpr ⟨ho, by simpa [hfirst] using hat⟩) fun o' ho' => ?_
        have hat' := (List.mem_filter.mp ho').2
        simp only [hfirst, Option.any_some, CreditableOperation.isAt, Bool.and_eq_true,
          decide_eq_true_eq] at hat hat'
        exact hat'.1.trans hat.1.symm
      rw [hone]
      simp [Option.filter, hany, entry_of_isAt accepted walletAddress ho hfirst hat]
    · have hnone : seen = [] := by
        refine List.filter_eq_nil_iff.mpr fun o ho hat => hany (List.any_eq_true.mpr ⟨o, ho, ?_⟩)
        simpa [hfirst] using hat
      rw [hnone]
      simp [Option.filter, hany]

end

theorem totalOf_flatMap_add {α : Type} {f g f' g' : α → List (String × Option Int)} (asset : String)
    (h : ∀ x, totalOf (f x) asset + totalOf (g x) asset =
      totalOf (f' x) asset + totalOf (g' x) asset) (l : List α) :
    totalOf (l.flatMap f) asset + totalOf (l.flatMap g) asset =
      totalOf (l.flatMap f') asset + totalOf (l.flatMap g') asset := by
  induction l with
  | nil => rfl
  | cons x l ih =>
    have hx := h x
    simp only [List.flatMap_cons, totalOf_append]
    omega

theorem reportedEntries_eq (env : ReportEnv) (school : NamedSchool) (history : WalletPast) :
    reportedEntries env school history = (env.window history).flatMap fun tx =>
      (reportedOperation school.stellarAddress tx.toTransaction).toList.map reportedEntry := by
  rw [reportedEntries]
  induction env.window history with
  | nil => rfl
  | cons tx txs ih =>
    cases h : reportedOperation school.stellarAddress tx.toTransaction <;>
      simp [h, ih]

/-! ## When a report alerts -/

/-- A report came about, and raises an alert. -/
def AlertRaised (result : Except ReportError (Option ReconciliationReport)) : Prop :=
  ∃ report, result = .ok (some report) ∧ report.alertRaised = true

/-- The received total differs from the credited one by more than the threshold, in percent of the
latter, or money was received and nothing credited. -/
def Drifts (threshold : ℚ) (credited received : Int) : Prop :=
  threshold * credited < |received - credited| * 100 ∨ (0 < received ∧ credited = 0)

/-- A difference is beyond the threshold as the report measures it, for which the percentage of nothing
is zero. -/
def MeasuredBeyond (threshold : ℚ) (credited difference : Int) : Prop :=
  if 0 < credited then threshold * credited < |difference| * 100 else threshold < 0

section
variable (env : ReportEnv) (accepted : AcceptedAsset) (school : NamedSchool)
  (payments : List AssetPayment) (history : WalletPast)

/-- Every creditable operation has one row, with its asset and its amount, and there is no other. -/
def CreditedExactly : Prop :=
  ((successPayments school.schoolId payments).map fun p => (p.txHash, p.opIndex, p.entry)).Perm
    (history.transactions.flatMap fun tx =>
      (receivedOperations accepted school.stellarAddress tx.toTransaction).map fun o =>
        (tx.hash, o.opIndex, o.entry))

/-- A report alerts where some asset drifts, and does not where every operation is credited. -/
structure AlertsOnDrift (result : Except ReportError (Option ReconciliationReport)) : Prop where
  drift : (∃ asset, Drifts env.threshold (totalOf (creditedEntries school payments) asset)
      (totalOf (receivedEntries accepted school history) asset)) → AlertRaised result
  quiet : CreditedExactly accepted school payments history → ¬ AlertRaised result

/-- The payments and the operations that are counted, by asset and amount. -/
def countedEntries : List (String × Option Int) :=
  creditedEntries school payments ++ reportedEntries env school history

/-- Some asset of these is measured to differ beyond the threshold. -/
def SomeMeasuredBeyond (difference : String → Int) : Prop :=
  ∃ asset ∈ (countedEntries env school payments history).map Prod.fst,
    MeasuredBeyond env.threshold (totalOf (creditedEntries school payments) asset) (difference asset)

/-- What is counted of an asset besides what was received, less what is overlooked of it. -/
def miscounted (asset : String) : Int :=
  totalOf (strayEntries env accepted school history) asset -
    totalOf (overlookedEntries env accepted school history) asset

/-- What was received of an asset and not credited. -/
def uncredited (asset : String) : Int :=
  totalOf (receivedEntries accepted school history) asset -
    totalOf (creditedEntries school payments) asset

/-- **Where the measure is right**: where some asset drifts, no name stops the report, and what is
uncredited is still beyond the threshold in some asset with the miscounted put in; where every operation
is credited, the miscounted alone is beyond it in none. -/
structure MeasuresDrift : Prop where
  drift : (∃ asset, Drifts env.threshold (totalOf (creditedEntries school payments) asset)
      (totalOf (receivedEntries accepted school history) asset)) →
    PlainlyNamed (countedEntries env school payments history) ∧
      SomeMeasuredBeyond env school payments history fun asset =>
        uncredited accepted school payments history asset +
          miscounted env accepted school history asset
  quiet : CreditedExactly accepted school payments history →
    PlainlyNamed (countedEntries env school payments history) →
      ¬ SomeMeasuredBeyond env school payments history (miscounted env accepted school history)

/-- **What the report counts**: what was received, and what it miscounts. -/
theorem totalOf_reportedEntries (asset : String) :
    totalOf (reportedEntries env school history) asset =
      totalOf (receivedEntries accepted school history) asset +
        miscounted env accepted school history asset := by
  have hwindow := totalOf_flatMap_add asset
    (fun tx : WalletTransaction =>
      totalOf_reportedOperation accepted school.stellarAddress tx.toTransaction asset)
    (env.window history)
  have hreceived : totalOf (receivedEntries accepted school history) asset =
      totalOf ((env.window history).flatMap fun tx =>
        (receivedOperations accepted school.stellarAddress tx.toTransaction).map (·.entry)) asset +
      totalOf ((env.beyond history).flatMap fun tx =>
        (receivedOperations accepted school.stellarAddress tx.toTransaction).map (·.entry)) asset := by
    rw [receivedEntries, ← window_append_beyond env history, List.flatMap_append, totalOf_append]
  rw [miscounted, overlookedEntries, totalOf_append, strayEntries, reportedEntries_eq, hreceived]
  omega

theorem creditedEntries_priced : Priced (creditedEntries school payments) := by
  intro entry hentry
  obtain ⟨p, -, rfl⟩ := List.mem_map.mp hentry
  rfl

theorem reportedEntries_priced : Priced (reportedEntries env school history) := by
  intro entry hentry
  obtain ⟨op, hop, rfl⟩ := List.mem_map.mp hentry
  obtain ⟨tx, htx, hreported⟩ := List.mem_filterMap.mp hop
  have htx' : tx ∈ history.transactions :=
    List.mem_of_mem_take ((List.takeWhile_prefix _).subset htx)
  have hmem := List.mem_of_mem_take (List.mem_of_find?_eq_some hreported)
  have htest := List.find?_some hreported
  simp only [Bool.and_eq_true, decide_eq_true_eq, beq_iff_eq] at htest
  have hpriced := history.priced tx htx' op hmem (by rw [htest.1]; rfl)
  rwa [resolveCreditedAmount, htest.1] at hpriced

theorem assetDrift_alertRaised (threshold : ℚ) (dbTotal chainTotal : Int) :
    (assetDrift threshold dbTotal chainTotal).alertRaised = true ↔
      MeasuredBeyond threshold dbTotal (chainTotal - dbTotal) := by
  unfold assetDrift MeasuredBeyond
  simp only [decide_eq_true_eq]
  split_ifs with hpos
  · have hpos' : (0 : ℚ) < dbTotal := by exact_mod_cast hpos
    rw [div_mul_eq_mul_div, lt_div_iff₀ hpos']
  · rfl

/-- **When the document raises an alert**: no name stops it, and an asset is measured to be beyond the
threshold. -/
theorem alertRaised_iff :
    AlertRaised ((reconciliationDocument env school payments history).map some) ↔
      PlainlyNamed (countedEntries env school payments history) ∧
        SomeMeasuredBeyond env school payments history fun asset =>
          totalOf (reportedEntries env school history) asset -
            totalOf (creditedEntries school payments) asset := by
  have hnamed : PlainlyNamed (countedEntries env school payments history) ↔
      PlainlyNamed (creditedEntries school payments) ∧
        PlainlyNamed (reportedEntries env school history) := List.forall_mem_append
  rw [hnamed, reconciliationDocument, fetchChainTransactions_eq]
  by_cases hdb : PlainlyNamed (creditedEntries school payments)
  case neg =>
    have hthrows := totalsByAsset_error hdb
    rw [creditedEntries] at hthrows
    simp [AlertRaised, hdb, hthrows, bind, Except.bind, Except.map]
  by_cases hchain : PlainlyNamed (reportedEntries env school history)
  case neg =>
    obtain ⟨dbTotals, hdbTotals, -⟩ := totalsByAsset_ok hdb (creditedEntries_priced school payments)
    have hthrows := totalsByAsset_error hchain
    rw [creditedEntries] at hdbTotals
    rw [reportedEntries] at hthrows
    simp [AlertRaised, hchain, hdbTotals, hthrows, bind, Except.bind, Except.map]
  obtain ⟨dbTotals, hdbTotals, hdbGet, hdbMem⟩ :=
    totalsByAsset_ok hdb (creditedEntries_priced school payments)
  obtain ⟨chainTotals, hchainTotals, hchainGet, hchainMem⟩ :=
    totalsByAsset_ok hchain (reportedEntries_priced env school history)
  rw [creditedEntries] at hdbTotals
  rw [reportedEntries] at hchainTotals
  have hassets : ∀ asset, asset ∈ (dbTotals.keys ++ chainTotals.keys).dedup ↔
      asset ∈ (countedEntries env school payments history).map Prod.fst := by
    intro asset
    rw [List.mem_dedup, List.mem_append, ← AList.mem_keys, ← AList.mem_keys, hdbMem, hchainMem,
      countedEntries, List.map_append, List.mem_append]
  simp only [AlertRaised, driftByAsset, hdbTotals, hchainTotals, bind, Except.bind, pure, Except.pure,
    Except.map, Except.ok.injEq, Option.some.injEq, exists_eq_left', List.any_map, List.any_eq_true,
    Function.comp_apply, assetDrift_alertRaised, hdbGet, hchainGet, hassets, hdb, hchain,
    and_self, true_and, SomeMeasuredBeyond]

theorem CreditedExactly.total_eq (h : CreditedExactly accepted school payments history)
    (asset : String) :
    totalOf (creditedEntries school payments) asset =
      totalOf (receivedEntries accepted school history) asset := by
  have hentries := List.Perm.map (fun row : String × Nat × String × Option Int => row.2.2) h
  simp only [List.map_map, List.map_flatMap, Function.comp_def] at hentries
  exact totalOf_perm hentries asset

/-- The schema asks for four paths that the service does not give. -/
theorem createReconciliationReport_error (report : ReconciliationReport) :
    createReconciliationReport report = .error
      (.pathsRequired ["dbTotalCredited", "chainTotalReceived", "drift", "driftPercentage"]) :=
  rfl

/-- No school gets a report. -/
theorem no_alertRaised :
    ¬ AlertRaised (generateReconciliationReport env (some school) payments history) := by
  rintro ⟨report, hreport, -⟩
  obtain ⟨document, -, hcreated⟩ := Checks.bind_ok_iff.mp hreport
  rw [createReconciliationReport_error] at hcreated
  cases hcreated

/-- The document raises an alert rightly where the measure is right. -/
theorem document_alertsOnDrift_iff :
    AlertsOnDrift env accepted school payments history
        ((reconciliationDocument env school payments history).map some) ↔
      MeasuresDrift env accepted school payments history := by
  have halert := alertRaised_iff env school payments history
  have hmeasured : (fun asset => totalOf (reportedEntries env school history) asset -
      totalOf (creditedEntries school payments) asset) = fun asset =>
        uncredited accepted school payments history asset +
          miscounted env accepted school history asset := by
    funext asset
    rw [totalOf_reportedEntries env accepted, uncredited]
    omega
  rw [hmeasured] at halert
  have hquiet : CreditedExactly accepted school payments history →
      (fun asset => uncredited accepted school payments history asset +
        miscounted env accepted school history asset) = miscounted env accepted school history := by
    intro hexact
    funext asset
    rw [uncredited, hexact.total_eq]
    omega
  constructor
  · intro h
    refine ⟨fun hdrift => halert.mp (h.drift hdrift), fun hexact hnamed hbeyond => ?_⟩
    rw [← hquiet hexact] at hbeyond
    exact h.quiet hexact (halert.mpr ⟨hnamed, hbeyond⟩)
  · intro h
    refine ⟨fun hdrift => halert.mpr (h.drift hdrift), fun hexact halerts => ?_⟩
    obtain ⟨hnamed, hbeyond⟩ := halert.mp halerts
    rw [hquiet hexact] at hbeyond
    exact h.quiet hexact hnamed hbeyond

/-- **When drift alerts, exactly**: nothing ever does, so it is right where nothing drifts.  The document
that is worked out before, and that the schema refuses, would be right where no name stops it and what it
miscounts does not change what is beyond the threshold. -/
theorem drift_alerts_exact_iff :
    (AlertsOnDrift env accepted school payments history
        (generateReconciliationReport env (some school) payments history) ↔
      ¬ ∃ asset, Drifts env.threshold (totalOf (creditedEntries school payments) asset)
        (totalOf (receivedEntries accepted school history) asset)) ∧
    (AlertsOnDrift env accepted school payments history
        ((reconciliationDocument env school payments history).map some) ↔
      MeasuresDrift env accepted school payments history) := by
  have hquiet := no_alertRaised env school payments history
  refine ⟨?_, document_alertsOnDrift_iff env accepted school payments history⟩
  exact ⟨fun h hdrift => hquiet (h.drift hdrift), fun hnone => ⟨fun h => absurd h hnone, fun _ => hquiet⟩⟩

end

/-- A transaction with two payments of 100 XLM each, a minute old. -/
def twoPayments : WalletTransaction where
  toTransaction := { plainPayment with
    operations := plainPayment.operations ++ plainPayment.operations }
  createdAt := 1710046740000

def twoPaymentsHistory : WalletPast := ⟨[twoPayments], by decide⟩

def reportedSchool : NamedSchool := ⟨sampleSchool, "Sample School"⟩

/-- Ninety days, and half a percent. -/
def defaultReportEnv : ReportEnv := ⟨1710046800000, 90, 1 / 2⟩

/-- A payment of 100 XLM by one of its operations. -/
def creditedAssetRow (opIndex : Nat) : AssetPayment where
  toPayment := { Payment.withDefaults "SCH" "STU001" "tx2" 1000000000 0 with
    opIndex := opIndex
    status := .success }
  assetCode := some "XLM"

/-- Money is received that nothing is credited for, and nothing alerts; and the document would alert of
two payments of one transaction that are both credited, for it counts the first alone. -/
theorem uncredited_payment_no_alert :
    (¬ ∀ (env : ReportEnv) (accepted : AcceptedAsset) (school : NamedSchool)
      (payments : List AssetPayment) (history : WalletPast),
        AlertsOnDrift env accepted school payments history
          (generateReconciliationReport env (some school) payments history)) ∧
    ¬ ∀ (env : ReportEnv) (accepted : AcceptedAsset) (school : NamedSchool)
      (payments : List AssetPayment) (history : WalletPast),
        AlertsOnDrift env accepted school payments history
          ((reconciliationDocument env school payments history).map some) := by
  constructor
  · intro h
    have hdrift : Drifts defaultReportEnv.threshold (totalOf (creditedEntries reportedSchool []) "XLM")
        (totalOf (receivedEntries .xlm reportedSchool twoPaymentsHistory) "XLM") :=
      .inr (by decide)
    exact no_alertRaised defaultReportEnv reportedSchool [] twoPaymentsHistory
      ((h defaultReportEnv .xlm reportedSchool [] twoPaymentsHistory).drift ⟨"XLM", hdrift⟩)
  · intro h
    have hright := h defaultReportEnv .xlm reportedSchool [creditedAssetRow 0, creditedAssetRow 1]
      twoPaymentsHistory
    have hexact : CreditedExactly .xlm reportedSchool [creditedAssetRow 0, creditedAssetRow 1]
        twoPaymentsHistory := by
      unfold CreditedExactly
      decide
    have hcredited : totalOf (creditedEntries reportedSchool
        [creditedAssetRow 0, creditedAssetRow 1]) "XLM" = 2000000000 := by decide
    have hreported : totalOf (reportedEntries defaultReportEnv reportedSchool twoPaymentsHistory)
        "XLM" = 1000000000 := by decide
    have hnamed : PlainlyNamed (countedEntries defaultReportEnv reportedSchool
        [creditedAssetRow 0, creditedAssetRow 1] twoPaymentsHistory) := by
      unfold PlainlyNamed
      decide
    refine hright.quiet hexact ((alertRaised_iff ..).mpr ⟨hnamed, "XLM", by decide, ?_⟩)
    dsimp only
    rw [hcredited, hreported, MeasuredBeyond, if_pos (by norm_num), defaultReportEnv]
    norm_num

end StellarEduPay

import StellarEduPay.AmountNumbers
import StellarEduPay.Checks
import StellarEduPay.Cursor
import StellarEduPay.DriftRepair
import StellarEduPay.DriftReport
import StellarEduPay.HorizonFailover

/-! # The consistency report (`services/consistencyService.js`, `utils/withStellarRetry.js`)

The payments of a school are compared with the transactions of its wallet, which are read by pages, newest
first, while calls fail and are made again and while new transactions come in.  Each page is asked for
behind the last transaction of the one before, so what is read is what the listing of the first page was
(`fetchChainTransactions_window`), and the report says of each payment how it stands to that
(`mismatch_mem_iff`).
-/
namespace StellarEduPay
open Doubles

/-! ## Calls that are made again -/

/-- `getStatus`; a status of 0 counts as none. -/
def getStatus (err : HorizonError) : Option Nat :=
  ([err.responseStatus, err.responseStatusCode, err.status, err.statusCode].filterMap id).find? (· ≠ 0)

def isTransient (err : HorizonError) : Bool :=
  err.code.any (· ∈ networkCodes) || namesNetwork (err.message.getD "") ||
    (getStatus err).any fun s => s = 429 || (500 ≤ s && s < 600)

def notFoundError (context : String) : HorizonError where
  message := some ((truthy (some context)).getD "Transaction" ++ " not found on the Stellar network")
  code := some "NOT_FOUND"
  status := some 404

def horizonUnavailableError : HorizonError where
  message := some "Stellar Horizon is temporarily unavailable. Please retry shortly."
  code := some "HORIZON_UNAVAILABLE"
  status := some 503

def stellarNetworkError (message : Option String) : HorizonError where
  message := some ((truthy message).getD "Unexpected Stellar network error")
  code := some "STELLAR_NETWORK_ERROR"
  status := some 502

/-- `classifyHorizonError`, without the `originalError`. -/
def classifyHorizonError (err : HorizonError) (context : String) : HorizonError :=
  if getStatus err = some 404 then notFoundError context
  else if isTransient err then horizonUnavailableError
  else if (truthy err.code).isSome ∧ err.status.any (· ≠ 0) then err
  else stellarNetworkError err.message

section
variable {β : Type} (calls : Nat → Except HorizonError β) (context : String)

/-- `withStellarRetry` with so many attempts left after this one; `calls` has what each call comes to, and
the call that is next goes along. -/
def withStellarRetry : Nat → Nat → Except HorizonError β × Nat
  | left, call =>
    match calls call with
    | .ok value => (.ok value, call + 1)
    | .error err =>
      if isTransient err then
        match left with
        | 0 => (.error (classifyHorizonError err context), call + 1)
        | left + 1 => withStellarRetry left (call + 1)
      else (.error (classifyHorizonError err context), call + 1)

end

/-! ## Reading the wallet while it grows -/

/-- A transaction as a listing has it, and whether asking for its operations fails. -/
structure ListedTransaction extends WalletTransaction where
  pagingToken : Nat
  operationsError : Option HorizonError

/-- The transactions of the wallet at each call, newest first, or how the call fails. -/
abbrev ListingCalls := Nat → Except HorizonError (List ListedTransaction)

/-- The page that a request gets, behind the cursor if it has one. -/
def servePage (cursor : Option Nat) (listing : List ListedTransaction) : List ListedTransaction :=
  (listing.filter fun tx => cursor.all (tx.pagingToken < ·)).take chainPageSize

section
variable (env : ReportEnv) (calls : ListingCalls) (context : String) (retries : Nat)

/-- The loop of `fetchChainTransactions` with so many pages left. -/
def fetchListedPages : Nat → Option Nat → List ListedTransaction → Nat →
    Except HorizonError (List ListedTransaction) × Nat
  | 0, _, records, call => (.ok records, call)
  | pages + 1, cursor, records, call =>
    match withStellarRetry (fun i => (calls i).map (servePage cursor)) context retries call with
    | (.error err, call) => (.error err, call)
    | (.ok batch, call) =>
      let kept := batch.takeWhile fun tx => env.recent tx.toWalletTransaction
      if kept.length < batch.length ∨ batch.length < chainPageSize then (.ok (records ++ kept), call)
      else
        let cursor := (kept.getLast?.map (·.pagingToken)).or cursor
        fetchListedPages pages cursor (records ++ kept) call

/-- `fetchChainTransactions`, call by call, and how many calls were made. -/
def ConsistencyService.fetchChainTransactions : Except HorizonError (List ListedTransaction) × Nat :=
  fetchListedPages env calls context retries chainMaxPages none [] 0

end

/-! ## The report -/

/-- An entry of the map of transactions on the ledger; an `amount` of `none` is `NaN`. -/
structure OnChain where
  hash : String
  memo : Option String
  amount : Option ℚ

abbrev ChainMap := AList fun _ : String => OnChain

/-- The loop that fills `chainMap`. -/
def addToChainMap (stellarAddress : String) (chainMap : ChainMap) (tx : ListedTransaction) :
    Except HorizonError ChainMap :=
  match tx.operationsError with
  | some err => .error err
  | none =>
    match reportedOperation stellarAddress tx.toTransaction with
    | none => .ok chainMap
    | some payOp => .ok (chainMap.insert tx.hash
        ⟨tx.hash, (truthy tx.memo).map jsTrim, payOp.amount.map fun a => fixedNumber (stroopsToNumber a)⟩)

inductive ChainMismatch
  | missingOnChain (txHash studentId : String) (dbAmount : ℚ)
  | amountMismatch (txHash studentId : String) (dbAmount chainAmount : ℚ)
  | studentMismatch (txHash dbStudentId chainMemo : String)
  deriving DecidableEq, Repr

def ChainMismatch.message : ChainMismatch → String
  | .missingOnChain txHash .. => "Transaction " ++ txHash ++ " exists in DB but not found on-chain"
  | .amountMismatch txHash _ dbAmount chainAmount =>
    "Amount mismatch for " ++ txHash ++ ": DB=" ++ numberText dbAmount ++ ", chain=" ++
      numberText chainAmount
  | .studentMismatch txHash dbStudentId chainMemo =>
    "Student mismatch for " ++ txHash ++ ": DB studentId=" ++ dbStudentId ++ ", chain memo=" ++ chainMemo

/-- `Math.abs(onChain.amount - payment.amount) > 0.0000001`, with the number of a stroop: amounts a stroop
apart may differ or not. -/
def AmountsDiffer (chainAmount dbAmount : ℚ) : Prop := stroopsToNumber 1 < |sub chainAmount dbAmount|

instance (chainAmount dbAmount : ℚ) : Decidable (AmountsDiffer chainAmount dbAmount) :=
  inferInstanceAs (Decidable (_ < _))

/-- The body of the loop over `dbPayments`. -/
def paymentMismatches (chainMap : ChainMap) (payment : Payment) : List ChainMismatch :=
  match chainMap.lookup payment.txHash with
  | none => [.missingOnChain payment.txHash payment.studentId (stroopsToNumber payment.amount)]
  | some onChain =>
    (match onChain.amount with
      | some amount =>
        if AmountsDiffer amount (stroopsToNumber payment.amount) then
          [.amountMismatch payment.txHash payment.studentId (stroopsToNumber payment.amount) amount]
        else []
      | none => []) ++
    (match truthy onChain.memo with
      | some memo =>
        if memo ≠ payment.studentId then
          [.studentMismatch payment.txHash payment.studentId memo]
        else []
      | none => [])

structure SchoolReport where
  schoolId : String
  totalDbPayments : Nat
  totalChainTxsScanned : Nat
  mismatchCount : Nat
  mismatches : List (ChainMismatch ⊕ BalanceMismatch)

/-- `checkSchoolConsistency`; the payments are those of one time, the balances those of a later one.
`find` does not see the deleted ones. -/
def checkSchoolConsistency (env : ReportEnv) (calls : ListingCalls) (retries : Nat)
    (schoolId stellarAddress : String) (payments : List Payment) (db : Db) :
    Except HorizonError SchoolReport := do
  let context := "for account " ++ stellarAddress
  let dbPayments := payments.filter fun p => p.live && p.schoolId == schoolId
  let chainTxs ← (ConsistencyService.fetchChainTransactions env calls context retries).1
  let chainMap ← chainTxs.foldlM (addToChainMap stellarAddress) ∅
  let balanceMismatches := (checkStudentBalanceConsistency db schoolId).1
  let mismatches := (dbPayments.flatMap (paymentMismatches chainMap)).map .inl ++
    balanceMismatches.map .inr
  return { schoolId := schoolId
           totalDbPayments := dbPayments.length
           totalChainTxsScanned := chainMap.keys.length
           mismatchCount := mismatches.length
           mismatches := mismatches }

/-! ## What calls come to -/

/-- The call fails with an error after which it is made again. -/
def FailsForNow {β : Type} (calls : Nat → Except HorizonError β) (i : Nat) : Prop :=
  ∃ err, calls i = .error err ∧ isTransient err = true

/-- What came of calls that were made again: the first value there was, or the first error that lasts, or
the last one. -/
inductive Retried {β : Type} (calls : Nat → Except HorizonError β) (context : String)
    (retries call : Nat) : Except HorizonError β × Nat → Prop
  | value {n : Nat} {v : β} (hfails : ∀ i, call ≤ i → i < n → FailsForNow calls i) (hcall : call ≤ n)
      (hn : n ≤ call + retries) (hv : calls n = .ok v) : Retried calls context retries call (.ok v, n + 1)
  | error {n : Nat} {err : HorizonError} (hfails : ∀ i, call ≤ i → i < n → FailsForNow calls i)
      (hcall : call ≤ n) (hn : n ≤ call + retries) (herr : calls n = .error err)
      (hlast : isTransient err = false ∨ n = call + retries) :
      Retried calls context retries call (.error (classifyHorizonError err context), n + 1)

theorem withStellarRetry_spec {β : Type} (calls : Nat → Except HorizonError β) (context : String)
    (retries call : Nat) :
    Retried calls context retries call (withStellarRetry calls context retries call) := by
  have hnone : ∀ i, call ≤ i → i < call → FailsForNow calls i := fun i h₁ h₂ => absurd h₁ (by omega)
  induction retries generalizing call with
  | zero =>
    unfold withStellarRetry
    cases hcall : calls call with
    | ok v => exact .value hnone le_rfl le_rfl hcall
    | error err =>
      dsimp only
      split <;> exact .error hnone le_rfl le_rfl hcall (.inr rfl)
  | succ retries ih =>
    unfold withStellarRetry
    cases hcall : calls call with
    | ok v => exact .value hnone le_rfl (by omega) hcall
    | error err =>
      dsimp only
      by_cases htransient : isTransient err = true
      · rw [if_pos htransient]
        have hbefore : ∀ {n}, (∀ i, call + 1 ≤ i → i < n → FailsForNow calls i) →
            ∀ i, call ≤ i → i < n → FailsForNow calls i := by
          intro n hfails i hi hin
          by_cases heq : i = call
          · exact heq ▸ ⟨err, hcall, htransient⟩
          · exact hfails i (by omega) hin
        have hnext := ih (call + 1) fun i h₁ h₂ => absurd h₁ (by omega)
        generalize withStellarRetry calls context retries (call + 1) = run at hnext ⊢
        cases hnext with
        | value hfails hle hn hv => exact .value (hbefore hfails) (by omega) (by omega) hv
        | error hfails hle hn herr hlast =>
          exact .error (hbefore hfails) (by omega) (by omega) herr (hlast.imp_right (by omega))
      · rw [if_neg htransient]
        exact .error hnone le_rfl (by omega) hcall (.inl (Bool.eq_false_iff.mpr htransient))

/-! ## What is read -/

/-- Transactions are added on top, under ever higher tokens and hashes of their own. -/
structure LedgerGrows (calls : ListingCalls) : Prop where
  descending {i : Nat} {listing : List ListedTransaction} (h : calls i = .ok listing) :
    listing.Pairwise (·.pagingToken > ·.pagingToken)
  hashes {i : Nat} {listing : List ListedTransaction} (h : calls i = .ok listing) :
    (listing.map (·.hash)).Nodup
  grows {i j : Nat} (hij : i ≤ j) {listing later : List ListedTransaction}
    (h : calls i = .ok listing) (hlater : calls j = .ok later) : listing <:+ later

/-- The newest ten thousand transactions of a listing, down to the first from before the cutoff. -/
def chainWindow (env : ReportEnv) (listing : List ListedTransaction) : List ListedTransaction :=
  (listing.take (chainMaxPages * chainPageSize)).takeWhile fun tx => env.recent tx.toWalletTransaction

/-- The next page, as far as it is kept, and whether there is a page to read behind it. -/
theorem takeWhile_page {α : Type} (p : α → Bool) (pages size : Nat) (behind : List α) :
    (behind.take ((pages + 1) * size)).takeWhile p =
      if ((behind.take size).takeWhile p).length < (behind.take size).length ∨
          (behind.take size).length < size then (behind.take size).takeWhile p
      else (behind.take size).takeWhile p ++ ((behind.drop size).take (pages * size)).takeWhile p := by
  have htake : behind.take ((pages + 1) * size) =
      behind.take size ++ (behind.drop size).take (pages * size) := by
    rw [← List.take_add, Nat.succ_mul, Nat.add_comm]
  have hle : ((behind.take size).takeWhile p).length ≤ (behind.take size).length :=
    (List.takeWhile_prefix _).length_le
  rw [htake, List.takeWhile_append]
  by_cases hkept : ((behind.take size).takeWhile p).length < (behind.take size).length
  · rw [if_neg hkept.ne, if_pos (.inl hkept)]
  · have heq := le_antisymm hle (not_lt.mp hkept)
    have hall : (behind.take size).takeWhile p = behind.take size :=
      (List.takeWhile_prefix _).eq_of_length heq
    rw [if_pos heq, hall]
    by_cases hlast : (behind.take size).length < size
    · have hdrop : behind.drop size = [] := by
        rw [List.length_take] at hlast
        exact List.drop_eq_nil_iff.mpr (by omega)
      rw [if_pos (.inr hlast), hdrop, List.take_nil, List.takeWhile_nil, List.append_nil]
    · rw [if_neg fun h => h.elim (lt_irrefl _) hlast]

section
variable {env : ReportEnv} {calls : ListingCalls} {context : String} {retries : Nat}

/-- A page asked for behind what was read, whatever has come in on top since. -/
theorem servePage_behind (hgrows : LedgerGrows calls) {i j : Nat} (hij : i ≤ j)
    {records behind later : List ListedTransaction} {last : ListedTransaction}
    (hi : calls i = .ok (records ++ behind)) (hlast : records.getLast? = some last)
    (hj : calls j = .ok later) :
    servePage (some last.pagingToken) later = behind.take chainPageSize := by
  obtain ⟨newer, rfl⟩ := hgrows.grows hij hi hj
  have hdesc := hgrows.descending hj
  rw [← List.append_assoc] at hdesc ⊢
  have hlast' : (newer ++ records).getLast? = some last := by
    rw [List.getLast?_append, hlast, Option.some_or]
  have hbehind := Cursors.filter_below_last hdesc hlast'
  exact congrArg (List.take chainPageSize) hbehind

theorem map_error_iff {α β : Type} {f : α → β} {x : Except HorizonError α} {err : HorizonError} :
    x.map f = .error err ↔ x = .error err := by
  cases x <;> simp [Except.map]

theorem failsForNow_map {α β : Type} {f : α → β} {calls : Nat → Except HorizonError α} {i : Nat} :
    FailsForNow (fun i => (calls i).map f) i ↔ FailsForNow calls i := by
  simp only [FailsForNow, map_error_iff]

/-- The error of the last call is thrown: it lasts, or the call had failed as often as it is repeated. -/
inductive Thrown {α β : Type} (calls : Nat → Except HorizonError α) (context : String) (retries : Nat) :
    Except HorizonError β × Nat → Prop
  | error {n : Nat} {err : HorizonError} (herr : calls n = .error err)
      (hlast : isTransient err = false ∨
        ∃ m, n = m + retries ∧ ∀ i, m ≤ i → i < n → FailsForNow calls i) :
      Thrown calls context retries (.error (classifyHorizonError err context), n + 1)

/-- A page: the first that is served, or an error. -/
theorem withStellarRetry_page (cursor : Option Nat) (call : Nat) :
    (∃ n listing, withStellarRetry (fun i => (calls i).map (servePage cursor)) context retries call =
        (.ok (servePage cursor listing), n + 1) ∧ calls n = .ok listing ∧ call ≤ n ∧
        n ≤ call + retries ∧ ∀ i, call ≤ i → i < n → FailsForNow calls i) ∨
      ∃ n e, withStellarRetry (fun i => (calls i).map (servePage cursor)) context retries call =
        (.error e, n) ∧ n ≤ call + retries + 1 ∧
        ∀ {β : Type}, Thrown calls context retries ((.error e, n) : Except HorizonError β × Nat) := by
  have hspec := withStellarRetry_spec (fun i => (calls i).map (servePage cursor)) context retries call
  generalize withStellarRetry (fun i => (calls i).map (servePage cursor)) context retries call = run
    at hspec ⊢
  cases hspec with
  | @value n v hfails hcall hn hv =>
    obtain ⟨listing, hlisting, rfl⟩ := Checks.map_ok_iff.mp hv
    exact .inl ⟨n, listing, rfl, hlisting, hcall, hn, fun i hi hin =>
      failsForNow_map.mp (hfails i hi hin)⟩
  | @error n err hfails hcall hn herr hlast =>
    refine .inr ⟨n + 1, _, rfl, by omega, .error (map_error_iff.mp herr) (hlast.imp_right ?_)⟩
    rintro rfl
    exact ⟨call, rfl, fun i hi hin => failsForNow_map.mp (hfails i hi hin)⟩

/-- After a page the scan has what it is for, or goes on behind the last transaction of the page. -/
theorem fetchListedPages_page (pages : Nat) (records : List ListedTransaction) {call next : Nat}
    {cursor : Option Nat} {behind : List ListedTransaction}
    (hpage : withStellarRetry (fun i => (calls i).map (servePage cursor)) context retries call =
      (.ok (behind.take chainPageSize), next)) :
    let recent := fun tx : ListedTransaction => env.recent tx.toWalletTransaction
    let window := (behind.take ((pages + 1) * chainPageSize)).takeWhile recent
    let run := fetchListedPages env calls context retries (pages + 1) cursor records call
    run = (.ok (records ++ window), next) ∨
      ∃ last, (records ++ behind.take chainPageSize).getLast? = some last ∧
        window = behind.take chainPageSize ++
          ((behind.drop chainPageSize).take (pages * chainPageSize)).takeWhile recent ∧
        run = fetchListedPages env calls context retries pages (some last.pagingToken)
          (records ++ behind.take chainPageSize) next := by
  intro recent window run
  have hwindow : window = _ := takeWhile_page recent pages chainPageSize behind
  have hrun : run =
      let kept := (behind.take chainPageSize).takeWhile recent
      if kept.length < (behind.take chainPageSize).length ∨
          (behind.take chainPageSize).length < chainPageSize then (.ok (records ++ kept), next)
      else fetchListedPages env calls context retries pages
        ((kept.getLast?.map (·.pagingToken)).or cursor) (records ++ kept) next := by
    unfold run
    rw [fetchListedPages, hpage]
  by_cases hstop : ((behind.take chainPageSize).takeWhile recent).length <
      (behind.take chainPageSize).length ∨ (behind.take chainPageSize).length < chainPageSize
  · rw [if_pos hstop] at hwindow hrun
    rw [hwindow]
    exact .inl hrun
  · rw [if_neg hstop] at hwindow hrun
    obtain ⟨hkept, hfull⟩ := not_or.mp hstop
    have hall : (behind.take chainPageSize).takeWhile recent = behind.take chainPageSize :=
      (List.takeWhile_prefix recent).eq_of_length_le (not_lt.mp hkept)
    obtain ⟨last, hlast⟩ : ∃ last, (behind.take chainPageSize).getLast? = some last := by
      refine Option.ne_none_iff_exists'.mp fun hnone => hfull ?_
      rw [List.getLast?_eq_none_iff.mp hnone]
      exact Nat.zero_lt_succ _
    rw [hall] at hwindow hrun
    rw [hlast] at hrun
    exact .inr ⟨last, by rw [List.getLast?_append, hlast, Option.some_or], hwindow, hrun⟩

/-- The rest of a scan, by induction on the pages: what was read and what lies behind it stay the listing
of the first page. -/
theorem fetchListedPages_spec (hgrows : LedgerGrows calls) (pages : Nat) {first call : Nat}
    {records behind : List ListedTransaction} {last : ListedTransaction}
    (hfirst : calls first = .ok (records ++ behind)) (hcall : first ≤ call)
    (hlast : records.getLast? = some last) :
    let run := fetchListedPages env calls context retries pages (some last.pagingToken) records call
    run.2 ≤ call + pages * (retries + 1) ∧
      (run.1 = .ok (records ++
          (behind.take (pages * chainPageSize)).takeWhile fun tx => env.recent tx.toWalletTransaction) ∨
        Thrown calls context retries run) := by
  induction pages generalizing records behind last call with
  | zero => simp [fetchListedPages]
  | succ pages ih =>
    intro run
    have hsucc : (pages + 1) * (retries + 1) = pages * (retries + 1) + (retries + 1) := Nat.succ_mul ..
    obtain ⟨n, listing, hpage, hn, hcalln, hle, -⟩ | ⟨n, e, hpage, hle, hthrown⟩ :=
      @withStellarRetry_page calls context retries (some last.pagingToken) call
    · rw [servePage_behind hgrows (hcall.trans hcalln) hfirst hlast hn] at hpage
      obtain hrun | ⟨next, hnext, hwindow, hrun⟩ := fetchListedPages_page pages records hpage
      · rw [show run = _ from hrun]
        exact ⟨by omega, .inl rfl⟩
      · have hread : calls first =
            .ok ((records ++ behind.take chainPageSize) ++ behind.drop chainPageSize) := by
          rw [List.append_assoc, List.take_append_drop]
          exact hfirst
        obtain ⟨hcount, hrest⟩ := ih hread (show first ≤ n + 1 by omega) hnext
        rw [show run = _ from hrun, hwindow, ← List.append_assoc]
        exact ⟨by omega, hrest⟩
    · have hrun : run = (.error e, n) := by
        unfold run fetchListedPages
        rw [hpage]
      rw [hrun]
      exact ⟨by dsimp only; omega, .inr hthrown⟩

/-- Whatever fails and however many transactions come in: the scan is the window of the listing that the
first page was served from, or throws what a call failed with for good. -/
theorem fetchChainTransactions_window (hgrows : LedgerGrows calls) :
    let run := ConsistencyService.fetchChainTransactions env calls context retries
    run.2 ≤ chainMaxPages * (retries + 1) ∧
      ((∃ first listing, (∀ i < first, FailsForNow calls i) ∧ first ≤ retries ∧
          calls first = .ok listing ∧ run.1 = .ok (chainWindow env listing)) ∨
        Thrown calls context retries run) := by
  intro run
  have hpages : chainMaxPages * (retries + 1) = 49 * (retries + 1) + (retries + 1) := Nat.succ_mul ..
  obtain ⟨n, listing, hpage, hn, -, hle, hfails⟩ | ⟨n, e, hpage, hle, hthrown⟩ :=
    @withStellarRetry_page calls context retries none 0
  · have hserved : servePage none listing = listing.take chainPageSize := by simp [servePage]
    rw [hserved] at hpage
    obtain hrun | ⟨last, hlast, hwindow, hrun⟩ := fetchListedPages_page 49 [] hpage
    · rw [show run = _ from hrun]
      exact ⟨by dsimp only; omega,
        .inl ⟨n, listing, fun i => hfails i (Nat.zero_le i), by omega, hn, rfl⟩⟩
    · have hread : calls n = .ok (([] ++ listing.take chainPageSize) ++ listing.drop chainPageSize) := by
        rw [List.nil_append, List.take_append_drop]
        exact hn
      obtain ⟨hcount, hrest⟩ := @fetchListedPages_spec env calls context retries hgrows 49 _ (n + 1) _ _
        _ hread (Nat.le_succ n) hlast
      rw [show run = _ from hrun]
      refine ⟨by omega, hrest.imp_left fun hrest => ?_⟩
      exact ⟨n, listing, fun i => hfails i (Nat.zero_le i), by omega, hn,
        hrest.trans (congrArg Except.ok hwindow.symm)⟩
  · have hrun : run = (.error e, n) := by
      unfold run ConsistencyService.fetchChainTransactions
      rw [show chainMaxPages = 49 + 1 from rfl, fetchListedPages, hpage]
    rw [hrun]
    exact ⟨by dsimp only; omega, .inr hthrown⟩

end

/-! ## What the report says -/

/-- A payment and the transactions disagree.  The operation that is compared is the first plain payment to
the wallet on the first page, in whatever asset. -/
inductive Disagrees (stellarAddress : String) (txs : List ListedTransaction) (p : Payment) :
    ChainMismatch → Prop
  | missing (h : ∀ tx ∈ txs, tx.hash = p.txHash →
      reportedOperation stellarAddress tx.toTransaction = none) :
      Disagrees stellarAddress txs p
        (.missingOnChain p.txHash p.studentId (stroopsToNumber p.amount))
  | amount {tx : ListedTransaction} {op : Operation} {amount : Int} (htx : tx ∈ txs)
      (hhash : tx.hash = p.txHash) (hop : reportedOperation stellarAddress tx.toTransaction = some op)
      (hamount : op.amount = some amount)
      (hdiffer : AmountsDiffer (fixedNumber (stroopsToNumber amount)) (stroopsToNumber p.amount)) :
      Disagrees stellarAddress txs p (.amountMismatch p.txHash p.studentId (stroopsToNumber p.amount)
        (fixedNumber (stroopsToNumber amount)))
  | student {tx : ListedTransaction} {op : Operation} {memo : String} (htx : tx ∈ txs)
      (hhash : tx.hash = p.txHash) (hop : reportedOperation stellarAddress tx.toTransaction = some op)
      (hmemo : truthy ((truthy tx.memo).map jsTrim) = some memo) (hne : memo ≠ p.studentId) :
      Disagrees stellarAddress txs p (.studentMismatch p.txHash p.studentId memo)

section
variable {stellarAddress : String}

/-- The entry of a transaction with the operation that is compared. -/
def onChainOf (tx : ListedTransaction) (op : Operation) : OnChain :=
  ⟨tx.hash, (truthy tx.memo).map jsTrim, op.amount.map fun a => fixedNumber (stroopsToNumber a)⟩

/-- What the map has under a hash, by induction on the transactions. -/
theorem addToChainMap_lookup {txs : List ListedTransaction} {before chainMap : ChainMap}
    (hhashes : (txs.map (·.hash)).Nodup)
    (h : txs.foldlM (addToChainMap stellarAddress) before = .ok chainMap) (hash : String)
    (onChain : OnChain) :
    chainMap.lookup hash = some onChain ↔
      (∃ tx ∈ txs, tx.hash = hash ∧ ∃ op,
        reportedOperation stellarAddress tx.toTransaction = some op ∧ onChain = onChainOf tx op) ∨
      (∀ tx ∈ txs, tx.hash = hash → reportedOperation stellarAddress tx.toTransaction = none) ∧
        before.lookup hash = some onChain := by
  induction txs generalizing before with
  | nil =>
    obtain rfl := Except.ok.inj h
    simp
  | cons tx txs ih =>
    obtain ⟨hnew, hhashes⟩ := List.nodup_cons.mp hhashes
    rw [List.foldlM_cons] at h
    obtain ⟨next, hnext, h⟩ := Checks.bind_ok_iff.mp h
    rw [ih hhashes h, List.exists_mem_cons_iff, List.forall_mem_cons]
    unfold addToChainMap at hnext
    split at hnext
    · cases hnext
    cases hop : reportedOperation stellarAddress tx.toTransaction with
    | none =>
      rw [hop] at hnext
      obtain rfl := Except.ok.inj hnext
      simp
    | some op =>
      rw [hop] at hnext
      obtain rfl := Except.ok.inj hnext
      by_cases hhash : tx.hash = hash
      · subst hhash
        have hother : ∀ tx' ∈ txs, tx'.hash ≠ tx.hash := fun tx' htx' heq =>
          hnew (List.mem_map.mpr ⟨tx', htx', heq⟩)
        rw [AList.lookup_insert]
        constructor
        · rintro (⟨tx', htx', heq, -⟩ | ⟨-, heq⟩)
          · exact absurd heq (hother tx' htx')
          · exact .inl (.inl ⟨rfl, op, rfl, (Option.some.inj heq).symm⟩)
        · rintro ((⟨-, op', hop', rfl⟩ | ⟨tx', htx', heq, -⟩) | ⟨⟨hnone, -⟩, -⟩)
          · obtain rfl := Option.some.inj hop'
            exact .inr ⟨fun tx' htx' heq => absurd heq (hother tx' htx'), rfl⟩
          · exact absurd heq (hother tx' htx')
          · cases hnone rfl
      · rw [AList.lookup_insert_ne (Ne.symm hhash)]
        simp [hhash]

theorem addToChainMap_empty {txs : List ListedTransaction} {chainMap : ChainMap}
    (hhashes : (txs.map (·.hash)).Nodup)
    (h : txs.foldlM (addToChainMap stellarAddress) ∅ = .ok chainMap) {hash : String}
    {onChain : OnChain} : chainMap.lookup hash = some onChain ↔
      ∃ tx ∈ txs, tx.hash = hash ∧ ∃ op,
        reportedOperation stellarAddress tx.toTransaction = some op ∧ onChain = onChainOf tx op := by
  rw [addToChainMap_lookup hhashes h, AList.lookup_empty]
  simp

section
variable {txs : List ListedTransaction} {chainMap : ChainMap} {p : Payment} {m : ChainMismatch}

/-- Of a payment without an entry. -/
theorem mem_paymentMismatches_none (hlookup : chainMap.lookup p.txHash = none)
    (hmissing : ∀ tx ∈ txs, tx.hash = p.txHash →
      reportedOperation stellarAddress tx.toTransaction = none) :
    m ∈ paymentMismatches chainMap p ↔ Disagrees stellarAddress txs p m := by
  unfold paymentMismatches
  rw [hlookup]
  constructor
  · intro hm
    obtain rfl := List.mem_singleton.mp hm
    exact .missing hmissing
  · intro hm
    cases hm with
    | missing => exact List.mem_singleton_self _
    | amount htx hhash hop | student htx hhash hop => cases (hmissing _ htx hhash).symm.trans hop

/-- Of a payment with the entry of `tx`, the only transaction of its hash. -/
theorem mem_paymentMismatches_some {tx : ListedTransaction} {op : Operation}
    (hhashes : (txs.map (·.hash)).Nodup) (htx : tx ∈ txs) (hhash : tx.hash = p.txHash)
    (hop : reportedOperation stellarAddress tx.toTransaction = some op)
    (hlookup : chainMap.lookup p.txHash = some (onChainOf tx op)) :
    m ∈ paymentMismatches chainMap p ↔ Disagrees stellarAddress txs p m := by
  have honly : ∀ {tx' op'}, tx' ∈ txs → tx'.hash = p.txHash →
      reportedOperation stellarAddress tx'.toTransaction = some op' → tx' = tx ∧ op' = op := by
    intro tx' op' htx' hhash' hop'
    obtain rfl := List.inj_on_of_nodup_map hhashes htx' htx (hhash'.trans hhash.symm)
    exact ⟨rfl, Option.some.inj (hop'.symm.trans hop)⟩
  unfold paymentMismatches
  rw [hlookup]
  dsimp only [onChainOf]
  rw [List.mem_append]
  constructor
  · rintro (hm | hm)
    · split at hm
      · rename_i hnumber
        obtain ⟨amount, hamount, rfl⟩ := Option.map_eq_some_iff.mp hnumber
        split at hm
        · obtain rfl := List.mem_singleton.mp hm
          exact .amount htx hhash hop hamount ‹_›
        · cases hm
      · cases hm
    · split at hm
      · split at hm
        · obtain rfl := List.mem_singleton.mp hm
          exact .student htx hhash hop ‹_› ‹_›
        · cases hm
      · cases hm
  · intro hm
    cases hm with
    | missing hnone => cases (hnone tx htx hhash).symm.trans hop
    | amount htx' hhash' hop' hamount hdiffer =>
      obtain ⟨rfl, rfl⟩ := honly htx' hhash' hop'
      left
      rw [hamount]
      simp [hdiffer]
    | student htx' hhash' hop' hmemo hne =>
      obtain ⟨rfl, rfl⟩ := honly htx' hhash' hop'
      right
      rw [hmemo]
      simp [hne]

/-- What is reported of a payment is how it disagrees with the transactions. -/
theorem mem_paymentMismatches (hhashes : (txs.map (·.hash)).Nodup)
    (h : txs.foldlM (addToChainMap stellarAddress) ∅ = .ok chainMap) (p : Payment)
    (m : ChainMismatch) :
    m ∈ paymentMismatches chainMap p ↔ Disagrees stellarAddress txs p m := by
  cases hlookup : chainMap.lookup p.txHash with
  | none =>
    refine mem_paymentMismatches_none hlookup fun tx htx hhash => ?_
    by_contra hop
    obtain ⟨op, hop⟩ := Option.ne_none_iff_exists'.mp hop
    have hsome := (addToChainMap_empty hhashes h).mpr ⟨tx, htx, hhash, op, hop, rfl⟩
    rw [hlookup] at hsome
    cases hsome
  | some onChain =>
    obtain ⟨tx, htx, hhash, op, hop, rfl⟩ := (addToChainMap_empty hhashes h).mp hlookup
    exact mem_paymentMismatches_some hhashes htx hhash hop hlookup

end

/-- The entries of the report about payments are the disagreements of the payments of the school that are
not deleted with the window of the listing that the first page was served from. -/
theorem mismatch_mem_iff {env : ReportEnv} {calls : ListingCalls} {retries : Nat} {schoolId : String}
    {payments : List Payment} {db : Db} {report : SchoolReport} (hgrows : LedgerGrows calls)
    (h : checkSchoolConsistency env calls retries schoolId stellarAddress payments db = .ok report) :
    ∃ first listing, (∀ i < first, FailsForNow calls i) ∧ first ≤ retries ∧
      calls first = .ok listing ∧ ∀ m, .inl m ∈ report.mismatches ↔
        ∃ p ∈ payments, p.live = true ∧ p.schoolId = schoolId ∧
          Disagrees stellarAddress (chainWindow env listing) p m := by
  obtain ⟨chainTxs, hchain, h⟩ := Checks.bind_ok_iff.mp h
  obtain ⟨chainMap, hmap, h⟩ := Checks.bind_ok_iff.mp h
  obtain rfl := Checks.pure_ok_iff.mp h
  obtain ⟨-, ⟨first, listing, hfails, hfirst, hlisting, hwindow⟩ | hthrown⟩ :=
    @fetchChainTransactions_window env calls ("for account " ++ stellarAddress) retries hgrows
  · obtain rfl := Except.ok.inj (hwindow.symm.trans hchain)
    have htop : chainWindow env listing <+: listing :=
      (List.takeWhile_prefix _).trans (List.take_prefix ..)
    have hhashes := (hgrows.hashes hlisting).sublist (htop.sublist.map (·.hash))
    refine ⟨first, listing, hfails, hfirst, hlisting, fun m => ?_⟩
    simp [mem_paymentMismatches hhashes hmap, and_assoc]
  · generalize ConsistencyService.fetchChainTransactions env calls _ retries = run at hchain hthrown
    cases hthrown
    cases hchain

/-! ## A wallet that a transaction comes in to with each call -/

def listedTransaction (n : Nat) : ListedTransaction where
  hash := String.ofList (List.replicate n 'h')
  successful := some true
  memoType := some "text"
  memo := some "STU001"
  innerHash := none
  ledger := some n
  operations := [⟨.payment, some "GB", some "GA", some .native, none, none, some 50000000, none, none,
    none, none⟩]
  createdAt := n
  pagingToken := n
  operationsError := none

/-- The first call is reset; the others find a transaction more each. -/
def busyWallet (n : Nat) : ListingCalls := fun i =>
  if i = 0 then .error { code := some "ECONNRESET" }
  else .ok ((List.range (n + i)).reverse.map listedTransaction)

theorem busyWallet_ok {n i : Nat} {listing : List ListedTransaction}
    (h : busyWallet n i = .ok listing) :
    listing = (List.range (n + i)).reverse.map listedTransaction := by
  unfold busyWallet at h
  split at h
  · cases h
  · exact (Except.ok.inj h).symm

theorem busyWallet_grows (n : Nat) : LedgerGrows (busyWallet n) where
  descending h := by
    rw [busyWallet_ok h, List.pairwise_map, List.pairwise_reverse]
    exact List.pairwise_lt_range
  hashes h := by
    have hinj : Function.Injective fun k => (listedTransaction k).hash := fun a b hab => by
      simpa using congrArg List.length (String.ofList_injective hab)
    rw [busyWallet_ok h, List.map_map]
    exact (List.nodup_reverse.mpr List.nodup_range).map hinj
  grows := by
    intro i j hij listing later h hlater
    obtain ⟨k, rfl⟩ := Nat.exists_eq_add_of_le hij
    have hrange := @List.range_add (n + i) k
    rw [busyWallet_ok h, busyWallet_ok hlater, ← Nat.add_assoc, hrange, List.reverse_append,
      List.map_append]
    exact List.suffix_append ..

def alwaysEnv : ReportEnv where
  now := 0
  lookbackDays := 0
  threshold := 0

theorem mismatch_mem_iff_busy :
    ∃ report, checkSchoolConsistency alwaysEnv (busyWallet 1) 2 "SCH" "GA"
        [Payment.withDefaults "SCH" "STU001" "h" 60000000 0] paidDb = .ok report ∧
      ∃ first listing, (∀ i < first, FailsForNow (busyWallet 1) i) ∧ first ≤ 2 ∧
        busyWallet 1 first = .ok listing ∧ ∀ m, .inl m ∈ report.mismatches ↔
          ∃ p ∈ [Payment.withDefaults "SCH" "STU001" "h" 60000000 0], p.live = true ∧ p.schoolId = "SCH" ∧
            Disagrees "GA" (chainWindow alwaysEnv listing) p m :=
  ⟨_, rfl, mismatch_mem_iff (busyWallet_grows 1) rfl⟩

end

end StellarEduPay

import StellarEduPay.CircuitBreakers

/-! # The breaker of the request path (`middleware/concurrentRequestHandler.js`)

`execute` runs an operation behind a breaker of its own, which is to be the machine of
`utils/circuitBreaker.js`.  Its counter of successes is reset only when it closes, so a half-open
phase that failed leaves its successes to the next one.
-/
namespace StellarEduPay

/-- The `CircuitBreaker` of the request path. -/
structure RequestBreaker where
  state : CbState := .closed
  failureCount : Nat := 0
  successCount : Nat := 0
  lastFailureTime : Option ℚ := none
  halfOpenAttempts : Nat := 0
  deriving DecidableEq, Repr

/-- An operation: when it is asked for, whether it succeeds, and when it ends. -/
structure GuardedOperation where
  startedAt : ℚ
  succeeds : Bool
  finishedAt : ℚ
  deriving DecidableEq, Repr

namespace RequestBreaker

/-- The checks of `execute`; `none` is the error that the service is unavailable. -/
def beforeRun (config : BreakerConfig) (now : ℚ) (rb : RequestBreaker) : Option RequestBreaker :=
  if rb.state = .opened then
    if config.resetTimeoutMs ≤ now - rb.lastFailureTime.getD 0 then
      some { rb with state := .halfOpen, halfOpenAttempts := 0 }
    else none
  else some rb

/-- `onSuccess`; `halfOpenSuccessThreshold` is the `successThreshold` here. -/
def onSuccess (config : BreakerConfig) (rb : RequestBreaker) : RequestBreaker :=
  if rb.state = .halfOpen then
    let successCount := rb.successCount + 1
    if config.successThreshold ≤ successCount then
      { rb with state := .closed, failureCount := 0, successCount := 0 }
    else { rb with successCount }
  else { rb with failureCount := 0 }

/-- `onFailure` -/
def onFailure (config : BreakerConfig) (now : ℚ) (rb : RequestBreaker) : RequestBreaker :=
  let rb := { rb with failureCount := rb.failureCount + 1, lastFailureTime := some now }
  if rb.state = .halfOpen then { rb with state := .opened }
  else if config.failureThreshold ≤ rb.failureCount then { rb with state := .opened }
  else rb

/-- `execute`: whether the operation ran, and the breaker after it. -/
def execute (config : BreakerConfig) (op : GuardedOperation) (rb : RequestBreaker) :
    Bool × RequestBreaker :=
  match rb.beforeRun config op.startedAt with
  | none => (false, rb)
  | some rb => (true, if op.succeeds then rb.onSuccess config else rb.onFailure config op.finishedAt)

end RequestBreaker

/-- The same operation behind `utils/circuitBreaker.js`: asked first, and told the outcome. -/
def CircuitBreaker.guard (config : BreakerConfig) (op : GuardedOperation) (cb : CircuitBreaker) :
    Bool × CircuitBreaker :=
  let (available, cb) := cb.isAvailable config op.startedAt
  if available then
    (true, if op.succeeds then cb.recordSuccess config else cb.recordFailure config op.finishedAt)
  else (false, cb)

/-! ## Side by side -/

/-- The two breakers, fed the same operations. -/
structure BreakerPair where
  request : RequestBreaker := {}
  generic : CircuitBreaker := {}
  deriving DecidableEq, Repr

namespace BreakerPair

/-- One operation. -/
def next (config : BreakerConfig) (pair : BreakerPair) (op : GuardedOperation) : BreakerPair :=
  ⟨(pair.request.execute config op).2, (pair.generic.guard config op).2⟩

/-- The operation is rejected by both or by none, and leaves both in the same state. -/
def Agrees (config : BreakerConfig) (op : GuardedOperation) (pair : BreakerPair) : Prop :=
  (pair.request.execute config op).1 = (pair.generic.isAvailable config op.startedAt).1 ∧
    (pair.next config op).request.state = (pair.next config op).generic.state

/-- The operation is a success in half open that reaches the threshold only with successes of an
earlier half-open phase. -/
def StaleCount (config : BreakerConfig) (op : GuardedOperation) (pair : BreakerPair) : Prop :=
  op.succeeds = true ∧ (pair.generic.isAvailable config op.startedAt).2.state = .halfOpen ∧
    ((pair.generic.halfOpenSuccesses + 1 : ℕ) : ℚ) < config.successThreshold ∧
      config.successThreshold ≤ ((pair.request.successCount + 1 : ℕ) : ℚ)

instance (config : BreakerConfig) (op : GuardedOperation) (pair : BreakerPair) :
    Decidable (pair.Agrees config op) := inferInstanceAs (Decidable (_ ∧ _))

instance (config : BreakerConfig) (op : GuardedOperation) (pair : BreakerPair) :
    Decidable (pair.StaleCount config op) := inferInstanceAs (Decidable (_ ∧ _ ∧ _ ∧ _))

/-- The two breakers agree but for the successes of earlier half-open phases. -/
structure Aligned (pair : BreakerPair) : Prop where
  state : pair.request.state = pair.generic.state
  failures : pair.request.failureCount = pair.generic.failures
  openedAt : pair.generic.state = .opened → pair.request.lastFailureTime = pair.generic.openedAt
  successes : pair.generic.halfOpenSuccesses ≤ pair.request.successCount

section Steps
variable {config : BreakerConfig} {op : GuardedOperation} {pair : BreakerPair}

/-- Aligned breakers reject an operation together, or let it through and are aligned then. -/
theorem Aligned.beforeRun (h : Aligned pair) (config : BreakerConfig) (now : ℚ) :
    (pair.request.beforeRun config now = none ∧
      pair.generic.isAvailable config now = (false, pair.generic) ∧ pair.generic.state = .opened) ∨
    ∃ rb cb, pair.request.beforeRun config now = some rb ∧
      pair.generic.isAvailable config now = (true, cb) ∧ Aligned ⟨rb, cb⟩ ∧ cb.state ≠ .opened ∧
        rb.successCount = pair.request.successCount ∧
          cb.halfOpenSuccesses = pair.generic.halfOpenSuccesses := by
  unfold RequestBreaker.beforeRun CircuitBreaker.isAvailable
  by_cases hopen : pair.generic.state = .opened
  · rw [h.state, if_pos hopen, h.openedAt hopen, hopen]
    by_cases htime : config.resetTimeoutMs ≤ now - pair.generic.openedAt.getD 0
    · refine Or.inr ⟨_, _, if_pos htime, if_pos htime, ⟨rfl, h.failures, fun h => ?_, h.successes⟩, ?_,
        rfl, rfl⟩
      · cases h
      · simp
    · exact Or.inl ⟨if_neg htime, if_neg htime, rfl⟩
  · refine Or.inr ⟨pair.request, pair.generic, ?_, ?_, h, hopen, rfl, rfl⟩
    · rw [h.state, if_neg hopen]
    · cases hstate : pair.generic.state with
      | opened => exact absurd hstate hopen
      | _ => rfl

/-- A failure keeps the breakers aligned. -/
theorem Aligned.failure (h : Aligned pair) (hstate : pair.generic.state ≠ .opened)
    (config : BreakerConfig) (now : ℚ) :
    Aligned ⟨pair.request.onFailure config now, pair.generic.recordFailure config now⟩ := by
  obtain ⟨rb, cb⟩ := pair
  obtain ⟨hsame, hfailures, -, -⟩ := h
  simp only at hsame hfailures hstate
  unfold RequestBreaker.onFailure CircuitBreaker.recordFailure
  simp only [hsame, hfailures]
  by_cases hhalf : cb.state = .halfOpen
  · simp only [hhalf, true_or, if_true]
    exact ⟨rfl, rfl, fun _ => rfl, Nat.zero_le _⟩
  · by_cases hreached : config.failureThreshold ≤ ((cb.failures + 1 : ℕ) : ℚ)
    · simp only [hhalf, hreached, or_true, if_true, if_false]
      exact ⟨rfl, rfl, fun _ => rfl, Nat.zero_le _⟩
    · simp only [hhalf, hreached, or_self, if_false]
      exact ⟨rfl, rfl, fun hopen => absurd hopen hstate, Nat.zero_le _⟩

/-- A success in closed keeps the breakers aligned. -/
theorem Aligned.success_closed (h : Aligned pair) (hstate : pair.generic.state = .closed)
    (config : BreakerConfig) :
    Aligned ⟨pair.request.onSuccess config, pair.generic.recordSuccess config⟩ := by
  have hrequest : pair.request.onSuccess config = { pair.request with failureCount := 0 } :=
    if_neg (by simp [h.state, hstate])
  have hgeneric : pair.generic.recordSuccess config = { pair.generic with failures := 0 } := by
    simp only [CircuitBreaker.recordSuccess, hstate]
  rw [hrequest, hgeneric]
  exact ⟨h.state, rfl, h.openedAt, h.successes⟩

/-- A success in half open leaves the states equal unless it was reached with stale successes, and
then it keeps the breakers aligned. -/
theorem Aligned.success_halfOpen (h : Aligned pair) (hstate : pair.generic.state = .halfOpen)
    (config : BreakerConfig) :
    ((pair.request.onSuccess config).state = (pair.generic.recordSuccess config).state ↔
      ¬(((pair.generic.halfOpenSuccesses + 1 : ℕ) : ℚ) < config.successThreshold ∧
        config.successThreshold ≤ ((pair.request.successCount + 1 : ℕ) : ℚ))) ∧
    ((pair.request.onSuccess config).state = (pair.generic.recordSuccess config).state →
      Aligned ⟨pair.request.onSuccess config, pair.generic.recordSuccess config⟩) := by
  have hrequestState : pair.request.state = .halfOpen := h.state.trans hstate
  have hle : ((pair.generic.halfOpenSuccesses + 1 : ℕ) : ℚ) ≤
      ((pair.request.successCount + 1 : ℕ) : ℚ) :=
    Nat.cast_le.mpr (Nat.succ_le_succ h.successes)
  by_cases hreached : config.successThreshold ≤ ((pair.generic.halfOpenSuccesses + 1 : ℕ) : ℚ)
  · have hrequest : pair.request.onSuccess config =
        { pair.request with state := .closed, failureCount := 0, successCount := 0 } := by
      rw [RequestBreaker.onSuccess, if_pos hrequestState, if_pos (hreached.trans hle)]
    have hgeneric : pair.generic.recordSuccess config =
        { pair.generic with failures := 0, halfOpenSuccesses := 0, state := .closed } := by
      simp only [CircuitBreaker.recordSuccess, hstate, if_pos hreached]
    rw [hrequest, hgeneric]
    exact ⟨iff_of_true rfl fun hstale => hreached.not_gt hstale.1, fun _ =>
      ⟨rfl, rfl, by simp, le_rfl⟩⟩
  · have hgeneric : pair.generic.recordSuccess config =
        { pair.generic with halfOpenSuccesses := pair.generic.halfOpenSuccesses + 1 } := by
      simp only [CircuitBreaker.recordSuccess, hstate, if_neg hreached]
    rw [hgeneric]
    by_cases hstale : config.successThreshold ≤ ((pair.request.successCount + 1 : ℕ) : ℚ)
    · have hclosed : (pair.request.onSuccess config).state = .closed := by
        rw [RequestBreaker.onSuccess, if_pos hrequestState, if_pos hstale]
      have hdiffer : (pair.request.onSuccess config).state ≠ pair.generic.state := by
        rw [hclosed, hstate]
        decide
      exact ⟨iff_of_false hdiffer fun hnot => hnot ⟨not_le.mp hreached, hstale⟩,
        fun hsame => absurd hsame hdiffer⟩
    · have hrequest : pair.request.onSuccess config =
          { pair.request with successCount := pair.request.successCount + 1 } := by
        rw [RequestBreaker.onSuccess, if_pos hrequestState, if_neg hstale]
      rw [hrequest]
      exact ⟨iff_of_true h.state fun hboth => hstale hboth.2,
        fun _ => ⟨h.state, h.failures, h.openedAt, Nat.succ_le_succ h.successes⟩⟩

/-- **One operation** behind aligned breakers: they agree unless it counts stale successes, and then
they stay aligned. -/
theorem Aligned.step (h : Aligned pair) (config : BreakerConfig) (op : GuardedOperation) :
    (pair.Agrees config op ↔ ¬ pair.StaleCount config op) ∧
      (pair.Agrees config op → Aligned (pair.next config op)) := by
  rcases h.beforeRun config op.startedAt with ⟨hrequest, hgeneric, hopen⟩ |
    ⟨rb, cb, hrequest, hgeneric, haligned, hstate, hcount, hsuccesses⟩
  · have hnext : pair.next config op = pair := by
      simp [next, RequestBreaker.execute, CircuitBreaker.guard, hrequest, hgeneric]
    refine ⟨iff_of_true ⟨?_, by rw [hnext, h.state]⟩ fun hstale => ?_, fun _ => hnext.symm ▸ h⟩
    · simp [RequestBreaker.execute, hrequest, hgeneric]
    · have hhalf := hstale.2.1
      rw [hgeneric, hopen] at hhalf
      cases hhalf
  have hadmitted : (pair.request.execute config op).1 =
      (pair.generic.isAvailable config op.startedAt).1 := by
    simp [RequestBreaker.execute, hrequest, hgeneric]
  have hnext : pair.next config op =
      if op.succeeds then ⟨rb.onSuccess config, cb.recordSuccess config⟩
      else ⟨rb.onFailure config op.finishedAt, cb.recordFailure config op.finishedAt⟩ := by
    cases hsucceeds : op.succeeds <;>
      simp [next, RequestBreaker.execute, CircuitBreaker.guard, hrequest, hgeneric, hsucceeds]
  have hagrees : pair.Agrees config op ↔
      (pair.next config op).request.state = (pair.next config op).generic.state :=
    and_iff_right hadmitted
  have hstale : pair.StaleCount config op ↔ op.succeeds = true ∧ cb.state = .halfOpen ∧
      ((cb.halfOpenSuccesses + 1 : ℕ) : ℚ) < config.successThreshold ∧
        config.successThreshold ≤ ((rb.successCount + 1 : ℕ) : ℚ) := by
    rw [StaleCount, hgeneric, hcount, hsuccesses]
  rw [hagrees, hstale, hnext]
  cases hsucceeds : op.succeeds with
  | false =>
    have hfailed := haligned.failure hstate config op.finishedAt
    exact ⟨iff_of_true hfailed.state (by simp), fun _ => hfailed⟩
  | true =>
    rw [if_pos rfl]
    cases hcb : cb.state with
    | opened => exact absurd hcb hstate
    | closed =>
      have hclosed := haligned.success_closed hcb config
      exact ⟨iff_of_true hclosed.state (by simp), fun _ => hclosed⟩
    | halfOpen =>
      obtain ⟨hiff, hkept⟩ := haligned.success_halfOpen hcb config
      exact ⟨hiff.trans (by simp), hkept⟩

end Steps

/-- By induction on the operations: the breakers agree on each as long as none counts stale
successes. -/
theorem Aligned.agrees_iff {config : BreakerConfig} {pair : BreakerPair} (h : Aligned pair)
    (ops : List GuardedOperation) :
    (∀ before op after, ops = before ++ op :: after →
        (before.foldl (next config) pair).Agrees config op) ↔
      ∀ before op after, ops = before ++ op :: after →
        ¬ (before.foldl (next config) pair).StaleCount config op := by
  induction ops generalizing pair with
  | nil =>
    have hnone : ∀ before (op : GuardedOperation) after, [] ≠ before ++ op :: after := by simp
    exact iff_of_true (fun before op after h => absurd h (hnone before op after))
      fun before op after h => absurd h (hnone before op after)
  | cons op ops ih =>
    have hsplit : ∀ P : List GuardedOperation → GuardedOperation → Prop,
        (∀ before x after, op :: ops = before ++ x :: after → P before x) ↔
          P [] op ∧ ∀ before x after, ops = before ++ x :: after → P (op :: before) x := by
      intro P
      constructor
      · exact fun hall => ⟨hall [] op ops rfl, fun before x after hops =>
          hall (op :: before) x after (by rw [hops, List.cons_append])⟩
      · rintro ⟨hfirst, hrest⟩ before x after hops
        cases before with
        | nil =>
          obtain ⟨rfl, -⟩ := List.cons_eq_cons.mp hops
          exact hfirst
        | cons y before =>
          obtain ⟨rfl, htail⟩ := List.cons_eq_cons.mp hops
          exact hrest before x after htail
    obtain ⟨hiff, hkept⟩ := h.step config op
    rw [hsplit fun before x => (before.foldl (next config) pair).Agrees config x,
      hsplit fun before x => ¬ (before.foldl (next config) pair).StaleCount config x]
    simp only [List.foldl_nil, List.foldl_cons]
    rw [← hiff]
    exact and_congr_right fun hagrees => ih (hkept hagrees)

end BreakerPair

open BreakerPair

/-- **The breakers are the same machine** for exactly the sequences of operations in which no success
in half open reaches the threshold only with successes of an earlier half-open phase. -/
theorem request_breaker_agrees_iff (config : BreakerConfig) (ops : List GuardedOperation) :
    (∀ before op after, ops = before ++ op :: after →
        (before.foldl (next config) {}).Agrees config op) ↔
      ∀ before op after, ops = before ++ op :: after →
        ¬ (before.foldl (next config) {}).StaleCount config op :=
  Aligned.agrees_iff ⟨rfl, rfl, fun h => absurd h (by decide), le_rfl⟩ ops

/-- A success, a failure and a success, in two half-open phases. -/
theorem stale_success_closes : ¬ ∀ (config : BreakerConfig) (ops : List GuardedOperation),
    (ops.flatMap fun op => [op.startedAt, op.finishedAt]).Pairwise (· ≤ ·) →
      ∀ before op after, ops = before ++ op :: after →
        (before.foldl (next config) {}).Agrees config op := by
  intro h
  let config : BreakerConfig := ⟨1, 100, 2⟩
  let before : List GuardedOperation := [⟨0, false, 0⟩, ⟨100, true, 100⟩, ⟨101, false, 101⟩]
  have hagrees := h config (before ++ [⟨201, true, 201⟩]) (by decide +kernel) before ⟨201, true, 201⟩ []
    rfl
  exact absurd hagrees (by decide +kernel)
end StellarEduPay

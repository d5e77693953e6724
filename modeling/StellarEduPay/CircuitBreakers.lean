import Mathlib.Algebra.Order.Field.Rat
import Mathlib.Tactic.Linarith
import StellarEduPay.Runs

/-! # Circuit breakers (`utils/circuitBreaker.js`, `services/horizonFailoverClient.js`)

A breaker is asked before each request whether it may be made, and told how it ended.  Failures are
counted while it is closed, successes while it is half open, and the outcome of a request made
earlier may come in any state.  The two classes differ in what a success does that comes while the
breaker is open.
-/
namespace StellarEduPay
open Runs

/-- `CB_STATE` -/
inductive CbState
  | closed
  | opened
  | halfOpen
  deriving DecidableEq, Repr

/-- The parameters of a breaker, with the defaults of its constructor. -/
structure BreakerConfig where
  failureThreshold : ℚ := 5
  resetTimeoutMs : ℚ := 30000
  successThreshold : ℚ := 2
  deriving DecidableEq, Repr

structure CircuitBreaker where
  state : CbState := .closed
  failures : Nat := 0
  halfOpenSuccesses : Nat := 0
  openedAt : Option ℚ := none
  deriving DecidableEq, Repr

namespace CircuitBreaker

/-- `isAvailable`, which moves an open breaker on once its timeout has passed. -/
def isAvailable (config : BreakerConfig) (now : ℚ) (cb : CircuitBreaker) : Bool × CircuitBreaker :=
  match cb.state with
  | .closed | .halfOpen => (true, cb)
  | .opened =>
    if config.resetTimeoutMs ≤ now - cb.openedAt.getD 0 then (true, { cb with state := .halfOpen })
    else (false, cb)

/-- `recordSuccess` -/
def recordSuccess (config : BreakerConfig) (cb : CircuitBreaker) : CircuitBreaker :=
  match cb.state with
  | .halfOpen =>
    let halfOpenSuccesses := cb.halfOpenSuccesses + 1
    if config.successThreshold ≤ halfOpenSuccesses then
      { cb with failures := 0, halfOpenSuccesses := 0, state := .closed }
    else { cb with halfOpenSuccesses }
  | .closed => { cb with failures := 0 }
  | .opened => cb

/-- `recordFailure` -/
def recordFailure (config : BreakerConfig) (now : ℚ) (cb : CircuitBreaker) : CircuitBreaker :=
  let cb := { cb with failures := cb.failures + 1, halfOpenSuccesses := 0 }
  if cb.state = .halfOpen ∨ config.failureThreshold ≤ cb.failures then
    { cb with openedAt := some now, state := .opened }
  else cb

end CircuitBreaker

/-! The breaker of the failover client. -/

namespace HorizonFailoverClient

/-- `isAvailable` -/
def isAvailable (config : BreakerConfig) (now : ℚ) (cb : CircuitBreaker) : Bool × CircuitBreaker :=
  cb.isAvailable config now

/-- `recordSuccess`, which forgets the failures of an open breaker too. -/
def recordSuccess (config : BreakerConfig) (cb : CircuitBreaker) : CircuitBreaker :=
  match cb.state with
  | .halfOpen =>
    let halfOpenSuccesses := cb.halfOpenSuccesses + 1
    if config.successThreshold ≤ halfOpenSuccesses then
      { cb with failures := 0, halfOpenSuccesses := 0, state := .closed }
    else { cb with halfOpenSuccesses }
  | .closed | .opened => { cb with failures := 0 }

/-- `recordFailure` -/
def recordFailure (config : BreakerConfig) (now : ℚ) (cb : CircuitBreaker) : CircuitBreaker :=
  cb.recordFailure config now

end HorizonFailoverClient

/-- The methods of a breaker class. -/
structure BreakerClass where
  isAvailable : BreakerConfig → ℚ → CircuitBreaker → Bool × CircuitBreaker
  recordSuccess : BreakerConfig → CircuitBreaker → CircuitBreaker
  recordFailure : BreakerConfig → ℚ → CircuitBreaker → CircuitBreaker

def circuitBreakerClass : BreakerClass :=
  ⟨CircuitBreaker.isAvailable, CircuitBreaker.recordSuccess, CircuitBreaker.recordFailure⟩

def horizonBreakerClass : BreakerClass :=
  ⟨HorizonFailoverClient.isAvailable, HorizonFailoverClient.recordSuccess,
    HorizonFailoverClient.recordFailure⟩

/-! ## Histories -/

inductive BreakerCall
  | isAvailable
  | recordSuccess
  | recordFailure
  deriving DecidableEq, Repr

/-- A call, when it was made, the states before and after it, and what `isAvailable` answered. -/
structure BreakerEntry where
  call : BreakerCall
  now : ℚ
  before : CbState
  after : CbState
  answer : Option Bool
  deriving DecidableEq, Repr

/-- A breaker with the calls made so far, most recent first. -/
structure BreakerHistory where
  breaker : CircuitBreaker := {}
  entries : List BreakerEntry := []
  deriving DecidableEq, Repr

/-- What a call answers, and the breaker after it. -/
def BreakerClass.perform (cls : BreakerClass) (config : BreakerConfig) (cb : CircuitBreaker)
    (now : ℚ) : BreakerCall → Option Bool × CircuitBreaker
  | .isAvailable =>
    let (available, cb) := cls.isAvailable config now cb
    (some available, cb)
  | .recordSuccess => (none, cls.recordSuccess config cb)
  | .recordFailure => (none, cls.recordFailure config now cb)

/-- One call. -/
def BreakerClass.step (cls : BreakerClass) (config : BreakerConfig) (history : BreakerHistory)
    (call : BreakerCall × ℚ) : Option BreakerHistory :=
  let (answer, breaker) := cls.perform config history.breaker call.2 call.1
  some {
    breaker
    entries := ⟨call.1, call.2, history.breaker.state, breaker.state, answer⟩ :: history.entries }

/-- The clock does not go back. -/
def ClockMoves (history : BreakerHistory) (call : BreakerCall × ℚ) : Prop :=
  ∀ e ∈ history.entries, e.now ≤ call.2

instance (history : BreakerHistory) (call : BreakerCall × ℚ) : Decidable (ClockMoves history call) :=
  inferInstanceAs (Decidable (∀ e ∈ history.entries, e.now ≤ call.2))

/-! ## The contract -/

namespace BreakerEntry

/-- The breaker opened, from closed or from half open. -/
def Opens (e : BreakerEntry) : Prop := e.before ≠ .opened ∧ e.after = .opened

/-- A success that was recorded in a state. -/
def succeedsIn (state : CbState) (e : BreakerEntry) : Bool :=
  e.call = .recordSuccess && e.before = state

def fails (e : BreakerEntry) : Bool := e.call = .recordFailure

/-- What a call has to keep to, after the calls before it. -/
structure Keeps (config : BreakerConfig) (e : BreakerEntry) (earlier : List BreakerEntry) : Prop where
  /-- It leaves closed only after enough failures, with no success in closed among them. -/
  leaves : e.before = .closed → e.after ≠ .closed → ∃ recent older, e :: earlier = recent ++ older ∧
    config.failureThreshold ≤ recent.countP fails ∧ ∀ x ∈ recent, x.succeedsIn .closed = false
  /-- It is not available before the timeout after an opening. -/
  waits : e.call = .isAvailable → ∀ o ∈ earlier, o.Opens → e.now < o.now + config.resetTimeoutMs →
    e.answer = some false
  /-- It closes only after enough successes in half open, with no failure among them. -/
  closes : e.before ≠ .closed → e.after = .closed → ∃ recent older, e :: earlier = recent ++ older ∧
    config.successThreshold ≤ recent.countP (succeedsIn .halfOpen) ∧ ∀ x ∈ recent, x.fails = false

end BreakerEntry

/-- Every call keeps to the contract. -/
def BreakerContract (config : BreakerConfig) (entries : List BreakerEntry) : Prop :=
  ∀ later e earlier, entries = later ++ e :: earlier → e.Keeps config earlier

theorem BreakerContract.cons {config : BreakerConfig} {e : BreakerEntry} {entries : List BreakerEntry}
    (h : BreakerContract config entries) (he : e.Keeps config entries) :
    BreakerContract config (e :: entries) := by
  intro later x earlier hsplit
  cases later with
  | nil =>
    obtain ⟨rfl, rfl⟩ := List.cons_eq_cons.mp hsplit
    exact he
  | cons y later =>
    obtain ⟨-, hrest⟩ := List.cons_eq_cons.mp hsplit
    exact h later x earlier hrest

/-! ## What a call does -/

/-- What a call can do to a breaker of either class, and what it answers. -/
inductive BreakerMove (config : BreakerConfig) (cb : CircuitBreaker) (now : ℚ) :
    BreakerCall → Option Bool → CircuitBreaker → Prop
  | available (hstate : cb.state ≠ .opened) : BreakerMove config cb now .isAvailable (some true) cb
  | refused (hstate : cb.state = .opened) : BreakerMove config cb now .isAvailable (some false) cb
  | timedOut (hstate : cb.state = .opened)
      (htime : config.resetTimeoutMs ≤ now - cb.openedAt.getD 0) :
      BreakerMove config cb now .isAvailable (some true) { cb with state := .halfOpen }
  | closes (hstate : cb.state = .halfOpen)
      (hreached : config.successThreshold ≤ ((cb.halfOpenSuccesses + 1 : ℕ) : ℚ)) :
      BreakerMove config cb now .recordSuccess none
        { cb with failures := 0, halfOpenSuccesses := 0, state := .closed }
  | succeeds (hstate : cb.state = .halfOpen) : BreakerMove config cb now .recordSuccess none
      { cb with halfOpenSuccesses := cb.halfOpenSuccesses + 1 }
  | forgets (hstate : cb.state = .closed) :
      BreakerMove config cb now .recordSuccess none { cb with failures := 0 }
  | late (hstate : cb.state = .opened) (failures : Nat) :
      BreakerMove config cb now .recordSuccess none { cb with failures }
  | opens (hreached : cb.state = .halfOpen ∨
        config.failureThreshold ≤ ((cb.failures + 1 : ℕ) : ℚ)) :
      BreakerMove config cb now .recordFailure none
        { state := .opened, failures := cb.failures + 1, halfOpenSuccesses := 0, openedAt := some now }
  | fails (hstate : cb.state ≠ .halfOpen) : BreakerMove config cb now .recordFailure none
      { cb with failures := cb.failures + 1, halfOpenSuccesses := 0 }

section Moves
variable {config : BreakerConfig} {cb : CircuitBreaker} {now : ℚ} {call : BreakerCall}

theorem isAvailable_move : BreakerMove config cb now .isAvailable
    (some (cb.isAvailable config now).1) (cb.isAvailable config now).2 := by
  unfold CircuitBreaker.isAvailable
  cases hstate : cb.state with
  | closed => exact .available (by simp [hstate])
  | halfOpen => exact .available (by simp [hstate])
  | opened =>
    dsimp only
    split
    · rename_i htime
      exact .timedOut hstate htime
    · exact .refused hstate

theorem recordFailure_move : BreakerMove config cb now .recordFailure none
    (cb.recordFailure config now) := by
  unfold CircuitBreaker.recordFailure
  dsimp only
  split
  · rename_i hreached
    exact .opens hreached
  · rename_i hfew
    exact .fails fun hstate => hfew (Or.inl hstate)

theorem circuitBreaker_move : BreakerMove config cb now call
    (circuitBreakerClass.perform config cb now call).1
    (circuitBreakerClass.perform config cb now call).2 := by
  cases call with
  | isAvailable => exact isAvailable_move
  | recordFailure => exact recordFailure_move
  | recordSuccess =>
    change BreakerMove config cb now .recordSuccess none (cb.recordSuccess config)
    unfold CircuitBreaker.recordSuccess
    split
    · rename_i hstate
      dsimp only
      split
      · rename_i hreached
        exact .closes hstate (by exact_mod_cast hreached)
      · exact .succeeds hstate
    · rename_i hstate
      exact .forgets hstate
    · rename_i hstate
      exact .late hstate cb.failures

theorem horizonBreaker_move : BreakerMove config cb now call
    (horizonBreakerClass.perform config cb now call).1
    (horizonBreakerClass.perform config cb now call).2 := by
  cases call with
  | isAvailable => exact isAvailable_move
  | recordFailure => exact recordFailure_move
  | recordSuccess =>
    change BreakerMove config cb now .recordSuccess none (HorizonFailoverClient.recordSuccess config cb)
    unfold HorizonFailoverClient.recordSuccess
    split
    · rename_i hstate
      dsimp only
      split
      · rename_i hreached
        exact .closes hstate (by exact_mod_cast hreached)
      · exact .succeeds hstate
    · rename_i hstate
      exact .forgets hstate
    · rename_i hstate
      exact .late hstate 0

end Moves

/-! ## What the counters count -/

/-- The failures counted while closed came with no success among them, the successes counted while
half open with no failure; a breaker that is open opened no earlier than it did before, and one that
is not has waited for each of its openings. -/
structure BreakerInv (config : BreakerConfig) (history : BreakerHistory) : Prop where
  failures : history.breaker.state = .closed → ∃ recent older, history.entries = recent ++ older ∧
    recent.countP BreakerEntry.fails = history.breaker.failures ∧
      ∀ x ∈ recent, x.succeedsIn .closed = false
  successes : history.breaker.state = .halfOpen → ∃ recent older, history.entries = recent ++ older ∧
    recent.countP (BreakerEntry.succeedsIn .halfOpen) = history.breaker.halfOpenSuccesses ∧
      ∀ x ∈ recent, x.fails = false
  noSuccesses : history.breaker.state ≠ .halfOpen → history.breaker.halfOpenSuccesses = 0
  openedAt : history.breaker.state = .opened → ∃ t, history.breaker.openedAt = some t ∧
    ∀ o ∈ history.entries, o.Opens → o.now ≤ t
  waited : history.breaker.state ≠ .opened → ∀ o ∈ history.entries, o.Opens →
    ∃ e ∈ history.entries, o.now + config.resetTimeoutMs ≤ e.now
  contract : BreakerContract config history.entries

section Invariant
variable {config : BreakerConfig} {history : BreakerHistory} {now : ℚ} {call : BreakerCall}
  {answer : Option Bool} {cb : CircuitBreaker}

/-- The history after a call. -/
def BreakerHistory.after (history : BreakerHistory) (call : BreakerCall) (now : ℚ)
    (answer : Option Bool) (cb : CircuitBreaker) : BreakerHistory :=
  ⟨cb, ⟨call, now, history.breaker.state, cb.state, answer⟩ :: history.entries⟩

/-- A call that is neither a failure nor a success in the state counted leaves a count as it is. -/
theorem counted_cons {p q : BreakerEntry → Bool} {entries : List BreakerEntry} {n : Nat}
    {e : BreakerEntry} (h : ∃ recent older, entries = recent ++ older ∧ recent.countP p = n ∧
      ∀ x ∈ recent, q x = false) (hq : q e = false) :
    ∃ recent older, e :: entries = recent ++ older ∧
      recent.countP p = n + (if p e then 1 else 0) ∧ ∀ x ∈ recent, q x = false := by
  obtain ⟨recent, older, rfl, hcount, hrecent⟩ := h
  exact ⟨e :: recent, older, rfl, by rw [List.countP_cons, hcount],
    List.forall_mem_cons.mpr ⟨hq, hrecent⟩⟩

/-- Nothing has been counted since the call before. -/
theorem counted_none {p q : BreakerEntry → Bool} (entries : List BreakerEntry) :
    ∃ recent older, entries = recent ++ older ∧ recent.countP p = 0 ∧ ∀ x ∈ recent, q x = false :=
  ⟨[], entries, rfl, rfl, fun x hx => by cases hx⟩

theorem BreakerInv.failures_after (h : BreakerInv config history)
    (hmove : BreakerMove config history.breaker now call answer cb) (hclosed : cb.state = .closed) :
    ∃ recent older, (history.after call now answer cb).entries = recent ++ older ∧
      recent.countP BreakerEntry.fails = cb.failures ∧
        ∀ x ∈ recent, x.succeedsIn .closed = false := by
  cases hmove with
  | available _ => exact counted_cons (h.failures hclosed) rfl
  | refused hstate => simp [hstate] at hclosed
  | timedOut _ _ => simp at hclosed
  | closes _ _ => exact counted_none _
  | succeeds hstate => simp [hstate] at hclosed
  | forgets _ => exact counted_none _
  | late hstate _ => simp [hstate] at hclosed
  | opens _ => simp at hclosed
  | fails _ => exact counted_cons (h.failures hclosed) rfl

theorem BreakerInv.successes_after (h : BreakerInv config history)
    (hmove : BreakerMove config history.breaker now call answer cb) (hhalf : cb.state = .halfOpen) :
    ∃ recent older, (history.after call now answer cb).entries = recent ++ older ∧
      recent.countP (BreakerEntry.succeedsIn .halfOpen) = cb.halfOpenSuccesses ∧
        ∀ x ∈ recent, x.fails = false := by
  cases hmove with
  | available _ => exact counted_cons (h.successes hhalf) rfl
  | refused hstate => simp [hstate] at hhalf
  | timedOut hstate _ =>
    rw [h.noSuccesses (by simp [hstate])]
    exact counted_none _
  | closes _ _ => simp at hhalf
  | succeeds hstate =>
    have hcounts : BreakerEntry.succeedsIn .halfOpen
        ⟨.recordSuccess, now, history.breaker.state, history.breaker.state, none⟩ = true := by
      simp [BreakerEntry.succeedsIn, hstate]
    have hcount := counted_cons (h.successes hstate)
      (show BreakerEntry.fails
        ⟨.recordSuccess, now, history.breaker.state, history.breaker.state, none⟩ = false from rfl)
    rwa [hcounts, if_pos rfl] at hcount
  | forgets hstate => simp [hstate] at hhalf
  | late hstate _ => simp [hstate] at hhalf
  | opens _ => simp at hhalf
  | fails hstate => exact absurd hhalf hstate

theorem BreakerInv.noSuccesses_after (h : BreakerInv config history)
    (hmove : BreakerMove config history.breaker now call answer cb) (hhalf : cb.state ≠ .halfOpen) :
    cb.halfOpenSuccesses = 0 := by
  cases hmove with
  | available _ => exact h.noSuccesses hhalf
  | refused _ => exact h.noSuccesses hhalf
  | timedOut _ _ => exact absurd rfl hhalf
  | closes _ _ => rfl
  | succeeds hstate => exact absurd hstate hhalf
  | forgets _ => exact h.noSuccesses hhalf
  | late _ _ => exact h.noSuccesses hhalf
  | opens _ => rfl
  | fails _ => rfl

theorem BreakerInv.openedAt_after (h : BreakerInv config history)
    (hclock : ClockMoves history (call, now))
    (hmove : BreakerMove config history.breaker now call answer cb) (hopen : cb.state = .opened) :
    ∃ t, cb.openedAt = some t ∧
      ∀ o ∈ (history.after call now answer cb).entries, o.Opens → o.now ≤ t := by
  -- a breaker that was open already has no new opening
  have hkept : history.breaker.state = .opened → ∃ t, history.breaker.openedAt = some t ∧
      ∀ o ∈ (history.after call now answer cb).entries, o.Opens → o.now ≤ t := by
    intro hbefore
    obtain ⟨t, ht, hle⟩ := h.openedAt hbefore
    exact ⟨t, ht, List.forall_mem_cons.mpr ⟨fun hopens => absurd hbefore hopens.1, hle⟩⟩
  cases hmove with
  | available hstate => exact absurd hopen hstate
  | refused hstate => exact hkept hstate
  | timedOut _ _ => simp at hopen
  | closes _ _ => simp at hopen
  | succeeds hstate => simp [hstate] at hopen
  | forgets hstate => simp [hstate] at hopen
  | late hstate _ => exact hkept hstate
  | opens _ => exact ⟨now, rfl, List.forall_mem_cons.mpr ⟨fun _ => le_rfl, fun o ho _ => hclock o ho⟩⟩
  | fails _ => exact hkept hopen

/-- When an open breaker times out, it has waited for each of its openings. -/
theorem BreakerInv.timed_out (h : BreakerInv config history)
    (hstate : history.breaker.state = .opened)
    (htime : config.resetTimeoutMs ≤ now - history.breaker.openedAt.getD 0) {o : BreakerEntry}
    (ho : o ∈ history.entries) (hopens : o.Opens) : o.now + config.resetTimeoutMs ≤ now := by
  obtain ⟨t, ht, hle⟩ := h.openedAt hstate
  rw [ht, Option.getD_some] at htime
  have := hle o ho hopens
  linarith

theorem BreakerInv.waited_after (h : BreakerInv config history)
    (hmove : BreakerMove config history.breaker now call answer cb) (hopen : cb.state ≠ .opened) :
    ∀ o ∈ (history.after call now answer cb).entries, o.Opens →
      ∃ e ∈ (history.after call now answer cb).entries, o.now + config.resetTimeoutMs ≤ e.now := by
  have hnew : ∀ e ∈ history.entries, e ∈ (history.after call now answer cb).entries :=
    fun e he => List.mem_cons_of_mem _ he
  refine List.forall_mem_cons.mpr ⟨fun hopens => absurd hopens.2 hopen, fun o ho hopens => ?_⟩
  have hkept : history.breaker.state ≠ .opened → ∃ e ∈ (history.after call now answer cb).entries,
      o.now + config.resetTimeoutMs ≤ e.now := by
    intro hbefore
    obtain ⟨e, he, hle⟩ := h.waited hbefore o ho hopens
    exact ⟨e, hnew e he, hle⟩
  cases hmove with
  | available hstate => exact hkept hstate
  | refused hstate => exact absurd hstate hopen
  | timedOut hstate htime => exact ⟨_, List.mem_cons_self, h.timed_out hstate htime ho hopens⟩
  | closes hstate _ => exact hkept (by simp [hstate])
  | succeeds hstate => exact hkept hopen
  | forgets hstate => exact hkept hopen
  | late hstate _ => exact absurd hstate hopen
  | opens _ => simp at hopen
  | fails _ => exact hkept hopen

/-- Each call keeps to the contract. -/
theorem BreakerInv.keeps (h : BreakerInv config history) (hclock : ClockMoves history (call, now))
    (hmove : BreakerMove config history.breaker now call answer cb) :
    BreakerEntry.Keeps config ⟨call, now, history.breaker.state, cb.state, answer⟩
      history.entries where
  leaves hbefore hafter := by
    cases hmove with
    | opens hreached =>
      rcases hreached with hhalf | hreached
      · exact absurd (hbefore.symm.trans hhalf) (by decide)
      · obtain ⟨recent, older, hsplit, hcount, hcalm⟩ := counted_cons (h.failures hbefore)
          (show BreakerEntry.succeedsIn .closed
            ⟨.recordFailure, now, history.breaker.state, .opened, none⟩ = false from rfl)
        exact ⟨recent, older, hsplit, by rw [hcount]; exact hreached, hcalm⟩
    | available _ => exact absurd hbefore hafter
    | refused _ => exact absurd hbefore hafter
    | timedOut hstate _ => exact absurd (hstate.symm.trans hbefore) (by decide)
    | closes _ _ => exact absurd rfl hafter
    | succeeds _ => exact absurd hbefore hafter
    | forgets _ => exact absurd hbefore hafter
    | late _ _ => exact absurd hbefore hafter
    | fails _ => exact absurd hbefore hafter
  waits hcall o ho hopens hearly := by
    cases hmove with
    | available hstate =>
      obtain ⟨e, he, hle⟩ := h.waited hstate o ho hopens
      exact absurd (hle.trans (hclock e he)) hearly.not_ge
    | refused _ => rfl
    | timedOut hstate htime => exact absurd (h.timed_out hstate htime ho hopens) hearly.not_ge
    | _ => cases hcall
  closes hbefore hafter := by
    cases hmove with
    | closes hstate hreached =>
      have hcounts : BreakerEntry.succeedsIn .halfOpen
          ⟨.recordSuccess, now, history.breaker.state, .closed, none⟩ = true := by
        simp [BreakerEntry.succeedsIn, hstate]
      obtain ⟨recent, older, hsplit, hcount, hcalm⟩ := counted_cons (h.successes hstate)
        (show BreakerEntry.fails
          ⟨.recordSuccess, now, history.breaker.state, .closed, none⟩ = false from rfl)
      rw [hcounts, if_pos rfl] at hcount
      exact ⟨recent, older, hsplit, by rw [hcount]; exact hreached, hcalm⟩
    | available _ => exact absurd hafter hbefore
    | refused _ => exact absurd hafter hbefore
    | timedOut _ _ => cases hafter
    | succeeds _ => exact absurd hafter hbefore
    | forgets _ => exact absurd hafter hbefore
    | late _ _ => exact absurd hafter hbefore
    | opens _ => cases hafter
    | fails _ => exact absurd hafter hbefore

theorem BreakerInv.move (h : BreakerInv config history) (hclock : ClockMoves history (call, now))
    (hmove : BreakerMove config history.breaker now call answer cb) :
    BreakerInv config (history.after call now answer cb) where
  failures := h.failures_after hmove
  successes := h.successes_after hmove
  noSuccesses := h.noSuccesses_after hmove
  openedAt := h.openedAt_after hclock hmove
  waited := h.waited_after hmove
  contract := h.contract.cons (h.keeps hclock hmove)

theorem breakerInv_start : BreakerInv config {} where
  failures _ := counted_none _
  successes h := by cases h
  noSuccesses _ := rfl
  openedAt h := by cases h
  waited _ o ho := by cases ho
  contract later e earlier h := by cases later <;> cases h

/-- Over any sequence of calls, a class whose calls are moves keeps the invariant. -/
theorem BreakerClass.inv {cls : BreakerClass}
    (hmoves : ∀ {cb now call}, BreakerMove config cb now call (cls.perform config cb now call).1
      (cls.perform config cb now call).2)
    (h : Reach (cls.step config) ClockMoves {} history) : BreakerInv config history := by
  refine h.invariant breakerInv_start ?_
  rintro before ⟨call, now⟩ after hinv hclock hstep
  obtain rfl := Option.some.inj hstep
  exact hinv.move hclock hmoves

end Invariant

/-- **The contract of the breakers**: over any sequence of calls, in whatever order the outcomes come,
each call keeps to it. -/
theorem breaker_contract (config : BreakerConfig) :
    (∀ history, Reach (circuitBreakerClass.step config) ClockMoves {} history →
      BreakerContract config history.entries) ∧
    ∀ history, Reach (horizonBreakerClass.step config) ClockMoves {} history →
      BreakerContract config history.entries :=
  ⟨fun _ h => (BreakerClass.inv circuitBreaker_move h).contract,
    fun _ h => (BreakerClass.inv horizonBreaker_move h).contract⟩

def lateConfig : BreakerConfig := { failureThreshold := 2, resetTimeoutMs := 10, successThreshold := 1 }

/-- Two failures open the breaker, and a success and a failure of earlier requests come late. -/
def lateCalls : List (BreakerCall × ℚ) :=
  [(.recordFailure, 0), (.recordFailure, 1), (.recordSuccess, 2), (.recordFailure, 3), (.isAvailable, 12)]

/-- Here the classes differ: the late failure starts the timeout of the one again and not that of the
other, whose failures the late success has forgotten. -/
theorem breaker_contract_late :
    (∃ history, Reach (circuitBreakerClass.step lateConfig) ClockMoves {} history ∧
      history.breaker.state = .opened ∧ BreakerContract lateConfig history.entries) ∧
    ∃ history, Reach (horizonBreakerClass.step lateConfig) ClockMoves {} history ∧
      history.breaker.state = .halfOpen ∧ BreakerContract lateConfig history.entries := by
  have hcircuit := Reach.getOk (show (execOk (circuitBreakerClass.step lateConfig) ClockMoves {}
    lateCalls).isSome = true by decide +kernel)
  have hhorizon := Reach.getOk (show (execOk (horizonBreakerClass.step lateConfig) ClockMoves {}
    lateCalls).isSome = true by decide +kernel)
  exact ⟨⟨_, hcircuit, by decide +kernel, (breaker_contract lateConfig).1 _ hcircuit⟩,
    ⟨_, hhorizon, by decide +kernel, (breaker_contract lateConfig).2 _ hhorizon⟩⟩

end StellarEduPay

import StellarEduPay.Runs

/-! # The scheduler of the outbox dispatcher

One process schedules its batches by chained timeouts and keeps three variables: the
running flag, the last timer handle, and the resolver of a stop that waits.  The handle
is never reset when its timer fires, so a stop always finds one and takes it for a
batch that has not begun: it resolves at once.  Stops that are not called during a
batch are clean, and then batches never overlap; a stop during a batch is not clean.
-/
namespace StellarEduPay
open Runs

/-- The variables of the module, the timers and batches of the event loop, and the promises
that `stopOutboxDispatcher` has returned and that have resolved. -/
structure Scheduler where
  running : Bool
  timer : Option Nat
  stopResolve : Option Nat
  pendingTimers : List Nat
  inFlight : List Nat
  nextTimer : Nat
  promises : Nat
  resolved : List Nat
  deriving DecidableEq, Repr

def Scheduler.start : Scheduler := ⟨false, none, none, [], [], 0, 0, []⟩

inductive SchedulerAction
  | startOutboxDispatcher
  | stopOutboxDispatcher
  | fire (handle : Nat)
  | complete (batch : Nat)
  deriving DecidableEq, Repr

/-- The next tick, or, once stopped, the end of a stop that waited. -/
def scheduleTick (s : Scheduler) : Scheduler :=
  if s.running = false then
    match s.stopResolve with
    | some promise => { s with resolved := promise :: s.resolved, stopResolve := none }
    | none => s
  else
    { s with
      timer := some s.nextTimer
      pendingTimers := s.pendingTimers ++ [s.nextTimer]
      nextTimer := s.nextTimer + 1 }

def startOutboxDispatcher (s : Scheduler) : Scheduler :=
  if s.running then s else scheduleTick { s with running := true }

/-- `clearTimeout` does nothing for a timer that has fired. -/
def stopOutboxDispatcher (s : Scheduler) : Scheduler :=
  let promise := s.promises
  let s := { s with promises := s.promises + 1 }
  if s.running = false then { s with resolved := promise :: s.resolved }
  else match s.timer with
    | some handle => { s with
        running := false
        pendingTimers := s.pendingTimers.erase handle
        timer := none
        resolved := promise :: s.resolved }
    | none => { s with running := false, stopResolve := some promise }

/-- A timer starts a batch when it fires, and a batch schedules the next tick when it ends,
whether it failed or not. -/
def schedulerStep (s : Scheduler) : SchedulerAction → Option Scheduler
  | .startOutboxDispatcher => some (startOutboxDispatcher s)
  | .stopOutboxDispatcher => some (stopOutboxDispatcher s)
  | .fire handle =>
    if handle ∈ s.pendingTimers then
      some { s with
        pendingTimers := s.pendingTimers.erase handle
        inFlight := handle :: s.inFlight }
    else none
  | .complete batch =>
    if batch ∈ s.inFlight then some (scheduleTick { s with inFlight := s.inFlight.erase batch })
    else none

/-- No batch is in flight, and none starts before the next start. -/
def IdleUntilStart (s : Scheduler) : Prop :=
  ∀ t, Reach schedulerStep (fun _ a => a ≠ .startOutboxDispatcher) s t → t.inFlight = []

/-- The dispatcher is stopped only between batches. -/
def StopsBetweenBatches (s : Scheduler) : SchedulerAction → Prop
  | .stopOutboxDispatcher => s.inFlight = []
  | _ => True

/-- **The chain invariant**: while running there is one timer or one batch, and a timer is the
one whose handle is kept; while stopped there is neither. -/
inductive ChainInv (s : Scheduler) : Prop
  | stopped : s.running = false → s.pendingTimers = [] → s.inFlight = [] → s.stopResolve = none →
      ChainInv s
  | waiting (handle : Nat) : s.running = true → s.timer = some handle →
      s.pendingTimers = [handle] → s.inFlight = [] → s.stopResolve = none → ChainInv s
  | working (batch handle : Nat) : s.running = true → s.timer = some handle →
      s.pendingTimers = [] → s.inFlight = [batch] → s.stopResolve = none → ChainInv s

section Step
variable {s t : Scheduler}

theorem ChainInv.init : ChainInv .start := .stopped rfl rfl rfl rfl

theorem ChainInv.inFlight_length (h : ChainInv s) : s.inFlight.length ≤ 1 := by
  rcases h with ⟨-, -, hfl, -⟩ | ⟨_, -, -, -, hfl, -⟩ | ⟨_, _, -, -, -, hfl, -⟩
  · simp [hfl]
  · simp [hfl]
  · simp [hfl]

/-- A tick scheduled while running, with nothing else under way. -/
theorem chainInv_scheduleTick (hrun : s.running = true) (hpend : s.pendingTimers = [])
    (hfl : s.inFlight = []) (hres : s.stopResolve = none) : ChainInv (scheduleTick s) := by
  refine .waiting s.nextTimer ?_ ?_ ?_ ?_ ?_
  all_goals simp [scheduleTick, hrun, hpend, hfl, hres]

/-- A stop between batches leaves nothing under way. -/
theorem stop_stopped (h : ChainInv s) (hfl : s.inFlight = []) :
    (stopOutboxDispatcher s).running = false ∧ (stopOutboxDispatcher s).pendingTimers = [] ∧
      (stopOutboxDispatcher s).inFlight = [] ∧ (stopOutboxDispatcher s).stopResolve = none := by
  rcases h with ⟨hrun, hpend, -, hres⟩ | ⟨handle, hrun, htimer, hpend, -, hres⟩ |
    ⟨batch, _, -, -, -, hbatch, -⟩
  · simp [stopOutboxDispatcher, hrun, hpend, hfl, hres]
  · simp [stopOutboxDispatcher, hrun, htimer, hpend, hfl, hres]
  · rw [hfl] at hbatch
    cases hbatch

theorem ChainInv.step {a : SchedulerAction} (h : ChainInv s) (hok : StopsBetweenBatches s a)
    (hstep : schedulerStep s a = some t) : ChainInv t := by
  cases a with
  | startOutboxDispatcher =>
    obtain rfl : startOutboxDispatcher s = t := Option.some.inj hstep
    by_cases hrun : s.running = true
    · simpa [startOutboxDispatcher, hrun] using h
    · rcases h with ⟨-, hpend, hfl, hres⟩ | ⟨_, hr, -⟩ | ⟨_, _, hr, -⟩
      · simp only [startOutboxDispatcher, if_neg hrun]
        exact chainInv_scheduleTick rfl hpend hfl hres
      · exact absurd hr hrun
      · exact absurd hr hrun
  | stopOutboxDispatcher =>
    obtain rfl : stopOutboxDispatcher s = t := Option.some.inj hstep
    obtain ⟨hrun, hpend, hfl, hres⟩ := stop_stopped h hok
    exact .stopped hrun hpend hfl hres
  | fire handle =>
    simp only [schedulerStep] at hstep
    split at hstep
    · rename_i hmem
      obtain rfl := Option.some.inj hstep
      rcases h with ⟨-, hpend, -⟩ | ⟨h₀, hrun, htimer, hpend, hfl, hres⟩ | ⟨_, _, -, -, hpend, -⟩
      · simp [hpend] at hmem
      · obtain rfl : handle = h₀ := by simpa [hpend] using hmem
        exact .working handle handle hrun htimer (by simp [hpend]) (by simp [hfl]) hres
      · simp [hpend] at hmem
    · cases hstep
  | complete batch =>
    simp only [schedulerStep] at hstep
    split at hstep
    · rename_i hmem
      obtain rfl := Option.some.inj hstep
      rcases h with ⟨-, -, hfl, -⟩ | ⟨_, -, -, -, hfl, -⟩ | ⟨b, _, hrun, -, hpend, hfl, hres⟩
      · simp [hfl] at hmem
      · simp [hfl] at hmem
      · obtain rfl : batch = b := by simpa [hfl] using hmem
        exact chainInv_scheduleTick hrun hpend (by simp [hfl]) hres
    · cases hstep

/-- With neither a timer nor a batch, and stopped, nothing starts without a start. -/
theorem idleUntilStart_of_stopped (hrun : s.running = false) (hpend : s.pendingTimers = [])
    (hfl : s.inFlight = []) : IdleUntilStart s := by
  intro t ht
  have hquiet : t.running = false ∧ t.pendingTimers = [] ∧ t.inFlight = [] := by
    induction ht with
    | refl => exact ⟨hrun, hpend, hfl⟩
    | @tail u v a _ hne hstep ih =>
      obtain ⟨hrun, hpend, hfl⟩ := ih
      cases a with
      | startOutboxDispatcher => exact absurd rfl hne
      | stopOutboxDispatcher =>
        obtain rfl : stopOutboxDispatcher u = v := Option.some.inj hstep
        simp [stopOutboxDispatcher, hrun, hpend, hfl]
      | fire handle => simp [schedulerStep, hpend] at hstep
      | complete batch => simp [schedulerStep, hfl] at hstep
  exact hquiet.2.2

/-- Every stop resolves at once: the handle of the last timer is always there. -/
theorem stop_resolves (h : ChainInv s) :
    (stopOutboxDispatcher s).resolved = s.promises :: s.resolved ∧
      (stopOutboxDispatcher s).inFlight = s.inFlight := by
  rcases h with ⟨hrun, -⟩ | ⟨handle, hrun, htimer, -⟩ | ⟨_, handle, hrun, htimer, -⟩
  · simp [stopOutboxDispatcher, hrun]
  · simp [stopOutboxDispatcher, hrun, htimer]
  · simp [stopOutboxDispatcher, hrun, htimer]

/-- Nothing but a stop resolves a promise, since none is ever left waiting. -/
theorem resolved_eq {a : SchedulerAction} (h : ChainInv s) (ha : a ≠ .stopOutboxDispatcher)
    (hstep : schedulerStep s a = some t) : t.resolved = s.resolved := by
  have hres : s.stopResolve = none := by
    rcases h with ⟨-, -, -, hres⟩ | ⟨_, -, -, -, -, hres⟩ | ⟨_, _, -, -, -, -, hres⟩
    all_goals exact hres
  have htick : ∀ s : Scheduler, s.stopResolve = none → (scheduleTick s).resolved = s.resolved := by
    intro s hres
    unfold scheduleTick
    split
    · simp [hres]
    · rfl
  cases a with
  | startOutboxDispatcher =>
    obtain rfl : startOutboxDispatcher s = t := Option.some.inj hstep
    unfold startOutboxDispatcher
    split
    · rfl
    · exact htick _ hres
  | stopOutboxDispatcher => exact absurd rfl ha
  | fire handle =>
    simp only [schedulerStep] at hstep
    split at hstep
    · obtain rfl := Option.some.inj hstep
      rfl
    · cases hstep
  | complete batch =>
    simp only [schedulerStep] at hstep
    split at hstep
    · obtain rfl := Option.some.inj hstep
      exact htick _ hres
    · cases hstep

end Step

/-- **The scheduler never overlaps and stops cleanly**, along every run that stops it only
between batches; and in every state of such a run a stop is clean exactly when no batch is
in flight. -/
theorem scheduler_along_runs {s : Scheduler}
    (hrun : Reach schedulerStep StopsBetweenBatches .start s) :
    s.inFlight.length ≤ 1 ∧
      (∀ a t, StopsBetweenBatches s a → schedulerStep s a = some t → t.resolved ≠ s.resolved →
        IdleUntilStart t) ∧
      ((stopOutboxDispatcher s).resolved ≠ s.resolved ∧
        (IdleUntilStart (stopOutboxDispatcher s) ↔ s.inFlight = [])) := by
  have hinv : ChainInv s := hrun.invariant .init fun h => h.step
  have hclean : s.inFlight = [] → IdleUntilStart (stopOutboxDispatcher s) := by
    intro hfl
    obtain ⟨hstopped, hpend, hnone, -⟩ := stop_stopped hinv hfl
    exact idleUntilStart_of_stopped hstopped hpend hnone
  obtain ⟨hres, hkeep⟩ := stop_resolves hinv
  refine ⟨hinv.inFlight_length, fun a t hok hstep hnew => ?_, ?_, fun hidle => ?_, hclean⟩
  · by_cases ha : a = .stopOutboxDispatcher
    · subst ha
      obtain rfl : stopOutboxDispatcher s = t := Option.some.inj hstep
      exact hclean hok
    · exact absurd (resolved_eq hinv ha hstep) hnew
  · rw [hres]
    exact List.cons_ne_self _ _
  · rw [← hkeep]
    exact hidle _ .refl

/-- Two batches, a stop between them, and a restart. -/
theorem scheduler_along_runs_restart : ∃ s : Scheduler, s.inFlight.length ≤ 1 ∧
    s.inFlight = [2] ∧ s.resolved = [0] := by
  have hrun : Reach schedulerStep StopsBetweenBatches .start _ :=
    .tail (.tail (.tail (.tail (.tail (.tail .refl
      (a := .startOutboxDispatcher) trivial rfl)
      (a := .fire 0) trivial rfl)
      (a := .complete 0) trivial rfl)
      (a := .stopOutboxDispatcher) (show _ = [] by decide) rfl)
      (a := .startOutboxDispatcher) trivial rfl)
      (a := .fire 2) trivial rfl
  exact ⟨_, (scheduler_along_runs hrun).1, by decide, by decide⟩

/-- A stop during a batch resolves at once, and a restart then runs a second batch beside the
first. -/
theorem stop_during_batch_overlaps :
    ¬ ∀ s, Reach schedulerStep Free .start s → s.inFlight.length ≤ 1 := by
  intro h
  have hrun := reach_of_exec (show exec schedulerStep .start
    [.startOutboxDispatcher, .fire 0, .stopOutboxDispatcher, .startOutboxDispatcher, .fire 1] =
      some _ from rfl)
  exact absurd (h _ hrun) (by decide)

end StellarEduPay

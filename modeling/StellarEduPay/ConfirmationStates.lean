import Mathlib.Order.Bounds.Basic
import Mathlib.Order.MinMax

/-! # Confirmation states (`services/paymentConfirmationStateMachine.js`)

A payment moves through ranked states as ledgers close over its own.  Each poll computes the state
the payment should be in, and `resolveNextState` moves it there if a table of transitions and the
ranks allow it.  The table says no more than the ranks do, so polling is a running maximum that the
two terminal states cut short.
-/
namespace StellarEduPay

inductive ConfirmationState
  | detected
  | pending
  | confirmed
  | finalized
  | failed
  deriving DecidableEq, Repr

namespace ConfirmationState

/-- `STATE_RANK` -/
def rank : ConfirmationState → Nat
  | detected => 0
  | pending => 1
  | confirmed => 2
  | finalized => 3
  | failed => 99

/-- `TERMINAL_STATES` -/
def terminal : ConfirmationState → Bool
  | finalized | failed => true
  | _ => false

/-- `CONFIRMATION_STATE_TRANSITIONS` -/
def transitions : ConfirmationState → List ConfirmationState
  | detected => [pending, confirmed, finalized, failed]
  | pending => [confirmed, finalized, failed]
  | confirmed => [finalized, failed]
  | finalized => []
  | failed => []

end ConfirmationState

/-- The ledgers needed for `confirmed` and for `finalized`. -/
structure ConfirmationThresholds where
  confirmation : Int
  finalization : Int
  deriving DecidableEq, Repr

/-- What a poll knows of a payment. -/
structure LedgerObservation where
  txLedger : Option Int
  latestLedgerSequence : Option Int
  isSuspicious : Bool := false
  deriving DecidableEq, Repr

/-- `computeTargetState`; a ledger number that is zero counts as unknown. -/
def computeTargetState (thresholds : ConfirmationThresholds) (seen : LedgerObservation) :
    ConfirmationState :=
  if seen.isSuspicious then .failed
  else match seen.txLedger.filter (· ≠ 0), seen.latestLedgerSequence.filter (· ≠ 0) with
  | some txLedger, some latestLedgerSequence =>
    let depth := latestLedgerSequence - txLedger
    if thresholds.finalization ≤ depth then .finalized
    else if thresholds.confirmation ≤ depth then .confirmed
    else if 1 ≤ depth then .pending
    else .detected
  | _, _ => .detected

/-- `{ state, changed }` -/
structure ResolvedState where
  state : ConfirmationState
  changed : Bool
  deriving DecidableEq, Repr

/-- `resolveNextState`; the current state is `none` where it is missing or unknown. -/
def resolveNextState (currentState : Option ConfirmationState) (targetState : ConfirmationState) :
    ResolvedState :=
  let current := currentState.getD .detected
  if current.terminal then ⟨current, false⟩
  else if targetState.rank ≤ current.rank ∧ targetState ≠ .failed then ⟨current, false⟩
  else if targetState ∉ current.transitions then ⟨current, false⟩
  else ⟨targetState, true⟩

/-- One poll. -/
def observe (thresholds : ConfirmationThresholds) (state : ConfirmationState)
    (seen : LedgerObservation) : ConfirmationState :=
  (resolveNextState (some state) (computeTargetState thresholds seen)).state

/-- A payment that was detected, after a sequence of polls. -/
def observeAll (thresholds : ConfirmationThresholds) (polls : List LedgerObservation) :
    ConfirmationState :=
  polls.foldl (observe thresholds) .detected

/-! ## A running maximum -/

namespace ConfirmationState
variable {s t : ConfirmationState}

theorem rank_injective : Function.Injective rank := by
  intro s t h
  cases s <;> cases t <;> first | rfl | cases h

/-- States in the order of their ranks. -/
instance : LinearOrder ConfirmationState := LinearOrder.lift' rank rank_injective

theorem le_iff_rank : s ≤ t ↔ s.rank ≤ t.rank := Iff.rfl

theorem lt_iff_rank : s < t ↔ s.rank < t.rank := Iff.rfl

theorem detected_le (s : ConfirmationState) : detected ≤ s := Nat.zero_le _

theorem le_finalized (h : s ≠ failed) : s ≤ finalized := by
  cases s with
  | failed => exact absurd rfl h
  | _ => exact le_iff_rank.mpr (by decide)

/-- **The table and the ranks agree** on the states that can still move. -/
theorem mem_transitions_iff (h : s.terminal = false) : t ∈ s.transitions ↔ s < t := by
  cases s with
  | finalized => cases h
  | failed => cases h
  | _ => cases t <;> decide

end ConfirmationState

section Polls
open ConfirmationState
variable {thresholds : ConfirmationThresholds} {state : ConfirmationState} {seen : LedgerObservation}
  {polls calm : List LedgerObservation}

/-- What one poll does. -/
theorem observe_eq : observe thresholds state seen =
    if state.terminal then state else max state (computeTargetState thresholds seen) := by
  unfold observe resolveNextState
  rw [Option.getD_some]
  by_cases hterminal : state.terminal = true
  · rw [if_pos hterminal, if_pos hterminal]
  rw [if_neg hterminal, if_neg hterminal]
  have hallowed : computeTargetState thresholds seen ∈ state.transitions ↔
      state < computeTargetState thresholds seen :=
    mem_transitions_iff (Bool.eq_false_iff.mpr hterminal)
  by_cases hlt : state < computeTargetState thresholds seen
  · have hrank : ¬((computeTargetState thresholds seen).rank ≤ state.rank ∧
        computeTargetState thresholds seen ≠ .failed) := fun h => (lt_iff_rank.mp hlt).not_ge h.1
    rw [if_neg hrank, if_neg (not_not.mpr (hallowed.mpr hlt)), max_eq_right hlt.le]
  · rw [max_eq_left (not_lt.mp hlt)]
    split
    · rfl
    · rw [if_pos (hallowed.not.mpr hlt)]

theorem le_observe : state ≤ observe thresholds state seen := by
  rw [observe_eq]
  split
  · exact le_rfl
  · exact le_max_left _ _

theorem observe_terminal (h : state.terminal = true) : observe thresholds state seen = state := by
  rw [observe_eq, if_pos h]

theorem le_observe_foldl (polls : List LedgerObservation) :
    state ≤ polls.foldl (observe thresholds) state := by
  induction polls generalizing state with
  | nil => exact le_rfl
  | cons seen polls ih => exact le_observe.trans ih

/-- Terminal states never move. -/
theorem observe_foldl_terminal (h : state.terminal = true) (polls : List LedgerObservation) :
    polls.foldl (observe thresholds) state = state := by
  induction polls with
  | nil => rfl
  | cons seen polls ih => rw [List.foldl_cons, observe_terminal h, ih]

theorem computeTargetState_suspicious (h : seen.isSuspicious = true) :
    computeTargetState thresholds seen = .failed := if_pos h

theorem computeTargetState_ne_failed (thresholds : ConfirmationThresholds)
    (h : seen.isSuspicious = false) :
    computeTargetState thresholds seen ≠ .failed := by
  unfold computeTargetState
  rw [if_neg (by simp [h])]
  split
  · dsimp only
    split_ifs <;> simp
  · simp

/-- A poll keeps the state, or goes to the state it asks for. -/
theorem observe_choice (thresholds : ConfirmationThresholds) (state : ConfirmationState)
    (seen : LedgerObservation) : observe thresholds state seen = state ∨
    observe thresholds state seen = computeTargetState thresholds seen := by
  rw [observe_eq]
  split
  · exact Or.inl rfl
  · exact max_choice _ _

/-- The state is the one at the start or one that a poll asked for. -/
theorem foldl_observe_choice (thresholds : ConfirmationThresholds) (state : ConfirmationState)
    (polls : List LedgerObservation) :
    polls.foldl (observe thresholds) state = state ∨
      ∃ seen ∈ polls, computeTargetState thresholds seen = polls.foldl (observe thresholds) state := by
  induction polls generalizing state with
  | nil => exact Or.inl rfl
  | cons seen polls ih =>
    rw [List.foldl_cons]
    rcases ih (observe thresholds state seen) with hrest | ⟨other, hother, hrest⟩
    · rw [hrest]
      rcases observe_choice thresholds state seen with h | h
      · exact Or.inl h
      · exact Or.inr ⟨seen, List.mem_cons_self, h.symm⟩
    · exact Or.inr ⟨other, List.mem_cons_of_mem _ hother, hrest⟩

/-- A poll without suspicion gets what it asks for, unless the payment has failed. -/
theorem target_le_observe (thresholds : ConfirmationThresholds)
    (hseen : seen.isSuspicious = false) (hstate : state ≠ .failed) :
    computeTargetState thresholds seen ≤ observe thresholds state seen ∧
      observe thresholds state seen ≠ .failed := by
  have htarget := computeTargetState_ne_failed thresholds hseen
  have hnext : observe thresholds state seen ≠ .failed := by
    rcases observe_choice thresholds state seen with h | h
    · rwa [h]
    · rwa [h]
  refine ⟨?_, hnext⟩
  rw [observe_eq]
  split
  · -- the terminal state that is not `failed`
    rename_i hterminal
    cases state with
    | finalized => exact le_finalized htarget
    | failed => exact absurd rfl hstate
    | _ => cases hterminal
  · exact le_max_right _ _

/-- By induction on the polls: what a poll without suspicion asked for was reached. -/
theorem target_le_foldl (thresholds : ConfirmationThresholds)
    (hcalm : ∀ seen ∈ calm, seen.isSuspicious = false) (hstate : state ≠ .failed) :
    ∀ seen ∈ calm, computeTargetState thresholds seen ≤ calm.foldl (observe thresholds) state := by
  induction calm generalizing state with
  | nil => exact fun seen hseen => by cases hseen
  | cons seen calm ih =>
    obtain ⟨hseen, hcalm⟩ := List.forall_mem_cons.mp hcalm
    obtain ⟨htarget, hnext⟩ := target_le_observe thresholds hseen hstate
    intro other hother
    rcases List.mem_cons.mp hother with rfl | hother
    · exact htarget.trans (le_observe_foldl calm)
    · exact ih hcalm hnext other hother

theorem start_ne_failed : ConfirmationState.detected ≠ .failed := by decide

theorem observeAll_append (before after : List LedgerObservation) :
    observeAll thresholds (before ++ after) =
      after.foldl (observe thresholds) (observeAll thresholds before) :=
  List.foldl_append

/-! ## The result of the polls -/

/-- A poll is suspicious before the payment is finalized. -/
def SuspectedBeforeFinal (thresholds : ConfirmationThresholds) (polls : List LedgerObservation) : Prop :=
  ∃ before seen after, polls = before ++ seen :: after ∧ seen.isSuspicious = true ∧
    observeAll thresholds before ≠ .finalized

/-- The states the polls without suspicion ask for, and the one a payment starts in. -/
def calmTargets (thresholds : ConfirmationThresholds) (polls : List LedgerObservation) :
    Set ConfirmationState :=
  {s | s = .detected ∨ ∃ seen ∈ polls, seen.isSuspicious = false ∧
    computeTargetState thresholds seen = s}

theorem observeAll_suspected (h : SuspectedBeforeFinal thresholds polls) :
    observeAll thresholds polls = .failed := by
  obtain ⟨before, seen, after, rfl, hseen, hstate⟩ := h
  have hfailed : observe thresholds (observeAll thresholds before) seen = .failed := by
    rw [observe_eq, computeTargetState_suspicious hseen]
    cases hstate' : observeAll thresholds before with
    | finalized => exact absurd hstate' hstate
    | _ => rfl
  rw [observeAll_append, List.foldl_cons, hfailed]
  exact observe_foldl_terminal rfl after

/-- Without suspicion in time, the state is the highest that a poll without suspicion asked for. -/
theorem observeAll_unsuspected (h : ¬ SuspectedBeforeFinal thresholds polls) :
    IsGreatest (calmTargets thresholds polls) (observeAll thresholds polls) := by
  by_cases hcalm : ∀ seen ∈ polls, seen.isSuspicious = false
  · constructor
    · refine (foldl_observe_choice thresholds .detected polls).imp id ?_
      rintro ⟨seen, hseen, htarget⟩
      exact ⟨seen, hseen, hcalm seen hseen, htarget⟩
    · rintro s (rfl | ⟨seen, hseen, -, rfl⟩)
      · exact detected_le _
      · exact target_le_foldl thresholds hcalm start_ne_failed seen hseen
  · push Not at hcalm
    obtain ⟨seen, hmem, hseen⟩ := hcalm
    obtain ⟨before, after, rfl⟩ := List.append_of_mem hmem
    -- the payment was finalized before the suspicion, and nothing else outranks that
    have hbefore : observeAll thresholds before = .finalized := by
      by_contra hstate
      exact h ⟨before, seen, after, rfl, by simpa using hseen, hstate⟩
    have hfinal : observeAll thresholds (before ++ seen :: after) = .finalized := by
      rw [observeAll_append, hbefore, observe_foldl_terminal rfl]
    rw [hfinal]
    constructor
    · rcases foldl_observe_choice thresholds .detected before with
        hstart | ⟨other, hother, htarget⟩
      · exact absurd (hbefore.symm.trans hstart) (by decide)
      · replace htarget := htarget.trans hbefore
        refine Or.inr ⟨other, List.mem_append_left _ hother, ?_, htarget⟩
        by_contra hsuspicious
        rw [computeTargetState_suspicious (by simpa using hsuspicious)] at htarget
        cases htarget
    · rintro s (rfl | ⟨other, -, hother, rfl⟩)
      · exact detected_le _
      · exact le_finalized (computeTargetState_ne_failed thresholds hother)

/-- Each poll of one sequence is matched by one of the other that asks for no less. -/
def PollsCovered (thresholds : ConfirmationThresholds) (polls polls' : List LedgerObservation) :
    Prop :=
  ∀ seen ∈ polls, ∃ seen' ∈ polls',
    computeTargetState thresholds seen ≤ computeTargetState thresholds seen'

theorem observeAll_le_of_covered {calm' : List LedgerObservation}
    (hcalm' : ∀ seen ∈ calm', seen.isSuspicious = false) (h : PollsCovered thresholds calm calm') :
    observeAll thresholds calm ≤ observeAll thresholds calm' := by
  rcases foldl_observe_choice thresholds .detected calm with
    hstart | ⟨seen, hseen, htarget⟩
  · exact hstart.trans_le (detected_le _)
  · obtain ⟨seen', hseen', hle⟩ := h seen hseen
    have hreached := target_le_foldl thresholds hcalm' start_ne_failed seen' hseen'
    exact htarget.symm.trans_le (hle.trans hreached)

/-- Two sequences without suspicion that cover each other lead to one state. -/
theorem observeAll_eq_of_covered {calm' : List LedgerObservation}
    (hcalm : ∀ seen ∈ calm, seen.isSuspicious = false)
    (hcalm' : ∀ seen ∈ calm', seen.isSuspicious = false) (h : PollsCovered thresholds calm calm')
    (h' : PollsCovered thresholds calm' calm) :
    observeAll thresholds calm = observeAll thresholds calm' :=
  le_antisymm (observeAll_le_of_covered hcalm' h) (observeAll_le_of_covered hcalm h')

theorem covered_of_subset {polls' : List LedgerObservation} (h : polls ⊆ polls') :
    PollsCovered thresholds polls polls' :=
  fun seen hseen => ⟨seen, h hseen, le_rfl⟩

/-- **Polling is a fold.**  Ranks never go down and terminal states never move; a suspicion in time
fails the payment, otherwise it ends in the highest state that a poll without suspicion asked for; and
before the first suspicion the polls may come in any order, repeatedly or late. -/
theorem confirmation_fold (thresholds : ConfirmationThresholds) (polls : List LedgerObservation) :
    (∀ before after, polls = before ++ after →
      (observeAll thresholds before).rank ≤ (observeAll thresholds polls).rank ∧
        ((observeAll thresholds before).terminal = true →
          observeAll thresholds polls = observeAll thresholds before)) ∧
    (SuspectedBeforeFinal thresholds polls → observeAll thresholds polls = .failed) ∧
    (¬ SuspectedBeforeFinal thresholds polls →
      IsGreatest (calmTargets thresholds polls) (observeAll thresholds polls)) ∧
    (∀ calm calm' rest, polls = calm ++ rest → (∀ seen ∈ calm, seen.isSuspicious = false) →
      calm'.Perm calm → observeAll thresholds (calm' ++ rest) = observeAll thresholds polls) ∧
    ∀ before after rest seen, polls = before ++ after ++ rest →
      (∀ other ∈ before ++ after, other.isSuspicious = false) → seen.isSuspicious = false →
        (∃ other ∈ before ++ after,
          computeTargetState thresholds seen ≤ computeTargetState thresholds other) →
        observeAll thresholds (before ++ seen :: after ++ rest) = observeAll thresholds polls := by
  refine ⟨?_, observeAll_suspected, observeAll_unsuspected, ?_, ?_⟩
  · rintro before after rfl
    rw [observeAll_append]
    exact ⟨le_observe_foldl after, fun hterminal => observe_foldl_terminal hterminal after⟩
  · rintro calm calm' rest rfl hcalm hperm
    have hcalm' : ∀ seen ∈ calm', seen.isSuspicious = false :=
      fun seen hseen => hcalm seen (hperm.mem_iff.mp hseen)
    rw [observeAll_append, observeAll_append, observeAll_eq_of_covered hcalm' hcalm
      (covered_of_subset hperm.subset) (covered_of_subset hperm.symm.subset)]
  · rintro before after rest seen rfl hcalm hseen ⟨other, hother, hle⟩
    have hmore : ∀ x ∈ before ++ seen :: after, x = seen ∨ x ∈ before ++ after :=
      fun x hx => List.mem_cons.mp (List.perm_middle.mem_iff.mp hx)
    have hcalm' : ∀ x ∈ before ++ seen :: after, x.isSuspicious = false := by
      intro x hx
      rcases hmore x hx with rfl | hx
      · exact hseen
      · exact hcalm x hx
    have hcovered : PollsCovered thresholds (before ++ seen :: after) (before ++ after) := by
      intro x hx
      rcases hmore x hx with rfl | hx
      · exact ⟨other, hother, hle⟩
      · exact ⟨x, hx, le_rfl⟩
    have hsub : before ++ after ⊆ before ++ seen :: after := fun x hx =>
      List.perm_middle.mem_iff.mpr (List.mem_cons_of_mem _ hx)
    have hsame := observeAll_eq_of_covered hcalm' hcalm hcovered (covered_of_subset hsub)
    rw [observeAll_append (before ++ seen :: after) rest, observeAll_append (before ++ after) rest,
      hsame]

/-- A suspicion that comes after the payment was finalized is a target that outranks the state. -/
theorem late_suspicion_outranks : ¬ ∀ (thresholds : ConfirmationThresholds)
    (polls : List LedgerObservation), 1 ≤ thresholds.confirmation →
      thresholds.confirmation < thresholds.finalization → ¬ SuspectedBeforeFinal thresholds polls →
        IsGreatest {s | s = .detected ∨ ∃ seen ∈ polls, computeTargetState thresholds seen = s}
          (observeAll thresholds polls) := by
  intro h
  let deep : LedgerObservation := ⟨some 100, some 110, false⟩
  let suspicious : LedgerObservation := ⟨some 100, some 110, true⟩
  have hlate : ¬ SuspectedBeforeFinal ⟨2, 10⟩ [deep, suspicious] := by
    rintro ⟨before, seen, after, hsplit, hseen, hstate⟩
    match before, hsplit, hstate with
    | [], hsplit, _ =>
      obtain ⟨rfl, -⟩ := List.cons_eq_cons.mp hsplit
      cases hseen
    | [first], hsplit, hstate =>
      obtain ⟨rfl, -⟩ := List.cons_eq_cons.mp hsplit
      exact hstate (by decide)
    | _ :: _ :: _, hsplit, _ => simp at hsplit
  have hgreatest := h ⟨2, 10⟩ [deep, suspicious] (by decide) (by decide) hlate
  exact absurd (hgreatest.2 (Or.inr ⟨suspicious, by simp, rfl⟩)) (by decide)

end Polls
end StellarEduPay

import Mathlib.Data.List.Basic
import Mathlib.Data.List.Nodup
import StellarEduPay.Runs

/-! # Bounded concurrency (`services/transactionPollingService.js`)

`runWithConcurrency` has a number of runners share one index. A runner takes the next item and calls the
worker on it; when the call has settled it writes the outcome down, and goes on. From the check of the
index to the call nothing is awaited, so taking an item is indivisible, whatever the calls do.

The runners are alike: the state has how many have not started, the calls they await, and the calls that
have settled without their runner having gone on.
-/
namespace StellarEduPay
open Runs

/-! ## The runners -/

/-- How a call of the worker ends, and the entry it leaves. -/
inductive CallOutcome (β ε : Type)
  | fulfilled (value : β)
  | rejected (reason : ε)

/-- Beside what the function holds, the calls of the worker so far, and how calls have settled. -/
structure ConcurrentRun (α β ε : Type) where
  next : Nat
  results : List (Option (CallOutcome β ε))
  starting : Nat
  pending : List Nat
  settled : List (Nat × CallOutcome β ε)
  done : Nat
  calls : List (α × Nat)
  outcomes : List (Nat × CallOutcome β ε)

inductive RunnerAction (β ε : Type)
  /-- A runner begins. -/
  | start
  /-- The call on an item settles. -/
  | settle (index : Nat) (outcome : CallOutcome β ε)
  /-- The runner that awaited the call goes on. -/
  | resume (index : Nat)

section
variable {α β ε : Type}

/-- `results` is an array of holes, and there is a runner for each item, up to the limit. -/
def ConcurrentRun.begin (items : List α) (limit : Nat) : ConcurrentRun α β ε where
  next := 0
  results := List.replicate items.length none
  starting := min limit items.length
  pending := []
  settled := []
  done := 0
  calls := []
  outcomes := []

/-- The loop of a runner up to where it awaits, or its end. -/
def ConcurrentRun.advance (items : List α) (s : ConcurrentRun α β ε) : ConcurrentRun α β ε :=
  if h : s.next < items.length then
    { s with
      next := s.next + 1
      pending := s.next :: s.pending
      calls := s.calls ++ [(items[s.next], s.next)] }
  else { s with done := s.done + 1 }

def concurrencyStep (items : List α) (s : ConcurrentRun α β ε) :
    RunnerAction β ε → Option (ConcurrentRun α β ε)
  | .start =>
    match s.starting with
    | 0 => none
    | k + 1 => some (({ s with starting := k } : ConcurrentRun α β ε).advance items)
  | .settle index outcome =>
    if index ∈ s.pending then
      some
        { s with
          pending := s.pending.erase index
          settled := (index, outcome) :: s.settled
          outcomes := s.outcomes ++ [(index, outcome)] }
    else none
  | .resume index =>
    match s.settled.find? (·.1 == index) with
    | none => none
    | some (_, outcome) =>
      -- the entry is the same from the `try` and from the `catch`
      some (({ s with
        settled := s.settled.eraseP (·.1 == index)
        results := s.results.set index (some outcome) } : ConcurrentRun α β ε).advance items)

/-- What `runWithConcurrency` returns, once every runner has ended; a runner never throws. -/
def ConcurrentRun.returned (items : List α) (limit : Nat) (s : ConcurrentRun α β ε) :
    Option (List (Option (CallOutcome β ε))) :=
  if s.done = min limit items.length then some s.results else none

/-! ## What the runners keep -/

/-- The items whose calls have a runner that awaits them or is to go on. -/
def ConcurrentRun.held (s : ConcurrentRun α β ε) : List Nat := s.pending ++ s.settled.map Prod.fst

/-- Each item is called once and in order; its call is with a runner, or its entry is written. `going`
runners are between two awaits. -/
structure RunnersKept (items : List α) (limit going : Nat) (s : ConcurrentRun α β ε) : Prop where
  next_le : s.next ≤ items.length
  calls : s.calls = items.zipIdx.take s.next
  runners :
    s.starting + s.pending.length + s.settled.length + s.done + going = min limit items.length
  ended : 0 < s.done → s.next = items.length
  length_results : s.results.length = items.length
  length_outcomes : s.outcomes.length + s.pending.length = s.next
  nodup : s.held.Nodup
  held_lt : ∀ i ∈ s.held, i < s.next
  written : ∀ i < s.next, i ∉ s.held → ∃ outcome, s.results[i]? = some (some outcome)
  settled_outcomes : ∀ entry ∈ s.settled, entry ∈ s.outcomes
  results_outcomes : ∀ i outcome, s.results[i]? = some (some outcome) → (i, outcome) ∈ s.outcomes
  outcomes_keys : (s.outcomes.map Prod.fst).Nodup
  outcomes_lt : ∀ entry ∈ s.outcomes, entry.1 < s.next ∧ entry.1 ∉ s.pending

namespace RunnersKept
variable {items : List α} {limit going : Nat} {s t : ConcurrentRun α β ε}

theorem begin (items : List α) (limit : Nat) :
    RunnersKept items limit 0 (ConcurrentRun.begin items limit : ConcurrentRun α β ε) := by
  refine
    { next_le := Nat.zero_le _
      calls := rfl
      runners := rfl
      ended := fun h => absurd h (Nat.lt_irrefl 0)
      length_results := List.length_replicate
      length_outcomes := rfl
      nodup := List.nodup_nil
      held_lt := fun i hi => absurd hi List.not_mem_nil
      written := fun i hi => absurd hi (Nat.not_lt_zero i)
      settled_outcomes := fun entry hentry => absurd hentry List.not_mem_nil
      results_outcomes := fun i outcome h => ?_
      outcomes_keys := List.nodup_nil
      outcomes_lt := fun entry hentry => absurd hentry List.not_mem_nil }
  simp [ConcurrentRun.begin, List.getElem?_replicate] at h

/-- A runner that goes on takes the next item, or ends where there is none. -/
theorem advance (h : RunnersKept items limit 1 s) : RunnersKept items limit 0 (s.advance items) := by
  have hrunners := h.runners
  unfold ConcurrentRun.advance
  split
  · rename_i hnext
    have hnew : s.next ∉ s.held := fun hmem => absurd (h.held_lt _ hmem) (Nat.lt_irrefl _)
    refine { h with
      next_le := hnext
      calls := ?_
      runners := ?_
      ended := fun hdone => absurd (h.ended hdone) (Nat.ne_of_lt hnext)
      length_outcomes := ?_
      nodup := List.nodup_cons.mpr ⟨hnew, h.nodup⟩
      held_lt := ?_
      written := ?_
      outcomes_lt := ?_ }
    · have hget : items.zipIdx[s.next]? = some (items[s.next], s.next) := by
        simp [List.getElem?_zipIdx, List.getElem?_eq_getElem hnext]
      simp only [h.calls, List.take_add_one, hget, Option.toList_some]
    · simp only [List.length_cons]
      omega
    · have houtcomes := h.length_outcomes
      simp only [List.length_cons]
      omega
    · intro i hi
      rcases List.mem_cons.mp hi with rfl | hi
      · exact Nat.lt_succ_self _
      · exact Nat.lt_succ_of_lt (h.held_lt i hi)
    · intro i hi hfree
      simp only [ConcurrentRun.held, List.cons_append, List.mem_cons, not_or] at hfree
      have hi' : i < s.next + 1 := hi
      exact h.written i (by omega) hfree.2
    · intro entry hentry
      obtain ⟨hlt, hpending⟩ := h.outcomes_lt entry hentry
      refine ⟨Nat.lt_succ_of_lt hlt, fun hmem => ?_⟩
      rcases List.mem_cons.mp hmem with heq | hmem
      · omega
      · exact hpending hmem
  · rename_i hnext
    refine { h with
      runners := ?_
      ended := fun _ => Nat.le_antisymm h.next_le (Nat.le_of_not_lt hnext) }
    simp only
    omega

theorem start (h : RunnersKept items limit 0 s) {k : Nat} (hstarting : s.starting = k + 1) :
    RunnersKept items limit 1 { s with starting := k } := by
  have hrunners := h.runners
  refine { h with runners := ?_ }
  simp only
  omega

theorem settle (h : RunnersKept items limit going s) {index : Nat} (hindex : index ∈ s.pending)
    (outcome : CallOutcome β ε) :
    RunnersKept items limit going
      { s with
        pending := s.pending.erase index
        settled := (index, outcome) :: s.settled
        outcomes := s.outcomes ++ [(index, outcome)] } := by
  have hrunners := h.runners
  have hpositive : 0 < s.pending.length := List.length_pos_of_mem hindex
  have hlength : (s.pending.erase index).length = s.pending.length - 1 :=
    List.length_erase_of_mem hindex
  -- the call is with a runner as before
  have hperm : (s.pending.erase index ++ (index, outcome).1 :: s.settled.map Prod.fst).Perm s.held :=
    (List.perm_middle.trans ((List.perm_cons_erase hindex).symm.append_right _))
  refine { h with
    runners := ?_
    length_outcomes := ?_
    nodup := hperm.nodup_iff.mpr h.nodup
    held_lt := fun i hi => h.held_lt i (hperm.mem_iff.mp hi)
    written := fun i hi hfree => h.written i hi fun hmem => hfree (hperm.mem_iff.mpr hmem)
    settled_outcomes := ?_
    results_outcomes := fun i o ho => List.mem_append_left _ (h.results_outcomes i o ho)
    outcomes_keys := ?_
    outcomes_lt := ?_ }
  · simp only [hlength, List.length_cons]
    omega
  · have houtcomes := h.length_outcomes
    simp only [hlength, List.length_append, List.length_singleton]
    omega
  · intro entry hentry
    rcases List.mem_cons.mp hentry with rfl | hentry
    · exact List.mem_append_right _ List.mem_cons_self
    · exact List.mem_append_left _ (h.settled_outcomes entry hentry)
  · rw [List.map_append, List.map_singleton, List.nodup_append_comm]
    refine List.nodup_cons.mpr ⟨fun hmem => ?_, h.outcomes_keys⟩
    obtain ⟨entry, hentry, rfl⟩ := List.mem_map.mp hmem
    exact (h.outcomes_lt entry hentry).2 hindex
  · intro entry hentry
    rcases List.mem_append.mp hentry with hentry | hentry
    · obtain ⟨hlt, hpending⟩ := h.outcomes_lt entry hentry
      exact ⟨hlt, fun hmem => hpending (List.mem_of_mem_erase hmem)⟩
    · obtain rfl := List.mem_singleton.mp hentry
      have hnodup : s.pending.Nodup := (List.nodup_append.mp h.nodup).1
      exact ⟨h.held_lt index (List.mem_append_left _ hindex), hnodup.not_mem_erase⟩

/-- The entry that a runner is to go on with is the only one of its item. -/
theorem perm_settled (h : RunnersKept items limit going s) {index : Nat}
    {entry : Nat × CallOutcome β ε} (hfind : s.settled.find? (·.1 == index) = some entry) :
    entry.1 = index ∧ s.settled.Perm (entry :: s.settled.eraseP (·.1 == index)) := by
  have hkey : entry.1 = index := by simpa using List.find?_some hfind
  have hmem : entry ∈ s.settled := List.mem_of_find?_eq_some hfind
  refine ⟨hkey, ?_⟩
  obtain ⟨first, front, back, -, hfirst, hsplit, herase⟩ :=
    List.exists_of_eraseP (p := (·.1 == index)) hmem (by simpa using hkey)
  have hsame : first = entry := by
    have hkeys : (s.settled.map Prod.fst).Nodup := (List.nodup_append.mp h.nodup).2.1
    refine List.inj_on_of_nodup_map hkeys (by simp [hsplit]) hmem ?_
    rw [hkey]
    simpa using hfirst
  rw [herase, hsplit, hsame]
  exact List.perm_middle

theorem resume (h : RunnersKept items limit 0 s) {index : Nat} {entry : Nat × CallOutcome β ε}
    (hfind : s.settled.find? (·.1 == index) = some entry) :
    RunnersKept items limit 1
      { s with
        settled := s.settled.eraseP (·.1 == index)
        results := s.results.set index (some entry.2) } := by
  obtain ⟨rfl, hperm⟩ := h.perm_settled hfind
  have hmem : entry ∈ s.settled := List.mem_of_find?_eq_some hfind
  have hheld : s.held.Perm
      (entry.1 :: (s.pending ++ (s.settled.eraseP (·.1 == entry.1)).map Prod.fst)) :=
    ((hperm.map Prod.fst).append_left s.pending).trans List.perm_middle
  have hlt : entry.1 < s.results.length := by
    rw [h.length_results]
    exact Nat.lt_of_lt_of_le (h.held_lt _ (hheld.mem_iff.mpr List.mem_cons_self)) h.next_le
  have hrunners := h.runners
  refine { h with
    runners := ?_
    length_results := by simpa using h.length_results
    nodup := (List.nodup_cons.mp (hheld.nodup_iff.mp h.nodup)).2
    held_lt := fun i hi => h.held_lt i (hheld.mem_iff.mpr (List.mem_cons_of_mem _ hi))
    written := ?_
    settled_outcomes := fun e he => h.settled_outcomes e (List.mem_of_mem_eraseP he)
    results_outcomes := ?_ }
  · have hlength := hperm.length_eq
    rw [List.length_cons] at hlength
    simp only
    omega
  · intro i hi hfree
    by_cases heq : entry.1 = i
    · subst heq
      exact ⟨entry.2, by simp [hlt]⟩
    · obtain ⟨outcome, houtcome⟩ := h.written i hi fun hmem => by
        rcases List.mem_cons.mp (hheld.mem_iff.mp hmem) with rfl | hmem
        · exact heq rfl
        · exact hfree hmem
      exact ⟨outcome, by rw [List.getElem?_set_ne heq, houtcome]⟩
  · intro i outcome hi
    by_cases heq : entry.1 = i
    · subst heq
      rw [List.getElem?_set_self hlt, Option.some_inj, Option.some_inj] at hi
      rw [← hi]
      exact h.settled_outcomes entry hmem
    · rw [List.getElem?_set_ne heq] at hi
      exact h.results_outcomes i outcome hi

/-- Every step keeps it. -/
theorem step (h : RunnersKept items limit 0 s) {a : RunnerAction β ε}
    (hstep : concurrencyStep items s a = some t) : RunnersKept items limit 0 t := by
  cases a with
  | start =>
    simp only [concurrencyStep] at hstep
    split at hstep
    · cases hstep
    · rename_i k hstarting
      obtain rfl := Option.some.inj hstep
      exact (h.start hstarting).advance
  | settle index outcome =>
    simp only [concurrencyStep] at hstep
    split at hstep
    · rename_i hindex
      obtain rfl := Option.some.inj hstep
      exact h.settle hindex outcome
    · cases hstep
  | resume index =>
    simp only [concurrencyStep] at hstep
    split at hstep
    · cases hstep
    · rename_i hfind
      obtain rfl := Option.some.inj hstep
      exact (h.resume hfind).advance

theorem of_reach (hrun : Reach (concurrencyStep items) Free (ConcurrentRun.begin items limit) s) :
    RunnersKept items limit 0 s :=
  hrun.invariant (begin items limit) fun h _ hstep => h.step hstep

/-! ## The end -/

/-- Where every runner has ended, none holds a call and no item is left. -/
theorem of_done (h : RunnersKept items limit 0 s) (hlimit : 1 ≤ limit)
    (hdone : s.done = min limit items.length) : s.next = items.length ∧ s.held = [] := by
  have hrunners := h.runners
  have hpending : s.pending = [] := List.eq_nil_of_length_eq_zero (by omega)
  have hsettled : s.settled = [] := List.eq_nil_of_length_eq_zero (by omega)
  refine ⟨?_, by rw [ConcurrentRun.held, hpending, hsettled]; rfl⟩
  by_cases hempty : items.length = 0
  · exact Nat.le_antisymm h.next_le (by omega)
  · exact h.ended (by omega)

/-- Where every call has settled and no runner can start or go on, every runner has ended. -/
theorem done_of_settled (h : RunnersKept items limit 0 s) (hcalls : s.outcomes.length = s.calls.length)
    (hstart : concurrencyStep items s .start = none)
    (hresume : ∀ index, concurrencyStep items s (.resume index) = none) :
    s.done = min limit items.length := by
  have hrunners := h.runners
  have hstarting : s.starting = 0 := by
    by_contra hne
    obtain ⟨k, hk⟩ := Nat.exists_eq_succ_of_ne_zero hne
    simp [concurrencyStep, hk] at hstart
  have hpending : s.pending = [] := by
    have houtcomes := h.length_outcomes
    rw [hcalls, h.calls, List.length_take, List.length_zipIdx] at houtcomes
    have hnext := h.next_le
    exact List.eq_nil_of_length_eq_zero (by omega)
  have hsettled : s.settled = [] := by
    by_contra hne
    obtain ⟨entry, rest, hcons⟩ := List.exists_cons_of_ne_nil hne
    have hgone := hresume entry.1
    simp [concurrencyStep, hcons] at hgone
  rw [hstarting, hpending, hsettled] at hrunners
  simpa using hrunners

end RunnersKept

/-- Two steps for each item that is left, one for each call that has settled, and one for each runner
that has not started. -/
def ConcurrentRun.stepsLeft (items : List α) (s : ConcurrentRun α β ε) : Nat :=
  s.starting + 2 * (items.length - s.next) + 2 * s.pending.length + s.settled.length

theorem stepsLeft_advance (items : List α) (s : ConcurrentRun α β ε) :
    (s.advance items).stepsLeft items ≤ s.stepsLeft items := by
  unfold ConcurrentRun.advance
  split
  · simp only [ConcurrentRun.stepsLeft, List.length_cons]
    omega
  · exact Nat.le_refl _

theorem stepsLeft_step {items : List α} {s t : ConcurrentRun α β ε} {a : RunnerAction β ε}
    (hstep : concurrencyStep items s a = some t) : t.stepsLeft items < s.stepsLeft items := by
  cases a with
  | start =>
    simp only [concurrencyStep] at hstep
    split at hstep
    · cases hstep
    · rename_i k hstarting
      obtain rfl := Option.some.inj hstep
      refine Nat.lt_of_le_of_lt (stepsLeft_advance items _) ?_
      simp only [ConcurrentRun.stepsLeft]
      omega
  | settle index outcome =>
    simp only [concurrencyStep] at hstep
    split at hstep
    · rename_i hindex
      obtain rfl := Option.some.inj hstep
      have hpositive : 0 < s.pending.length := List.length_pos_of_mem hindex
      simp only [ConcurrentRun.stepsLeft, List.length_erase_of_mem hindex, List.length_cons]
      omega
    · cases hstep
  | resume index =>
    simp only [concurrencyStep] at hstep
    split at hstep
    · cases hstep
    · rename_i entry outcome hfind
      obtain rfl := Option.some.inj hstep
      have hmem := List.mem_of_find?_eq_some hfind
      have hpositive : 0 < s.settled.length := List.length_pos_of_mem hmem
      refine Nat.lt_of_le_of_lt (stepsLeft_advance items _) ?_
      simp only [ConcurrentRun.stepsLeft,
        List.length_eraseP_of_mem hmem (List.find?_some hfind)]
      omega

/-! ## The runner is bounded and returns -/

/-- **Bounded concurrency.** Along every run the worker is called on the items in order, once each, and
no more than `limit` of its calls have not settled. A run ends, and where every call has settled and no
runner has anything to do the function has returned, of each item the outcome of its call. -/
theorem runWithConcurrency_bounded (items : List α) (limit : Nat) (hlimit : 1 ≤ limit)
    (actions : List (RunnerAction β ε)) (s : ConcurrentRun α β ε)
    (hrun : exec (concurrencyStep items) (ConcurrentRun.begin items limit) actions = some s) :
    s.calls = items.zipIdx.take s.calls.length ∧
      s.calls.length ≤ s.outcomes.length + limit ∧
      actions.length ≤ 2 * items.length + min limit items.length ∧
      (s.outcomes.length = s.calls.length → concurrencyStep items s .start = none →
        (∀ index, concurrencyStep items s (.resume index) = none) →
          (s.returned items limit).isSome = true) ∧
      ∀ results, s.returned items limit = some results →
        s.calls = items.zipIdx ∧ results.length = items.length ∧
        ∀ i < items.length, ∃ outcome, results[i]? = some (some outcome) ∧
          ∀ o, (i, o) ∈ s.outcomes ↔ o = outcome := by
  have h := RunnersKept.of_reach (reach_of_exec hrun)
  have hlength : s.calls.length = s.next := by
    rw [h.calls, List.length_take, List.length_zipIdx, Nat.min_eq_left h.next_le]
  refine ⟨by rw [hlength]; exact h.calls, ?_, ?_, fun hcalls hstart hresume => ?_,
    fun results hreturned => ?_⟩
  · have hrunners := h.runners
    have houtcomes := h.length_outcomes
    omega
  · have hsteps := exec_length_le (μ := ConcurrentRun.stepsLeft items) stepsLeft_step hrun
    simp only [ConcurrentRun.stepsLeft, ConcurrentRun.begin, List.length_nil] at hsteps
    omega
  · rw [ConcurrentRun.returned, if_pos (h.done_of_settled hcalls hstart hresume)]
    rfl
  · obtain ⟨hdone, hresults⟩ := Option.ite_none_right_eq_some.mp hreturned
    obtain rfl := Option.some.inj hresults
    obtain ⟨hnext, hheld⟩ := h.of_done hlimit hdone
    refine ⟨?_, h.length_results, fun i hi => ?_⟩
    · rw [h.calls, hnext, ← List.length_zipIdx (l := items) (i := 0), List.take_length]
    · obtain ⟨outcome, houtcome⟩ := h.written i (hnext ▸ hi) (by simp [hheld])
      have hlogged := h.results_outcomes i outcome houtcome
      refine ⟨outcome, houtcome, fun o => ⟨fun ho => ?_, fun ho => ho ▸ hlogged⟩⟩
      -- an item has one outcome
      exact congrArg Prod.snd (List.inj_on_of_nodup_map h.outcomes_keys ho hlogged rfl)

end

/-- Two runners, three items: the second call settles first, and its runner takes the third item. -/
def twoRunners : List (RunnerAction Nat String) :=
  [.start, .start, .settle 1 (.fulfilled 20), .resume 1, .settle 0 (.rejected "down"),
    .settle 2 (.fulfilled 30), .resume 2, .resume 0]

theorem runWithConcurrency_bounded_two :
    ∃ s, exec (concurrencyStep ["a", "b", "c"]) (ConcurrentRun.begin ["a", "b", "c"] 2) twoRunners =
        some s ∧
      s.calls = [("a", 0), ("b", 1), ("c", 2)] ∧
      s.returned ["a", "b", "c"] 2 =
        some [some (.rejected "down"), some (.fulfilled 20), some (.fulfilled 30)] := by
  have hrun : exec (concurrencyStep ["a", "b", "c"]) (ConcurrentRun.begin ["a", "b", "c"] 2)
      twoRunners = some
        { next := 3
          results := [some (.rejected "down"), some (.fulfilled 20), some (.fulfilled 30)]
          starting := 0
          pending := []
          settled := []
          done := 2
          calls := [("a", 0), ("b", 1), ("c", 2)]
          outcomes := [(1, .fulfilled 20), (0, .rejected "down"), (2, .fulfilled 30)] } := rfl
  obtain ⟨-, -, -, -, hreturns⟩ := runWithConcurrency_bounded _ 2 (by decide) twoRunners _ hrun
  exact ⟨_, hrun, (hreturns _ rfl).1, rfl⟩

end StellarEduPay

import Mathlib.Data.List.Sort
import StellarEduPay.Runs

/-! # The request queue (`middleware/concurrentRequestHandler.js`)

Operations wait by priority, and at most `maxConcurrent` of them run.  `processQueue` starts what it
can when a request comes and when an operation has ended; as an operation may enqueue others before it
returns its promise, several of these loops may be under way.

Priorities are compared only; some may be incomparable, as `NaN` is.
-/
namespace StellarEduPay
open Runs

/-! ## The queue -/

structure QueueOptions where
  maxSize : Option Nat := none
  maxConcurrent : Option Nat := none

structure QueueConfig where
  maxSize : Nat
  maxConcurrent : Nat

/-- A number or, when it is missing or zero, its default. -/
def numberOr (n : Option Nat) (fallback : Nat) : Nat :=
  match n with
  | none | some 0 => fallback
  | some (n + 1) => n + 1

def QueueOptions.config (options : QueueOptions) : QueueConfig where
  maxSize := numberOr options.maxSize 1000
  maxConcurrent := numberOr options.maxConcurrent 50

/-- The requests are numbered as they are enqueued. -/
structure QueueItem (π : Type) where
  number : Nat
  priority : π
  deriving DecidableEq

inductive QueueError
  | full | timedOut
  deriving DecidableEq

def QueueError.message : QueueError → String
  | full => "Request queue is full"
  | timedOut => "Request timeout"

/-- The queue with the `processQueue` loops under way, the operations that run, those whose promise
has settled but whose slot is not free yet, and what has happened: which timers have fired, which
operations were started, and how the promises of the requests were settled. -/
structure QueueRun (π ω : Type) where
  queue : List (QueueItem π)
  processing : Nat
  loops : Nat
  running : List Nat
  settling : List Nat
  enqueued : Nat
  fired : List Nat
  started : List (QueueItem π)
  settlements : List (Nat × Except QueueError ω)
  deriving DecidableEq

def QueueRun.empty {π ω : Type} : QueueRun π ω := ⟨[], 0, 0, [], [], 0, [], [], []⟩

inductive RequestQueueAction (π : Type)
  | enqueue (priority : π)
  | loop
  | settle (number : Nat)
  | finish (number : Nat)
  | timeout (number : Nat)

section
variable {π ω : Type} [LT π] [DecidableLT π]

/-- Higher priorities first. -/
def insertByPriority (item : QueueItem π) (queue : List (QueueItem π)) : List (QueueItem π) :=
  match queue.findIdx? fun q => decide (q.priority < item.priority) with
  | none => queue ++ [item]
  | some i => queue.insertIdx i item

namespace QueueRun
variable (s : QueueRun π ω)

def accept (item : QueueItem π) : QueueRun π ω :=
  { s with
    queue := insertByPriority item s.queue
    loops := s.loops + 1
    enqueued := s.enqueued + 1 }

def reject (n : Nat) (e : QueueError) : QueueRun π ω :=
  { s with settlements := s.settlements ++ [(n, .error e)] }

def startNext (item : QueueItem π) (rest : List (QueueItem π)) : QueueRun π ω :=
  { s with
    queue := rest
    processing := s.processing + 1
    running := s.running ++ [item.number]
    started := s.started ++ [item] }

def settle (n : Nat) (outcome : ω) : QueueRun π ω :=
  { s with
    running := s.running.erase n
    settling := s.settling ++ [n]
    settlements := s.settlements ++ [(n, .ok outcome)] }

def finish (n : Nat) : QueueRun π ω :=
  { s with
    settling := s.settling.erase n
    processing := s.processing - 1
    loops := s.loops + 1 }

def fire (n : Nat) : QueueRun π ω := { s with fired := n :: s.fired }

def remove (n : Nat) : QueueRun π ω := { s with queue := s.queue.eraseP (·.number == n) }

end QueueRun

/-- One step of `enqueue`, of a `processQueue` loop, of the callbacks of an operation, or of a timer.
The operation of request `n` ends with `outcome n`. -/
def requestQueueStep (cfg : QueueConfig) (outcome : Nat → ω) (s : QueueRun π ω) :
    RequestQueueAction π → Option (QueueRun π ω)
  | .enqueue priority =>
    if cfg.maxSize ≤ s.queue.length then
      some { s.reject s.enqueued .full with enqueued := s.enqueued + 1 }
    else some (s.accept ⟨s.enqueued, priority⟩)
  | .loop =>
    match s.loops, s.queue with
    | 0, _ => none
    | loops + 1, [] => some { s with loops := loops }
    | loops + 1, item :: rest =>
      if s.processing < cfg.maxConcurrent then some (s.startNext item rest)
      else some { s with loops := loops }
  | .settle n => if n ∈ s.running then some (s.settle n (outcome n)) else none
  | .finish n => if n ∈ s.settling then some (s.finish n) else none
  | .timeout n =>
    if n < s.enqueued then
      if s.queue.any (·.number == n) then some (((s.remove n).reject n .timedOut).fire n)
      else some (s.fire n)
    else none

end

/-- What the queue does of its own accord, with no call, operation or timer to wait for. -/
def RequestQueueAction.own {π : Type} : RequestQueueAction π → Bool
  | .loop | .finish _ => true
  | _ => false

/-- The queue has nothing to do of its own accord. -/
def QueueRun.Idle {π ω : Type} (s : QueueRun π ω) : Prop := s.loops = 0 ∧ s.settling = []

/-- How much it may still do. -/
def QueueRun.work {π ω : Type} (s : QueueRun π ω) : Nat :=
  2 * s.settling.length + s.loops + s.queue.length

/-! ## The order of the queue -/

section
variable {π : Type} [Preorder π] [DecidableLT π]

/-- The request that is to start first: no lower priority, and enqueued first if the priority is the
same. -/
def StartsBefore (a b : QueueItem π) : Prop :=
  ¬a.priority < b.priority ∧ (a.priority = b.priority → a.number < b.number)

theorem insertByPriority_eq (item : QueueItem π) (queue : List (QueueItem π)) :
    insertByPriority item queue =
      queue.orderedInsert (fun a b => b.priority < a.priority) item := by
  induction queue with
  | nil => rfl
  | cons q rest ih =>
    rw [List.orderedInsert_cons]
    unfold insertByPriority at ih ⊢
    rw [List.findIdx?_cons]
    by_cases hlower : q.priority < item.priority
    · simp [hlower]
    · rw [if_neg hlower, if_neg (by simpa using hlower), ← ih]
      cases rest.findIdx? (fun q => decide (q.priority < item.priority)) <;> rfl

theorem insertByPriority_perm (item : QueueItem π) (queue : List (QueueItem π)) :
    (insertByPriority item queue).Perm (item :: queue) := by
  rw [insertByPriority_eq]
  exact List.perm_orderedInsert _ item queue

/-- A request that is enqueued keeps the order: whatever it is put before has a lower priority, or
comes after a request with a lower one. -/
theorem startsBefore_insertByPriority {item : QueueItem π} : ∀ {queue : List (QueueItem π)},
    queue.Pairwise StartsBefore → (∀ q ∈ queue, q.number < item.number) →
      (insertByPriority item queue).Pairwise StartsBefore
  | [], _, _ => List.pairwise_singleton _ _
  | q :: rest, horder, hnew => by
    obtain ⟨hq, hrest⟩ := List.pairwise_cons.mp horder
    rw [insertByPriority_eq, List.orderedInsert_cons]
    split_ifs with hlower
    · refine List.pairwise_cons.mpr ⟨fun other hother => ?_, horder⟩
      rcases List.mem_cons.mp hother with rfl | hother
      · exact ⟨hlower.asymm, fun heq => absurd hlower (heq ▸ lt_irrefl _)⟩
      · have hle := (hq other hother).1
        exact ⟨fun hlt => hle (hlower.trans hlt), fun heq => absurd (heq ▸ hlower) hle⟩
    · rw [← insertByPriority_eq]
      refine List.pairwise_cons.mpr ⟨fun other hother => ?_,
        startsBefore_insertByPriority hrest fun r hr => hnew r (List.mem_cons_of_mem q hr)⟩
      rcases List.mem_cons.mp ((insertByPriority_perm item rest).mem_iff.mp hother) with rfl | hother
      · exact ⟨hlower, fun _ => hnew q List.mem_cons_self⟩
      · exact hq other hother

end

/-! ## What becomes of a request -/

/-- How often a request is in the queue, was started, runs and frees its slot, and how its promise
was settled. -/
@[ext] structure RequestView (ω : Type) where
  waiting : Nat
  started : Nat
  running : Nat
  settling : Nat
  settlements : List (Except QueueError ω)

inductive RequestFate
  | unseen | refused | waiting | timedOut | running | settling | settled
  deriving DecidableEq

/-- Each is started at most once, and settled once: with the outcome of its operation if it was
started, and with an error if it was not. -/
def RequestFate.view {ω : Type} (outcome : ω) : RequestFate → RequestView ω
  | unseen => ⟨0, 0, 0, 0, []⟩
  | refused => ⟨0, 0, 0, 0, [.error .full]⟩
  | waiting => ⟨1, 0, 0, 0, []⟩
  | timedOut => ⟨0, 0, 0, 0, [.error .timedOut]⟩
  | running => ⟨0, 1, 1, 0, []⟩
  | settling => ⟨0, 1, 0, 1, [.ok outcome]⟩
  | settled => ⟨0, 1, 0, 0, [.ok outcome]⟩

namespace QueueRun
variable {π ω : Type} (s : QueueRun π ω) (n m : Nat)

def view : RequestView ω where
  waiting := s.queue.countP (·.number == n)
  started := s.started.countP (·.number == n)
  running := s.running.count n
  settling := s.settling.count n
  settlements := (s.settlements.filter (·.1 == n)).map (·.2)

theorem view_accept [Preorder π] [DecidableLT π] (item : QueueItem π) :
    (s.accept item).view n = if item.number = n then
      { s.view n with waiting := (s.view n).waiting + 1 } else s.view n := by
  have hperm := (insertByPriority_perm item s.queue).countP_eq (·.number == n)
  split_ifs with hn <;> ext <;> simp [view, accept, hperm, hn]

theorem view_reject (e : QueueError) :
    (s.reject m e).view n = if m = n then
      { s.view n with settlements := (s.view n).settlements ++ [.error e] } else s.view n := by
  split_ifs with hn <;> ext <;> simp [view, reject, hn]

theorem view_startNext {item : QueueItem π} {rest : List (QueueItem π)} (h : s.queue = item :: rest) :
    (s.startNext item rest).view n = if item.number = n then
      { s.view n with
        waiting := (s.view n).waiting - 1
        started := (s.view n).started + 1
        running := (s.view n).running + 1 } else s.view n := by
  split_ifs with hn <;> ext <;> simp [view, startNext, h, hn, List.count_append]

theorem view_settle (outcome : ω) :
    (s.settle m outcome).view n = if m = n then
      { s.view n with
        running := (s.view n).running - 1
        settling := (s.view n).settling + 1
        settlements := (s.view n).settlements ++ [.ok outcome] } else s.view n := by
  split_ifs with hn <;> ext <;> simp [view, settle, hn, List.count_erase, List.count_append]

theorem view_finish :
    (s.finish m).view n = if m = n then
      { s.view n with settling := (s.view n).settling - 1 } else s.view n := by
  split_ifs with hn <;> ext <;> simp [view, finish, hn, List.count_erase]

theorem view_remove (h : s.queue.any (·.number == m) = true) :
    (s.remove m).view n = if m = n then
      { s.view n with waiting := (s.view n).waiting - 1 } else s.view n := by
  obtain ⟨item, hitem, hnumber⟩ := List.any_eq_true.mp h
  obtain ⟨first, before, after, -, hfirst, hqueue, hrest⟩ :=
    List.exists_of_eraseP (p := fun q => q.number == m) hitem hnumber
  have hm : first.number = m := by simpa using hfirst
  split_ifs with hn <;> ext <;> simp only [view, remove, hrest] <;> simp [hqueue, hm, hn]

/-- What can have become of a request that neither waits nor runs. -/
theorem fate_of_view {s : QueueRun π ω} {outcome : ω} {fate : RequestFate}
    (hview : s.view n = fate.view outcome) (hqueue : s.queue = []) (hrunning : s.running = [])
    (hsettling : s.settling = []) : fate ∈ [.unseen, .refused, .timedOut, .settled] := by
  have hnowhere : (s.view n).waiting = 0 ∧ (s.view n).running = 0 ∧ (s.view n).settling = 0 := by
    simp [view, hqueue, hrunning, hsettling]
  rw [hview] at hnowhere
  cases fate <;> simp_all [RequestFate.view]

end QueueRun

/-! ## What holds throughout -/

section
variable {π ω : Type} [Preorder π]

structure QueueKept (cfg : QueueConfig) (outcome : Nat → ω) (s : QueueRun π ω) : Prop where
  fate : ∀ n, ∃ fate : RequestFate,
    s.view n = fate.view (outcome n) ∧ (fate = .unseen ↔ s.enqueued ≤ n)
  fired : ∀ n ∈ s.fired, n < s.enqueued ∧ (s.view n).waiting = 0
  size : s.queue.length ≤ cfg.maxSize
  processing : s.processing = s.running.length + s.settling.length
  concurrent : s.processing ≤ cfg.maxConcurrent
  order : s.queue.Pairwise StartsBefore
  startedOrder : s.started.Pairwise fun a b => a.priority = b.priority → a.number < b.number
  startedFirst : ∀ a ∈ s.started, ∀ b ∈ s.queue, a.priority = b.priority → a.number < b.number
  busy : s.loops = 0 → s.queue = [] ∨ cfg.maxConcurrent ≤ s.processing

variable {cfg : QueueConfig} {outcome : Nat → ω} {s t : QueueRun π ω}

namespace QueueKept

theorem empty (cfg : QueueConfig) (outcome : Nat → ω) :
    QueueKept (π := π) cfg outcome .empty where
  fate n := ⟨.unseen, rfl, iff_of_true rfl (Nat.zero_le n)⟩
  fired := nofun
  size := Nat.zero_le _
  processing := rfl
  concurrent := Nat.zero_le _
  order := .nil
  startedOrder := .nil
  startedFirst := nofun
  busy _ := .inl rfl

theorem number_lt_of_queue (h : QueueKept cfg outcome s) {item : QueueItem π}
    (hitem : item ∈ s.queue) : item.number < s.enqueued := by
  obtain ⟨fate, hview, hunseen⟩ := h.fate item.number
  by_contra hnew
  rw [hunseen.mpr (not_lt.mp hnew)] at hview
  have hnone : s.queue.countP (·.number == item.number) = 0 := congrArg RequestView.waiting hview
  exact List.countP_eq_zero.mp hnone item hitem (beq_self_eq_true _)

theorem number_lt_of_started (h : QueueKept cfg outcome s) {item : QueueItem π}
    (hitem : item ∈ s.started) : item.number < s.enqueued := by
  obtain ⟨fate, hview, hunseen⟩ := h.fate item.number
  by_contra hnew
  rw [hunseen.mpr (not_lt.mp hnew)] at hview
  have hnone : s.started.countP (·.number == item.number) = 0 := congrArg RequestView.started hview
  exact List.countP_eq_zero.mp hnone item hitem (beq_self_eq_true _)

/-- A step moves one request on. -/
theorem fate_step (h : QueueKept cfg outcome s) (m : Nat) (fate : RequestFate)
    (hfate : fate ≠ .unseen) (hview : t.view m = fate.view (outcome m)) (hm : m < t.enqueued)
    (hothers : ∀ n ≠ m, t.view n = s.view n ∧ (s.enqueued ≤ n ↔ t.enqueued ≤ n)) (n : Nat) :
    ∃ fate : RequestFate, t.view n = fate.view (outcome n) ∧ (fate = .unseen ↔ t.enqueued ≤ n) := by
  by_cases hn : n = m
  · subst hn
    exact ⟨fate, hview, iff_of_false hfate (not_le.mpr hm)⟩
  · obtain ⟨hsame, henqueued⟩ := hothers n hn
    obtain ⟨old, hold, hunseen⟩ := h.fate n
    exact ⟨old, hsame.trans hold, hunseen.trans henqueued⟩

/-- A count that is zero in every view but one tells the fate. -/
theorem view_of_count (h : QueueKept cfg outcome s) {n : Nat} {fate : RequestFate}
    (count : RequestView ω → Nat)
    (honly : ∀ other : RequestFate, other = fate ∨ count (other.view (outcome n)) = 0)
    (hseen : fate ≠ .unseen) (hcount : 0 < count (s.view n)) :
    s.view n = fate.view (outcome n) ∧ n < s.enqueued := by
  obtain ⟨other, hview, hunseen⟩ := h.fate n
  rcases honly other with rfl | hzero
  · exact ⟨hview, not_le.mp (mt hunseen.mpr hseen)⟩
  · rw [hview, hzero] at hcount
    exact absurd hcount (lt_irrefl 0)

theorem view_of_waiting (h : QueueKept cfg outcome s) {n : Nat} (hwaiting : 0 < (s.view n).waiting) :
    s.view n = RequestFate.waiting.view (outcome n) ∧ n < s.enqueued :=
  h.view_of_count RequestView.waiting (fun other => by cases other <;> simp [RequestFate.view])
    nofun hwaiting

theorem view_of_running (h : QueueKept cfg outcome s) {n : Nat} (hrunning : 0 < (s.view n).running) :
    s.view n = RequestFate.running.view (outcome n) ∧ n < s.enqueued :=
  h.view_of_count RequestView.running (fun other => by cases other <;> simp [RequestFate.view])
    nofun hrunning

theorem view_of_settling (h : QueueKept cfg outcome s) {n : Nat}
    (hsettling : 0 < (s.view n).settling) :
    s.view n = RequestFate.settling.view (outcome n) ∧ n < s.enqueued :=
  h.view_of_count RequestView.settling (fun other => by cases other <;> simp [RequestFate.view])
    nofun hsettling

theorem view_of_new (h : QueueKept cfg outcome s) :
    s.view s.enqueued = RequestFate.unseen.view (outcome s.enqueued) := by
  obtain ⟨fate, hview, hunseen⟩ := h.fate s.enqueued
  rwa [hunseen.mpr le_rfl] at hview

theorem reject (h : QueueKept cfg outcome s) :
    QueueKept cfg outcome
      { s.reject s.enqueued .full with enqueued := s.enqueued + 1 } := by
  have hview : ∀ n, QueueRun.view { s.reject s.enqueued .full with enqueued := s.enqueued + 1 } n =
      (s.reject s.enqueued .full).view n := fun _ => rfl
  refine { h with
    fate := h.fate_step s.enqueued .refused nofun ?_ (Nat.lt_succ_self _) ?_
    fired := ?_ }
  · rw [hview, QueueRun.view_reject, if_pos rfl, h.view_of_new]
    rfl
  · intro n hn
    rw [hview, QueueRun.view_reject, if_neg (Ne.symm hn)]
    exact ⟨rfl, by dsimp only; omega⟩
  · intro n hn
    obtain ⟨hlt, hwaiting⟩ := h.fired n hn
    exact ⟨hlt.trans (Nat.lt_succ_self _), hwaiting⟩

variable [DecidableLT π]

theorem accept (h : QueueKept cfg outcome s) (hsize : s.queue.length < cfg.maxSize) (priority : π) :
    QueueKept cfg outcome (s.accept ⟨s.enqueued, priority⟩) := by
  have hperm := insertByPriority_perm ⟨s.enqueued, priority⟩ s.queue
  refine { h with
    fate := h.fate_step s.enqueued .waiting nofun ?_ (Nat.lt_succ_self _) ?_
    fired := ?_
    size := ?_
    order := startsBefore_insertByPriority h.order fun q hq => h.number_lt_of_queue hq
    startedFirst := ?_
    busy := fun hloops => absurd hloops (Nat.succ_ne_zero _) }
  · rw [QueueRun.view_accept, if_pos rfl, h.view_of_new]
    rfl
  · intro n hn
    rw [QueueRun.view_accept, if_neg (Ne.symm hn)]
    exact ⟨rfl, by dsimp only [QueueRun.accept]; omega⟩
  · intro n hn
    obtain ⟨hlt, hwaiting⟩ := h.fired n hn
    rw [QueueRun.view_accept, if_neg hlt.ne']
    exact ⟨hlt.trans (Nat.lt_succ_self _), hwaiting⟩
  · exact hperm.length_eq.trans_le hsize
  · intro a ha b hb heq
    rcases List.mem_cons.mp (hperm.mem_iff.mp hb) with rfl | hb
    · exact h.number_lt_of_started ha
    · exact h.startedFirst a ha b hb heq

omit [DecidableLT π]

theorem startNext (h : QueueKept cfg outcome s) {item : QueueItem π} {rest : List (QueueItem π)}
    (hqueue : s.queue = item :: rest) (hroom : s.processing < cfg.maxConcurrent)
    (hloops : s.loops ≠ 0) : QueueKept cfg outcome (s.startNext item rest) := by
  have hitem : item ∈ s.queue := by rw [hqueue]; exact List.mem_cons_self
  have hwaits : 0 < (s.view item.number).waiting :=
    List.countP_pos_iff.mpr ⟨item, hitem, beq_self_eq_true _⟩
  obtain ⟨hview, hlt⟩ := h.view_of_waiting hwaits
  obtain ⟨hfirst, hrest⟩ := List.pairwise_cons.mp (hqueue ▸ h.order)
  have hsub : ∀ other ∈ rest, other ∈ s.queue := by
    intro other hother
    rw [hqueue]
    exact List.mem_cons_of_mem item hother
  have hconcurrent := h.processing
  refine {
    fate := h.fate_step item.number .running nofun ?_ hlt ?_
    fired := ?_
    size := ?_
    processing := ?_
    concurrent := hroom
    order := hrest
    startedOrder := ?_
    startedFirst := ?_
    busy := fun hnone => absurd hnone hloops }
  · rw [QueueRun.view_startNext s _ hqueue, if_pos rfl, hview]
    rfl
  · intro n hn
    rw [QueueRun.view_startNext s _ hqueue, if_neg (Ne.symm hn)]
    exact ⟨rfl, Iff.rfl⟩
  · intro n hn
    obtain ⟨hlt, hwaiting⟩ := h.fired n hn
    rw [QueueRun.view_startNext s _ hqueue]
    refine ⟨hlt, ?_⟩
    split_ifs with hn
    · exact Nat.sub_eq_zero_of_le (hwaiting.trans_le (Nat.zero_le 1))
    · exact hwaiting
  · have hsize := h.size
    rw [hqueue, List.length_cons] at hsize
    exact (Nat.le_succ _).trans hsize
  · simp only [QueueRun.startNext, List.length_append, List.length_singleton]
    omega
  · refine List.pairwise_append.mpr ⟨h.startedOrder, List.pairwise_singleton _ _, ?_⟩
    intro a ha b hb
    rw [List.mem_singleton.mp hb]
    -- the item that starts waited until now, so it comes after all that have started
    exact h.startedFirst a ha item hitem
  · intro a ha b hb
    rcases List.mem_append.mp ha with ha | ha
    · exact h.startedFirst a ha b (hsub b hb)
    · rw [List.mem_singleton.mp ha]
      exact (hfirst b hb).2

theorem settle (h : QueueKept cfg outcome s) {n : Nat} (hn : n ∈ s.running) :
    QueueKept cfg outcome (s.settle n (outcome n)) := by
  obtain ⟨hview, hlt⟩ := h.view_of_running (List.count_pos_iff.mpr hn)
  have hprocessing := h.processing
  refine { h with
    fate := h.fate_step n .settling nofun ?_ hlt ?_
    fired := ?_
    processing := ?_ }
  · rw [QueueRun.view_settle, if_pos rfl, hview]
    rfl
  · intro m hm
    rw [QueueRun.view_settle, if_neg (Ne.symm hm)]
    exact ⟨rfl, Iff.rfl⟩
  · intro m hm
    rw [QueueRun.view_settle]
    obtain ⟨hlt, hwaiting⟩ := h.fired m hm
    refine ⟨hlt, ?_⟩
    split_ifs <;> exact hwaiting
  · have hpos := List.length_pos_of_mem hn
    simp only [QueueRun.settle, List.length_append, List.length_singleton,
      List.length_erase_of_mem hn]
    omega

theorem finish (h : QueueKept cfg outcome s) {n : Nat} (hn : n ∈ s.settling) :
    QueueKept cfg outcome (s.finish n) := by
  obtain ⟨hview, hlt⟩ := h.view_of_settling (List.count_pos_iff.mpr hn)
  have hprocessing := h.processing
  refine { h with
    fate := h.fate_step n .settled nofun ?_ hlt ?_
    fired := ?_
    processing := ?_
    concurrent := (Nat.sub_le _ _).trans h.concurrent
    busy := fun hloops => absurd hloops (Nat.succ_ne_zero _) }
  · rw [QueueRun.view_finish, if_pos rfl, hview]
    rfl
  · intro m hm
    rw [QueueRun.view_finish, if_neg (Ne.symm hm)]
    exact ⟨rfl, Iff.rfl⟩
  · intro m hm
    rw [QueueRun.view_finish]
    obtain ⟨hlt, hwaiting⟩ := h.fired m hm
    refine ⟨hlt, ?_⟩
    split_ifs <;> exact hwaiting
  · have hpos := List.length_pos_of_mem hn
    simp only [QueueRun.finish, List.length_erase_of_mem hn]
    omega

theorem fire (h : QueueKept cfg outcome s) {n : Nat} (hn : n < s.enqueued)
    (hnone : (s.view n).waiting = 0) : QueueKept cfg outcome (s.fire n) where
  fate := h.fate
  fired m hm := by
    rcases List.mem_cons.mp hm with rfl | hm
    · exact ⟨hn, hnone⟩
    · exact h.fired m hm
  size := h.size
  processing := h.processing
  concurrent := h.concurrent
  order := h.order
  startedOrder := h.startedOrder
  startedFirst := h.startedFirst
  busy := h.busy

theorem timeout (h : QueueKept cfg outcome s) {n : Nat}
    (hn : s.queue.any (·.number == n) = true) :
    QueueKept cfg outcome (((s.remove n).reject n .timedOut).fire n) := by
  have hwaits : 0 < (s.view n).waiting := by
    obtain ⟨item, hitem, hnumber⟩ := List.any_eq_true.mp hn
    exact List.countP_pos_iff.mpr ⟨item, hitem, hnumber⟩
  obtain ⟨hview, hlt⟩ := h.view_of_waiting hwaits
  have hafter : ((s.remove n).reject n .timedOut).view n =
      RequestFate.timedOut.view (outcome n) := by
    rw [QueueRun.view_reject, if_pos rfl, QueueRun.view_remove s n n hn, if_pos rfl, hview]
    rfl
  have hothers : ∀ m ≠ n, ((s.remove n).reject n .timedOut).view m = s.view m := by
    intro m hm
    rw [QueueRun.view_reject, if_neg (Ne.symm hm), QueueRun.view_remove s m n hn,
      if_neg (Ne.symm hm)]
  have hremoved : QueueKept cfg outcome ((s.remove n).reject n .timedOut) := by
    refine { h with
      fate := h.fate_step n .timedOut nofun hafter hlt fun m hm => ⟨hothers m hm, Iff.rfl⟩
      fired := ?_
      size := List.length_eraseP_le.trans h.size
      order := h.order.eraseP _
      startedFirst := fun a ha b hb => h.startedFirst a ha b (List.mem_of_mem_eraseP hb)
      busy := ?_ }
    · intro m hm
      obtain ⟨hlt, hwaiting⟩ := h.fired m hm
      refine ⟨hlt, ?_⟩
      by_cases hmn : m = n
      · rw [hmn, hafter]
        rfl
      · rw [hothers m hmn, hwaiting]
    · intro hloops
      -- a timer frees no slot
      rcases h.busy hloops with hnone | hfull
      · exact .inl (congrArg (List.eraseP _) hnone)
      · exact .inr hfull
  exact hremoved.fire hlt (by rw [hafter]; rfl)

/-- No slot is free for a request that waits. -/
theorem idle (h : QueueKept cfg outcome s) (hidle : s.Idle) :
    s.queue = [] ∨ cfg.maxConcurrent ≤ s.running.length := by
  have hprocessing := h.processing
  rw [hidle.2, List.length_nil, Nat.add_zero] at hprocessing
  exact hprocessing ▸ h.busy hidle.1

/-- **Each step** keeps it. -/
theorem step [DecidableLT π] (h : QueueKept cfg outcome s) {a : RequestQueueAction π}
    (hstep : requestQueueStep cfg outcome s a = some t) : QueueKept cfg outcome t := by
  cases a with
  | enqueue priority =>
    rw [requestQueueStep] at hstep
    split_ifs at hstep with hfull
    · obtain rfl := Option.some.inj hstep
      exact h.reject
    · obtain rfl := Option.some.inj hstep
      exact h.accept (not_le.mp hfull) priority
  | loop =>
    rw [requestQueueStep] at hstep
    split at hstep
    · cases hstep
    · rename_i hloops hempty
      obtain rfl := Option.some.inj hstep
      exact { h with busy := fun _ => .inl hempty }
    · rename_i hloops hqueue
      split_ifs at hstep with hroom
      · obtain rfl := Option.some.inj hstep
        exact h.startNext hqueue hroom (by rw [hloops]; exact Nat.succ_ne_zero _)
      · obtain rfl := Option.some.inj hstep
        exact { h with busy := fun _ => .inr (not_lt.mp hroom) }
  | settle n =>
    rw [requestQueueStep] at hstep
    split_ifs at hstep with hn
    obtain rfl := Option.some.inj hstep
    exact h.settle hn
  | finish n =>
    rw [requestQueueStep] at hstep
    split_ifs at hstep with hn
    obtain rfl := Option.some.inj hstep
    exact h.finish hn
  | timeout n =>
    rw [requestQueueStep] at hstep
    split_ifs at hstep with hlt hqueued
    · obtain rfl := Option.some.inj hstep
      exact h.timeout hqueued
    · obtain rfl := Option.some.inj hstep
      refine h.fire hlt (Nat.eq_zero_of_not_pos fun hpos => hqueued ?_)
      obtain ⟨item, hitem, hnumber⟩ := List.countP_pos_iff.mp hpos
      exact List.any_eq_true.mpr ⟨item, hitem, hnumber⟩

end QueueKept

variable [DecidableLT π]

theorem queueKept_of_reach (hrun : Reach (requestQueueStep cfg outcome) Free .empty s) :
    QueueKept cfg outcome s :=
  hrun.invariant (.empty cfg outcome) fun h _ hstep => h.step hstep

/-- The operation that a step starts was the first of the queue. -/
theorem queue_of_starts {a : RequestQueueAction π} {item : QueueItem π}
    (hstep : requestQueueStep cfg outcome s a = some t) (hstarts : t.started = s.started ++ [item]) :
    s.queue = item :: t.queue := by
  have hgrows : t.started ≠ s.started := by
    rw [hstarts]
    exact fun heq => by simpa using congrArg List.length heq
  cases a with
  | enqueue priority =>
    rw [requestQueueStep] at hstep
    split_ifs at hstep <;> obtain rfl := Option.some.inj hstep <;> exact absurd rfl hgrows
  | loop =>
    rw [requestQueueStep] at hstep
    split at hstep
    · cases hstep
    · obtain rfl := Option.some.inj hstep
      exact absurd rfl hgrows
    · rename_i first rest hloops hqueue
      split_ifs at hstep with hroom
      · obtain rfl := Option.some.inj hstep
        have hsame : first = item := List.singleton_inj.mp (List.append_cancel_left hstarts)
        rw [hqueue, hsame]
        rfl
      · obtain rfl := Option.some.inj hstep
        exact absurd rfl hgrows
  | settle n =>
    rw [requestQueueStep] at hstep
    split_ifs at hstep
    obtain rfl := Option.some.inj hstep
    exact absurd rfl hgrows
  | finish n =>
    rw [requestQueueStep] at hstep
    split_ifs at hstep
    obtain rfl := Option.some.inj hstep
    exact absurd rfl hgrows
  | timeout n =>
    rw [requestQueueStep] at hstep
    split_ifs at hstep <;> obtain rfl := Option.some.inj hstep <;> exact absurd rfl hgrows

/-- **Each step of its own** leaves it less to do: a loop starts a request or ends, and a callback,
which begins a loop, is over. -/
theorem work_lt {a : RequestQueueAction π} (hown : a.own = true)
    (hstep : requestQueueStep cfg outcome s a = some t) : t.work < s.work := by
  cases a with
  | loop =>
    rw [requestQueueStep] at hstep
    split at hstep
    · cases hstep
    · rename_i loops hloops hqueue
      obtain rfl := Option.some.inj hstep
      simp only [QueueRun.work, hloops]
      omega
    · rename_i loops item rest hloops hqueue
      split_ifs at hstep with hroom
      · obtain rfl := Option.some.inj hstep
        simp only [QueueRun.work, QueueRun.startNext, hqueue, List.length_cons]
        omega
      · obtain rfl := Option.some.inj hstep
        simp only [QueueRun.work, hloops]
        omega
  | finish n =>
    rw [requestQueueStep] at hstep
    split_ifs at hstep with hn
    obtain rfl := Option.some.inj hstep
    have hpos := List.length_pos_of_mem hn
    simp only [QueueRun.work, QueueRun.finish, List.length_erase_of_mem hn]
    omega
  | enqueue priority => cases hown
  | settle n => cases hown
  | timeout n => cases hown

/-- It goes on until it is idle. -/
theorem own_step_of_not_idle (cfg : QueueConfig) (outcome : Nat → ω) (hbusy : ¬ s.Idle) :
    ∃ a t, a.own = true ∧ requestQueueStep cfg outcome s a = some t := by
  by_cases hloops : s.loops = 0
  · obtain ⟨n, hn⟩ := List.exists_mem_of_ne_nil _ fun hnone => hbusy ⟨hloops, hnone⟩
    exact ⟨.finish n, _, rfl, if_pos hn⟩
  · obtain ⟨loops, hsucc⟩ := Nat.exists_eq_succ_of_ne_zero hloops
    refine ⟨.loop, ?_⟩
    rw [requestQueueStep, hsucc]
    cases s.queue with
    | nil => exact ⟨_, rfl, rfl⟩
    | cons item rest =>
      dsimp only
      split_ifs <;> exact ⟨_, rfl, rfl⟩

/-- An operation that ends settles its request. -/
theorem QueueKept.settles (h : QueueKept cfg outcome s) {n : Nat} (hn : n ∈ s.running) :
    ∃ t, requestQueueStep cfg outcome s (.settle n) = some t ∧
      t.view n = RequestFate.settling.view (outcome n) := by
  obtain ⟨hview, -⟩ := h.view_of_running (List.count_pos_iff.mpr hn)
  refine ⟨_, if_pos hn, ?_⟩
  rw [QueueRun.view_settle, if_pos rfl, hview]
  rfl

theorem one_le_maxConcurrent (options : QueueOptions) : 1 ≤ options.config.maxConcurrent := by
  unfold QueueOptions.config numberOr
  dsimp only
  split <;> omega

/-- **The queue.**  At most `maxConcurrent` operations run and `maxSize` requests wait.  A request is
refused, or waits until it is started or timed out, and is settled accordingly; with its timer it
stops waiting.  Operations start by priority and then in the order of their requests.  Whatever the
queue does by itself comes to an end, and then none waits while fewer than `maxConcurrent` run; once
the operations have ended, every request is settled. -/
theorem requestQueue_correct (options : QueueOptions) (outcome : Nat → ω) (s : QueueRun π ω)
    (hrun : Reach (requestQueueStep options.config outcome) Free .empty s) :
    s.running.length ≤ options.config.maxConcurrent ∧ s.queue.length ≤ options.config.maxSize ∧
    (∀ n < s.enqueued, ∃ fate : RequestFate, fate ≠ .unseen ∧ s.view n = fate.view (outcome n)) ∧
    (∀ n ∈ s.fired, (s.view n).waiting = 0) ∧
    (∀ a t item, requestQueueStep options.config outcome s a = some t →
      t.started = s.started ++ [item] → ∀ other ∈ t.queue, StartsBefore item other) ∧
    (s.started.Pairwise fun a b => a.priority = b.priority → a.number < b.number) ∧
    (∀ n ∈ s.running, ∃ t, requestQueueStep options.config outcome s (.settle n) = some t ∧
      t.view n = RequestFate.settling.view (outcome n)) ∧
    (∀ a t, a.own = true → requestQueueStep options.config outcome s a = some t → t.work < s.work) ∧
    (¬ s.Idle → ∃ a t, a.own = true ∧ requestQueueStep options.config outcome s a = some t) ∧
    (s.Idle → s.queue = [] ∨ options.config.maxConcurrent ≤ s.running.length) ∧
    (s.Idle → s.running = [] → ∀ n < s.enqueued, ∃ fate : RequestFate,
      fate ∈ [.refused, .timedOut, .settled] ∧ s.view n = fate.view (outcome n)) := by
  have h := queueKept_of_reach hrun
  have hprocessing := h.processing
  have hconcurrent := h.concurrent
  have hfate : ∀ n < s.enqueued, ∃ fate : RequestFate, fate ≠ .unseen ∧
      s.view n = fate.view (outcome n) := by
    intro n hn
    obtain ⟨fate, hview, hunseen⟩ := h.fate n
    exact ⟨fate, mt hunseen.mp (not_le.mpr hn), hview⟩
  refine ⟨by omega, h.size, hfate, fun n hn => (h.fired n hn).2, ?_, h.startedOrder,
    fun n hn => h.settles hn, fun a t => work_lt, own_step_of_not_idle options.config outcome,
    h.idle, ?_⟩
  · intro a t item hstep hstarts other hother
    have horder := h.order
    rw [queue_of_starts hstep hstarts] at horder
    exact (List.pairwise_cons.mp horder).1 other hother
  · intro hidle hrunning n hn
    have hqueue : s.queue = [] := by
      refine (h.idle hidle).resolve_right fun hfull => ?_
      rw [hrunning, List.length_nil] at hfull
      exact absurd (one_le_maxConcurrent options) (not_le.mpr (Nat.lt_succ_of_le hfull))
    obtain ⟨fate, hseen, hview⟩ := hfate n hn
    have hmem := QueueRun.fate_of_view n hview hqueue hrunning hidle.2
    exact ⟨fate, (List.mem_cons.mp hmem).resolve_left hseen, hview⟩

/-- One runs, and of the two that wait the urgent one is the first. -/
theorem requestQueue_correct_urgent :
    ∃ s : QueueRun Nat Bool, s.queue.map (·.priority) = [9, 0] ∧ s.running.length ≤ 1 := by
  have hexec : ∃ s, exec (requestQueueStep (QueueOptions.config ⟨none, some 1⟩) fun _ => true)
      (.empty : QueueRun Nat Bool)
      [.enqueue 0, .loop, .loop, .enqueue 0, .loop, .enqueue 9, .loop] = some s ∧
        s.queue.map (·.priority) = [9, 0] := ⟨_, rfl, rfl⟩
  obtain ⟨s, hs, hqueue⟩ := hexec
  exact ⟨s, hqueue, (requestQueue_correct ⟨none, some 1⟩ _ s (reach_of_exec hs)).1⟩

end

end StellarEduPay

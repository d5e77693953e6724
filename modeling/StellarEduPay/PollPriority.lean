import Mathlib.Algebra.Order.Field.Basic
import Mathlib.Algebra.Order.Field.Rat
import Mathlib.Data.List.Sort
import Mathlib.Tactic.Linarith
import StellarEduPay.JsString
import StellarEduPay.Runs

/-! # The order of a poll cycle (`services/horizonPollBudget.js`, `pollAllSchools`)

All schools draw their Horizon pages from one budget per cycle, in the order of a priority:
what a school is waiting for, plus fifteen points for each cycle in a row it was deferred.
When a cycle ends, a school whose poll ran into the end of the budget counts as deferred,
also if it had drawn pages until then.

The draws of a cycle may interleave in any way; each is one step.
-/
namespace StellarEduPay
open Runs Function

/-! ## Priorities -/

structure PollConfig where
  maxPagesPerPoll : Nat := 50
  recentActivityWindowMs : Int := 3600000
  localeCompare : LocaleCompare

/-- The fields of a school document the order depends on. -/
structure PollSchool where
  schoolId : String
  syncCursor : Option String
  deriving DecidableEq, Repr

def PollSchool.synced (school : PollSchool) : Bool := school.syncCursor.any (· ≠ "")

/-- What `gatherSchoolSignals` reads from the payments of a school. -/
structure SchoolSignals where
  pendingCount : Nat
  lastActivityAt : Option Int
  deriving DecidableEq, Repr

/-- Up to twenty points, decaying across the window. -/
def activityBoost (cfg : PollConfig) (lastActivityAt : Option Int) (now : Int) : ℚ :=
  match lastActivityAt with
  | none => 0
  | some activity =>
    let age := now - activity
    if 0 ≤ age ∧ age < cfg.recentActivityWindowMs then
      20 * (1 - age / cfg.recentActivityWindowMs)
    else 0

def computeSchoolPriority (cfg : PollConfig) (school : PollSchool) (signals : SchoolSignals)
    (cyclesDeferred : Nat) (now : Int) : ℚ :=
  (if school.synced then 0 else 250) + min signals.pendingCount 10 * 100 +
    activityBoost cfg signals.lastActivityAt now + cyclesDeferred * 15

theorem activityBoost_bounds (cfg : PollConfig) (lastActivityAt : Option Int) (now : Int) :
    0 ≤ activityBoost cfg lastActivityAt now ∧ activityBoost cfg lastActivityAt now ≤ 20 := by
  unfold activityBoost
  split
  · exact ⟨le_refl _, by norm_num⟩
  dsimp only
  split
  · rename_i activity hage
    have hwindow : (0 : ℚ) < cfg.recentActivityWindowMs := by exact_mod_cast hage.1.trans_lt hage.2
    have hlow : (0 : ℚ) ≤ ((now - activity : Int) : ℚ) / cfg.recentActivityWindowMs :=
      div_nonneg (by exact_mod_cast hage.1) hwindow.le
    have hhigh : ((now - activity : Int) : ℚ) / cfg.recentActivityWindowMs ≤ 1 :=
      (div_le_one hwindow).mpr (by exact_mod_cast hage.2.le)
    constructor
    · linarith
    · linarith
  · exact ⟨le_refl _, by norm_num⟩

section Priority
variable (cfg : PollConfig) (school : PollSchool) (signals : SchoolSignals) (cyclesDeferred : Nat)
  (now : Int)

theorem le_computeSchoolPriority :
    cyclesDeferred * 15 ≤ computeSchoolPriority cfg school signals cyclesDeferred now := by
  have hboost := (activityBoost_bounds cfg signals.lastActivityAt now).1
  have hpending : (0 : ℚ) ≤ (min signals.pendingCount 10 : Nat) := Nat.cast_nonneg _
  unfold computeSchoolPriority
  split <;> linarith

theorem computeSchoolPriority_le {school : PollSchool} (hsynced : school.synced = true) :
    computeSchoolPriority cfg school signals cyclesDeferred now ≤ 1020 + cyclesDeferred * 15 := by
  have hboost := (activityBoost_bounds cfg signals.lastActivityAt now).2
  have hpending : ((min signals.pendingCount 10 : Nat) : ℚ) ≤ 10 := by
    exact_mod_cast Nat.min_le_right _ _
  unfold computeSchoolPriority
  rw [if_pos hsynced]
  linarith

end Priority

/-- A school with its priority in a cycle. -/
structure RankedSchool where
  school : PollSchool
  priority : ℚ
  deriving DecidableEq

/-- The comparison of the sort: more urgent first, then by school id. -/
def RankedSchool.before (cfg : PollConfig) (a b : RankedSchool) : Prop :=
  b.priority < a.priority ∨
    b.priority = a.priority ∧ cfg.localeCompare.compare a.school.schoolId b.school.schoolId ≤ 0

instance (cfg : PollConfig) : DecidableRel (RankedSchool.before cfg) :=
  fun _ _ => inferInstanceAs (Decidable (_ ∨ _ ∧ _))

def orderSchoolsByPriority (cfg : PollConfig) (schools : List PollSchool)
    (signals : String → SchoolSignals) (cyclesDeferred : String → Nat) (now : Int) :
    List RankedSchool :=
  (schools.map fun school => ⟨school, computeSchoolPriority cfg school (signals school.schoolId)
    (cyclesDeferred school.schoolId) now⟩).insertionSort (RankedSchool.before cfg)

/-- The higher priority first: the order of the sort is by the reversed priorities. -/
theorem before_iff {cfg : PollConfig} {a b : RankedSchool} : RankedSchool.before cfg a b ↔
    cfg.localeCompare.Before (OrderDual.toDual ·.priority) (·.school.schoolId) a b :=
  or_congr Iff.rfl (and_congr_left' (eq_comm.trans OrderDual.toDual_inj.symm))

theorem before_total (cfg : PollConfig) (a b : RankedSchool) :
    RankedSchool.before cfg a b ∨ RankedSchool.before cfg b a := by
  rw [before_iff, before_iff]
  exact LocaleCompare.before_total a b

theorem before_trans (cfg : PollConfig) {a b c : RankedSchool} (hab : RankedSchool.before cfg a b)
    (hbc : RankedSchool.before cfg b c) : RankedSchool.before cfg a c :=
  before_iff.mpr (LocaleCompare.before_trans (before_iff.mp hab) (before_iff.mp hbc))

/-- In a sorted list, `a` comes before `b` if `b` may not come before `a`. -/
theorem pair_sublist_of_pairwise {α : Type} {r : α → α → Prop} {l : List α} {a b : α}
    (hl : l.Pairwise r) (ha : a ∈ l) (hb : b ∈ l) (hne : a ≠ b) (hba : ¬ r b a) :
    [a, b].Sublist l := by
  induction l with
  | nil => cases ha
  | cons x l ih =>
    obtain ⟨hx, hl⟩ := List.pairwise_cons.mp hl
    rcases List.mem_cons.mp ha with rfl | hal
    · refine List.Sublist.cons_cons a (List.singleton_sublist.mpr ?_)
      exact (List.mem_cons.mp hb).resolve_left hne.symm
    · rcases List.mem_cons.mp hb with rfl | hbl
      · exact absurd (hx a hal) hba
      · exact (ih hl hal hbl).cons x

theorem perm_orderSchoolsByPriority {cfg : PollConfig} {schools : List PollSchool}
    {signals : String → SchoolSignals} {cyclesDeferred : String → Nat} {now : Int} :
    ((orderSchoolsByPriority cfg schools signals cyclesDeferred now).map (·.school)).Perm schools := by
  have hperm := (List.perm_insertionSort (RankedSchool.before cfg) (schools.map fun school =>
    ⟨school, computeSchoolPriority cfg school (signals school.schoolId)
      (cyclesDeferred school.schoolId) now⟩)).map (·.school)
  simpa [orderSchoolsByPriority, Function.comp_def] using hperm

/-- The school with the higher priority comes first. -/
theorem orderSchoolsByPriority_precedes {cfg : PollConfig} {schools : List PollSchool}
    {signals : String → SchoolSignals} {cyclesDeferred : String → Nat} {now : Int} {a b : PollSchool}
    (ha : a ∈ schools) (hb : b ∈ schools)
    (hlt : computeSchoolPriority cfg b (signals b.schoolId) (cyclesDeferred b.schoolId) now <
      computeSchoolPriority cfg a (signals a.schoolId) (cyclesDeferred a.schoolId) now) :
    [a, b].Sublist ((orderSchoolsByPriority cfg schools signals cyclesDeferred now).map (·.school)) := by
  let rank (school : PollSchool) : RankedSchool :=
    ⟨school, computeSchoolPriority cfg school (signals school.schoolId)
      (cyclesDeferred school.schoolId) now⟩
  have : Std.Total (RankedSchool.before cfg) := ⟨before_total cfg⟩
  have : IsTrans RankedSchool (RankedSchool.before cfg) := ⟨fun _ _ _ => before_trans cfg⟩
  have hsorted : (orderSchoolsByPriority cfg schools signals cyclesDeferred now).Pairwise
      (RankedSchool.before cfg) := List.pairwise_insertionSort _ _
  have hmem : ∀ school ∈ schools,
      rank school ∈ orderSchoolsByPriority cfg schools signals cyclesDeferred now :=
    fun school h => (List.mem_insertionSort _).mpr (List.mem_map_of_mem h)
  have hba : ¬ RankedSchool.before cfg (rank b) (rank a) := by
    rintro (h | ⟨h, -⟩)
    · exact absurd (h.trans hlt) (lt_irrefl _)
    · exact absurd h hlt.ne'
  have hne : rank a ≠ rank b := fun h => hlt.ne' (congrArg RankedSchool.priority h)
  exact (pair_sublist_of_pairwise hsorted (hmem a ha) (hmem b hb) hne hba).map (·.school)

/-! ## The budget -/

/-- `HorizonPollBudget`; a school absent from the map has been deferred zero times. -/
structure HorizonPollBudget where
  nominalBudget : Nat
  currentCeiling : Nat
  remaining : Nat
  consumedThisCycle : Nat
  deniedThisCycle : Nat
  rateLimitEventsThisCycle : Nat
  cyclesDeferred : String → Nat
  cycles : Nat

namespace HorizonPollBudget

def create (nominalBudget : Nat) : HorizonPollBudget where
  nominalBudget := nominalBudget
  currentCeiling := nominalBudget
  remaining := nominalBudget
  consumedThisCycle := 0
  deniedThisCycle := 0
  rateLimitEventsThisCycle := 0
  cyclesDeferred := fun _ => 0
  cycles := 0

variable (minBudgetPerCycle : Nat) (b : HorizonPollBudget)

/-- The ceiling of the next cycle: halved after a 429, and raised by two otherwise. -/
def nextCeiling : Nat :=
  if 0 < b.cycles then
    if 0 < b.rateLimitEventsThisCycle then max minBudgetPerCycle (b.currentCeiling / 2)
    else if b.currentCeiling < b.nominalBudget then min b.nominalBudget (b.currentCeiling + 2)
    else b.currentCeiling
  else b.currentCeiling

def startCycle : HorizonPollBudget :=
  let ceiling := b.nextCeiling minBudgetPerCycle
  { b with
    currentCeiling := ceiling
    remaining := ceiling
    consumedThisCycle := 0
    deniedThisCycle := 0
    rateLimitEventsThisCycle := 0
    cycles := b.cycles + 1 }

/-- `tryConsume(1)`: whether the request was granted, and the budget after it. -/
def tryConsume : Bool × HorizonPollBudget :=
  if b.remaining < 1 then (false, { b with deniedThisCycle := b.deniedThisCycle + 1 })
  else (true, { b with
    remaining := b.remaining - 1
    consumedThisCycle := b.consumedThisCycle + 1 })

def recordRateLimited : HorizonPollBudget :=
  { b with rateLimitEventsThisCycle := b.rateLimitEventsThisCycle + 1 }

def recordDeferred (schoolId : String) : HorizonPollBudget :=
  { b with cyclesDeferred := update b.cyclesDeferred schoolId (b.cyclesDeferred schoolId + 1) }

def recordPolled (schoolId : String) : HorizonPollBudget :=
  { b with cyclesDeferred := update b.cyclesDeferred schoolId 0 }

@[simp] theorem tryConsume_cyclesDeferred :
    b.tryConsume.2.cyclesDeferred = b.cyclesDeferred := by
  unfold tryConsume
  split <;> rfl

end HorizonPollBudget

end StellarEduPay

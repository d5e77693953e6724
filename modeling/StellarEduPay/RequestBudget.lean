import Mathlib.Data.Rat.Floor
import Mathlib.Tactic.Linarith
import StellarEduPay.Runs

/-! # The request budget of a poll cycle (`services/horizonPollBudget.js`)

The poller draws its Horizon requests from a budget that is refilled with every cycle.  What a refund
returns goes back into it, but no more than was drawn.  The ceiling follows what was observed: a cycle
with a 429 halves it, and a clean one raises it by two, between the least budget and the nominal one.

A number of requests is any number that is not negative.
-/
namespace StellarEduPay
open Runs

/-! ## The budget -/

/-- The settings of the environment. -/
structure PollBudgetConfig where
  rateLimitPerHour : ℚ := 3600
  safetyFactor : ℚ := 3 / 5
  replicaCount : Int := 1
  minBudget : Int := 4

/-- `MIN_BUDGET_PER_CYCLE` -/
def PollBudgetConfig.minBudgetPerCycle (cfg : PollBudgetConfig) : Int := max 1 cfg.minBudget

def computeCycleBudget (cfg : PollBudgetConfig) (intervalMs : ℚ) : Int :=
  let perMs := cfg.rateLimitPerHour / 3600000
  let raw := perMs * intervalMs * cfg.safetyFactor / (max 1 cfg.replicaCount : Int)
  max cfg.minBudgetPerCycle ⌊raw⌋

/-- The counters of `HorizonPollBudget`. -/
structure RequestBudget where
  nominalBudget : ℚ
  currentCeiling : ℚ
  remaining : ℚ
  consumedThisCycle : ℚ
  deniedThisCycle : ℚ
  rateLimitEventsThisCycle : Nat
  cycles : Nat
  deriving DecidableEq

namespace RequestBudget

def create (nominalBudget : ℚ) : RequestBudget where
  nominalBudget := nominalBudget
  currentCeiling := nominalBudget
  remaining := nominalBudget
  consumedThisCycle := 0
  deniedThisCycle := 0
  rateLimitEventsThisCycle := 0
  cycles := 0

variable (b : RequestBudget)

/-- The ceiling of the next cycle. -/
def nextCeiling (minBudgetPerCycle : ℚ) : ℚ :=
  if 0 < b.cycles then
    if 0 < b.rateLimitEventsThisCycle then max minBudgetPerCycle ⌊b.currentCeiling * (1 / 2)⌋
    else if b.currentCeiling < b.nominalBudget then min b.nominalBudget (b.currentCeiling + 2)
    else b.currentCeiling
  else b.currentCeiling

def startCycle (minBudgetPerCycle : ℚ) : RequestBudget :=
  { b with
    currentCeiling := b.nextCeiling minBudgetPerCycle
    remaining := b.nextCeiling minBudgetPerCycle
    consumedThisCycle := 0
    deniedThisCycle := 0
    rateLimitEventsThisCycle := 0
    cycles := b.cycles + 1 }

/-- Whether the requests were granted, and the budget after them. -/
def tryConsume (n : ℚ) : Bool × RequestBudget :=
  if b.remaining < n then (false, { b with deniedThisCycle := b.deniedThisCycle + n })
  else (true, { b with
    remaining := b.remaining - n
    consumedThisCycle := b.consumedThisCycle + n })

def refund (n : ℚ) : RequestBudget :=
  { b with
    remaining := min b.currentCeiling (b.remaining + n)
    consumedThisCycle := max 0 (b.consumedThisCycle - n) }

def recordRateLimited : RequestBudget :=
  { b with rateLimitEventsThisCycle := b.rateLimitEventsThisCycle + 1 }

end RequestBudget

/-! ## Runs of the four operations -/

inductive BudgetAction
  | startCycle
  | tryConsume (n : ℚ)
  | refund (n : ℚ)
  | recordRateLimited

/-- The budget, and what was done to it: the cycles started, and in the one under way the requests
granted and refunded, and whether a 429 was recorded. -/
structure BudgetRun where
  budget : RequestBudget
  started : Nat := 0
  granted : ℚ := 0
  refunded : ℚ := 0
  limited : Bool := false

def BudgetRun.start (nominalBudget : ℚ) : BudgetRun := { budget := .create nominalBudget }

def budgetStep (minBudgetPerCycle : ℚ) (s : BudgetRun) : BudgetAction → Option BudgetRun
  | .startCycle =>
    some { budget := s.budget.startCycle minBudgetPerCycle, started := s.started + 1 }
  | .tryConsume n =>
    match s.budget.tryConsume n with
    | (true, budget) => some { s with budget := budget, granted := s.granted + n }
    | (false, budget) => some { s with budget := budget }
  | .refund n => some { s with budget := s.budget.refund n, refunded := s.refunded + n }
  | .recordRateLimited => some { s with budget := s.budget.recordRateLimited, limited := true }

/-- Requests are not drawn or refunded in negative numbers. -/
def DrawsRequests (_ : BudgetRun) : BudgetAction → Prop
  | .tryConsume n | .refund n => 0 ≤ n
  | _ => True

/-- Nor is a 429 observed. -/
def DrawsCleanly (s : BudgetRun) : BudgetAction → Prop
  | .recordRateLimited => False
  | a => DrawsRequests s a

theorem DrawsCleanly.drawsRequests {s : BudgetRun} {a : BudgetAction} (h : DrawsCleanly s a) :
    DrawsRequests s a := by
  cases a with
  | recordRateLimited => exact h.elim
  | _ => exact h

/-! ## What holds throughout -/

/-- The counters add up, the ceiling is within its bounds, what was granted beyond the refunds counts
as consumed, and the budget knows of its cycles and of the 429s of this one. -/
structure BudgetKept (minBudgetPerCycle nominalBudget : ℚ) (s : BudgetRun) : Prop where
  conserved : s.budget.consumedThisCycle + s.budget.remaining = s.budget.currentCeiling
  remaining_nonneg : 0 ≤ s.budget.remaining
  consumed_nonneg : 0 ≤ s.budget.consumedThisCycle
  min_le : minBudgetPerCycle ≤ s.budget.currentCeiling
  le_nominal : s.budget.currentCeiling ≤ nominalBudget
  granted_le : s.granted ≤ s.budget.consumedThisCycle + s.refunded
  nominal : s.budget.nominalBudget = nominalBudget
  cycles : s.budget.cycles = s.started
  limited : 0 < s.budget.rateLimitEventsThisCycle ↔ s.limited = true
  first : s.started = 0 → s.budget.currentCeiling = nominalBudget

section
variable {minBudgetPerCycle nominalBudget : ℚ} {s t : BudgetRun}

theorem BudgetKept.start (hmin : minBudgetPerCycle ≤ nominalBudget) (hpos : 0 ≤ minBudgetPerCycle) :
    BudgetKept minBudgetPerCycle nominalBudget (.start nominalBudget) where
  conserved := zero_add _
  remaining_nonneg := hpos.trans hmin
  consumed_nonneg := le_rfl
  min_le := hmin
  le_nominal := le_rfl
  granted_le := by simp [BudgetRun.start, RequestBudget.create]
  nominal := rfl
  cycles := rfl
  limited := by simp [BudgetRun.start, RequestBudget.create]
  first _ := rfl

/-- Half of the ceiling is no more than the ceiling. -/
theorem BudgetKept.halved_le (h : BudgetKept minBudgetPerCycle nominalBudget s)
    (hpos : 0 ≤ minBudgetPerCycle) :
    max minBudgetPerCycle (⌊s.budget.currentCeiling * (1 / 2)⌋ : ℚ) ≤ s.budget.currentCeiling := by
  have hfloor := Int.floor_le (s.budget.currentCeiling * (1 / 2))
  have hceiling := hpos.trans h.min_le
  exact max_le h.min_le (by linarith)

theorem BudgetKept.nextCeiling (h : BudgetKept minBudgetPerCycle nominalBudget s)
    (hpos : 0 ≤ minBudgetPerCycle) :
    minBudgetPerCycle ≤ s.budget.nextCeiling minBudgetPerCycle ∧
      s.budget.nextCeiling minBudgetPerCycle ≤ nominalBudget := by
  have hmin := h.min_le
  have hnominal := h.le_nominal
  unfold RequestBudget.nextCeiling
  split_ifs with hcycles hlimited hlow
  · exact ⟨le_max_left _ _, (h.halved_le hpos).trans hnominal⟩
  · rw [h.nominal]
    exact ⟨le_min (hmin.trans hnominal) (by linarith), min_le_left _ _⟩
  · exact ⟨hmin, hnominal⟩
  · exact ⟨hmin, hnominal⟩

/-- **Each operation** keeps it. -/
theorem BudgetKept.step (h : BudgetKept minBudgetPerCycle nominalBudget s)
    (hpos : 0 ≤ minBudgetPerCycle) {a : BudgetAction} (hdraws : DrawsRequests s a)
    (hstep : budgetStep minBudgetPerCycle s a = some t) :
    BudgetKept minBudgetPerCycle nominalBudget t := by
  have hconserved := h.conserved
  have hremaining := h.remaining_nonneg
  have hconsumed := h.consumed_nonneg
  have hgranted := h.granted_le
  cases a with
  | startCycle =>
    obtain rfl := Option.some.inj hstep
    obtain ⟨hmin, hnominal⟩ := h.nextCeiling hpos
    exact {
      conserved := zero_add _
      remaining_nonneg := hpos.trans hmin
      consumed_nonneg := le_rfl
      min_le := hmin
      le_nominal := hnominal
      granted_le := by simp [RequestBudget.startCycle]
      nominal := h.nominal
      cycles := congrArg Nat.succ h.cycles
      limited := by simp [RequestBudget.startCycle]
      first := fun hstarted => absurd hstarted (Nat.succ_ne_zero _) }
  | tryConsume n =>
    by_cases hshort : s.budget.remaining < n
    · rw [budgetStep, RequestBudget.tryConsume, if_pos hshort] at hstep
      obtain rfl := Option.some.inj hstep
      exact { h with }
    · rw [budgetStep, RequestBudget.tryConsume, if_neg hshort] at hstep
      obtain rfl := Option.some.inj hstep
      exact { h with
        conserved := by dsimp only; linarith
        remaining_nonneg := by dsimp only; linarith
        consumed_nonneg := add_nonneg hconsumed hdraws
        granted_le := by dsimp only; linarith }
  | refund n =>
    obtain rfl := Option.some.inj hstep
    have hn : 0 ≤ n := hdraws
    exact { h with
      -- both clamps take hold together, when more is refunded than was consumed
      conserved := by
        dsimp only [RequestBudget.refund]
        rcases le_total n s.budget.consumedThisCycle with hle | hover
        · rw [max_eq_right (by linarith), min_eq_right (by linarith)]
          linarith
        · rw [max_eq_left (by linarith), min_eq_left (by linarith), zero_add]
      remaining_nonneg := le_min (by linarith) (add_nonneg hremaining hn)
      consumed_nonneg := le_max_left _ _
      granted_le := by
        dsimp only [RequestBudget.refund]
        have hkept := le_max_right 0 (s.budget.consumedThisCycle - n)
        linarith }
  | recordRateLimited =>
    obtain rfl := Option.some.inj hstep
    exact { h with limited := iff_of_true (Nat.succ_pos _) rfl }

theorem budgetKept_of_reach (hmin : minBudgetPerCycle ≤ nominalBudget) (hpos : 0 ≤ minBudgetPerCycle)
    (hrun : Reach (budgetStep minBudgetPerCycle) DrawsRequests (.start nominalBudget) s) :
    BudgetKept minBudgetPerCycle nominalBudget s :=
  hrun.invariant (.start hmin hpos) fun h hdraws hstep => h.step hpos hdraws hstep

/-! ## The ceiling from cycle to cycle -/

/-- A cycle with a 429 halves the ceiling, down to the least budget. -/
theorem BudgetKept.limited_nextCeiling (h : BudgetKept minBudgetPerCycle nominalBudget s)
    (hlimited : s.limited = true) :
    s.budget.nextCeiling minBudgetPerCycle =
      if 0 < s.started then max minBudgetPerCycle ⌊s.budget.currentCeiling * (1 / 2)⌋
      else s.budget.currentCeiling := by
  rw [RequestBudget.nextCeiling, if_pos (h.limited.mpr hlimited), h.cycles]

/-- A clean cycle raises it by two, up to the nominal budget. -/
theorem BudgetKept.clean_nextCeiling (h : BudgetKept minBudgetPerCycle nominalBudget s)
    (hclean : s.limited = false) :
    s.budget.nextCeiling minBudgetPerCycle = min nominalBudget (s.budget.currentCeiling + 2) := by
  have hnominal := h.le_nominal
  have hnone : ¬ 0 < s.budget.rateLimitEventsThisCycle := by
    rw [h.limited, hclean]
    exact Bool.false_ne_true
  unfold RequestBudget.nextCeiling
  rw [if_neg hnone, h.nominal, h.cycles]
  split_ifs with hstarted hlow
  · rfl
  · rw [min_eq_left (by linarith)]
    linarith
  · rw [h.first (by omega), min_eq_left (by linarith)]

/-- So far no 429 since `s`, and the ceiling is up by two for every cycle started since. -/
structure RisesFrom (nominalBudget : ℚ) (s t : BudgetRun) : Prop where
  clean : t.limited = false
  started : s.started ≤ t.started
  ceiling : t.budget.currentCeiling =
    min nominalBudget (s.budget.currentCeiling + 2 * (t.started - s.started : Nat))

theorem RisesFrom.step {u : BudgetRun} (h : RisesFrom nominalBudget s t)
    (hkept : BudgetKept minBudgetPerCycle nominalBudget t) {a : BudgetAction}
    (hdraws : DrawsCleanly t a) (hstep : budgetStep minBudgetPerCycle t a = some u) :
    RisesFrom nominalBudget s u := by
  cases a with
  | startCycle =>
    obtain rfl := Option.some.inj hstep
    refine ⟨rfl, h.started.trans (Nat.le_succ _), ?_⟩
    change t.budget.nextCeiling minBudgetPerCycle = min nominalBudget (s.budget.currentCeiling +
      2 * ((t.started + 1 - s.started : Nat) : ℚ))
    rw [hkept.clean_nextCeiling h.clean, h.ceiling, Nat.succ_sub h.started]
    push_cast
    -- the ceiling has reached the nominal budget, or has not yet
    rcases le_total nominalBudget (s.budget.currentCeiling +
      2 * ((t.started - s.started : Nat) : ℚ)) with hfull | hlow
    · rw [min_eq_left hfull, min_eq_left (by linarith), min_eq_left (by linarith)]
    · rw [min_eq_right hlow]
      congr 1
      ring
  | tryConsume n =>
    rw [budgetStep, RequestBudget.tryConsume] at hstep
    split_ifs at hstep <;> obtain rfl := Option.some.inj hstep <;>
      exact ⟨h.clean, h.started, h.ceiling⟩
  | refund n =>
    obtain rfl := Option.some.inj hstep
    exact ⟨h.clean, h.started, h.ceiling⟩
  | recordRateLimited => exact hdraws.elim

theorem BudgetKept.rises (h : BudgetKept minBudgetPerCycle nominalBudget s)
    (hpos : 0 ≤ minBudgetPerCycle) (hclean : s.limited = false)
    (hrun : Reach (budgetStep minBudgetPerCycle) DrawsCleanly s t) :
    RisesFrom nominalBudget s t := by
  have hstart : RisesFrom nominalBudget s s := by
    refine ⟨hclean, le_rfl, ?_⟩
    rw [Nat.sub_self, Nat.cast_zero, mul_zero, add_zero, min_eq_right h.le_nominal]
  have hboth : BudgetKept minBudgetPerCycle nominalBudget t ∧ RisesFrom nominalBudget s t := by
    induction hrun with
    | refl => exact ⟨h, hstart⟩
    | tail _ hdraws hstep ih =>
      exact ⟨ih.1.step hpos hdraws.drawsRequests hstep, ih.2.step ih.1 hdraws hstep⟩
  exact hboth.2

end

theorem le_computeCycleBudget (cfg : PollBudgetConfig) (intervalMs : ℚ) :
    cfg.minBudgetPerCycle ≤ computeCycleBudget cfg intervalMs :=
  le_max_left _ _

/-- **The budget is conserved**, its ceiling stays within its bounds, every cycle starts with all of it,
and it falls and rises with what the cycle before recorded. -/
theorem budget_conserved (cfg : PollBudgetConfig) (intervalMs : ℚ) (s : BudgetRun)
    (hrun : Reach (budgetStep cfg.minBudgetPerCycle) DrawsRequests
      (.start (computeCycleBudget cfg intervalMs)) s) :
    s.budget.consumedThisCycle + s.budget.remaining = s.budget.currentCeiling ∧
    0 ≤ s.budget.remaining ∧ cfg.minBudgetPerCycle ≤ s.budget.currentCeiling ∧
    s.budget.currentCeiling ≤ computeCycleBudget cfg intervalMs ∧
    s.granted ≤ s.budget.currentCeiling + s.refunded ∧
    (∀ t, budgetStep cfg.minBudgetPerCycle s .startCycle = some t →
      t.budget.remaining = t.budget.currentCeiling ∧
      (s.limited = true → t.budget.currentCeiling ≤ s.budget.currentCeiling ∧
        (0 < s.started → t.budget.currentCeiling =
          max (cfg.minBudgetPerCycle : ℚ) ⌊s.budget.currentCeiling * (1 / 2)⌋))) ∧
    (s.limited = false →
      ∀ t k, Reach (budgetStep cfg.minBudgetPerCycle) DrawsCleanly s t →
        t.started = s.started + k → t.budget.currentCeiling =
          min (computeCycleBudget cfg intervalMs : ℚ) (s.budget.currentCeiling + 2 * k)) := by
  have hpos : (0 : ℚ) ≤ cfg.minBudgetPerCycle := by
    exact_mod_cast (zero_le_one.trans (le_max_left 1 cfg.minBudget))
  have hmin : (cfg.minBudgetPerCycle : ℚ) ≤ computeCycleBudget cfg intervalMs := by
    exact_mod_cast le_computeCycleBudget cfg intervalMs
  have h := budgetKept_of_reach hmin hpos hrun
  refine ⟨h.conserved, h.remaining_nonneg, h.min_le, h.le_nominal, ?_, ?_, ?_⟩
  · have hconserved := h.conserved
    have hgranted := h.granted_le
    have hremaining := h.remaining_nonneg
    linarith
  · intro t hstep
    obtain rfl := Option.some.inj hstep
    refine ⟨rfl, fun hlimited => ?_⟩
    have hnext := h.limited_nextCeiling hlimited
    refine ⟨?_, fun hstarted => hnext.trans (if_pos hstarted)⟩
    change s.budget.nextCeiling cfg.minBudgetPerCycle ≤ _
    rw [hnext]
    split_ifs
    · exact h.halved_le hpos
    · exact le_rfl
  · intro hclean t k hclear hstarted
    rw [(h.rises hpos hclean hclear).ceiling, hstarted, Nat.add_sub_cancel_left]

/-- A school is granted five requests and hands seven back. -/
theorem budget_conserved_overRefunded :
    ∃ s : BudgetRun, s.granted = 5 ∧ s.refunded = 7 ∧
      s.budget.consumedThisCycle + s.budget.remaining = s.budget.currentCeiling := by
  have hnominal : (computeCycleBudget {} 30000 : ℚ) = 18 := by
    exact_mod_cast (by decide +kernel : computeCycleBudget {} 30000 = 18)
  have hroom : ¬(RequestBudget.create (computeCycleBudget {} 30000)).remaining < 5 := by
    change ¬(computeCycleBudget {} 30000 : ℚ) < 5
    rw [hnominal]
    norm_num
  have hdraw : ∃ budget, (RequestBudget.create (computeCycleBudget {} 30000)).tryConsume 5 =
      (true, budget) := by
    rw [RequestBudget.tryConsume, if_neg hroom]
    exact ⟨_, rfl⟩
  obtain ⟨budget, hdraw⟩ := hdraw
  have hdrawn : budgetStep ({} : PollBudgetConfig).minBudgetPerCycle
      (.start (computeCycleBudget {} 30000)) (.tryConsume 5) = some ⟨budget, 0, 0 + 5, 0, false⟩ := by
    simp only [budgetStep, BudgetRun.start, hdraw]
  have hrun : Reach (budgetStep ({} : PollBudgetConfig).minBudgetPerCycle) DrawsRequests
      (.start (computeCycleBudget {} 30000)) ⟨budget, 0, 0 + 5, 0, false⟩ :=
    .tail .refl (by norm_num [DrawsRequests]) hdrawn
  have hback := hrun.tail (a := .refund 7) (by norm_num [DrawsRequests]) rfl
  exact ⟨_, by norm_num, by norm_num, (budget_conserved {} 30000 _ hback).1⟩

end StellarEduPay

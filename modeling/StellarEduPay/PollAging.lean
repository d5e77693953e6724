import StellarEduPay.PollPriority

/-! # Aging (`pollAllSchools` over many cycles)

A cycle opens the budget, computes the order, lets the polls of the schools draw their pages in
any interleaving, and then updates the deferral counters from the result of each poll.  The
pages a school drew in a cycle, which the source does not keep, are counted beside the budget.
-/
namespace StellarEduPay
open Runs Function

/-! ## A cycle -/

/-- The flags of a `pollSchoolTransactions` result that decide whether a school was polled. -/
structure PollFlags where
  budgetExhausted : Bool := false
  lockSkipped : Bool := false
  loadPaused : Bool := false
  deriving DecidableEq, Repr

/-- Where the poll of a school stands: in the page loop of its current wallet, past it with a
result and on its retired addresses, or settled (with no result if it was rejected). -/
inductive SchoolPoll
  | waiting
  | polling (pages : Nat)
  | draining (result : PollFlags)
  | settled (result : Option PollFlags)
  deriving DecidableEq, Repr

def PollFlags.polled (result : PollFlags) : Bool :=
  !result.budgetExhausted && !result.lockSkipped && !result.loadPaused

/-- Whether the cycle counts the school as polled. -/
def SchoolPoll.polled : SchoolPoll → Bool
  | .settled (some result) => result.polled
  | _ => false

def SchoolPoll.isSettled : SchoolPoll → Bool
  | .settled _ => true
  | _ => false

/-- The budget, the order of the cycle under way, the poll of each school, the pages it has drawn
in this cycle, and those it drew in the cycles before, the last one first. -/
structure PollingSystem where
  budget : HorizonPollBudget
  order : Option (List RankedSchool)
  poll : String → SchoolPoll
  pages : String → Nat
  history : List (String → Nat)

/-- `finish` is an empty or short page or the page cap, `fail` an error from Horizon or from
processing, `reject` an exception that leaves the poll. -/
inductive PollingAction
  | startCycle (signals : String → SchoolSignals) (now : Int)
  | skip (schoolId : String) (loadPaused : Bool)
  | begin (schoolId : String)
  | page (schoolId : String)
  | finish (schoolId : String)
  | fail (schoolId : String) (rateLimited : Bool)
  | settle (schoolId : String)
  | reject (schoolId : String)
  | endCycle

def PollingSystem.start (nominalBudget : Nat) : PollingSystem where
  budget := .create nominalBudget
  order := none
  poll := fun _ => .waiting
  pages := fun _ => 0
  history := []

/-- The last loop of a cycle, over the ordered schools and their results. -/
def recordOutcomes (poll : String → SchoolPoll) (order : List RankedSchool)
    (budget : HorizonPollBudget) : HorizonPollBudget :=
  order.foldl (fun budget ranked =>
    if (poll ranked.school.schoolId).polled then budget.recordPolled ranked.school.schoolId
    else budget.recordDeferred ranked.school.schoolId) budget

namespace PollingSystem
variable (s : PollingSystem) (schoolId : String)

/-- The poll of a school moves on. -/
def move (poll : SchoolPoll) : PollingSystem := { s with poll := update s.poll schoolId poll }

/-- A page is drawn from the budget, or the budget is used up. -/
def draw (granted denied : SchoolPoll) : PollingSystem :=
  match s.budget.tryConsume with
  | (true, budget) => { s with
      budget := budget
      poll := update s.poll schoolId granted
      pages := update s.pages schoolId (s.pages schoolId + 1) }
  | (false, budget) => { s with budget := budget, poll := update s.poll schoolId denied }

/-- An error ends the draws, and a 429 is counted. -/
def failed (rateLimited : Bool) (poll : SchoolPoll) : PollingSystem :=
  { s with
    budget := if rateLimited then s.budget.recordRateLimited else s.budget
    poll := update s.poll schoolId poll }

end PollingSystem

/-- One step of a cycle over the active schools. -/
def pollingStep (cfg : PollConfig) (minBudget : Nat) (schools : List PollSchool)
    (s : PollingSystem) : PollingAction → Option PollingSystem
  | .startCycle signals now =>
    match s.order with
    | some _ => none
    | none => some { s with
        budget := s.budget.startCycle minBudget
        order := some (orderSchoolsByPriority cfg schools signals s.budget.cyclesDeferred now)
        poll := fun _ => .waiting
        pages := fun _ => 0 }
  | .skip schoolId loadPaused =>
    match s.order, s.poll schoolId with
    | some _, .waiting => some <| s.move schoolId <| .draining <|
        if loadPaused then { loadPaused := true } else { lockSkipped := true }
    | _, _ => none
  | .begin schoolId =>
    match s.order, s.poll schoolId with
    | some _, .waiting => some (s.move schoolId (.polling 0))
    | _, _ => none
  | .page schoolId =>
    match s.order, s.poll schoolId with
    | some _, .polling pages =>
      if pages < cfg.maxPagesPerPoll then
        some (s.draw schoolId (.polling (pages + 1)) (.draining { budgetExhausted := true }))
      else none
    -- a page of a retired address leaves the result of the current wallet as it is
    | some _, .draining result => some (s.draw schoolId (.draining result) (.draining result))
    | _, _ => none
  | .finish schoolId =>
    match s.order, s.poll schoolId with
    | some _, .polling pages =>
      if 0 < pages ∨ cfg.maxPagesPerPoll = 0 then some (s.move schoolId (.draining {})) else none
    | _, _ => none
  | .fail schoolId rateLimited =>
    match s.order, s.poll schoolId with
    | some _, .polling pages =>
      if 0 < pages then some (s.failed schoolId rateLimited (.draining {})) else none
    | some _, .draining result => some (s.failed schoolId rateLimited (.draining result))
    | _, _ => none
  | .settle schoolId =>
    match s.order, s.poll schoolId with
    | some _, .draining result => some (s.move schoolId (.settled (some result)))
    | _, _ => none
  | .reject schoolId =>
    match s.order, s.poll schoolId with
    | some _, .settled _ => none
    | some _, _ => some (s.move schoolId (.settled none))
    | none, _ => none
  | .endCycle =>
    match s.order with
    | some order =>
      if ∀ school ∈ schools, (s.poll school.schoolId).isSettled = true then
        some { s with
          budget := recordOutcomes s.poll order s.budget
          order := none
          history := s.pages :: s.history }
      else none
    | none => none

/-! ## What is to hold -/

/-- The number of cycles without a page after which a school is to come first. -/
def agedCycles : Nat := 85

/-- A school that drew no page in the last 85 cycles. -/
def PollingSystem.Starved (s : PollingSystem) (schoolId : String) : Prop :=
  agedCycles ≤ s.history.length ∧ ∀ pages ∈ s.history.take agedCycles, pages schoolId = 0

/-- A school that drew a page in the last cycle. -/
def PollingSystem.Served (s : PollingSystem) (schoolId : String) : Prop :=
  ∃ pages ∈ s.history.head?, 0 < pages schoolId

/-- **Aging**: in the order of the cycle under way, starved schools come before served ones. -/
def AgingProtects (schools : List PollSchool) (s : PollingSystem) : Prop :=
  ∀ order ∈ s.order, ∀ a ∈ schools, ∀ b ∈ schools, s.Starved a.schoolId →
    s.Served b.schoolId → [a, b].Sublist (order.map (·.school))

instance (s : PollingSystem) (schoolId : String) : Decidable (s.Starved schoolId) :=
  inferInstanceAs (Decidable (_ ∧ ∀ pages ∈ List.take _ s.history, pages schoolId = 0))

instance (s : PollingSystem) (schoolId : String) : Decidable (s.Served schoolId) :=
  inferInstanceAs (Decidable (∃ pages ∈ s.history.head?, 0 < pages schoolId))

instance (schools : List PollSchool) (s : PollingSystem) : Decidable (AgingProtects schools s) :=
  inferInstanceAs (Decidable (∀ order ∈ s.order, ∀ a ∈ schools, ∀ b ∈ schools, _ → _ → _))

/-- A school that drew a page in this cycle and is deferred all the same has not been deferred
sixteen times in a row before. -/
def SparesServed (schools : List PollSchool) (s : PollingSystem) : PollingAction → Prop
  | .endCycle => ∀ school ∈ schools, 0 < s.pages school.schoolId →
      (s.poll school.schoolId).polled = false → s.budget.cyclesDeferred school.schoolId < 16
  | _ => True

instance (schools : List PollSchool) (s : PollingSystem) :
    ∀ a, Decidable (SparesServed schools s a)
  | .endCycle => inferInstanceAs (Decidable (∀ school ∈ schools, _ → _ → _))
  | .startCycle .. | .skip .. | .begin _ | .page _ | .finish _ | .fail .. | .settle _ | .reject _ =>
    inferInstanceAs (Decidable True)

/-! ## Within a cycle -/

/-- A poll that counts as polled has drawn a page. -/
def Drawn : SchoolPoll → Nat → Prop
  | .polling n, pages => n ≤ pages
  | .draining result, pages => result.polled = true → 0 < pages
  | .settled (some result), pages => result.polled = true → 0 < pages
  | .waiting, _ | .settled none, _ => True

theorem Drawn.mono {poll : SchoolPoll} {m n : Nat} (h : Drawn poll m) (hle : m ≤ n) :
    Drawn poll n := by
  rcases poll with _ | k | result | _ | result
  · trivial
  · exact Nat.le_trans h hle
  · exact fun hpolled => Nat.lt_of_lt_of_le (h hpolled) hle
  · trivial
  · exact fun hpolled => Nat.lt_of_lt_of_le (h hpolled) hle

theorem Drawn.of_polled {poll : SchoolPoll} {pages : Nat} (h : Drawn poll pages)
    (hpolled : poll.polled = true) : 0 < pages := by
  rcases poll with _ | _ | _ | _ | result
  all_goals first | exact h hpolled | cases hpolled

/-- What the polls of a cycle can do to the system. -/
inductive PollMove (s : PollingSystem) : PollingSystem → Prop
  | moved (schoolId : String) {poll : SchoolPoll} (drawn : Drawn poll (s.pages schoolId)) :
      PollMove s (s.move schoolId poll)
  | drew (schoolId : String) {granted denied : SchoolPoll}
      (hgranted : Drawn granted (s.pages schoolId + 1)) (hdenied : Drawn denied (s.pages schoolId)) :
      PollMove s (s.draw schoolId granted denied)
  | failed (schoolId : String) (rateLimited : Bool) {poll : SchoolPoll}
      (drawn : Drawn poll (s.pages schoolId)) : PollMove s (s.failed schoolId rateLimited poll)

section Steps
variable {cfg : PollConfig} {minBudget : Nat} {schools : List PollSchool} {s t : PollingSystem}
  {a : PollingAction}

/-- A step opens a cycle, closes it, or is one of its polls'. -/
theorem pollingStep_cases (hmax : 0 < cfg.maxPagesPerPoll)
    (hdrawn : ∀ schoolId, Drawn (s.poll schoolId) (s.pages schoolId))
    (hstep : pollingStep cfg minBudget schools s a = some t) :
    (∃ signals now, t = { s with
        budget := s.budget.startCycle minBudget
        order := some (orderSchoolsByPriority cfg schools signals s.budget.cyclesDeferred now)
        poll := fun _ => .waiting
        pages := fun _ => 0 }) ∨
      (∃ order, a = .endCycle ∧ s.order = some order ∧ t = { s with
        budget := recordOutcomes s.poll order s.budget
        order := none
        history := s.pages :: s.history }) ∨
      PollMove s t := by
  cases a with
  | startCycle signals now =>
    simp only [pollingStep] at hstep
    split at hstep
    · cases hstep
    · exact Or.inl ⟨signals, now, (Option.some.inj hstep).symm⟩
  | endCycle =>
    simp only [pollingStep] at hstep
    split at hstep
    · rename_i order horder
      split at hstep
      · exact Or.inr (Or.inl ⟨order, rfl, horder, (Option.some.inj hstep).symm⟩)
      · cases hstep
    · cases hstep
  | skip schoolId loadPaused =>
    simp only [pollingStep] at hstep
    split at hstep
    · obtain rfl := Option.some.inj hstep
      refine Or.inr (Or.inr (.moved schoolId ?_))
      cases loadPaused
      · exact fun hpolled => by cases hpolled
      · exact fun hpolled => by cases hpolled
    · cases hstep
  | begin schoolId =>
    simp only [pollingStep] at hstep
    split at hstep
    · obtain rfl := Option.some.inj hstep
      exact Or.inr (Or.inr (.moved schoolId (Nat.zero_le _)))
    · cases hstep
  | page schoolId =>
    have hold := hdrawn schoolId
    simp only [pollingStep] at hstep
    split at hstep
    · rename_i pages horder hpoll
      split at hstep
      · obtain rfl := Option.some.inj hstep
        rw [hpoll] at hold
        exact Or.inr (Or.inr (.drew schoolId (Nat.succ_le_succ hold) fun hpolled => by cases hpolled))
      · cases hstep
    · rename_i result horder hpoll
      obtain rfl := Option.some.inj hstep
      rw [hpoll] at hold
      exact Or.inr (Or.inr (.drew schoolId (hold.mono (Nat.le_succ _)) hold))
    · cases hstep
  | finish schoolId =>
    have hold := hdrawn schoolId
    simp only [pollingStep] at hstep
    split at hstep
    · rename_i pages horder hpoll
      split at hstep
      · rename_i hpages
        obtain rfl := Option.some.inj hstep
        rw [hpoll] at hold
        have hpages : 0 < pages := hpages.resolve_right hmax.ne'
        exact Or.inr (Or.inr (.moved schoolId fun _ => Nat.lt_of_lt_of_le hpages hold))
      · cases hstep
    · cases hstep
  | fail schoolId rateLimited =>
    have hold := hdrawn schoolId
    simp only [pollingStep] at hstep
    split at hstep
    · rename_i pages horder hpoll
      split at hstep
      · rename_i hpages
        obtain rfl := Option.some.inj hstep
        rw [hpoll] at hold
        exact Or.inr (Or.inr (.failed schoolId rateLimited fun _ => Nat.lt_of_lt_of_le hpages hold))
      · cases hstep
    · rename_i result horder hpoll
      obtain rfl := Option.some.inj hstep
      rw [hpoll] at hold
      exact Or.inr (Or.inr (.failed schoolId rateLimited hold))
    · cases hstep
  | settle schoolId =>
    have hold := hdrawn schoolId
    simp only [pollingStep] at hstep
    split at hstep
    · rename_i result horder hpoll
      obtain rfl := Option.some.inj hstep
      rw [hpoll] at hold
      exact Or.inr (Or.inr (.moved schoolId hold))
    · cases hstep
  | reject schoolId =>
    simp only [pollingStep] at hstep
    split at hstep
    · cases hstep
    · obtain rfl := Option.some.inj hstep
      exact Or.inr (Or.inr (.moved schoolId trivial))
    · cases hstep

/-- A poll leaves the order, the past cycles and the deferral counters alone. -/
theorem PollMove.kept (h : PollMove s t) : t.order = s.order ∧ t.history = s.history ∧
    t.budget.cyclesDeferred = s.budget.cyclesDeferred := by
  cases h with
  | moved schoolId drawn => exact ⟨rfl, rfl, rfl⟩
  | drew schoolId hgranted hdenied =>
    have hbudget := s.budget.tryConsume_cyclesDeferred
    unfold PollingSystem.draw
    split
    · rename_i budget hconsume
      rw [hconsume] at hbudget
      exact ⟨rfl, rfl, hbudget⟩
    · rename_i budget hconsume
      rw [hconsume] at hbudget
      exact ⟨rfl, rfl, hbudget⟩
  | failed schoolId rateLimited drawn =>
    refine ⟨rfl, rfl, ?_⟩
    cases rateLimited <;> rfl

theorem PollMove.drawn (h : PollMove s t)
    (hdrawn : ∀ schoolId, Drawn (s.poll schoolId) (s.pages schoolId)) :
    ∀ schoolId, Drawn (t.poll schoolId) (t.pages schoolId) := by
  have hmoved : ∀ {schoolId poll}, Drawn poll (s.pages schoolId) →
      ∀ id, Drawn (update s.poll schoolId poll id) (s.pages id) := by
    intro schoolId poll hpoll id
    by_cases hid : id = schoolId
    · subst hid
      rw [update_self]
      exact hpoll
    · rw [update_of_ne hid]
      exact hdrawn id
  cases h with
  | moved schoolId hpoll => exact hmoved hpoll
  | failed schoolId rateLimited hpoll => exact hmoved hpoll
  | drew schoolId hgranted hdenied =>
    unfold PollingSystem.draw
    split
    · intro id
      by_cases hid : id = schoolId
      · subst hid
        simpa using hgranted
      · simpa [hid] using hdrawn id
    · exact hmoved hdenied

/-! ## Across cycles -/

/-- What the last loop of a cycle does to the counters. -/
theorem recordOutcomes_cyclesDeferred (poll : String → SchoolPoll) {order : List RankedSchool}
    (hids : (order.map (·.school.schoolId)).Nodup) (budget : HorizonPollBudget) {schoolId : String}
    (hmem : schoolId ∈ order.map (·.school.schoolId)) :
    (recordOutcomes poll order budget).cyclesDeferred schoolId =
      if (poll schoolId).polled then 0 else budget.cyclesDeferred schoolId + 1 := by
  -- schools that are not in the rest of the order keep their counters
  have hother : ∀ (order : List RankedSchool) (budget : HorizonPollBudget),
      schoolId ∉ order.map (·.school.schoolId) →
      (recordOutcomes poll order budget).cyclesDeferred schoolId =
        budget.cyclesDeferred schoolId := by
    intro order
    induction order with
    | nil => exact fun _ _ => rfl
    | cons r order ih =>
      intro budget hnot
      obtain ⟨hne, hnot⟩ := List.ne_and_not_mem_of_not_mem_cons hnot
      rw [recordOutcomes, List.foldl_cons, ← recordOutcomes, ih _ hnot]
      split
      · exact update_of_ne hne _ _
      · exact update_of_ne hne _ _
  induction order generalizing budget with
  | nil => cases hmem
  | cons r order ih =>
    obtain ⟨hnot, hids⟩ := List.nodup_cons.mp hids
    rw [recordOutcomes, List.foldl_cons, ← recordOutcomes]
    rcases List.mem_cons.mp hmem with rfl | hmem
    · rw [hother _ _ hnot]
      split
      · exact update_self ..
      · exact update_self ..
    · have hne : schoolId ≠ r.school.schoolId := by
        rintro rfl
        exact hnot hmem
      rw [ih hids _ hmem]
      have hkept : (if (poll r.school.schoolId).polled then
          budget.recordPolled r.school.schoolId
        else budget.recordDeferred r.school.schoolId).cyclesDeferred schoolId =
          budget.cyclesDeferred schoolId := by
        split
        · exact update_of_ne hne _ _
        · exact update_of_ne hne _ _
      rw [hkept]

/-- The counters bound what the order has to know about the past: a school without a page for `k`
cycles was deferred `k` times, and one with a page at most sixteen. -/
structure AgingInv (schools : List PollSchool) (s : PollingSystem) : Prop where
  starved : ∀ school ∈ schools, ∀ k ≤ s.history.length,
    (∀ pages ∈ s.history.take k, pages school.schoolId = 0) →
      k ≤ s.budget.cyclesDeferred school.schoolId
  served : ∀ school ∈ schools, s.Served school.schoolId →
    s.budget.cyclesDeferred school.schoolId ≤ 16
  drawn : ∀ schoolId, Drawn (s.poll schoolId) (s.pages schoolId)
  ordered : ∀ order, s.order = some order → (order.map (·.school)).Perm schools
  aged : AgingProtects schools s

theorem AgingInv.move (h : AgingInv schools s) (hmove : PollMove s t) : AgingInv schools t := by
  obtain ⟨horder, hhistory, hdeferred⟩ := hmove.kept
  refine ⟨?_, ?_, hmove.drawn h.drawn, ?_, ?_⟩
  · simpa only [hhistory, hdeferred] using h.starved
  · simpa only [PollingSystem.Served, hhistory, hdeferred] using h.served
  · simpa only [horder] using h.ordered
  · simpa only [AgingProtects, PollingSystem.Starved, PollingSystem.Served, horder, hhistory]
      using h.aged

theorem AgingInv.open_step (h : AgingInv schools s) (hsynced : ∀ school ∈ schools, school.synced = true)
    (signals : String → SchoolSignals) (now : Int) :
    AgingInv schools { s with
      budget := s.budget.startCycle minBudget
      order := some (orderSchoolsByPriority cfg schools signals s.budget.cyclesDeferred now)
      poll := fun _ => .waiting
      pages := fun _ => 0 } := by
  refine ⟨h.starved, h.served, fun _ => trivial, fun order horder => ?_, ?_⟩
  · obtain rfl := Option.some.inj horder
    exact perm_orderSchoolsByPriority
  · intro order horder a ha b hb hstarved hserved
    obtain rfl := Option.some.inj horder
    have hdeferred : 85 ≤ s.budget.cyclesDeferred a.schoolId :=
      h.starved a ha agedCycles hstarved.1 hstarved.2
    have hspared : s.budget.cyclesDeferred b.schoolId ≤ 16 := h.served b hb hserved
    have hlow := le_computeSchoolPriority cfg a (signals a.schoolId)
      (s.budget.cyclesDeferred a.schoolId) now
    have hhigh := computeSchoolPriority_le cfg (signals b.schoolId)
      (s.budget.cyclesDeferred b.schoolId) now (hsynced b hb)
    refine orderSchoolsByPriority_precedes ha hb ?_
    have hdeferred : (85 : ℚ) ≤ s.budget.cyclesDeferred a.schoolId := by exact_mod_cast hdeferred
    have hspared : (s.budget.cyclesDeferred b.schoolId : ℚ) ≤ 16 := by exact_mod_cast hspared
    linarith

theorem AgingInv.close_step (h : AgingInv schools s)
    (hids : (schools.map (·.schoolId)).Nodup) (hspares : SparesServed schools s .endCycle)
    {order : List RankedSchool} (horder : s.order = some order) :
    AgingInv schools { s with
      budget := recordOutcomes s.poll order s.budget
      order := none
      history := s.pages :: s.history } := by
  have hperm : (order.map (·.school.schoolId)).Perm (schools.map (·.schoolId)) := by
    simpa [Function.comp_def] using (h.ordered order horder).map PollSchool.schoolId
  have hcounter : ∀ school ∈ schools,
      (recordOutcomes s.poll order s.budget).cyclesDeferred school.schoolId =
        if (s.poll school.schoolId).polled then 0
        else s.budget.cyclesDeferred school.schoolId + 1 := by
    intro school hschool
    exact recordOutcomes_cyclesDeferred s.poll (hperm.nodup_iff.mpr hids) s.budget
      (hperm.mem_iff.mpr (List.mem_map_of_mem hschool))
  refine ⟨fun school hschool k hk hnone => ?_, fun school hschool hserved => ?_, h.drawn,
    fun order horder => ?_, fun order horder => ?_⟩
  · dsimp only
    rw [hcounter school hschool]
    match k with
    | 0 => exact Nat.zero_le _
    | k + 1 =>
      obtain ⟨hpages, hnone⟩ := List.forall_mem_cons.mp hnone
      have hk : k ≤ s.budget.cyclesDeferred school.schoolId :=
        h.starved school hschool k (Nat.le_of_succ_le_succ hk) hnone
      have hnotPolled : ¬ (s.poll school.schoolId).polled = true := fun hpolled =>
        ((h.drawn school.schoolId).of_polled hpolled).ne' hpages
      rw [if_neg hnotPolled]
      omega
  · obtain ⟨pages, hhead, hpages⟩ := hserved
    obtain rfl := Option.some.inj hhead
    dsimp only
    rw [hcounter school hschool]
    split
    · omega
    · rename_i hpolled
      have hspared := hspares school hschool hpages (by simpa using hpolled)
      omega
  · cases horder
  · cases horder

theorem AgingInv.step (h : AgingInv schools s) (hmax : 0 < cfg.maxPagesPerPoll)
    (hids : (schools.map (·.schoolId)).Nodup)
    (hsynced : ∀ school ∈ schools, school.synced = true) (hspares : SparesServed schools s a)
    (hstep : pollingStep cfg minBudget schools s a = some t) : AgingInv schools t := by
  rcases pollingStep_cases hmax h.drawn hstep with
    ⟨signals, now, rfl⟩ | ⟨order, rfl, horder, rfl⟩ | hmove
  · exact h.open_step hsynced signals now
  · exact h.close_step hids hspares horder
  · exact h.move hmove

end Steps

/-- **Aging protects starved schools** in every run in which no school that draws pages is
deferred more than sixteen times in a row. -/
theorem starved_schools_precede {cfg : PollConfig} {minBudget nominalBudget : Nat}
    {schools : List PollSchool} {s : PollingSystem} (hmax : 0 < cfg.maxPagesPerPoll)
    (hids : (schools.map (·.schoolId)).Nodup)
    (hsynced : ∀ school ∈ schools, school.synced = true)
    (hrun : Reach (pollingStep cfg minBudget schools) (SparesServed schools) (.start nominalBudget)
      s) : AgingProtects schools s := by
  have hstart : AgingInv schools (.start nominalBudget) := by
    refine ⟨fun _ _ k hk _ => hk, fun _ _ hserved => ?_, fun _ => trivial, fun _ horder => ?_,
      fun _ horder => ?_⟩
    · obtain ⟨_, hhead, -⟩ := hserved
      cases hhead
    · cases horder
    · cases horder
  have hinv : AgingInv schools s :=
    hrun.invariant hstart fun h hspares hstep => h.step hmax hids hsynced hspares hstep
  exact hinv.aged

/-! ## A quiet school beside a busy one -/

def plainPolling : PollConfig where
  localeCompare := codePointOrder

def quietAndBusy : List PollSchool := [⟨"quiet", some "7"⟩, ⟨"busy", some "9"⟩]

/-- Ten payments of the busy school wait for confirmation, none of the quiet one. -/
def busySignals (schoolId : String) : SchoolSignals :=
  if schoolId = "busy" then ⟨10, none⟩ else ⟨0, none⟩

/-- The busy school draws all four pages of the budget; the quiet one comes too late. -/
def busyCycle (last : List PollingAction) : List PollingAction :=
  [.startCycle busySignals 0, .begin "busy", .page "busy", .page "busy", .page "busy",
    .page "busy"] ++ last ++
  [.settle "busy", .begin "quiet", .page "quiet", .settle "quiet", .endCycle]

/-- 85 such cycles, and the order of the next. -/
def busyCycles (last : List PollingAction) : List PollingAction :=
  (List.replicate 85 (busyCycle last)).flatten ++ [.startCycle busySignals 0]

theorem starved_schools_precede_busy : ∃ s, execOk (pollingStep plainPolling 4 quietAndBusy)
      (SparesServed quietAndBusy) (.start 4) (busyCycles [.finish "busy"]) = some s ∧
    s.order.map (fun order => order.map (·.priority)) = some [1275, 1000] ∧
    AgingProtects quietAndBusy s := by
  have hrun : (execOk (pollingStep plainPolling 4 quietAndBusy) (SparesServed quietAndBusy)
      (.start 4) (busyCycles [.finish "busy"])).map
        (fun s => s.order.map fun order => order.map (·.priority)) = some (some [1275, 1000]) := by
    decide +kernel
  obtain ⟨s, hs, horder⟩ := Option.map_eq_some_iff.mp hrun
  exact ⟨s, hs, horder, starved_schools_precede (by decide) (by decide) (by decide) (.of_execOk hs)⟩

/-- Where the busy school asks for a fifth page it counts as deferred, and comes first in every
cycle. -/
theorem busy_school_starves_quiet : ¬ ∀ (cfg : PollConfig) (minBudget nominalBudget : Nat)
    (schools : List PollSchool) (s : PollingSystem), 0 < cfg.maxPagesPerPoll →
    (schools.map (·.schoolId)).Nodup → (∀ school ∈ schools, school.synced = true) →
    Reach (pollingStep cfg minBudget schools) Free (.start nominalBudget) s →
    AgingProtects schools s := by
  intro h
  have hrun : (exec (pollingStep plainPolling 4 quietAndBusy) (.start 4)
      (busyCycles [.page "busy"])).map (fun s => decide (AgingProtects quietAndBusy s)) =
        some false := by decide +kernel
  obtain ⟨s, hs, hfails⟩ := Option.map_eq_some_iff.mp hrun
  exact of_decide_eq_false hfails
    (h plainPolling 4 4 quietAndBusy s (by decide) (by decide) (by decide) (reach_of_exec hs))

end StellarEduPay

import StellarEduPay.RolloverBalances
import StellarEduPay.Runs

/-! # Concurrent rollovers

A rollover reads the current period, then the target, and checks them; the transaction that
follows writes both by their ids.  When it conflicts with a committed one its callback runs
again with the two documents read before, so what it closes and opens was decided on a state
that may be gone: a school with two administrators ends with two current periods, or with a
current period that is closed.
-/
namespace StellarEduPay
open Runs Function

/-! ## The calls in progress -/

/-- How far a call has come: it has read the current period, or it has passed the checks and
runs its transaction, again and again until it commits. -/
inductive RolloverPhase
  | read (current : AcademicPeriod)
  | approved (current next : AcademicPeriod)

/-- The store and the call each process is in. -/
structure RolloverSystem (P : Type) where
  store : PeriodDb
  call : P → Option (RolloverRequest × RolloverPhase)

inductive RolloverAction (P : Type)
  | start (p : P) (req : RolloverRequest)
  | check (p : P)
  | conflict (p : P)
  | commit (p : P)
  | fail (p : P)

variable {P : Type} [DecidableEq P]

/-- One step.  A transaction writes at once what it writes when it commits; an attempt that is
discarded writes nothing. -/
def rolloverStep (s : RolloverSystem P) : RolloverAction P → Option (RolloverSystem P)
  | .start p req =>
    if s.call p = none ∧ ¬(req.schoolId = "" ∨ req.nextPeriodId = "" ∨ req.performedBy = "") then
      (s.store.currentPeriod req.schoolId).map fun current =>
        { s with call := update s.call p (some (req, .read current)) }
    else none
  | .check p =>
    match s.call p with
    | some (req, .read current) =>
      match s.store.checkNext req current with
      | .ok next => some { s with call := update s.call p (some (req, .approved current next)) }
      | .error _ => some { s with call := update s.call p none }
    | _ => none
  | .conflict p =>
    match s.call p with
    | some (_, .approved _ _) => some s
    | _ => none
  | .commit p =>
    match s.call p with
    | some (req, .approved current next) => some
        { store := s.store.rolloverTransaction current next req.schoolId
          call := update s.call p none }
    | _ => none
  | .fail p => some { s with call := update s.call p none }

/-- **One current period**: exactly one period of the school is current, and it is not closed. -/
structure OneCurrent (store : PeriodDb) (schoolId : String) : Prop where
  one : ∃! p, p ∈ store.db.academicPeriods ∧ p.schoolId = schoolId ∧ p.isCurrent = true
  notClosed : ∀ p ∈ store.db.academicPeriods, p.schoolId = schoolId → p.isCurrent = true →
    p.id ∉ store.closedPeriods

/-- What a transaction closes is still the current period, and what it opens is still open; or
what it opens is the current period already. -/
def UpToDate (schoolId : String) (s : RolloverSystem P) : RolloverAction P → Prop
  | .commit p => ∀ req current next, s.call p = some (req, .approved current next) →
      req.schoolId = schoolId → ∃ now, s.store.currentPeriod schoolId = some now ∧
        (now.id = current.id ∧ next.id ∉ s.store.closedPeriods ∨ now.id = next.id)
  | _ => True

/-! ## What a commit does to the periods of a school -/

/-- A school has a period of this id. -/
def PeriodDb.HasPeriod (store : PeriodDb) (schoolId periodId : String) : Prop :=
  ∃ p ∈ store.db.academicPeriods, p.id = periodId ∧ p.schoolId = schoolId

section Commit
variable {store : PeriodDb} {current next : AcademicPeriod} {schoolId : String}

theorem movePeriods_isCurrent (current next p : AcademicPeriod) :
    (PeriodDb.movePeriods current next p).isCurrent = true ↔
      p.id = next.id ∨ (p.id ≠ current.id ∧ p.isCurrent = true) := by
  unfold PeriodDb.movePeriods
  by_cases hnext : p.id = next.id
  · simp [hnext]
  · rw [if_neg hnext]
    by_cases hcurrent : p.id = current.id
    · rw [if_pos hcurrent]
      refine iff_of_false Bool.false_ne_true ?_
      rintro (hid | ⟨hid, -⟩)
      · exact hnext hid
      · exact hid hcurrent
    · rw [if_neg hcurrent]
      simp [hnext, hcurrent]

theorem mem_rollover_periods {q : AcademicPeriod} {owner : String} :
    q ∈ (store.rolloverTransaction current next owner).db.academicPeriods ↔
      ∃ p ∈ store.db.academicPeriods, PeriodDb.movePeriods current next p = q := by
  rw [rollover_academicPeriods]
  exact List.mem_map

theorem rollover_ids (store : PeriodDb) (current next : AcademicPeriod) (owner : String) :
    (store.rolloverTransaction current next owner).db.academicPeriods.map AcademicPeriod.id =
      store.db.academicPeriods.map AcademicPeriod.id := by
  rw [rollover_academicPeriods, List.map_map]
  exact List.map_congr_left fun p _ => movePeriods_id current next p

theorem rollover_closedPeriods (store : PeriodDb) (current next : AcademicPeriod) (owner : String) :
    (store.rolloverTransaction current next owner).closedPeriods =
      current.id :: store.closedPeriods := rfl

theorem PeriodDb.HasPeriod.rollover {owner periodId : String} (h : store.HasPeriod schoolId periodId) :
    (store.rolloverTransaction current next owner).HasPeriod schoolId periodId := by
  obtain ⟨p, hp, hid, hschool⟩ := h
  exact ⟨_, mem_rollover_periods.mpr ⟨p, hp, rfl⟩, by rw [movePeriods_id, hid],
    by rw [movePeriods_schoolId, hschool]⟩

/-- A period of one school is none of another. -/
theorem hasPeriod_ne {other periodId : String}
    (hids : (store.db.academicPeriods.map AcademicPeriod.id).Nodup)
    (h : store.HasPeriod other periodId) (hne : other ≠ schoolId) {p : AcademicPeriod}
    (hp : p ∈ store.db.academicPeriods) (hschool : p.schoolId = schoolId) : p.id ≠ periodId := by
  intro hid
  obtain ⟨q, hq, hqid, hqschool⟩ := h
  obtain rfl : q = p := List.inj_on_of_nodup_map hids hq hp (hqid.trans hid.symm)
  exact hne (hqschool.symm.trans hschool)

/-- The period a school has as its current one is the one it finds. -/
theorem OneCurrent.found (h : OneCurrent store schoolId) :
    ∃ now, store.currentPeriod schoolId = some now ∧ now ∈ store.db.academicPeriods ∧
      now.schoolId = schoolId ∧ now.isCurrent = true ∧
      ∀ q ∈ store.db.academicPeriods, q.schoolId = schoolId → q.isCurrent = true → q = now := by
  obtain ⟨now, ⟨hnow, hschool, hcurrent⟩, honly⟩ := h.one
  cases hfound : store.currentPeriod schoolId with
  | none =>
    have hno := List.find?_eq_none.mp hfound now hnow
    simp [hschool, hcurrent] at hno
  | some found =>
    obtain rfl : found = now := honly found (currentPeriod_sat hfound)
    exact ⟨found, rfl, hnow, hschool, hcurrent, fun q hq hqschool hqcurrent =>
      honly q ⟨hq, hqschool, hqcurrent⟩⟩

/-- A commit makes its target current. -/
theorem rollover_target (hnext : store.HasPeriod schoolId next.id) (owner : String) :
    ∃ q ∈ (store.rolloverTransaction current next owner).db.academicPeriods,
      q.id = next.id ∧ q.schoolId = schoolId ∧ q.isCurrent = true := by
  obtain ⟨target, htarget, hid, hschool⟩ := hnext
  refine ⟨_, mem_rollover_periods.mpr ⟨target, htarget, rfl⟩, ?_, ?_, ?_⟩
  · rw [movePeriods_id, hid]
  · rw [movePeriods_schoolId, hschool]
  · exact (movePeriods_isCurrent current next target).mpr (Or.inl hid)

/-- What closes another period than the current one leaves that one current beside the target;
and a target that was closed is current then. -/
theorem OneCurrent.of_commit {now : AcademicPeriod} (hnext : store.HasPeriod schoolId next.id)
    (h : OneCurrent (store.rolloverTransaction current next schoolId) schoolId)
    (hnow : now ∈ store.db.academicPeriods) (hschool : now.schoolId = schoolId)
    (hcurrent : now.isCurrent = true) (hne : now.id ≠ next.id) :
    now.id = current.id ∧ next.id ∉ store.closedPeriods := by
  obtain ⟨target, htarget, hid, htargetSchool, htargetCurrent⟩ :=
    rollover_target hnext schoolId
  constructor
  · by_contra hclosing
    have hkept := (movePeriods_isCurrent current next now).mpr (Or.inr ⟨hclosing, hcurrent⟩)
    have htwo := h.one.unique
      ⟨mem_rollover_periods.mpr ⟨now, hnow, rfl⟩, by rw [movePeriods_schoolId, hschool], hkept⟩
      ⟨htarget, htargetSchool, htargetCurrent⟩
    have hsame := congrArg AcademicPeriod.id htwo
    rw [movePeriods_id, hid] at hsame
    exact hne hsame
  · have hopen := h.notClosed target htarget htargetSchool htargetCurrent
    rw [hid, rollover_closedPeriods] at hopen
    exact fun hclosed => hopen (List.mem_cons_of_mem _ hclosed)

/-- After a commit that closes the current period or opens it again, only the target is
current. -/
theorem OneCurrent.commit {now : AcademicPeriod}
    (hids : (store.db.academicPeriods.map AcademicPeriod.id).Nodup)
    (hnext : store.HasPeriod schoolId next.id) (hne : next.id ≠ current.id)
    (hopen : next.id ∉ store.closedPeriods)
    (honly : ∀ q ∈ store.db.academicPeriods, q.schoolId = schoolId → q.isCurrent = true → q = now)
    (hnow : now.id = current.id ∨ now.id = next.id) :
    OneCurrent (store.rolloverTransaction current next schoolId) schoolId := by
  obtain ⟨target, htarget, hid, htargetSchool, htargetCurrent⟩ :=
    rollover_target hnext schoolId
  have hcurrent : ∀ q ∈ (store.rolloverTransaction current next schoolId).db.academicPeriods,
      q.schoolId = schoolId → q.isCurrent = true → q.id = next.id := by
    intro q hq hschool hon
    obtain ⟨p, hp, rfl⟩ := mem_rollover_periods.mp hq
    rw [movePeriods_schoolId] at hschool
    rw [movePeriods_id]
    rcases (movePeriods_isCurrent current next p).mp hon with hsame | ⟨hclosing, hstill⟩
    · exact hsame
    · obtain rfl := honly p hp hschool hstill
      exact hnow.resolve_left hclosing
  rw [← rollover_ids store current next schoolId] at hids
  refine ⟨⟨target, ⟨htarget, htargetSchool, htargetCurrent⟩, ?_⟩, ?_⟩
  · rintro q ⟨hq, hschool, hon⟩
    exact List.inj_on_of_nodup_map hids hq htarget ((hcurrent q hq hschool hon).trans hid.symm)
  · intro q hq hschool hon
    rw [hcurrent q hq hschool hon, rollover_closedPeriods, List.mem_cons, not_or]
    exact ⟨hne, hopen⟩

/-- **A commit keeps the one current period** exactly if it closes that period and opens one
that is open, or opens that period again. -/
theorem oneCurrent_commit_iff (hids : (store.db.academicPeriods.map AcademicPeriod.id).Nodup)
    (hone : OneCurrent store schoolId) (hnext : store.HasPeriod schoolId next.id)
    (hne : next.id ≠ current.id) :
    OneCurrent (store.rolloverTransaction current next schoolId) schoolId ↔
      ∃ now, store.currentPeriod schoolId = some now ∧
        (now.id = current.id ∧ next.id ∉ store.closedPeriods ∨ now.id = next.id) := by
  obtain ⟨now, hfound, hnow, hschool, hcurrent, honly⟩ := hone.found
  constructor
  · intro h
    refine ⟨now, hfound, ?_⟩
    by_cases hsame : now.id = next.id
    · exact Or.inr hsame
    · exact Or.inl (h.of_commit hnext hnow hschool hcurrent hsame)
  · rintro ⟨now', hfound', hcondition⟩
    obtain rfl : now = now' := Option.some.inj (hfound.symm.trans hfound')
    rcases hcondition with ⟨hclosing, hopen⟩ | hagain
    · exact .commit hids hnext hne hopen honly (Or.inl hclosing)
    · have hopen := hone.notClosed now hnow hschool hcurrent
      exact .commit hids hnext hne (hagain ▸ hopen) honly (Or.inr hagain)

/-- A commit of another school does not concern the school. -/
theorem oneCurrent_commit_other {other : String}
    (hids : (store.db.academicPeriods.map AcademicPeriod.id).Nodup) (hne : other ≠ schoolId)
    (hcurrent : store.HasPeriod other current.id) (hnext : store.HasPeriod other next.id)
    (hone : OneCurrent store schoolId) :
    OneCurrent (store.rolloverTransaction current next other) schoolId := by
  have hkeep : ∀ p ∈ store.db.academicPeriods, p.schoolId = schoolId →
      PeriodDb.movePeriods current next p = p := by
    intro p hp hschool
    rw [PeriodDb.movePeriods, if_neg (hasPeriod_ne hids hnext hne hp hschool),
      if_neg (hasPeriod_ne hids hcurrent hne hp hschool)]
  have hmem : ∀ q, q ∈ (store.rolloverTransaction current next other).db.academicPeriods →
      q.schoolId = schoolId → q ∈ store.db.academicPeriods := by
    intro q hq hschool
    obtain ⟨p, hp, rfl⟩ := mem_rollover_periods.mp hq
    rw [movePeriods_schoolId] at hschool
    rwa [hkeep p hp hschool]
  obtain ⟨now, ⟨hnow, hnowSchool, hnowCurrent⟩, honly⟩ := hone.one
  refine ⟨⟨now, ⟨mem_rollover_periods.mpr ⟨now, hnow, hkeep now hnow hnowSchool⟩, hnowSchool,
    hnowCurrent⟩, ?_⟩, ?_⟩
  · rintro q ⟨hq, hschool, hon⟩
    exact honly q ⟨hmem q hq hschool, hschool, hon⟩
  · intro q hq hschool hon
    have hq := hmem q hq hschool
    rw [rollover_closedPeriods, List.mem_cons, not_or]
    exact ⟨hasPeriod_ne hids hcurrent hne hq hschool, hone.notClosed q hq hschool hon⟩

end Commit

/-! ## Runs -/

/-- What a call has read is a period of its school, and its target another one. -/
def PeriodDb.Knows (store : PeriodDb) (req : RolloverRequest) : RolloverPhase → Prop
  | .read current => store.HasPeriod req.schoolId current.id
  | .approved current next => store.HasPeriod req.schoolId current.id ∧
      store.HasPeriod req.schoolId next.id ∧ next.id ≠ current.id

theorem PeriodDb.Knows.rollover {store : PeriodDb} {req : RolloverRequest} {phase : RolloverPhase}
    {current next : AcademicPeriod} {owner : String} (h : store.Knows req phase) :
    (store.rolloverTransaction current next owner).Knows req phase := by
  cases phase with
  | read c => exact PeriodDb.HasPeriod.rollover h
  | approved c n => exact ⟨h.1.rollover, h.2.1.rollover, h.2.2⟩

/-- **The invariant**: period ids are unique, the school has one current period, and each call
is about periods of its school. -/
structure RolloverInv (schoolId : String) (s : RolloverSystem P) : Prop where
  ids : (s.store.db.academicPeriods.map AcademicPeriod.id).Nodup
  one : OneCurrent s.store schoolId
  knows : ∀ p req phase, s.call p = some (req, phase) → s.store.Knows req phase

section Step
variable {schoolId : String} {s t : RolloverSystem P} {p : P}

/-- A step that leaves the store alone is about what the call it moves has read. -/
theorem RolloverInv.move (h : RolloverInv schoolId s)
    {call : Option (RolloverRequest × RolloverPhase)}
    (hcall : ∀ req phase, call = some (req, phase) → s.store.Knows req phase) :
    RolloverInv schoolId { s with call := update s.call p call } where
  ids := h.ids
  one := h.one
  knows q req phase hq := by
    dsimp only at hq
    by_cases hqp : q = p
    · subst hqp
      rw [update_self] at hq
      exact hcall req phase hq
    · rw [update_of_ne hqp] at hq
      exact h.knows q req phase hq

theorem start_step {req : RolloverRequest} (h : RolloverInv schoolId s)
    (hstep : rolloverStep s (.start p req) = some t) : RolloverInv schoolId t := by
  simp only [rolloverStep] at hstep
  split at hstep
  case isFalse => cases hstep
  obtain ⟨current, hcurrent, rfl⟩ := Option.map_eq_some_iff.mp hstep
  obtain ⟨hmem, hschool, -⟩ := currentPeriod_sat hcurrent
  refine h.move fun req' phase hcall => ?_
  cases hcall
  exact ⟨current, hmem, rfl, hschool⟩

theorem check_step (h : RolloverInv schoolId s) (hstep : rolloverStep s (.check p) = some t) :
    RolloverInv schoolId t := by
  simp only [rolloverStep] at hstep
  split at hstep
  case h_2 => cases hstep
  rename_i req current hcall
  split at hstep
  · rename_i next hnext
    obtain rfl := Option.some.inj hstep
    obtain ⟨hfound, -, hne⟩ := checkNext_ok hnext
    obtain ⟨hmem, -, hschool⟩ := findPeriod_sat hfound
    refine h.move fun req' phase hcall' => ?_
    cases hcall'
    exact ⟨h.knows p req _ hcall, ⟨next, hmem, rfl, hschool⟩, hne⟩
  · obtain rfl := Option.some.inj hstep
    exact h.move fun _ _ hcall' => by cases hcall'

/-- A commit keeps the one current period of the school exactly if what it read is up to date. -/
theorem commit_step (h : RolloverInv schoolId s) (hstep : rolloverStep s (.commit p) = some t) :
    (OneCurrent t.store schoolId ↔ UpToDate schoolId s (.commit p)) ∧
      (OneCurrent t.store schoolId → RolloverInv schoolId t) := by
  simp only [rolloverStep] at hstep
  split at hstep
  case h_2 => cases hstep
  rename_i req current next hcall
  obtain rfl := Option.some.inj hstep
  obtain ⟨hcurrent, hnext, hne⟩ := h.knows p req _ hcall
  constructor
  · by_cases hschool : req.schoolId = schoolId
    · subst hschool
      refine (oneCurrent_commit_iff h.ids h.one hnext hne).trans ⟨fun hnow => ?_, fun hok => ?_⟩
      · intro req' current' next' hcall' _
        obtain ⟨rfl, hphase⟩ := Prod.mk.inj (Option.some.inj (hcall.symm.trans hcall'))
        cases hphase
        exact hnow
      · exact hok req current next hcall rfl
    · refine iff_of_true (oneCurrent_commit_other h.ids hschool hcurrent hnext h.one) ?_
      intro req' current' next' hcall' hschool'
      obtain ⟨rfl, -⟩ := Prod.mk.inj (Option.some.inj (hcall.symm.trans hcall'))
      exact absurd hschool' hschool
  · intro hone
    refine ⟨(rollover_ids s.store current next req.schoolId).symm ▸ h.ids, hone, ?_⟩
    intro q req' phase hq
    obtain ⟨-, hq⟩ := update_none_iff.mp hq
    exact (h.knows q req' phase hq).rollover

/-- Every step keeps the one current period exactly if it is up to date, and the invariant with
it. -/
theorem RolloverInv.step {a : RolloverAction P} (h : RolloverInv schoolId s)
    (hstep : rolloverStep s a = some t) :
    (OneCurrent t.store schoolId ↔ UpToDate schoolId s a) ∧
      (UpToDate schoolId s a → RolloverInv schoolId t) := by
  have hquiet : RolloverInv schoolId t → UpToDate schoolId s a →
      (OneCurrent t.store schoolId ↔ UpToDate schoolId s a) ∧
        (UpToDate schoolId s a → RolloverInv schoolId t) :=
    fun hinv hok => ⟨iff_of_true hinv.one hok, fun _ => hinv⟩
  cases a with
  | start q req => exact hquiet (start_step h hstep) trivial
  | check q => exact hquiet (check_step h hstep) trivial
  | conflict q =>
    simp only [rolloverStep] at hstep
    split at hstep
    · cases hstep
      exact hquiet h trivial
    · cases hstep
  | commit q =>
    obtain ⟨hiff, hinv⟩ := commit_step h hstep
    exact ⟨hiff, fun hok => hinv (hiff.mpr hok)⟩
  | fail q =>
    cases hstep
    exact hquiet (h.move fun _ _ hcall => by cases hcall) trivial

end Step

/-- **One current period** in every state of every run, of any number of calls for any schools,
in which each commit for the school is up to date; and from each such state the next step keeps
the one current period only if it is. -/
theorem one_current_period {schoolId : String} {s t : RolloverSystem P}
    (hidle : ∀ p, s.call p = none)
    (hids : (s.store.db.academicPeriods.map AcademicPeriod.id).Nodup)
    (hone : OneCurrent s.store schoolId) (hreach : Reach rolloverStep (UpToDate schoolId) s t) :
    OneCurrent t.store schoolId ∧ ∀ a t', rolloverStep t a = some t' →
      (OneCurrent t'.store schoolId ↔ UpToDate schoolId t a) := by
  have hstart : RolloverInv schoolId s :=
    ⟨hids, hone, fun p req phase hcall => by simp [hidle p] at hcall⟩
  have hinv : RolloverInv schoolId t :=
    hreach.invariant hstart fun h hok hstep => (h.step hstep).2 hok
  exact ⟨hinv.one, fun a t' hstep => (hinv.step hstep).1⟩

/-! ## Two administrators -/

def thirdTerm : AcademicPeriod := ⟨"P2", "SCH", false, 200⟩

def toThirdTerm : RolloverRequest := ⟨"SCH", "P2", "bursar"⟩

/-- A school in the first of three terms, and nobody rolling over. -/
def threeTerms : RolloverSystem Nat where
  store := { schoolTerms enrolledDb with
    db := { enrolledDb with academicPeriods := [firstTerm, secondTerm, thirdTerm] } }
  call := fun _ => none

theorem threeTerms_oneCurrent : OneCurrent threeTerms.store "SCH" where
  one := by
    refine ⟨firstTerm, ⟨by decide, rfl, rfl⟩, ?_⟩
    show ∀ p, p ∈ [firstTerm, secondTerm, thirdTerm] ∧ p.schoolId = "SCH" ∧ p.isCurrent = true →
      p = firstTerm
    rintro p ⟨hp, -, hcurrent⟩
    simp only [List.mem_cons, List.not_mem_nil, or_false] at hp
    rcases hp with rfl | rfl | rfl
    · rfl
    · cases hcurrent
    · cases hcurrent
  notClosed _ _ _ _ := List.not_mem_nil

/-- One administrator rolls over to the second term, the other from there to the third. -/
theorem one_current_period_in_turn :
    ∃ t, exec rolloverStep threeTerms [.start 1 toSecondTerm, .check 1, .commit 1,
        .start 2 toThirdTerm, .check 2, .commit 2] = some t ∧ OneCurrent t.store "SCH" := by
  refine ⟨_, rfl, (@one_current_period Nat _ "SCH" threeTerms _ (fun _ => rfl) (by decide)
    threeTerms_oneCurrent ?_).1⟩
  refine .head (a := .start 1 toSecondTerm) trivial rfl (.head (a := .check 1) trivial rfl
    (.head (a := .commit 1) ?_ rfl (.head (a := .start 2 toThirdTerm) trivial rfl
      (.head (a := .check 2) trivial rfl (.head (a := .commit 2) ?_ rfl .refl)))))
  · intro req current next hcall _
    obtain ⟨rfl, hphase⟩ := Prod.mk.inj (Option.some.inj hcall)
    cases hphase
    exact ⟨firstTerm, rfl, Or.inl ⟨rfl, List.not_mem_nil⟩⟩
  · intro req current next hcall _
    obtain ⟨rfl, hphase⟩ := Prod.mk.inj (Option.some.inj hcall)
    cases hphase
    exact ⟨{ secondTerm with isCurrent := true }, rfl, Or.inl ⟨rfl, by decide⟩⟩

/-- Two administrators roll over to different terms; the second transaction conflicts with the
first, runs again, and leaves both terms current. -/
theorem rollovers_race :
    ¬ ∀ (schoolId : String) (s t : RolloverSystem Nat), (∀ p, s.call p = none) →
      (s.store.db.academicPeriods.map AcademicPeriod.id).Nodup → OneCurrent s.store schoolId →
      Reach rolloverStep Free s t → (∀ p, t.call p = none) → OneCurrent t.store schoolId := by
  intro h
  obtain ⟨t, hexec, hidle, hperiods⟩ : ∃ t, exec rolloverStep threeTerms
      [.start 1 toSecondTerm, .check 1, .start 2 toThirdTerm, .check 2, .commit 1, .conflict 2,
        .commit 2] = some t ∧ (∀ p, t.call p = none) ∧
      t.store.db.academicPeriods = [{ firstTerm with isCurrent := false },
        { secondTerm with isCurrent := true }, { thirdTerm with isCurrent := true }] := by
    refine ⟨_, rfl, fun p => ?_, rfl⟩
    by_cases hfirst : p = 1
    · subst hfirst
      rfl
    by_cases hsecond : p = 2
    · subst hsecond
      rfl
    · simp [update_of_ne, hfirst, hsecond, threeTerms]
  have hone := h "SCH" threeTerms t (fun _ => rfl) (by decide) threeTerms_oneCurrent
    (reach_of_exec hexec) hidle
  have hsecond : { secondTerm with isCurrent := true } ∈ t.store.db.academicPeriods ∧
      secondTerm.schoolId = "SCH" ∧ true = true := ⟨by simp [hperiods], rfl, rfl⟩
  have hthird : { thirdTerm with isCurrent := true } ∈ t.store.db.academicPeriods ∧
      thirdTerm.schoolId = "SCH" ∧ true = true := ⟨by simp [hperiods], rfl, rfl⟩
  have hsame := hone.one.unique hsecond hthird
  exact absurd (congrArg AcademicPeriod.id hsame) (by decide)

end StellarEduPay

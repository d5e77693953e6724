import Mathlib.Data.Finset.Card
import StellarEduPay.MfaLogin
import StellarEduPay.Runs

/-! # The lockout of a login (`controllers/authController.js`)

`handleLogin` asks whether the login id is locked out before anything else, and a failure is counted
when the password, or the MFA code, turned out wrong; the fifth failure locks the id. The question,
the comparison of the password and the counting are steps of their own, with the lookup of the user
and the slow comparison between them. Requests that have asked before the lock are not asked again.

One process without Redis, one login id, and one window of failures; the cache keeps what it holds. -/

namespace StellarEduPay
open Runs Function

def LOGIN_FAIL_THRESHOLD : Nat := 5

/-! ## What a login comes to -/

/-- The branch of `handleLogin` a request takes once it is not locked out. -/
inductive LoginOutcome where
  /-- It is answered before a password is looked at. -/
  | unavailable
  /-- The login fails with no password to compare, or none to compare it with. -/
  | nothingCompared
  | wrongPassword
  /-- The password is right and an MFA code is asked for. -/
  | asksCode
  | wrongCode
  | loggedIn
  deriving DecidableEq, Repr

section
variable (env : LoginEnv) (user : LoginUser)

/-- `loginId` of a request. -/
def LoginAttempt.loginId (a : LoginAttempt) : String :=
  env.toLowerCase (jsTrim (((truthy a.email).or (truthy a.username)).getD ""))

/-- The password of the administrator of the environment, by its hash if there is one. -/
def adminPasswordMatches (password : String) : Bool :=
  match truthy env.adminPasswordHash with
  | some hash => env.crypto.bcryptCompare password hash
  | none => some password == truthy env.adminPassword

/-- The login of the administrator. -/
def adminOutcome (a : LoginAttempt) : LoginOutcome :=
  match truthy env.adminUsername with
  | none => .unavailable
  | some envUsername =>
    if truthy env.adminPasswordHash = none ∧ truthy env.adminPassword = none then .unavailable
    else if a.loginId env ≠ "" && a.loginId env == envUsername then
      match truthy a.password with
      | none => .nothingCompared
      | some password => if adminPasswordMatches env password then .loggedIn else .wrongPassword
    else .nothingCompared

/-- The login of a stored user. -/
def userOutcome (a : LoginAttempt) : LoginOutcome :=
  match truthy a.password with
  | none => .nothingCompared
  | some password =>
    if env.crypto.bcryptCompare password user.passwordHash then
      match checkMfa env.crypto a.now user a.mfaCode with
      | .ok _ => .loggedIn
      | .error .requiresMfa => .asksCode
      | .error _ => .wrongCode
    else .wrongPassword

/-- The branch of a request; an address without a user has its password compared with a hash that
nothing matches. -/
def loginOutcome (a : LoginAttempt) : LoginOutcome :=
  if (truthy a.email).isNone then adminOutcome env a
  else if a.dbFailed then .unavailable
  else if a.loginId env = user.email then userOutcome env user a
  else .wrongPassword

/-- The response to a request that was locked out or not. -/
def loginResponse (a : LoginAttempt) (lockedOut : Bool) : LoginResponse :=
  (handleLogin env user { a with lockedOut := lockedOut }).1

end

/-! ## Requests side by side -/

/-- Where a request is. -/
inductive LoginPhase where
  | arrived
  /-- It was not locked out when it asked. -/
  | passed
  /-- The comparison is under way, if there is one, or the failure is about to be counted. -/
  | comparing
  | answered (response : LoginResponse)
  deriving DecidableEq

structure LoginRequest where
  attempt : LoginAttempt
  phase : LoginPhase

/-- The two entries of the cache, the requests, and three ghosts: the wrong passwords that are being
compared, and how many comparisons of one began before the lock and after it. -/
structure LockoutSystem where
  fails : Nat
  locked : Bool
  request : Nat → Option LoginRequest
  guessing : Finset Nat
  guessesBefore : Nat
  guessesAfter : Nat

inductive LockoutAction where
  | arrive (r : Nat) (a : LoginAttempt)
  | check (r : Nat)
  | compare (r : Nat)
  | finish (r : Nat)

namespace LockoutSystem
variable (s : LockoutSystem)

/-- A window without failures so far. -/
def start : LockoutSystem := ⟨0, false, fun _ => none, ∅, 0, 0⟩

/-- `isLockedOut` -/
def isLockedOut : Bool := s.locked

/-- `recordLoginFailure` -/
def recordLoginFailure : LockoutSystem :=
  let newCount := s.fails + 1
  { s with fails := newCount, locked := s.locked || decide (LOGIN_FAIL_THRESHOLD ≤ newCount) }

/-- `clearLoginFailures` -/
def clearLoginFailures : LockoutSystem := { s with fails := 0, locked := false }

def goto (r : Nat) (a : LoginAttempt) (phase : LoginPhase) : LockoutSystem :=
  { s with request := update s.request r (some ⟨a, phase⟩) }

theorem goto_request (r : Nat) (a : LoginAttempt) (phase : LoginPhase) :
    (s.goto r a phase).request = update s.request r (some ⟨a, phase⟩) :=
  rfl

theorem goto_guessing (r : Nat) (a : LoginAttempt) (phase : LoginPhase) :
    (s.goto r a phase).guessing = s.guessing :=
  rfl

/-- The comparison of a wrong password begins. -/
def guess (r : Nat) : LockoutSystem :=
  { s with
    guessing := insert r s.guessing
    guessesBefore := if s.locked then s.guessesBefore else s.guessesBefore + 1
    guessesAfter := if s.locked then s.guessesAfter + 1 else s.guessesAfter }

/-- What is left to do when the comparison is over. -/
def settle (r : Nat) : LoginOutcome → LockoutSystem
  | .wrongPassword => { s.recordLoginFailure with guessing := s.guessing.erase r }
  | .nothingCompared | .wrongCode => s.recordLoginFailure
  | .loggedIn => s.clearLoginFailures
  | .unavailable | .asksCode => s

end LockoutSystem

section
variable (env : LoginEnv) (user : LoginUser) (loginId : String)

/-- One step of a request for the login id. -/
def lockoutStep (s : LockoutSystem) : LockoutAction → Option LockoutSystem
  | .arrive r a =>
    if a.loginId env = loginId ∧ (s.request r).isNone then some (s.goto r a .arrived) else none
  | .check r =>
    match s.request r with
    | some ⟨a, .arrived⟩ =>
      if s.isLockedOut then some (s.goto r a (.answered (loginResponse env user a true)))
      else some (s.goto r a .passed)
    | _ => none
  | .compare r =>
    match s.request r with
    | some ⟨a, .passed⟩ =>
      match loginOutcome env user a with
      | .unavailable => some (s.goto r a (.answered (loginResponse env user a false)))
      | .wrongPassword => some ((s.guess r).goto r a .comparing)
      | _ => some (s.goto r a .comparing)
    | _ => none
  | .finish r =>
    match s.request r with
    | some ⟨a, .comparing⟩ =>
      some ((s.settle r (loginOutcome env user a)).goto r a
        (.answered (loginResponse env user a false)))
    | _ => none

/-- No more wrong passwords are compared before the lock than failures lead to it, and none after. -/
structure LockoutHolds (s : LockoutSystem) : Prop where
  before : s.guessesBefore ≤ LOGIN_FAIL_THRESHOLD
  after : s.guessesAfter = 0

/-- The requests that arrive take branches of a kind. -/
def Brings (P : LoginOutcome → Prop) (_ : LockoutSystem) : LockoutAction → Prop
  | .arrive _ a => P (loginOutcome env user a)
  | _ => True

/-- The comparison of a wrong password begins only while the failures counted and the wrong passwords
being compared are together fewer than lock the id. -/
def Admitted (s : LockoutSystem) : LockoutAction → Prop
  | .compare r =>
    match s.request r with
    | some ⟨a, .passed⟩ => loginOutcome env user a = .wrongPassword →
      s.fails + s.guessing.card < LOGIN_FAIL_THRESHOLD
    | _ => True
  | _ => True

instance (P : LoginOutcome → Prop) [DecidablePred P] (s : LockoutSystem) (act : LockoutAction) :
    Decidable (Brings env user P s act) := by
  cases act <;> unfold Brings <;> infer_instance

instance (s : LockoutSystem) (act : LockoutAction) : Decidable (Admitted env user s act) := by
  unfold Admitted
  split
  · split <;> infer_instance
  · infer_instance

end

/-! ## The counts of a run -/

/-- What the lockout comes to in numbers. -/
structure LockoutTally where
  fails : Nat
  locked : Bool
  underWay : Nat
  before : Nat
  after : Nat

namespace LockoutTally
variable (t : LockoutTally)

def fail : LockoutTally :=
  { t with
    fails := t.fails + 1
    locked := t.locked || decide (LOGIN_FAIL_THRESHOLD ≤ t.fails + 1) }

def guess : LockoutTally :=
  { t with
    underWay := t.underWay + 1
    before := if t.locked then t.before else t.before + 1
    after := if t.locked then t.after + 1 else t.after }

end LockoutTally

def LockoutSystem.tally (s : LockoutSystem) : LockoutTally :=
  ⟨s.fails, s.locked, s.guessing.card, s.guessesBefore, s.guessesAfter⟩

section
variable {env : LoginEnv} {user : LoginUser} {loginId : String} {P : LoginOutcome → Prop}
  {s s' : LockoutSystem} {act : LockoutAction} {r : Nat} {a : LoginAttempt}

variable (env user P) in
/-- The requests are of the kind that arrives, and the ghost is right about those being compared. -/
structure LockoutTracked (s : LockoutSystem) : Prop where
  brought : ∀ r q, s.request r = some q → P (loginOutcome env user q.attempt)
  guessing : ∀ r, r ∈ s.guessing ↔ ∃ a, s.request r = some ⟨a, .comparing⟩ ∧
    loginOutcome env user a = .wrongPassword

variable (env user) in
/-- What a step does. -/
inductive LockoutMove (s : LockoutSystem) : LockoutAction → LockoutSystem → Prop where
  | arrive (r : Nat) (a : LoginAttempt) (hnew : s.request r = none) :
    LockoutMove s (.arrive r a) (s.goto r a .arrived)
  /-- A request goes on without a wrong password to compare. -/
  | pass (act : LockoutAction) (r : Nat) (a : LoginAttempt) (was phase : LoginPhase)
    (hat : s.request r = some ⟨a, was⟩) (hwas : was ≠ .comparing)
    (hphase : phase = .comparing → loginOutcome env user a ≠ .wrongPassword) :
    LockoutMove s act (s.goto r a phase)
  | guess (r : Nat) (a : LoginAttempt) (hat : s.request r = some ⟨a, .passed⟩)
    (hwrong : loginOutcome env user a = .wrongPassword) :
    LockoutMove s (.compare r) ((s.guess r).goto r a .comparing)
  | settle (r : Nat) (a : LoginAttempt) (response : LoginResponse)
    (hat : s.request r = some ⟨a, .comparing⟩) :
    LockoutMove s (.finish r)
      ((s.settle r (loginOutcome env user a)).goto r a (.answered response))

theorem lockoutStep_move (h : lockoutStep env user loginId s act = some s') :
    LockoutMove env user s act s' := by
  cases act with
  | arrive r a =>
    simp only [lockoutStep, Option.ite_none_right_eq_some, Option.isNone_iff_eq_none] at h
    obtain ⟨⟨-, hnew⟩, hs⟩ := h
    obtain rfl := Option.some.inj hs
    exact .arrive r a hnew
  | check r =>
    rw [lockoutStep] at h
    split at h
    · rename_i a hat
      split at h <;> obtain rfl := Option.some.inj h
      · exact .pass _ r a .arrived _ hat nofun nofun
      · exact .pass _ r a .arrived _ hat nofun nofun
    · cases h
  | compare r =>
    rw [lockoutStep] at h
    split at h
    · rename_i a hat
      split at h <;> obtain rfl := Option.some.inj h
      · exact .pass _ r a .passed _ hat nofun nofun
      · exact .guess r a hat ‹_›
      · exact .pass _ r a .passed _ hat nofun fun _ => ‹_›
    · cases h
  | finish r =>
    rw [lockoutStep] at h
    split at h
    · rename_i a hat
      obtain rfl := Option.some.inj h
      exact .settle r a _ hat
    · cases h

theorem LockoutTracked.notMem_of_request (h : LockoutTracked env user P s) {q : Option LoginRequest}
    (hq : s.request r = q) (hne : ∀ a, q ≠ some ⟨a, .comparing⟩) : r ∉ s.guessing := by
  intro hr
  obtain ⟨a, ha, -⟩ := (h.guessing r).mp hr
  exact hne a (hq ▸ ha)

/-- A request that goes somewhere else leaves the others where they are. -/
theorem LockoutTracked.goto (h : LockoutTracked env user P s) {t : LockoutSystem} {phase : LoginPhase}
    (hrequest : t.request = s.request) (hP : P (loginOutcome env user a))
    (hothers : ∀ r', r' ≠ r → (r' ∈ t.guessing ↔ r' ∈ s.guessing))
    (hown : r ∈ t.guessing ↔ phase = .comparing ∧ loginOutcome env user a = .wrongPassword) :
    LockoutTracked env user P (t.goto r a phase) where
  brought r' q hq := by
    rw [LockoutSystem.goto_request, hrequest] at hq
    by_cases hr : r' = r
    · subst hr
      rw [update_self] at hq
      obtain rfl := Option.some.inj hq
      exact hP
    · rw [update_of_ne hr] at hq
      exact h.brought r' q hq
  guessing r' := by
    rw [LockoutSystem.goto_request, LockoutSystem.goto_guessing, hrequest]
    by_cases hr : r' = r
    · subst hr
      rw [hown, update_self]
      constructor
      · rintro ⟨rfl, hwrong⟩
        exact ⟨a, rfl, hwrong⟩
      · rintro ⟨b, hb, hwrong⟩
        cases hb
        exact ⟨rfl, hwrong⟩
    · rw [hothers r' hr, h.guessing, update_of_ne hr]

variable (P) in
/-- What the end of a request does to the numbers. -/
inductive Settles (t : LockoutTally) : LockoutTally → Prop where
  | same : Settles t t
  /-- A failure that is not that of a wrong password. -/
  | fail (hkind : P .nothingCompared ∨ P .wrongCode) : Settles t t.fail
  | wrong (hsome : 0 < t.underWay) : Settles t { t.fail with underWay := t.underWay - 1 }
  | login (hkind : P .loggedIn) : Settles t { t with fails := 0, locked := false }

theorem LockoutTracked.settle (h : LockoutTracked env user P s)
    (hat : s.request r = some ⟨a, .comparing⟩) (response : LoginResponse) :
    LockoutTracked env user P ((s.settle r (loginOutcome env user a)).goto r a (.answered response)) ∧
      Settles P s.tally (s.settle r (loginOutcome env user a)).tally := by
  have hP : P (loginOutcome env user a) := h.brought r _ hat
  have hmem := h.guessing r
  cases houtcome : loginOutcome env user a with
  | wrongPassword =>
    have hr : r ∈ s.guessing := hmem.mpr ⟨a, hat, houtcome⟩
    have hothers : ∀ r', r' ≠ r → (r' ∈ (s.settle r .wrongPassword).guessing ↔ r' ∈ s.guessing) :=
      fun r' hr' => Finset.mem_erase.trans (and_iff_right hr')
    have hown : r ∉ (s.settle r .wrongPassword).guessing := Finset.notMem_erase r s.guessing
    have hwrong := Settles.wrong (P := P) (t := s.tally) (Finset.card_pos.mpr ⟨r, hr⟩)
    rw [LockoutSystem.tally, ← Finset.card_erase_of_mem hr] at hwrong
    exact ⟨h.goto (t := s.settle r .wrongPassword) rfl hP hothers
      (iff_of_false hown fun hcomparing => nomatch hcomparing.1), hwrong⟩
  | _ =>
    have hr : r ∉ s.guessing := by
      rw [hmem]
      rintro ⟨b, hb, hwrong⟩
      rw [hat] at hb
      cases hb
      rw [houtcome] at hwrong
      cases hwrong
    rw [houtcome] at hP
    refine ⟨h.goto rfl (houtcome ▸ hP) (fun _ _ => Iff.rfl)
      ⟨fun hin => absurd hin hr, fun hwrong => nomatch hwrong.1⟩, ?_⟩
    first
      | exact .same
      | exact .fail (.inl hP)
      | exact .fail (.inr hP)
      | exact .login hP

/-- The comparison of a wrong password begins. -/
theorem LockoutTracked.guess (h : LockoutTracked env user P s) (hat : s.request r = some ⟨a, .passed⟩)
    (hwrong : loginOutcome env user a = .wrongPassword) :
    LockoutTracked env user P ((s.guess r).goto r a .comparing) ∧
      (s.guess r).tally = s.tally.guess := by
  have hr : r ∉ s.guessing := h.notMem_of_request hat fun b hb => by cases hb
  have hP : P (loginOutcome env user a) := h.brought r _ hat
  have hothers : ∀ r', r' ≠ r → (r' ∈ (s.guess r).guessing ↔ r' ∈ s.guessing) :=
    fun r' hr' => Finset.mem_insert.trans (or_iff_right hr')
  have hown : r ∈ (s.guess r).guessing := Finset.mem_insert_self r s.guessing
  refine ⟨h.goto (t := s.guess r) rfl hP hothers (iff_of_true hown ⟨rfl, hwrong⟩), ?_⟩
  rw [LockoutSystem.tally, LockoutSystem.guess, Finset.card_insert_of_notMem hr]
  rfl

/-- **The step rule**: a property of the numbers that a guess keeps, and the end of a request, is
kept by every step. -/
theorem LockoutTracked.step {Q : LockoutTally → Prop} (h : LockoutTracked env user P s) (hQ : Q s.tally)
    (hbrings : Brings env user P s act) (hmove : LockoutMove env user s act s')
    (hguess : ∀ r a, act = .compare r → s.request r = some ⟨a, .passed⟩ →
      loginOutcome env user a = .wrongPassword → Q s.tally.guess)
    (hsettle : ∀ t, Settles P s.tally t → Q t) : LockoutTracked env user P s' ∧ Q s'.tally := by
  cases hmove with
  | arrive r a hnew =>
    have hr : r ∉ s.guessing := h.notMem_of_request hnew fun b hb => by cases hb
    exact ⟨h.goto rfl hbrings (fun _ _ => Iff.rfl) (iff_of_false hr nofun), hQ⟩
  | pass act r a was phase hat hwas hphase =>
    have hr : r ∉ s.guessing := h.notMem_of_request hat fun b hb => by
      cases hb
      exact hwas rfl
    exact ⟨h.goto rfl (h.brought r _ hat) (fun _ _ => Iff.rfl)
      (iff_of_false hr fun hown => hphase hown.1 hown.2), hQ⟩
  | guess r a hat hwrong =>
    obtain ⟨htracked, htally⟩ := h.guess hat hwrong
    exact ⟨htracked, htally ▸ hguess r a rfl hat hwrong⟩
  | settle r a response hat => exact ⟨(h.settle hat response).1, hsettle _ (h.settle hat response).2⟩

end

namespace LockoutTally
variable {t t' : LockoutTally} {P : LoginOutcome → Prop}

/-- The lock is set by the failures counted, and before it every comparison that began has failed or
is under way. -/
structure Safe (t : LockoutTally) : Prop where
  locked : t.locked = true → LOGIN_FAIL_THRESHOLD ≤ t.fails
  unlocked : t.locked = false → t.fails < LOGIN_FAIL_THRESHOLD ∧ t.before ≤ t.fails + t.underWay
  before : t.before ≤ LOGIN_FAIL_THRESHOLD
  after : t.after = 0

theorem Safe.guess (h : t.Safe) (hfew : t.fails + t.underWay < LOGIN_FAIL_THRESHOLD) :
    t.guess.Safe := by
  have hunlocked : t.locked = false := by
    refine Bool.eq_false_iff.mpr fun hlocked => ?_
    have := h.locked hlocked
    omega
  obtain ⟨hfails, hbefore⟩ := h.unlocked hunlocked
  constructor <;> simp only [LockoutTally.guess, hunlocked]
  · simp
  · intro _
    exact ⟨hfails, by simp only [Bool.false_eq_true, if_false]; omega⟩
  · simp only [Bool.false_eq_true, if_false]
    omega
  · exact h.after

theorem Safe.fail (h : t.Safe) : t.fail.Safe where
  locked hlocked := by
    simp only [LockoutTally.fail, Bool.or_eq_true, decide_eq_true_eq] at hlocked ⊢
    rcases hlocked with hlocked | hreached
    · have := h.locked hlocked
      omega
    · exact hreached
  unlocked hlocked := by
    simp only [LockoutTally.fail, Bool.or_eq_false_iff, decide_eq_false_iff_not, not_le] at hlocked
    have := h.unlocked hlocked.1
    exact ⟨hlocked.2, by simp only [LockoutTally.fail]; omega⟩
  before := h.before
  after := h.after

theorem Safe.settles (h : t.Safe) (hP : ¬ P .loggedIn) (hsettles : Settles P t t') : t'.Safe := by
  cases hsettles with
  | same => exact h
  | fail hkind => exact h.fail
  | wrong hsome =>
    refine ⟨h.fail.locked, fun hlocked => ?_, h.before, h.after⟩
    obtain ⟨hfails, -⟩ := h.fail.unlocked hlocked
    simp only [LockoutTally.fail, Bool.or_eq_false_iff] at hlocked
    have := h.unlocked hlocked.1
    exact ⟨hfails, by simp only [LockoutTally.fail]; omega⟩
  | login hkind => exact absurd hkind hP

/-- With wrong passwords alone, the failures and the comparisons under way are those that began, and
the fifth failure is the lock. -/
structure Spent (t : LockoutTally) : Prop where
  sum : t.fails + t.underWay = t.before + t.after

theorem Spent.guess (h : t.Spent) : t.guess.Spent := by
  have := h.sum
  constructor
  simp only [LockoutTally.guess]
  split <;> omega

theorem Spent.settles (h : t.Spent) (hP : ∀ o, P o → o = .wrongPassword)
    (hsettles : Settles P t t') : t'.Spent := by
  cases hsettles with
  | same => exact h
  | fail hkind => rcases hkind with hkind | hkind <;> cases hP _ hkind
  | wrong hsome =>
    have := h.sum
    constructor
    simp only [LockoutTally.fail]
    omega
  | login hkind => cases hP _ hkind

end LockoutTally

/-! ## When the lockout holds -/

section
variable {env : LoginEnv} {user : LoginUser} {loginId : String} {s s' : LockoutSystem} {r : Nat}

theorem LockoutTracked.start {P : LoginOutcome → Prop} : LockoutTracked env user P .start where
  brought _ _ h := nomatch h
  guessing r := by simp [LockoutSystem.start]

/-- **The run rule**: a property of the numbers that holds at the start, that every guess a run allows
keeps, and every end of a request, holds after the run. -/
theorem LockoutTracked.run {P : LoginOutcome → Prop} {Q : LockoutTally → Prop}
    {ok : LockoutSystem → LockoutAction → Prop}
    (hrun : Reach (lockoutStep env user loginId) ok .start s) (hstart : Q LockoutSystem.start.tally)
    (hbrings : ∀ s act, ok s act → Brings env user P s act)
    (hguess : ∀ s r a, ok s (.compare r) → s.request r = some ⟨a, .passed⟩ →
      loginOutcome env user a = .wrongPassword → Q s.tally → Q s.tally.guess)
    (hsettle : ∀ t t', Settles P t t' → Q t → Q t') : Q s.tally := by
  refine (@Reach.invariant _ _ _ _ (fun s => LockoutTracked env user P s ∧ Q s.tally) _ _ hrun
    ⟨.start, hstart⟩ ?_).2
  intro s act s' ⟨htracked, hQ⟩ hok hstep
  refine htracked.step hQ (hbrings _ _ hok) (lockoutStep_move hstep) ?_ fun t ht => hsettle _ t ht hQ
  rintro r a rfl hat hwrong
  exact hguess s r a hok hat hwrong hQ

/-- In a run whose comparisons begin only when they may, the lockout holds. -/
theorem lockoutHolds_of_admitted
    (hrun : Reach (lockoutStep env user loginId)
      (fun s act => Brings env user (· ≠ .loggedIn) s act ∧ Admitted env user s act) .start s) :
    LockoutHolds s := by
  have hsafe : s.tally.Safe := by
    refine @LockoutTracked.run _ _ _ _ (· ≠ .loggedIn) _ _ hrun ?_ (fun _ _ hok => hok.1) ?_ ?_
    · exact ⟨nofun, fun _ => ⟨by decide, Nat.zero_le _⟩, Nat.zero_le _, rfl⟩
    · intro s r a hok hat hwrong hsafe
      have hadmitted := hok.2
      simp only [Admitted, hat] at hadmitted
      exact hsafe.guess (hadmitted hwrong)
    · intro t t' hsettles hsafe
      exact hsafe.settles (not_not_intro rfl) hsettles
  exact ⟨hsafe.before, hsafe.after⟩

/-- In a run of wrong passwords alone, the first comparison that may not begin breaks it. -/
theorem not_lockoutHolds_of_not_admitted
    (hrun : Reach (lockoutStep env user loginId) (Brings env user (· = .wrongPassword)) .start s)
    (hnot : ¬ Admitted env user s (.compare r))
    (hstep : lockoutStep env user loginId s (.compare r) = some s') : ¬ LockoutHolds s' := by
  have hspent : s.tally.Spent := by
    refine LockoutTracked.run hrun ⟨rfl⟩ (fun _ _ hok => hok) ?_ ?_
    · intro s r a _ _ _ hspent
      exact hspent.guess
    · intro t t' hsettles hspent
      exact hspent.settles (fun _ h => h) hsettles
  have hsum := hspent.sum
  rw [Admitted] at hnot
  split at hnot
  case h_2 => exact absurd trivial hnot
  rename_i a hat
  obtain ⟨hwrong, hnot⟩ := Classical.not_imp.mp hnot
  simp only [lockoutStep, hat, hwrong, Option.some.injEq] at hstep
  subst hstep
  rintro ⟨hbefore, hafter⟩
  simp only [LockoutSystem.goto, LockoutSystem.guess] at hbefore hafter
  simp only [LockoutSystem.tally] at hsum
  cases hlocked : s.locked with
  | true => simp [hlocked] at hafter
  | false =>
    simp only [hlocked, Bool.false_eq_true, if_false] at hbefore hafter
    exact hnot (by omega)

end

/-- **When the lockout holds**: in every run in which the comparison of a wrong password begins only
while the failures counted and the wrong passwords being compared are fewer than lock the id; and in a
run of wrong passwords, only then. -/
theorem lockout_holds_when (env : LoginEnv) (user : LoginUser) (loginId : String) :
    (∀ s, Reach (lockoutStep env user loginId)
      (fun s act => Brings env user (· ≠ .loggedIn) s act ∧ Admitted env user s act) .start s →
        LockoutHolds s) ∧
    (∀ s s' r, Reach (lockoutStep env user loginId) (Brings env user (· = .wrongPassword)) .start s →
      ¬ Admitted env user s (.compare r) →
        lockoutStep env user loginId s (.compare r) = some s' → ¬ LockoutHolds s') :=
  ⟨fun _ hrun => lockoutHolds_of_admitted hrun,
    fun _ _ _ hrun hnot hstep => not_lockoutHolds_of_not_admitted hrun hnot hstep⟩

/-- A wrong password for the user. -/
def wrongGuess : LoginAttempt where
  now := 0
  email := some "ada@school.org"
  password := some "guess"
  mfaCode := none

/-- Seven requests ask before any is counted; six compare at once, and the last one compares when
five of them have failed. -/
def guessesAtOnce : List LockoutAction :=
  (List.range 7).map (.arrive · wrongGuess) ++ (List.range 7).map .check ++
    (List.range 6).map .compare ++ (List.range 5).map .finish ++ [.compare 6]

/-- Six passwords are compared before the lock, and one after it. -/
theorem parallel_guesses_pass :
    ¬ ∀ (env : LoginEnv) (user : LoginUser) (loginId : String) (s : LockoutSystem),
      Reach (lockoutStep env user loginId) (Brings env user (· ≠ .loggedIn)) .start s →
        LockoutHolds s := by
  intro h
  have hrun := Reach.getOk (show (execOk (lockoutStep plainLogin enrolledLogin "ada@school.org")
    (Brings plainLogin enrolledLogin (· ≠ .loggedIn)) .start guessesAtOnce).isSome = true by
      decide +kernel)
  exact absurd (h _ _ _ _ hrun).before (by decide +kernel)

/-- Six requests one after the other. -/
def guessesInTurn : List LockoutAction :=
  (List.range 6).flatMap (fun r => [.arrive r wrongGuess, .check r] ++
    if r < 5 then [.compare r, .finish r] else [])

/-- Five wrong passwords in turn lock the id, and the sixth is refused; of six that are compared at
once the sixth is too many. -/
theorem guesses_in_turn_locked :
    (∃ s : LockoutSystem, s.locked = true ∧ s.guessesBefore = 5 ∧ LockoutHolds s) ∧
      ∃ s : LockoutSystem, s.guessing.card = 6 ∧ ¬ LockoutHolds s := by
  obtain ⟨hholds, hfails⟩ := lockout_holds_when plainLogin enrolledLogin "ada@school.org"
  constructor
  · have hrun := Reach.getOk (show (execOk (lockoutStep plainLogin enrolledLogin "ada@school.org")
      (fun s act => Brings plainLogin enrolledLogin (· ≠ .loggedIn) s act ∧
        Admitted plainLogin enrolledLogin s act) .start guessesInTurn).isSome = true by
          decide +kernel)
    exact ⟨_, by decide +kernel, by decide +kernel, hholds _ hrun⟩
  · have hrun := Reach.getOk (show (execOk (lockoutStep plainLogin enrolledLogin "ada@school.org")
      (Brings plainLogin enrolledLogin (· = .wrongPassword)) .start
        (guessesAtOnce.take 19)).isSome = true by decide +kernel)
    have hstep := (Option.some_get (show (lockoutStep plainLogin enrolledLogin "ada@school.org"
      ((execOk (lockoutStep plainLogin enrolledLogin "ada@school.org")
        (Brings plainLogin enrolledLogin (· = .wrongPassword)) .start
          (guessesAtOnce.take 19)).get (by decide +kernel)) (.compare 5)).isSome = true by
            decide +kernel)).symm
    exact ⟨_, by decide +kernel, hfails _ _ 5 hrun (by decide +kernel) hstep⟩

end StellarEduPay

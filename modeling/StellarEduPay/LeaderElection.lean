import Mathlib.Logic.Function.Basic
import StellarEduPay.Runs

/-! # Leader election (`services/leaderElection.js`)

Instances share one lock document.  A timer step, `start` and `stop` each read the local state and
the clock, make one conditional update of the document, and act on the answer; the instance may be
paused, and its next timer may fire, at each of these points.

The updates that renew and release a lease ask that the document is locked, not by whom.  Who
acquired the lock last, and until when each instance was told its own lease runs, are ghosts.
-/
namespace StellarEduPay
open Runs Function

/-! ## The lock document -/

/-- The lock document of a `SystemConfig` key. -/
structure LeaderLock where
  value : Option String
  expiresAt : Nat
  deriving DecidableEq, Repr

/-- `{ key, value: 'locked' }` matches. -/
def isLocked (lock : Option LeaderLock) : Bool :=
  lock.any (·.value == some "locked")

/-- `acquireLock`: update a document that has no value or has expired, insert one if there is none;
a duplicate key is `false`. -/
def acquireLock (leaseDurationMs now : Nat) (lock : Option LeaderLock) : Bool × Option LeaderLock :=
  match lock with
  | none => (true, some ⟨some "locked", now + leaseDurationMs⟩)
  | some doc =>
    if doc.value = none ∨ doc.expiresAt < now then (true, some ⟨some "locked", now + leaseDurationMs⟩)
    else (false, some doc)

/-- `renewLock` -/
def renewLock (leaseDurationMs now : Nat) (lock : Option LeaderLock) : Bool × Option LeaderLock :=
  match lock with
  | some doc =>
    if doc.value = some "locked" then (true, some { doc with expiresAt := now + leaseDurationMs })
    else (false, some doc)
  | none => (false, none)

/-- `releaseLock` -/
def releaseLock (lock : Option LeaderLock) : Option LeaderLock :=
  lock.map fun doc => if doc.value = some "locked" then ⟨some "", 0⟩ else doc

/-! ## The instances -/

/-- What an instance called: `start`, its timer when it was not the leader and when it was, or
`stop`. -/
inductive LeaderCallKind
  | start
  | acquire
  | renew
  | release
  deriving DecidableEq, Repr

/-- A call under way, with the time it read.  `answer` is there once the update was made; `clean`, a
ghost, says that no other instance has acquired the lock since the call began. -/
structure LeaderCall where
  caller : Nat
  kind : LeaderCallKind
  now : Nat
  answer : Option Bool
  clean : Bool
  deriving DecidableEq, Repr

/-- `isLeader`, whether `renewTimer` is set, and whether the process is there.  `settled`, a ghost,
says that no other instance has acquired the lock since the instance became the leader, or that it
has made a renewal step since then. -/
structure LeaderInstance where
  isLeader : Bool
  renewTimer : Bool
  alive : Bool
  settled : Bool
  deriving DecidableEq, Repr

/-- The document, the instances and their calls, the common clock, and three ghosts: who acquired
the lock last, the expiry each instance wrote last, and the leases that were renewed or released, by
whom and of whom. -/
structure LeaderSystem where
  clock : Nat
  lock : Option LeaderLock
  inst : Nat → LeaderInstance
  call : Nat → Option LeaderCall
  holder : Option Nat
  lease : Nat → Option Nat
  writes : List (Nat × Option Nat)

inductive LeaderAction
  | tick (ms : Nat)
  | start (i c : Nat)
  | timer (i c : Nat)
  | stop (i c : Nat)
  | execute (c : Nat)
  | resume (c : Nat)
  | throws (c : Nat)
  | crash (i : Nat)
  deriving DecidableEq, Repr

namespace LeaderSystem

/-- Nobody has started, at some time after the epoch. -/
def init (clock : Nat) : LeaderSystem :=
  ⟨clock + 1, none, fun _ => ⟨false, false, true, true⟩, fun _ => none, none, fun _ => none, []⟩

/-- Instance `i` calls the store. -/
def begin (s : LeaderSystem) (i c : Nat) (kind : LeaderCallKind) : LeaderSystem :=
  { s with call := update s.call c (some ⟨i, kind, s.clock, none, true⟩) }

/-- The update of a call was made, with an answer. -/
def answered (s : LeaderSystem) (c : Nat) (x : LeaderCall) (b : Bool) : LeaderSystem :=
  { s with call := update s.call c (some { x with answer := some b }) }

/-- Instance `i` acquired the lock: from here on the others are overtaken. -/
def acquired (s : LeaderSystem) (i expiresAt : Nat) (lock : Option LeaderLock) : LeaderSystem :=
  { s with
    lock := lock
    holder := some i
    lease := update s.lease i (some expiresAt)
    inst := fun j => if j = i then s.inst j else { s.inst j with settled := false }
    call := fun c => (s.call c).map fun x =>
      if x.caller = i then x else { x with clean := false } }

/-- Instance `i` renewed or released the lease there is. -/
def rewrote (s : LeaderSystem) (i : Nat) (expiresAt : Option Nat) (lock : Option LeaderLock) :
    LeaderSystem :=
  { s with
    lock := lock
    lease := update s.lease i expiresAt
    writes := (i, s.holder) :: s.writes }

def setInst (s : LeaderSystem) (i : Nat) (x : LeaderInstance) : LeaderSystem :=
  { s with inst := update s.inst i x }

def ended (s : LeaderSystem) (c : Nat) : LeaderSystem :=
  { s with call := update s.call c none }

end LeaderSystem

/-- One step of the election; `leaseDurationMs` of each instance. -/
def leaderStep (leaseDurationMs : Nat → Nat) (s : LeaderSystem) : LeaderAction → Option LeaderSystem
  | .tick ms => some { s with clock := s.clock + ms }
  | .start i c =>
    if (s.inst i).alive = true ∧ s.call c = none then some (s.begin i c .start) else none
  | .timer i c =>
    if (s.inst i).alive = true ∧ (s.inst i).renewTimer = true ∧ s.call c = none then
      some (s.begin i c (if (s.inst i).isLeader then .renew else .acquire))
    else none
  | .stop i c =>
    if (s.inst i).alive = true ∧ s.call c = none then
      let stopped := s.setInst i { s.inst i with renewTimer := false }
      some (if (s.inst i).isLeader then stopped.begin i c .release else stopped)
    else none
  | .execute c =>
    match s.call c with
    | some x =>
      if x.answer.isSome then none
      else
        let expiresAt := x.now + leaseDurationMs x.caller
        match x.kind with
        | .start | .acquire =>
          let (acquired, lock) := acquireLock (leaseDurationMs x.caller) x.now s.lock
          some (if acquired then (s.acquired x.caller expiresAt lock).answered c x true
            else s.answered c x false)
        | .renew =>
          let (renewed, lock) := renewLock (leaseDurationMs x.caller) x.now s.lock
          some (if renewed then (s.rewrote x.caller (some expiresAt) lock).answered c x true
            else s.answered c x false)
        | .release =>
          some (if isLocked s.lock then
              (s.rewrote x.caller none (releaseLock s.lock)).answered c x true
            else s.answered c x true)
    | none => none
  | .resume c =>
    match s.call c with
    | some ⟨i, kind, _, some b, clean⟩ =>
      let x := s.inst i
      if x.alive = true then
        match kind with
        | .start =>
          some ((s.ended c).setInst i (if b
            then { x with isLeader := true, renewTimer := true, settled := clean }
            else { x with renewTimer := true }))
        | .acquire =>
          some ((s.ended c).setInst i (if b then { x with isLeader := true, settled := clean } else x))
        | .renew =>
          some ((s.ended c).setInst i
            { x with isLeader := b && x.isLeader, settled := x.settled || clean })
        | .release => some ((s.ended c).setInst i { x with isLeader := false })
      else none
    | _ => none
  | .throws c => if (s.call c).isSome then some (s.ended c) else none
  | .crash i => some (s.setInst i { s.inst i with isLeader := false, renewTimer := false, alive := false })

/-! ## At most one leader -/

/-- A leader's renewal or release reaches a lock that is held before its own lease has run out, or
before another instance has acquired the lock. -/
def inTime (s : LeaderSystem) : LeaderAction → Bool
  | .execute c =>
    match s.call c with
    | some x =>
      match x.kind with
      | .renew | .release => !isLocked s.lock || s.holder == some x.caller ||
          (s.lease x.caller).any (s.clock ≤ ·)
      | _ => true
    | none => true
  | _ => true

/-- The condition on the steps of a run. -/
def InTime (s : LeaderSystem) (a : LeaderAction) : Prop := inTime s a = true

instance (s : LeaderSystem) (a : LeaderAction) : Decidable (InTime s a) :=
  inferInstanceAs (Decidable (_ = true))

/-- What an election promises of every state: no instance has renewed or released the lease of
another, of the instances that were not overtaken or have made a timer step since then at most one
considers itself the leader, and a lock that was released or has expired is there for the next call. -/
structure LeaderSafe (s : LeaderSystem) : Prop where
  own : ∀ w ∈ s.writes, w.2 = some w.1
  atMostOne : ∀ i j, (s.inst i).isLeader = true → (s.inst i).settled = true →
    (s.inst j).isLeader = true → (s.inst j).settled = true → i = j
  free : ∀ leaseDurationMs now, 0 < now →
    (∀ doc, s.lock = some doc → doc.value = some "locked" → doc.expiresAt < now) →
    (acquireLock leaseDurationMs now s.lock).1 = true

/-- A lock is the lease of whoever acquired it last, and a lease somebody else may be renewing has
run out.  Who became the leader and was not overtaken holds the lock. -/
structure LeaderInv (s : LeaderSystem) : Prop where
  lock : ∀ doc, s.lock = some doc → doc = ⟨some "", 0⟩ ∨
    (doc.value = some "locked" ∧ ∃ j, s.holder = some j ∧ s.lease j = some doc.expiresAt)
  lease : ∀ i e, s.lease i = some e →
    (s.holder = some i ∧ isLocked s.lock = true) ∨ e < s.clock
  now : ∀ c x, s.call c = some x → x.now ≤ s.clock
  answer : ∀ c x, s.call c = some x → x.answer = some true → x.kind ≠ .release →
    x.clean = true → s.holder = some x.caller
  leader : ∀ i, (s.inst i).isLeader = true → (s.inst i).settled = true → s.holder = some i
  own : ∀ w ∈ s.writes, w.2 = some w.1

section
variable {leaseDurationMs : Nat → Nat} {s : LeaderSystem}

/-- A lock that can be acquired holds no lease that still runs. -/
theorem acquireLock_eq_true {lease now : Nat} {lock : Option LeaderLock}
    (h : (acquireLock lease now lock).1 = true) :
    (acquireLock lease now lock).2 = some ⟨some "locked", now + lease⟩ ∧
      ∀ doc, lock = some doc → doc.value = none ∨ doc.expiresAt < now := by
  cases lock with
  | none => exact ⟨rfl, by simp⟩
  | some doc =>
    by_cases hfree : doc.value = none ∨ doc.expiresAt < now
    · exact ⟨by simp [acquireLock, hfree], by rintro _ ⟨⟩; exact hfree⟩
    · simp [acquireLock, hfree] at h

theorem renewLock_eq_true {lease now : Nat} {lock : Option LeaderLock}
    (h : (renewLock lease now lock).1 = true) :
    isLocked lock = true ∧ (renewLock lease now lock).2 = some ⟨some "locked", now + lease⟩ := by
  cases lock with
  | none => cases h
  | some doc =>
    by_cases hlocked : doc.value = some "locked"
    · simp [isLocked, renewLock, hlocked]
    · simp [renewLock, hlocked] at h

theorem releaseLock_of_isLocked {lock : Option LeaderLock} (h : isLocked lock = true) :
    releaseLock lock = some ⟨some "", 0⟩ := by
  cases lock with
  | none => cases h
  | some doc =>
    have hvalue : doc.value = some "locked" := by simpa [isLocked] using h
    simp [releaseLock, hvalue]

namespace LeaderInv

theorem init (clock : Nat) : LeaderInv (.init clock) := by
  constructor <;> simp [LeaderSystem.init]

theorem tick (hinv : LeaderInv s) (ms : Nat) : LeaderInv { s with clock := s.clock + ms } where
  lock := hinv.lock
  lease := by
    intro i e he
    rcases hinv.lease i e he with h | h
    · exact Or.inl h
    · exact Or.inr (by dsimp only; omega)
  now := by
    intro c x hx
    have h := hinv.now c x hx
    dsimp only
    omega
  answer := hinv.answer
  leader := hinv.leader
  own := hinv.own

/-- The state of an instance changes; it becomes a leader that was not overtaken only if it holds
the lock. -/
theorem setInst (hinv : LeaderInv s) {i : Nat} {x : LeaderInstance}
    (hx : x.isLeader = true → x.settled = true → s.holder = some i) : LeaderInv (s.setInst i x) where
  lock := hinv.lock
  lease := hinv.lease
  now := hinv.now
  answer := hinv.answer
  leader := by
    intro j hleader hsettled
    by_cases hj : j = i
    · subst hj
      simp only [LeaderSystem.setInst, update_self] at hleader hsettled
      exact hx hleader hsettled
    · simp only [LeaderSystem.setInst, update_of_ne hj] at hleader hsettled
      exact hinv.leader j hleader hsettled
  own := hinv.own

/-- A call changes; it has a clean answer that gives the lock only if its caller holds it. -/
theorem setCall (hinv : LeaderInv s) {c : Nat} {x : LeaderCall} (hnow : x.now ≤ s.clock)
    (hx : x.answer = some true → x.kind ≠ .release → x.clean = true → s.holder = some x.caller) :
    LeaderInv { s with call := update s.call c (some x) } where
  lock := hinv.lock
  lease := hinv.lease
  now := by
    intro c' y hy
    rcases update_some_iff.mp hy with ⟨-, rfl⟩ | ⟨-, hy⟩
    · exact hnow
    · exact hinv.now c' y hy
  answer := by
    intro c' y hy
    rcases update_some_iff.mp hy with ⟨-, rfl⟩ | ⟨-, hy⟩
    · exact hx
    · exact hinv.answer c' y hy
  leader := hinv.leader
  own := hinv.own

theorem begin (hinv : LeaderInv s) (i c : Nat) (kind : LeaderCallKind) :
    LeaderInv (s.begin i c kind) :=
  hinv.setCall (Nat.le_refl _) (by rintro ⟨⟩)

theorem ended (hinv : LeaderInv s) (c : Nat) : LeaderInv (s.ended c) where
  lock := hinv.lock
  lease := hinv.lease
  now := fun c' x hx => hinv.now c' x (update_none_iff.mp hx).2
  answer := fun c' x hx => hinv.answer c' x (update_none_iff.mp hx).2
  leader := hinv.leader
  own := hinv.own

/-- The lock of an instance whose lease has run out goes to another one. -/
theorem acquired (hinv : LeaderInv s) {i now lease : Nat} (hnow : now ≤ s.clock)
    (h : (acquireLock lease now s.lock).1 = true) :
    LeaderInv (s.acquired i (now + lease) (acquireLock lease now s.lock).2) := by
  obtain ⟨hlock, hfree⟩ := acquireLock_eq_true h
  -- A lease that is in the document has run out.
  have hout : ∀ j e, s.lease j = some e → e < s.clock := by
    intro j e he
    rcases hinv.lease j e he with ⟨hholder, hlocked⟩ | hlt
    · cases hdoc : s.lock with
      | none => simp [hdoc, isLocked] at hlocked
      | some doc =>
        rcases hinv.lock doc hdoc with rfl | ⟨hvalue, j', hholder', he'⟩
        · simp [hdoc, isLocked] at hlocked
        · obtain rfl : j = j' := Option.some.inj (hholder.symm.trans hholder')
          obtain rfl : e = doc.expiresAt := Option.some.inj (he.symm.trans he')
          rcases hfree doc hdoc with hnone | hlt
          · rw [hvalue] at hnone
            cases hnone
          · omega
    · exact hlt
  constructor
  · intro doc hdoc
    refine Or.inr ?_
    obtain rfl : ⟨some "locked", now + lease⟩ = doc := Option.some.inj (hlock.symm.trans hdoc)
    exact ⟨rfl, i, rfl, update_self ..⟩
  · intro j e he
    by_cases hj : j = i
    · subst hj
      exact Or.inl ⟨rfl, by simp [LeaderSystem.acquired, hlock, isLocked]⟩
    · exact Or.inr (hout j e (by simpa [LeaderSystem.acquired, hj] using he))
  · intro c x hx
    obtain ⟨y, hy, rfl⟩ := Option.map_eq_some_iff.mp hx
    have hyn := hinv.now c y hy
    split <;> exact hyn
  · intro c x hx _ _ hclean
    obtain ⟨y, hy, rfl⟩ := Option.map_eq_some_iff.mp hx
    by_cases hcaller : y.caller = i
    · simp [LeaderSystem.acquired, hcaller]
    · simp [hcaller] at hclean
  · intro j _ hsettled
    by_cases hj : j = i
    · rw [hj]; rfl
    · simp [LeaderSystem.acquired, hj] at hsettled
  · exact hinv.own

/-- The lock a renewal or a release in time finds is the caller's own. -/
theorem holder_of_inTime (hinv : LeaderInv s) {c : Nat} {x : LeaderCall} (hx : s.call c = some x)
    (hkind : x.kind = .renew ∨ x.kind = .release) (hlocked : isLocked s.lock = true)
    (hok : InTime s (.execute c)) : s.holder = some x.caller := by
  have hcases : s.holder = some x.caller ∨ (s.lease x.caller).any (s.clock ≤ ·) = true := by
    rcases hkind with hkind | hkind <;>
      simpa [InTime, inTime, hx, hkind, hlocked] using hok
  rcases hcases with hholder | hlease
  · exact hholder
  · obtain ⟨e, he, hle⟩ := Option.any_eq_true .. |>.mp hlease
    rcases hinv.lease x.caller e he with ⟨hholder, -⟩ | hlt
    · exact hholder
    · have hle : s.clock ≤ e := by simpa using hle
      omega

/-- The holder renews or releases its lease. -/
theorem rewrote (hinv : LeaderInv s) {i : Nat} (hholder : s.holder = some i)
    {expiresAt : Option Nat} {doc : LeaderLock}
    (hdoc : (expiresAt = none ∧ doc = ⟨some "", 0⟩) ∨
      (expiresAt = some doc.expiresAt ∧ doc.value = some "locked")) :
    LeaderInv (s.rewrote i expiresAt (some doc)) where
  lock := by
    rintro _ ⟨⟩
    rcases hdoc with ⟨-, rfl⟩ | ⟨rfl, hvalue⟩
    · exact Or.inl rfl
    · exact Or.inr ⟨hvalue, i, hholder, update_self ..⟩
  lease := by
    intro j e he
    by_cases hj : j = i
    · subst hj
      rcases hdoc with ⟨rfl, -⟩ | ⟨rfl, hvalue⟩
      · simp [LeaderSystem.rewrote] at he
      · exact Or.inl ⟨hholder, by simp [LeaderSystem.rewrote, isLocked, hvalue]⟩
    · rcases hinv.lease j e (by simpa [LeaderSystem.rewrote, hj] using he) with ⟨hother, -⟩ | hlt
      · exact absurd (Option.some.inj (hother.symm.trans hholder)) hj
      · exact Or.inr hlt
  now := hinv.now
  answer := hinv.answer
  leader := hinv.leader
  own := by
    intro w hw
    rcases List.mem_cons.mp hw with rfl | hw
    · exact hholder
    · exact hinv.own w hw

/-- A call makes its update. -/
theorem execute (hinv : LeaderInv s) {c : Nat} {s' : LeaderSystem} (hok : InTime s (.execute c))
    (hstep : leaderStep leaseDurationMs s (.execute c) = some s') : LeaderInv s' := by
  simp only [leaderStep] at hstep
  split at hstep
  · rename_i x hx
    split at hstep
    · cases hstep
    have hnow := hinv.now c x hx
    have hacquire : LeaderInv (if (acquireLock (leaseDurationMs x.caller) x.now s.lock).1 = true
        then (s.acquired x.caller (x.now + leaseDurationMs x.caller)
          (acquireLock (leaseDurationMs x.caller) x.now s.lock).2).answered c x true
        else s.answered c x false) := by
      split
      · rename_i hfree
        exact (hinv.acquired hnow hfree).setCall hnow fun _ _ _ => rfl
      · exact hinv.setCall hnow (by rintro ⟨⟩)
    split at hstep
    · cases hstep
      exact hacquire
    · cases hstep
      exact hacquire
    · rename_i hkind
      cases hstep
      split
      · rename_i hrenewed
        obtain ⟨hlocked, hlock⟩ := renewLock_eq_true hrenewed
        have hholder := hinv.holder_of_inTime hx (Or.inl hkind) hlocked hok
        rw [hlock]
        exact (hinv.rewrote hholder (Or.inr ⟨rfl, rfl⟩)).setCall hnow fun _ _ _ => hholder
      · exact hinv.setCall hnow (by rintro ⟨⟩)
    · rename_i hkind
      cases hstep
      split
      · rename_i hlocked
        have hholder := hinv.holder_of_inTime hx (Or.inr hkind) hlocked hok
        rw [releaseLock_of_isLocked hlocked]
        exact (hinv.rewrote hholder (Or.inl ⟨rfl, rfl⟩)).setCall hnow fun _ hne _ =>
          absurd hkind hne
      · exact hinv.setCall hnow fun _ hne _ => absurd hkind hne
  · cases hstep

/-- A call acts on its answer. -/
theorem resume (hinv : LeaderInv s) {c : Nat} {s' : LeaderSystem}
    (hstep : leaderStep leaseDurationMs s (.resume c) = some s') : LeaderInv s' := by
  simp only [leaderStep] at hstep
  split at hstep
  · rename_i i kind now b clean hx
    split at hstep
    · have hended := hinv.ended c
      have hanswer : b = true → kind ≠ .release → clean = true → s.holder = some i := by
        rintro rfl
        exact hinv.answer c _ hx rfl
      have hleader := hinv.leader i
      split at hstep <;> cases hstep
      · refine hended.setInst fun hl hs => ?_
        cases b with
        | true => exact hanswer rfl (by decide) hs
        | false => exact hleader hl hs
      · refine hended.setInst fun hl hs => ?_
        cases b with
        | true => exact hanswer rfl (by decide) hs
        | false => exact hleader hl hs
      · refine hended.setInst fun hl hs => ?_
        obtain ⟨hb, hl⟩ := Bool.and_eq_true_iff.mp hl
        rcases Bool.or_eq_true_iff.mp hs with hs | hs
        · exact hleader hl hs
        · exact hanswer hb (by decide) hs
      · exact hended.setInst (by rintro ⟨⟩)
    · cases hstep
  · cases hstep

/-- **One step keeps the invariant.** -/
theorem step (hinv : LeaderInv s) {a : LeaderAction} {s' : LeaderSystem} (hok : InTime s a)
    (hstep : leaderStep leaseDurationMs s a = some s') : LeaderInv s' := by
  cases a with
  | tick ms =>
    cases hstep
    exact hinv.tick ms
  | start i c =>
    simp only [leaderStep] at hstep
    split at hstep <;> cases hstep
    exact hinv.begin i c .start
  | timer i c =>
    simp only [leaderStep] at hstep
    split at hstep <;> cases hstep
    exact hinv.begin i c _
  | stop i c =>
    simp only [leaderStep] at hstep
    split at hstep <;> cases hstep
    have hstopped := hinv.setInst (x := { s.inst i with renewTimer := false }) (hinv.leader i)
    split
    · exact hstopped.begin i c .release
    · exact hstopped
  | execute c => exact hinv.execute hok hstep
  | resume c => exact hinv.resume hstep
  | throws c =>
    simp only [leaderStep] at hstep
    split at hstep <;> cases hstep
    exact hinv.ended c
  | crash i =>
    cases hstep
    exact hinv.setInst (by rintro ⟨⟩)

theorem leaderSafe (hinv : LeaderInv s) : LeaderSafe s where
  own := hinv.own
  atMostOne := by
    intro i j hi hsi hj hsj
    have hholder := hinv.leader i hi hsi
    rw [hinv.leader j hj hsj] at hholder
    exact (Option.some.inj hholder).symm
  free := by
    intro lease now hpos hexpired
    unfold acquireLock
    split
    · rfl
    · rename_i doc hdoc
      have hlt : doc.expiresAt < now := by
        rcases hinv.lock doc hdoc with rfl | ⟨hvalue, -⟩
        · exact hpos
        · exact hexpired doc hdoc hvalue
      rw [if_pos (Or.inr hlt)]

end LeaderInv

/-- **At most one leader**, over every run of any number of instances, with their timers, stops,
crashes and pauses, whose renewals and releases come in time. -/
theorem at_most_one_leader {clock : Nat}
    (h : Reach (leaderStep leaseDurationMs) InTime (.init clock) s) : LeaderSafe s := by
  have hinv : LeaderInv s := h.invariant (.init clock) fun hinv hok hstep => hinv.step hok hstep
  exact hinv.leaderSafe

end

/-- The first instance is paused past its lease, renews it since nobody came, and stops; the second
one takes over. -/
theorem at_most_one_leader_twoTerms : ∃ s,
    execOk (leaderStep fun _ => 30000) InTime (.init 0)
      [.start 0 0, .execute 0, .resume 0, .start 1 1, .execute 1, .resume 1, .tick 40000,
        .timer 0 2, .execute 2, .resume 2, .stop 0 3, .execute 3, .resume 3, .timer 1 4,
        .execute 4, .resume 4] = some s ∧
    (s.inst 1).isLeader = true ∧ LeaderSafe s := by
  have hrun : (execOk (leaderStep fun _ => 30000) InTime (.init 0)
      [.start 0 0, .execute 0, .resume 0, .start 1 1, .execute 1, .resume 1, .tick 40000,
        .timer 0 2, .execute 2, .resume 2, .stop 0 3, .execute 3, .resume 3, .timer 1 4,
        .execute 4, .resume 4]).map (fun s => (s.inst 1).isLeader) = some true := by
    decide +kernel
  obtain ⟨s, hs, hleader⟩ := Option.map_eq_some_iff.mp hrun
  exact ⟨s, hs, hleader, at_most_one_leader (.of_execOk hs)⟩

/-- An instance that was paused past its lease renews the lease of its successor, and both stay
leaders. -/
theorem two_leaders : ¬ ∀ (leaseDurationMs : Nat → Nat) (clock : Nat) (s : LeaderSystem),
    Reach (leaderStep leaseDurationMs) Free (.init clock) s → LeaderSafe s := by
  intro hclaim
  have hrun : (exec (leaderStep fun _ => 30000) (.init 0)
      [.start 0 0, .execute 0, .resume 0, .tick 30001, .start 1 1, .execute 1, .resume 1,
        .timer 0 2, .execute 2, .resume 2]).map
      (fun s => (s.inst 0, s.inst 1)) = some (⟨true, true, true, true⟩, ⟨true, true, true, true⟩) := by
    decide +kernel
  obtain ⟨s, hs, hview⟩ := Option.map_eq_some_iff.mp hrun
  obtain ⟨h0, h1⟩ := Prod.mk.inj hview
  have hone := (hclaim _ _ s (reach_of_exec hs)).atMostOne 0 1
  simp [h0, h1] at hone

end StellarEduPay

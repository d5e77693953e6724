import StellarEduPay.DistributedLock

/-! # The fence check of the poller

Before it writes, `processTransaction` compares its fencing token with the current
fence of the school's sync lock.  The Redis backend keeps the fence in a counter that
outlives every lease, so a superseded worker is refused whenever Redis answers.  The map
reads the fence off the lock entry, which a release deletes: there the check refuses
exactly while the latest holder has not released.
-/
namespace StellarEduPay
open Runs Function

def syncLockKey (schoolId : String) : String := "sync:lock:" ++ schoolId

theorem startsWithFence_syncLockKey (schoolId : String) :
    startsWithFence (syncLockKey schoolId) = false := by
  simp only [startsWithFence, syncLockKey, String.toList_append]
  rfl

/-- The fence check: a fence is set, and it is not the worker's. -/
def fenceCheckRefuses {σ : Type} (backend : LockBackend σ) (s : LockSystem σ) (answered : Bool)
    (schoolId : String) (fencingToken : Nat) : Bool :=
  let currentFence := backend.getCurrentFence s.store s.now answered (syncLockKey schoolId)
  currentFence.isSome && currentFence ≠ some fencingToken

/-- A worker was handed `fencingToken`, and a later one a greater token. -/
def Superseded {σ : Type} (s : LockSystem σ) (schoolId : String) (fencingToken : Nat) : Prop :=
  (∃ l ∈ s.leasesOf (syncLockKey schoolId), l.fencingToken = fencingToken) ∧
    ∃ l ∈ s.leasesOf (syncLockKey schoolId), fencingToken < l.fencingToken

/-- The latest worker to acquire the lock has not released it. -/
def LatestUnreleased {σ : Type} (s : LockSystem σ) (schoolId : String) : Prop :=
  ∀ l ∈ (s.leasesOf (syncLockKey schoolId)).head?, l.released = false

/-! ## The map -/

section InProcess
variable {s : LockSystem LockMap} {schoolId : String} {fencingToken : Nat} {answered : Bool}

/-- Nothing in the map, nothing to compare with. -/
theorem fenceCheck_of_none (h : s.store (syncLockKey schoolId) = none) :
    fenceCheckRefuses inProcess s answered schoolId fencingToken = false := by
  simp [fenceCheckRefuses, inProcess, LockMap.getCurrentFence, h]

/-- The entry of the map carries the greatest fencing token handed out. -/
theorem LeaseInv.le_latest {key : String} (h : LeaseInv key s) {l last : Lease}
    {rest : List Lease} (hleases : s.leasesOf key = last :: rest) (hl : l ∈ s.leasesOf key) :
    l.fencingToken ≤ last.fencingToken := by
  have hinc := h.increasing
  rw [hleases, List.map_cons, List.pairwise_cons] at hinc
  rw [hleases] at hl
  rcases List.mem_cons.mp hl with rfl | hrest
  · exact Nat.le_refl _
  · exact Nat.le_of_lt (hinc.1 _ (List.mem_map_of_mem hrest))

theorem fenceCheck_inProcess_iff (h : LeaseInv (syncLockKey schoolId) s)
    (hsup : Superseded s schoolId fencingToken) :
    fenceCheckRefuses inProcess s answered schoolId fencingToken = true ↔
      LatestUnreleased s schoolId := by
  obtain ⟨-, l, hl, hlt⟩ := hsup
  cases hget : s.store (syncLockKey schoolId) with
  | none =>
    rw [fenceCheck_of_none hget]
    refine iff_of_false (by simp) fun hun => ?_
    obtain ⟨last, rest, hleases⟩ := List.exists_cons_of_ne_nil (List.ne_nil_of_mem hl)
    have hhead : last ∈ (s.leasesOf (syncLockKey schoolId)).head? := by simp [hleases]
    exact absurd (h.free hget last hhead) (by simp [hun last hhead])
  | some entry =>
    obtain ⟨last, rest, hleases, hrel, rfl⟩ := h.held entry hget
    have hle := h.le_latest hleases hl
    refine iff_of_true ?_ ?_
    · have hne : last.fencingToken ≠ fencingToken := by omega
      simp [fenceCheckRefuses, inProcess, LockMap.getCurrentFence, hget, hne]
    · intro l' hl'
      rw [hleases, List.head?_cons] at hl'
      exact Option.mem_some_iff.mp hl' ▸ hrel

end InProcess

/-! ## Redis -/

section Redis
variable {s t : LockSystem RedisDb} {key : String}

/-- The fence counter of a key has no expiry and bounds every token handed out for it. -/
structure CounterInv (key : String) (s : LockSystem RedisDb) : Prop where
  counter : s.store (getFenceKey key) = none ∨
    ∃ n, s.store (getFenceKey key) = some ⟨.counter n, none⟩
  bound : ∀ l ∈ s.leasesOf key, ∃ n, s.store (getFenceKey key) = some ⟨.counter n, none⟩ ∧
    l.fencingToken ≤ n

theorem CounterInv.init (key : String) (now : Nat) : CounterInv key (.start redis now) where
  counter := Or.inl rfl
  bound l hl := by cases hl

/-- The counter kept and no token added: releases, renewals and other keys. -/
theorem CounterInv.kept (h : CounterInv key s)
    (hfence : t.store (getFenceKey key) = s.store (getFenceKey key))
    (hleases : ∀ l ∈ t.leasesOf key, ∃ l' ∈ s.leasesOf key, l.fencingToken = l'.fencingToken) :
    CounterInv key t := by
  refine ⟨hfence ▸ h.counter, fun l hl => ?_⟩
  obtain ⟨l', hl', heq⟩ := hleases l hl
  rw [hfence, heq]
  exact h.bound l' hl'

/-- Counting up hands out a token above every earlier one. -/
theorem CounterInv.incr (h : CounterInv key s) {fence : Nat} {db : RedisDb}
    (hincr : s.store.incr s.now (getFenceKey key) = some (fence, db)) :
    db (getFenceKey key) = some ⟨.counter fence, none⟩ ∧
      ∀ l ∈ s.leasesOf key, l.fencingToken < fence := by
  rcases h.counter with hnone | ⟨n, hn⟩
  · simp only [RedisDb.incr, s.store.get_of_none hnone, Option.some.injEq, Prod.mk.injEq] at hincr
    obtain ⟨rfl, rfl⟩ := hincr
    refine ⟨by simp, fun l hl => ?_⟩
    obtain ⟨n, hn, -⟩ := h.bound l hl
    exact absurd (hnone.symm.trans hn) (by simp)
  · simp only [RedisDb.incr, s.store.get_of_persistent hn, hn, Option.map_some, Option.some.injEq,
      Prod.mk.injEq] at hincr
    obtain ⟨rfl, rfl⟩ := hincr
    refine ⟨by simp, fun l hl => ?_⟩
    obtain ⟨m, hm, hle⟩ := h.bound l hl
    have hmn : m = n := by simpa using hm.symm.trans hn
    omega

/-- The counter was counted up, and at most the new value was handed out. -/
theorem CounterInv.counted (h : CounterInv key s) {fence : Nat} {db : RedisDb}
    (hincr : s.store.incr s.now (getFenceKey key) = some (fence, db))
    (hfence : t.store (getFenceKey key) = db (getFenceKey key))
    (hleases : ∀ l ∈ t.leasesOf key, l ∈ s.leasesOf key ∨ l.fencingToken = fence) :
    CounterInv key t := by
  obtain ⟨hdb, hlt⟩ := h.incr hincr
  refine ⟨Or.inr ⟨fence, hfence.trans hdb⟩, fun l hl => ⟨fence, hfence.trans hdb, ?_⟩⟩
  rcases hleases l hl with hold | heq
  · exact Nat.le_of_lt (hlt l hold)
  · exact Nat.le_of_eq heq

theorem fencingToken_of_amend {f : Lease → Lease} {other token : String}
    (hf : ∀ l, (f l).fencingToken = l.fencingToken ∧ (f l).key = l.key) {leases : List Lease}
    {l : Lease} (hl : l ∈ (leases.map (Lease.amend other token f)).filter (·.key = key)) :
    ∃ l' ∈ leases.filter (·.key = key), l.fencingToken = l'.fencingToken := by
  rw [filter_amend fun l => (hf l).2] at hl
  have hmem := List.mem_map_of_mem (f := (·.fencingToken)) hl
  rw [map_amend_fencingToken fun l => (hf l).1] at hmem
  obtain ⟨l', hl', heq⟩ := List.mem_map.mp hmem
  exact ⟨l', hl', heq.symm⟩

/-- Who acquires the lock counts its fence up, also if the lock is then not taken; an
acquisition of another key counts another fence up. -/
theorem CounterInv.acquire (h : CounterInv key s) {other token : String} {ttlMs : Nat}
    (hfence : getFenceKey key ≠ other)
    (hstep : lockStep redis s (.acquire other ttlMs token) = some t) : CounterInv key t := by
  have hself : getFenceKey key ≠ key := getFenceKey_ne_self key
  have hsame : ∀ l ∈ s.leasesOf key, ∃ l' ∈ s.leasesOf key, l.fencingToken = l'.fencingToken :=
    fun l hl => ⟨l, hl, rfl⟩
  rcases s.store.acquire_cases s.now other ttlMs token with hacq | ⟨fence, db, hincr, hacq⟩
  · simp only [lockStep, redis, hacq, Option.some.injEq] at hstep
    subst hstep
    exact h.kept rfl hsame
  by_cases hne : key = other
  · subst hne
    rcases hacq with hacq | hacq
    · simp only [lockStep, redis, hacq, Option.some.injEq] at hstep
      subst hstep
      exact h.counted hincr rfl fun l hl => Or.inl hl
    · simp only [lockStep, redis, hacq, Option.some.injEq] at hstep
      subst hstep
      refine h.counted hincr (by simp [hself]) fun l hl => ?_
      simp only [LockSystem.leasesOf, List.filter_cons, decide_true, if_true, List.mem_cons] at hl
      rcases hl with rfl | hl
      · exact Or.inr rfl
      · exact Or.inl hl
  · have hfences : getFenceKey key ≠ getFenceKey other := fun h => hne (getFenceKey_injective h)
    have hdb := s.store.incr_other hincr hfences
    rcases hacq with hacq | hacq
    · simp only [lockStep, redis, hacq, Option.some.injEq] at hstep
      subst hstep
      exact h.kept hdb hsame
    · simp only [lockStep, redis, hacq, Option.some.injEq] at hstep
      subst hstep
      refine h.kept (by simp [hfence, hdb]) fun l hl => hsame l ?_
      simpa [LockSystem.leasesOf, Ne.symm hne] using hl

theorem CounterInv.step {call : LockAction} (h : CounterInv key s) (hspares : Spares key s call)
    (hstep : lockStep redis s call = some t) : CounterInv key t := by
  have hsame : ∀ l ∈ s.leasesOf key, ∃ l' ∈ s.leasesOf key, l.fencingToken = l'.fencingToken :=
    fun l hl => ⟨l, hl, rfl⟩
  rcases call with ms | ⟨other, ttlMs, token⟩ | ⟨other, token⟩ | ⟨other, token, ttlMs, elapsed⟩
  · obtain rfl : _ = t := Option.some.inj hstep
    exact h.kept rfl hsame
  all_goals have hfence : getFenceKey key ≠ other := fun h => hspares (congrArg some h.symm)
  · exact h.acquire hfence hstep
  · have hdb := s.store.release_other s.now other token hfence
    cases hrel : s.store.release s.now other token with
    | mk done db =>
      rw [hrel] at hdb
      cases done with
      | false =>
        simp only [lockStep, redis, hrel, Option.some.injEq] at hstep
        subst hstep
        exact h.kept hdb hsame
      | true =>
        simp only [lockStep, redis, hrel, Option.some.injEq] at hstep
        subst hstep
        exact h.kept hdb fun l hl => fencingToken_of_amend (f := Lease.release) (fun _ => ⟨rfl, rfl⟩) hl
  · have hdb := s.store.renew_other s.now other token ttlMs hfence
    cases hren : s.store.renew s.now other token ttlMs with
    | mk done db =>
      rw [hren] at hdb
      cases done with
      | false =>
        simp only [lockStep, redis, hren, Option.some.injEq] at hstep
        subst hstep
        exact h.kept hdb hsame
      | true =>
        simp only [lockStep, redis, hren, Option.some.injEq] at hstep
        subst hstep
        exact h.kept hdb fun l hl => fencingToken_of_amend (f := Lease.extend _) (fun _ => ⟨rfl, rfl⟩) hl

/-- The counter tells a superseded worker apart, if it can be read. -/
theorem fenceCheck_redis_iff {schoolId : String} {fencingToken : Nat} {answered : Bool}
    (h : CounterInv (syncLockKey schoolId) s) (hsup : Superseded s schoolId fencingToken) :
    fenceCheckRefuses redis s answered schoolId fencingToken = true ↔ answered = true := by
  obtain ⟨-, l, hl, hlt⟩ := hsup
  obtain ⟨n, hn, hle⟩ := h.bound l hl
  have hne : n ≠ fencingToken := by omega
  cases answered with
  | false => simp [fenceCheckRefuses, redis, RedisDb.getCurrentFence]
  | true => simp [fenceCheckRefuses, redis, RedisDb.getCurrentFence, s.store.get_of_persistent hn, hne]

end Redis

/-- **The fence check on a superseded worker.**  Along every run it refuses under Redis
exactly if the fence can be read, and with the map exactly while the latest holder of the
lock has not released it. -/
theorem superseded_refused_along_runs (schoolId : String) (now : Nat) :
    (∀ s, Reach (lockStep redis) (Spares (syncLockKey schoolId)) (.start redis now) s →
      ∀ answered fencingToken, Superseded s schoolId fencingToken →
        (fenceCheckRefuses redis s answered schoolId fencingToken = true ↔ answered = true)) ∧
    (∀ s, Reach (lockStep inProcess) (Spares (syncLockKey schoolId)) (.start inProcess now) s →
      ∀ answered fencingToken, Superseded s schoolId fencingToken →
        (fenceCheckRefuses inProcess s answered schoolId fencingToken = true ↔
          LatestUnreleased s schoolId)) := by
  constructor
  · intro s hrun answered fencingToken hsup
    have hinv : CounterInv (syncLockKey schoolId) s := hrun.invariant (.init _ now) CounterInv.step
    exact fenceCheck_redis_iff hinv hsup
  · intro s hrun answered fencingToken hsup
    have hinv : LeaseInv (syncLockKey schoolId) s :=
      hrun.invariant (.init _ now) fun h => h.step (startsWithFence_syncLockKey schoolId)
    exact fenceCheck_inProcess_iff hinv hsup

instance {σ : Type} (s : LockSystem σ) (schoolId : String) (fencingToken : Nat) :
    Decidable (Superseded s schoolId fencingToken) :=
  inferInstanceAs (Decidable (_ ∧ _))

instance {σ : Type} (s : LockSystem σ) (schoolId : String) :
    Decidable (LatestUnreleased s schoolId) :=
  match h : (s.leasesOf (syncLockKey schoolId)).head? with
  | none => .isTrue fun l hl => by rw [h] at hl; cases hl
  | some l =>
    decidable_of_iff (l.released = false)
      ⟨fun hrel l' hl' => by rw [h] at hl'; exact Option.mem_some_iff.mp hl' ▸ hrel,
        fun hall => hall l (by rw [h]; rfl)⟩

/-- Both backends refuse a worker whose lease ran out and whose successor still holds on. -/
theorem superseded_refused_along_runs_takeover :
    (∃ s, Superseded s "SCH" 1 ∧ LatestUnreleased s "SCH" ∧
      fenceCheckRefuses inProcess s true "SCH" 1 = true) ∧
    ∃ s, Superseded s "SCH" 1 ∧ fenceCheckRefuses redis s true "SCH" 1 = true := by
  constructor
  · have hrun : Reach (lockStep inProcess) (Spares (syncLockKey "SCH")) (.start inProcess 0) _ :=
      .tail (.tail (.tail .refl
        (show Spares _ _ (.acquire "sync:lock:SCH" 10 "t1") by decide) rfl)
        (show Spares _ _ (.tick 20) by decide) rfl)
        (show Spares _ _ (.acquire "sync:lock:SCH" 10 "t2") by decide) rfl
    exact ⟨_, by decide, by decide,
      ((superseded_refused_along_runs "SCH" 0).2 _ hrun true 1 (by decide)).mpr (by decide)⟩
  · have hrun : Reach (lockStep redis) (Spares (syncLockKey "SCH")) (.start redis 0) _ :=
      .tail (.tail (.tail (.tail .refl
        (show Spares _ _ (.acquire "sync:lock:SCH" 10 "t1") by decide) rfl)
        (show Spares _ _ (.tick 20) by decide) rfl)
        (show Spares _ _ (.acquire "sync:lock:SCH" 10 "t2") by decide) rfl)
        (show Spares _ _ (.release "sync:lock:SCH" "t2") by decide) rfl
    exact ⟨_, by decide, ((superseded_refused_along_runs "SCH" 0).1 _ hrun true 1 (by decide)).mpr rfl⟩

/-- Acquire, expire, acquire by another, release: the first worker's write is let through. -/
theorem released_fence_admits_superseded :
    ¬ ∀ s, Reach (lockStep inProcess) (Spares (syncLockKey "SCH")) (.start inProcess 0) s →
      ∀ fencingToken, Superseded s "SCH" fencingToken →
        fenceCheckRefuses inProcess s true "SCH" fencingToken = true := by
  intro h
  have hrun : Reach (lockStep inProcess) (Spares (syncLockKey "SCH")) (.start inProcess 0) _ :=
    .tail (.tail (.tail (.tail .refl
      (show Spares _ _ (.acquire "sync:lock:SCH" 10 "t1") by decide) rfl)
      (show Spares _ _ (.tick 20) by decide) rfl)
      (show Spares _ _ (.acquire "sync:lock:SCH" 10 "t2") by decide) rfl)
      (show Spares _ _ (.release "sync:lock:SCH" "t2") by decide) rfl
  exact absurd (h _ hrun 1 (by decide)) (by decide)

end StellarEduPay

import Mathlib.Data.Rat.Floor
import Mathlib.Logic.Function.Basic
import Mathlib.Tactic.Linarith
import Mathlib.Tactic.Positivity

/-! # The rate limiter (`middleware/rateLimiter.js`)

The requests of a client are counted in buckets of `windowMs`, rejected ones included.  A request is
let through while the count of its bucket and the weighted count of the one before stay within `max`.

Redis counts for all replicas.  The process counts for itself when Redis is not ready or fails, and a
failed command may have been carried out.  Times are exact, in milliseconds.
-/
namespace StellarEduPay

/-! ## The decision -/

structure BucketInfo where
  bucket : Int
  weight : ℚ
  resetSeconds : Int

def bucketInfo (now windowMs : ℚ) : BucketInfo :=
  let bucket := ⌊now / windowMs⌋
  let bucketStart := bucket * windowMs
  let elapsed := now - bucketStart
  { bucket := bucket
    weight := max 0 (min 1 ((windowMs - elapsed) / windowMs))
    resetSeconds := max 1 ⌈(bucketStart + windowMs - now) / 1000⌉ }

def slidingWindowCount (currentCount previousCount : Nat) (weight : ℚ) : ℚ :=
  currentCount + previousCount * weight

/-! ## The counters of a client key -/

inductive CounterBackend
  | redis | memory
  deriving DecidableEq

/-- The count of a bucket, and when it is forgotten. -/
structure CounterEntry where
  count : Nat
  expires : Option ℚ

def CounterEntry.Live (e : CounterEntry) (now : ℚ) : Prop := ∀ t ∈ e.expires, now ≤ t

instance (e : CounterEntry) (now : ℚ) : Decidable (e.Live now) :=
  inferInstanceAs (Decidable (∀ t ∈ e.expires, now ≤ t))

abbrev CounterStore := Int → Option CounterEntry

namespace CounterStore

def count (store : CounterStore) (now : ℚ) (bucket : Int) : Nat :=
  match store bucket with
  | some e => if e.Live now then e.count else 0
  | none => 0

def set (store : CounterStore) (bucket : Int) (e : CounterEntry) : CounterStore :=
  Function.update store bucket (some e)

/-- Redis `INCR`: a new key has no expiry. -/
def incr (store : CounterStore) (now : ℚ) (bucket : Int) : CounterEntry :=
  match store bucket with
  | some e => if e.Live now then { e with count := e.count + 1 } else ⟨1, none⟩
  | none => ⟨1, none⟩

end CounterStore

/-- What becomes of the Redis commands of a request: they go through, they fail after the increment
or the expiry was carried out or before, or Redis is not ready. -/
inductive CounterPath
  | redis
  | redisFailed (counted expires : Bool)
  | notReady
  deriving DecidableEq

/-- Where the counts of the request are read. -/
def CounterPath.backend : CounterPath → CounterBackend
  | .redis => .redis
  | .redisFailed _ _ | .notReady => .memory

/-- Whether the request is counted there. -/
def CounterPath.counts : CounterPath → CounterBackend → Bool
  | .redis, .redis => true
  | .redis, .memory => false
  | .redisFailed counted _, .redis => counted
  | .redisFailed _ _, .memory => true
  | .notReady, .redis => false
  | .notReady, .memory => true

/-- The path of all requests of a process that counts in one backend. -/
def CounterBackend.path : CounterBackend → CounterPath
  | .redis => .redis
  | .memory => .notReady

/-! ## The limiter -/

structure RateMessage where
  error : String
  code : String

/-- `RL_MSG` -/
def rlMsg : RateMessage where
  error := "Too many requests, please try again later."
  code := "RATE_LIMIT_EXCEEDED"

structure RateLimiter where
  windowMs : ℚ
  max : ℚ
  message : RateMessage := rlMsg

/-- `SYNC_RL_MSG` -/
def syncRlMsg : RateMessage where
  error := "A manual sync was already requested for this school recently. " ++
    "Background polling continues regardless; retry after the interval shown in Retry-After."
  code := "SYNC_RATE_LIMITED"

def syncLimiter : RateLimiter where
  windowMs := 60000
  max := 1
  message := syncRlMsg

structure RateHeaders where
  limit : ℚ
  remaining : Int
  reset : Int

structure RateRejection where
  message : RateMessage
  retryAfter : Int

structure RateAnswer where
  headers : RateHeaders
  rejection : Option RateRejection

def RateAnswer.accepted (a : RateAnswer) : Bool := a.rejection.isNone

/-- The header `Retry-After`. -/
def RateAnswer.retryAfter (a : RateAnswer) : Option Int := a.rejection.map (·.retryAfter)

structure RateRequest where
  now : ℚ
  path : CounterPath

/-- The requests of a client that are all counted in one backend. -/
def CounterBackend.requests (backend : CounterBackend) (times : List ℚ) : List RateRequest :=
  times.map fun now => ⟨now, backend.path⟩

/-- The counters, and the requests so far with their answers. -/
structure LimiterRun where
  stores : CounterBackend → CounterStore
  log : List (RateRequest × RateAnswer)

namespace RateLimiter
variable (rl : RateLimiter)

/-- The `stdTTL` of the fallback store. -/
def memoryTtlMs : ℚ := Max.max (1 / 20) (rl.windowMs * 2 / 1000) * 1000

def ttlSec : Int := ⌈rl.windowMs * 2 / 1000⌉ + 1

def inMemoryBucketCount (store : CounterStore) (now : ℚ) (bucket : Int) : Nat × CounterStore :=
  let next := store.count now bucket + 1
  (next, store.set bucket ⟨next, some (now + rl.memoryTtlMs)⟩)

/-- The current and the previous count.  The expiry is set with the first request of a bucket. -/
def redisBucketCount (store : CounterStore) (now : ℚ) (bucket : Int) (expires : Bool) :
    Nat × Nat × CounterStore :=
  let e := store.incr now bucket
  let e' := if e.count = 1 && expires then ⟨e.count, some (now + rl.ttlSec * 1000)⟩ else e
  (e.count, store.count now (bucket - 1), store.set bucket e')

def inMemoryCounts (stores : CounterBackend → CounterStore) (now : ℚ) (bucket : Int) :
    Nat × Nat × (CounterBackend → CounterStore) :=
  let (currentCount, store) := rl.inMemoryBucketCount (stores .memory) now bucket
  (currentCount, store.count now (bucket - 1), Function.update stores .memory store)

def bucketCounts (stores : CounterBackend → CounterStore) (r : RateRequest) (bucket : Int) :
    Nat × Nat × (CounterBackend → CounterStore) :=
  match r.path with
  | .redis =>
    let (currentCount, previousCount, store) :=
      rl.redisBucketCount (stores .redis) r.now bucket true
    (currentCount, previousCount, Function.update stores .redis store)
  | .redisFailed true expires =>
    let (_, _, store) := rl.redisBucketCount (stores .redis) r.now bucket expires
    rl.inMemoryCounts (Function.update stores .redis store) r.now bucket
  | .redisFailed false _ | .notReady => rl.inMemoryCounts stores r.now bucket

def answer (count : ℚ) (resetSeconds : Int) : RateAnswer where
  headers :=
    { limit := rl.max
      remaining := Max.max 0 ⌊rl.max - count⌋
      reset := resetSeconds }
  rejection := if rl.max < count then some ⟨rl.message, resetSeconds⟩ else none

def handle (stores : CounterBackend → CounterStore) (r : RateRequest) :
    RateAnswer × (CounterBackend → CounterStore) :=
  let info := bucketInfo r.now rl.windowMs
  let (currentCount, previousCount, stores) := rl.bucketCounts stores r info.bucket
  (rl.answer (slidingWindowCount currentCount previousCount info.weight) info.resetSeconds, stores)

def serve (s : LimiterRun) (r : RateRequest) : LimiterRun where
  stores := (rl.handle s.stores r).2
  log := s.log ++ [(r, (rl.handle s.stores r).1)]

def run (requests : List RateRequest) : LimiterRun :=
  requests.foldl rl.serve ⟨fun _ _ => none, []⟩

theorem run_append (earlier : List RateRequest) (r : RateRequest) :
    rl.run (earlier ++ [r]) = rl.serve (rl.run earlier) r := by
  rw [run, List.foldl_append]
  rfl

end RateLimiter

/-! ## A store keeps its buckets -/

/-- The store has counted `n bucket` requests in each bucket, and keeps a bucket for two windows. -/
structure CounterStore.Keeps (windowMs : ℚ) (store : CounterStore) (n : Int → Nat) : Prop where
  counted : ∀ {bucket e}, store bucket = some e → e.count = n bucket
  absent : ∀ {bucket}, store bucket = none → n bucket = 0
  kept : ∀ {bucket e}, store bucket = some e → ∀ t ∈ e.expires, (bucket + 2) * windowMs ≤ t

namespace CounterStore.Keeps
variable {windowMs now : ℚ} {store : CounterStore} {n : Int → Nat} {bucket : Int}

theorem live (h : store.Keeps windowMs n) {e : CounterEntry} (he : store bucket = some e)
    (hnow : now ≤ (bucket + 2) * windowMs) : e.Live now :=
  fun t ht => hnow.trans (h.kept he t ht)

theorem count_eq (h : store.Keeps windowMs n) (hnow : now ≤ (bucket + 2) * windowMs) :
    store.count now bucket = n bucket := by
  unfold CounterStore.count
  cases he : store bucket with
  | none => exact (h.absent he).symm
  | some e => exact (if_pos (h.live he hnow)).trans (h.counted he)

theorem set (h : store.Keeps windowMs n) {e : CounterEntry} (hcount : e.count = n bucket + 1)
    (hkept : ∀ t ∈ e.expires, (bucket + 2) * windowMs ≤ t) :
    (store.set bucket e).Keeps windowMs (Function.update n bucket (n bucket + 1)) where
  counted := by
    intro bucket' e' he'
    by_cases hb : bucket' = bucket
    · subst hb
      rw [CounterStore.set, Function.update_self] at he'
      rw [← Option.some.inj he', hcount, Function.update_self]
    · rw [CounterStore.set, Function.update_of_ne hb] at he'
      rw [h.counted he', Function.update_of_ne hb]
  absent := by
    intro bucket' he'
    by_cases hb : bucket' = bucket
    · subst hb
      rw [CounterStore.set, Function.update_self] at he'
      cases he'
    · rw [CounterStore.set, Function.update_of_ne hb] at he'
      rw [Function.update_of_ne hb, h.absent he']
  kept := by
    intro bucket' e' he'
    by_cases hb : bucket' = bucket
    · subst hb
      rw [CounterStore.set, Function.update_self] at he'
      rwa [← Option.some.inj he']
    · rw [CounterStore.set, Function.update_of_ne hb] at he'
      exact h.kept he'

/-- The increment goes on from the count, and leaves the expiry. -/
theorem incr (h : store.Keeps windowMs n) (hnow : now ≤ (bucket + 2) * windowMs) :
    (store.incr now bucket).count = n bucket + 1 ∧
      ∀ t ∈ (store.incr now bucket).expires, (bucket + 2) * windowMs ≤ t := by
  unfold CounterStore.incr
  cases he : store bucket with
  | none => exact ⟨by rw [h.absent he], nofun⟩
  | some e =>
    dsimp only
    rw [if_pos (h.live he hnow)]
    exact ⟨congrArg (· + 1) (h.counted he), fun t ht => h.kept he t ht⟩

end CounterStore.Keeps

/-! ## What the limiter has counted -/

section
variable {windowMs : ℚ} (hwindow : 0 < windowMs) (now : ℚ)
include hwindow

theorem bucket_mul_le : (⌊now / windowMs⌋ : ℚ) * windowMs ≤ now := by
  rw [← le_div_iff₀ hwindow]
  exact Int.floor_le _

theorem lt_bucket_mul : now < (⌊now / windowMs⌋ + 1) * windowMs := by
  rw [← div_lt_iff₀ hwindow]
  exact Int.lt_floor_add_one _

end

namespace RateLimiter
variable (rl : RateLimiter)

theorem two_windows_le_memoryTtlMs : 2 * rl.windowMs ≤ rl.memoryTtlMs := by
  have hle := le_max_right (1 / 20 : ℚ) (rl.windowMs * 2 / 1000)
  rw [memoryTtlMs]
  linarith

theorem two_windows_le_ttlSec : 2 * rl.windowMs ≤ rl.ttlSec * 1000 := by
  have hle := Int.le_ceil (rl.windowMs * 2 / 1000)
  rw [ttlSec]
  push_cast
  linarith

section
variable {rl} {store : CounterStore} {n : Int → Nat} {now : ℚ} {bucket : Int}

theorem inMemoryBucketCount_spec (h : store.Keeps rl.windowMs n)
    (hstart : bucket * rl.windowMs ≤ now) (hend : now ≤ (bucket + 2) * rl.windowMs) :
    (rl.inMemoryBucketCount store now bucket).1 = n bucket + 1 ∧
      (rl.inMemoryBucketCount store now bucket).2.Keeps rl.windowMs
        (Function.update n bucket (n bucket + 1)) := by
  have hcount : store.count now bucket + 1 = n bucket + 1 := by rw [h.count_eq hend]
  refine ⟨hcount, h.set hcount fun t ht => ?_⟩
  obtain rfl := Option.some.inj ht
  have httl := rl.two_windows_le_memoryTtlMs
  linarith

theorem redisBucketCount_spec (h : store.Keeps rl.windowMs n)
    (hstart : bucket * rl.windowMs ≤ now) (hend : now ≤ (bucket + 1) * rl.windowMs)
    (hwindow : 0 < rl.windowMs) (expires : Bool) :
    (rl.redisBucketCount store now bucket expires).1 = n bucket + 1 ∧
      (rl.redisBucketCount store now bucket expires).2.1 = n (bucket - 1) ∧
      (rl.redisBucketCount store now bucket expires).2.2.Keeps rl.windowMs
        (Function.update n bucket (n bucket + 1)) := by
  have hnow : now ≤ (bucket + 2) * rl.windowMs := by linarith
  obtain ⟨hcount, hkept⟩ := h.incr hnow
  refine ⟨hcount, h.count_eq (by push_cast; linarith), ?_⟩
  unfold redisBucketCount
  dsimp only
  split_ifs with hfirst
  · refine h.set hcount fun t ht => ?_
    obtain rfl := Option.some.inj ht
    have httl := rl.two_windows_le_ttlSec
    linarith
  · exact h.set hcount hkept

variable {stores : CounterBackend → CounterStore}

theorem inMemoryCounts_spec (h : (stores .memory).Keeps rl.windowMs n)
    (hstart : bucket * rl.windowMs ≤ now) (hend : now ≤ (bucket + 1) * rl.windowMs)
    (hwindow : 0 < rl.windowMs) :
    (rl.inMemoryCounts stores now bucket).1 = n bucket + 1 ∧
      (rl.inMemoryCounts stores now bucket).2.1 = n (bucket - 1) ∧
      (rl.inMemoryCounts stores now bucket).2.2 .redis = stores .redis ∧
      ((rl.inMemoryCounts stores now bucket).2.2 .memory).Keeps rl.windowMs
        (Function.update n bucket (n bucket + 1)) := by
  obtain ⟨hcount, hkeeps⟩ := inMemoryBucketCount_spec h hstart (by linarith)
  have hnow : now ≤ ((bucket - 1 : Int) + 2) * rl.windowMs := by
    push_cast
    linarith
  have hprevious := hkeeps.count_eq hnow
  rw [Function.update_of_ne (by omega)] at hprevious
  exact ⟨hcount, hprevious, rfl, hkeeps⟩

end

/-- How many of the requests a backend has counted in a bucket. -/
def counted (requests : List RateRequest) (backend : CounterBackend) (bucket : Int) : Nat :=
  requests.countP fun r => r.path.counts backend && ⌊r.now / rl.windowMs⌋ == bucket

theorem counted_append (earlier : List RateRequest) (r : RateRequest) (backend : CounterBackend) :
    rl.counted (earlier ++ [r]) backend =
      if r.path.counts backend = true then
        Function.update (rl.counted earlier backend) ⌊r.now / rl.windowMs⌋
          (rl.counted earlier backend ⌊r.now / rl.windowMs⌋ + 1)
      else rl.counted earlier backend := by
  funext bucket
  rw [counted, List.countP_append, ← counted]
  by_cases hcounts : r.path.counts backend = true
  · by_cases hbucket : bucket = ⌊r.now / rl.windowMs⌋
    · subst hbucket
      simp [hcounts]
    · simp [hcounts, hbucket, Ne.symm hbucket]
  · simp [hcounts]

/-- The counters hold what was counted. -/
def Holds (stores : CounterBackend → CounterStore) (requests : List RateRequest) : Prop :=
  ∀ backend, (stores backend).Keeps rl.windowMs (rl.counted requests backend)

variable {rl} {stores : CounterBackend → CounterStore} {earlier : List RateRequest}

/-- **One request** is counted, and the counts it is answered by are those of its backend. -/
theorem Holds.bucketCounts (h : rl.Holds stores earlier) (hwindow : 0 < rl.windowMs)
    (r : RateRequest) :
    (rl.bucketCounts stores r ⌊r.now / rl.windowMs⌋).1 =
        rl.counted earlier r.path.backend ⌊r.now / rl.windowMs⌋ + 1 ∧
      (rl.bucketCounts stores r ⌊r.now / rl.windowMs⌋).2.1 =
        rl.counted earlier r.path.backend (⌊r.now / rl.windowMs⌋ - 1) ∧
      rl.Holds (rl.bucketCounts stores r ⌊r.now / rl.windowMs⌋).2.2 (earlier ++ [r]) := by
  have hstart := bucket_mul_le hwindow r.now
  have hend := (lt_bucket_mul hwindow r.now).le
  obtain ⟨now, path⟩ := r
  -- each path leaves the store it does not count in
  have hredis := redisBucketCount_spec (h .redis) hstart hend hwindow
  have hmemory := inMemoryCounts_spec (h .memory) hstart hend hwindow
  cases path with
  | redis =>
    refine ⟨(hredis true).1, (hredis true).2.1, fun backend => ?_⟩
    rw [counted_append]
    cases backend with
    | redis => exact (hredis true).2.2
    | memory => exact h .memory
  | redisFailed counts expires =>
    cases counts with
    | false =>
      refine ⟨hmemory.1, hmemory.2.1, fun backend => ?_⟩
      rw [counted_append]
      cases backend with
      | redis => exact h .redis
      | memory => exact hmemory.2.2.2
    | true =>
      refine ⟨hmemory.1, hmemory.2.1, fun backend => ?_⟩
      rw [counted_append]
      cases backend with
      | redis => exact (hredis expires).2.2
      | memory => exact hmemory.2.2.2
  | notReady =>
    refine ⟨hmemory.1, hmemory.2.1, fun backend => ?_⟩
    rw [counted_append]
    cases backend with
    | redis => exact h .redis
    | memory => exact hmemory.2.2.2

variable (rl) in
/-- What the limiter weighs against `max` after the earlier requests. -/
def estimate (earlier : List RateRequest) (r : RateRequest) : ℚ :=
  let info := bucketInfo r.now rl.windowMs
  slidingWindowCount (rl.counted earlier r.path.backend info.bucket + 1)
    (rl.counted earlier r.path.backend (info.bucket - 1)) info.weight

theorem Holds.handle (h : rl.Holds stores earlier) (hwindow : 0 < rl.windowMs) (r : RateRequest) :
    (rl.handle stores r).1 =
        rl.answer (rl.estimate earlier r) (bucketInfo r.now rl.windowMs).resetSeconds ∧
      rl.Holds (rl.handle stores r).2 (earlier ++ [r]) := by
  obtain ⟨hcurrent, hprevious, hholds⟩ := h.bucketCounts hwindow r
  refine ⟨?_, hholds⟩
  rw [estimate]
  dsimp only [RateLimiter.handle, bucketInfo]
  rw [hcurrent, hprevious]

theorem holds_run (hwindow : 0 < rl.windowMs) (requests : List RateRequest) :
    rl.Holds (rl.run requests).stores requests := by
  induction requests using List.reverseRecOn with
  | nil => exact fun backend => ⟨nofun, fun _ => rfl, nofun⟩
  | append_singleton earlier r ih =>
    rw [run_append]
    exact (ih.handle hwindow r).2

/-- The answer after any requests. -/
theorem handle_run (hwindow : 0 < rl.windowMs) (earlier : List RateRequest) (r : RateRequest) :
    (rl.handle (rl.run earlier).stores r).1 =
      rl.answer (rl.estimate earlier r) (bucketInfo r.now rl.windowMs).resetSeconds :=
  ((holds_run hwindow earlier).handle hwindow r).1

variable (rl) in
@[simp] theorem answer_accepted (count : ℚ) (resetSeconds : Int) :
    (rl.answer count resetSeconds).accepted = true ↔ count ≤ rl.max := by
  rw [RateAnswer.accepted, answer]
  split_ifs with hover
  · exact ⟨nofun, fun hle => absurd hover (not_lt.mpr hle)⟩
  · exact ⟨fun _ => not_lt.mp hover, fun _ => rfl⟩

end RateLimiter

/-! ## The weight of the bucket before -/

section
variable {windowMs : ℚ} (hwindow : 0 < windowMs) (now : ℚ)
include hwindow

/-- The weight is the part of the bucket that is still to come. -/
theorem bucketInfo_weight : (bucketInfo now windowMs).weight =
    ((⌊now / windowMs⌋ + 1) * windowMs - now) / windowMs := by
  have hstart := bucket_mul_le hwindow now
  have hend := lt_bucket_mul hwindow now
  have hrest : windowMs - (now - ⌊now / windowMs⌋ * windowMs) =
      (⌊now / windowMs⌋ + 1) * windowMs - now := by ring
  have hone : ((⌊now / windowMs⌋ + 1) * windowMs - now) / windowMs ≤ 1 := by
    rw [div_le_one hwindow]
    linarith
  rw [bucketInfo, hrest, min_eq_right hone, max_eq_right (div_nonneg (by linarith) hwindow.le)]

theorem bucketInfo_weight_pos : 0 < (bucketInfo now windowMs).weight := by
  rw [bucketInfo_weight hwindow]
  exact div_pos (sub_pos.mpr (lt_bucket_mul hwindow now)) hwindow

/-- Whoever waits out `resetSeconds` is past the bucket. -/
theorem bucket_lt_of_reset_le {later : ℚ}
    (hwait : now + 1000 * (bucketInfo now windowMs).resetSeconds ≤ later) :
    ⌊now / windowMs⌋ < ⌊later / windowMs⌋ := by
  have hceil := Int.le_ceil ((⌊now / windowMs⌋ * windowMs + windowMs - now) / 1000)
  have hreset : (⌈(⌊now / windowMs⌋ * windowMs + windowMs - now) / 1000⌉ : ℚ) ≤
      (bucketInfo now windowMs).resetSeconds := by
    exact_mod_cast le_max_right 1 _
  rw [← Int.add_one_le_iff, Int.le_floor, le_div_iff₀ hwindow]
  push_cast
  linarith

end

/-! ## How many are let through -/

theorem countP_le_add {α : Type} {p q r : α → Bool} {l : List α}
    (h : ∀ x ∈ l, p x = true → q x = true ∨ r x = true) :
    l.countP p ≤ l.countP q + l.countP r := by
  induction l with
  | nil => exact le_rfl
  | cons x l ih =>
    have hrest := ih fun y hy => h y (List.mem_cons_of_mem x hy)
    have hx := h x List.mem_cons_self
    simp only [List.countP_cons]
    by_cases hp : p x = true
    · rcases hx hp with hq | hr
      · simp only [hp, hq, if_true]
        omega
      · simp only [hp, hr, if_true]
        omega
    · rw [if_neg hp]
      omega

namespace RateLimiter
variable (rl : RateLimiter)

/-- How many requests of a bucket were let through. -/
def acceptedIn (log : List (RateRequest × RateAnswer)) (bucket : Int) : Nat :=
  log.countP fun x => x.2.accepted && ⌊x.1.now / rl.windowMs⌋ == bucket

/-- How many were let through from one time to another. -/
def acceptedBetween (log : List (RateRequest × RateAnswer)) (t u : ℚ) : Nat :=
  log.countP fun x => x.2.accepted && (decide (t ≤ x.1.now) && decide (x.1.now ≤ u))

theorem acceptedIn_append (log : List (RateRequest × RateAnswer)) (r : RateRequest) (a : RateAnswer)
    (bucket : Int) : rl.acceptedIn (log ++ [(r, a)]) bucket =
      rl.acceptedIn log bucket +
        if a.accepted = true ∧ ⌊r.now / rl.windowMs⌋ = bucket then 1 else 0 := by
  simp [acceptedIn, List.countP_append, List.countP_cons]

/-- A window lies in two buckets. -/
theorem acceptedBetween_le (hwindow : 0 < rl.windowMs) (log : List (RateRequest × RateAnswer))
    (t : ℚ) : acceptedBetween log t (t + rl.windowMs) ≤
      rl.acceptedIn log ⌊t / rl.windowMs⌋ + rl.acceptedIn log (⌊t / rl.windowMs⌋ + 1) := by
  refine countP_le_add fun x _ hx => ?_
  obtain ⟨haccepted, hfrom, hto⟩ :
      x.2.accepted = true ∧ t ≤ x.1.now ∧ x.1.now ≤ t + rl.windowMs := by simpa using hx
  have hlower : ⌊t / rl.windowMs⌋ ≤ ⌊x.1.now / rl.windowMs⌋ :=
    Int.floor_mono (div_le_div_of_nonneg_right hfrom hwindow.le)
  have hupper : ⌊x.1.now / rl.windowMs⌋ ≤ ⌊t / rl.windowMs⌋ + 1 := by
    rw [← Int.floor_add_one]
    refine Int.floor_mono ?_
    rw [div_le_iff₀ hwindow, add_mul, div_mul_cancel₀ _ hwindow.ne', one_mul]
    exact hto
  simp only [haccepted, Bool.true_and, beq_iff_eq]
  omega

/-- What the log shows of the accepted requests: no more of a bucket than were counted and than
`max`, and fewer than `max` after a bucket with another. -/
structure Limits (backend : CounterBackend) (requests : List RateRequest)
    (log : List (RateRequest × RateAnswer)) : Prop where
  le_counted : ∀ bucket, rl.acceptedIn log bucket ≤ rl.counted requests backend bucket
  le_max : ∀ bucket, (rl.acceptedIn log bucket : ℚ) ≤ rl.max
  adjacent : ∀ bucket, 0 < rl.acceptedIn log bucket → 0 < rl.acceptedIn log (bucket + 1) →
    (rl.acceptedIn log (bucket + 1) : ℚ) < rl.max

variable {rl} {backend : CounterBackend} {earlier : List RateRequest}
  {log : List (RateRequest × RateAnswer)} {r : RateRequest}

/-- Nothing was counted in the buckets to come. -/
theorem counted_eq_zero (hwindow : 0 < rl.windowMs) (hlast : ∀ r' ∈ earlier, r'.now ≤ r.now)
    {bucket : Int} (hbucket : ⌊r.now / rl.windowMs⌋ < bucket) :
    rl.counted earlier backend bucket = 0 := by
  rw [counted, List.countP_eq_zero]
  intro r' hr'
  have hle : ⌊r'.now / rl.windowMs⌋ ≤ ⌊r.now / rl.windowMs⌋ :=
    Int.floor_mono (div_le_div_of_nonneg_right (hlast r' hr') hwindow.le)
  have hne : ⌊r'.now / rl.windowMs⌋ ≠ bucket := by omega
  simp [hne]

/-- A request that is let through finds room for itself, and some more room when others were counted
in the bucket before. -/
theorem room_of_estimate_le (hwindow : 0 < rl.windowMs) (hroom : rl.estimate earlier r ≤ rl.max) :
    (rl.counted earlier r.path.backend ⌊r.now / rl.windowMs⌋ + 1 : ℚ) ≤ rl.max ∧
      (0 < rl.counted earlier r.path.backend (⌊r.now / rl.windowMs⌋ - 1) →
        (rl.counted earlier r.path.backend ⌊r.now / rl.windowMs⌋ + 1 : ℚ) < rl.max) := by
  have hweight := bucketInfo_weight_pos hwindow r.now
  rw [estimate, slidingWindowCount] at hroom
  dsimp only [bucketInfo] at hroom hweight
  push_cast at hroom
  have hprevious := mul_nonneg
    (Nat.cast_nonneg (α := ℚ) (rl.counted earlier r.path.backend (⌊r.now / rl.windowMs⌋ - 1)))
    hweight.le
  refine ⟨by linarith, fun hpos => ?_⟩
  have hmore := mul_pos (Nat.cast_pos (α := ℚ).mpr hpos) hweight
  linarith

theorem counted_le_append (earlier : List RateRequest) (r : RateRequest) (bucket : Int) :
    rl.counted earlier backend bucket ≤ rl.counted (earlier ++ [r]) backend bucket := by
  rw [counted, counted, List.countP_append]
  exact Nat.le_add_right _ _

theorem Limits.rejected (h : rl.Limits backend earlier log) {a : RateAnswer}
    (hrejected : a.accepted ≠ true) : rl.Limits backend (earlier ++ [r]) (log ++ [(r, a)]) := by
  have hsame : ∀ bucket, rl.acceptedIn (log ++ [(r, a)]) bucket = rl.acceptedIn log bucket := by
    intro bucket
    rw [acceptedIn_append, if_neg fun hb => hrejected hb.1]
    rfl
  refine ⟨fun bucket => ?_, fun bucket => ?_, fun bucket => ?_⟩
  · rw [hsame]
    exact (h.le_counted bucket).trans (counted_le_append earlier r bucket)
  · rw [hsame]
    exact h.le_max bucket
  · rw [hsame, hsame]
    exact h.adjacent bucket

/-- An accepted request is one more of its bucket only, and nothing is counted after it yet. -/
theorem Limits.accepted (h : rl.Limits r.path.backend earlier log) (hwindow : 0 < rl.windowMs)
    (hcounts : r.path.counts r.path.backend = true) (hlast : ∀ r' ∈ earlier, r'.now ≤ r.now)
    (hroom : rl.estimate earlier r ≤ rl.max) {a : RateAnswer} (haccepted : a.accepted = true) :
    rl.Limits r.path.backend (earlier ++ [r]) (log ++ [(r, a)]) := by
  obtain ⟨hmax, hadjacent⟩ := room_of_estimate_le hwindow hroom
  have hnew : (rl.acceptedIn log ⌊r.now / rl.windowMs⌋ : ℚ) ≤
      rl.counted earlier r.path.backend ⌊r.now / rl.windowMs⌋ := by
    exact_mod_cast h.le_counted _
  refine ⟨fun bucket => ?_, fun bucket => ?_, fun bucket => ?_⟩
  · have hle := h.le_counted bucket
    rw [acceptedIn_append, counted_append, if_pos hcounts]
    by_cases hbucket : ⌊r.now / rl.windowMs⌋ = bucket
    · subst hbucket
      rw [if_pos ⟨haccepted, rfl⟩, Function.update_self]
      omega
    · rw [if_neg fun hb => hbucket hb.2, Function.update_of_ne (Ne.symm hbucket)]
      exact hle
  · rw [acceptedIn_append]
    by_cases hbucket : ⌊r.now / rl.windowMs⌋ = bucket
    · subst hbucket
      rw [if_pos ⟨haccepted, rfl⟩]
      push_cast
      linarith
    · rw [if_neg fun hb => hbucket hb.2]
      exact h.le_max bucket
  · rw [acceptedIn_append, acceptedIn_append]
    intro hbefore hafter
    -- the request is of the later bucket, of the earlier one, or of neither
    by_cases hbucket : ⌊r.now / rl.windowMs⌋ = bucket + 1
    · rw [if_neg fun hb => by omega, add_zero] at hbefore
      have hcounted := hbefore.trans_le (h.le_counted bucket)
      rw [hbucket] at hadjacent hnew
      rw [add_sub_cancel_right] at hadjacent
      rw [if_pos ⟨haccepted, hbucket⟩]
      have hlt := hadjacent hcounted
      push_cast
      linarith
    · rw [if_neg fun hb => hbucket hb.2, add_zero] at hafter ⊢
      by_cases hsame : ⌊r.now / rl.windowMs⌋ = bucket
      · have hle := h.le_counted (bucket + 1)
        rw [counted_eq_zero hwindow hlast (by omega)] at hle
        omega
      · rw [if_neg fun hb => hsame hb.2] at hbefore
        exact h.adjacent bucket hbefore hafter

theorem counts_path (backend : CounterBackend) :
    backend.path.backend = backend ∧ backend.path.counts backend = true := by
  cases backend <;> exact ⟨rfl, rfl⟩

theorem Limits.serve (h : rl.Limits backend earlier log) (hwindow : 0 < rl.windowMs) {now : ℚ}
    (hlast : ∀ r' ∈ earlier, r'.now ≤ now) (resetSeconds : Int) :
    rl.Limits backend (earlier ++ [⟨now, backend.path⟩]) (log ++ [(⟨now, backend.path⟩,
      rl.answer (rl.estimate earlier ⟨now, backend.path⟩) resetSeconds)]) := by
  obtain ⟨hbackend, hcounts⟩ := counts_path backend
  by_cases hroom : rl.estimate earlier ⟨now, backend.path⟩ ≤ rl.max
  · have haccepted := (rl.answer_accepted _ resetSeconds).mpr hroom
    have hown : rl.Limits backend.path.backend earlier log := by rwa [hbackend]
    have hnext := Limits.accepted (r := ⟨now, backend.path⟩) hown hwindow (by rwa [hbackend]) hlast
      hroom haccepted
    rwa [hbackend] at hnext
  · exact h.rejected (mt (rl.answer_accepted _ _).mp hroom)

/-- Two buckets in a row. -/
theorem Limits.adjacent_lt (h : rl.Limits backend earlier log) (hmax : 0 < rl.max) (bucket : Int) :
    (rl.acceptedIn log bucket + rl.acceptedIn log (bucket + 1) : ℚ) < 2 * rl.max := by
  have hfirst := h.le_max bucket
  have hsecond := h.le_max (bucket + 1)
  rcases Nat.eq_zero_or_pos (rl.acceptedIn log bucket) with hnone | hbefore
  · rw [hnone, Nat.cast_zero]
    linarith
  · rcases Nat.eq_zero_or_pos (rl.acceptedIn log (bucket + 1)) with hnone | hafter
    · rw [hnone, Nat.cast_zero]
      linarith
    · have hlt := h.adjacent bucket hbefore hafter
      linarith

theorem limits_run (hmax : 0 ≤ rl.max) (hwindow : 0 < rl.windowMs) (backend : CounterBackend)
    (times : List ℚ) (hsorted : times.Pairwise (· ≤ ·)) :
    rl.Limits backend (CounterBackend.requests backend times)
      (rl.run (CounterBackend.requests backend times)).log := by
  induction times using List.reverseRecOn with
  | nil =>
    refine ⟨fun _ => le_rfl, fun _ => ?_, fun _ hpos => absurd hpos (lt_irrefl 0)⟩
    rw [CounterBackend.requests, List.map_nil]
    exact_mod_cast hmax
  | append_singleton times now ih =>
    obtain ⟨hearlier, -, hlast⟩ := List.pairwise_append.mp hsorted
    have hlimits := ih hearlier
    have hsplit : CounterBackend.requests backend (times ++ [now]) =
        CounterBackend.requests backend times ++ [⟨now, backend.path⟩] := List.map_append
    rw [hsplit, run_append, RateLimiter.serve, handle_run hwindow]
    refine hlimits.serve hwindow (fun r' hr' => ?_) _
    obtain ⟨t, ht, rfl⟩ := List.mem_map.mp hr'
    exact hlast t ht now List.mem_cons_self

end RateLimiter

/-- **The bound of the limiter.**  No more than `max` requests are let through in a bucket, and fewer
than twice as many in any window. -/
theorem rateLimiter_bound (rl : RateLimiter) (backend : CounterBackend) (times : List ℚ)
    (hmax : 1 ≤ rl.max) (hwindow : 0 < rl.windowMs) (hsorted : times.Pairwise (· ≤ ·)) :
    (∀ bucket, (rl.acceptedIn (rl.run (backend.requests times)).log bucket : ℚ) ≤ rl.max) ∧
    ∀ t, (RateLimiter.acceptedBetween (rl.run (backend.requests times)).log t (t + rl.windowMs) : ℚ)
      < 2 * rl.max := by
  have hlimits := RateLimiter.limits_run (zero_le_one.trans hmax) hwindow backend times hsorted
  refine ⟨hlimits.le_max, fun t => ?_⟩
  have hboth := rl.acceptedBetween_le hwindow (rl.run (backend.requests times)).log t
  calc (RateLimiter.acceptedBetween (rl.run (backend.requests times)).log t (t + rl.windowMs) : ℚ)
      ≤ rl.acceptedIn (rl.run (backend.requests times)).log ⌊t / rl.windowMs⌋ +
          rl.acceptedIn (rl.run (backend.requests times)).log (⌊t / rl.windowMs⌋ + 1) := by
        exact_mod_cast hboth
    _ < 2 * rl.max := hlimits.adjacent_lt (zero_lt_one.trans_le hmax) _

theorem rateLimiter_bound_sync :
    (syncLimiter.acceptedIn (syncLimiter.run (CounterBackend.memory.requests [0, 30000, 60000])).log
      1 : ℚ) ≤ 1 ∧
    (RateLimiter.acceptedBetween
      (syncLimiter.run (CounterBackend.memory.requests [0, 30000, 60000])).log 30000
        (30000 + syncLimiter.windowMs) : ℚ) < 2 * syncLimiter.max := by
  obtain ⟨hbucket, hwindow⟩ := rateLimiter_bound syncLimiter .memory [0, 30000, 60000] le_rfl
    (by norm_num [syncLimiter]) (by norm_num)
  exact ⟨hbucket 1, hwindow 30000⟩

/-! ## Waiting out `Retry-After` -/

namespace RateLimiter
variable (rl : RateLimiter)

/-- In the bucket after the rejected request, what is left of the count of its bucket leaves room for
one more. -/
def RetryCovered (requests : List RateRequest) (rejected retry : RateRequest) : Prop :=
  1 ≤ rl.max ∧
    (⌊retry.now / rl.windowMs⌋ = ⌊rejected.now / rl.windowMs⌋ + 1 →
      rl.counted requests retry.path.backend ⌊rejected.now / rl.windowMs⌋ *
        (((⌊retry.now / rl.windowMs⌋ + 1) * rl.windowMs - retry.now) / rl.windowMs) ≤ rl.max - 1)

variable {rl}

theorem bucket_lt_of_retryAfter (hwindow : 0 < rl.windowMs) {earlier : List RateRequest}
    {rejected : RateRequest} {seconds : Int} {later : ℚ}
    (hrejected : (rl.handle (rl.run earlier).stores rejected).1.retryAfter = some seconds)
    (hwait : rejected.now + 1000 * seconds ≤ later) :
    ⌊rejected.now / rl.windowMs⌋ < ⌊later / rl.windowMs⌋ := by
  rw [handle_run hwindow, RateAnswer.retryAfter, answer] at hrejected
  split_ifs at hrejected with hover
  · obtain rfl := Option.some.inj hrejected
    exact bucket_lt_of_reset_le hwindow rejected.now hwait
  · cases hrejected

end RateLimiter

end StellarEduPay

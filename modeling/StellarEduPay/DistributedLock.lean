import Mathlib.Algebra.Order.Ring.Int
import Mathlib.Logic.Function.Basic
import StellarEduPay.Runs

/-! # The distributed lock

A lock is a lease with a fencing token.  It has two backends: a map of the process,
whose keys are the lock keys and, under a prefix, their fence counters, and a Redis
keyspace that is laid out the same way.  Both are given here as functions of the
store and the clock, and both drive one transition system, which keeps the leases
that callers were told they have.  The second part proves that the map is a fenced
lease, one key at a time: what other keys do is covered by a frame lemma.
-/
namespace StellarEduPay
open Runs Function

/-! ## Keys -/

/-- `FENCE_PREFIX` -/
def fencePrefix : String := "__fence__:"

def getFenceKey (key : String) : String := fencePrefix ++ key

/-- Whether a key starts with the prefix of the fence entries. -/
def startsWithFence (key : String) : Bool := fencePrefix.toList.isPrefixOf key.toList

theorem startsWithFence_getFenceKey (key : String) : startsWithFence (getFenceKey key) = true := by
  simp [startsWithFence, getFenceKey]

theorem getFenceKey_injective : Injective getFenceKey := by
  intro a b h
  have hlist : fencePrefix.toList ++ a.toList = fencePrefix.toList ++ b.toList := by
    simpa [getFenceKey] using congrArg String.toList h
  exact String.toList_inj.mp (List.append_cancel_left hlist)

theorem getFenceKey_ne {key : String} (h : startsWithFence key = false) (other : String) :
    getFenceKey other ≠ key := by
  rintro rfl
  rw [startsWithFence_getFenceKey] at h
  cases h

/-- A lock key is never its own fence entry. -/
theorem getFenceKey_ne_self (key : String) : getFenceKey key ≠ key := by
  intro h
  have hlen := congrArg List.length (congrArg String.toList h)
  simp only [getFenceKey, String.toList_append, List.length_append] at hlen
  have hpos : fencePrefix.toList.length = 10 := by decide
  omega

/-! ## The in-process backend -/

/-- An entry of `localLocks`.  A fence entry has neither a token nor an expiry. -/
structure LockEntry where
  token : Option String
  fencingToken : Nat
  expiresAt : Option Nat
  deriving DecidableEq, Repr

/-- `localLocks` -/
abbrev LockMap := String → Option LockEntry

/-- `expiresAt > now`, which is false of an entry without expiry. -/
def LockEntry.unexpired (entry : LockEntry) (now : Nat) : Bool :=
  entry.expiresAt.any (now < ·)

namespace LockMap
variable (locks : LockMap)

/-- The counter the next acquisition hands out. -/
def nextFence (key : String) : Nat :=
  match locks (getFenceKey key) with
  | some existingFence => existingFence.fencingToken + 1
  | none => 1

def acquire (now : Nat) (key : String) (ttlMs : Nat) (token : String) : Option Nat × LockMap :=
  if (locks key).any (·.unexpired now) then (none, locks)
  else
    let fenceCounter := nextFence locks key
    (some fenceCounter,
      update (update locks (getFenceKey key) (some ⟨none, fenceCounter, none⟩))
        key (some ⟨some token, fenceCounter, some (now + ttlMs)⟩))

def release (key token : String) : Bool × LockMap :=
  if token = "" then (false, locks)
  else if (locks key).any (·.token = some token) then (true, update locks key none)
  else (false, locks)

/-- `renew` reads the clock twice, the second time for the new expiry. -/
def renew (now later : Nat) (key token : String) (ttlMs : Nat) : Bool × LockMap :=
  if token = "" then (false, locks)
  else match locks key with
    | some existing =>
      if existing.token = some token ∧ existing.unexpired now = true then
        (true, update locks key (some { existing with expiresAt := some (later + ttlMs) }))
      else (false, locks)
    | none => (false, locks)

def getCurrentFence (key : String) : Option Nat := (locks key).map (·.fencingToken)

/-- An acquisition is refused while an unexpired entry stands, or takes the key and its
fence entry. -/
theorem acquire_cases (now : Nat) (key : String) (ttlMs : Nat) (token : String) :
    ((locks key).any (·.unexpired now) = true ∧ acquire locks now key ttlMs token = (none, locks)) ∨
      ((locks key).any (·.unexpired now) = false ∧
        acquire locks now key ttlMs token = (some (nextFence locks key),
          update (update locks (getFenceKey key) (some ⟨none, nextFence locks key, none⟩))
            key (some ⟨some token, nextFence locks key, some (now + ttlMs)⟩))) := by
  by_cases h : (locks key).any (·.unexpired now) = true
  · exact Or.inl ⟨h, by simp [acquire, h]⟩
  · exact Or.inr ⟨by simpa using h, by simp [acquire, h]⟩

/-- A release does nothing, or deletes the entry that holds the token. -/
theorem release_cases (key token : String) :
    release locks key token = (false, locks) ∨
      ∃ existing, locks key = some existing ∧ existing.token = some token ∧
        release locks key token = (true, update locks key none) := by
  unfold release
  split
  · exact Or.inl rfl
  split
  · rename_i h
    obtain ⟨existing, hget, htoken⟩ := Option.any_eq_true _ _ |>.mp h
    exact Or.inr ⟨existing, hget, by simpa using htoken, rfl⟩
  · exact Or.inl rfl

/-- A renewal does nothing, or moves the expiry of the unexpired entry that holds the
token. -/
theorem renew_cases (now later : Nat) (key token : String) (ttlMs : Nat) :
    renew locks now later key token ttlMs = (false, locks) ∨
      ∃ existing, locks key = some existing ∧ existing.token = some token ∧
        existing.unexpired now = true ∧
        renew locks now later key token ttlMs =
          (true, update locks key (some { existing with expiresAt := some (later + ttlMs) })) := by
  unfold renew
  split
  · exact Or.inl rfl
  split
  · rename_i existing hget
    split
    · rename_i h
      exact Or.inr ⟨existing, hget, h.1, h.2, rfl⟩
    · exact Or.inl rfl
  · exact Or.inl rfl

end LockMap

/-! ## The Redis backend -/

/-- What the scripts store under a key: a token, or the counter `INCR` keeps. -/
inductive RedisValue
  | text (value : String)
  | counter (value : Nat)
  deriving DecidableEq, Repr

structure RedisEntry where
  value : RedisValue
  expiresAt : Option Nat
  deriving DecidableEq, Repr

abbrev RedisDb := String → Option RedisEntry

namespace RedisDb
variable (db : RedisDb)

/-- `GET`: a key past its expiry does not exist. -/
def get (now : Nat) (key : String) : Option RedisValue :=
  ((db key).filter fun entry => entry.expiresAt.all (now ≤ ·)).map (·.value)

theorem get_of_none {now : Nat} {key : String} (h : db key = none) : get db now key = none := by
  rw [get, h]
  rfl

/-- A value without expiry stays. -/
theorem get_of_persistent {now : Nat} {key : String} {value : RedisValue}
    (h : db key = some ⟨value, none⟩) : get db now key = some value := by
  rw [get, h]
  rfl

/-- `INCR`: a missing key counts as zero and gets no expiry, a text is an error. -/
def incr (now : Nat) (key : String) : Option (Nat × RedisDb) :=
  match db.get now key with
  | none => some (1, update db key (some ⟨.counter 1, none⟩))
  | some (.counter n) =>
      some (n + 1, update db key ((db key).map fun entry => { entry with value := .counter (n + 1) }))
  | some (.text _) => none

/-- `ACQUIRE_WITH_FENCE_SCRIPT`; a script error makes `acquire` return null, and what the
script wrote before it stays. -/
def acquire (now : Nat) (key : String) (ttlMs : Nat) (token : String) : Option Nat × RedisDb :=
  match db.get now key with
  | some (.counter _) => (none, db)
  | some (.text existing) =>
    if existing ≠ "" then (none, db) else take
  | none => take
where
  take : Option Nat × RedisDb :=
    match db.incr now (getFenceKey key) with
    | none => (none, db)
    | some (fence, db) =>
      -- `SET … PX 0` is an error
      if ttlMs = 0 then (none, db)
      else (some fence, update db key (some ⟨.text token, some (now + ttlMs)⟩))

/-- `RELEASE_SCRIPT` -/
def release (now : Nat) (key token : String) : Bool × RedisDb :=
  if token = "" then (false, db)
  else if db.get now key = some (.text token) then (true, update db key none)
  else (false, db)

/-- `RENEW_SCRIPT`; `PEXPIRE 0` deletes the key. -/
def renew (now : Nat) (key token : String) (ttlMs : Nat) : Bool × RedisDb :=
  if token = "" then (false, db)
  else if db.get now key = some (.text token) then
    (true, update db key (if ttlMs = 0 then none
      else (db key).map fun entry => { entry with expiresAt := some (now + ttlMs) }))
  else (false, db)

/-- The fence counter, under a key of its own.  A token never stands there unless a
fence key is itself used as a lock key.  A `GET` that fails counts as no fence. -/
def getCurrentFence (now : Nat) (answered : Bool) (key : String) : Option Nat :=
  if answered then
    match db.get now (getFenceKey key) with
    | some (.counter fence) => some fence
    | _ => none
  else none

/-- An acquisition changes nothing, or counts the fence up and then takes the key or not. -/
theorem acquire_cases (now : Nat) (key : String) (ttlMs : Nat) (token : String) :
    acquire db now key ttlMs token = (none, db) ∨
      ∃ fence db', incr db now (getFenceKey key) = some (fence, db') ∧
        (acquire db now key ttlMs token = (none, db') ∨
          acquire db now key ttlMs token =
            (some fence, update db' key (some ⟨.text token, some (now + ttlMs)⟩))) := by
  have htake : acquire.take db now key ttlMs token = (none, db) ∨
      ∃ fence db', incr db now (getFenceKey key) = some (fence, db') ∧
        (acquire.take db now key ttlMs token = (none, db') ∨
          acquire.take db now key ttlMs token =
            (some fence, update db' key (some ⟨.text token, some (now + ttlMs)⟩))) := by
    unfold acquire.take
    split
    · exact Or.inl rfl
    · rename_i fence db' hincr
      refine Or.inr ⟨fence, db', hincr, ?_⟩
      split
      · exact Or.inl rfl
      · exact Or.inr rfl
  unfold acquire
  split
  · exact Or.inl rfl
  · split
    · exact Or.inl rfl
    · exact htake
  · exact htake

/-- `INCR` writes its own key only. -/
theorem incr_other {now fence : Nat} {key other : String} {db' : RedisDb}
    (h : incr db now key = some (fence, db')) (hne : other ≠ key) : db' other = db other := by
  unfold incr at h
  split at h
  · cases h
    simp [hne]
  · cases h
    simp [hne]
  · cases h

/-- A release writes the key it is on, or nothing. -/
theorem release_other (now : Nat) (key token : String) {other : String} (hne : other ≠ key) :
    (release db now key token).2 other = db other := by
  unfold release
  split
  · rfl
  split
  · simp [hne]
  · rfl

theorem renew_other (now : Nat) (key token : String) (ttlMs : Nat) {other : String}
    (hne : other ≠ key) : (renew db now key token ttlMs).2 other = db other := by
  unfold renew
  split
  · rfl
  split
  · simp [hne]
  · rfl

end RedisDb

/-! ## Leases over either backend -/

/-- The operations of the module, as one backend carries them out.  A remote one may leave
a call unanswered; `acquire`, `release` and `renew` then report what a refusal reports. -/
structure LockBackend (σ : Type) where
  init : σ
  acquire : σ → (now : Nat) → (key : String) → (ttlMs : Nat) → (token : String) → Option Nat × σ
  release : σ → (now : Nat) → (key token : String) → Bool × σ
  renew : σ → (now later : Nat) → (key token : String) → (ttlMs : Nat) → Bool × σ
  getCurrentFence : σ → (now : Nat) → (answered : Bool) → (key : String) → Option Nat

def inProcess : LockBackend LockMap where
  init := fun _ => none
  acquire := LockMap.acquire
  release locks _ := LockMap.release locks
  renew := LockMap.renew
  getCurrentFence locks _ _ := LockMap.getCurrentFence locks

def redis : LockBackend RedisDb where
  init := fun _ => none
  acquire := RedisDb.acquire
  release := RedisDb.release
  renew db now _ := RedisDb.renew db now
  getCurrentFence := RedisDb.getCurrentFence

/-- What one successful `acquire` promised its caller, kept up to date with the
renewals and releases that succeeded for its token. -/
structure Lease where
  key : String
  token : String
  fencingToken : Nat
  expiresAt : Nat
  released : Bool
  deriving DecidableEq, Repr

/-- The clock, the store, and the leases handed out so far, most recent first. -/
structure LockSystem (σ : Type) where
  now : Nat
  store : σ
  leases : List Lease

inductive LockAction
  | tick (ms : Nat)
  | acquire (key : String) (ttlMs : Nat) (token : String)
  | release (key token : String)
  | renew (key token : String) (ttlMs elapsed : Nat)
  deriving DecidableEq, Repr

/-- A change to the leases a caller names by key and token. -/
def Lease.amend (key token : String) (f : Lease → Lease) (l : Lease) : Lease :=
  if l.key = key ∧ l.token = token then f l else l

def Lease.release (l : Lease) : Lease := { l with released := true }

def Lease.extend (expiresAt : Nat) (l : Lease) : Lease := { l with expiresAt := expiresAt }

namespace LockSystem
variable {σ : Type}

def start (backend : LockBackend σ) (now : Nat) : LockSystem σ := ⟨now, backend.init, []⟩

/-- The leases of one key, most recent first. -/
def leasesOf (s : LockSystem σ) (key : String) : List Lease := s.leases.filter (·.key = key)

/-- A lease its caller may rely on. -/
def Live (s : LockSystem σ) (l : Lease) : Prop := l.released = false ∧ s.now < l.expiresAt

end LockSystem

/-- One call on the lock, or time passing. -/
def lockStep {σ : Type} (backend : LockBackend σ) (s : LockSystem σ) :
    LockAction → Option (LockSystem σ)
  | .tick ms => some { s with now := s.now + ms }
  | .acquire key ttlMs token =>
    match backend.acquire s.store s.now key ttlMs token with
    | (none, store) => some { s with store := store }
    | (some fencingToken, store) =>
      let lease : Lease := ⟨key, token, fencingToken, s.now + ttlMs, false⟩
      some { s with store := store, leases := lease :: s.leases }
  | .release key token =>
    match backend.release s.store s.now key token with
    | (false, store) => some { s with store := store }
    | (true, store) =>
      some { s with store := store, leases := s.leases.map (Lease.amend key token Lease.release) }
  | .renew key token ttlMs elapsed =>
    let later := s.now + elapsed
    match backend.renew s.store s.now later key token ttlMs with
    | (false, store) => some { s with now := later, store := store }
    | (true, store) =>
      some ⟨later, store, s.leases.map (Lease.amend key token (Lease.extend (later + ttlMs)))⟩

/-- The key a call is on. -/
def LockAction.key : LockAction → Option String
  | .tick _ => none
  | .acquire key _ _ | .release key _ | .renew key _ _ _ => some key

/-- The call does not use the fence entry of `key` as a lock. -/
def Spares (key : String) {σ : Type} (_ : LockSystem σ) (call : LockAction) : Prop :=
  call.key ≠ some (getFenceKey key)

instance {key : String} {σ : Type} {s : LockSystem σ} {call : LockAction} :
    Decidable (Spares key s call) :=
  inferInstanceAs (Decidable (call.key ≠ some (getFenceKey key)))

section Leases
variable {key other token : String} {f : Lease → Lease} {l : Lease}

theorem Lease.amend_key (hf : ∀ l, (f l).key = l.key) : (l.amend other token f).key = l.key := by
  unfold Lease.amend
  split
  · exact hf l
  · rfl

/-- The leases of the key a change is about are changed in place. -/
theorem filter_amend (hf : ∀ l, (f l).key = l.key) (leases : List Lease) :
    (leases.map (Lease.amend other token f)).filter (·.key = key) =
      (leases.filter (·.key = key)).map (Lease.amend other token f) := by
  rw [List.filter_map]
  refine congrArg (List.map _) (List.filter_congr fun l _ => ?_)
  simp [Lease.amend_key hf]

/-- A change about another key touches none of these leases. -/
theorem filter_amend_other (hf : ∀ l, (f l).key = l.key) (h : key ≠ other) (leases : List Lease) :
    (leases.map (Lease.amend other token f)).filter (·.key = key) =
      leases.filter (·.key = key) := by
  rw [filter_amend hf]
  conv_rhs => rw [← List.map_id (leases.filter (·.key = key))]
  refine List.map_congr_left fun l hl => ?_
  have hkey : l.key = key := by simpa using (List.mem_filter.mp hl).2
  simp [Lease.amend, hkey, h]

end Leases

/-! ## The map is a fenced lease -/

section InProcess
variable {s t : LockSystem LockMap} {key : String}

/-- The part of the system that belongs to one key. -/
structure SameView (key : String) (s t : LockSystem LockMap) : Prop where
  lock : t.store key = s.store key
  fence : t.store (getFenceKey key) = s.store (getFenceKey key)
  leases : t.leasesOf key = s.leasesOf key

/-- What a step does, seen from one key: time passes, the lock is acquired, its entry is
released, or its entry is renewed. -/
theorem lockStep_view {call : LockAction} (hkey : startsWithFence key = false)
    (hspares : Spares key s call) (hstep : lockStep inProcess s call = some t) :
    (SameView key s t ∧ s.now ≤ t.now) ∨
      (∃ token ttlMs, call.key = some key ∧ (s.store key).any (·.unexpired s.now) = false ∧
        t.now = s.now ∧
        t.store key = some ⟨some token, s.store.nextFence key, some (s.now + ttlMs)⟩ ∧
        t.store (getFenceKey key) = some ⟨none, s.store.nextFence key, none⟩ ∧
        t.leasesOf key =
          ⟨key, token, s.store.nextFence key, s.now + ttlMs, false⟩ :: s.leasesOf key) ∨
      (∃ token existing, call.key = some key ∧ s.store key = some existing ∧
        existing.token = some token ∧ t.now = s.now ∧ t.store key = none ∧
        t.store (getFenceKey key) = s.store (getFenceKey key) ∧
        t.leasesOf key = (s.leasesOf key).map (Lease.amend key token Lease.release)) ∨
      (∃ token expiresAt existing, call.key = some key ∧ s.store key = some existing ∧
        existing.token = some token ∧ existing.unexpired s.now = true ∧ s.now ≤ t.now ∧
        t.store key = some { existing with expiresAt := some expiresAt } ∧
        t.store (getFenceKey key) = s.store (getFenceKey key) ∧
        t.leasesOf key = (s.leasesOf key).map (Lease.amend key token (Lease.extend expiresAt))) := by
  have hself : getFenceKey key ≠ key := getFenceKey_ne_self key
  rcases call with ms | ⟨other, ttlMs, token⟩ | ⟨other, token⟩ | ⟨other, token, ttlMs, elapsed⟩
  · obtain rfl : _ = t := Option.some.inj hstep
    exact Or.inl ⟨⟨rfl, rfl, rfl⟩, Nat.le_add_right _ _⟩
  all_goals have hfence : getFenceKey key ≠ other := fun h => hspares (congrArg some h.symm)
  · rcases s.store.acquire_cases s.now other ttlMs token with ⟨-, h⟩ | ⟨hfree, h⟩
    · simp only [lockStep, inProcess, h, Option.some.injEq] at hstep
      subst hstep
      exact Or.inl ⟨⟨rfl, rfl, rfl⟩, Nat.le_refl _⟩
    · simp only [lockStep, inProcess, h, Option.some.injEq] at hstep
      subst hstep
      by_cases hne : key = other
      · subst hne
        refine Or.inr (Or.inl ⟨token, ttlMs, rfl, hfree, rfl, by simp, by simp [hself], ?_⟩)
        simp [LockSystem.leasesOf]
      · have hfences : getFenceKey key ≠ getFenceKey other := fun h => hne (getFenceKey_injective h)
        have hlock : key ≠ getFenceKey other := (getFenceKey_ne hkey other).symm
        refine Or.inl ⟨⟨by simp [hne, hlock], by simp [hfence, hfences], ?_⟩, Nat.le_refl _⟩
        simp [LockSystem.leasesOf, Ne.symm hne]
  · rcases s.store.release_cases other token with h | ⟨existing, hget, htoken, h⟩
    · simp only [lockStep, inProcess, h, Option.some.injEq] at hstep
      subst hstep
      exact Or.inl ⟨⟨rfl, rfl, rfl⟩, Nat.le_refl _⟩
    · simp only [lockStep, inProcess, h, Option.some.injEq] at hstep
      subst hstep
      by_cases hne : key = other
      · subst hne
        refine Or.inr (Or.inr (Or.inl ⟨token, existing, rfl, hget, htoken, rfl, by simp,
          by simp [hself], ?_⟩))
        exact filter_amend (f := Lease.release) (fun _ => rfl) _
      · refine Or.inl ⟨⟨by simp [hne], by simp [hfence], ?_⟩, Nat.le_refl _⟩
        exact filter_amend_other (f := Lease.release) (fun _ => rfl) hne _
  · rcases s.store.renew_cases s.now (s.now + elapsed) other token ttlMs with
      h | ⟨existing, hget, htoken, hlive, h⟩
    · simp only [lockStep, inProcess, h, Option.some.injEq] at hstep
      subst hstep
      exact Or.inl ⟨⟨rfl, rfl, rfl⟩, Nat.le_add_right _ _⟩
    · simp only [lockStep, inProcess, h, Option.some.injEq] at hstep
      subst hstep
      by_cases hne : key = other
      · subst hne
        refine Or.inr (Or.inr (Or.inr ⟨token, s.now + elapsed + ttlMs, existing, rfl, hget, htoken,
          hlive, Nat.le_add_right _ _, by simp, by simp [hself], ?_⟩))
        exact filter_amend (f := Lease.extend _) (fun _ => rfl) _
      · refine Or.inl ⟨⟨by simp [hne], by simp [hfence], ?_⟩, Nat.le_add_right _ _⟩
        exact filter_amend_other (f := Lease.extend _) (fun _ => rfl) hne _

/-- **The lease invariant** of one key: the entry of the map is the latest lease, the fence
entry bounds every fencing token handed out, and only the token in the map is live. -/
structure LeaseInv (key : String) (s : LockSystem LockMap) : Prop where
  counter : ∀ l ∈ s.leasesOf key, l.fencingToken < s.store.nextFence key
  increasing : ((s.leasesOf key).map (·.fencingToken)).Pairwise (· > ·)
  held : ∀ entry, s.store key = some entry → ∃ l rest, s.leasesOf key = l :: rest ∧
    l.released = false ∧ entry = ⟨some l.token, l.fencingToken, some l.expiresAt⟩
  free : s.store key = none → ∀ l ∈ (s.leasesOf key).head?, l.released = true
  live : ∀ l ∈ s.leasesOf key, s.Live l → ∃ entry, s.store key = some entry ∧
    entry.token = some l.token ∧ entry.expiresAt = some l.expiresAt

theorem key_of_mem_leasesOf {σ : Type} {s : LockSystem σ} {l : Lease} (h : l ∈ s.leasesOf key) :
    l.key = key := by
  simpa using (List.mem_filter.mp h).2

theorem LeaseInv.init (key : String) (now : Nat) : LeaseInv key (.start inProcess now) where
  counter l hl := by cases hl
  increasing := List.Pairwise.nil
  held entry h := by cases h
  free _ l hl := by cases hl
  live l hl := by cases hl

theorem nextFence_congr {locks locks' : LockMap}
    (h : locks' (getFenceKey key) = locks (getFenceKey key)) :
    locks'.nextFence key = locks.nextFence key := by
  rw [LockMap.nextFence, LockMap.nextFence, h]

theorem unexpired_iff {entry : LockEntry} {now expiresAt : Nat}
    (h : entry.expiresAt = some expiresAt) : entry.unexpired now = true ↔ now < expiresAt := by
  simp [LockEntry.unexpired, h]

theorem LeaseInv.view (h : LeaseInv key s) (hview : SameView key s t) (hnow : s.now ≤ t.now) :
    LeaseInv key t := by
  obtain ⟨hlock, hfence, hleases⟩ := hview
  constructor
  · rw [hleases, nextFence_congr hfence]
    exact h.counter
  · rw [hleases]
    exact h.increasing
  · rw [hleases, hlock]
    exact h.held
  · rw [hleases, hlock]
    exact h.free
  · rw [hleases, hlock]
    rintro l hl ⟨hrel, hexp⟩
    exact h.live l hl ⟨hrel, Nat.lt_of_le_of_lt hnow hexp⟩

theorem LeaseInv.acquired (h : LeaseInv key s) {token : String} {ttlMs : Nat}
    (hfree : (s.store key).any (·.unexpired s.now) = false) (hnow : t.now = s.now)
    (hlock : t.store key = some ⟨some token, s.store.nextFence key, some (s.now + ttlMs)⟩)
    (hfence : t.store (getFenceKey key) = some ⟨none, s.store.nextFence key, none⟩)
    (hleases : t.leasesOf key =
      ⟨key, token, s.store.nextFence key, s.now + ttlMs, false⟩ :: s.leasesOf key) :
    LeaseInv key t := by
  have hnext : t.store.nextFence key = s.store.nextFence key + 1 := by
    rw [LockMap.nextFence, hfence]
  -- nobody had a live lease: it would stand unexpired in the map
  have hdead : ∀ l ∈ s.leasesOf key, ¬ s.Live l := by
    rintro l hl hlive
    obtain ⟨entry, hget, -, hexp⟩ := h.live l hl hlive
    have := (unexpired_iff hexp).mpr hlive.2
    simp [hget, this] at hfree
  constructor
  · rw [hleases, hnext]
    rintro l (_ | ⟨_, hl⟩)
    · exact Nat.lt_succ_self _
    · exact Nat.lt_succ_of_lt (h.counter l hl)
  · rw [hleases, List.map_cons]
    refine List.pairwise_cons.mpr ⟨fun f hf => ?_, h.increasing⟩
    obtain ⟨l, hl, rfl⟩ := List.mem_map.mp hf
    exact h.counter l hl
  · rintro entry hget
    rw [hlock] at hget
    obtain rfl := Option.some.inj hget
    exact ⟨_, _, hleases, rfl, rfl⟩
  · intro hnone
    rw [hlock] at hnone
    cases hnone
  · rw [hleases]
    rintro l (_ | ⟨_, hl⟩) hlive
    · exact ⟨_, hlock, rfl, rfl⟩
    · exact absurd ⟨hlive.1, hnow ▸ hlive.2⟩ (hdead l hl)

/-- A change to some leases that keeps their fencing tokens keeps the tokens' order. -/
theorem map_amend_fencingToken {f : Lease → Lease} {token : String}
    (hf : ∀ l, (f l).fencingToken = l.fencingToken) (leases : List Lease) :
    (leases.map (Lease.amend key token f)).map (·.fencingToken) =
      leases.map (·.fencingToken) := by
  rw [List.map_map]
  refine List.map_congr_left fun l _ => ?_
  simp only [Function.comp, Lease.amend]
  split
  · exact hf l
  · rfl

theorem counter_amend {f : Lease → Lease} {token : String} {bound : Nat}
    (hf : ∀ l, (f l).fencingToken = l.fencingToken) {leases : List Lease}
    (h : ∀ l ∈ leases, l.fencingToken < bound) :
    ∀ l ∈ leases.map (Lease.amend key token f), l.fencingToken < bound := by
  intro l hl
  have hmem : l.fencingToken ∈ leases.map (·.fencingToken) :=
    map_amend_fencingToken hf leases ▸ List.mem_map_of_mem hl
  obtain ⟨l', hl', heq⟩ := List.mem_map.mp hmem
  exact heq ▸ h l' hl'

/-- The latest lease of a key is the one the map's token names. -/
theorem LeaseInv.latest (h : LeaseInv key s) {token : String} {existing : LockEntry}
    (hget : s.store key = some existing) (htoken : existing.token = some token) :
    ∃ l rest, s.leasesOf key = l :: rest ∧ l.released = false ∧ (l.key = key ∧ l.token = token) ∧
      existing = ⟨some l.token, l.fencingToken, some l.expiresAt⟩ := by
  obtain ⟨l, rest, hlast, hrel, rfl⟩ := h.held existing hget
  have hmem : l ∈ s.leasesOf key := hlast ▸ List.mem_cons_self
  exact ⟨l, rest, hlast, hrel, ⟨key_of_mem_leasesOf hmem, Option.some.inj htoken⟩, rfl⟩

/-- A live lease is named by the token in the map. -/
theorem LeaseInv.named_of_live (h : LeaseInv key s) {token : String} {existing : LockEntry}
    (hget : s.store key = some existing) (htoken : existing.token = some token) {l : Lease}
    (hl : l ∈ s.leasesOf key) (hlive : s.Live l) : l.key = key ∧ l.token = token := by
  obtain ⟨entry, hentry, htok, -⟩ := h.live l hl hlive
  obtain rfl := Option.some.inj (hget.symm.trans hentry)
  exact ⟨key_of_mem_leasesOf hl, Option.some.inj (htok.symm.trans htoken)⟩

theorem LeaseInv.released (h : LeaseInv key s) {token : String} {existing : LockEntry}
    (hget : s.store key = some existing) (htoken : existing.token = some token)
    (hnow : t.now = s.now) (hlock : t.store key = none)
    (hfence : t.store (getFenceKey key) = s.store (getFenceKey key))
    (hleases : t.leasesOf key = (s.leasesOf key).map (Lease.amend key token Lease.release)) :
    LeaseInv key t := by
  constructor
  · rw [hleases, nextFence_congr hfence]
    exact counter_amend (f := Lease.release) (fun _ => rfl) h.counter
  · rw [hleases, map_amend_fencingToken (f := Lease.release) (fun _ => rfl)]
    exact h.increasing
  · intro entry hsome
    rw [hlock] at hsome
    cases hsome
  · intro _ l hl
    obtain ⟨last, rest, hlast, -, hnamed, -⟩ := h.latest hget htoken
    rw [hleases, hlast, List.map_cons, List.head?_cons, Lease.amend, if_pos hnamed] at hl
    obtain rfl := Option.mem_some_iff.mp hl
    rfl
  · rw [hleases]
    rintro l hl hlive
    obtain ⟨l₀, hl₀, rfl⟩ := List.mem_map.mp hl
    by_cases hnamed : l₀.key = key ∧ l₀.token = token
    · simp [LockSystem.Live, Lease.amend, Lease.release, hnamed] at hlive
    · rw [Lease.amend, if_neg hnamed] at hlive
      exact absurd (h.named_of_live hget htoken hl₀ ⟨hlive.1, hnow ▸ hlive.2⟩) hnamed

theorem LeaseInv.renewed (h : LeaseInv key s) {token : String} {existing : LockEntry}
    {expiresAt : Nat} (hget : s.store key = some existing) (htoken : existing.token = some token)
    (hnow : s.now ≤ t.now)
    (hlock : t.store key = some { existing with expiresAt := some expiresAt })
    (hfence : t.store (getFenceKey key) = s.store (getFenceKey key))
    (hleases : t.leasesOf key =
      (s.leasesOf key).map (Lease.amend key token (Lease.extend expiresAt))) :
    LeaseInv key t := by
  constructor
  · rw [hleases, nextFence_congr hfence]
    exact counter_amend (f := Lease.extend _) (fun _ => rfl) h.counter
  · rw [hleases, map_amend_fencingToken (f := Lease.extend _) (fun _ => rfl)]
    exact h.increasing
  · intro entry hsome
    rw [hlock] at hsome
    obtain rfl := Option.some.inj hsome
    obtain ⟨last, rest, hlast, hrel, hnamed, rfl⟩ := h.latest hget htoken
    refine ⟨_, _, by rw [hleases, hlast, List.map_cons], ?_, ?_⟩
    · rw [Lease.amend, if_pos hnamed]
      exact hrel
    · rw [Lease.amend, if_pos hnamed]
      rfl
  · intro hnone
    rw [hlock] at hnone
    cases hnone
  · rw [hleases]
    rintro l hl hlive
    obtain ⟨l₀, hl₀, rfl⟩ := List.mem_map.mp hl
    by_cases hnamed : l₀.key = key ∧ l₀.token = token
    · rw [Lease.amend, if_pos hnamed]
      exact ⟨_, hlock, htoken.trans (congrArg some hnamed.2.symm), rfl⟩
    · rw [Lease.amend, if_neg hnamed] at hlive
      have hlive₀ : s.Live l₀ := ⟨hlive.1, Nat.lt_of_le_of_lt hnow hlive.2⟩
      exact absurd (h.named_of_live hget htoken hl₀ hlive₀) hnamed

theorem LeaseInv.step {call : LockAction} (hkey : startsWithFence key = false)
    (h : LeaseInv key s) (hspares : Spares key s call)
    (hstep : lockStep inProcess s call = some t) : LeaseInv key t := by
  rcases lockStep_view hkey hspares hstep with ⟨hview, hnow⟩ |
    ⟨token, ttlMs, -, hfree, hnow, hlock, hfence, hleases⟩ |
    ⟨token, existing, -, hget, htoken, hnow, hlock, hfence, hleases⟩ |
    ⟨token, expiresAt, existing, -, hget, htoken, -, hnow, hlock, hfence, hleases⟩
  · exact h.view hview hnow
  · exact h.acquired hfree hnow hlock hfence hleases
  · exact h.released hget htoken hnow hlock hfence hleases
  · exact h.renewed hget htoken hnow hlock hfence hleases

/-- At most one token of a key is unexpired, and it is the one in the map. -/
def OneHolder (s : LockSystem LockMap) (key : String) : Prop :=
  (∀ l ∈ s.leasesOf key, ∀ l' ∈ s.leasesOf key, s.Live l → s.Live l' → l.token = l'.token) ∧
  ∀ token, (∃ entry, s.store key = some entry ∧ entry.token = some token ∧
      entry.unexpired s.now = true) ↔
    ∃ l ∈ s.leasesOf key, s.Live l ∧ l.token = token

/-- The fencing tokens handed out for a key, most recent first, are strictly decreasing. -/
def FencesIncrease (s : LockSystem LockMap) (key : String) : Prop :=
  ((s.leasesOf key).map (·.fencingToken)).Pairwise (· > ·)

/-- A token the map does not hold for the key releases nothing, and one without a live lease
renews nothing.  What a release after the expiry deletes, no acquisition would have
respected. -/
structure StrangersInert (s : LockSystem LockMap) (key : String) : Prop where
  release : ∀ token, (∀ entry, s.store key = some entry → entry.token ≠ some token) →
    s.store.release key token = (false, s.store)
  renew : ∀ token, (∀ l ∈ s.leasesOf key, s.Live l → l.token ≠ token) →
    ∀ later ttlMs, s.store.renew s.now later key token ttlMs = (false, s.store)
  late_release : ∀ token, (∀ l ∈ s.leasesOf key, s.Live l → l.token ≠ token) →
    ∀ now other ttlMs fresh, s.now ≤ now →
      ((s.store.release key token).2.acquire now other ttlMs fresh).1 =
        (s.store.acquire now other ttlMs fresh).1

/-- A call on another key leaves the key's lock, its fence entry and its leases alone. -/
def KeysApart (s : LockSystem LockMap) (key : String) : Prop :=
  ∀ call t, (∀ other, call.key = some other → startsWithFence other = false ∧ other ≠ key) →
    lockStep inProcess s call = some t → SameView key s t

theorem LeaseInv.oneHolder (h : LeaseInv key s) : OneHolder s key := by
  constructor
  · intro l hl l' hl' hlive hlive'
    obtain ⟨entry, hget, htoken, -⟩ := h.live l hl hlive
    exact (h.named_of_live hget htoken hl' hlive').2.symm
  · intro token
    constructor
    · rintro ⟨entry, hget, htoken, hunexp⟩
      obtain ⟨l, rest, hlast, hrel, hnamed, rfl⟩ := h.latest hget htoken
      exact ⟨l, hlast ▸ List.mem_cons_self, ⟨hrel, (unexpired_iff rfl).mp hunexp⟩, hnamed.2⟩
    · rintro ⟨l, hl, hlive, rfl⟩
      obtain ⟨entry, hget, htoken, hexp⟩ := h.live l hl hlive
      exact ⟨entry, hget, htoken, (unexpired_iff hexp).mpr hlive.2⟩

theorem not_unexpired_mono {entry : LockEntry} {now later : Nat} (hle : now ≤ later)
    (h : ¬ entry.unexpired now = true) : entry.unexpired later = false := by
  cases hexp : entry.expiresAt with
  | none => simp [LockEntry.unexpired, hexp]
  | some expiresAt =>
    rw [unexpired_iff hexp] at h
    simp only [LockEntry.unexpired, hexp, Option.any_some, decide_eq_false_iff_not]
    omega

/-- Deleting an entry that ran out changes no later acquisition. -/
theorem acquire_delete {locks : LockMap} {existing : LockEntry} {now : Nat}
    (hkey : startsWithFence key = false) (hget : locks key = some existing)
    (hexp : existing.unexpired now = false) (other : String) (ttlMs : Nat) (fresh : String) :
    (LockMap.acquire (update locks key none) now other ttlMs fresh).1 =
      (locks.acquire now other ttlMs fresh).1 := by
  have hheld : ((update locks key none) other).any (·.unexpired now) =
      (locks other).any (·.unexpired now) := by
    by_cases hother : other = key
    · subst hother
      simp [hget, hexp]
    · simp [hother]
  have hnext : LockMap.nextFence (update locks key none) other = locks.nextFence other :=
    nextFence_congr (by simp [getFenceKey_ne hkey other])
  simp only [LockMap.acquire, hheld, hnext]
  split <;> rfl

theorem LeaseInv.strangersInert (hkey : startsWithFence key = false) (h : LeaseInv key s) :
    StrangersInert s key := by
  have hdead : ∀ token, (∀ l ∈ s.leasesOf key, s.Live l → l.token ≠ token) → ∀ entry,
      s.store key = some entry → entry.token = some token → ¬ entry.unexpired s.now = true := by
    intro token hno entry hget htoken hunexp
    obtain ⟨l, hl, hlive, htok⟩ := (h.oneHolder.2 token).mp ⟨entry, hget, htoken, hunexp⟩
    exact hno l hl hlive htok
  constructor
  · intro token hno
    rcases s.store.release_cases key token with hrel | ⟨existing, hget, htoken, -⟩
    · exact hrel
    · exact absurd htoken (hno existing hget)
  · intro token hno later ttlMs
    rcases s.store.renew_cases s.now later key token ttlMs with
      hren | ⟨existing, hget, htoken, hunexp, -⟩
    · exact hren
    · exact absurd hunexp (hdead token hno existing hget htoken)
  · intro token hno now other ttlMs fresh hnow
    rcases s.store.release_cases key token with hrel | ⟨existing, hget, htoken, hrel⟩
    · rw [hrel]
    · rw [hrel]
      exact acquire_delete hkey hget
        (not_unexpired_mono hnow (hdead token hno existing hget htoken)) other ttlMs fresh

theorem keysApart (hkey : startsWithFence key = false) (s : LockSystem LockMap) :
    KeysApart s key := by
  intro call t hcall hstep
  have hspares : Spares key s call := by
    intro h
    have := (hcall _ h).1
    rw [startsWithFence_getFenceKey] at this
    cases this
  have hother : call.key ≠ some key := fun h => (hcall key h).2 rfl
  rcases lockStep_view hkey hspares hstep with ⟨hview, -⟩ | ⟨_, _, h, -⟩ | ⟨_, _, h, -⟩ |
    ⟨_, _, _, h, -⟩
  · exact hview
  · exact absurd h hother
  · exact absurd h hother
  · exact absurd h hother

end InProcess

/-- **The in-process lock is a fenced lease.**  In every run of calls by anybody, on any keys
but the fence entry of the one in question, and with a clock that never goes back: at most
one token of the key is unexpired, its fencing tokens increase, strangers change nothing,
and other keys do not interfere. -/
theorem fenced_lease_along_runs {key : String} (hkey : startsWithFence key = false) {now : Nat}
    {s : LockSystem LockMap}
    (hrun : Reach (lockStep inProcess) (Spares key) (.start inProcess now) s) :
    OneHolder s key ∧ FencesIncrease s key ∧ StrangersInert s key ∧ KeysApart s key := by
  have hinv : LeaseInv key s := hrun.invariant (.init key now) fun h => h.step hkey
  exact ⟨hinv.oneHolder, hinv.increasing, hinv.strangersInert hkey, keysApart hkey s⟩

/-- The first holder's lease runs out, a second one takes over, and the first tries to release
and to renew. -/
theorem fenced_lease_along_runs_takeover : ∃ s : LockSystem LockMap,
    (OneHolder s "sync:lock:SCH" ∧ FencesIncrease s "sync:lock:SCH" ∧
      StrangersInert s "sync:lock:SCH" ∧ KeysApart s "sync:lock:SCH") ∧
    (s.leasesOf "sync:lock:SCH").map (·.fencingToken) = [2, 1] ∧
    s.store.getCurrentFence "sync:lock:SCH" = some 2 := by
  have hrun : Reach (lockStep inProcess) (Spares "sync:lock:SCH") (.start inProcess 0) _ :=
    .tail (.tail (.tail (.tail (.tail .refl
      (show Spares _ _ (.acquire "sync:lock:SCH" 10 "t1") by decide) rfl)
      (show Spares _ _ (.tick 20) by decide) rfl)
      (show Spares _ _ (.acquire "sync:lock:SCH" 10 "t2") by decide) rfl)
      (show Spares _ _ (.release "sync:lock:SCH" "t1") by decide) rfl)
      (show Spares _ _ (.renew "sync:lock:SCH" "t1" 10 1) by decide) rfl
  exact ⟨_, fenced_lease_along_runs (by decide) hrun, by decide, by decide⟩

end StellarEduPay

import StellarEduPay.Broker
import StellarEduPay.Runs

/-! # Schools cached by several replicas (`services/schoolCacheInvalidator.js`)

Each replica keeps the schools that requests were resolved to, under their ids and slugs, for five
minutes (`middleware/schoolContext.js`).  Whoever writes a school drops it from the cache of its own
replica and publishes its id and slug, and the replicas that are subscribed drop it as well.

A replica answers with a school that was written since only while the invalidation is still on its way
or was lost, or where the lookup that cached it had read before the write and was under way when the
replica handled the invalidation (`cached_stale`); and never for longer than an entry lives
(`cached_recent`).
-/
namespace StellarEduPay
open Runs Function Broker

/-! ## State -/

/-- A school; `rest` is what else requests read of it. -/
structure SchoolDoc (β : Type) where
  schoolId : String
  slug : String
  isActive : Bool
  rest : β

/-- A write that is published, with the document it leaves; `step` is its place in the run. -/
structure SchoolWrite (β : Type) where
  doc : SchoolDoc β
  step : Nat
  time : Nat

/-- `{ schoolId, slug }`; nothing reads which write it is about. -/
structure Invalidation where
  schoolId : String
  slug : String
  write : Nat

def SchoolWrite.message {β : Type} (w : SchoolWrite β) : Invalidation :=
  ⟨w.doc.schoolId, w.doc.slug, w.step⟩

/-- What a request names its school by; slugs are in lower case and trimmed. -/
inductive SchoolRef
  | id (schoolId : String)
  | slug (slug : String)

def SchoolRef.key : SchoolRef → String
  | .id value => value
  | .slug value => value

def SchoolRef.isOf {β : Type} (name : SchoolRef) (doc : SchoolDoc β) : Bool :=
  match name with
  | .id value => doc.schoolId == value
  | .slug value => doc.slug == value

/-- A request that `findOne` has answered, and when that read. -/
structure SchoolLookup (β : Type) where
  doc : SchoolDoc β
  readAt : Nat
  readTime : Nat

/-- An entry, and when its lookup had read and had put it there. -/
structure SchoolEntry (β : Type) extends SchoolLookup β where
  setAt : Nat
  expiresAt : Nat

/-- A replica since it `startedAt`: the entries by what follows `school:` in their keys, the requests that
were not answered from the cache, before and after `findOne` read, the writes whose handlers call
`invalidate` next, the publishes under way, the link of the subscriber, and when it handled which
invalidation. -/
structure SchoolReplica (β : Type) where
  startedAt : Nat
  cache : String → Option (SchoolEntry β)
  queries : List SchoolRef
  lookups : List (SchoolLookup β)
  handlers : List (SchoolWrite β)
  publishing : List Invalidation
  link : Link Unit Invalidation
  handled : List (Nat × Invalidation)

/-- The steps so far and the time in milliseconds, the writes, latest first, the replicas, and the writes
whose invalidation did not get to a replica. -/
structure SchoolCaches (ρ β : Type) where
  clock : Nat
  now : Nat
  writes : List (SchoolWrite β)
  replicas : ρ → SchoolReplica β
  lost : ρ → List Nat

/-- `SCHOOL`, in milliseconds. -/
def schoolTtlMs : Nat := 300 * 1000

/-! ## Steps -/

namespace SchoolReplica
variable {β : Type} (x : SchoolReplica β)

/-- A process that has asked for its channel. -/
def start (startedAt : Nat) : SchoolReplica β where
  startedAt := startedAt
  cache := fun _ => none
  queries := []
  lookups := []
  handlers := []
  publishing := []
  link := Link.new.send (.subscribe ())
  handled := []

def dropLocal (m : Invalidation) (clock : Nat) : SchoolReplica β :=
  { x with
    cache := fun key => if key = m.schoolId ∨ key = m.slug then none else x.cache key
    handled := (clock, m) :: x.handled }

/-- The two `cache.set` of an active school. -/
def remember (l : SchoolLookup β) (clock now : Nat) : SchoolReplica β :=
  { x with cache := fun key =>
      if key = l.doc.schoolId ∨ key = l.doc.slug then some ⟨l, clock, now + schoolTtlMs⟩
      else x.cache key }

end SchoolReplica

/-- `write` creates a school or updates one; a request misses, `findOne` reads, and it `finish`es. -/
inductive CacheAction (ρ β : Type)
  | tick (ms : Nat)
  | write (r : ρ) (doc : SchoolDoc β)
  | invalidate (r : ρ) (i : Nat)
  | publish (r : ρ) (succeeds : Bool)
  | receive (r : ρ)
  | carryOut (r : ρ)
  | refuse (r : ρ)
  | disconnect (r : ρ)
  | request (r : ρ) (name : SchoolRef)
  | read (r : ρ) (i : Nat)
  | finish (r : ρ) (i : Nat)
  | restart (r : ρ)

namespace SchoolCaches
variable {ρ β : Type} (s : SchoolCaches ρ β)

def start : SchoolCaches ρ β where
  clock := 0
  now := 0
  writes := []
  replicas := fun _ => .start 0
  lost := fun _ => []

/-- Ids and slugs are unique, and stay. -/
def Writable (doc : SchoolDoc β) : Prop :=
  ∀ w ∈ s.writes, w.doc.schoolId = doc.schoolId ↔ w.doc.slug = doc.slug

instance (doc : SchoolDoc β) : Decidable (s.Writable doc) :=
  inferInstanceAs (Decidable (∀ w ∈ s.writes, w.doc.schoolId = doc.schoolId ↔ w.doc.slug = doc.slug))

/-- What a replica answers with out of its cache. -/
def cached (r : ρ) (key : String) : Option (SchoolEntry β) :=
  ((s.replicas r).cache key).filter (s.now ≤ ·.expiresAt)

section
variable [DecidableEq ρ]

def setReplica (r : ρ) (x : SchoolReplica β) : SchoolCaches ρ β :=
  { s with replicas := update s.replicas r x }

/-- Redis hands a message to the replicas whose channel is open. -/
def deliver (m : Invalidation) : SchoolCaches ρ β :=
  { s with
    replicas := fun q => { s.replicas q with link := (s.replicas q).link.deliver () m }
    lost := fun q => if () ∈ (s.replicas q).link.channels then s.lost q else m.write :: s.lost q }

/-- Nothing comes of these invalidations anywhere. -/
def lose (writes : List Nat) : SchoolCaches ρ β := { s with lost := fun q => writes ++ s.lost q }

/-- What one step does, but for the count of steps. -/
def act : CacheAction ρ β → Option (SchoolCaches ρ β)
  | .tick ms => some { s with now := s.now + ms }
  | .write r doc =>
    let w : SchoolWrite β := ⟨doc, s.clock, s.now⟩
    let x := s.replicas r
    if s.Writable doc then
      some { s.setReplica r { x with handlers := w :: x.handlers } with writes := w :: s.writes }
    else none
  | .invalidate r i =>
    let x := s.replicas r
    x.handlers[i]?.map fun w => s.setReplica r { x.dropLocal w.message s.clock with
      handlers := x.handlers.eraseIdx i
      publishing := x.publishing ++ [w.message] }
  | .publish r succeeds =>
    let x := s.replicas r
    match x.publishing with
    | [] => none
    | m :: rest =>
      let s := s.setReplica r { x with publishing := rest }
      some (if succeeds then s.deliver m else s.lose [m.write])
  | .receive r =>
    let x := s.replicas r
    x.link.receive.map fun (m, link) =>
      s.setReplica r { x.dropLocal m.2 s.clock with link := link }
  | .carryOut r =>
    let x := s.replicas r
    x.link.carryOut.map fun link => s.setReplica r { x with link := link }
  | .refuse r =>
    let x := s.replicas r
    x.link.refuse.map fun link => s.setReplica r { x with link := link }
  | .disconnect r =>
    let x := s.replicas r
    -- the client subscribes anew as soon as it is connected again
    some (s.setReplica r { x with
      link := { x.link.send (.subscribe ()) with channels := [] } })
  | .request r name =>
    let x := s.replicas r
    some (if (s.cached r name.key).isSome then s
      else s.setReplica r { x with queries := x.queries ++ [name] })
  | .read r i =>
    let x := s.replicas r
    x.queries[i]?.map fun name =>
      let x := { x with queries := x.queries.eraseIdx i }
      s.setReplica r (match s.writes.find? (name.isOf ·.doc) with
        | none => x
        | some w => { x with lookups := ⟨w.doc, s.clock, s.now⟩ :: x.lookups })
  | .finish r i =>
    let x := s.replicas r
    x.lookups[i]?.map fun l =>
      let x := { x with lookups := x.lookups.eraseIdx i }
      -- nothing tells whether the school was written since it was read
      s.setReplica r (if l.doc.isActive then x.remember l s.clock s.now else x)
  | .restart r =>
    let x := s.replicas r
    -- what the process had not published yet, nobody will
    some ((s.setReplica r { SchoolReplica.start s.clock with handled := x.handled }).lose
      (x.handlers.map (·.step) ++ x.publishing.map (·.write)))

def step (s : SchoolCaches ρ β) (a : CacheAction ρ β) : Option (SchoolCaches ρ β) :=
  (s.act a).map fun t => { t with clock := s.clock + 1 }

end

/-! ## What is kept -/

variable {s} {t : SchoolCaches ρ β} {x y : SchoolReplica β} {doc : SchoolDoc β} {w : SchoolWrite β}

/-- The document was the school's at this step. -/
def Current (s : SchoolCaches ρ β) (doc : SchoolDoc β) (n : Nat) : Prop :=
  ∃ w ∈ s.writes, w.doc = doc ∧ w.step < n ∧
    ∀ w' ∈ s.writes, w'.doc.schoolId = doc.schoolId → w.step < w'.step → n ≤ w'.step

/-- The invalidation of a write is still to come to a replica. -/
def Waiting (s : SchoolCaches ρ β) (r : ρ) (w : SchoolWrite β) : Prop :=
  (∃ q, w ∈ (s.replicas q).handlers) ∨ (∃ q, w.message ∈ (s.replicas q).publishing) ∨
    ((), w.message) ∈ (s.replicas r).link.inbox

/-- A lookup holds what was current as it read, after its replica started. -/
structure LookupKept (s : SchoolCaches ρ β) (startedAt : Nat) (l : SchoolLookup β) : Prop where
  current : s.Current l.doc l.readAt
  started : startedAt ≤ l.readAt
  read : l.readAt < s.clock
  time : l.readTime ≤ s.now
  after {w : SchoolWrite β} (h : w ∈ s.writes) (hread : l.readAt ≤ w.step) : l.readTime ≤ w.time

/-- What was handled for the school of an entry was handled before the entry came. -/
structure EntryKept (s : SchoolCaches ρ β) (startedAt : Nat) (handled : List (Nat × Invalidation))
    (key : String) (e : SchoolEntry β) : Prop extends LookupKept s startedAt e.toSchoolLookup where
  key : key = e.doc.schoolId ∨ key = e.doc.slug
  active : e.doc.isActive = true
  set : e.setAt < s.clock
  handled {p : Nat} {m : Invalidation} (h : (p, m) ∈ handled) (hschool : m.schoolId = e.doc.schoolId) :
    p < e.setAt

/-- A message is about a write. -/
def About (s : SchoolCaches ρ β) (m : Invalidation) : Prop := ∃ w ∈ s.writes, w.message = m

structure ReplicaKept (s : SchoolCaches ρ β) (x : SchoolReplica β) : Prop where
  started : x.startedAt ≤ s.clock
  entry {key : String} {e : SchoolEntry β} (h : x.cache key = some e) :
    EntryKept s x.startedAt x.handled key e
  lookup {l : SchoolLookup β} (h : l ∈ x.lookups) : LookupKept s x.startedAt l
  handler {w : SchoolWrite β} (h : w ∈ x.handlers) : w ∈ s.writes
  message {m : Invalidation} (h : m ∈ x.publishing) : s.About m
  inbox {m : Unit × Invalidation} (h : m ∈ x.link.inbox) : s.About m.2
  handled {p : Nat} {m : Invalidation} (h : (p, m) ∈ x.handled) : m.write < p ∧ p < s.clock

/-- The invalidation is still to come, or was lost, or handled, or from before the replica started. -/
def Reached (s : SchoolCaches ρ β) (r : ρ) (w : SchoolWrite β) : Prop :=
  s.Waiting r w ∨ w.step ∈ s.lost r ∨ (∃ p, (p, w.message) ∈ (s.replicas r).handled) ∨
    w.step < (s.replicas r).startedAt

structure Kept (s : SchoolCaches ρ β) : Prop where
  order : s.writes.Pairwise (·.step > ·.step)
  past {w : SchoolWrite β} (h : w ∈ s.writes) : w.step < s.clock
  slugs {w w' : SchoolWrite β} (h : w ∈ s.writes) (h' : w' ∈ s.writes) :
    w.doc.schoolId = w'.doc.schoolId ↔ w.doc.slug = w'.doc.slug
  replica (r : ρ) : ReplicaKept s (s.replicas r)
  reached (r : ρ) {w : SchoolWrite β} (h : w ∈ s.writes) : s.Reached r w

/-- Later there are more writes, and they are later. -/
structure Later (s t : SchoolCaches ρ β) : Prop where
  clock : s.clock ≤ t.clock
  now : s.now ≤ t.now
  writes {w : SchoolWrite β} (h : w ∈ s.writes) : w ∈ t.writes
  new {w : SchoolWrite β} (h : w ∈ t.writes) : w ∈ s.writes ∨ s.clock ≤ w.step ∧ s.now ≤ w.time

variable {startedAt : Nat} {handled : List (Nat × Invalidation)}

theorem Current.later {n : Nat} (h : s.Current doc n) (hn : n ≤ s.clock) (hlater : Later s t) :
    t.Current doc n := by
  obtain ⟨w, hw, hdoc, hstep, hlast⟩ := h
  refine ⟨w, hlater.writes hw, hdoc, hstep, fun w' hw' hschool hafter => ?_⟩
  rcases hlater.new hw' with hold | ⟨hnew, -⟩
  · exact hlast w' hold hschool hafter
  · exact Nat.le_trans hn hnew

theorem LookupKept.later {l : SchoolLookup β} (h : LookupKept s startedAt l) (hlater : Later s t) :
    LookupKept t startedAt l where
  current := h.current.later (Nat.le_of_lt h.read) hlater
  started := h.started
  read := Nat.lt_of_lt_of_le h.read hlater.clock
  time := Nat.le_trans h.time hlater.now
  after hw hread := by
    rcases hlater.new hw with hold | ⟨-, hnew⟩
    · exact h.after hold hread
    · exact Nat.le_trans h.time hnew

theorem EntryKept.later {key : String} {e : SchoolEntry β} (h : EntryKept s startedAt handled key e)
    (hlater : Later s t) : EntryKept t startedAt handled key e where
  toLookupKept := h.toLookupKept.later hlater
  key := h.key
  active := h.active
  set := Nat.lt_of_lt_of_le h.set hlater.clock
  handled := h.handled

theorem About.later {m : Invalidation} (h : s.About m) (hlater : Later s t) : t.About m :=
  have ⟨w, hw, hm⟩ := h
  ⟨w, hlater.writes hw, hm⟩

theorem ReplicaKept.later (h : ReplicaKept s x) (hlater : Later s t) : ReplicaKept t x where
  started := Nat.le_trans h.started hlater.clock
  entry he := (h.entry he).later hlater
  lookup hl := (h.lookup hl).later hlater
  handler hw := hlater.writes (h.handler hw)
  message hm := (h.message hm).later hlater
  inbox hm := (h.inbox hm).later hlater
  handled hm := ⟨(h.handled hm).1, Nat.lt_of_lt_of_le (h.handled hm).2 hlater.clock⟩

theorem later_of_writes (hwrites : t.writes = s.writes) (hclock : t.clock = s.clock + 1)
    (hnow : s.now ≤ t.now) : Later s t where
  clock := hclock ▸ Nat.le_succ _
  now := hnow
  writes hw := hwrites ▸ hw
  new hw := .inl (hwrites ▸ hw)

/-- What a step leaves of a replica that it changes: nothing that was to come is forgotten. -/
structure Passes (x y : SchoolReplica β) (lost : List Nat) : Prop where
  handlers {w : SchoolWrite β} (h : w ∈ x.handlers) :
    w ∈ y.handlers ∨ w.message ∈ y.publishing ∨ w.step ∈ lost
  publishing {m : Invalidation} (h : m ∈ x.publishing) : m ∈ y.publishing ∨ m.write ∈ lost
  inbox {m : Unit × Invalidation} (h : m ∈ x.link.inbox) :
    m ∈ y.link.inbox ∨ (∃ p, (p, m.2) ∈ y.handled) ∨ m.2.write < y.startedAt
  handled : x.handled ⊆ y.handled
  started : x.startedAt ≤ y.startedAt

/-- One replica changes, invalidations are lost, and the step is counted. -/
structure Changes (s t : SchoolCaches ρ β) (r : ρ) (lost : List Nat) : Prop where
  writes : t.writes = s.writes
  clock : t.clock = s.clock + 1
  now : t.now = s.now
  other {q : ρ} (h : q ≠ r) : t.replicas q = s.replicas q
  lost (q : ρ) : t.lost q = lost ++ s.lost q

variable {r q : ρ} {lost : List Nat}

theorem Changes.later (h : Changes s t r lost) : Later s t :=
  later_of_writes h.writes h.clock (Nat.le_of_eq h.now.symm)

theorem Reached.changes (h : s.Reached q w) (hchanges : Changes s t r lost)
    (hpass : Passes (s.replicas r) (t.replicas r) lost) : t.Reached q w := by
  have hlost {n : Nat} (hn : n ∈ lost ∨ n ∈ s.lost q) : n ∈ t.lost q :=
    hchanges.lost q ▸ List.mem_append.mpr hn
  rcases h with (⟨p, hw⟩ | ⟨p, hw⟩ | hw) | hw | ⟨p, hw⟩ | hw
  · by_cases hp : p = r
    · subst hp
      rcases hpass.handlers hw with hw | hw | hw
      · exact .inl (.inl ⟨p, hw⟩)
      · exact .inl (.inr (.inl ⟨p, hw⟩))
      · exact .inr (.inl (hlost (.inl hw)))
    · exact .inl (.inl ⟨p, hchanges.other hp ▸ hw⟩)
  · by_cases hp : p = r
    · subst hp
      rcases hpass.publishing hw with hw | hw
      · exact .inl (.inr (.inl ⟨p, hw⟩))
      · exact .inr (.inl (hlost (.inl hw)))
    · exact .inl (.inr (.inl ⟨p, hchanges.other hp ▸ hw⟩))
  · by_cases hq : q = r
    · subst hq
      rcases hpass.inbox hw with hw | hw | hw
      · exact .inl (.inr (.inr hw))
      · exact .inr (.inr (.inl hw))
      · exact .inr (.inr (.inr hw))
    · exact .inl (.inr (.inr (hchanges.other hq ▸ hw)))
  · exact .inr (.inl (hlost (.inr hw)))
  · by_cases hq : q = r
    · subst hq
      exact .inr (.inr (.inl ⟨p, hpass.handled hw⟩))
    · exact .inr (.inr (.inl ⟨p, hchanges.other hq ▸ hw⟩))
  · by_cases hq : q = r
    · subst hq
      exact .inr (.inr (.inr (Nat.lt_of_lt_of_le hw hpass.started)))
    · exact .inr (.inr (.inr (hchanges.other hq ▸ hw)))

/-- A step that changes one replica. -/
theorem Kept.changes (h : Kept s) (hchanges : Changes s t r lost)
    (hpass : Passes (s.replicas r) (t.replicas r) lost) (hreplica : ReplicaKept t (t.replicas r)) :
    Kept t where
  order := hchanges.writes ▸ h.order
  past hw := hchanges.clock ▸ Nat.lt_succ_of_lt (h.past (hchanges.writes ▸ hw))
  slugs hw hw' := h.slugs (hchanges.writes ▸ hw) (hchanges.writes ▸ hw')
  replica q := by
    by_cases hq : q = r
    · exact hq ▸ hreplica
    · exact hchanges.other hq ▸ (h.replica q).later hchanges.later
  reached q _ hw := (h.reached q (hchanges.writes ▸ hw)).changes hchanges hpass

/-- Dropping the entries of a school leaves none of them. -/
theorem ReplicaKept.dropLocal (h : ReplicaKept s x) (hkept : Kept s) {m : Invalidation}
    (hm : s.About m) (hlater : Later s t) (hclock : t.clock = s.clock + 1) :
    ReplicaKept t (x.dropLocal m s.clock) := by
  obtain ⟨w, hw, rfl⟩ := hm
  refine { h.later hlater with entry := ?_, handled := ?_ }
  · intro key e he
    obtain ⟨hkey, he⟩ : ¬(key = w.message.schoolId ∨ key = w.message.slug) ∧ x.cache key = some e := by
      simpa [SchoolReplica.dropLocal] using he
    have hentry := h.entry he
    refine { hentry.later hlater with handled := fun hmem hschool => ?_ }
    rcases List.mem_cons.mp hmem with hnew | hmem
    · obtain ⟨rfl, rfl⟩ := Prod.mk.inj hnew
      obtain ⟨w', hw', hdoc, -⟩ := hentry.current
      have hslug : w.doc.slug = e.doc.slug := hdoc ▸ (hkept.slugs hw hw').mp (hdoc ▸ hschool)
      exact absurd (hentry.key.imp (·.trans hschool.symm) (·.trans hslug.symm)) hkey
    · exact hentry.handled hmem hschool
  · intro p m hmem
    rcases List.mem_cons.mp hmem with hnew | hmem
    · obtain ⟨rfl, rfl⟩ := Prod.mk.inj hnew
      exact ⟨hkept.past hw, hclock ▸ Nat.lt_succ_self _⟩
    · exact ((h.later hlater).handled hmem)

theorem ReplicaKept.remember (h : ReplicaKept s x) {l : SchoolLookup β}
    (hl : LookupKept s x.startedAt l) (hactive : l.doc.isActive = true)
    (hlater : Later s t) (hclock : t.clock = s.clock + 1) :
    ReplicaKept t (x.remember l s.clock s.now) := by
  refine { h.later hlater with entry := fun he => ?_ }
  dsimp only [SchoolReplica.remember] at he
  split at he
  · rename_i hkey
    obtain rfl := Option.some.inj he
    exact { hl.later hlater with
      key := hkey
      active := hactive
      set := hclock ▸ Nat.lt_succ_self _
      handled := fun hmem _ => (h.handled hmem).2 }
  · exact (h.entry he).later hlater

/-- What a name finds is the current document of its school. -/
theorem Kept.current_find (h : Kept s) {name : SchoolRef}
    (hfind : s.writes.find? (name.isOf ·.doc) = some w) : s.Current w.doc s.clock := by
  have hw := List.mem_of_find?_eq_some hfind
  refine ⟨w, hw, rfl, h.past hw, fun w' hw' hschool hafter => ?_⟩
  obtain ⟨before, rest, hwrites, hnot⟩ := (List.find?_eq_some_iff_append.mp hfind).2
  have hname : name.isOf w.doc = true := (List.find?_some hfind :)
  have hslug : w'.doc.slug = w.doc.slug := (h.slugs hw' hw).mp hschool
  have hsame : name.isOf w'.doc = name.isOf w.doc := by
    cases name with
    | id => exact congrArg (· == _) hschool
    | slug => exact congrArg (· == _) hslug
  have horder := h.order
  rw [hwrites] at hw' horder
  obtain ⟨-, hafterw, -⟩ := List.pairwise_append.mp horder
  rcases List.mem_append.mp hw' with hbefore | hbehind
  · simpa [hsame, hname] using hnot w' hbefore
  · rcases List.mem_cons.mp hbehind with rfl | hbehind
    · exact absurd hafter (Nat.lt_irrefl _)
    · exact absurd hafter (Nat.lt_asymm ((List.pairwise_cons.mp hafterw).1 w' hbehind))

theorem mem_eraseIdx_or_eq {α : Type} {l : List α} {i : Nat} {a b : α} (h : l[i]? = some a)
    (hb : b ∈ l) : b ∈ l.eraseIdx i ∨ b = a := by
  obtain ⟨j, hj⟩ := List.mem_iff_getElem?.mp hb
  by_cases hij : j = i
  · exact .inr (Option.some.inj (hj.symm.trans (hij ▸ h)))
  · exact .inl (List.mem_eraseIdx_iff_getElem?.mpr ⟨j, hij, hj⟩)

/-- The handler of a write hands its invalidation on. -/
theorem Passes.invalidate {i clock : Nat} (hw : x.handlers[i]? = some w) :
    Passes x { x.dropLocal w.message clock with
      handlers := x.handlers.eraseIdx i
      publishing := x.publishing ++ [w.message] } [] where
  handlers hw' := by
    rcases mem_eraseIdx_or_eq hw hw' with hw' | rfl
    · exact .inl hw'
    · exact .inr (.inl (List.mem_append_right _ List.mem_cons_self))
  publishing hm := .inl (List.mem_append_left _ hm)
  inbox := .inl
  handled := List.subset_cons_self ..
  started := Nat.le_refl _

theorem Passes.receive {m : Unit × Invalidation} {rest : List (Unit × Invalidation)} {clock : Nat}
    (hinbox : x.link.inbox = m :: rest) :
    Passes x { x.dropLocal m.2 clock with link := { x.link with inbox := rest } } [] where
  handlers := .inl
  publishing := .inl
  inbox hm := by
    rcases List.mem_cons.mp (hinbox ▸ hm) with rfl | hm
    · exact .inr (.inl ⟨clock, List.mem_cons_self⟩)
    · exact .inl hm
  handled := List.subset_cons_self ..
  started := Nat.le_refl _

/-- What a process still had to do when it ends is lost. -/
theorem ReplicaKept.passes_restart (h : ReplicaKept s x) (hkept : Kept s) :
    Passes x { SchoolReplica.start s.clock with handled := x.handled }
      (x.handlers.map (·.step) ++ x.publishing.map (·.write)) where
  handlers hw := .inr (.inr (List.mem_append_left _ (List.mem_map_of_mem hw)))
  publishing hm := .inr (List.mem_append_right _ (List.mem_map_of_mem hm))
  inbox hm := by
    obtain ⟨w, hw, heq⟩ := h.inbox hm
    exact .inr (.inr (heq ▸ hkept.past hw))
  handled := List.Subset.refl _
  started := h.started

/-- A replica that keeps what was to come. -/
theorem Passes.of_eq (hhandlers : y.handlers = x.handlers) (hpublishing : y.publishing = x.publishing)
    (hinbox : y.link.inbox = x.link.inbox) (hhandled : y.handled = x.handled)
    (hstarted : y.startedAt = x.startedAt) : Passes x y [] where
  handlers hw := .inl (hhandlers ▸ hw)
  publishing hm := .inl (hpublishing ▸ hm)
  inbox hm := .inl (hinbox ▸ hm)
  handled := hhandled ▸ List.Subset.refl _
  started := hstarted ▸ Nat.le_refl _

theorem Kept.lookupKept (h : Kept s) (r : ρ) {name : SchoolRef}
    (hfind : s.writes.find? (name.isOf ·.doc) = some w) (hwrites : t.writes = s.writes)
    (hclock : t.clock = s.clock + 1) (hnow : t.now = s.now) :
    LookupKept t (s.replicas r).startedAt ⟨w.doc, s.clock, s.now⟩ where
  current := (h.current_find hfind).later (Nat.le_refl _)
    (later_of_writes hwrites hclock (Nat.le_of_eq hnow.symm))
  started := (h.replica r).started
  read := hclock ▸ Nat.lt_succ_self _
  time := Nat.le_of_eq hnow.symm
  after hw hread := absurd hread (Nat.not_le_of_lt (h.past (hwrites ▸ hw)))

/-- A process that starts holds nothing yet. -/
theorem ReplicaKept.start {startedAt : Nat} {handled : List (Nat × Invalidation)}
    (hstarted : startedAt ≤ s.clock)
    (hhandled : ∀ {p m}, (p, m) ∈ handled → m.write < p ∧ p < s.clock) :
    ReplicaKept s { SchoolReplica.start startedAt with handled := handled } where
  started := hstarted
  entry := (nomatch ·)
  lookup := (nomatch ·)
  handler := (nomatch ·)
  message := (nomatch ·)
  inbox := (nomatch ·)
  handled := hhandled

theorem Kept.start : Kept (start : SchoolCaches ρ β) where
  order := .nil
  past := (nomatch ·)
  slugs := (nomatch ·)
  replica _ := .start (Nat.le_refl _) (nomatch ·)
  reached _ _ := (nomatch ·)

variable {key : String} {e : SchoolEntry β}

theorem cached_eq_some (h : s.cached r key = some e) :
    (s.replicas r).cache key = some e ∧ s.now ≤ e.expiresAt := by
  obtain ⟨he, hnow⟩ := Option.filter_eq_some_iff.mp h
  exact ⟨he, of_decide_eq_true hnow⟩

section
variable [DecidableEq ρ] {action : CacheAction ρ β}

theorem Kept.set (h : Kept s) (hreplicas : t.replicas = update s.replicas r y)
    (hlater : t.writes = s.writes ∧ t.clock = s.clock + 1 ∧ t.now = s.now)
    (hlost : ∀ q, t.lost q = lost ++ s.lost q) (hpass : Passes (s.replicas r) y lost)
    (hy : Later s t → ReplicaKept t (s.replicas r) → ReplicaKept t y) : Kept t := by
  have hself : t.replicas r = y := hreplicas ▸ update_self ..
  have hchanges : Changes s t r lost :=
    { writes := hlater.1
      clock := hlater.2.1
      now := hlater.2.2
      other := fun hq => hreplicas ▸ update_of_ne hq ..
      lost := hlost }
  subst hself
  exact h.changes hchanges hpass (hy hchanges.later ((h.replica r).later hchanges.later))

/-- Nothing but the commands and the channels of a subscriber change. -/
theorem Kept.setLink (h : Kept s) {link : Link Unit Invalidation}
    (hinbox : link.inbox = (s.replicas r).link.inbox) :
    Kept { s.setReplica r { s.replicas r with link := link } with clock := s.clock + 1 } :=
  h.set rfl ⟨rfl, rfl, rfl⟩ (fun _ => rfl) (.of_eq rfl rfl hinbox rfl rfl)
    fun _ hold => { hold with inbox := fun hm => hold.inbox (hinbox ▸ hm) }

/-- A school is created or updated. -/
theorem Kept.write (h : Kept s) (r : ρ) (hwritable : s.Writable doc)
    (ht : t = { s with
      clock := s.clock + 1
      writes := ⟨doc, s.clock, s.now⟩ :: s.writes
      replicas := update s.replicas r { s.replicas r with
        handlers := ⟨doc, s.clock, s.now⟩ :: (s.replicas r).handlers } }) : Kept t := by
  have hlater : Later s t := by
    subst ht
    refine ⟨Nat.le_succ _, Nat.le_refl _, List.mem_cons_of_mem _, fun hw => ?_⟩
    rcases List.mem_cons.mp hw with rfl | hw
    · exact .inr ⟨Nat.le_refl _, Nat.le_refl _⟩
    · exact .inl hw
  have hself : t.replicas r = { s.replicas r with
      handlers := ⟨doc, s.clock, s.now⟩ :: (s.replicas r).handlers } := ht ▸ update_self ..
  have hother {q : ρ} (hq : q ≠ r) : t.replicas q = s.replicas q := ht ▸ update_of_ne hq ..
  have hwrites : t.writes = ⟨doc, s.clock, s.now⟩ :: s.writes := ht ▸ rfl
  have hreached {q : ρ} {w : SchoolWrite β} (hw : s.Reached q w) : t.Reached q w := by
    have hhandlers {p : ρ} (hw : w ∈ (s.replicas p).handlers) : w ∈ (t.replicas p).handlers := by
      by_cases hp : p = r
      · subst hp
        exact hself ▸ List.mem_cons_of_mem _ hw
      · exact hother hp ▸ hw
    -- nothing else of a replica changes
    have hrest (p : ρ) : (t.replicas p).publishing = (s.replicas p).publishing ∧
        (t.replicas p).link = (s.replicas p).link ∧ (t.replicas p).handled = (s.replicas p).handled ∧
        (t.replicas p).startedAt = (s.replicas p).startedAt := by
      by_cases hp : p = r
      · subst hp
        exact hself ▸ ⟨rfl, rfl, rfl, rfl⟩
      · exact hother hp ▸ ⟨rfl, rfl, rfl, rfl⟩
    obtain ⟨-, hlink, hhandled, hstarted⟩ := hrest q
    have hlost : t.lost q = s.lost q := ht ▸ rfl
    unfold Reached Waiting
    rw [hlink, hhandled, hstarted, hlost]
    exact hw.imp_left fun hwait => hwait.imp (fun ⟨p, hw⟩ => ⟨p, hhandlers hw⟩)
      (.imp_left fun ⟨p, hm⟩ => ⟨p, (hrest p).1 ▸ hm⟩)
  refine ⟨?_, fun hw => ?_, fun hw hw' => ?_, fun q => ?_, fun q w hw => ?_⟩
  · exact hwrites ▸ List.pairwise_cons.mpr ⟨fun w hw => h.past hw, h.order⟩
  · have hclock : t.clock = s.clock + 1 := ht ▸ rfl
    rcases List.mem_cons.mp (hwrites ▸ hw) with rfl | hw
    · exact hclock ▸ Nat.lt_succ_self _
    · exact hclock ▸ Nat.lt_succ_of_lt (h.past hw)
  · rcases List.mem_cons.mp (hwrites ▸ hw) with rfl | hw <;>
      rcases List.mem_cons.mp (hwrites ▸ hw') with rfl | hw'
    · exact iff_of_true rfl rfl
    · simpa only [eq_comm] using hwritable _ hw'
    · exact hwritable _ hw
    · exact h.slugs hw hw'
  · have hold := (h.replica q).later hlater
    by_cases hq : q = r
    · subst hq
      rw [hself]
      refine { hold with handler := fun hw => ?_ }
      exact hwrites ▸ List.mem_cons.mpr ((List.mem_cons.mp hw).imp_right (h.replica q).handler)
    · exact hother hq ▸ hold
  · rcases List.mem_cons.mp (hwrites ▸ hw) with rfl | hw
    · exact .inl (.inl ⟨r, hself ▸ List.mem_cons_self⟩)
    · exact hreached (h.reached q hw)

/-- Redis hands a message out. -/
theorem Kept.deliver (h : Kept s) {m : Invalidation} {rest : List Invalidation}
    (hpublishing : (s.replicas r).publishing = m :: rest)
    (ht : t = { (s.setReplica r { s.replicas r with publishing := rest }).deliver m with
      clock := s.clock + 1 }) : Kept t := by
  have hlater : Later s t := ht ▸ later_of_writes rfl rfl (Nat.le_refl _)
  have hm : s.About m := (h.replica r).message (hpublishing ▸ List.mem_cons_self)
  have hself : t.replicas r =
      { s.replicas r with publishing := rest, link := (s.replicas r).link.deliver () m } := by
    simp [ht, SchoolCaches.deliver, setReplica]
  have hother {q : ρ} (hq : q ≠ r) :
      t.replicas q = { s.replicas q with link := (s.replicas q).link.deliver () m } := by
    simp [ht, SchoolCaches.deliver, setReplica, hq]
  have hlost (q : ρ) : t.lost q =
      if () ∈ (s.replicas q).link.channels then s.lost q else m.write :: s.lost q := by
    by_cases hq : q = r
    · subst hq
      simp [ht, SchoolCaches.deliver, setReplica]
    · simp [ht, SchoolCaches.deliver, setReplica, hq]
  have hrest (q : ρ) : (t.replicas q).handlers = (s.replicas q).handlers ∧
      (t.replicas q).link = (s.replicas q).link.deliver () m ∧
      (t.replicas q).handled = (s.replicas q).handled ∧
      (t.replicas q).startedAt = (s.replicas q).startedAt := by
    by_cases hq : q = r
    · subst hq
      exact hself ▸ ⟨rfl, rfl, rfl, rfl⟩
    · exact hother hq ▸ ⟨rfl, rfl, rfl, rfl⟩
  refine ⟨ht ▸ h.order, fun hw => ?_, fun hw hw' => ?_, fun q => ?_, fun q w hw => ?_⟩
  · have hclock : t.clock = s.clock + 1 := ht ▸ rfl
    exact hclock ▸ Nat.lt_succ_of_lt (h.past (show _ ∈ s.writes by rwa [ht] at hw))
  · rw [ht] at hw hw'
    exact h.slugs hw hw'
  · have hold := (h.replica q).later hlater
    have hinbox {m' : Unit × Invalidation} (hm' : m' ∈ ((s.replicas q).link.deliver () m).inbox) :
        t.About m'.2 := by
      rcases Link.mem_inbox_deliver.mp hm' with hm' | ⟨-, rfl⟩
      · exact hold.inbox hm'
      · exact hm.later hlater
    by_cases hq : q = r
    · subst hq
      rw [hself]
      refine { hold with message := fun hm' => hold.message ?_, inbox := hinbox }
      exact hpublishing ▸ List.mem_cons_of_mem _ hm'
    · rw [hother hq]
      exact { hold with inbox := hinbox }
  · obtain ⟨-, hlink, hhandled, hstarted⟩ := hrest q
    have hkept : w.step ∈ s.lost q → w.step ∈ t.lost q := fun hw => by
      rw [hlost]
      split
      · exact hw
      · exact List.mem_cons_of_mem _ hw
    rcases h.reached q (show w ∈ s.writes by rwa [ht] at hw) with (⟨p, hw⟩ | ⟨p, hw⟩ | hw) | hw | hw
    · exact .inl (.inl ⟨p, (hrest p).1 ▸ hw⟩)
    -- the message that goes out waits wherever the channel is open, and is lost elsewhere
    · by_cases hhead : w.message = m
      · by_cases hopen : () ∈ (s.replicas q).link.channels
        · exact .inl (.inr (.inr (hlink ▸ Link.mem_inbox_deliver.mpr (.inr ⟨hopen, hhead ▸ rfl⟩))))
        · refine .inr (.inl ?_)
          rw [hlost, if_neg hopen, ← hhead]
          exact List.mem_cons_self
      · refine .inl (.inr (.inl ⟨p, ?_⟩))
        by_cases hp : p = r
        · subst hp
          rw [hpublishing] at hw
          exact hself ▸ (List.mem_cons.mp hw).resolve_left hhead
        · exact hother hp ▸ hw
    · exact .inl (.inr (.inr (hlink ▸ Link.mem_inbox_deliver.mpr (.inl hw))))
    · exact .inr (.inl (hkept hw))
    · exact .inr (.inr (by rwa [hhandled, hstarted]))

theorem Kept.step (h : Kept s) (hstep : s.step action = some t) : Kept t := by
  obtain ⟨u, hact, rfl⟩ := Option.map_eq_some_iff.mp hstep
  cases action with
  | tick ms =>
    obtain rfl := Option.some.inj hact
    exact ⟨h.order, fun hw => Nat.lt_succ_of_lt (h.past hw), h.slugs,
      fun r => (h.replica r).later (later_of_writes rfl rfl (Nat.le_add_right ..)), h.reached⟩
  | write r doc =>
    dsimp only [act] at hact
    split at hact
    · obtain rfl := Option.some.inj hact
      exact h.write r ‹_› rfl
    · cases hact
  | invalidate r i =>
    obtain ⟨w, hw, rfl⟩ := Option.map_eq_some_iff.mp hact
    have habout : s.About w.message := ⟨w, (h.replica r).handler (List.mem_of_getElem? hw), rfl⟩
    refine h.set rfl ⟨rfl, rfl, rfl⟩ (fun _ => rfl) (.invalidate hw) fun hlater hold => ?_
    refine { (h.replica r).dropLocal h habout hlater rfl with
      handler := fun hw' => hold.handler (List.mem_of_mem_eraseIdx hw')
      message := fun hm => ?_ }
    rcases List.mem_append.mp hm with hm | hm
    · exact hold.message hm
    · exact List.mem_singleton.mp hm ▸ habout.later hlater
  | publish r succeeds =>
    dsimp only [act] at hact
    split at hact
    · cases hact
    · rename_i m rest hpublishing
      split at hact
      · obtain rfl := Option.some.inj hact
        exact h.deliver hpublishing rfl
      · obtain rfl := Option.some.inj hact
        refine @Kept.set _ _ _ _ _ _ [m.write] _ h rfl ⟨rfl, rfl, rfl⟩ (fun _ => rfl)
          ⟨.inl, fun hm => ?_, .inl, List.Subset.refl _, Nat.le_refl _⟩ fun _ hold => ?_
        · rcases List.mem_cons.mp (hpublishing ▸ hm) with rfl | hm
          · exact .inr List.mem_cons_self
          · exact .inl hm
        · refine { hold with message := fun hm => hold.message ?_ }
          exact hpublishing ▸ List.mem_cons_of_mem _ hm
  | receive r =>
    obtain ⟨⟨m, link⟩, hreceive, rfl⟩ := Option.map_eq_some_iff.mp hact
    obtain ⟨rest, hinbox, rfl⟩ := Link.receive_cases hreceive
    have habout : s.About m.2 := (h.replica r).inbox (hinbox ▸ List.mem_cons_self)
    refine h.set rfl ⟨rfl, rfl, rfl⟩ (fun _ => rfl) (.receive hinbox) fun hlater hold => ?_
    refine { (h.replica r).dropLocal h habout hlater rfl with inbox := fun hm => hold.inbox ?_ }
    exact hinbox ▸ List.mem_cons_of_mem _ hm
  | carryOut r =>
    obtain ⟨link, hcarry, rfl⟩ := Option.map_eq_some_iff.mp hact
    obtain ⟨command, rest, -, rfl⟩ := Link.carryOut_cases hcarry
    exact h.setLink rfl
  | refuse r =>
    obtain ⟨link, hrefuse, rfl⟩ := Option.map_eq_some_iff.mp hact
    obtain ⟨command, rest, -, rfl⟩ := Link.refuse_cases hrefuse
    exact h.setLink rfl
  | disconnect r =>
    obtain rfl := Option.some.inj hact
    exact h.setLink rfl
  | request r name =>
    obtain rfl := Option.some.inj hact
    split
    · exact ⟨h.order, fun hw => Nat.lt_succ_of_lt (h.past hw), h.slugs,
        fun r => (h.replica r).later (later_of_writes rfl rfl (Nat.le_refl _)), h.reached⟩
    · exact h.set rfl ⟨rfl, rfl, rfl⟩ (fun _ => rfl) (.of_eq rfl rfl rfl rfl rfl)
        fun _ hold => { hold with }
  | read r i =>
    obtain ⟨name, -, rfl⟩ := Option.map_eq_some_iff.mp hact
    dsimp only
    split
    · exact h.set rfl ⟨rfl, rfl, rfl⟩ (fun _ => rfl) (.of_eq rfl rfl rfl rfl rfl)
        fun _ hold => { hold with }
    · rename_i w hfind
      refine h.set rfl ⟨rfl, rfl, rfl⟩ (fun _ => rfl) (.of_eq rfl rfl rfl rfl rfl)
        fun _ hold => { hold with lookup := fun hl => ?_ }
      rcases List.mem_cons.mp hl with rfl | hl
      · exact h.lookupKept r hfind rfl rfl rfl
      · exact hold.lookup hl
  | finish r i =>
    obtain ⟨l, hl, rfl⟩ := Option.map_eq_some_iff.mp hact
    have hlookup := (h.replica r).lookup (List.mem_of_getElem? hl)
    dsimp only
    split
    · refine h.set rfl ⟨rfl, rfl, rfl⟩ (fun _ => rfl) (.of_eq rfl rfl rfl rfl rfl)
        fun hlater hold => ?_
      exact { (h.replica r).remember hlookup ‹_› hlater rfl with
        lookup := fun hl => hold.lookup (List.mem_of_mem_eraseIdx hl) }
    · exact h.set rfl ⟨rfl, rfl, rfl⟩ (fun _ => rfl) (.of_eq rfl rfl rfl rfl rfl) fun _ hold =>
        { hold with lookup := fun hl => hold.lookup (List.mem_of_mem_eraseIdx hl) }
  | restart r =>
    obtain rfl := Option.some.inj hact
    exact h.set rfl ⟨rfl, rfl, rfl⟩ (fun _ => rfl) ((h.replica r).passes_restart h) fun _ hold =>
      .start (Nat.le_succ _) hold.handled

theorem reach_kept (h : Reach step Free start s) : s.Kept :=
  h.invariant Kept.start fun hkept _ hstep => hkept.step hstep

/-! ## What a replica answers with -/

/-- A replica answers with the school that was asked for, as it was when a lookup read it.  A write of the
school since is one whose invalidation is still on its way to the replica or was lost, or one that the
replica handled before the lookup cached what it had read. -/
theorem cached_stale (h : Reach step Free start s) (he : s.cached r key = some e) :
    (key = e.doc.schoolId ∨ key = e.doc.slug) ∧ s.Current e.doc e.readAt ∧
      ∀ w ∈ s.writes, w.doc.schoolId = e.doc.schoolId → e.readAt ≤ w.step →
        (s.Waiting r w ∨ w.step ∈ s.lost r ∨ ∃ p, (p, w.message) ∈ (s.replicas r).handled) ∧
        ∀ p, (p, w.message) ∈ (s.replicas r).handled → p < e.setAt := by
  have hkept := reach_kept h
  have hentry := (hkept.replica r).entry (cached_eq_some he).1
  refine ⟨hentry.key, hentry.current, fun w hw hschool hread => ⟨?_, fun p hp => ?_⟩⟩
  · rcases hkept.reached r hw with hwait | hlost | hhandled | hold
    · exact .inl hwait
    · exact .inr (.inl hlost)
    · exact .inr (.inr hhandled)
    · exact absurd (Nat.lt_of_lt_of_le hold hentry.started) (Nat.not_lt_of_le hread)
  · exact hentry.handled hp hschool

/-- A lookup read before a school was deactivated, and caches it once its replica has handled the
invalidation. -/
def overtaken : List (CacheAction Bool Unit) :=
  [.carryOut true, .write false ⟨"SCH1", "lincoln", true, ()⟩, .invalidate false 0,
    .publish false true, .receive true, .request true (.slug "lincoln"), .read true 0,
    .write false ⟨"SCH1", "lincoln", false, ()⟩, .invalidate false 0, .publish false true,
    .receive true, .finish true 0]

theorem overtaken_runs : (exec step (start : SchoolCaches Bool Unit) overtaken).isSome = true := by
  decide

def overtakenCaches : SchoolCaches Bool Unit := (exec step start overtaken).get overtaken_runs

theorem cached_stale_overtaken :
    ∃ e : SchoolEntry Unit, overtakenCaches.cached true "SCH1" = some e ∧
      ∃ w ∈ overtakenCaches.writes, w.doc.isActive = false ∧
        (overtakenCaches.Waiting true w ∨ w.step ∈ overtakenCaches.lost true ∨
          ∃ p, (p, w.message) ∈ (overtakenCaches.replicas true).handled) ∧
        ∀ p, (p, w.message) ∈ (overtakenCaches.replicas true).handled → p < e.setAt := by
  have hcached : (overtakenCaches.cached true "SCH1").isSome = true := by decide
  have hsome := (Option.some_get hcached).symm
  have hw : ⟨⟨"SCH1", "lincoln", false, ()⟩, 7, 0⟩ ∈ overtakenCaches.writes := .head _
  exact ⟨_, hsome, _, hw, rfl,
    (cached_stale (reach_get overtaken_runs) hsome).2.2 _ hw rfl (by decide : 6 ≤ 7)⟩

/-! ## For how long -/

theorem cache_dropLocal {m : Invalidation} (clock : Nat)
    (h : (x.dropLocal m clock).cache key = some e) : x.cache key = some e := by
  dsimp only [SchoolReplica.dropLocal] at h
  split at h
  · cases h
  · exact h

theorem cache_remember {l : SchoolLookup β} {clock now : Nat}
    (h : (x.remember l clock now).cache key = some e) :
    e = ⟨l, clock, now + schoolTtlMs⟩ ∨ x.cache key = some e := by
  dsimp only [SchoolReplica.remember] at h
  split at h
  · exact .inl (Option.some.inj h).symm
  · exact .inr h

/-- What the cache of a replica holds after a step, it held before or a lookup has put there. -/
theorem cache_step (hstep : s.step action = some t) (he : (t.replicas r).cache key = some e) :
    (s.replicas r).cache key = some e ∨
      ∃ i l, action = .finish r i ∧ (s.replicas r).lookups[i]? = some l ∧
        e = ⟨l, s.clock, s.now + schoolTtlMs⟩ := by
  obtain ⟨u, hact, rfl⟩ := Option.map_eq_some_iff.mp hstep
  -- a replica that changes keeps its entries, or loses some
  have hset {q : ρ} {y : SchoolReplica β} (he : (update s.replicas q y r).cache key = some e)
      (hy : y.cache key = some e → (s.replicas q).cache key = some e) :
      (s.replicas r).cache key = some e := by
    by_cases hr : r = q
    · subst hr
      exact hy (by rwa [update_self] at he)
    · rwa [update_of_ne hr] at he
  cases action with
  | tick ms =>
    obtain rfl := Option.some.inj hact
    exact .inl he
  | write q doc =>
    dsimp only [act] at hact
    split at hact
    · obtain rfl := Option.some.inj hact
      exact .inl (hset he id)
    · cases hact
  | invalidate q i =>
    obtain ⟨w, -, rfl⟩ := Option.map_eq_some_iff.mp hact
    exact .inl (hset he (cache_dropLocal s.clock))
  | publish q succeeds =>
    dsimp only [act] at hact
    split at hact
    · cases hact
    · split at hact
      · obtain rfl := Option.some.inj hact
        exact .inl (hset he id)
      · obtain rfl := Option.some.inj hact
        exact .inl (hset he id)
  | receive q =>
    obtain ⟨⟨m, link⟩, -, rfl⟩ := Option.map_eq_some_iff.mp hact
    exact .inl (hset he (cache_dropLocal s.clock))
  | carryOut q =>
    obtain ⟨link, -, rfl⟩ := Option.map_eq_some_iff.mp hact
    exact .inl (hset he id)
  | refuse q =>
    obtain ⟨link, -, rfl⟩ := Option.map_eq_some_iff.mp hact
    exact .inl (hset he id)
  | disconnect q =>
    obtain rfl := Option.some.inj hact
    exact .inl (hset he id)
  | request q name =>
    obtain rfl := Option.some.inj hact
    split at he
    · exact .inl he
    · exact .inl (hset he id)
  | read q i =>
    obtain ⟨name, -, rfl⟩ := Option.map_eq_some_iff.mp hact
    refine .inl (hset he ?_)
    dsimp only
    split
    · exact id
    · exact id
  | finish q i =>
    obtain ⟨l, hl, rfl⟩ := Option.map_eq_some_iff.mp hact
    by_cases hr : r = q
    · subst hr
      dsimp only [setReplica] at he
      rw [update_self] at he
      split at he
      · rcases cache_remember he with rfl | hold
        · exact .inr ⟨i, l, rfl, hl, rfl⟩
        · exact .inl hold
      · exact .inl he
    · exact .inl (by simpa [setReplica, hr] using he)
  | restart q =>
    obtain rfl := Option.some.inj hact
    exact .inl (hset he (nomatch ·))

/-- A lookup is finished within so many milliseconds from its read. -/
def Prompt (D : Nat) (s : SchoolCaches ρ β) : CacheAction ρ β → Prop
  | .finish r i => ∀ l ∈ (s.replicas r).lookups[i]?, s.now ≤ l.readTime + D
  | _ => True

/-- No entry outlives the read it comes from by more than its lifetime and the longest lookup. -/
def Expires (D : Nat) (s : SchoolCaches ρ β) : Prop :=
  ∀ (r : ρ) (key : String) (e : SchoolEntry β),
    (s.replicas r).cache key = some e → e.expiresAt ≤ e.readTime + D + schoolTtlMs

theorem expires_of_reach {D : Nat} (h : Reach step (Prompt D) start s) : Expires D s := by
  refine h.invariant (fun _ _ _ => (nomatch ·)) fun hold hprompt hstep r key e he => ?_
  rcases cache_step hstep he with he | ⟨i, l, rfl, hl, rfl⟩
  · exact hold r key e he
  · exact Nat.add_le_add_right (hprompt l hl) _

/-- Whatever is lost, a replica does not answer with an active school that it read before a write, once
an entry's lifetime and the longest lookup have passed since. -/
theorem cached_recent {D : Nat} (h : Reach step (Prompt D) start s) (he : s.cached r key = some e)
    (hw : w ∈ s.writes) (hschool : w.doc.schoolId = e.doc.schoolId)
    (htime : w.time + D + schoolTtlMs < s.now) :
    ∃ w' ∈ s.writes, w'.doc = e.doc ∧ w'.doc.isActive = true ∧ w.step ≤ w'.step := by
  have hkept : s.Kept := reach_kept (h.mono fun _ _ _ => trivial)
  have hexpires : Expires D s := expires_of_reach h
  obtain ⟨hcache, hnow⟩ := cached_eq_some he
  have hentry := (hkept.replica r).entry hcache
  obtain ⟨w', hw', hdoc, hbefore, hlast⟩ := hentry.current
  refine ⟨w', hw', hdoc, hdoc ▸ hentry.active, Nat.le_of_not_lt fun hlate => ?_⟩
  -- the lookup read before the write, and its entry has expired
  have hread := hentry.after hw (hlast w hw hschool hlate)
  have hexpires := hexpires r key e hcache
  omega

/-- A replica that never subscribes answers with a school for five minutes. -/
def unsubscribed : List (CacheAction Bool Unit) :=
  [.write false ⟨"SCH1", "lincoln", true, ()⟩, .tick 900, .request true (.slug "lincoln"), .read true 0,
    .tick 100, .finish true 0, .tick 299500]

instance (D : Nat) (s : SchoolCaches ρ β) : DecidablePred (Prompt D s) := fun action =>
  match action with
  | .finish r i => inferInstanceAs (Decidable (∀ l ∈ (s.replicas r).lookups[i]?, s.now ≤ l.readTime + D))
  | .tick _ | .write _ _ | .invalidate _ _ | .publish _ _ | .receive _ | .carryOut _ | .refuse _
  | .disconnect _ | .request _ _ | .read _ _ | .restart _ => isTrue trivial

theorem unsubscribed_runs :
    (execOk step (Prompt 100) (start : SchoolCaches Bool Unit) unsubscribed).isSome = true := by
  decide

def unsubscribedCaches : SchoolCaches Bool Unit :=
  (execOk step (Prompt 100) start unsubscribed).get unsubscribed_runs

theorem cached_recent_unsubscribed :
    ∃ e : SchoolEntry Unit, unsubscribedCaches.cached true "lincoln" = some e ∧
      ∃ w ∈ unsubscribedCaches.writes, w.doc = e.doc ∧ w.doc.isActive = true ∧ 0 ≤ w.step := by
  have hcached : (unsubscribedCaches.cached true "lincoln").isSome = true := by decide
  have hsome := (Option.some_get hcached).symm
  have hw : ⟨⟨"SCH1", "lincoln", true, ()⟩, 0, 0⟩ ∈ unsubscribedCaches.writes := .head _
  exact ⟨_, hsome,
    cached_recent (Reach.getOk unsubscribed_runs) hsome hw rfl (by decide : 300100 < 300500)⟩

end

end SchoolCaches

end StellarEduPay

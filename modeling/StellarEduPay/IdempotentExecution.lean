import StellarEduPay.Idempotency

/-! # How often the handler runs

Three things are asked of the requests that share a key: two handlers run at once only when
the earlier one is old enough to be taken for dead; a request that was taken over leaves the
newer reservation alone; and once a response is stored, no handler starts before it expires.

The filters of the store operations do not identify the owner, and four moves make use of it:
a client that leaves gives back a reservation whose handler still runs; a takeover renews
whatever reservation it finds, not the old one that was read; a request that was taken over
settles the record all the same; and an eviction deletes the record of the key, whatever its
version.  `IdemSafe` is the condition that none of them does.
-/
namespace StellarEduPay
open Runs Function

section Properties
variable {P : Type} (cfg : IdempotencyConfig)

/-- **Exclusion**: of two handlers that run at once, the earlier one had been running for
`IN_FLIGHT_TTL_MS` when the other started. -/
def Exclusive (s : IdemSystem P) : Prop :=
  ∀ p q a b, p ≠ q → (s.pc p).runningSince = some a → (s.pc q).runningSince = some b →
    a + cfg.inFlightTtl ≤ b ∨ b + cfg.inFlightTtl ≤ a

/-- The request that takes the step, if it is one's. -/
def IdemAct.process : IdemAct P → Option P
  | arrive p | readCache p _ | findRecord p | evict p | create p | takeOver p | respond p _
  | unflushed p | abort p | handlerEnds p | complete p | cacheResponse p _ | release p
  | crash p => some p
  | tick _ | purge | dropCache => none

/-- **A request that was taken over** neither deletes nor overwrites the newer reservation. -/
def KeepsNewer (s : IdemSystem P) (a : IdemAct P) (t : IdemSystem P) : Prop :=
  ∀ p r, a.process = some p → (s.pc p).reserved = true → s.record = some r →
    r.state = .inProgress → r.owner ≠ some p → t.record = some r

/-- **No handler starts** before every stored response has expired. -/
def StartsExpired (s t : IdemSystem P) : Prop :=
  ∀ p, (s.pc p).runningSince = none → (t.pc p).runningSince.isSome = true →
    ∀ e ∈ s.stored, e ≤ s.now

/-- The condition on a step: no client leaves while its handler runs; a takeover finds a
reservation that is itself old enough; a settling request finds no reservation of another;
an eviction finds no record of this version. -/
def IdemSafe (s : IdemSystem P) : IdemAct P → Prop
  | .abort _ => False
  | .takeOver _ => ∀ r ∈ s.record, r.state = .inProgress → r.createdAt + cfg.inFlightTtl ≤ s.now
  | .complete p | .release p => ∀ r ∈ s.record, r.state = .inProgress → r.owner = some p
  | .evict _ => ∀ r ∈ s.record, cfg.mismatch r.schemaVersion = true
  | _ => True

end Properties

/-! ## What a step does -/

/-- Each request stays where it is, or runs no handler. -/
def Calm {P : Type} (s t : IdemSystem P) : Prop :=
  ∀ q, t.pc q = s.pc q ∨ (t.pc q).runningSince = none

section Moves
variable {P : Type} [DecidableEq P] (cfg : IdempotencyConfig) (request : P → IdempotentRequest)

/-- What a step can do to the record and to the handlers. -/
inductive IdemMove (s : IdemSystem P) : IdemAct P → IdemSystem P → Prop
  | quiet {a : IdemAct P} {t : IdemSystem P} (record : t.record = s.record) (now : t.now = s.now)
      (stored : t.stored = s.stored) (pc : Calm s t) : IdemMove s a t
  | abort {p : P} {t : IdemSystem P} (record : t.record = s.record) : IdemMove s (.abort p) t
  | create {p : P} {t : IdemSystem P} (fresh : s.record = none)
      (record : t.record = some (reservation (request p) s.now p)) (now : t.now = s.now)
      (stored : t.stored = s.stored) (pc : t.pc = update s.pc p (.running s.now)) :
      IdemMove s (.create p) t
  | takeOver {p : P} {r : IdempotencyRecord P} {t : IdemSystem P} (waiting : s.pc p = .takingOver)
      (found : s.record = some r) (state : r.state = .inProgress)
      (record : t.record = some (takenOver r (request p) s.now p)) (now : t.now = s.now)
      (stored : t.stored = s.stored) (pc : t.pc = update s.pc p (.running s.now)) :
      IdemMove s (.takeOver p) t
  | complete {p : P} {response : IdempotentResponse} {t : IdemSystem P}
      (waiting : (s.pc p).runningSince = none)
      (record : t.record = some (completedRecord cfg s.record (request p) response s.now p))
      (now : t.now = s.now)
      (stored : t.stored =
        ((completedRecord cfg s.record (request p) response s.now p).createdAt + cfg.ttl) :: s.stored)
      (pc : Calm s t) : IdemMove s (.complete p) t
  | release {p : P} {t : IdemSystem P} (waiting : s.pc p = .releasing)
      (record : t.record = releaseRecord s.record) (now : t.now = s.now)
      (stored : t.stored = s.stored) (pc : Calm s t) : IdemMove s (.release p) t
  /-- The release of a client that left. -/
  | releaseAborted {p : P} {since : Nat} {t : IdemSystem P} (waiting : s.pc p = .aborted since false) :
      IdemMove s (.release p) t
  | evict {p : P} {call : FullCall} {t : IdemSystem P} (waiting : s.pc p = .evicting call)
      (record : t.record = none) (now : t.now = s.now) (stored : t.stored = s.stored)
      (pc : Calm s t) : IdemMove s (.evict p) t
  | tick {ms : Nat} {t : IdemSystem P} (record : t.record = s.record) (now : t.now = s.now + ms)
      (stored : t.stored = s.stored) (pc : Calm s t) : IdemMove s (.tick ms) t
  | purge {r : IdempotencyRecord P} {t : IdemSystem P} (found : s.record = some r)
      (expired : r.createdAt + cfg.ttl ≤ s.now) (record : t.record = none) (now : t.now = s.now)
      (stored : t.stored = s.stored) (pc : Calm s t) : IdemMove s .purge t

variable {cfg request} {s t : IdemSystem P}

theorem calm_goto (p : P) {pc : IdemPc} (h : pc.runningSince = none) : Calm s (s.goto p pc) := by
  intro q
  by_cases hq : q = p
  · subst hq
    exact Or.inr (by simpa [IdemSystem.goto] using h)
  · exact Or.inl (by simp [IdemSystem.goto, hq])

@[simp] theorem runningSince_afterGetFull (cfg : IdempotencyConfig) (now : Nat)
    (fingerprint : String) (call : FullCall) (record : Option FullRecord) :
    (afterGetFull cfg now fingerprint call record).runningSince = none := by
  unfold afterGetFull
  split
  · rfl
  · split <;> rfl
  · rfl
  · split <;> rfl
  · rfl

@[simp] theorem runningSince_completeReservation (response : IdempotentResponse) :
    (completeReservation response).runningSince = none := by
  unfold completeReservation
  split <;> rfl

theorem quiet_goto {a : IdemAct P} {p : P} {pc : IdemPc} (h : pc.runningSince = none)
    (ht : s.goto p pc = t) : IdemMove cfg request s a t := by
  subst ht
  exact .quiet rfl rfl rfl (calm_goto p h)

/-- **What a step can do.** -/
theorem idemStep_move {a : IdemAct P} (h : idemStep cfg request s a = some t) :
    IdemMove cfg request s a t := by
  cases a with
  | arrive p =>
    simp only [idemStep] at h
    split at h
    · exact quiet_goto rfl (Option.some.inj h)
    · cases h
  | readCache p reachable =>
    simp only [idemStep] at h
    split at h
    · split at h
      · exact quiet_goto rfl (Option.some.inj h)
      · exact quiet_goto rfl (Option.some.inj h)
      · exact quiet_goto (runningSince_afterGetFull ..) (Option.some.inj h)
    · cases h
  | findRecord p =>
    simp only [idemStep] at h
    split at h
    · split at h
      · exact quiet_goto (runningSince_afterGetFull ..) (Option.some.inj h)
      · exact quiet_goto rfl (Option.some.inj h)
      · exact quiet_goto (runningSince_afterGetFull ..) (Option.some.inj h)
    · cases h
  | evict p =>
    simp only [idemStep] at h
    split at h
    · rename_i call hpc
      cases h
      exact .evict hpc rfl rfl rfl (calm_goto p (runningSince_afterGetFull ..))
    · cases h
  | create p =>
    simp only [idemStep] at h
    split at h
    · split at h
      · rename_i hfresh
        cases h
        exact .create hfresh rfl rfl rfl rfl
      · exact quiet_goto rfl (Option.some.inj h)
    · cases h
  | takeOver p =>
    simp only [idemStep] at h
    split at h
    · rename_i hpc
      split at h
      · exact quiet_goto rfl (Option.some.inj h)
      · rename_i r hr
        obtain ⟨hfound, hstate⟩ := Option.filter_eq_some_iff.mp hr
        cases h
        exact .takeOver hpc hfound (by simpa using hstate) rfl rfl rfl rfl
    · cases h
  | respond p response =>
    simp only [idemStep] at h
    split at h
    · exact quiet_goto (runningSince_completeReservation response) (Option.some.inj h)
    · cases h
  | unflushed p =>
    simp only [idemStep] at h
    split at h
    · exact quiet_goto rfl (Option.some.inj h)
    · cases h
  | abort p =>
    simp only [idemStep] at h
    split at h
    · cases h
      exact .abort rfl
    · cases h
  | handlerEnds p =>
    simp only [idemStep] at h
    split at h
    · refine quiet_goto ?_ (Option.some.inj h)
      split <;> rfl
    · cases h
  | complete p =>
    simp only [idemStep] at h
    split at h
    · rename_i response hpc
      cases h
      exact .complete (by rw [hpc]; rfl) rfl rfl rfl (calm_goto p rfl)
    · cases h
  | cacheResponse p reachable =>
    simp only [idemStep] at h
    split at h
    · cases h
      exact .quiet rfl rfl rfl (calm_goto p rfl)
    · cases h
  | release p =>
    simp only [idemStep] at h
    split at h
    · rename_i hpc
      cases h
      exact .release hpc rfl rfl rfl (calm_goto p rfl)
    · rename_i since hpc
      exact .releaseAborted hpc
    · cases h
  | crash p => exact quiet_goto rfl (Option.some.inj h)
  | tick ms =>
    cases h
    exact .tick rfl rfl rfl fun _ => Or.inl rfl
  | purge =>
    simp only [idemStep] at h
    split at h
    · cases h
    · rename_i r hr
      obtain ⟨hfound, hexpired⟩ := Option.filter_eq_some_iff.mp hr
      cases h
      exact .purge hfound (by simpa using hexpired) rfl rfl rfl fun _ => Or.inl rfl
  | dropCache =>
    cases h
    exact .quiet rfl rfl rfl fun _ => Or.inl rfl

end Moves

/-! ## The invariant -/

section Invariant
variable {P : Type} {cfg : IdempotencyConfig} {s t : IdemSystem P}

/-- Before any request: nothing is running, and whatever record there is, a reservation has
no schema version.  The cache may hold anything. -/
structure IdemStart (s : IdemSystem P) : Prop where
  idle : ∀ p, s.pc p = .idle
  unversioned : ∀ r, s.record = some r → r.state = .inProgress → r.schemaVersion = none
  stored : s.stored = []

/-- The reservation of `p`, made at time `a`, is the record. -/
def Holds (s : IdemSystem P) (p : P) (a : Nat) : Prop :=
  ∃ r, s.record = some r ∧ r.state = .inProgress ∧ r.owner = some p ∧ r.createdAt = a

/-- The record is a response of this version that expires no sooner than `e`. -/
def Keeps (cfg : IdempotencyConfig) (s : IdemSystem P) (e : Nat) : Prop :=
  ∃ r, s.record = some r ∧ r.state = .completed ∧ cfg.mismatch r.schemaVersion = false ∧
    e ≤ r.createdAt + cfg.ttl

/-- A handler that is not old enough to be taken over holds the record, and so does a stored
response that has not expired. -/
structure IdemInv (cfg : IdempotencyConfig) (s : IdemSystem P) : Prop where
  attended : ∀ p since released, s.pc p ≠ .aborted since released
  held : ∀ p a, (s.pc p).runningSince = some a → a + cfg.inFlightTtl ≤ s.now ∨ Holds s p a
  exclusive : Exclusive cfg s
  unversioned : ∀ r, s.record = some r → r.state = .inProgress → r.schemaVersion = none
  stored : ∀ e ∈ s.stored, e ≤ s.now ∨ Keeps cfg s e

namespace IdemInv

theorem start (h : IdemStart s) : IdemInv cfg s where
  attended p since released hpc := by rw [h.idle] at hpc; cases hpc
  held p a hp := by rw [h.idle] at hp; cases hp
  exclusive p q a b _ hp := by rw [h.idle] at hp; cases hp
  unversioned := h.unversioned
  stored e he := by rw [h.stored] at he; cases he

theorem running_of_calm (hcalm : Calm s t) {p : P} {a : Nat}
    (hp : (t.pc p).runningSince = some a) : t.pc p = s.pc p := by
  rcases hcalm p with hsame | hnone
  · exact hsame
  · rw [hnone] at hp
    cases hp

/-- A step that starts no handler keeps the invariant if it leaves what the young handlers and
the stored responses need. -/
theorem of_calm (h : IdemInv cfg s) (hcalm : Calm s t)
    (hheld : ∀ p a, (s.pc p).runningSince = some a → a + cfg.inFlightTtl ≤ t.now ∨ Holds t p a)
    (hversion : ∀ r, t.record = some r → r.state = .inProgress → r.schemaVersion = none)
    (hstored : ∀ e ∈ t.stored, e ≤ t.now ∨ Keeps cfg t e) : IdemInv cfg t where
  attended p since released hpc := by
    have hrunning : (t.pc p).runningSince = some since := by rw [hpc]; rfl
    exact h.attended p since released ((running_of_calm hcalm hrunning).symm.trans hpc)
  held p a hp := hheld p a (running_of_calm hcalm hp ▸ hp)
  exclusive p q a b hne hp hq :=
    h.exclusive p q a b hne (running_of_calm hcalm hp ▸ hp) (running_of_calm hcalm hq ▸ hq)
  unversioned := hversion
  stored := hstored

/-- A step that leaves the record alone. -/
theorem of_calm_record (h : IdemInv cfg s) (hcalm : Calm s t) (hrecord : t.record = s.record)
    (hnow : s.now ≤ t.now) (hstored : t.stored = s.stored) : IdemInv cfg t := by
  refine h.of_calm hcalm (fun p a hp => ?_) (fun r hr => ?_) fun e he => ?_
  · rcases h.held p a hp with hold | hholds
    · exact Or.inl (Nat.le_trans hold hnow)
    · exact Or.inr (by unfold Holds; rw [hrecord]; exact hholds)
  · exact h.unversioned r (hrecord ▸ hr)
  · rcases h.stored e (hstored ▸ he) with hexpired | hkeeps
    · exact Or.inl (Nat.le_trans hexpired hnow)
    · exact Or.inr (by unfold Keeps; rw [hrecord]; exact hkeeps)

/-- A step after which there is no record: no young handler held it, and no response in force
was stored in it. -/
theorem of_calm_none (h : IdemInv cfg s) (hcalm : Calm s t) (hrecord : t.record = none)
    (hnow : t.now = s.now) (hstored : t.stored = s.stored)
    (hholds : ∀ p a, (s.pc p).runningSince = some a → Holds s p a → a + cfg.inFlightTtl ≤ s.now)
    (hkeeps : ∀ e, Keeps cfg s e → e ≤ s.now) : IdemInv cfg t := by
  refine h.of_calm hcalm (fun p a hp => ?_) (fun r hr => ?_) fun e he => ?_
  · rw [hnow]
    exact Or.inl ((h.held p a hp).elim id (hholds p a hp))
  · rw [hrecord] at hr
    cases hr
  · rw [hnow]
    exact Or.inl ((h.stored e (hstored ▸ he)).elim id (hkeeps e))

/-- Nothing stands in the way of a start: every handler is old, every stored response has
expired. -/
structure Startable (cfg : IdempotencyConfig) (s : IdemSystem P) : Prop where
  old : ∀ q a, (s.pc q).runningSince = some a → a + cfg.inFlightTtl ≤ s.now
  expired : ∀ e ∈ s.stored, e ≤ s.now

theorem startable_of_none (h : IdemInv cfg s) (hrecord : s.record = none) : Startable cfg s where
  old q a hq := by
    rcases h.held q a hq with hold | ⟨r, hr, -⟩
    · exact hold
    · rw [hrecord] at hr
      cases hr
  expired e he := by
    rcases h.stored e he with hexpired | ⟨r, hr, -⟩
    · exact hexpired
    · rw [hrecord] at hr
      cases hr

theorem startable_of_stale (h : IdemInv cfg s) {r : IdempotencyRecord P}
    (hrecord : s.record = some r) (hstate : r.state = .inProgress)
    (hstale : r.createdAt + cfg.inFlightTtl ≤ s.now) : Startable cfg s where
  old q a hq := by
    rcases h.held q a hq with hold | ⟨r', hr', -, -, rfl⟩
    · exact hold
    · rw [hrecord] at hr'
      cases hr'
      exact hstale
  expired e he := by
    rcases h.stored e he with hexpired | ⟨r', hr', hstate', -⟩
    · exact hexpired
    · rw [hrecord] at hr'
      cases hr'
      rw [hstate] at hstate'
      cases hstate'

theorem complete (h : IdemInv cfg s) {request : P → IdempotentRequest} {p : P}
    {response : IdempotentResponse}
    (hwaiting : (s.pc p).runningSince = none)
    (hown : ∀ r ∈ s.record, r.state = .inProgress → r.owner = some p)
    (hrecord : t.record = some (completedRecord cfg s.record (request p) response s.now p))
    (hnow : t.now = s.now)
    (hstored : t.stored =
      ((completedRecord cfg s.record (request p) response s.now p).createdAt + cfg.ttl) :: s.stored)
    (hcalm : Calm s t) : IdemInv cfg t := by
  have hversion : cfg.mismatch (some cfg.appSchemaVersion) = false := by
    simp [IdempotencyConfig.mismatch]
  refine h.of_calm hcalm (fun q a hq => ?_) (fun r hr hstate => ?_) fun e he => ?_
  · rcases h.held q a hq with hold | ⟨r, hr, hstate, howner, -⟩
    · exact Or.inl (hnow ▸ hold)
    · -- the record is the completing request's own, and that one runs no handler
      obtain rfl : p = q := Option.some.inj ((hown r hr hstate).symm.trans howner)
      rw [hwaiting] at hq
      cases hq
  · rw [hrecord] at hr
    cases hr
    cases hstate
  · rw [hstored] at he
    rcases List.mem_cons.mp he with rfl | he
    · exact Or.inr ⟨_, hrecord, rfl, hversion, Nat.le_refl _⟩
    · rcases h.stored e he with hexpired | ⟨r, hr, -, -, hle⟩
      · exact Or.inl (hnow ▸ hexpired)
      · refine Or.inr ⟨_, hrecord, rfl, hversion, ?_⟩
        rw [hr]
        exact hle

theorem release (h : IdemInv cfg s) {p : P} (hwaiting : s.pc p = .releasing)
    (hown : ∀ r ∈ s.record, r.state = .inProgress → r.owner = some p)
    (hrecord : t.record = releaseRecord s.record) (hnow : t.now = s.now)
    (hstored : t.stored = s.stored) (hcalm : Calm s t) : IdemInv cfg t := by
  by_cases hreserved : ∃ r, s.record = some r ∧ r.state = .inProgress
  · obtain ⟨r, hr, hstate⟩ := hreserved
    have hnone : t.record = none := by rw [hrecord, hr]; simp [releaseRecord, hstate]
    refine h.of_calm_none hcalm hnone hnow hstored ?_ ?_
    · rintro q a hq ⟨r', hr', hstate', howner, -⟩
      obtain rfl : p = q := Option.some.inj ((hown r' hr' hstate').symm.trans howner)
      rw [hwaiting] at hq
      cases hq
    · rintro e ⟨r', hr', hstate', -⟩
      rw [hr] at hr'
      cases hr'
      rw [hstate] at hstate'
      cases hstate'
  · have hsame : t.record = s.record := by
      rw [hrecord]
      cases hr : s.record with
      | none => rfl
      | some r =>
        have hstate : r.state ≠ .inProgress := fun hstate => hreserved ⟨r, hr, hstate⟩
        simp [releaseRecord, hstate]
    exact h.of_calm_record hcalm hsame (Nat.le_of_eq hnow.symm) hstored

theorem evict (h : IdemInv cfg s) (hother : ∀ r ∈ s.record, cfg.mismatch r.schemaVersion = true)
    (hrecord : t.record = none) (hnow : t.now = s.now) (hstored : t.stored = s.stored)
    (hcalm : Calm s t) : IdemInv cfg t := by
  refine h.of_calm_none hcalm hrecord hnow hstored ?_ ?_
  · rintro q a - ⟨r, hr, hstate, -⟩
    have hmismatch := hother r hr
    rw [h.unversioned r hr hstate] at hmismatch
    cases hmismatch
  · rintro e ⟨r, hr, -, hversion, -⟩
    rw [hother r hr] at hversion
    cases hversion

theorem purge (h : IdemInv cfg s) (hcfg : cfg.inFlightTtl ≤ cfg.ttl) {r : IdempotencyRecord P}
    (hfound : s.record = some r) (hexpired : r.createdAt + cfg.ttl ≤ s.now)
    (hrecord : t.record = none) (hnow : t.now = s.now) (hstored : t.stored = s.stored)
    (hcalm : Calm s t) : IdemInv cfg t := by
  refine h.of_calm_none hcalm hrecord hnow hstored ?_ ?_
  · rintro q a - ⟨r', hr', -, -, rfl⟩
    rw [hfound] at hr'
    cases hr'
    omega
  · rintro e ⟨r', hr', -, -, hle⟩
    rw [hfound] at hr'
    cases hr'
    omega

variable [DecidableEq P]

/-- A handler starts, when every other one is old and no stored response is in force. -/
theorem of_start (h : IdemInv cfg s) {p : P} {r : IdempotencyRecord P}
    (hpc : t.pc = update s.pc p (.running s.now)) (hrecord : t.record = some r)
    (hnow : t.now = s.now) (hstored : t.stored = s.stored) (hstate : r.state = .inProgress)
    (howner : r.owner = some p) (hcreated : r.createdAt = s.now) (hversion : r.schemaVersion = none)
    (hold : ∀ q a, (s.pc q).runningSince = some a → a + cfg.inFlightTtl ≤ s.now)
    (hexpired : ∀ e ∈ s.stored, e ≤ s.now) : IdemInv cfg t := by
  -- the handlers of `t`: the new one, and the old ones
  have hrunning : ∀ q a, (t.pc q).runningSince = some a →
      (q = p ∧ a = s.now) ∨ (q ≠ p ∧ a + cfg.inFlightTtl ≤ s.now) := by
    intro q a hq
    rw [hpc] at hq
    by_cases he : q = p
    · subst he
      rw [update_self] at hq
      exact Or.inl ⟨rfl, (Option.some.inj hq).symm⟩
    · rw [update_of_ne he] at hq
      exact Or.inr ⟨he, hold q a hq⟩
  constructor
  · intro q since released hq
    rw [hpc] at hq
    by_cases he : q = p
    · subst he
      rw [update_self] at hq
      cases hq
    · rw [update_of_ne he] at hq
      exact h.attended q since released hq
  · intro q a hq
    rcases hrunning q a hq with ⟨rfl, rfl⟩ | ⟨-, hqold⟩
    · exact Or.inr ⟨r, hrecord, hstate, howner, hcreated⟩
    · exact Or.inl (hnow ▸ hqold)
  · intro q q' a b hne hq hq'
    rcases hrunning q a hq with ⟨rfl, rfl⟩ | ⟨hqne, hqold⟩ <;>
      rcases hrunning q' b hq' with ⟨rfl, rfl⟩ | ⟨hqne', hqold'⟩
    · exact absurd rfl hne
    · exact Or.inr hqold'
    · exact Or.inl hqold
    · rw [hpc, update_of_ne hqne] at hq
      rw [hpc, update_of_ne hqne'] at hq'
      exact h.exclusive q q' a b hne hq hq'
  · intro r' hr' _
    rw [hrecord] at hr'
    cases hr'
    exact hversion
  · intro e he
    exact Or.inl (hnow ▸ hexpired e (hstored ▸ he))

/-- **A safe step keeps the invariant.** -/
theorem step {request : P → IdempotentRequest} {a : IdemAct P} (h : IdemInv cfg s)
    (hcfg : cfg.inFlightTtl ≤ cfg.ttl) (hsafe : IdemSafe cfg s a)
    (hstep : idemStep cfg request s a = some t) : IdemInv cfg t := by
  cases idemStep_move hstep with
  | quiet record now stored pc => exact h.of_calm_record pc record (Nat.le_of_eq now.symm) stored
  | abort => exact hsafe.elim
  | create fresh record now stored pc =>
    obtain ⟨hold, hexpired⟩ := h.startable_of_none fresh
    exact h.of_start pc record now stored rfl rfl rfl rfl hold hexpired
  | takeOver _ found state record now stored pc =>
    obtain ⟨hold, hexpired⟩ := h.startable_of_stale found state (hsafe _ found state)
    have hversion := h.unversioned _ found state
    exact h.of_start pc record now stored state rfl rfl hversion hold hexpired
  | complete waiting record now stored pc => exact h.complete waiting hsafe record now stored pc
  | release waiting record now stored pc => exact h.release waiting hsafe record now stored pc
  | releaseAborted waiting => exact absurd waiting (h.attended _ _ _)
  | evict _ record now stored pc => exact h.evict hsafe record now stored pc
  | tick record now stored pc =>
    exact h.of_calm_record pc record (by omega) stored
  | purge found expired record now stored pc =>
    exact h.purge hcfg found expired record now stored pc

/-- A safe step of a request that was taken over leaves the newer reservation. -/
theorem keepsNewer {request : P → IdempotentRequest} {a : IdemAct P} (h : IdemInv cfg s)
    (hsafe : IdemSafe cfg s a) (hstep : idemStep cfg request s a = some t) : KeepsNewer s a t := by
  intro p r hprocess hreserved hr hstate howner
  cases idemStep_move hstep with
  | quiet record => rw [record, hr]
  | abort record => rw [record, hr]
  | create fresh =>
    rw [fresh] at hr
    cases hr
  | takeOver waiting =>
    cases hprocess
    rw [waiting] at hreserved
    cases hreserved
  | complete =>
    cases hprocess
    exact absurd (hsafe r hr hstate) howner
  | release =>
    cases hprocess
    exact absurd (hsafe r hr hstate) howner
  | releaseAborted waiting => exact absurd waiting (h.attended _ _ _)
  | evict waiting =>
    cases hprocess
    rw [waiting] at hreserved
    cases hreserved
  | tick => cases hprocess
  | purge => cases hprocess

/-- A handler that a safe step starts comes after every stored response. -/
theorem startsExpired {request : P → IdempotentRequest} {a : IdemAct P} (h : IdemInv cfg s)
    (hsafe : IdemSafe cfg s a) (hstep : idemStep cfg request s a = some t) : StartsExpired s t := by
  intro p hidle hstarted
  have hcalm : ¬ Calm s t := by
    intro hcalm
    obtain ⟨a, ha⟩ := Option.isSome_iff_exists.mp hstarted
    have hsame := running_of_calm hcalm ha
    rw [hsame, hidle] at ha
    cases ha
  cases idemStep_move hstep with
  | abort => exact hsafe.elim
  | create fresh => exact (h.startable_of_none fresh).expired
  | takeOver _ found state => exact (h.startable_of_stale found state (hsafe _ found state)).expired
  | releaseAborted waiting => exact absurd waiting (h.attended _ _ _)
  | quiet _ _ _ pc => exact absurd pc hcalm
  | complete _ _ _ _ pc => exact absurd pc hcalm
  | release _ _ _ _ pc => exact absurd pc hcalm
  | evict _ _ _ _ pc => exact absurd pc hcalm
  | tick _ _ _ pc => exact absurd pc hcalm
  | purge _ _ _ _ _ pc => exact absurd pc hcalm

end IdemInv

end Invariant

/-! ## Along a run -/

/-- **Idempotent execution.**  In every state that safe steps lead to, handlers exclude each
other, and a safe step neither harms a newer reservation nor starts a handler before every
stored response has expired. -/
theorem idempotent_along_runs {P : Type} [DecidableEq P] {cfg : IdempotencyConfig}
    {request : P → IdempotentRequest} {s t : IdemSystem P} (hcfg : cfg.inFlightTtl ≤ cfg.ttl)
    (h0 : IdemStart s) (hrun : Reach (idemStep cfg request) (IdemSafe cfg) s t) :
    Exclusive cfg t ∧ ∀ a u, IdemSafe cfg t a → idemStep cfg request t a = some u →
      KeepsNewer t a u ∧ StartsExpired t u := by
  have h : IdemInv cfg t := hrun.invariant (IdemInv.start h0) fun ht hsafe hstep =>
    ht.step hcfg hsafe hstep
  exact ⟨h.exclusive, fun a u hsafe hstep => ⟨h.keepsNewer hsafe hstep, h.startsExpired hsafe hstep⟩⟩

/-! ## Runs of the default configuration -/

instance {P : Type} [DecidableEq P] (cfg : IdempotencyConfig) (s : IdemSystem P) :
    (a : IdemAct P) → Decidable (IdemSafe cfg s a)
  | .abort _ => inferInstanceAs (Decidable False)
  | .takeOver _ => inferInstanceAs (Decidable (∀ r ∈ s.record, r.state = .inProgress →
      r.createdAt + cfg.inFlightTtl ≤ s.now))
  | .complete p | .release p =>
      inferInstanceAs (Decidable (∀ r ∈ s.record, r.state = .inProgress → r.owner = some p))
  | .evict _ => inferInstanceAs (Decidable (∀ r ∈ s.record, cfg.mismatch r.schemaVersion = true))
  | .arrive _ | .readCache _ _ | .findRecord _ | .create _ | .respond _ _ | .unflushed _
  | .handlerEnds _ | .cacheResponse _ _ | .crash _ | .tick _ | .purge | .dropCache =>
      inferInstanceAs (Decidable True)

/-- The same request, sent over and over. -/
def samePayment : Nat → IdempotentRequest := fun _ => ⟨"/api/payments", "f1"⟩

/-- No record yet, and in Redis what an earlier version may have left. -/
def unseenKey (cache : Option CachedEntry) : IdemSystem Nat where
  now := 0
  record := none
  cache := cache
  pc := fun _ => .idle
  stored := []

theorem unseenKey_start (cache : Option CachedEntry) : IdemStart (unseenKey cache) where
  idle _ := rfl
  unversioned r hr := by cases hr
  stored := rfl

/-- A request reserves a key no one has seen. -/
def reserves (p : Nat) : List (IdemAct Nat) :=
  [.arrive p, .readCache p true, .findRecord p, .create p]

/-- The response of a payment that went through. -/
def created : IdempotentResponse := ⟨201, "payment"⟩

/-- The first request dies, the second takes its reservation over and is answered. -/
def takeoverRun : List (IdemAct Nat) :=
  reserves 0 ++ [.crash 0, .tick 30000] ++ reserves 1 ++
    [.readCache 1 true, .findRecord 1, .takeOver 1, .respond 1 created, .complete 1]

theorem idempotent_along_runs_takeover :
    ∃ t, Reach (idemStep .default samePayment) (IdemSafe .default) (unseenKey none) t ∧
      t.stored = [86430000] ∧ Exclusive .default t := by
  have hrun := Reach.getOk (show (execOk (idemStep .default samePayment) (IdemSafe .default)
    (unseenKey none) takeoverRun).isSome = true by decide +kernel)
  have hcfg : IdempotencyConfig.default.inFlightTtl ≤ IdempotencyConfig.default.ttl := by decide
  exact ⟨_, hrun, by decide +kernel, (idempotent_along_runs hcfg (unseenKey_start none) hrun).1⟩

/-- A response that version `0.9.0` left in Redis. -/
def olderEntry : CachedEntry where
  scope := "/api/payments"
  state := some .completed
  requestFingerprint := some "f1"
  response := some created
  schemaVersion := some "0.9.0"
  createdAt := none

/-- Each of the three fails.  A client leaves, and its retry runs beside the handler it left.
A request that was taken over fails, and deletes the reservation of the one that took over.
And an old entry in Redis makes a request delete the response another one has just stored. -/
theorem unowned_filters_run_twice :
    (¬ ∀ s t, IdemStart s → Reach (idemStep .default samePayment) Free s t → Exclusive .default t) ∧
    (¬ ∀ s t a u, IdemStart s → Reach (idemStep .default samePayment) Free s t →
      idemStep .default samePayment t a = some u → KeepsNewer t a u) ∧
    ¬ ∀ s t a u, IdemStart s → Reach (idemStep .default samePayment) Free s t →
      idemStep .default samePayment t a = some u → StartsExpired t u := by
  refine ⟨fun h => ?_, fun h => ?_, fun h => ?_⟩
  · have hrun := reach_get (show (exec (idemStep .default samePayment) (unseenKey none)
      (reserves 0 ++ [.abort 0, .release 0] ++ reserves 1)).isSome = true by decide +kernel)
    have htwo := h _ _ (unseenKey_start none) hrun 0 1 0 0 (by decide) (by decide +kernel)
      (by decide +kernel)
    revert htwo
    decide
  · have hrun := reach_get (show (exec (idemStep .default samePayment) (unseenKey none)
      (reserves 0 ++ [.tick 30000] ++ reserves 1 ++
        [.readCache 1 true, .findRecord 1, .takeOver 1, .respond 0 ⟨503, "unavailable"⟩])).isSome =
          true by decide +kernel)
    have hkept := h _ _ (.release 0) _ (unseenKey_start none) hrun rfl 0
      (reservation (samePayment 1) 30000 1) rfl (by decide +kernel) (by decide +kernel) rfl (by decide)
    revert hkept
    decide +kernel
  · have hrun := reach_get (show (exec (idemStep .default samePayment) (unseenKey (some olderEntry))
      [.arrive 0, .readCache 0 true, .evict 0, .create 0, .arrive 1, .readCache 1 true,
        .respond 0 created, .complete 0, .evict 1]).isSome = true by decide +kernel)
    have hexpired := h _ _ (.create 1) _ (unseenKey_start (some olderEntry)) hrun rfl 1
      (by decide +kernel) (by decide +kernel) 86400000 (by decide +kernel)
    revert hexpired
    decide +kernel

end StellarEduPay

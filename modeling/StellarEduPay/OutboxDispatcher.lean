import Mathlib.Data.List.MinMax
import StellarEduPay.Collection
import StellarEduPay.Runs

/-! # The outbox dispatcher

Any number of dispatchers, in one process or in several, claim outbox events, call
the listeners that have not had them, and write the outcome.  Each update of the
store is one step.  A dispatcher works from the document its claim returned and
addresses every later update by `_id` alone, so its last write may land after its
lease ran out and somebody else claimed the event; the number of claims an event has
had, which the store does not keep, tells the two apart here.
-/
namespace StellarEduPay
open Runs Function

/-! ## Documents and listeners -/

inductive OutboxStatus
  | pending
  | processing
  | completed
  | deadLetter
  deriving DecidableEq, Repr

def OutboxStatus.terminal : OutboxStatus → Bool
  | .completed | .deadLetter => true
  | .pending | .processing => false

/-- An outbox document, without the payload the listeners read. -/
structure OutboxDoc where
  id : String
  eventType : String
  status : OutboxStatus := .pending
  lockedUntil : Nat := 0
  lockedBy : Option String := none
  deliveredTo : List String := []
  nextAttemptAt : Nat
  retryCount : Nat := 0
  lastError : Option String := none
  processedAt : Option Nat := none
  deadLetteredAt : Option Nat := none
  deadLetterReason : Option String := none
  createdAt : Nat
  deriving DecidableEq, Repr

abbrev Outbox := Collection OutboxDoc String OutboxDoc.id

/-- A registered function and its `name`, which is empty for an anonymous one. -/
structure Listener where
  fn : Nat
  name : String
  deriving DecidableEq, Repr

/-- The identities delivery is tracked by: the name, or else the position. -/
def listenerNames (listeners : List Listener) : List String :=
  listeners.zipIdx.map fun (listener, idx) =>
    if listener.name = "" then "listener_" ++ toString idx else listener.name

/-- The constants of the module, and what `startOutboxDispatcher` was given. -/
structure OutboxConfig where
  leaseDurationMs : Nat := 30000
  baseBackoffMs : Nat := 1000
  maxBackoffMs : Nat := 600000
  maxRetries : Nat := 10
  instanceId : Nat → String

/-- The defaults, on replicas that have each their own `INSTANCE_ID`. -/
def replicas : OutboxConfig := { instanceId := fun pid => "host-" ++ toString pid }

namespace OutboxConfig
variable (cfg : OutboxConfig)

def nextAttemptDate (now retryCount : Nat) : Nat :=
  now + min (cfg.baseBackoffMs * 2 ^ retryCount) cfg.maxBackoffMs

end OutboxConfig

/-! ## Recovery and claims -/

/-- `recoverStaleLeases`, on one document. -/
def recoverStaleLease (now : Nat) (doc : OutboxDoc) : OutboxDoc :=
  if doc.status = .processing ∧ doc.lockedUntil < now then
    { doc with status := .pending, lockedUntil := 0, lockedBy := none }
  else doc

theorem recoverStaleLease_id (now : Nat) (doc : OutboxDoc) :
    (recoverStaleLease now doc).id = doc.id := by
  unfold recoverStaleLease
  split <;> rfl

def claimable (now : Nat) (doc : OutboxDoc) : Bool :=
  doc.status = .pending ∧ doc.nextAttemptAt ≤ now ∧ doc.lockedUntil < now

def claimed (cfg : OutboxConfig) (pid now : Nat) (doc : OutboxDoc) : OutboxDoc :=
  { doc with
    status := .processing
    lockedUntil := now + cfg.leaseDurationMs
    lockedBy := some (cfg.instanceId pid) }

theorem claimed_id (cfg : OutboxConfig) (pid now : Nat) (doc : OutboxDoc) :
    (claimed cfg pid now doc).id = doc.id := rfl

/-- The oldest eligible event. -/
def nextEvent (now : Nat) (events : Outbox) : Option OutboxDoc :=
  (events.docs.filter (claimable now)).argmin (·.createdAt)

theorem nextEvent_some {now : Nat} {events : Outbox} {doc : OutboxDoc}
    (h : nextEvent now events = some doc) : doc ∈ events.docs ∧ doc.status = .pending := by
  have hmem := List.argmin_mem (Option.mem_def.mpr h)
  rw [List.mem_filter] at hmem
  have hclaim : doc.status = .pending ∧ doc.nextAttemptAt ≤ now ∧ doc.lockedUntil < now := by
    simpa [claimable] using hmem.2
  exact ⟨hmem.1, hclaim.1⟩

/-! ## Dispatching one event -/

/-- Where a dispatcher stands with the first of its pending listeners. -/
inductive DeliveryPhase
  | calling
  | awaiting
  | recording
  deriving DecidableEq, Repr

/-- The local variables of `dispatchEvent`.  `claim` counts the claims of the event up to
the one this dispatch works under. -/
structure Dispatch where
  event : OutboxDoc
  claim : Nat
  allListeners : List Listener
  pendingListeners : List (Listener × String)
  phase : DeliveryPhase
  failedListeners : List String
  lastError : Option String
  deriving DecidableEq, Repr

/-- The start of `dispatchEvent`: the listeners whose identity is not in `deliveredTo`. -/
def dispatch (event : OutboxDoc) (claim : Nat) (allListeners : List Listener) : Dispatch where
  event := event
  claim := claim
  allListeners := allListeners
  pendingListeners :=
    (allListeners.zip (listenerNames allListeners)).filter fun p => !event.deliveredTo.contains p.2
  phase := .calling
  failedListeners := []
  lastError := none

/-- The last update of `dispatchEvent`, applied to the stored document. -/
def finalUpdate (cfg : OutboxConfig) (now : Nat) (d : Dispatch) (doc : OutboxDoc) : OutboxDoc :=
  if d.allListeners = [] then
    { doc with
      status := .deadLetter
      deadLetteredAt := some now
      deadLetterReason := some ("No listeners registered for event type: " ++ d.event.eventType)
      lockedUntil := 0
      lockedBy := none }
  else if d.failedListeners = [] then
    { doc with status := .completed, processedAt := some now, lockedUntil := 0, lockedBy := none }
  else
    let newRetryCount := d.event.retryCount + 1
    if newRetryCount ≥ cfg.maxRetries then
      { doc with
        status := .deadLetter
        deadLetteredAt := some now
        deadLetterReason := some ("Exhausted " ++ toString cfg.maxRetries ++
          " retries. Last error: " ++ d.lastError.getD "null")
        retryCount := newRetryCount
        lastError := d.lastError
        lockedUntil := 0
        lockedBy := none }
    else
      { doc with
        status := .pending
        nextAttemptAt := cfg.nextAttemptDate now newRetryCount
        retryCount := newRetryCount
        lastError := d.lastError
        lockedUntil := 0
        lockedBy := none }

/-- The three outcomes of the last update: the event is out of listeners or out of retries,
it is complete, or it is rescheduled. -/
theorem finalUpdate_cases (cfg : OutboxConfig) (now : Nat) (d : Dispatch) (doc : OutboxDoc) :
    (d.allListeners = [] ∧ (finalUpdate cfg now d doc).status = .deadLetter ∧
        (finalUpdate cfg now d doc).retryCount = doc.retryCount) ∨
      (d.allListeners ≠ [] ∧ d.failedListeners = [] ∧
        (finalUpdate cfg now d doc).status = .completed ∧
        (finalUpdate cfg now d doc).retryCount = doc.retryCount) ∨
      (d.failedListeners ≠ [] ∧
        (finalUpdate cfg now d doc).retryCount = d.event.retryCount + 1 ∧
        ((finalUpdate cfg now d doc).status = .deadLetter ∧
            cfg.maxRetries ≤ d.event.retryCount + 1 ∨
          (finalUpdate cfg now d doc).status = .pending ∧
            d.event.retryCount + 1 < cfg.maxRetries)) := by
  by_cases hall : d.allListeners = []
  · exact Or.inl ⟨hall, by simp [finalUpdate, hall], by simp [finalUpdate, hall]⟩
  by_cases hfail : d.failedListeners = []
  · exact Or.inr (Or.inl ⟨hall, hfail, by simp [finalUpdate, hall, hfail],
      by simp [finalUpdate, hall, hfail]⟩)
  refine Or.inr (Or.inr ⟨hfail, ?_⟩)
  by_cases hmax : d.event.retryCount + 1 ≥ cfg.maxRetries
  · refine ⟨?_, Or.inl ⟨?_, hmax⟩⟩
    · simp [finalUpdate, hall, hfail, hmax]
    · simp [finalUpdate, hall, hfail, hmax]
  · refine ⟨?_, Or.inr ⟨?_, by omega⟩⟩
    · simp [finalUpdate, hall, hfail, hmax]
    · simp [finalUpdate, hall, hfail, hmax]

/-- The last update keeps what identifies the event and whom it was delivered to. -/
theorem finalUpdate_kept (cfg : OutboxConfig) (now : Nat) (d : Dispatch) (doc : OutboxDoc) :
    (finalUpdate cfg now d doc).id = doc.id ∧
      (finalUpdate cfg now d doc).deliveredTo = doc.deliveredTo := by
  unfold finalUpdate
  split
  · exact ⟨rfl, rfl⟩
  split
  · exact ⟨rfl, rfl⟩
  dsimp only
  split
  · exact ⟨rfl, rfl⟩
  · exact ⟨rfl, rfl⟩

theorem finalUpdate_id (cfg : OutboxConfig) (now : Nat) (d : Dispatch) (doc : OutboxDoc) :
    (finalUpdate cfg now d doc).id = doc.id :=
  (finalUpdate_kept cfg now d doc).1

theorem finalUpdate_eventType (cfg : OutboxConfig) (now : Nat) (d : Dispatch) (doc : OutboxDoc) :
    (finalUpdate cfg now d doc).eventType = doc.eventType := by
  unfold finalUpdate
  split
  · rfl
  split
  · rfl
  dsimp only
  split <;> rfl

/-- `$addToSet` -/
def addToSet (names : List String) (name : String) : List String :=
  if name ∈ names then names else names ++ [name]

def recordDelivery (name : String) (doc : OutboxDoc) : OutboxDoc :=
  { doc with deliveredTo := addToSet doc.deliveredTo name }

theorem recordDelivery_id (name : String) (doc : OutboxDoc) :
    (recordDelivery name doc).id = doc.id := rfl

/-! ## The system -/

/-- What happens to listeners: a call, or its success. -/
inductive Delivery
  | invoked (id : String) (fn : Nat)
  | succeeded (id : String) (fn : Nat)
  deriving DecidableEq, Repr

/-- The store, what each process has registered by event type, the dispatch each dispatcher
is in, how often each event was claimed, and the calls so far, most recent first. -/
structure OutboxSystem where
  clock : Nat
  events : Outbox
  registry : Nat → String → List Listener
  dispatcher : Nat → Option Dispatch
  claims : String → Nat
  log : List Delivery

inductive OutboxAction
  | tick (ms : Nat)
  | publish (id eventType : String)
  | recover (id : String) (now : Nat)
  | claim (pid now : Nat)
  | invoke (pid : Nat)
  | settle (pid : Nat) (error : Option String)
  | record (pid : Nat)
  | finish (pid : Nat)
  | restart (pid : Nat) (registry : String → List Listener)

def OutboxSystem.start (registry : Nat → String → List Listener) : OutboxSystem where
  clock := 0
  events := .empty
  registry := registry
  dispatcher := fun _ => none
  claims := fun _ => 0
  log := []

/-- One step of the store, of a dispatcher or of a listener. -/
def outboxStep (cfg : OutboxConfig) (s : OutboxSystem) : OutboxAction → Option OutboxSystem
  | .tick ms => some { s with clock := s.clock + ms }
  | .publish id eventType =>
    (s.events.insert { id, eventType, nextAttemptAt := s.clock, createdAt := s.clock }).map
      fun events => { s with events := events }
  | .recover id now =>
    if now ≤ s.clock then
      some { s with
        events := s.events.modify id (recoverStaleLease now) (recoverStaleLease_id now) }
    else none
  | .claim pid now =>
    if s.dispatcher pid = none ∧ now ≤ s.clock then
      (nextEvent now s.events).map fun doc =>
        let claim := s.claims doc.id + 1
        let event := claimed cfg pid now doc
        { s with
          events := s.events.modify doc.id (claimed cfg pid now) (claimed_id cfg pid now)
          claims := update s.claims doc.id claim
          dispatcher := update s.dispatcher pid
            (some (dispatch event claim (s.registry pid event.eventType))) }
    else none
  | .invoke pid =>
    match s.dispatcher pid with
    | some d =>
      match d.phase, d.pendingListeners with
      | .calling, (listener, _) :: _ => some { s with
          dispatcher := update s.dispatcher pid (some { d with phase := .awaiting })
          log := .invoked d.event.id listener.fn :: s.log }
      | _, _ => none
    | none => none
  | .settle pid error =>
    match s.dispatcher pid with
    | some d =>
      match d.phase, d.pendingListeners, error with
      | .awaiting, (listener, _) :: _, none => some { s with
          dispatcher := update s.dispatcher pid (some { d with phase := .recording })
          log := .succeeded d.event.id listener.fn :: s.log }
      | .awaiting, (_, name) :: rest, some err => some { s with
          dispatcher := update s.dispatcher pid (some { d with
            phase := .calling
            pendingListeners := rest
            failedListeners := d.failedListeners ++ [name]
            lastError := some err }) }
      | _, _, _ => none
    | none => none
  | .record pid =>
    match s.dispatcher pid with
    | some d =>
      match d.phase, d.pendingListeners with
      | .recording, (_, name) :: rest => some { s with
          events := s.events.modify d.event.id (recordDelivery name) (recordDelivery_id name)
          dispatcher := update s.dispatcher pid (some { d with
            phase := .calling
            pendingListeners := rest }) }
      | _, _ => none
    | none => none
  | .finish pid =>
    match s.dispatcher pid with
    | some d =>
      if d.phase = .calling ∧ d.pendingListeners = [] then
        some { s with
          events := s.events.modify d.event.id (finalUpdate cfg s.clock d)
            (finalUpdate_id cfg s.clock d)
          dispatcher := update s.dispatcher pid none }
      else none
    | none => none
  | .restart pid registry => some { s with
      registry := update s.registry pid registry
      dispatcher := update s.dispatcher pid none }

/-! ## What each step did -/

section Inversion
variable {cfg : OutboxConfig} {s t : OutboxSystem} {pid now : Nat} {id eventType : String}

theorem publish_inv (h : outboxStep cfg s (.publish id eventType) = some t) :
    ∃ events, s.events.insert
        { id, eventType, nextAttemptAt := s.clock, createdAt := s.clock } = some events ∧
      t = { s with events := events } := by
  obtain ⟨events, hins, rfl⟩ := Option.map_eq_some_iff.mp h
  exact ⟨events, hins, rfl⟩

theorem recover_inv (h : outboxStep cfg s (.recover id now) = some t) :
    t = { s with events := s.events.modify id (recoverStaleLease now) (recoverStaleLease_id now) } := by
  simp only [outboxStep] at h
  split at h
  · exact (Option.some.inj h).symm
  · cases h

theorem claim_inv (h : outboxStep cfg s (.claim pid now) = some t) :
    s.dispatcher pid = none ∧ ∃ doc ∈ s.events.docs, doc.status = .pending ∧
      t = { s with
        events := s.events.modify doc.id (claimed cfg pid now) (claimed_id cfg pid now)
        claims := update s.claims doc.id (s.claims doc.id + 1)
        dispatcher := update s.dispatcher pid (some (dispatch (claimed cfg pid now doc)
          (s.claims doc.id + 1) (s.registry pid doc.eventType))) } := by
  simp only [outboxStep] at h
  split at h
  · rename_i hidle
    obtain ⟨doc, hnext, rfl⟩ := Option.map_eq_some_iff.mp h
    obtain ⟨hmem, hpending⟩ := nextEvent_some hnext
    exact ⟨hidle.1, doc, hmem, hpending, rfl⟩
  · cases h

theorem invoke_inv (h : outboxStep cfg s (.invoke pid) = some t) :
    ∃ d listener name rest, s.dispatcher pid = some d ∧ d.phase = .calling ∧
      d.pendingListeners = (listener, name) :: rest ∧
      t = { s with
        dispatcher := update s.dispatcher pid (some { d with phase := .awaiting })
        log := .invoked d.event.id listener.fn :: s.log } := by
  simp only [outboxStep] at h
  split at h
  · rename_i d hd
    split at h
    · rename_i listener name rest hphase hpend
      exact ⟨d, listener, name, rest, hd, hphase, hpend, (Option.some.inj h).symm⟩
    · cases h
  · cases h

theorem settle_inv {error : Option String} (h : outboxStep cfg s (.settle pid error) = some t) :
    ∃ d listener name rest, s.dispatcher pid = some d ∧ d.phase = .awaiting ∧
      d.pendingListeners = (listener, name) :: rest ∧
      (t = { s with
          dispatcher := update s.dispatcher pid (some { d with phase := .recording })
          log := .succeeded d.event.id listener.fn :: s.log } ∨
        ∃ err, t = { s with
          dispatcher := update s.dispatcher pid (some { d with
            phase := .calling
            pendingListeners := rest
            failedListeners := d.failedListeners ++ [name]
            lastError := some err }) }) := by
  simp only [outboxStep] at h
  split at h
  · rename_i d hd
    split at h
    · rename_i listener name rest hphase hpend
      exact ⟨d, listener, name, rest, hd, hphase, hpend, Or.inl (Option.some.inj h).symm⟩
    · rename_i listener name rest err hphase hpend
      exact ⟨d, listener, name, rest, hd, hphase, hpend, Or.inr ⟨err, (Option.some.inj h).symm⟩⟩
    · cases h
  · cases h

theorem record_inv (h : outboxStep cfg s (.record pid) = some t) :
    ∃ d listener name rest, s.dispatcher pid = some d ∧ d.phase = .recording ∧
      d.pendingListeners = (listener, name) :: rest ∧
      t = { s with
        events := s.events.modify d.event.id (recordDelivery name) (recordDelivery_id name)
        dispatcher := update s.dispatcher pid (some { d with
          phase := .calling
          pendingListeners := rest }) } := by
  simp only [outboxStep] at h
  split at h
  · rename_i d hd
    split at h
    · rename_i listener name rest hphase hpend
      exact ⟨d, listener, name, rest, hd, hphase, hpend, (Option.some.inj h).symm⟩
    · cases h
  · cases h

theorem finish_inv (h : outboxStep cfg s (.finish pid) = some t) :
    ∃ d, s.dispatcher pid = some d ∧ d.phase = .calling ∧ d.pendingListeners = [] ∧
      t = { s with
        events := s.events.modify d.event.id (finalUpdate cfg s.clock d)
          (finalUpdate_id cfg s.clock d)
        dispatcher := update s.dispatcher pid none } := by
  simp only [outboxStep] at h
  split at h
  · rename_i d hd
    split at h
    · rename_i hdone
      exact ⟨d, hd, hdone.1, hdone.2, (Option.some.inj h).symm⟩
    · cases h
  · cases h

end Inversion

end StellarEduPay

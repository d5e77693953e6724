import Mathlib.Logic.Function.Basic
import StellarEduPay.Runs

/-! # Idempotent requests (`middleware/idempotency.js`, `services/idempotencyStore.js`)

Any number of requests carry one canonical key.  Each is a process that looks the key up,
reserves it, runs the handler and settles the reservation, one store operation at a time and
interleaved in any way.  The store is one document of MongoDB, which the unique index on the
key keeps single, behind a Redis entry that is written after it and may be lost or out of
reach at any time.  The environment advances the clock, lets processes die and clients leave,
and purges the document when its TTL is over.

What a process computes between two store operations belongs to the first of them.  Errors of
MongoDB are left out.  The owner of a record and the expiry of every stored response are
ghosts: no step reads them.
-/
namespace StellarEduPay
open Function

/-! ## Records -/

/-- The settings of the store.  Times are in milliseconds. -/
structure IdempotencyConfig where
  /-- `APP_SCHEMA_VERSION` -/
  appSchemaVersion : String
  /-- `IN_FLIGHT_TTL_MS` -/
  inFlightTtl : Nat
  /-- `TTL_SECONDS` -/
  ttl : Nat
  deriving DecidableEq, Repr

/-- The defaults, at the version of `package.json`. -/
def IdempotencyConfig.default : IdempotencyConfig where
  appSchemaVersion := "1.0.0"
  inFlightTtl := 30000
  ttl := 86400000

inductive IdempotencyState
  | inProgress
  | completed
  deriving DecidableEq, Repr

structure IdempotentResponse where
  status : Nat
  body : String
  deriving DecidableEq, Repr

/-- `idempotencyKeyModel` without the key, and the process that wrote it last. -/
structure IdempotencyRecord (P : Type) where
  scope : String
  state : IdempotencyState
  requestFingerprint : Option String
  response : Option IdempotentResponse
  schemaVersion : Option String
  createdAt : Nat
  owner : Option P
  deriving DecidableEq, Repr

/-- A Redis entry.  One that `get` wrote has no state. -/
structure CachedEntry where
  scope : String
  state : Option IdempotencyState
  requestFingerprint : Option String
  response : Option IdempotentResponse
  schemaVersion : Option String
  createdAt : Option Nat
  deriving DecidableEq, Repr

/-- What `getFull` returns. -/
structure FullRecord where
  scope : String
  state : IdempotencyState
  requestFingerprint : Option String
  response : Option IdempotentResponse
  createdAt : Nat
  deriving DecidableEq, Repr

/-- The scope and the fingerprint of a request. -/
structure IdempotentRequest where
  scope : String
  fingerprint : String
  deriving DecidableEq, Repr

/-- `schemaVersion && schemaVersion !== APP_SCHEMA_VERSION` -/
def IdempotencyConfig.mismatch (cfg : IdempotencyConfig) (schemaVersion : Option String) : Bool :=
  schemaVersion.any fun version => version ≠ "" && version ≠ cfg.appSchemaVersion

/-- What a look into one of the two stores leads to. -/
inductive Lookup
  | absent
  /-- An entry of another schema version: the document is to be deleted. -/
  | evict
  | found (record : FullRecord)

/-- The look into Redis, which counts for a completed entry only. -/
def cacheLookup (cfg : IdempotencyConfig) (now : Nat) : Option CachedEntry → Lookup
  | none => .absent
  | some cached =>
    if cached.state = some .completed then
      if cfg.mismatch cached.schemaVersion then .evict
      else .found {
        scope := cached.scope
        state := .completed
        requestFingerprint := cached.requestFingerprint
        response := cached.response
        createdAt := cached.createdAt.getD now }
    else .absent

/-- The look into MongoDB. -/
def storeLookup {P : Type} (cfg : IdempotencyConfig) : Option (IdempotencyRecord P) → Lookup
  | none => .absent
  | some record =>
    if cfg.mismatch record.schemaVersion then .evict
    else .found {
      scope := record.scope
      state := record.state
      requestFingerprint := record.requestFingerprint
      response := record.response
      createdAt := record.createdAt }

/-! ## Processes -/

/-- Who called `getFull`: the middleware, `reserve` after a duplicate key, or `reserve` for
the record it lost to. -/
inductive FullCall
  | arrive
  | inspect
  | concede
  deriving DecidableEq, Repr

/-- How a request that does not run the handler is answered; `silent` is not at all. -/
inductive IdempotentAnswer
  | replay (response : Option IdempotentResponse)
  | keyReuse
  | inProgress
  | silent
  deriving DecidableEq, Repr

/-- Where a request is.  `creating again` is before the insert, the second one if `again`;
`aborted since released` is a handler that runs on although its client has left. -/
inductive IdemPc
  | idle
  | looking (call : FullCall)
  | finding (call : FullCall)
  | evicting (call : FullCall)
  | creating (again : Bool)
  | takingOver
  | running (since : Nat)
  | aborted (since : Nat) (released : Bool)
  | completing (response : IdempotentResponse)
  | caching (response : IdempotentResponse)
  | releasing
  | answered (answer : IdempotentAnswer)
  | finished
  deriving DecidableEq, Repr

namespace IdemPc

/-- Since when the handler has been running. -/
def runningSince : IdemPc → Option Nat
  | running since => some since
  | aborted since _ => some since
  | _ => none

/-- The request has reserved the key. -/
def reserved : IdemPc → Bool
  | running _ | aborted _ _ | completing _ | caching _ | releasing => true
  | _ => false

end IdemPc

/-- `resolveExisting`. -/
def resolveExisting (fingerprint : String) : Option FullRecord → IdempotentAnswer
  | none => .silent
  | some record =>
    match record.state with
    | .completed =>
      if record.requestFingerprint.any fun stored => stored ≠ "" && stored ≠ fingerprint then .keyReuse
      else .replay record.response
    | .inProgress => .inProgress

/-- A reservation at least `IN_FLIGHT_TTL_MS` old. -/
def staleInFlight (cfg : IdempotencyConfig) (now : Nat) (record : FullRecord) : Bool :=
  record.state == .inProgress && decide (record.createdAt + cfg.inFlightTtl ≤ now)

/-- What follows the return of `getFull`. -/
def afterGetFull (cfg : IdempotencyConfig) (now : Nat) (fingerprint : String) :
    FullCall → Option FullRecord → IdemPc
  | .arrive, none => .creating false
  | .arrive, some record =>
    if staleInFlight cfg now record then .creating false
    else .answered (resolveExisting fingerprint (some record))
  | .inspect, none => .creating true
  | .inspect, some record =>
    if staleInFlight cfg now record then .takingOver
    else .answered (resolveExisting fingerprint (some record))
  | .concede, record => .answered (resolveExisting fingerprint record)

/-- `completeReservation`: a response below 500 other than 404 is stored, any other one gives
the key back. -/
def completeReservation (response : IdempotentResponse) : IdemPc :=
  if response.status < 500 ∧ response.status ≠ 404 then .completing response else .releasing

/-! ## The system -/

/-- The two stores, where each request is, and when each stored response expires. -/
structure IdemSystem (P : Type) where
  now : Nat
  record : Option (IdempotencyRecord P)
  cache : Option CachedEntry
  pc : P → IdemPc
  stored : List Nat

/-- A store operation of a request, or a move of the environment.  `reachable` says whether
Redis answers. -/
inductive IdemAct (P : Type)
  | arrive (p : P)
  | readCache (p : P) (reachable : Bool)
  | findRecord (p : P)
  | evict (p : P)
  | create (p : P)
  | takeOver (p : P)
  /-- The handler is over and its response flushed. -/
  | respond (p : P) (response : IdempotentResponse)
  /-- The handler is over, but the client left before its response was flushed. -/
  | unflushed (p : P)
  /-- The client leaves while the handler runs. -/
  | abort (p : P)
  | handlerEnds (p : P)
  | complete (p : P)
  | cacheResponse (p : P) (reachable : Bool)
  | release (p : P)
  | crash (p : P)
  | tick (ms : Nat)
  | purge
  | dropCache

section System
variable {P : Type} [DecidableEq P]

def IdemSystem.goto (s : IdemSystem P) (p : P) (pc : IdemPc) : IdemSystem P :=
  { s with pc := update s.pc p pc }

/-- The document `reserve` creates. -/
def reservation (request : IdempotentRequest) (now : Nat) (p : P) : IdempotencyRecord P where
  scope := request.scope
  state := .inProgress
  requestFingerprint := some request.fingerprint
  response := none
  schemaVersion := none
  createdAt := now
  owner := some p

/-- The document after a takeover. -/
def takenOver (record : IdempotencyRecord P) (request : IdempotentRequest) (now : Nat) (p : P) :
    IdempotencyRecord P :=
  { record with
    scope := request.scope
    requestFingerprint := some request.fingerprint
    createdAt := now
    owner := some p }

/-- The document after `complete`, which keeps the time of creation. -/
def completedRecord (cfg : IdempotencyConfig) (record : Option (IdempotencyRecord P))
    (request : IdempotentRequest) (response : IdempotentResponse) (now : Nat) (p : P) :
    IdempotencyRecord P where
  scope := request.scope
  state := .completed
  requestFingerprint := some request.fingerprint
  response := some response
  schemaVersion := some cfg.appSchemaVersion
  createdAt := (record.map IdempotencyRecord.createdAt).getD now
  owner := some p

/-- The entry `complete` puts into Redis. -/
def completedEntry (cfg : IdempotencyConfig) (request : IdempotentRequest)
    (response : IdempotentResponse) : CachedEntry where
  scope := request.scope
  state := some .completed
  requestFingerprint := some request.fingerprint
  response := some response
  schemaVersion := some cfg.appSchemaVersion
  createdAt := none

/-- `deleteOne({ key, state: 'in_progress' })` -/
def releaseRecord (record : Option (IdempotencyRecord P)) : Option (IdempotencyRecord P) :=
  record.filter fun r => r.state ≠ .inProgress

variable (cfg : IdempotencyConfig) (request : P → IdempotentRequest)

/-- `getFull` has returned. -/
def IdemSystem.returned (s : IdemSystem P) (p : P) (call : FullCall) (record : Option FullRecord) :
    IdemSystem P :=
  s.goto p (afterGetFull cfg s.now (request p).fingerprint call record)

def idemStep (s : IdemSystem P) : IdemAct P → Option (IdemSystem P)
  | .arrive p =>
      match s.pc p with
      | .idle => some (s.goto p (.looking .arrive))
      | _ => none
  | .readCache p reachable =>
      match s.pc p with
      | .looking call =>
        match cacheLookup cfg s.now (if reachable then s.cache else none) with
        | .absent => some (s.goto p (.finding call))
        | .evict => some (s.goto p (.evicting call))
        | .found record => some (s.returned cfg request p call (some record))
      | _ => none
  | .findRecord p =>
      match s.pc p with
      | .finding call =>
        match storeLookup cfg s.record with
        | .absent => some (s.returned cfg request p call none)
        | .evict => some (s.goto p (.evicting call))
        | .found record => some (s.returned cfg request p call (some record))
      | _ => none
  | .evict p =>
      match s.pc p with
      -- the delete names the key only
      | .evicting call => some ({ s with record := none }.returned cfg request p call none)
      | _ => none
  | .create p =>
      match s.pc p with
      | .creating again =>
        match s.record with
        | none => some ({ s with record := some (reservation (request p) s.now p) }.goto p
            (.running s.now))
        | some _ => some (s.goto p (.looking (if again then .concede else .inspect)))
      | _ => none
  | .takeOver p =>
      match s.pc p with
      | .takingOver =>
        match s.record.filter fun r => r.state == .inProgress with
        | none => some (s.goto p (.looking .concede))
        -- the update asks for the state, not for the age that was read
        | some record => some ({ s with record := some (takenOver record (request p) s.now p) }.goto p
            (.running s.now))
      | _ => none
  | .respond p response =>
      match s.pc p with
      | .running _ => some (s.goto p (completeReservation response))
      | _ => none
  | .unflushed p =>
      match s.pc p with
      | .running _ => some (s.goto p .releasing)
      | _ => none
  | .abort p =>
      match s.pc p with
      | .running since => some (s.goto p (.aborted since false))
      | _ => none
  | .handlerEnds p =>
      match s.pc p with
      | .aborted _ released => some (s.goto p (if released then .finished else .releasing))
      | _ => none
  | .complete p =>
      match s.pc p with
      | .completing response =>
        let record := completedRecord cfg s.record (request p) response s.now p
        some ({ s with
          record := some record
          stored := (record.createdAt + cfg.ttl) :: s.stored }.goto p (.caching response))
      | _ => none
  | .cacheResponse p reachable =>
      match s.pc p with
      | .caching response => some ({ s with
          cache := if reachable then some (completedEntry cfg (request p) response)
            else s.cache }.goto p .finished)
      | _ => none
  | .release p =>
      match s.pc p with
      | .releasing => some ({ s with record := releaseRecord s.record }.goto p .finished)
      | .aborted since false =>
        some ({ s with record := releaseRecord s.record }.goto p (.aborted since true))
      | _ => none
  | .crash p => some (s.goto p .finished)
  | .tick ms => some { s with now := s.now + ms }
  | .purge =>
      match s.record.filter fun r => decide (r.createdAt + cfg.ttl ≤ s.now) with
      | none => none
      | some _ => some { s with record := none }
  | .dropCache => some { s with cache := none }

end System

end StellarEduPay

import Mathlib.Algebra.GroupWithZero.Nat
import Mathlib.Data.List.AList
import Mathlib.Logic.Function.Basic
import StellarEduPay.Broker
import StellarEduPay.JsonText
import StellarEduPay.Runs

/-! # Server-sent events across replicas (`services/sseService.js`)

Every replica keeps a registry of the responses it streams to, school by school.  An emit is published
on the school's channel and comes back, through the replica's own subscription, to each replica that
has a client of the school; if the publish is reported failed, the emitting replica writes the event to
its own clients instead.

The replicas, what Redis does, and which writes throw are steps of one system.  An emit has a number,
and the system remembers what became of it: how often Redis carried its publish out, and whether the
emitting replica wrote the event itself.
-/
namespace StellarEduPay
open Broker JsonText Runs Function

/-! ## A replica -/

/-- `{ event, data }`, with the number of the emit. -/
structure SseMessage where
  id : Nat
  event : String
  data : Json

/-- What is written to a response. -/
inductive SseFrame
  | event (message : SseMessage)
  | degraded (reason : String)
  | recovered
  | ping
  | tooManyConnections
  | retry

/-- A response: what was written to it, whether `_sseHeartbeat` is set, the school its `close` handlers
were registered with, and whether it was ended. -/
structure SseResponse where
  written : List SseFrame
  heartbeat : Bool
  schoolId : Option String
  ended : Bool

/-- The registry of a replica, its publisher's health, and its subscriber. -/
structure SseReplica where
  clients : AList fun _ : String => List Nat
  publisherHealthy : Bool
  subscriber : Link String SseMessage
  response : Nat → SseResponse

def CHANNEL_PREFIX : String := "sse:"

/-- `sse:<schoolId>` -/
def sseChannel (schoolId : String) : String := CHANNEL_PREFIX ++ schoolId

/-- The school of a channel, if it is one of this service. -/
def sseSchool (channel : String) : Option String :=
  if CHANNEL_PREFIX.toList.isPrefixOf channel.toList then
    some (String.ofList (channel.toList.drop CHANNEL_PREFIX.length))
  else none

namespace SseReplica
variable (redisEnabled : Bool) (maxConnections : Int) (p : SseReplica)

/-- `getRedisStatus().connected` at the start, when Redis is used. -/
def new (connected : Bool) : SseReplica :=
  ⟨∅, !redisEnabled || connected, .new, fun _ => ⟨[], false, none, false⟩⟩

/-- The clients of a school. -/
def members (schoolId : String) : List Nat := (p.clients.lookup schoolId).getD []

def modify (res : Nat) (f : SseResponse → SseResponse) : SseReplica :=
  { p with response := update p.response res (f (p.response res)) }

/-- `res.write` -/
def write (res : Nat) (frame : SseFrame) : SseReplica :=
  p.modify res fun x => { x with written := x.written ++ [frame] }

/-- `clients.set(schoolId, set)` -/
def setClients (schoolId : String) (set : List Nat) : SseReplica :=
  { p with clients := p.clients.insert schoolId set }

/-- `clients.delete(schoolId)` -/
def deleteClients (schoolId : String) : SseReplica :=
  { p with clients := p.clients.erase schoolId }

/-- `res.end` -/
def endResponse (res : Nat) : SseReplica := p.modify res fun x => { x with ended := true }

def clearHeartbeat (res : Nat) : SseReplica := p.modify res fun x => { x with heartbeat := false }

/-- Write to each of a list of responses, apart from those that throw. -/
def writeEach (throws : List Nat) (frame : SseFrame) : List Nat → SseReplica → SseReplica
  | [], p => p
  | res :: rest, p => writeEach throws frame rest (if res ∈ throws then p else p.write res frame)

/-- `_broadcastSystemEvent` -/
def broadcastSystemEvent (throws : List Nat) (frame : SseFrame) : SseReplica :=
  writeEach throws frame (p.clients.entries.flatMap (·.2)) p

/-- `_onPublisherDown` -/
def onPublisherDown (throws : List Nat) (reason : String) : SseReplica :=
  if p.publisherHealthy then
    broadcastSystemEvent { p with publisherHealthy := false } throws (.degraded reason)
  else p

/-- `_onPublisherUp` -/
def onPublisherUp (throws : List Nat) : SseReplica :=
  if p.publisherHealthy then p
  else broadcastSystemEvent { p with publisherHealthy := true } throws .recovered

/-- `subscribeSchool` and `unsubscribeSchool`: nothing without a subscriber. -/
def command (command : Command String) : SseReplica :=
  if redisEnabled then { p with subscriber := p.subscriber.send command } else p

def subscribeSchool (schoolId : String) : SseReplica :=
  p.command redisEnabled (.subscribe (sseChannel schoolId))

def unsubscribeSchool (schoolId : String) : SseReplica :=
  p.command redisEnabled (.unsubscribe (sseChannel schoolId))

/-- `removeClient` -/
def removeClient (schoolId : String) (res : Nat) : SseReplica :=
  let p := p.clearHeartbeat res
  match p.clients.lookup schoolId with
  | none => p
  | some set =>
    let set := set.erase res
    if set.length = 0 then
      (p.deleteClients schoolId).unsubscribeSchool redisEnabled schoolId
    else p.setClients schoolId set

/-- `clients.get(schoolId)`, after it was set to an empty set, with a subscription, where it was
not there. -/
def openSchool (schoolId : String) : SseReplica :=
  match p.clients.lookup schoolId with
  | some _ => p
  | none => (p.setClients schoolId []).subscribeSchool redisEnabled schoolId

/-- A client that connects while Redis cannot be reached is told so. -/
def warnDegraded (throws : List Nat) (res : Nat) : SseReplica :=
  if redisEnabled && !p.publisherHealthy && !decide (res ∈ throws) then
    p.write res (.degraded "degraded at connect time")
  else p

/-- `addClient` -/
def addClient (throws : List Nat) (schoolId : String) (res : Nat) : Bool × SseReplica :=
  if (p.clients.lookup schoolId).any (maxConnections ≤ ·.length) then (false, p)
  else
    let p := p.openSchool redisEnabled schoolId
    let set := p.members schoolId
    let p := p.setClients schoolId (if res ∈ set then set else set ++ [res])
    let p := p.warnDegraded redisEnabled throws res
    (true, p.modify res fun x => { x with heartbeat := true, schoolId := some schoolId })

/-- `streamPaymentEvents`, the controller of a connection. -/
def streamPaymentEvents (throws : List Nat) (schoolId : String) (res : Nat) : SseReplica :=
  match p.addClient redisEnabled maxConnections throws schoolId res with
  | (true, p) => p
  | (false, p) => (p.write res .tooManyConnections).endResponse res

/-- Write an event to each response of a list, removing those that throw. -/
def fanoutTo (throws : List Nat) (schoolId : String) (message : SseMessage) :
    List Nat → SseReplica → SseReplica
  | [], p => p
  | res :: rest, p =>
    fanoutTo throws schoolId message rest
      (if res ∈ throws then p.removeClient redisEnabled schoolId res else p.write res (.event message))

/-- `fanout` -/
def fanout (throws : List Nat) (schoolId : String) (message : SseMessage) : SseReplica :=
  match p.clients.lookup schoolId with
  | none => p
  | some set => fanoutTo redisEnabled throws schoolId message set p

/-- `onSubscriberMessage`: other channels of the shared subscriber are passed over. -/
def onSubscriberMessage (throws : List Nat) (channel : String) (message : SseMessage) : SseReplica :=
  match sseSchool channel with
  | none => p
  | some schoolId => p.fanout redisEnabled throws schoolId message

/-- The heartbeat of a response: a write that throws removes it. -/
def heartbeat (throws : List Nat) (schoolId : String) (res : Nat) : SseReplica :=
  if res ∈ throws then p.removeClient redisEnabled schoolId res else p.write res .ping

/-- Tell a client to come back, and end its response. -/
def endClient (schoolId : String) (res : Nat) : SseReplica :=
  (((p.write res .retry).clearHeartbeat res).endResponse res).removeClient redisEnabled schoolId res

/-- Close each response of a list; one that throws is passed over and stays registered. -/
def closeEach (throws : List Nat) (schoolId : String) : List Nat → SseReplica → SseReplica
  | [], p => p
  | res :: rest, p =>
    closeEach throws schoolId rest (if res ∈ throws then p else p.endClient redisEnabled schoolId res)

def closeSchools (throws : List Nat) : List (Σ _ : String, List Nat) → SseReplica → SseReplica
  | [], p => p
  | ⟨schoolId, set⟩ :: rest, p =>
    closeSchools throws rest (closeEach redisEnabled throws schoolId set p)

/-- `closeAll` -/
def closeAll (throws : List Nat) : SseReplica :=
  closeSchools redisEnabled throws p.clients.entries p

/-- `getStats` -/
def getStats : Nat × Nat :=
  (p.clients.keys.length, (p.clients.entries.map fun entry => entry.2.length).sum)

end SseReplica

/-! ## The system -/

/-- A call of `emit`: by which replica, for which school, with what; whether its publish is under way,
how often Redis carried it out, and whether the replica wrote the event to its own clients. -/
structure SseEmit where
  replica : Nat
  schoolId : String
  message : SseMessage
  underWay : Bool
  carried : Nat
  fannedOut : Bool

/-- The replicas, the emits by number, and the number of the next. -/
structure SseSystem where
  replica : Nat → SseReplica
  emits : Nat → Option SseEmit
  next : Nat

/-- What can happen.  `throws` are the responses whose `write` throws in that step. -/
inductive SseAction
  | connect (r : Nat) (throws : List Nat) (schoolId : String) (res : Nat)
  | close (r res : Nat)
  | heartbeat (r : Nat) (throws : List Nat) (res : Nat)
  | emit (r : Nat) (throws : List Nat) (schoolId event : String) (data : Json)
    (correlationId : Option String)
  | carryOut (id : Nat)
  | resolve (id : Nat)
  | reject (id : Nat) (throws : List Nat) (reason : String)
  | publisherError (r : Nat) (throws : List Nat) (reason : String)
  | publisherReady (r : Nat) (throws : List Nat)
  | publisherEnd (r : Nat) (throws : List Nat)
  | commandCarriedOut (r : Nat)
  | commandRefused (r : Nat)
  | receive (r : Nat) (throws : List Nat)
  | lose (r : Nat)
  | closeAll (r : Nat) (throws : List Nat)

/-- `correlationId ? { ...data, correlationId } : data`, for data that is an object or spreads to nothing:
the callers pass objects, and the spread of an array or of a string is left out. -/
def enrichedData (data : Json) (correlationId : Option String) : Json :=
  match correlationId.filter (· ≠ "") with
  | none => data
  | some id =>
    let members := match data with
      | .object members => members
      | _ => []
    if members.any (·.1 = "correlationId") then
      .object (members.map fun m => if m.1 = "correlationId" then (m.1, .string id) else m)
    else .object (members ++ [("correlationId", .string id)])

namespace SseSystem
variable (redisEnabled : Bool) (maxConnections : Int) (s : SseSystem)

def init (connected : Nat → Bool) : SseSystem :=
  ⟨fun r => .new redisEnabled (connected r), fun _ => none, 0⟩

def setReplica (r : Nat) (p : SseReplica) : SseSystem :=
  { s with replica := update s.replica r p }

def setEmit (id : Nat) (e : SseEmit) : SseSystem := { s with emits := update s.emits id (some e) }

/-- A new emit takes the next number. -/
def record (e : SseEmit) : SseSystem :=
  { s with emits := update s.emits s.next (some e), next := s.next + 1 }

/-- `emit`: publish, or without Redis write to the clients here. -/
def emit (r : Nat) (throws : List Nat) (schoolId event : String) (data : Json)
    (correlationId : Option String) : SseSystem :=
  let message : SseMessage := ⟨s.next, event, enrichedData data correlationId⟩
  if redisEnabled then s.record ⟨r, schoolId, message, true, 0, false⟩
  else
    (s.record ⟨r, schoolId, message, false, 0, true⟩).setReplica r
      ((s.replica r).fanout redisEnabled throws schoolId message)

/-- Redis hands a message to every replica whose subscriber holds the channel. -/
def deliver (channel : String) (message : SseMessage) : SseSystem :=
  { s with
    replica := fun r =>
      { s.replica r with subscriber := (s.replica r).subscriber.deliver channel message } }

/-- One step.  A response is connected once; its `close` event may come at any time after; a publish
can be carried out more than once before its reply arrives, since a client resends what was not
answered. -/
def step : SseSystem → SseAction → Option SseSystem
  | s, .connect r throws schoolId res =>
    if ((s.replica r).response res).schoolId.isNone ∧ ((s.replica r).response res).written.isEmpty then
      some (s.setReplica r
        ((s.replica r).streamPaymentEvents redisEnabled maxConnections throws schoolId res))
    else none
  | s, .close r res =>
    ((s.replica r).response res).schoolId.map fun schoolId =>
      s.setReplica r ((s.replica r).removeClient redisEnabled schoolId res)
  | s, .heartbeat r throws res =>
    if ((s.replica r).response res).heartbeat then
      ((s.replica r).response res).schoolId.map fun schoolId =>
        s.setReplica r ((s.replica r).heartbeat redisEnabled throws schoolId res)
    else none
  | s, .emit r throws schoolId event data correlationId =>
    some (s.emit redisEnabled r throws schoolId event data correlationId)
  | s, .carryOut id => do
    let e ← s.emits id
    if e.underWay then
      some ((s.setEmit id { e with carried := e.carried + 1 }).deliver (sseChannel e.schoolId) e.message)
    else none
  | s, .resolve id => do
    let e ← s.emits id
    if e.underWay then some (s.setEmit id { e with underWay := false }) else none
  | s, .reject id throws reason => do
    let e ← s.emits id
    if e.underWay then
      some ((s.setEmit id { e with underWay := false, fannedOut := true }).setReplica e.replica
        (((s.replica e.replica).onPublisherDown throws reason).fanout redisEnabled throws e.schoolId
          e.message))
    else none
  | s, .publisherError r throws reason =>
    if redisEnabled then some (s.setReplica r ((s.replica r).onPublisherDown throws reason)) else none
  | s, .publisherReady r throws =>
    if redisEnabled then some (s.setReplica r ((s.replica r).onPublisherUp throws)) else none
  | s, .publisherEnd r throws =>
    if redisEnabled then
      some (s.setReplica r ((s.replica r).onPublisherDown throws "connection ended"))
    else none
  | s, .commandCarriedOut r =>
    (s.replica r).subscriber.carryOut.map fun link =>
      s.setReplica r { s.replica r with subscriber := link }
  | s, .commandRefused r =>
    (s.replica r).subscriber.refuse.map fun link =>
      s.setReplica r { s.replica r with subscriber := link }
  | s, .receive r throws =>
    (s.replica r).subscriber.receive.map fun (x, link) =>
      s.setReplica r
        (SseReplica.onSubscriberMessage redisEnabled { s.replica r with subscriber := link } throws
          x.1 x.2)
  | s, .lose r =>
    (s.replica r).subscriber.receive.map fun (_, link) =>
      s.setReplica r { s.replica r with subscriber := link }
  | s, .closeAll r throws => some (s.setReplica r ((s.replica r).closeAll redisEnabled throws))

/-- What a step can do. -/
inductive Takes (redisEnabled : Bool) (maxConnections : Int) (s : SseSystem) :
    SseAction → SseSystem → Prop
  | connect {r : Nat} {throws : List Nat} {schoolId : String} {res : Nat}
      (hnew : ((s.replica r).response res).schoolId = none)
      (hunwritten : ((s.replica r).response res).written = []) :
      Takes redisEnabled maxConnections s (.connect r throws schoolId res)
        (s.setReplica r
          ((s.replica r).streamPaymentEvents redisEnabled maxConnections throws schoolId res))
  | close {r res : Nat} {schoolId : String}
      (hschool : ((s.replica r).response res).schoolId = some schoolId) :
      Takes redisEnabled maxConnections s (.close r res)
        (s.setReplica r ((s.replica r).removeClient redisEnabled schoolId res))
  | heartbeat {r : Nat} {throws : List Nat} {res : Nat} {schoolId : String}
      (hrunning : ((s.replica r).response res).heartbeat = true)
      (hschool : ((s.replica r).response res).schoolId = some schoolId) :
      Takes redisEnabled maxConnections s (.heartbeat r throws res)
        (s.setReplica r ((s.replica r).heartbeat redisEnabled throws schoolId res))
  | emit {r : Nat} {throws : List Nat} {schoolId event : String} {data : Json}
      {correlationId : Option String} :
      Takes redisEnabled maxConnections s (.emit r throws schoolId event data correlationId)
        (s.emit redisEnabled r throws schoolId event data correlationId)
  | carryOut {id : Nat} {e : SseEmit} (he : s.emits id = some e) (hway : e.underWay = true) :
      Takes redisEnabled maxConnections s (.carryOut id)
        ((s.setEmit id { e with carried := e.carried + 1 }).deliver (sseChannel e.schoolId) e.message)
  | resolve {id : Nat} {e : SseEmit} (he : s.emits id = some e) (hway : e.underWay = true) :
      Takes redisEnabled maxConnections s (.resolve id) (s.setEmit id { e with underWay := false })
  | reject {id : Nat} {throws : List Nat} {reason : String} {e : SseEmit}
      (he : s.emits id = some e) (hway : e.underWay = true) :
      Takes redisEnabled maxConnections s (.reject id throws reason)
        ((s.setEmit id { e with underWay := false, fannedOut := true }).setReplica e.replica
          (((s.replica e.replica).onPublisherDown throws reason).fanout redisEnabled throws e.schoolId
            e.message))
  | publisherError {r : Nat} {throws : List Nat} {reason : String} (hredis : redisEnabled = true) :
      Takes redisEnabled maxConnections s (.publisherError r throws reason)
        (s.setReplica r ((s.replica r).onPublisherDown throws reason))
  | publisherReady {r : Nat} {throws : List Nat} (hredis : redisEnabled = true) :
      Takes redisEnabled maxConnections s (.publisherReady r throws)
        (s.setReplica r ((s.replica r).onPublisherUp throws))
  | publisherEnd {r : Nat} {throws : List Nat} (hredis : redisEnabled = true) :
      Takes redisEnabled maxConnections s (.publisherEnd r throws)
        (s.setReplica r ((s.replica r).onPublisherDown throws "connection ended"))
  | commandCarriedOut {r : Nat} {link : Link String SseMessage}
      (hlink : (s.replica r).subscriber.carryOut = some link) :
      Takes redisEnabled maxConnections s (.commandCarriedOut r)
        (s.setReplica r { s.replica r with subscriber := link })
  | commandRefused {r : Nat} {link : Link String SseMessage}
      (hlink : (s.replica r).subscriber.refuse = some link) :
      Takes redisEnabled maxConnections s (.commandRefused r)
        (s.setReplica r { s.replica r with subscriber := link })
  | receive {r : Nat} {throws : List Nat} {x : String × SseMessage} {link : Link String SseMessage}
      (hlink : (s.replica r).subscriber.receive = some (x, link)) :
      Takes redisEnabled maxConnections s (.receive r throws)
        (s.setReplica r
          (SseReplica.onSubscriberMessage redisEnabled { s.replica r with subscriber := link } throws
            x.1 x.2))
  | lose {r : Nat} {x : String × SseMessage} {link : Link String SseMessage}
      (hlink : (s.replica r).subscriber.receive = some (x, link)) :
      Takes redisEnabled maxConnections s (.lose r)
        (s.setReplica r { s.replica r with subscriber := link })
  | closeAll {r : Nat} {throws : List Nat} :
      Takes redisEnabled maxConnections s (.closeAll r throws)
        (s.setReplica r ((s.replica r).closeAll redisEnabled throws))

variable {redisEnabled maxConnections s}

theorem takes_of_step {a : SseAction} {t : SseSystem}
    (h : step redisEnabled maxConnections s a = some t) : Takes redisEnabled maxConnections s a t := by
  cases a with
  | connect r throws schoolId res =>
    rw [step, Option.ite_none_right_eq_some] at h
    obtain ⟨⟨hnew, hunwritten⟩, ht⟩ := h
    obtain rfl := Option.some.inj ht
    exact .connect (Option.isNone_iff_eq_none.mp hnew) (List.isEmpty_iff.mp hunwritten)
  | close r res =>
    obtain ⟨schoolId, hschool, rfl⟩ := Option.map_eq_some_iff.mp h
    exact .close hschool
  | heartbeat r throws res =>
    rw [step, Option.ite_none_right_eq_some] at h
    obtain ⟨hrunning, hmap⟩ := h
    obtain ⟨schoolId, hschool, rfl⟩ := Option.map_eq_some_iff.mp hmap
    exact .heartbeat hrunning hschool
  | emit r throws schoolId event data correlationId =>
    obtain rfl := Option.some.inj h
    exact .emit
  | carryOut id =>
    obtain ⟨e, he, ht⟩ := Option.bind_eq_some_iff.mp h
    obtain ⟨hway, ht⟩ := Option.ite_none_right_eq_some.mp ht
    obtain rfl := Option.some.inj ht
    exact .carryOut he hway
  | resolve id =>
    obtain ⟨e, he, ht⟩ := Option.bind_eq_some_iff.mp h
    obtain ⟨hway, ht⟩ := Option.ite_none_right_eq_some.mp ht
    obtain rfl := Option.some.inj ht
    exact .resolve he hway
  | reject id throws reason =>
    obtain ⟨e, he, ht⟩ := Option.bind_eq_some_iff.mp h
    obtain ⟨hway, ht⟩ := Option.ite_none_right_eq_some.mp ht
    obtain rfl := Option.some.inj ht
    exact .reject he hway
  | publisherError r throws reason =>
    obtain ⟨hredis, ht⟩ := Option.ite_none_right_eq_some.mp h
    obtain rfl := Option.some.inj ht
    exact .publisherError hredis
  | publisherReady r throws =>
    obtain ⟨hredis, ht⟩ := Option.ite_none_right_eq_some.mp h
    obtain rfl := Option.some.inj ht
    exact .publisherReady hredis
  | publisherEnd r throws =>
    obtain ⟨hredis, ht⟩ := Option.ite_none_right_eq_some.mp h
    obtain rfl := Option.some.inj ht
    exact .publisherEnd hredis
  | commandCarriedOut r =>
    obtain ⟨link, hlink, rfl⟩ := Option.map_eq_some_iff.mp h
    exact .commandCarriedOut hlink
  | commandRefused r =>
    obtain ⟨link, hlink, rfl⟩ := Option.map_eq_some_iff.mp h
    exact .commandRefused hlink
  | receive r throws =>
    obtain ⟨⟨x, link⟩, hlink, rfl⟩ := Option.map_eq_some_iff.mp h
    exact .receive hlink
  | lose r =>
    obtain ⟨⟨x, link⟩, hlink, rfl⟩ := Option.map_eq_some_iff.mp h
    exact .lose hlink
  | closeAll r throws =>
    obtain rfl := Option.some.inj h
    exact .closeAll

@[simp] theorem setReplica_self {r : Nat} {p : SseReplica} : (s.setReplica r p).replica r = p :=
  update_self ..

/-- A property of one replica, after another or the same was set. -/
theorem setReplica_of {P : SseReplica → Prop} {r q : Nat} {p : SseReplica} (hq : P (s.replica q))
    (hp : r = q → P p) : P ((s.setReplica r p).replica q) := by
  by_cases h : q = r
  · subst h
    simpa [setReplica] using hp rfl
  · simpa [setReplica, h] using hq

end SseSystem

end StellarEduPay

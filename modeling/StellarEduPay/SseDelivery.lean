import StellarEduPay.SseRegistry

/-! # What reaches a client

An event is written to a response because Redis carried its publish out, or because the emitting
replica wrote it to its own clients.  `received_le` bounds the copies a response is given by these two.
-/
namespace StellarEduPay
open Broker JsonText Runs Function

/-- The frame carries the emit of a number. -/
def SseFrame.carries (id : Nat) : SseFrame → Bool
  | .event message => message.id = id
  | _ => false

namespace SseReplica
variable {redisEnabled : Bool} {maxConnections : Int} {p q : SseReplica} {schoolId t : String}
  {res x id : Nat} {throws set : List Nat} {frame : SseFrame} {message : SseMessage}

/-- How often an emit was written to a response. -/
def received (p : SseReplica) (x id : Nat) : Nat := (p.response x).written.countP (SseFrame.carries id)

/-! ## Single operations -/

theorem received_write :
    (p.write res frame).received x id =
      p.received x id + if x = res ∧ frame.carries id = true then 1 else 0 := by
  rw [received, write, modify_response]
  by_cases hx : x = res
  · rw [if_pos hx]
    simp [hx, received, List.countP_singleton]
  · rw [if_neg hx, if_neg fun h => hx h.1]
    rfl

theorem written_removeClient :
    ((p.removeClient redisEnabled schoolId res).response x).written = (p.response x).written := by
  rw [response_removeClient, clearHeartbeat, modify_response]
  split <;> rfl

@[simp] theorem received_removeClient :
    (p.removeClient redisEnabled schoolId res).received x id = p.received x id := by
  rw [received, written_removeClient]
  rfl

@[simp] theorem received_endResponse : (p.endResponse res).received x id = p.received x id := by
  rw [received, endResponse, modify_response]
  split <;> rfl

/-- A system event is not an emit. -/
theorem received_writeEach (h : frame.carries id = false) :
    (writeEach throws frame set p).received x id = p.received x id := by
  refine writeEach_rule (P := fun q => q.received x id = p.received x id) (fun res q hq => ?_) rfl
  rw [received_write, if_neg fun h' => by simp [h] at h']
  exact hq

@[simp] theorem received_onPublisherDown {reason : String} :
    (p.onPublisherDown throws reason).received x id = p.received x id := by
  unfold onPublisherDown
  split
  · exact received_writeEach rfl
  · rfl

@[simp] theorem received_onPublisherUp : (p.onPublisherUp throws).received x id = p.received x id := by
  unfold onPublisherUp
  split
  · rfl
  · exact received_writeEach rfl

@[simp] theorem received_closeAll : (p.closeAll redisEnabled throws).received x id = p.received x id := by
  refine closeSchools_rule (P := fun q => q.received x id = p.received x id)
    (fun entry _ res _ q hq => ?_) rfl
  rw [endClient_eq, received_removeClient, received_endResponse, received_write,
    if_neg fun h => by simp [SseFrame.carries] at h]
  exact hq

theorem received_streamPaymentEvents :
    (p.streamPaymentEvents redisEnabled maxConnections throws schoolId res).received x id =
      p.received x id := by
  unfold streamPaymentEvents
  split
  · rename_i q hq
    rcases addClient_cases hq with ⟨hcontra, -⟩ | ⟨-, hregisters⟩
    · cases hcontra
    · rw [received, hregisters.response]
      split
      · unfold connectFrames
        split
        · simp [received, SseFrame.carries]
        · simp [received]
      · rfl
  · rename_i q hq
    rcases addClient_cases hq with ⟨-, rfl⟩ | ⟨hcontra, -⟩
    · rw [received_endResponse, received_write, if_neg fun h => by simp [SseFrame.carries] at h]
      rfl
    · cases hcontra

/-- A fan-out writes once to each response whose write does not throw. -/
theorem received_fanoutTo (hset : set.Nodup) :
    (fanoutTo redisEnabled throws schoolId message set p).received x id =
      p.received x id + if x ∈ set ∧ x ∉ throws ∧ message.id = id then 1 else 0 := by
  induction set generalizing p with
  | nil => simp [fanoutTo]
  | cons res rest ih =>
    obtain ⟨hnew, hrest⟩ := List.nodup_cons.mp hset
    rw [fanoutTo, ih hrest]
    by_cases hx : x = res
    · subst hx
      rw [if_neg (fun h => hnew h.1 : ¬ (x ∈ rest ∧ _))]
      split
      · simp [*]
      · simp [received_write, SseFrame.carries, *]
    · have hwritten : (if res ∈ throws then p.removeClient redisEnabled schoolId res
          else p.write res (.event message)).received x id = p.received x id := by
        split
        · exact received_removeClient
        · rw [received_write, if_neg fun h => hx h.1]
          rfl
      rw [hwritten]
      simp [hx]

theorem received_fanout (h : p.Registered maxConnections) :
    (p.fanout redisEnabled throws schoolId message).received x id =
      p.received x id + if x ∈ p.members schoolId ∧ x ∉ throws ∧ message.id = id then 1 else 0 := by
  unfold fanout
  split
  · rename_i hnone
    simp [members_of_notMem (AList.lookup_eq_none.mp hnone)]
  · rename_i set hset
    have hnodup := members_of_lookup hset ▸ h.nodup schoolId
    rw [received_fanoutTo hnodup, members_of_lookup hset]

theorem received_fanout_le (h : p.Registered maxConnections) :
    (p.fanout redisEnabled throws schoolId message).received x id ≤
      p.received x id + if message.id = id then 1 else 0 := by
  rw [received_fanout h]
  split
  · rw [if_pos (by tauto)]
  · exact Nat.le_add_right _ _

/-! ## What waits

Only the subscriber's own steps change what waits.
-/

theorem inbox_removeClient :
    (p.removeClient redisEnabled schoolId res).subscriber.inbox = p.subscriber.inbox := by
  rw [subscriber_removeClient]
  split <;> rfl

theorem inbox_writeEach : (writeEach throws frame set p).subscriber.inbox = p.subscriber.inbox :=
  writeEach_rule (P := fun q => q.subscriber.inbox = p.subscriber.inbox) (fun _ _ hq => hq) rfl

theorem inbox_onPublisherDown {reason : String} :
    (p.onPublisherDown throws reason).subscriber.inbox = p.subscriber.inbox := by
  unfold onPublisherDown
  split
  · exact inbox_writeEach
  · rfl

theorem inbox_onPublisherUp : (p.onPublisherUp throws).subscriber.inbox = p.subscriber.inbox := by
  unfold onPublisherUp
  split
  · rfl
  · exact inbox_writeEach

theorem inbox_fanout :
    (p.fanout redisEnabled throws schoolId message).subscriber.inbox = p.subscriber.inbox := by
  unfold fanout
  split
  · rfl
  · exact fanoutTo_rule (P := fun q => q.subscriber.inbox = p.subscriber.inbox) (fun _ _ _ hq => hq)
      (fun _ _ _ hq => inbox_removeClient.trans hq) rfl

theorem inbox_closeAll :
    (p.closeAll redisEnabled throws).subscriber.inbox = p.subscriber.inbox := by
  refine closeSchools_rule (P := fun q => q.subscriber.inbox = p.subscriber.inbox)
    (fun entry _ res _ q hq => ?_) rfl
  rw [endClient_eq, inbox_removeClient]
  exact hq

theorem inbox_streamPaymentEvents :
    (p.streamPaymentEvents redisEnabled maxConnections throws schoolId res).subscriber.inbox =
      p.subscriber.inbox := by
  unfold streamPaymentEvents
  split
  · rename_i q hq
    rcases addClient_cases hq with ⟨hcontra, -⟩ | ⟨-, hregisters⟩
    · cases hcontra
    · rw [hregisters.subscriber]
      split <;> rfl
  · rename_i q hq
    rcases addClient_cases hq with ⟨-, rfl⟩ | ⟨hcontra, -⟩
    · rfl
    · cases hcontra

/-! ## Whose events these are -/

/-- What waits was published on the channel of its school, and what was written to a response belongs
to the school the response was registered for. -/
structure Genuine (known : SseMessage → String → Prop) (p : SseReplica) : Prop where
  inbox : ∀ c m, (c, m) ∈ p.subscriber.inbox → ∃ t, c = sseChannel t ∧ known m t
  written : ∀ x m, .event m ∈ (p.response x).written →
    ∃ t, (p.response x).schoolId = some t ∧ known m t

variable {known known' : SseMessage → String → Prop}

theorem Genuine.mono (h : p.Genuine known) (hmono : ∀ m t, known m t → known' m t) :
    p.Genuine known' where
  inbox c m hmem := (h.inbox c m hmem).imp fun _ => And.imp_right (hmono _ _)
  written x m hmem := (h.written x m hmem).imp fun _ => And.imp_right (hmono _ _)

/-- No event was added, and the registrations are the same. -/
theorem Genuine.of_le (h : p.Genuine known)
    (hinbox : ∀ y ∈ q.subscriber.inbox, y ∈ p.subscriber.inbox)
    (hwritten : ∀ x m, .event m ∈ (q.response x).written → .event m ∈ (p.response x).written)
    (hschool : ∀ x, (q.response x).schoolId = (p.response x).schoolId) : q.Genuine known where
  inbox c m hmem := h.inbox c m (hinbox _ hmem)
  written x m hmem := hschool x ▸ h.written x m (hwritten x m hmem)

theorem event_mem_write {m : SseMessage} (h : .event m ∈ ((p.write res frame).response x).written) :
    .event m ∈ (p.response x).written ∨ (x = res ∧ frame = .event m) := by
  rw [SseReplica.write, modify_response] at h
  split at h
  · rcases List.mem_append.mp h with hold | hnew
    · exact .inl hold
    · exact .inr ⟨‹_›, (List.mem_singleton.mp hnew).symm⟩
  · exact .inl h

theorem Genuine.write (h : p.Genuine known) (hframe : ∀ m, frame ≠ .event m) :
    (p.write res frame).Genuine known :=
  h.of_le (fun _ hy => hy) (fun _ m hm => (event_mem_write hm).resolve_right fun h' => hframe m h'.2)
    fun _ => write_schoolId

theorem Genuine.writeEvent (h : p.Genuine known)
    (hschool : (p.response res).schoolId = some schoolId) (hknown : known message schoolId) :
    (p.write res (.event message)).Genuine known := by
  refine ⟨h.inbox, fun x m hm => ?_⟩
  rw [write_schoolId]
  rcases event_mem_write hm with hold | ⟨rfl, hnew⟩
  · exact h.written x m hold
  · cases hnew
    exact ⟨schoolId, hschool, hknown⟩

theorem Genuine.removeClient (h : p.Genuine known) :
    (p.removeClient redisEnabled schoolId res).Genuine known :=
  h.of_le (fun _ hy => inbox_removeClient (p := p) ▸ hy)
    (fun _ _ hm => written_removeClient (p := p) ▸ hm) fun _ => removeClient_schoolId

theorem Genuine.endResponse (h : p.Genuine known) : (p.endResponse res).Genuine known := by
  refine h.of_le (fun _ hy => hy) (fun x m hm => ?_) fun _ => endResponse_schoolId
  rw [SseReplica.endResponse, modify_response] at hm
  split at hm <;> exact hm

theorem Genuine.onPublisherDown {reason : String} (h : p.Genuine known) :
    (p.onPublisherDown throws reason).Genuine known := by
  unfold SseReplica.onPublisherDown
  split
  · exact writeEach_rule (fun _ _ hq => hq.write fun _ => SseFrame.noConfusion)
      (h.of_le (fun _ hy => hy) (fun _ _ hm => hm) fun _ => rfl)
  · exact h

theorem Genuine.onPublisherUp (h : p.Genuine known) : (p.onPublisherUp throws).Genuine known := by
  unfold SseReplica.onPublisherUp
  split
  · exact h
  · exact writeEach_rule (fun _ _ hq => hq.write fun _ => SseFrame.noConfusion)
      (h.of_le (fun _ hy => hy) (fun _ _ hm => hm) fun _ => rfl)

theorem Genuine.fanout (h : p.Genuine known) (hreg : p.Registered maxConnections)
    (hknown : known message schoolId) :
    (p.fanout redisEnabled throws schoolId message).Genuine known := by
  unfold SseReplica.fanout
  split
  · exact h
  · rename_i set hset
    refine (fanoutTo_rule
      (P := fun q => q.Genuine known ∧ ∀ x, (q.response x).schoolId = (p.response x).schoolId)
      (fun res hres q hq => ⟨?_, fun x => write_schoolId.trans (hq.2 x)⟩)
      (fun res _ q hq => ⟨hq.1.removeClient, fun x => removeClient_schoolId.trans (hq.2 x)⟩)
      ⟨h, fun _ => rfl⟩).1
    exact hq.1.writeEvent ((hq.2 res).trans (hreg.schoolId_of_lookup hset res hres)) hknown

theorem Genuine.closeAll (h : p.Genuine known) : (p.closeAll redisEnabled throws).Genuine known := by
  refine closeSchools_rule (fun entry _ res _ q hq => ?_) h
  rw [endClient_eq]
  exact (hq.write fun _ => SseFrame.noConfusion).endResponse.removeClient

theorem Genuine.streamPaymentEvents (h : p.Genuine known) (hunwritten : (p.response res).written = []) :
    (p.streamPaymentEvents redisEnabled maxConnections throws schoolId res).Genuine known := by
  unfold SseReplica.streamPaymentEvents
  split
  · rename_i q hq
    rcases addClient_cases hq with ⟨hcontra, -⟩ | ⟨-, hregisters⟩
    · cases hcontra
    · constructor
      case inbox =>
        intro c m hmem
        rw [hregisters.subscriber] at hmem
        refine h.inbox c m ?_
        split at hmem <;> exact hmem
      case written =>
        intro x m hmem
        rw [hregisters.response] at hmem ⊢
        split at hmem
        · rename_i hx
          unfold connectFrames at hmem
          split at hmem <;> simp [hx, hunwritten] at hmem
        · rw [if_neg ‹_›]
          exact h.written x m hmem
  · rename_i q hq
    rcases addClient_cases hq with ⟨-, rfl⟩ | ⟨hcontra, -⟩
    · exact (h.write fun _ => SseFrame.noConfusion).endResponse
    · cases hcontra

end SseReplica

/-! ## The system -/

namespace SseSystem
open SseReplica
variable {redisEnabled : Bool} {maxConnections : Int} {s t : SseSystem} {a : SseAction} {q x id : Nat}

/-- The message was emitted for the school. -/
def Emitted (s : SseSystem) (m : SseMessage) (schoolId : String) : Prop :=
  ∃ e, s.emits m.id = some e ∧ e.message = m ∧ e.schoolId = schoolId

/-- An emit is stored under its number, and one under way was not written by its replica. -/
structure Numbered (s : SseSystem) : Prop where
  below : ∀ id e, s.emits id = some e → id < s.next
  own : ∀ id e, s.emits id = some e → e.message.id = id
  underWay : ∀ id e, s.emits id = some e → e.underWay = true → e.fannedOut = false

theorem Numbered.setEmit (h : s.Numbered) {e e' : SseEmit} (he : s.emits id = some e)
    (hmessage : e'.message = e.message) (hway : e'.underWay = true → e'.fannedOut = false) :
    (s.setEmit id e').Numbered := by
  have hcases {i : Nat} {f : SseEmit} (hf : (s.setEmit id e').emits i = some f) :
      (i = id ∧ f = e') ∨ (i ≠ id ∧ s.emits i = some f) := update_some_iff.mp hf
  constructor
  case below =>
    intro i f hf
    rcases hcases hf with ⟨rfl, rfl⟩ | ⟨-, hold⟩
    · exact h.below i e he
    · exact h.below i f hold
  case own =>
    intro i f hf
    rcases hcases hf with ⟨rfl, rfl⟩ | ⟨-, hold⟩
    · exact (congrArg SseMessage.id hmessage).trans (h.own i e he)
    · exact h.own i f hold
  case underWay =>
    intro i f hf
    rcases hcases hf with ⟨rfl, rfl⟩ | ⟨-, hold⟩
    · exact hway
    · exact h.underWay i f hold

/-- An emit that moved on is the same emit. -/
theorem Emitted.setEmit {m : SseMessage} {schoolId : String} {e e' : SseEmit}
    (h : s.Emitted m schoolId) (he : s.emits id = some e) (hmessage : e'.message = e.message)
    (hschool : e'.schoolId = e.schoolId) : (s.setEmit id e').Emitted m schoolId := by
  obtain ⟨f, hf, hm, hs⟩ := h
  by_cases hid : m.id = id
  · obtain rfl : e = f := Option.some.inj (he.symm.trans (hid ▸ hf))
    exact ⟨e', by simp [SseSystem.setEmit, hid], hmessage.trans hm, hschool.trans hs⟩
  · exact ⟨f, by simpa [SseSystem.setEmit, hid] using hf, hm, hs⟩

/-- Nothing was emitted under the next number. -/
theorem Numbered.next_none (h : s.Numbered) : s.emits s.next = none := by
  rcases hnone : s.emits s.next with _ | e
  · rfl
  · exact absurd (h.below _ _ hnone) (Nat.lt_irrefl _)

/-- The copies of an emit that the clients of a replica are owed. -/
def emitDue (e : SseEmit) (q : Nat) : Nat :=
  e.carried + if e.fannedOut ∧ e.replica = q then 1 else 0

def due (s : SseSystem) (q id : Nat) : Nat := (s.emits id).elim 0 (emitDue · q)

theorem due_of_emits {e : SseEmit} (he : s.emits id = some e) : s.due q id = emitDue e q := by
  rw [due, he]
  rfl

theorem due_setEmit {e : SseEmit} {i : Nat} :
    (s.setEmit id e).due q i = if i = id then emitDue e q else s.due q i := by
  unfold due SseSystem.setEmit
  by_cases hi : i = id
  · simp [hi]
  · simp [hi]

@[simp] theorem due_setReplica {r i : Nat} {p : SseReplica} :
    (s.setReplica r p).due q i = s.due q i := rfl

/-- Copies of an emit that wait in the subscriber. -/
def waiting (s : SseSystem) (q id : Nat) : Nat :=
  (s.replica q).subscriber.waiting fun y => y.2.id = id

/-- Every response was given, and will be given, no more copies than it is owed, and only of emits for
its own school. -/
structure Delivered (maxConnections : Int) (q : Nat) (s : SseSystem) : Prop where
  registered : (s.replica q).Registered maxConnections
  genuine : (s.replica q).Genuine s.Emitted
  numbered : s.Numbered
  bound : ∀ x id, (s.replica q).received x id + s.waiting q id ≤ s.due q id

theorem Delivered.init (connected : Nat → Bool) :
    (SseSystem.init redisEnabled connected).Delivered maxConnections q where
  registered := .new
  genuine := ⟨fun _ _ h => (nomatch h), fun _ _ h => (nomatch h)⟩
  numbered := ⟨fun _ _ h => (nomatch h), fun _ _ h => (nomatch h), fun _ _ h => (nomatch h)⟩
  bound _ _ := Nat.le_refl 0

/-- A step of the replica itself, which neither emits nor receives. -/
theorem Delivered.setReplica (h : s.Delivered maxConnections q) {r : Nat} {p : SseReplica}
    (hreg : r = q → p.Registered maxConnections) (hgenuine : r = q → p.Genuine s.Emitted)
    (hreceived : r = q → ∀ x id, p.received x id = (s.replica q).received x id)
    (hinbox : r = q → p.subscriber.inbox = (s.replica q).subscriber.inbox) :
    (s.setReplica r p).Delivered maxConnections q where
  registered := setReplica_of h.registered hreg
  genuine := setReplica_of (P := SseReplica.Genuine s.Emitted) h.genuine hgenuine
  numbered := ⟨h.numbered.below, h.numbered.own, h.numbered.underWay⟩
  bound x id := by
    refine setReplica_of (P := fun p => p.received x id + p.subscriber.waiting _ ≤ s.due q id)
      (h.bound x id) fun hr => ?_
    rw [hreceived hr, Link.waiting, hinbox hr]
    exact h.bound x id

theorem Emitted.record {m : SseMessage} {schoolId : String} {e : SseEmit} (hnumbered : s.Numbered)
    (h : s.Emitted m schoolId) : (s.record e).Emitted m schoolId := by
  obtain ⟨f, hf, hm, hs⟩ := h
  have hne : m.id ≠ s.next := Nat.ne_of_lt (hnumbered.below _ _ hf)
  exact ⟨f, by simpa [SseSystem.record, hne] using hf, hm, hs⟩

theorem Numbered.record (h : s.Numbered) {e : SseEmit} (hid : e.message.id = s.next)
    (hway : e.underWay = true → e.fannedOut = false) : (s.record e).Numbered := by
  have hcases {i : Nat} {f : SseEmit} (hf : (s.record e).emits i = some f) :
      (i = s.next ∧ f = e) ∨ (i ≠ s.next ∧ s.emits i = some f) := update_some_iff.mp hf
  constructor
  case below =>
    intro i f hf
    rcases hcases hf with ⟨rfl, -⟩ | ⟨-, hold⟩
    · exact Nat.lt_succ_self _
    · exact Nat.lt_succ_of_lt (h.below i f hold)
  case own =>
    intro i f hf
    rcases hcases hf with ⟨rfl, rfl⟩ | ⟨-, hold⟩
    · exact hid
    · exact h.own i f hold
  case underWay =>
    intro i f hf
    rcases hcases hf with ⟨rfl, rfl⟩ | ⟨-, hold⟩
    · exact hway
    · exact h.underWay i f hold

theorem due_record {e : SseEmit} {i : Nat} :
    (s.record e).due q i = if i = s.next then emitDue e q else s.due q i := by
  unfold due SseSystem.record
  by_cases hi : i = s.next
  · simp [hi]
  · simp [hi]

theorem emitDue_carried {e : SseEmit} :
    emitDue { e with carried := e.carried + 1 } q = emitDue e q + 1 := Nat.add_right_comm ..

theorem emitDue_fannedOut {e : SseEmit} (h : e.fannedOut = false) :
    emitDue { e with underWay := false, fannedOut := true } q =
      emitDue e q + if e.replica = q then 1 else 0 := by
  simp [emitDue, h]

/-- The emits move on, and the replicas stay as they are. -/
theorem Delivered.setEmit (h : s.Delivered maxConnections q) {e : SseEmit} (f : SseEmit)
    (he : s.emits id = some e) (hmessage : f.message = e.message) (hschool : f.schoolId = e.schoolId)
    (hway : f.underWay = true → f.fannedOut = false) (hdue : s.due q id ≤ (s.setEmit id f).due q id) :
    (s.setEmit id f).Delivered maxConnections q where
  registered := h.registered
  genuine := h.genuine.mono fun _ _ hm => hm.setEmit he hmessage hschool
  numbered := h.numbered.setEmit he hmessage hway
  bound x i := by
    refine (h.bound x i).trans ?_
    by_cases hi : i = id
    · exact hi ▸ hdue
    · rw [due_setEmit, if_neg hi]

/-- Nobody has a copy of what was not emitted. -/
theorem Delivered.next (h : s.Delivered maxConnections q) :
    (s.replica q).received x s.next + s.waiting q s.next = 0 := by
  have hbound := h.bound x s.next
  rw [due, h.numbered.next_none] at hbound
  exact Nat.le_zero.mp hbound

theorem Delivered.record (h : s.Delivered maxConnections q) {e : SseEmit}
    (hid : e.message.id = s.next) (hway : e.underWay = true → e.fannedOut = false) :
    (s.record e).Delivered maxConnections q where
  registered := h.registered
  genuine := h.genuine.mono fun _ _ hm => hm.record h.numbered
  numbered := h.numbered.record hid hway
  bound x i := by
    rw [due_record]
    split
    · rename_i hi
      exact hi ▸ h.next.trans_le (Nat.zero_le _)
    · exact h.bound x i

/-- A replica that writes an emit to its own clients gives each of them one copy. -/
theorem Delivered.fanout (h : s.Delivered maxConnections q) (redisEnabled : Bool) (r : Nat)
    (throws : List Nat) {schoolId : String} {message : SseMessage} (hknown : s.Emitted message schoolId)
    (hroom : r = q → ∀ x, (s.replica q).received x message.id + s.waiting q message.id <
      s.due q message.id) :
    (s.setReplica r ((s.replica r).fanout redisEnabled throws schoolId message)).Delivered
      maxConnections q where
  registered := setReplica_of h.registered fun hr => hr ▸ h.registered.fanout
  genuine := setReplica_of (P := SseReplica.Genuine s.Emitted) h.genuine fun hr =>
    hr ▸ h.genuine.fanout h.registered hknown
  numbered := ⟨h.numbered.below, h.numbered.own, h.numbered.underWay⟩
  bound x i := by
    refine setReplica_of (P := fun p => p.received x i + p.subscriber.waiting _ ≤ s.due q i)
      (h.bound x i) fun hr => ?_
    subst hr
    rw [Link.waiting, inbox_fanout]
    have hle : ((s.replica r).fanout redisEnabled throws schoolId message).received x i ≤
        (s.replica r).received x i + if message.id = i then 1 else 0 :=
      received_fanout_le h.registered
    have hbound := h.bound x i
    split at hle
    · rename_i hi
      have hlt := hroom rfl x
      rw [hi] at hlt
      exact (Nat.add_le_add_right hle _).trans (by rw [Nat.add_right_comm]; exact hlt)
    · exact (Nat.add_le_add_right hle _).trans hbound

theorem Delivered.deliver (h : s.Delivered maxConnections q) {schoolId : String} {message : SseMessage}
    (hknown : s.Emitted message schoolId)
    (hroom : ∀ x, (s.replica q).received x message.id + s.waiting q message.id <
      s.due q message.id) :
    (s.deliver (sseChannel schoolId) message).Delivered maxConnections q where
  registered := h.registered.of_eq rfl fun _ => ⟨rfl, rfl⟩
  genuine := by
    refine ⟨fun c m hmem => ?_, h.genuine.written⟩
    change (c, m) ∈ ((s.replica q).subscriber.deliver _ _).inbox at hmem
    rcases Link.mem_inbox_deliver.mp hmem with hold | ⟨-, hnew⟩
    · exact h.genuine.inbox c m hold
    · obtain ⟨rfl, rfl⟩ := Prod.mk.inj hnew
      exact ⟨schoolId, rfl, hknown⟩
  numbered := ⟨h.numbered.below, h.numbered.own, h.numbered.underWay⟩
  bound x i := by
    have hle := Link.waiting_deliver_le (l := (s.replica q).subscriber) (c := sseChannel schoolId)
      (m := message) (p := fun y => decide (y.2.id = i))
    have hbound := h.bound x i
    refine (Nat.add_le_add_left hle _).trans ?_
    split
    · rename_i hi
      have hlt := hroom x
      rw [of_decide_eq_true hi] at hlt
      exact hlt
    · exact hbound

/-- The subscriber's link moved, and what waits there waited before. -/
theorem Delivered.link (h : s.Delivered maxConnections q) (r : Nat) (link : Link String SseMessage)
    (hinbox : r = q → link.inbox.Sublist (s.replica q).subscriber.inbox) :
    (s.setReplica r { s.replica r with subscriber := link }).Delivered maxConnections q where
  registered := setReplica_of h.registered fun hr => hr ▸ h.registered.of_eq rfl fun _ => ⟨rfl, rfl⟩
  genuine := by
    refine setReplica_of (P := SseReplica.Genuine s.Emitted) h.genuine fun hr => ?_
    subst hr
    exact h.genuine.of_le (fun y hy => (hinbox rfl).subset hy) (fun _ _ hm => hm) fun _ => rfl
  numbered := ⟨h.numbered.below, h.numbered.own, h.numbered.underWay⟩
  bound x i := by
    refine setReplica_of (P := fun p => p.received x i + p.subscriber.waiting _ ≤ s.due q i)
      (h.bound x i) fun hr => ?_
    subst hr
    exact (Nat.add_le_add_left (hinbox rfl).countP_le _).trans (h.bound x i)

theorem Delivered.receive (h : s.Delivered maxConnections q) {r : Nat} {throws : List Nat}
    {y : String × SseMessage} {link : Link String SseMessage}
    (hlink : (s.replica r).subscriber.receive = some (y, link)) :
    (s.setReplica r (SseReplica.onSubscriberMessage redisEnabled
      { s.replica r with subscriber := link } throws y.1 y.2)).Delivered maxConnections q := by
  obtain ⟨rest, hinbox, rfl⟩ := Link.receive_cases hlink
  have hreceived := h.link r { (s.replica r).subscriber with inbox := rest }
    fun hr => by rw [← hr, hinbox]; exact List.sublist_cons_self y rest
  unfold onSubscriberMessage
  split
  · exact hreceived
  · rename_i schoolId hschool
    by_cases hr : r = q
    · subst hr
      obtain ⟨t, ht, hknown⟩ := h.genuine.inbox y.1 y.2 (hinbox ▸ List.mem_cons_self)
      obtain rfl : t = schoolId := by
        rw [ht, sseSchool_sseChannel] at hschool
        exact Option.some.inj hschool
      have hfanout := hreceived.fanout redisEnabled r throws hknown
        fun _ x => ?_
      · simpa [SseSystem.setReplica] using hfanout
      · have hbound := h.bound x y.2.id
        rw [waiting, Link.waiting_receive hlink, if_pos (decide_eq_true rfl)] at hbound
        rw [due_setReplica, waiting, setReplica_self]
        exact Nat.lt_of_succ_le hbound
    · exact h.setReplica (fun heq => absurd heq hr) (fun heq => absurd heq hr)
        (fun heq => absurd heq hr) fun heq => absurd heq hr

theorem delivered_step (h : s.Delivered maxConnections q)
    (hs : step redisEnabled maxConnections s a = some t) : t.Delivered maxConnections q := by
  cases takes_of_step hs with
  | connect hnew hunwritten =>
    exact h.setReplica (fun hr => hr ▸ h.registered.streamPaymentEvents (hr ▸ hnew))
      (fun hr => hr ▸ h.genuine.streamPaymentEvents (hr ▸ hunwritten))
      (fun hr _ _ => hr ▸ received_streamPaymentEvents) fun hr => hr ▸ inbox_streamPaymentEvents
  | close hschool =>
    exact h.setReplica (fun hr => hr ▸ h.registered.removeClient (hr ▸ hschool))
      (fun hr => hr ▸ h.genuine.removeClient) (fun hr _ _ => hr ▸ received_removeClient)
      fun hr => hr ▸ inbox_removeClient
  | @heartbeat r throws res schoolId hrunning hschool =>
    unfold SseReplica.heartbeat
    split
    · exact h.setReplica (fun hr => hr ▸ h.registered.removeClient (hr ▸ hschool))
        (fun hr => hr ▸ h.genuine.removeClient) (fun hr _ _ => hr ▸ received_removeClient)
        fun hr => hr ▸ inbox_removeClient
    · refine h.setReplica (fun hr => hr ▸ h.registered.write)
        (fun hr => hr ▸ h.genuine.write fun _ => SseFrame.noConfusion) (fun hr x id => ?_)
        fun hr => hr ▸ rfl
      rw [received_write, if_neg fun h' => by simp [SseFrame.carries] at h', hr]
      rfl
  | @emit r throws schoolId event data correlationId =>
    unfold SseSystem.emit
    dsimp only
    split
    · exact h.record rfl fun _ => rfl
    · refine (h.record rfl fun hway => Bool.noConfusion hway).fanout _ _ _ ⟨_, update_self .., rfl, rfl⟩
        fun hr x => ?_
      rw [due_record, if_pos rfl, emitDue, if_pos ⟨rfl, hr⟩]
      exact h.next.trans_lt Nat.one_pos
  | @carryOut id e he hway =>
    have hid := h.numbered.own id e he
    have hmoved := h.setEmit { e with carried := e.carried + 1 } he rfl rfl
      (h.numbered.underWay id e he) (by
        rw [due_setEmit, if_pos rfl, due_of_emits he, emitDue_carried]
        exact Nat.le_succ _)
    have hknown : (s.setEmit id { e with carried := e.carried + 1 }).Emitted e.message e.schoolId :=
      ⟨{ e with carried := e.carried + 1 }, by rw [hid]; exact update_self .., rfl, rfl⟩
    refine hmoved.deliver hknown fun x => ?_
    rw [hid, due_setEmit, if_pos rfl, emitDue_carried, ← due_of_emits he]
    exact Nat.lt_succ_of_le (h.bound x id)
  | @resolve id e he hway =>
    refine h.setEmit { e with underWay := false } he rfl rfl (fun hcontra => Bool.noConfusion hcontra) (Nat.le_of_eq ?_)
    rw [due_setEmit, if_pos rfl, due_of_emits he]
    rfl
  | @reject id throws reason e he hway =>
    have hid := h.numbered.own id e he
    have hfirst := h.numbered.underWay id e he hway
    have hmoved := h.setEmit { e with underWay := false, fannedOut := true } he rfl rfl
      (fun hcontra => Bool.noConfusion hcontra) (by
        rw [due_setEmit, if_pos rfl, due_of_emits he, emitDue_fannedOut hfirst]
        exact Nat.le_add_right _ _)
    have hdown := hmoved.setReplica (r := e.replica)
      (p := (s.replica e.replica).onPublisherDown throws reason)
      (fun hr => hr ▸ h.registered.onPublisherDown) (fun hr => hr ▸ hmoved.genuine.onPublisherDown)
      (fun hr _ _ => hr ▸ received_onPublisherDown) fun hr => hr ▸ inbox_onPublisherDown
    have hfanout := hdown.fanout redisEnabled e.replica throws
      ⟨{ e with underWay := false, fannedOut := true }, by rw [hid]; exact update_self .., rfl, rfl⟩
      fun hr x => ?_
    · simpa [SseSystem.setReplica] using hfanout
    · subst hr
      rw [due_setReplica, hid, due_setEmit, if_pos rfl, emitDue_fannedOut hfirst, if_pos rfl,
        ← due_of_emits he, waiting, setReplica_self, received_onPublisherDown,
        Link.waiting, inbox_onPublisherDown]
      exact Nat.lt_succ_of_le (h.bound x id)
  | publisherError =>
    exact h.setReplica (fun hr => hr ▸ h.registered.onPublisherDown)
      (fun hr => hr ▸ h.genuine.onPublisherDown) (fun hr _ _ => hr ▸ received_onPublisherDown)
      fun hr => hr ▸ inbox_onPublisherDown
  | publisherReady =>
    exact h.setReplica (fun hr => hr ▸ h.registered.onPublisherUp)
      (fun hr => hr ▸ h.genuine.onPublisherUp) (fun hr _ _ => hr ▸ received_onPublisherUp)
      fun hr => hr ▸ inbox_onPublisherUp
  | publisherEnd =>
    exact h.setReplica (fun hr => hr ▸ h.registered.onPublisherDown)
      (fun hr => hr ▸ h.genuine.onPublisherDown) (fun hr _ _ => hr ▸ received_onPublisherDown)
      fun hr => hr ▸ inbox_onPublisherDown
  | commandCarriedOut hlink =>
    obtain ⟨command, rest, -, rfl⟩ := Link.carryOut_cases hlink
    exact h.link _ _ fun hr => hr ▸ List.Sublist.refl _
  | commandRefused hlink =>
    obtain ⟨command, rest, -, rfl⟩ := Link.refuse_cases hlink
    exact h.link _ _ fun hr => hr ▸ List.Sublist.refl _
  | receive hlink => exact h.receive hlink
  | lose hlink =>
    obtain ⟨rest, hinbox, rfl⟩ := Link.receive_cases hlink
    exact h.link _ _ fun hr => by rw [← hr, hinbox]; exact List.sublist_cons_self _ rest
  | closeAll =>
    exact h.setReplica (fun hr => hr ▸ h.registered.closeAll) (fun hr => hr ▸ h.genuine.closeAll)
      (fun hr _ _ => hr ▸ received_closeAll) fun hr => hr ▸ inbox_closeAll

/-- **At most what was sent, and only to the school.**  An event written to a response was emitted for
the school the response is registered for, and was written to it no more often than Redis carried its
publish out, and once more if the response is at the emitting replica and that wrote the event to its
own clients. -/
theorem received_le {connected : Nat → Bool} {s : SseSystem} {q x : Nat} {m : SseMessage}
    (h : Reach (step redisEnabled maxConnections) Free (init redisEnabled connected) s)
    (hm : .event m ∈ ((s.replica q).response x).written) :
    ∃ e, s.emits m.id = some e ∧ e.message = m ∧
      ((s.replica q).response x).schoolId = some e.schoolId ∧
      (s.replica q).received x m.id ≤
        e.carried + if e.fannedOut ∧ e.replica = q then 1 else 0 := by
  have hd : s.Delivered maxConnections q :=
    h.invariant (.init connected) fun hinv _ hs => delivered_step hinv hs
  obtain ⟨t, hschool, e, he, hmessage, rfl⟩ := hd.genuine.written x m hm
  refine ⟨e, he, hmessage, hschool, ?_⟩
  have hbound := hd.bound x m.id
  rw [due_of_emits he] at hbound
  exact (Nat.le_add_right _ _).trans hbound

/-- A payment emitted by another replica. -/
theorem received_le_payment :
    let s := (exec (step true 100) (init true fun _ => true)
      [.connect 0 [] "s" 7, .commandCarriedOut 0, .emit 1 [] "s" "payment" (.object []) none,
        .carryOut 0, .receive 0 []]).get (by decide)
    ∃ e, s.emits 0 = some e ∧ e.message = ⟨0, "payment", .object []⟩ ∧
      ((s.replica 0).response 7).schoolId = some e.schoolId ∧
      (s.replica 0).received 7 0 ≤ e.carried + if e.fannedOut ∧ e.replica = 0 then 1 else 0 :=
  received_le (m := ⟨0, "payment", .object []⟩) (reach_get (by decide)) (List.mem_singleton.mpr rfl)

end SseSystem

end StellarEduPay

import StellarEduPay.SseDelivery

/-! # Exactly once for a covered client

A client is covered while it is registered and the subscription of its school is open and will stay
open.  Other clients coming and going leave it so.  As long as it is not disturbed itself, the copies
of an emit that it has, or that wait for it, grow with the copies it is owed, neither less nor more.
-/
namespace StellarEduPay
open Broker JsonText Runs Function

namespace SseReplica
variable {redisEnabled : Bool} {maxConnections : Int} {p q : SseReplica} {schoolId t : String}
  {res x id : Nat} {throws set : List Nat} {frame : SseFrame} {message : SseMessage}

/-- The response is a client of the school, and the subscription is open and stays open. -/
structure Covered (schoolId : String) (x : Nat) (p : SseReplica) : Prop where
  member : x ∈ p.members schoolId
  holds : p.subscriber.Holds (sseChannel schoolId)

theorem Covered.write (h : p.Covered schoolId x) : (p.write res frame).Covered schoolId x :=
  ⟨h.member, h.holds⟩

theorem Covered.link {link : Link String SseMessage} (h : p.Covered schoolId x)
    (hholds : link.Holds (sseChannel schoolId)) :
    ({ p with subscriber := link } : SseReplica).Covered schoolId x := ⟨h.member, hholds⟩

/-- Removing another client leaves the subscription open. -/
theorem Covered.removeClient (h : p.Covered schoolId x) (hres : res ≠ x) :
    (p.removeClient redisEnabled t res).Covered schoolId x := by
  constructor
  case member =>
    rw [members_removeClient]
    split
    · rename_i heq
      exact (List.mem_erase_of_ne hres.symm).mpr (heq ▸ h.member)
    · exact h.member
  case holds =>
    rw [subscriber_removeClient]
    split
    · rename_i hlast
      refine h.holds.send fun heq => ?_
      obtain rfl : t = schoolId := sseChannel_inj.mp (Command.unsubscribe.inj heq)
      have hleft := (List.mem_erase_of_ne hres.symm).mpr h.member
      rw [hlast.2.1] at hleft
      cases hleft
    · exact h.holds

theorem Covered.onPublisherDown {reason : String} (h : p.Covered schoolId x) :
    (p.onPublisherDown throws reason).Covered schoolId x := by
  unfold SseReplica.onPublisherDown
  split
  · exact writeEach_rule (fun _ _ => Covered.write) ⟨h.member, h.holds⟩
  · exact h

theorem Covered.onPublisherUp (h : p.Covered schoolId x) :
    (p.onPublisherUp throws).Covered schoolId x := by
  unfold SseReplica.onPublisherUp
  split
  · exact h
  · exact writeEach_rule (fun _ _ => Covered.write) ⟨h.member, h.holds⟩

theorem Covered.fanoutTo (h : p.Covered schoolId x) (hx : x ∉ throws) :
    (fanoutTo redisEnabled throws t message set p).Covered schoolId x := by
  induction set generalizing p with
  | nil => exact h
  | cons res rest ih =>
    refine ih ?_
    split
    · rename_i hthrows
      exact h.removeClient fun heq => hx (heq ▸ hthrows)
    · exact h.write

theorem Covered.fanout (h : p.Covered schoolId x) (hx : x ∉ throws) :
    (p.fanout redisEnabled throws t message).Covered schoolId x := by
  unfold SseReplica.fanout
  split
  · exact h
  · exact h.fanoutTo hx

theorem Covered.streamPaymentEvents (h : p.Covered schoolId x) :
    (p.streamPaymentEvents redisEnabled maxConnections throws t res).Covered schoolId x := by
  unfold SseReplica.streamPaymentEvents
  split
  · rename_i q hq
    rcases addClient_cases hq with ⟨hcontra, -⟩ | ⟨-, hregisters⟩
    · cases hcontra
    · constructor
      case member =>
        rw [hregisters.members]
        split
        · rename_i heq
          split
          · exact heq ▸ h.member
          · exact List.mem_append_left _ (heq ▸ h.member)
        · exact h.member
      case holds =>
        rw [hregisters.subscriber]
        split
        · exact h.holds.send fun heq => (nomatch heq)
        · exact h.holds
  · rename_i q hq
    rcases addClient_cases hq with ⟨-, rfl⟩ | ⟨hcontra, -⟩
    · exact ⟨h.member, h.holds⟩
    · cases hcontra

/-- A client is given one copy of what is written to its school. -/
theorem Covered.received_fanout (h : p.Covered schoolId x) (hreg : p.Registered maxConnections)
    (hx : x ∉ throws) :
    (p.fanout redisEnabled throws schoolId message).received x id =
      p.received x id + if message.id = id then 1 else 0 := by
  rw [SseReplica.received_fanout hreg]
  simp [h.member, hx]

end SseReplica

namespace SseSystem
open SseReplica
variable {redisEnabled : Bool} {maxConnections : Int} {s t : SseSystem} {a : SseAction} {q x id : Nat}

/-- The step leaves a client of replica `q` connected, does not lose what waits there, and writes to
the client do not throw. -/
def Undisturbed (q x : Nat) (s : SseSystem) : SseAction → Prop
  | .close r res => r = q → res ≠ x
  | .heartbeat r throws _ => r = q → x ∉ throws
  | .receive r throws => r = q → x ∉ throws
  | .reject id throws _ => ∀ e ∈ s.emits id, e.replica = q → x ∉ throws
  | .lose r => r ≠ q
  | .closeAll r _ => r ≠ q
  | _ => True

/-- If it was emitted, it was for the school. -/
def Concerns (s : SseSystem) (schoolId : String) (id : Nat) : Prop :=
  ∀ e, s.emits id = some e → e.schoolId = schoolId

/-- From one state to another, a response came to have, or to wait for, as many copies of an emit for
its school as its replica's clients came to be owed. -/
def Balanced (schoolId : String) (q x : Nat) (s t : SseSystem) : Prop :=
  ∀ id, t.Concerns schoolId id → s.Concerns schoolId id ∧
    (t.replica q).received x id + t.waiting q id + s.due q id =
      (s.replica q).received x id + s.waiting q id + t.due q id

theorem Balanced.refl {schoolId : String} : Balanced schoolId q x s s := fun _ h => ⟨h, rfl⟩

theorem Balanced.trans {schoolId : String} {u : SseSystem} (h : Balanced schoolId q x s t)
    (h' : Balanced schoolId q x t u) : Balanced schoolId q x s u := by
  intro id hu
  obtain ⟨ht, htu⟩ := h' id hu
  obtain ⟨hs, hst⟩ := h id ht
  refine ⟨hs, ?_⟩
  omega

theorem concerns_setEmit {schoolId : String} {e : SseEmit} {i : Nat} (f : SseEmit)
    (he : s.emits id = some e) (hschool : f.schoolId = e.schoolId)
    (h : (s.setEmit id f).Concerns schoolId i) :
    s.Concerns schoolId i := by
  intro g hg
  by_cases hi : i = id
  · subst hi
    obtain rfl : e = g := Option.some.inj (he.symm.trans hg)
    exact hschool ▸ h f (update_self ..)
  · exact h g ((update_of_ne hi ..).trans hg)

/-- Neither the emits nor what this replica's response has and waits for changed. -/
theorem Balanced.setReplica {schoolId : String} {r : Nat} {p : SseReplica}
    (hreceived : r = q → ∀ id, p.received x id = (s.replica q).received x id)
    (hinbox : r = q → p.subscriber.inbox = (s.replica q).subscriber.inbox) :
    Balanced schoolId q x s (s.setReplica r p) := by
  intro id hc
  refine ⟨hc, ?_⟩
  refine setReplica_of (P := fun p => p.received x id + p.subscriber.waiting _ + s.due q id =
    (s.replica q).received x id + s.waiting q id + s.due q id) rfl fun hr => ?_
  rw [hreceived hr, Link.waiting, hinbox hr]
  rfl

section Covered
variable {schoolId : String} (hc : (s.replica q).Covered schoolId x)
  (hd : s.Delivered maxConnections q)
include hc hd

/-- Redis carries a publish out: a copy of it comes to wait for every covered client. -/
theorem balanced_carryOut {e : SseEmit} (he : s.emits id = some e) :
    Balanced schoolId q x s
      ((s.setEmit id { e with carried := e.carried + 1 }).deliver (sseChannel e.schoolId) e.message) := by
  intro i hi
  have hs := concerns_setEmit { e with carried := e.carried + 1 } he rfl hi
  refine ⟨hs, ?_⟩
  have hid := hd.numbered.own id e he
  change (s.replica q).received x i + ((s.replica q).subscriber.deliver _ _).waiting _ + s.due q i =
    (s.replica q).received x i + (s.replica q).subscriber.waiting _ + (s.setEmit id _).due q i
  rw [due_setEmit]
  by_cases heq : i = id
  · subst heq
    have hopen : sseChannel e.schoolId ∈ (s.replica q).subscriber.channels :=
      (hs e he).symm ▸ hc.holds.1
    rw [Link.waiting_deliver hopen, if_pos (decide_eq_true hid), if_pos rfl,
      emitDue_carried, due_of_emits he]
    omega
  · have hwait : ((s.replica q).subscriber.deliver (sseChannel e.schoolId) e.message).waiting
        (fun y => decide (y.2.id = i)) = (s.replica q).subscriber.waiting fun y => decide (y.2.id = i) := by
      unfold Link.deliver Link.waiting
      split
      · rw [List.countP_append, List.countP_singleton, if_neg (by simp [hid, Ne.symm heq])]
        rfl
      · rfl
    rw [hwait, if_neg heq]

/-- The subscriber receives a message: a copy that waited is written. -/
theorem balanced_receive {r : Nat} {throws : List Nat} {y : String × SseMessage}
    {link : Link String SseMessage} (hlink : (s.replica r).subscriber.receive = some (y, link))
    (hx : r = q → x ∉ throws) :
    Balanced schoolId q x s (s.setReplica r (SseReplica.onSubscriberMessage redisEnabled
      { s.replica r with subscriber := link } throws y.1 y.2)) := by
  intro i hi
  refine ⟨hi, ?_⟩
  refine setReplica_of (P := fun p => p.received x i + p.subscriber.waiting _ + s.due q i =
    (s.replica q).received x i + s.waiting q i + s.due q i) rfl fun hr => ?_
  subst hr
  have hwait := Link.waiting_receive (p := fun z => decide (z.2.id = i)) hlink
  obtain ⟨rest, hinbox, rfl⟩ := Link.receive_cases hlink
  obtain ⟨t, ht, e, he, hmessage, rfl⟩ := hd.genuine.inbox y.1 y.2 (hinbox ▸ List.mem_cons_self)
  rw [onSubscriberMessage, ht, sseSchool_sseChannel]
  dsimp only
  rw [Link.waiting, inbox_fanout, ← Link.waiting]
  have hreg : ({ s.replica r with subscriber := { (s.replica r).subscriber with inbox := rest } } :
      SseReplica).Registered maxConnections := hd.registered.of_eq rfl fun _ => ⟨rfl, rfl⟩
  have hreceived : (SseReplica.fanout redisEnabled
      { s.replica r with subscriber := { (s.replica r).subscriber with inbox := rest } } throws
      e.schoolId y.2).received x i = (s.replica r).received x i + if y.2.id = i then 1 else 0 := by
    rw [received_fanout hreg]
    by_cases heq : y.2.id = i
    · have hschool := hi e (heq ▸ he)
      rw [if_pos heq, if_pos ⟨hschool ▸ hc.member, hx rfl, heq⟩]
      rfl
    · rw [if_neg heq, if_neg fun h => heq h.2.2]
      rfl
  rw [hreceived]
  change _ = (s.replica r).received x i + (s.replica r).subscriber.waiting _ + _
  rw [hwait]
  by_cases heq : y.2.id = i
  · simp only [heq, decide_true, if_true]
    omega
  · simp [heq]

/-- The emitting replica writes the event to its own clients. -/
theorem balanced_reject {throws : List Nat} {reason : String} {e : SseEmit} (he : s.emits id = some e)
    (hway : e.underWay = true) (hx : e.replica = q → x ∉ throws) :
    Balanced schoolId q x s
      ((s.setEmit id { e with underWay := false, fannedOut := true }).setReplica e.replica
        (((s.replica e.replica).onPublisherDown throws reason).fanout redisEnabled throws e.schoolId
          e.message)) := by
  intro i hi
  have hs := concerns_setEmit { e with underWay := false, fannedOut := true } he rfl hi
  refine ⟨hs, ?_⟩
  have hid := hd.numbered.own id e he
  have hdue : (s.setEmit id { e with underWay := false, fannedOut := true }).due q i =
      s.due q i + if i = id ∧ e.replica = q then 1 else 0 := by
    rw [due_setEmit]
    by_cases heq : i = id
    · simp [heq, emitDue_fannedOut (hd.numbered.underWay id e he hway), due_of_emits he]
    · simp [heq]
  rw [due_setReplica, hdue]
  by_cases hr : e.replica = q
  · subst hr
    have hreceived : x ∈ ((s.replica e.replica).onPublisherDown throws reason).members schoolId :=
      hc.onPublisherDown.member
    rw [waiting, setReplica_self, Link.waiting, inbox_fanout, inbox_onPublisherDown, ← Link.waiting,
      received_fanout hd.registered.onPublisherDown, received_onPublisherDown, hid]
    by_cases heq : i = id
    · have hschool := hs e (heq ▸ he)
      rw [if_pos ⟨hschool ▸ hreceived, hx rfl, heq.symm⟩, if_pos ⟨heq, rfl⟩]
      change _ = (s.replica e.replica).received x i + (s.replica e.replica).subscriber.waiting _ + _
      omega
    · rw [if_neg fun h => heq h.2.2.symm, if_neg fun h => heq h.1]
      rfl
  · rw [if_neg fun h => hr h.2]
    have hsame : (((s.setEmit id { e with underWay := false, fannedOut := true }).setReplica e.replica
        (((s.replica e.replica).onPublisherDown throws reason).fanout redisEnabled throws e.schoolId
          e.message)).replica q) = s.replica q := update_of_ne (Ne.symm hr) ..
    rw [waiting, hsame]
    rfl

omit hc in
/-- Emitting owes nobody a copy yet. -/
theorem balanced_record {e : SseEmit} (hcarried : e.carried = 0) (hout : e.fannedOut = false) :
    Balanced schoolId q x s (s.record e) := by
  intro i hi
  have hdue : (s.record e).due q i = s.due q i := by
    rw [due_record]
    split
    · rename_i heq
      rw [heq, due, hd.numbered.next_none]
      simp [emitDue, hcarried, hout]
    · rfl
  refine ⟨fun f hf => hi f ?_, by rw [hdue]; rfl⟩
  exact (update_of_ne (Nat.ne_of_lt (hd.numbered.below i f hf)) ..).trans hf

theorem balanced_step (hok : Undisturbed q x s a) (hs : step true maxConnections s a = some t) :
    Balanced schoolId q x s t := by
  cases takes_of_step hs with
  | connect =>
    exact .setReplica (fun hr _ => hr ▸ received_streamPaymentEvents)
      fun hr => hr ▸ inbox_streamPaymentEvents
  | close => exact .setReplica (fun hr _ => hr ▸ received_removeClient) fun hr => hr ▸ inbox_removeClient
  | heartbeat =>
    unfold SseReplica.heartbeat
    split
    · exact .setReplica (fun hr _ => hr ▸ received_removeClient) fun hr => hr ▸ inbox_removeClient
    · refine .setReplica (fun hr id => ?_) fun hr => hr ▸ rfl
      rw [received_write, if_neg fun h' => by simp [SseFrame.carries] at h', hr]
      rfl
  | emit => exact balanced_record hd rfl rfl
  | carryOut he => exact balanced_carryOut hc hd he
  | @resolve id e he =>
    intro i hi
    refine ⟨concerns_setEmit { e with underWay := false } he rfl hi, ?_⟩
    rw [due_setEmit]
    split
    · rename_i heq
      rw [heq, due_of_emits he]
      rfl
    · rfl
  | reject he hway => exact balanced_reject hc hd he hway (hok _ he)
  | publisherError =>
    exact .setReplica (fun hr _ => hr ▸ received_onPublisherDown) fun hr => hr ▸ inbox_onPublisherDown
  | publisherReady =>
    exact .setReplica (fun hr _ => hr ▸ received_onPublisherUp) fun hr => hr ▸ inbox_onPublisherUp
  | publisherEnd =>
    exact .setReplica (fun hr _ => hr ▸ received_onPublisherDown) fun hr => hr ▸ inbox_onPublisherDown
  | commandCarriedOut hlink =>
    obtain ⟨command, rest, -, rfl⟩ := Link.carryOut_cases hlink
    exact .setReplica (fun hr _ => hr ▸ rfl) fun hr => hr ▸ rfl
  | commandRefused hlink =>
    obtain ⟨command, rest, -, rfl⟩ := Link.refuse_cases hlink
    exact .setReplica (fun hr _ => hr ▸ rfl) fun hr => hr ▸ rfl
  | receive hlink => exact balanced_receive hc hd hlink hok
  | lose => exact .setReplica (fun hr => absurd hr hok) fun hr => absurd hr hok
  | closeAll => exact .setReplica (fun hr => absurd hr hok) fun hr => absurd hr hok

omit hd in
theorem covered_step (hok : Undisturbed q x s a) (hs : step true maxConnections s a = some t) :
    (t.replica q).Covered schoolId x := by
  cases takes_of_step hs with
  | connect => exact setReplica_of hc fun hr => hr ▸ hc.streamPaymentEvents
  | close => exact setReplica_of hc fun hr => hr ▸ hc.removeClient (hok hr)
  | heartbeat =>
    refine setReplica_of hc fun hr => ?_
    subst hr
    unfold SseReplica.heartbeat
    split
    · exact hc.removeClient fun heq => hok rfl (heq ▸ ‹_›)
    · exact hc.write
  | emit => exact hc
  | carryOut => exact hc.link hc.holds.deliver
  | resolve => exact hc
  | reject he => exact setReplica_of hc fun hr => hr ▸ hc.onPublisherDown.fanout (hok _ he hr)
  | publisherError => exact setReplica_of hc fun hr => hr ▸ hc.onPublisherDown
  | publisherReady => exact setReplica_of hc fun hr => hr ▸ hc.onPublisherUp
  | publisherEnd => exact setReplica_of hc fun hr => hr ▸ hc.onPublisherDown
  | commandCarriedOut hlink =>
    refine setReplica_of hc fun hr => ?_
    subst hr
    exact hc.link (hc.holds.carryOut hlink)
  | commandRefused hlink =>
    refine setReplica_of hc fun hr => ?_
    subst hr
    exact hc.link (hc.holds.refuse hlink)
  | receive hlink =>
    refine setReplica_of hc fun hr => ?_
    subst hr
    have hreceived := hc.link (hc.holds.receive hlink)
    unfold onSubscriberMessage
    split
    · exact hreceived
    · exact hreceived.fanout (hok rfl)
  | lose => exact setReplica_of hc fun hr => absurd hr hok
  | closeAll => exact setReplica_of hc fun hr => absurd hr hok

end Covered

/-- **Exactly what was sent.**  While a client whose subscription is open stays connected, the copies of
an emit for its school that it was given and that wait for it grow by exactly the times Redis carried
the publish out, and by one when its replica writes the event to its own clients. -/
theorem received_eq {connected : Nat → Bool} {s t : SseSystem} {q x id : Nat} {schoolId : String}
    {e : SseEmit} (h : Reach (step true maxConnections) Free (init true connected) s)
    (hclient : x ∈ (s.replica q).members schoolId)
    (hopen : (s.replica q).subscriber.Holds (sseChannel schoolId))
    (hrun : Reach (step true maxConnections) (Undisturbed q x) s t)
    (he : t.emits id = some e) (hschool : e.schoolId = schoolId) :
    x ∈ (t.replica q).members schoolId ∧
      (t.replica q).received x id + t.waiting q id + s.due q id =
        (s.replica q).received x id + s.waiting q id + t.due q id := by
  have hd : s.Delivered maxConnections q :=
    h.invariant (.init connected) fun hinv _ hs => delivered_step hinv hs
  obtain ⟨⟨hcovered, -⟩, hbalanced⟩ := @Reach.progress _ _ _ _
    (fun u => (u.replica q).Covered schoolId x ∧ u.Delivered maxConnections q)
    (Balanced schoolId q x) _ _ hrun ⟨⟨hclient, hopen⟩, hd⟩ .refl (fun h h' => h.trans h')
    fun hinv hok hs => ⟨⟨covered_step hinv.1 hok hs, delivered_step hinv.2 hs⟩,
      balanced_step hinv.1 hinv.2 hok hs⟩
  refine ⟨hcovered.member, (hbalanced id fun f hf => ?_).2⟩
  rw [← Option.some.inj (he.symm.trans hf)]
  exact hschool

/-- A payment is carried out, and then reported failed to the replica of its client. -/
theorem received_eq_payment :
    let s := (exec (step true 100) (init true fun _ => true)
      [.connect 0 [] "s" 7, .commandCarriedOut 0]).get (by decide)
    let t := (exec (step true 100) s [.emit 0 [] "s" "payment" (.object []) none, .carryOut 0,
      .reject 0 [] "timeout", .receive 0 []]).get (by decide)
    7 ∈ (t.replica 0).members "s" ∧
      (t.replica 0).received 7 0 + t.waiting 0 0 + s.due 0 0 =
        (s.replica 0).received 7 0 + s.waiting 0 0 + t.due 0 0 :=
  received_eq (reach_get (by decide)) (by decide) ⟨by decide, by decide⟩
    (.get (by simp [Undisturbed]) (by decide)) rfl rfl

end SseSystem

end StellarEduPay

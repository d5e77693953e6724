import StellarEduPay.OutboxCalls
import StellarEduPay.RefundService

/-! # Notifications of refunds (`services/refundService.js`, `services/paymentSavedSubscribers.js`)

Every refund operation writes an outbox event, and three of them emit `refund.status_changed` on
the event bus as well, once their transaction has committed.  The dispatcher delivers the outbox
through the same bus, where `refund.status_changed` is the only refund event with a subscriber.

So what is announced on both channels reaches the subscriber twice, and what nobody subscribed to
is dead-lettered.
-/
namespace StellarEduPay
open Runs Checks Function

/-! ## Two channels -/

def OutboxEvent.eventType : OutboxEvent → String
  | .paymentSaved _ => "payment.saved"
  | .refundInitiated .. => "refund.initiated"
  | .refundApproved .. => "refund.approved"
  | .refundRejected .. => "refund.rejected"
  | .refundCompleted .. | .refundStatusChanged .. => "refund.status_changed"

/-- The event a call emits on the bus after its transaction. -/
def RefundCall.emits : RefundCall → Option String
  | .rejectRefund .. | .completeRefund .. | .updateRefundStatus .. => some "refund.status_changed"
  | .initiateRefund .. | .approveRefund .. => none

/-- The type of the event a call writes to the outbox. -/
def RefundCall.writes : RefundCall → String
  | .initiateRefund .. => "refund.initiated"
  | .approveRefund .. => "refund.approved"
  | .rejectRefund .. => "refund.rejected"
  | .completeRefund .. | .updateRefundStatus .. => "refund.status_changed"

theorem run_writes {db db' : Db} {call : RefundCall} {refund : Refund}
    (h : call.run db = .ok (refund, db')) :
    ∃ event, db'.outbox = db.outbox ++ [event] ∧ event.eventType = call.writes := by
  cases call with
  | initiateRefund lockFree newId args =>
    obtain ⟨_, _, _, -, -, -, -, rfl⟩ := initiateRefund_ok_iff.mp h
    exact ⟨_, rfl, rfl⟩
  | approveRefund refundId principal schoolId =>
    simp only [RefundCall.run, approveRefund, orThrow_bind_ok_iff, require_bind_ok_iff, pure_ok_iff,
      Prod.mk.injEq] at h
    obtain ⟨_, -, _, -, -, -, _, -, -, rfl⟩ := h
    exact ⟨_, rfl, rfl⟩
  | rejectRefund lockFree refundId principal rejectReason schoolId =>
    obtain ⟨_, _, _, _, -, -, -, -, rfl⟩ := rejectRefund_ok_iff.mp h
    exact ⟨_, rfl, rfl⟩
  | completeRefund lockFree refundId refundTxHash principal schoolId =>
    obtain ⟨_, _, _, _, -, -, -, rfl⟩ := completeRefund_ok_iff.mp h
    exact ⟨_, updateStudentBalance_outbox _ _ _, rfl⟩
  | updateRefundStatus lockFree refundId newStatus txHash failureReason schoolId =>
    simp only [RefundCall.run, updateRefundStatus, bind_ok_iff, orThrow_ok_iff, pure_ok_iff,
      Prod.mk.injEq, Prod.exists] at h
    obtain ⟨_, _, -, _, -, -, rfl⟩ := h
    exact ⟨_, rfl, rfl⟩

/-! ## Operations and dispatch -/

/-- An accepted call, with the `eventId` of the event it wrote. -/
structure AcceptedRefund where
  eventId : String
  call : RefundCall

/-- The refunds with their outbox.  The calls of subscribers that the bus made for `emit`, and the
accepted calls, which nothing stores, are kept beside them; a call of a subscriber goes under the
`eventId` of the change it is for. -/
structure RefundNotices where
  db : Db
  outbox : OutboxSystem
  emitted : List Delivery
  accepted : List AcceptedRefund

inductive NoticeAction
  | call (pid : Nat) (eventId : String) (call : RefundCall)
  | dispatch (action : OutboxAction)

def RefundNotices.start (db : Db) : RefundNotices where
  db := db
  outbox := .start fun _ => registerPaymentSavedSubscribers
  emitted := []
  accepted := []

/-- A refund operation in a process, or a step of the dispatch. -/
def noticeStep (cfg : OutboxConfig) (s : RefundNotices) : NoticeAction → Option RefundNotices
  | .call pid eventId call =>
    match call.run s.db with
    | .error _ => some s
    | .ok (_, db) =>
      db.outbox.getLast?.bind fun event =>
        (outboxStep cfg s.outbox (.publish eventId event.eventType)).map fun outbox =>
          { db := db
            outbox := outbox
            emitted := (call.emits.toList.flatMap (s.outbox.registry pid)).map
              (fun listener => .invoked eventId listener.fn) ++ s.emitted
            accepted := ⟨eventId, call⟩ :: s.accepted }
  | .dispatch action => (outboxStep cfg s.outbox action).map fun outbox =>
      { s with outbox := outbox }

theorem notice_call {cfg : OutboxConfig} {s t : RefundNotices} {pid : Nat} {eventId : String}
    {call : RefundCall} (h : noticeStep cfg s (.call pid eventId call) = some t) :
    t = s ∨ ∃ db outbox, outboxStep cfg s.outbox (.publish eventId call.writes) = some outbox ∧
      t = { db := db, outbox := outbox
            emitted := (call.emits.toList.flatMap (s.outbox.registry pid)).map
              (fun listener => .invoked eventId listener.fn) ++ s.emitted
            accepted := ⟨eventId, call⟩ :: s.accepted } := by
  simp only [noticeStep] at h
  split at h
  · exact Or.inl (Option.some.inj h).symm
  · rename_i refund db hrun
    obtain ⟨event, houtbox, htype⟩ := run_writes hrun
    rw [houtbox, List.getLast?_concat, Option.bind_some, htype] at h
    obtain ⟨outbox, hpublish, rfl⟩ := Option.map_eq_some_iff.mp h
    exact Or.inr ⟨db, outbox, hpublish, rfl⟩

def Undisturbed (s : RefundNotices) : NoticeAction → Prop
  | .dispatch action => DispatchFailureFree s.outbox action
  | .call .. => True

/-- Only the dispatch goes on. -/
def Dispatching (s : RefundNotices) : NoticeAction → Prop
  | .dispatch action => DispatchFailureFree s.outbox action
  | .call .. => False

/-! ## What is to hold -/

/-- The webhook subscriber of `refund.status_changed`. -/
def onRefundStatusChanged : Listener := ⟨6, "onRefundStatusChanged"⟩

/-- How often the subscriber ran for a change, through either channel. -/
def RefundNotices.subscriberRuns (s : RefundNotices) (eventId : String) : Nat :=
  s.emitted.count (.invoked eventId onRefundStatusChanged.fn) +
    s.outbox.log.count (.invoked eventId onRefundStatusChanged.fn)

/-- The call moves a refund to another status. -/
def RefundCall.movesRefund : RefundCall → Bool
  | .initiateRefund .. => false
  | .approveRefund .. | .rejectRefund .. | .completeRefund .. | .updateRefundStatus .. => true

/-- **One notification**: the subscriber runs once for each change of a refund, and every event is
delivered. -/
structure OneNotification (s : RefundNotices) : Prop where
  once : ∀ a ∈ s.accepted, a.call.movesRefund = true → s.subscriberRuns a.eventId = 1
  completed : ∀ a ∈ s.accepted, ∃ e ∈ s.outbox.events.docs,
    e.id = a.eventId ∧ e.status = .completed

/-! ## What an operation announces -/

/-- The calls of subscribers an `emit` makes. -/
theorem emitted_calls (call : RefundCall) (eventId : String) :
    (call.emits.toList.flatMap registerPaymentSavedSubscribers).map
        (fun listener => Delivery.invoked eventId listener.fn) =
      if call.emits.isSome then [.invoked eventId onRefundStatusChanged.fn] else [] := by
  cases call <;> rfl

/-- **The notices of a run.**  Each accepted call has its event in the outbox, and was announced on
the bus or not. -/
structure NoticesInv (s : RefundNotices) : Prop where
  calls : CallsInv s.outbox
  written : ∀ a ∈ s.accepted, ∃ e ∈ s.outbox.events.docs,
    e.id = a.eventId ∧ e.eventType = a.call.writes
  announced : ∀ a ∈ s.accepted, s.emitted.count (.invoked a.eventId onRefundStatusChanged.fn) =
    if a.call.emits.isSome then 1 else 0
  known : ∀ id fn, .invoked id fn ∈ s.emitted → ∃ e ∈ s.outbox.events.docs, e.id = id

section Notices
variable {cfg : OutboxConfig} {s t : RefundNotices}

theorem NoticesInv.start (db : Db) : NoticesInv (.start db) where
  calls := by
    refine ⟨.init fun _ => registered_subscribers, fun _ => rfl, ?_, ?_, ?_, ?_, ?_, ?_, ?_⟩ <;>
      simp [RefundNotices.start, OutboxSystem.start, Collection.empty]
  written := by simp [RefundNotices.start]
  announced := by simp [RefundNotices.start]
  known := by simp [RefundNotices.start]

theorem NoticesInv.dispatch_step (h : NoticesInv s) {a : OutboxAction}
    (hfree : DispatchFailureFree s.outbox a)
    (hstep : noticeStep cfg s (.dispatch a) = some t) : NoticesInv t := by
  obtain ⟨outbox, houtbox, rfl⟩ := Option.map_eq_some_iff.mp hstep
  have hstays := event_stays houtbox
  refine ⟨h.calls.step hfree houtbox, fun a ha => ?_, h.announced, fun id fn hin => ?_⟩
  · obtain ⟨e, he, hid, htype⟩ := h.written a ha
    obtain ⟨e', he', hid', htype'⟩ := hstays e he
    exact ⟨e', he', hid'.trans hid, htype'.trans htype⟩
  · obtain ⟨e, he, hid⟩ := h.known id fn hin
    obtain ⟨e', he', hid', -⟩ := hstays e he
    exact ⟨e', he', hid'.trans hid⟩

theorem NoticesInv.call_step (h : NoticesInv s) {pid : Nat} {eventId : String} {call : RefundCall}
    (hstep : noticeStep cfg s (.call pid eventId call) = some t) : NoticesInv t := by
  obtain rfl | ⟨db, outbox, houtbox, rfl⟩ := notice_call hstep
  · exact h
  have hstays := event_stays houtbox
  obtain ⟨events, hins, hevents⟩ := publish_inv houtbox
  have hfresh := s.outbox.events.insert_fresh hins
  have hnew : ∃ e ∈ outbox.events.docs, e.id = eventId ∧ e.eventType = call.writes := by
    rw [hevents, s.outbox.events.insert_docs hins]
    exact ⟨_, List.mem_append_right _ (List.mem_singleton.mpr rfl), rfl, rfl⟩
  have hne : ∀ a ∈ s.accepted, a.eventId ≠ eventId := by
    intro a ha hid
    obtain ⟨e, he, heid, -⟩ := h.written a ha
    exact hfresh e he (heid.trans hid)
  have hfree : DispatchFailureFree s.outbox (.publish eventId call.writes) := trivial
  rw [h.calls.registry pid, emitted_calls]
  refine ⟨h.calls.step hfree houtbox, fun a ha => ?_, fun a ha => ?_, fun id fn hin => ?_⟩
  · rcases List.mem_cons.mp ha with rfl | ha
    · exact hnew
    · obtain ⟨e, he, hid, htype⟩ := h.written a ha
      obtain ⟨e', he', hid', htype'⟩ := hstays e he
      exact ⟨e', he', hid'.trans hid, htype'.trans htype⟩
  · rw [List.count_append]
    rcases List.mem_cons.mp ha with rfl | ha
    · -- the event is new, so nothing was emitted for it before
      have hbefore : s.emitted.count (.invoked eventId onRefundStatusChanged.fn) = 0 := by
        refine List.count_eq_zero.mpr fun hin => ?_
        obtain ⟨e, he, hid⟩ := h.known _ _ hin
        exact hfresh e he hid
      rw [hbefore]
      split <;> simp
    · have hnone : (if call.emits.isSome then [Delivery.invoked eventId onRefundStatusChanged.fn]
          else []).count (.invoked a.eventId onRefundStatusChanged.fn) = 0 := by
        split
        · rw [List.count_singleton, if_neg (by simpa using (hne a ha).symm)]
        · rfl
      rw [hnone, Nat.zero_add]
      exact h.announced a ha
  · rcases List.mem_append.mp hin with hin | hin
    · have hid : id = eventId := by
        split at hin
        · exact (Delivery.invoked.inj (List.mem_singleton.mp hin)).1
        · cases hin
      obtain ⟨e, he, heid, -⟩ := hnew
      exact ⟨e, he, heid.trans hid.symm⟩
    · obtain ⟨e, he, hid⟩ := h.known id fn hin
      obtain ⟨e', he', hid', -⟩ := hstays e he
      exact ⟨e', he', hid'.trans hid⟩

/-- **What became of an accepted call** once the dispatch has come to its end: the subscriber ran
for each channel it was announced on, and an event without a subscriber is dead. -/
theorem NoticesInv.outcome (h : NoticesInv s) (hdrained : s.outbox.Drained) {a : AcceptedRefund}
    (ha : a ∈ s.accepted) :
    s.subscriberRuns a.eventId = (if a.call.emits.isSome then 1 else 0) +
        (if a.call.writes = "refund.status_changed" then 1 else 0) ∧
      ∀ e ∈ s.outbox.events.docs, e.id = a.eventId →
        (e.status = .completed ↔ a.call.writes = "refund.status_changed") := by
  obtain ⟨e, he, hid, htype⟩ := h.written a ha
  obtain ⟨hcalls, hcompleted⟩ := h.calls.settled e he (hdrained e he)
  rw [htype] at hcalls hcompleted
  have hsubscribed : registerPaymentSavedSubscribers a.call.writes ≠ [] ↔
      a.call.writes = "refund.status_changed" := by
    cases a.call <;> simp [RefundCall.writes, registerPaymentSavedSubscribers]
  have hruns : registrations a.call.writes onRefundStatusChanged.fn =
      if a.call.writes = "refund.status_changed" then 1 else 0 := by
    cases a.call <;>
      simp [RefundCall.writes, registrations, registerPaymentSavedSubscribers, onRefundStatusChanged]
  constructor
  · rw [RefundNotices.subscriberRuns, h.announced a ha, ← hid, hcalls, hruns]
  · intro e' he' hid'
    obtain rfl := s.outbox.events.eq_of_key he he' (hid.trans hid'.symm)
    exact hcompleted.trans hsubscribed

theorem NoticesInv.step (h : NoticesInv s) {a : NoticeAction} (hok : Undisturbed s a)
    (hstep : noticeStep cfg s a = some t) : NoticesInv t := by
  cases a with
  | call pid eventId call => exact h.call_step hstep
  | dispatch action => exact h.dispatch_step hok hstep

/-- Dispatch accepts no call. -/
theorem NoticesInv.dispatching (h : NoticesInv s) (hrun : Reach (noticeStep cfg) Dispatching s t) :
    NoticesInv t ∧ t.accepted = s.accepted := by
  induction hrun with
  | refl => exact ⟨h, rfl⟩
  | @tail t u a _ hok hstep ih =>
    cases a with
    | call pid eventId call => exact hok.elim
    | dispatch action =>
      refine ⟨ih.1.dispatch_step hok hstep, ?_⟩
      obtain ⟨outbox, -, rfl⟩ := Option.map_eq_some_iff.mp hstep
      exact ih.2

/-- What the operations wrote can be dispatched to the end. -/
theorem dispatch_ends (h : NoticesInv s) :
    ∃ t, Reach (noticeStep cfg) Dispatching s t ∧ t.outbox.Drained := by
  obtain ⟨outbox, hrun, hdrained⟩ := @CallsInv.drains cfg _ h.calls
  refine ⟨{ s with outbox := outbox }, ?_, hdrained⟩
  clear hdrained
  induction hrun with
  | refl => exact .refl
  | @tail outbox next action _ hfree hstep ih =>
    exact ih.tail (a := .dispatch action) hfree (by simp only [noticeStep, hstep, Option.map_some])

end Notices

/-- **One notification** holds, however a run is dispatched to its end, exactly if no refund
operation of the run was accepted. -/
theorem one_notification_iff {cfg : OutboxConfig} {db : Db} {s : RefundNotices}
    (hrun : Reach (noticeStep cfg) Undisturbed (.start db) s) :
    (∀ t, Reach (noticeStep cfg) Dispatching s t → t.outbox.Drained → OneNotification t) ↔
      s.accepted = [] := by
  have hinv : NoticesInv s := hrun.invariant (.start db) fun h hok hstep => h.step hok hstep
  constructor
  · intro hone
    obtain ⟨t, hdispatch, hdrained⟩ := @dispatch_ends cfg _ hinv
    obtain ⟨ht, hsame⟩ := hinv.dispatching hdispatch
    refine List.eq_nil_iff_forall_not_mem.mpr fun a ha => ?_
    rw [← hsame] at ha
    obtain ⟨hruns, hstatus⟩ := ht.outcome hdrained ha
    obtain ⟨e, he, hid, hdone⟩ := (hone t hdispatch hdrained).completed a ha
    have hwrites := (hstatus e he hid).mp hdone
    -- an event with a subscriber was announced on the bus as well
    have hboth : a.call.movesRefund = true ∧ a.call.emits.isSome = true := by
      revert hwrites
      cases a.call <;> simp [RefundCall.writes, RefundCall.movesRefund, RefundCall.emits]
    have honce := (hone t hdispatch hdrained).once a ha hboth.1
    rw [hruns, if_pos hboth.2, if_pos hwrites] at honce
    cases honce
  · intro hnone t hdispatch _
    obtain ⟨-, hsame⟩ := hinv.dispatching hdispatch
    constructor <;> simp [hsame, hnone]

/-- A completion of a refund that does not exist, and an event of another service. -/
def refusedRefund : List NoticeAction :=
  [.call 0 "e1" (.completeRefund true "r1" "feed" (some ⟨"u2", "Ben"⟩) "SCH"),
    .dispatch (.publish "p1" "payment.saved")]

theorem one_notification_iff_refused : ∃ s,
    exec (noticeStep replicas) (.start paidDb) refusedRefund = some s ∧
    ∀ t, Reach (noticeStep replicas) Dispatching s t → t.outbox.Drained → OneNotification t := by
  have hrun : (exec (noticeStep replicas) (.start paidDb) refusedRefund).map
      (fun s => s.accepted.isEmpty) = some true := by decide +kernel
  obtain ⟨s, hs, hnone⟩ := Option.map_eq_some_iff.mp hrun
  have hreach : Reach (noticeStep replicas) Undisturbed (.start paidDb) s :=
    .of_exec (by simp [refusedRefund, Undisturbed, DispatchFailureFree, LeasesHold]) hs
  exact ⟨s, hs, (one_notification_iff hreach).mpr (List.isEmpty_iff.mp hnone)⟩

/-- A refund is initiated, approved and completed, and the outbox is dispatched: the events of the
first two steps are dead, and the subscriber runs twice for the third. -/
def completedRefund : List NoticeAction :=
  [.call 0 "e1"
      (.initiateRefund true "r1" ⟨"SCH", "tx1", "STU001", 1000000000, "left", some ⟨"u1", "Ada"⟩⟩),
    .call 0 "e2" (.approveRefund "r1" (some ⟨"u2", "Ben"⟩) "SCH"),
    .call 0 "e3" (.completeRefund true "r1" "feed" (some ⟨"u2", "Ben"⟩) "SCH")] ++
  [.tick 1, .claim 0 1, .finish 0, .claim 0 1, .finish 0, .claim 0 1, .invoke 0, .settle 0 none,
    .record 0, .finish 0].map .dispatch

theorem completion_notified_twice : ¬ ∀ (cfg : OutboxConfig) (db : Db) (s t : RefundNotices),
    Reach (noticeStep cfg) Undisturbed (.start db) s → Reach (noticeStep cfg) Dispatching s t →
    t.outbox.Drained → OneNotification t := by
  intro h
  have hrun : (exec (noticeStep replicas) (.start paidDb) completedRefund).map (fun s =>
      (s.outbox.events.docs.map OutboxDoc.status,
        s.accepted.head?.map fun a => (a.call.movesRefund, s.subscriberRuns a.eventId))) =
          some ([.deadLetter, .deadLetter, .completed], some (true, 2)) := by decide +kernel
  obtain ⟨s, hs, hboth⟩ := Option.map_eq_some_iff.mp hrun
  obtain ⟨hstatus, hhead⟩ := Prod.mk.inj hboth
  have hdrained : s.outbox.Drained := by
    intro e he
    have hmem : e.status ∈ s.outbox.events.docs.map OutboxDoc.status := List.mem_map_of_mem he
    rw [hstatus] at hmem
    revert hmem
    cases e.status <;> simp [OutboxStatus.terminal]
  have hreach : Reach (noticeStep replicas) Undisturbed (.start paidDb) s :=
    .of_exec (by simp [completedRefund, Undisturbed, DispatchFailureFree, LeasesHold]) hs
  obtain ⟨a, ha, hruns⟩ := Option.map_eq_some_iff.mp hhead
  obtain ⟨hmoves, htwice⟩ := Prod.mk.inj hruns
  have honce := (h replicas paidDb s s hreach .refl hdrained).once a (List.mem_of_mem_head? ha) hmoves
  rw [htwice] at honce
  cases honce

end StellarEduPay

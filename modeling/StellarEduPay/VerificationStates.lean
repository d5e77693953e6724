import StellarEduPay.PendingVerifications

/-! # Items that are not stranded, doubled or revived

As long as no replica crashes inside an item, a replica marks an item only while it is still
pending and nobody else handles it, and nobody queues an item again that is resolved and
has its payment, an item in `processing` is in exactly one replica's hands, every other item
is terminal or waiting for the next batch, and a resolved item stays resolved.
-/
namespace StellarEduPay
open Runs Function

/-- The item a replica has marked and not settled yet. -/
def RetrySystem.handling (s : RetrySystem) : Nat → Option String :=
  (fun batch => (batch.bind Batch.current).map fun h => h.item.txHash) ∘ s.replica

/-- No item is stranded and none is handled twice. -/
structure Recoverable (s : RetrySystem) : Prop where
  waiting : ∀ doc ∈ s.items.docs, (∀ replica, s.handling replica ≠ some doc.txHash) →
    doc.status.terminal = true ∨ doc.status = .pending
  alone : ∀ replica replica' txHash, s.handling replica = some txHash →
    s.handling replica' = some txHash → replica = replica'

/-- No resolved item whose payment exists is pending or dead-lettered later. -/
def NotRevived (s t : RetrySystem) : Prop :=
  ∀ doc ∈ s.items.docs, doc.status = .resolved → doc.txHash ∈ s.payments →
    ∀ doc' ∈ t.items.docs, doc'.txHash = doc.txHash →
      doc'.status ≠ .pending ∧ doc'.status ≠ .deadLetter

/-- A replica stops only between items, marks only an item that is still pending and that
nobody handles, and a resolved item whose payment exists is not queued again. -/
def Careful (s : RetrySystem) : RetryAction → Prop
  | .crash replica => s.handling replica = none
  | .next replica =>
    ∀ batch ∈ s.replica replica, ∀ item ∈ batch.due.head?,
      (∀ doc ∈ s.items.docs, doc.txHash = item.txHash → doc.status = .pending) ∧
        ∀ replica', s.handling replica' ≠ some item.txHash
  | .queue txHash _ _ _ =>
    txHash ∈ s.payments → ∀ doc ∈ s.items.docs, doc.txHash = txHash → doc.status ≠ .resolved
  | _ => True

/-- **The invariant of careful runs**: whatever is in a replica's hands is not terminal, and
whatever is `processing` is in somebody's hands, and in nobody else's. -/
structure CarefulInv (s : RetrySystem) : Prop where
  inHand : ∀ replica txHash, s.handling replica = some txHash →
    ∀ doc ∈ s.items.docs, doc.txHash = txHash → doc.status.terminal = false
  held : ∀ doc ∈ s.items.docs, doc.status = .processing →
    ∃ replica, s.handling replica = some doc.txHash
  alone : ∀ replica replica' txHash, s.handling replica = some txHash →
    s.handling replica' = some txHash → replica = replica'

theorem CarefulInv.recoverable {s : RetrySystem} (hinv : CarefulInv s) : Recoverable s where
  waiting doc hdoc hnobody := by
    cases hstatus : doc.status with
    | pending => exact Or.inr rfl
    | processing =>
      obtain ⟨replica, hheld⟩ := hinv.held doc hdoc hstatus
      exact absurd hheld (hnobody replica)
    | resolved => exact Or.inl rfl
    | deadLetter => exact Or.inl rfl
  alone := hinv.alone

theorem CarefulInv.init : CarefulInv .start where
  inHand replica txHash h := by cases h
  held doc h := by cases h
  alone replica replica' txHash h := by cases h

/-- What a step must keep of the resolved items. -/
def ResolvedKept (s t : RetrySystem) : Prop :=
  (∀ doc ∈ s.items.docs, doc.status = .resolved → doc.txHash ∈ s.payments →
    ∃ doc' ∈ t.items.docs, doc'.txHash = doc.txHash ∧ doc'.status = .resolved) ∧
  ∀ txHash ∈ s.payments, txHash ∈ t.payments

theorem ResolvedKept.refl (s : RetrySystem) : ResolvedKept s s :=
  ⟨fun doc h hstatus _ => ⟨doc, h, rfl, hstatus⟩, fun _ h => h⟩

theorem ResolvedKept.trans {s t u : RetrySystem} (h : ResolvedKept s t) (h' : ResolvedKept t u) :
    ResolvedKept s u := by
  refine ⟨fun doc hdoc hstatus hpaid => ?_, fun txHash hpaid => h'.2 _ (h.2 _ hpaid)⟩
  obtain ⟨doc', hdoc', hid, hstatus'⟩ := h.1 doc hdoc hstatus hpaid
  obtain ⟨doc'', hdoc'', hid', hstatus''⟩ := h'.1 doc' hdoc' hstatus' (hid ▸ h.2 _ hpaid)
  exact ⟨doc'', hdoc'', hid'.trans hid, hstatus''⟩

theorem ResolvedKept.notRevived {s t : RetrySystem} (h : ResolvedKept s t) : NotRevived s t := by
  intro doc hdoc hstatus hpaid doc' hdoc' hid
  obtain ⟨kept, hkept, hid', hresolved⟩ := h.1 doc hdoc hstatus hpaid
  obtain rfl := t.items.eq_of_key hkept hdoc' (hid'.trans hid.symm)
  simp [hresolved]

section Step
variable {cfg : RetryConfig} {s t : RetrySystem} {replica : Nat}

/-- The items in hand after one replica moved on. -/
theorem handling_update (s : RetrySystem) (replica : Nat) (items : VerificationQueue)
    (payments : List String) (batch : Option Batch) :
    RetrySystem.handling ⟨s.clock, items, payments, update s.replica replica batch⟩ =
      update s.handling replica ((batch.bind Batch.current).map fun h => h.item.txHash) :=
  comp_update _ _ _ _

theorem handling_of_replica {batch : Option Batch} (h : s.replica replica = batch) :
    s.handling replica = (batch.bind Batch.current).map fun h => h.item.txHash := by
  rw [← h]
  rfl

/-- A step that touches no item and takes none in hand or out of it. -/
theorem idle_step (hinv : CarefulInv s) (hitems : t.items = s.items)
    (hhandling : t.handling = s.handling) (hpayments : ∀ txHash ∈ s.payments, txHash ∈ t.payments) :
    CarefulInv t ∧ ResolvedKept s t := by
  refine ⟨⟨?_, ?_, ?_⟩, fun doc hdoc hstatus _ => ?_, hpayments⟩
  · rw [hitems, hhandling]
    exact hinv.inHand
  · rw [hitems, hhandling]
    exact hinv.held
  · rw [hhandling]
    exact hinv.alone
  · exact ⟨doc, hitems ▸ hdoc, rfl, hstatus⟩

theorem queue_item_step {txHash : String} {studentId : Option String}
    {errorMessage schoolId : String} (hinv : CarefulInv s)
    (hcareful : Careful s (.queue txHash studentId errorMessage schoolId))
    (hstep : retryStep cfg s (.queue txHash studentId errorMessage schoolId) = some t) :
    CarefulInv t ∧ ResolvedKept s t := by
  obtain ⟨items, hitems, rfl⟩ := queue_item_inv hstep
  obtain ⟨hforward, hbackward⟩ := queueForRetry_mem hitems
  refine ⟨⟨?_, ?_, hinv.alone⟩, fun doc hdoc hstatus hpaid => ?_, fun _ h => h⟩
  · intro replica hash hhand doc' hdoc' hid
    rcases hbackward doc' hdoc' with ⟨hpending, -⟩ | ⟨hold, -⟩
    · rw [hpending]
      rfl
    · exact hinv.inHand replica hash hhand doc' hold hid
  · intro doc' hdoc' hprocessing
    rcases hbackward doc' hdoc' with ⟨hpending, -⟩ | ⟨hold, -⟩
    · rw [hpending] at hprocessing
      cases hprocessing
    · exact hinv.held doc' hold hprocessing
  · obtain ⟨doc', hdoc', hid, hsame⟩ := hforward doc hdoc
    by_cases hqueued : doc.txHash = txHash
    · exact absurd hstatus (hcareful (hqueued ▸ hpaid) doc hdoc hqueued)
    · exact ⟨doc', hdoc', hid, hsame hqueued ▸ hstatus⟩

theorem redrive_step (hinv : CarefulInv s) (txHash : String) :
    let t := { s with
      items := s.items.modify txHash (redriveDeadLetter s.clock) (redriveDeadLetter_txHash s.clock) }
    CarefulInv t ∧ ResolvedKept s t := by
  -- only a dead letter changes, and it becomes pending
  have hone : ∀ doc : PendingVerification,
      (redriveDeadLetter s.clock doc = doc) ∨
        (doc.status = .deadLetter ∧ (redriveDeadLetter s.clock doc).status = .pending) := by
    intro doc
    unfold redriveDeadLetter
    split
    · exact Or.inr ⟨‹_›, rfl⟩
    · exact Or.inl rfl
  have himage : ∀ doc' ∈ (s.items.modify txHash (redriveDeadLetter s.clock)
      (redriveDeadLetter_txHash s.clock)).docs, doc' ∈ s.items.docs ∨ doc'.status = .pending := by
    intro doc' hdoc'
    obtain ⟨doc, hdoc, rfl⟩ := (s.items.mem_modify (redriveDeadLetter_txHash s.clock)).mp hdoc'
    by_cases hid : doc.txHash = txHash
    · rw [if_pos hid]
      rcases hone doc with hsame | ⟨-, hpending⟩
      · exact Or.inl (hsame.symm ▸ hdoc)
      · exact Or.inr hpending
    · rw [if_neg hid]
      exact Or.inl hdoc
  refine ⟨⟨?_, ?_, hinv.alone⟩, fun doc hdoc hstatus _ => ?_, fun _ h => h⟩
  · intro replica hash hhand doc' hdoc' hid
    rcases himage doc' hdoc' with hold | hpending
    · exact hinv.inHand replica hash hhand doc' hold hid
    · rw [hpending]
      rfl
  · intro doc' hdoc' hprocessing
    rcases himage doc' hdoc' with hold | hpending
    · exact hinv.held doc' hold hprocessing
    · rw [hpending] at hprocessing
      cases hprocessing
  · refine ⟨doc, ?_, rfl, hstatus⟩
    refine (s.items.mem_modify (redriveDeadLetter_txHash s.clock)).mpr ⟨doc, hdoc, ?_⟩
    rcases hone doc with hsame | ⟨hdead, -⟩
    · rw [hsame, ite_self]
    · rw [hdead] at hstatus
      cases hstatus

theorem mark_step {item : PendingVerification} {due : List PendingVerification}
    (hinv : CarefulInv s) (hcareful : Careful s (.next replica))
    (hbatch : s.replica replica = some ⟨item :: due, none⟩) :
    let t := { s with
      items := s.items.modify item.txHash (markProcessing s.clock) (markProcessing_txHash s.clock)
      replica := update s.replica replica (some ⟨due, some { item := item }⟩) }
    CarefulInv t ∧ ResolvedKept s t := by
  obtain ⟨hpending, hnobody⟩ := hcareful _ hbatch item rfl
  have hhandling := handling_update s replica
    (s.items.modify item.txHash (markProcessing s.clock) (markProcessing_txHash s.clock))
    s.payments (some ⟨due, some { item := item }⟩)
  have hmem : ∀ doc', doc' ∈ (s.items.modify item.txHash (markProcessing s.clock)
      (markProcessing_txHash s.clock)).docs ↔ ∃ doc ∈ s.items.docs,
        (if doc.txHash = item.txHash then markProcessing s.clock doc else doc) = doc' :=
    fun _ => s.items.mem_modify _
  have hidle : s.handling replica = none := handling_of_replica hbatch
  refine ⟨⟨?_, ?_, ?_⟩, fun doc hdoc hstatus _ => ?_, fun _ h => h⟩
  · intro replica' hash hhand doc' hdoc' hid
    obtain ⟨doc, hdoc, rfl⟩ := (hmem doc').mp hdoc'
    by_cases hmarked : doc.txHash = item.txHash
    · rw [if_pos hmarked]
      rfl
    · rw [if_neg hmarked] at hid ⊢
      rw [hhandling] at hhand
      rcases update_some_iff.mp hhand with ⟨-, rfl⟩ | ⟨-, hold⟩
      · exact absurd hid hmarked
      · exact hinv.inHand replica' hash hold doc hdoc hid
  · intro doc' hdoc' hprocessing
    rw [hhandling]
    obtain ⟨doc, hdoc, rfl⟩ := (hmem doc').mp hdoc'
    by_cases hmarked : doc.txHash = item.txHash
    · refine ⟨replica, update_some_iff.mpr (Or.inl ⟨rfl, ?_⟩)⟩
      rw [if_pos hmarked]
      exact hmarked
    · rw [if_neg hmarked] at hprocessing ⊢
      obtain ⟨replica', hheld⟩ := hinv.held doc hdoc hprocessing
      refine ⟨replica', update_some_iff.mpr (Or.inr ⟨?_, hheld⟩)⟩
      rintro rfl
      rw [hidle] at hheld
      cases hheld
  · intro replica' replica'' hash hhand hhand'
    rw [hhandling] at hhand hhand'
    rcases update_some_iff.mp hhand with ⟨rfl, rfl⟩ | ⟨-, hold⟩ <;>
      rcases update_some_iff.mp hhand' with ⟨rfl, hsame⟩ | ⟨-, hold'⟩
    · rfl
    · exact absurd hold' (hnobody _)
    · exact absurd (hsame ▸ hold) (hnobody _)
    · exact hinv.alone _ _ _ hold hold'
  · refine ⟨doc, (hmem doc).mpr ⟨doc, hdoc, if_neg fun hmarked => ?_⟩, rfl, hstatus⟩
    rw [hpending doc hdoc hmarked] at hstatus
    cases hstatus

theorem settle_item_step {item : PendingVerification} {due : List PendingVerification}
    {recorded : Bool} {outcome : ItemOutcome} (hinv : CarefulInv s)
    (hbatch : s.replica replica = some ⟨due, some ⟨item, recorded⟩⟩) :
    let t := { s with
      items := s.items.modify item.txHash (settleItem cfg s.clock item outcome)
        (settleItem_txHash cfg s.clock item outcome)
      replica := update s.replica replica (some ⟨due, none⟩) }
    CarefulInv t ∧ ResolvedKept s t := by
  have hhandling := handling_update s replica
    (s.items.modify item.txHash (settleItem cfg s.clock item outcome)
      (settleItem_txHash cfg s.clock item outcome)) s.payments (some ⟨due, none⟩)
  have hmem : ∀ doc', doc' ∈ (s.items.modify item.txHash (settleItem cfg s.clock item outcome)
      (settleItem_txHash cfg s.clock item outcome)).docs ↔ ∃ doc ∈ s.items.docs,
        (if doc.txHash = item.txHash then settleItem cfg s.clock item outcome doc else doc) = doc' :=
    fun _ => s.items.mem_modify _
  have hmine : s.handling replica = some item.txHash := handling_of_replica hbatch
  refine ⟨⟨?_, ?_, ?_⟩, fun doc hdoc hstatus _ => ?_, fun _ h => h⟩
  · intro replica' hash hhand doc' hdoc' hid
    rw [hhandling] at hhand
    obtain ⟨hne, hold⟩ := update_none_iff.mp hhand
    obtain ⟨doc, hdoc, rfl⟩ := (hmem doc').mp hdoc'
    by_cases hsettled : doc.txHash = item.txHash
    · -- nobody else has the settled item in hand
      rw [if_pos hsettled, settleItem_txHash, hsettled] at hid
      exact absurd (hinv.alone _ _ _ (hid ▸ hold) hmine) hne
    · rw [if_neg hsettled] at hid ⊢
      exact hinv.inHand replica' hash hold doc hdoc hid
  · intro doc' hdoc' hprocessing
    rw [hhandling]
    obtain ⟨doc, hdoc, rfl⟩ := (hmem doc').mp hdoc'
    by_cases hsettled : doc.txHash = item.txHash
    · rw [if_pos hsettled] at hprocessing
      exact absurd hprocessing (settleItem_status cfg s.clock item outcome doc)
    · rw [if_neg hsettled] at hprocessing ⊢
      obtain ⟨replica', hheld⟩ := hinv.held doc hdoc hprocessing
      refine ⟨replica', update_none_iff.mpr ⟨?_, hheld⟩⟩
      rintro rfl
      rw [hmine] at hheld
      exact hsettled (Option.some.inj hheld).symm
  · intro replica' replica'' hash hhand hhand'
    rw [hhandling] at hhand hhand'
    exact hinv.alone _ _ _ (update_none_iff.mp hhand).2 (update_none_iff.mp hhand').2
  · refine ⟨doc, (hmem doc).mpr ⟨doc, hdoc, if_neg fun hsettled => ?_⟩, rfl, hstatus⟩
    have hopen := hinv.inHand replica _ hmine doc hdoc hsettled
    rw [hstatus] at hopen
    cases hopen

/-- **One step** keeps the invariant and the resolved items. -/
theorem CarefulInv.step {a : RetryAction} (hinv : CarefulInv s) (hcareful : Careful s a)
    (hstep : retryStep cfg s a = some t) : CarefulInv t ∧ ResolvedKept s t := by
  cases a with
  | tick ms =>
    obtain rfl : _ = t := Option.some.inj hstep
    exact idle_step hinv rfl rfl fun _ h => h
  | queue txHash studentId errorMessage schoolId => exact queue_item_step hinv hcareful hstep
  | redrive txHash =>
    obtain rfl : _ = t := Option.some.inj hstep
    exact redrive_step hinv txHash
  | pay txHash =>
    obtain rfl : _ = t := Option.some.inj hstep
    exact idle_step hinv rfl rfl fun _ h => List.mem_cons_of_mem _ h
  | find replica reachable =>
    obtain ⟨hfree, rfl | ⟨due, rfl⟩⟩ := find_inv hstep
    · exact ⟨hinv, .refl _⟩
    · have hidle : s.handling replica = none := handling_of_replica hfree
      refine idle_step hinv rfl ((handling_update _ _ _ _ _).trans ?_) fun _ h => h
      exact (congrArg (update s.handling replica) hidle.symm).trans (update_eq_self _ _)
  | next replica =>
    rcases next_inv hstep with ⟨item, due, hbatch, rfl⟩ | ⟨hbatch, rfl⟩
    · exact mark_step hinv hcareful hbatch
    · have hidle : s.handling replica = none := handling_of_replica hbatch
      refine idle_step hinv rfl ((handling_update _ _ _ _ _).trans ?_) fun _ h => h
      exact (congrArg (update s.handling replica) hidle.symm).trans (update_eq_self _ _)
  | record replica =>
    obtain ⟨due, item, hbatch, rfl⟩ := record_item_inv hstep
    have hmine : s.handling replica = some item.txHash := handling_of_replica hbatch
    refine idle_step hinv rfl ((handling_update _ _ _ _ _).trans ?_) fun _ h => List.mem_cons_of_mem _ h
    exact (congrArg (update s.handling replica) hmine.symm).trans (update_eq_self _ _)
  | settle replica outcome =>
    obtain ⟨due, item, recorded, hbatch, rfl⟩ := settle_item_inv hstep
    exact settle_item_step hinv hbatch
  | crash replica =>
    obtain rfl : _ = t := Option.some.inj hstep
    refine idle_step hinv rfl ((handling_update _ _ _ _ _).trans ?_) fun _ h => h
    exact (congrArg (update s.handling replica) hcareful.symm).trans (update_eq_self _ _)

end Step

/-- **No verification is stranded, doubled or revived** in a run of careful replicas: every
state of it is recoverable, and a resolved item whose payment exists stays out of `pending`
and `dead_letter` for the rest of it. -/
theorem verifications_not_stranded {cfg : RetryConfig} {s t : RetrySystem}
    (hs : Reach (retryStep cfg) Careful .start s) (ht : Reach (retryStep cfg) Careful s t) :
    Recoverable t ∧ NotRevived s t := by
  have hinv : CarefulInv s :=
    hs.invariant .init fun h hcareful hstep => (h.step hcareful hstep).1
  have hboth : CarefulInv t ∧ ResolvedKept s t :=
    ht.progress hinv (.refl s) ResolvedKept.trans fun h hcareful hstep => h.step hcareful hstep
  exact ⟨hboth.1.recoverable, hboth.2.notRevived⟩

/-- A transaction reported during an outage. -/
def outageAction : RetryAction := .queue "ab12" none "Horizon unreachable" "SCH-1"

/-- One replica finds the item, records its payment and resolves it. -/
theorem verifications_not_stranded_outage : ∃ s t : RetrySystem,
    (Recoverable t ∧ NotRevived s t) ∧ s.items.docs.map (·.status) = [.pending] ∧
      t.items.docs.map (·.status) = [.resolved] ∧ t.payments = ["ab12"] := by
  have hs : Reach (retryStep {}) Careful .start _ :=
    .tail .refl (show Careful _ outageAction from fun h => by cases h) rfl
  refine ⟨_, _, verifications_not_stranded hs
    (.tail (.tail (.tail (.tail .refl
      (show Careful _ (.find 1 true) from trivial) rfl)
      (show Careful _ (.next 1) from fun batch hbatch item hitem => ?_) rfl)
      (show Careful _ (.record 1) from trivial) rfl)
      (show Careful _ (.settle 1 .resolved) from trivial) rfl), rfl, rfl, rfl⟩
  obtain rfl := Option.some.inj hbatch
  obtain rfl := Option.some.inj hitem
  refine ⟨by decide, fun replica' => ?_⟩
  by_cases hone : replica' = 1
  · simp [RetrySystem.handling, hone]
  · simp [RetrySystem.handling, RetrySystem.start, hone]

/-- A replica that crashes inside an item leaves it in `processing`, which no batch picks up. -/
theorem crash_strands_item :
    ¬ ∀ s t : RetrySystem, Reach (retryStep {}) Free .start s → Reach (retryStep {}) Free s t →
      Recoverable t ∧ NotRevived s t := by
  intro h
  obtain ⟨t, ht, hnobody, hstatus⟩ : ∃ t : RetrySystem,
      exec (retryStep {}) .start [outageAction, .find 1 true, .next 1, .crash 1] = some t ∧
        (∀ replica, t.handling replica = none) ∧ t.items.docs.map (·.status) = [.processing] := by
    refine ⟨_, rfl, fun replica => ?_, rfl⟩
    simp [RetrySystem.handling, RetrySystem.start]
  obtain ⟨hrecoverable, -⟩ := h .start t .refl (reach_of_exec ht)
  obtain ⟨doc, hdoc, hprocessing⟩ := List.mem_map.mp (hstatus ▸ List.mem_singleton_self _)
  have hwaiting := hrecoverable.waiting doc hdoc fun replica => by simp [hnobody replica]
  simp [hprocessing, VerificationStatus.terminal] at hwaiting

end StellarEduPay

import StellarEduPay.Disputes
import StellarEduPay.Runs

/-! # What a dispute leaves behind

Two things should follow from the disputes of a payment: when a dispute is denied the
payment is back where it was, and a student is on hold exactly while one of the student's
disputes is active.  Neither is recorded as such.  The payment takes a status that is a
function of the dispute's, so a denied dispute always leaves `SUCCESS`; the hold is one
flag for all disputes of a student, raised when a dispute is flagged and dropped when any
of them ends.
-/
namespace StellarEduPay
open Runs

def disputeStep (s : DisputeStore) (op : DisputeOp) : Option DisputeStore := some (op.apply s)

/-! ## The payment of a denied dispute -/

/-- The operation, if it is accepted, moves a dispute of this payment. -/
def DisputeOp.On (payment : String × String) (s : DisputeStore) (op : DisputeOp) : Prop :=
  ∀ r ∈ (op.run s).toOption, r.1.payment = payment

instance (payment : String × String) (s : DisputeStore) (op : DisputeOp) :
    Decidable (op.On payment s) :=
  inferInstanceAs (Decidable (∀ r ∈ (op.run s).toOption, r.1.payment = payment))

section Denied
variable {s u v : DisputeStore} {row : Payment} {payment : String × String}

/-- `u` differs from `s` in the status of `row`, as far as payments go. -/
def RowMoved (s u : DisputeStore) (row : Payment) : Prop :=
  ∃ st, u.db.payments = s.db.payments.save { row with status := st }

/-- The first live row of a transaction is still the first after its status changed. -/
theorem findPaymentByTx_moved {db db' : Db} {schoolId txHash : String} {st : PaymentStatus}
    (hrow : db.findPaymentByTx schoolId txHash = some row)
    (hpay : db'.payments = db.payments.save { row with status := st }) :
    db'.findPaymentByTx schoolId txHash = some { row with status := st } := by
  have hmem := Db.findPayment_mem hrow
  unfold Db.findPaymentByTx Db.findPayment at hrow ⊢
  rw [hpay, Collection.findOne_save, hrow]
  · simp
  · intro e he hk
    obtain rfl := db.payments.eq_of_key he hmem hk
    rfl

theorem run_rowMoved {op : DisputeOp} {d : Dispute}
    (hrow : s.db.findPaymentByTx payment.1 payment.2 = some row) (hmoved : RowMoved s u row)
    (hrun : op.run u = .ok (d, v)) (hd : d.payment = payment) :
    v.db.payments = s.db.payments.save { row with status := d.status.paymentStatus } := by
  obtain ⟨st, hpay⟩ := hmoved
  subst hd
  have hfind : u.db.findPaymentByTx d.schoolId d.txHash = some { row with status := st } :=
    findPaymentByTx_moved hrow hpay
  rw [DisputeOp.run_db hrun, syncPaymentStatus_payments hfind, hpay]
  exact s.db.payments.save_save rfl

theorem reach_rowMoved (hrow : s.db.findPaymentByTx payment.1 payment.2 = some row)
    (hrun : Reach disputeStep (DisputeOp.On payment) s u) : RowMoved s u row := by
  induction hrun with
  | refl => exact ⟨row.status, (s.db.payments.save_of_mem (Db.findPayment_mem hrow)).symm⟩
  | @tail t u op _ hon hstep ih =>
    obtain rfl := Option.some.inj hstep
    cases hop : op.run t with
    | error e => rwa [DisputeOp.apply_error hop]
    | ok r =>
      rw [DisputeOp.apply_ok hop]
      exact ⟨_, run_rowMoved hrow ih hop (hon r (by rw [hop]; rfl))⟩

end Denied

/-- **A denied dispute.**  A dispute of `row` is opened in `s`; after any run of operations on
the same payment one of its disputes is denied.  The payment's status and the student's paid
total are those of `s` exactly when the payment was `SUCCESS` there. -/
theorem denied_dispute_along_runs {s t u v : DisputeStore} {newId disputeId schoolId : String}
    {flag : FlagBody} {user : Actor} {body : ResolveBody} {now : Nat} {dispute denied : Dispute}
    {row : Payment} (hrow : s.db.findPaymentByTx schoolId dispute.txHash = some row)
    (hopened : flagDispute s newId schoolId flag = .ok (dispute, t))
    (hrun : Reach disputeStep (DisputeOp.On dispute.payment) t u)
    (hdenied : resolveDispute u disputeId schoolId user body now = .ok (denied, v))
    (hsame : denied.payment = dispute.payment) (hst : denied.status = .rejected) :
    ((v.db.findPaymentByTx schoolId dispute.txHash).map Payment.status = some row.status ∧
        sumCanonicalPayments v.db schoolId row.studentId none =
          sumCanonicalPayments s.db schoolId row.studentId none) ↔
      row.status = .success := by
  obtain ⟨-, hacc, -, -⟩ := flagDispute_ok_iff.mp hopened
  obtain ⟨-, -, -, rfl, -⟩ := checkFlagDispute_ok hacc.check
  -- the opening is the first operation of the run
  have hfirst : DisputeOp.run s (.flagDispute newId dispute.schoolId flag) = .ok (dispute, t) :=
    hopened
  have hon : DisputeOp.On dispute.payment s (.flagDispute newId dispute.schoolId flag) := by
    intro r hr
    rw [hfirst] at hr
    cases hr
    rfl
  have hmoved : RowMoved s u row :=
    reach_rowMoved hrow (hrun.head hon (congrArg some (DisputeOp.apply_ok hfirst)))
  have hlast : DisputeOp.run u (.resolveDispute disputeId dispute.schoolId user body now) =
      .ok (denied, v) := hdenied
  have hpay := run_rowMoved hrow hmoved hlast hsame
  rw [hst] at hpay
  rw [findPaymentByTx_moved hrow hpay]
  constructor
  · rintro ⟨hstatus, -⟩
    exact (Option.some.inj hstatus).symm
  · intro hsuccess
    have hsamerow : ({ row with status := DisputeStatus.rejected.paymentStatus } : Payment) = row := by
      rw [DisputeStatus.paymentStatus, ← hsuccess]
    rw [hsamerow, s.db.payments.save_of_mem (Db.findPayment_mem hrow)] at hpay
    refine ⟨by rw [hsamerow]; rfl, ?_⟩
    simp only [sumCanonicalPayments, hpay]

/-- The dispute of `paidRow`, denied. -/
def deniedDispute : Dispute :=
  { openedDispute with
    status := .rejected
    resolvedBy := some "admin@school"
    resolutionNote := some "checked"
    resolvedAt := some 1 }

/-- The dispute is reviewed, decided for the parent and opened again. -/
def reopenedState : DisputeStore :=
  [parentFlags "d1" "tx1", administratorMoves "d1" "under_review",
    administratorMoves "d1" "resolved", administratorMoves "d1" "open"].foldl DisputeOp.apply undisputed

theorem denied_dispute_along_runs_reopened :
    ((DisputeOp.apply reopenedState (administratorMoves "d1" "rejected")).db.findPaymentByTx
        "SCH" "tx1").map Payment.status = some .success := by
  have hrun : Reach disputeStep (DisputeOp.On ("SCH", "tx1"))
      (DisputeOp.apply undisputed (parentFlags "d1" "tx1")) reopenedState := by
    refine .tail (a := administratorMoves "d1" "open") (.tail (a := administratorMoves "d1" "resolved")
      (.tail (a := administratorMoves "d1" "under_review") .refl ?_ rfl) ?_ rfl) ?_ rfl
    · decide +kernel
    · decide +kernel
    · decide +kernel
  have hopened : flagDispute undisputed "d1" "SCH" (parentDisputes "tx1") =
      .ok (openedDispute, DisputeOp.apply undisputed (parentFlags "d1" "tx1")) := rfl
  have hdenied : resolveDispute reopenedState "d1" "SCH" administrator (decision "rejected") 1 =
      .ok (deniedDispute, DisputeOp.apply reopenedState (administratorMoves "d1" "rejected")) := rfl
  have hrow : undisputed.db.findPaymentByTx "SCH" openedDispute.txHash = some paidRow := rfl
  exact ((denied_dispute_along_runs hrow hopened hrun hdenied rfl rfl).mpr rfl).1

/-- The store with the payment failed on the network. -/
def failedPaymentStore : DisputeStore :=
  { undisputed with
    db := { paidDb with payments := ⟨[{ paidRow with status := .failed }], by decide⟩ } }

/-- A dispute of a failed payment, denied, turns it into a payment that was received. -/
theorem denied_dispute_credits_failed_payment :
    ¬ ∀ (s t u v : DisputeStore) (newId disputeId schoolId : String) (flag : FlagBody)
      (user : Actor) (body : ResolveBody) (now : Nat) (dispute denied : Dispute) (row : Payment),
      s.db.findPaymentByTx schoolId dispute.txHash = some row →
      flagDispute s newId schoolId flag = .ok (dispute, t) →
      Reach disputeStep (DisputeOp.On dispute.payment) t u →
      resolveDispute u disputeId schoolId user body now = .ok (denied, v) →
      denied.id = dispute.id → denied.payment = dispute.payment → denied.status = .rejected →
      (v.db.findPaymentByTx schoolId dispute.txHash).map Payment.status = some row.status ∧
        sumCanonicalPayments v.db schoolId row.studentId none =
          sumCanonicalPayments s.db schoolId row.studentId none := by
  intro h
  have hwrong := h failedPaymentStore _ _ _ "d1" "d1" "SCH" (parentDisputes "tx1") administrator
    (decision "rejected") 1 openedDispute deniedDispute { paidRow with status := .failed }
    rfl rfl .refl rfl rfl rfl rfl
  revert hwrong
  decide +kernel

/-! ## The hold on a student -/

/-- The student has a dispute that is open or under review. -/
def ActiveDispute (s : DisputeStore) (o : String × String) : Prop :=
  ∃ d ∈ s.disputes.docs, d.owner = o ∧ d.status.active = true

/-- Besides `d`, the student has a dispute that is open or under review. -/
def OtherActive (s : DisputeStore) (d : Dispute) : Prop :=
  ∃ e ∈ s.disputes.docs, e.id ≠ d.id ∧ e.owner = d.owner ∧ e.status.active = true

/-- **The hold mirrors the active disputes** of the student. -/
def HoldMirrors (o : String × String) (s : DisputeStore) : Prop :=
  s.disputeHold o = true ↔ ActiveDispute s o

instance (o : String × String) (s : DisputeStore) : Decidable (HoldMirrors o s) :=
  inferInstanceAs (Decidable (s.disputeHold o = true ↔
    ∃ d ∈ s.disputes.docs, d.owner = o ∧ d.status.active = true))

/-- The student's document is there, and not deleted. -/
def Enrolled (s : DisputeStore) (o : String × String) : Prop :=
  (s.db.findStudent o.1 o.2).isSome = true

instance (s : DisputeStore) (o : String × String) : Decidable (Enrolled s o) :=
  inferInstanceAs (Decidable (_ = true))

/-- The condition on the state an operation starts from, if it is accepted and about the
student: a flag needs the student's document, or another active dispute; the end of a dispute
drops the hold, so it must be the last active one (or the hold stays, as the document is gone,
and it must not be); a dispute put back to an active status raises no hold, so there must be
an active one. -/
def HoldSafe (o : String × String) (s : DisputeStore) : DisputeOp → Prop
  | .flagDispute newId schoolId flag =>
      ∀ dispute, FlagAccepted s newId schoolId flag dispute → dispute.owner = o →
        Enrolled s o ∨ ActiveDispute s o
  | .resolveDispute disputeId schoolId user body now =>
      ∀ tr dispute, ResolveAccepted s disputeId schoolId user body now tr dispute →
        dispute.owner = o →
        if tr.newStatus.terminal then (Enrolled s o ↔ ¬ OtherActive s dispute)
        else ActiveDispute s o

section Hold
variable {s t : DisputeStore} {o : String × String}

theorem activeDispute_create {d : Dispute} {c : DisputeCollection}
    (hcreate : s.disputes.create d = some c) (hc : t.disputes = c) :
    ActiveDispute t o ↔ ActiveDispute s o ∨ d.owner = o ∧ d.status.active = true := by
  simp only [ActiveDispute, hc, s.disputes.create_docs hcreate, List.mem_append,
    List.mem_singleton, or_and_right, exists_or, exists_eq_left]

section Transitioned
variable {d : Dispute} {tr : DisputeTransition} {now : Nat} {c : DisputeCollection}

theorem activeDispute_transitioned (hd : d ∈ s.disputes.docs)
    (hup : s.disputes.update (transitioned d tr now) = some c) (hc : t.disputes = c) :
    ActiveDispute t d.owner ↔ OtherActive s d ∨ tr.newStatus.active = true := by
  unfold ActiveDispute OtherActive
  rw [hc, s.disputes.update_toCollection hup]
  constructor
  · rintro ⟨e, he, heo, hea⟩
    rcases s.disputes.mem_save.mp he with ⟨rfl, -⟩ | ⟨he, hne⟩
    · exact Or.inr hea
    · exact Or.inl ⟨e, he, hne, heo, hea⟩
  · rintro (⟨e, he, hne, heo, hea⟩ | hactive)
    · exact ⟨e, s.disputes.mem_save.mpr (Or.inr ⟨he, hne⟩), heo, hea⟩
    · exact ⟨transitioned d tr now, s.disputes.mem_save.mpr (Or.inl ⟨rfl, d, hd, rfl⟩), rfl, hactive⟩

theorem activeDispute_transitioned_other (hd : d ∈ s.disputes.docs)
    (hup : s.disputes.update (transitioned d tr now) = some c) (hc : t.disputes = c)
    (ho : d.owner ≠ o) : ActiveDispute t o ↔ ActiveDispute s o := by
  unfold ActiveDispute
  rw [hc, s.disputes.update_toCollection hup]
  constructor
  · rintro ⟨e, he, heo, hea⟩
    rcases s.disputes.mem_save.mp he with ⟨rfl, -⟩ | ⟨he, -⟩
    · exact absurd heo ho
    · exact ⟨e, he, heo, hea⟩
  · rintro ⟨e, he, heo, hea⟩
    refine ⟨e, s.disputes.mem_save.mpr (Or.inr ⟨he, fun hk => ho ?_⟩), heo, hea⟩
    obtain rfl := s.disputes.eq_of_key he hd hk
    exact heo

end Transitioned

theorem flagDispute_hold_iff (h : HoldMirrors o s) (newId schoolId : String) (flag : FlagBody) :
    HoldMirrors o (DisputeOp.apply s (.flagDispute newId schoolId flag)) ↔
      HoldSafe o s (.flagDispute newId schoolId flag) := by
  cases hrun : DisputeOp.run s (.flagDispute newId schoolId flag) with
  | error e =>
    rw [DisputeOp.apply_error hrun]
    exact iff_of_true h fun dispute hacc => absurd hacc (not_flagAccepted hrun dispute)
  | ok r =>
    obtain ⟨dispute, t⟩ := r
    obtain ⟨disputes, hacc, hcreate, ht⟩ := flagDispute_ok_iff.mp hrun
    obtain ⟨-, -, -, -, hst⟩ := checkFlagDispute_ok hacc.check
    have hsafe : HoldSafe o s (.flagDispute newId schoolId flag) ↔
        (dispute.owner = o → Enrolled s o ∨ ActiveDispute s o) := by
      refine ⟨fun hsafe => hsafe dispute hacc, fun hsafe dispute' hacc' => ?_⟩
      rw [hacc.unique hacc']
      exact hsafe
    have hactive : ActiveDispute t o ↔ ActiveDispute s o ∨ dispute.owner = o := by
      rw [activeDispute_create hcreate (by rw [ht]), hst]
      simp [DisputeStatus.active, DisputeStatus.terminal]
    have hhold : t.disputeHold o =
        if o = dispute.owner ∧ Enrolled s dispute.owner then true else s.disputeHold o := by
      rw [ht]
      exact setHold_disputeHold dispute.studentId true o
    rw [DisputeOp.apply_ok hrun, hsafe, HoldMirrors, hactive, hhold]
    by_cases ho : dispute.owner = o
    · subst ho
      by_cases he : Enrolled s dispute.owner
      · simp [he]
      · have hold : s.disputeHold dispute.owner = true ↔ ActiveDispute s dispute.owner := h
        simp [he, hold]
    · simp only [Ne.symm ho, ho, false_and, if_false, or_false, false_implies, iff_true]
      exact h

theorem resolveDispute_hold_iff (h : HoldMirrors o s) (disputeId schoolId : String) (user : Actor)
    (body : ResolveBody) (now : Nat) :
    HoldMirrors o (DisputeOp.apply s (.resolveDispute disputeId schoolId user body now)) ↔
      HoldSafe o s (.resolveDispute disputeId schoolId user body now) := by
  cases hrun : DisputeOp.run s (.resolveDispute disputeId schoolId user body now) with
  | error e =>
    rw [DisputeOp.apply_error hrun]
    exact iff_of_true h fun tr dispute hacc => absurd hacc (not_resolveAccepted hrun tr dispute)
  | ok r =>
    obtain ⟨updated, t⟩ := r
    obtain ⟨tr, dispute, disputes, hacc, hup, -, ht⟩ := resolveDispute_ok_iff.mp hrun
    obtain ⟨hmem, -, hschool⟩ := findDispute_mem hacc.found
    have hsafe : HoldSafe o s (.resolveDispute disputeId schoolId user body now) ↔
        (dispute.owner = o → if tr.newStatus.terminal then (Enrolled s o ↔ ¬ OtherActive s dispute)
          else ActiveDispute s o) := by
      refine ⟨fun hsafe => hsafe tr dispute hacc, fun hsafe tr' dispute' hacc' => ?_⟩
      obtain ⟨rfl, rfl⟩ := hacc.unique hacc'
      exact hsafe
    have hdisputes : t.disputes = disputes := by rw [ht]
    have hhold : t.disputeHold o = if tr.newStatus.terminal = true ∧ o = dispute.owner ∧
        Enrolled s dispute.owner then false else s.disputeHold o := by
      rw [ht]
      dsimp only
      by_cases hterminal : tr.newStatus.terminal = true
      · rw [if_pos hterminal, setHold_disputeHold, ← hschool]
        simp only [hterminal, true_and]
        rfl
      · simp [hterminal]
    rw [DisputeOp.apply_ok hrun, hsafe, HoldMirrors, hhold]
    by_cases ho : dispute.owner = o
    · subst ho
      rw [activeDispute_transitioned hmem hup hdisputes]
      by_cases hterminal : tr.newStatus.terminal = true
      · -- the dispute was active, so the hold was there before
        have hactive : ActiveDispute s dispute.owner :=
          ⟨dispute, hmem, rfl, hacc.active_of_terminal hterminal⟩
        have hold := (show s.disputeHold dispute.owner = true ↔ _ from h).mpr hactive
        by_cases he : Enrolled s dispute.owner <;>
          simp [hterminal, DisputeStatus.active, he, hold]
      · have hold : s.disputeHold dispute.owner = true ↔ ActiveDispute s dispute.owner := h
        simp [hterminal, DisputeStatus.active, hold]
    · rw [activeDispute_transitioned_other hmem hup hdisputes ho]
      simp only [Ne.symm ho, ho, false_and, and_false, if_false, false_implies, iff_true]
      exact h

/-- **An operation keeps the mirror exactly when it is safe.** -/
theorem holdMirrors_apply_iff (h : HoldMirrors o s) (op : DisputeOp) :
    HoldMirrors o (op.apply s) ↔ HoldSafe o s op := by
  cases op with
  | flagDispute newId schoolId flag => exact flagDispute_hold_iff h newId schoolId flag
  | resolveDispute disputeId schoolId user body now =>
    exact resolveDispute_hold_iff h disputeId schoolId user body now

end Hold

/-- **The hold along runs.**  From a state where it mirrors the student's active disputes, it
does so after every run of safe operations, on any payments; and safety is exactly what the
next operation needs. -/
theorem hold_mirrors_along_runs {o : String × String} {s t : DisputeStore} (h0 : HoldMirrors o s)
    (hrun : Reach disputeStep (HoldSafe o) s t) :
    HoldMirrors o t ∧ ∀ op : DisputeOp, HoldMirrors o (op.apply t) ↔ HoldSafe o t op := by
  have h : HoldMirrors o t := hrun.invariant h0 fun {t op u} ht hsafe hstep => by
    obtain rfl := Option.some.inj hstep
    exact (holdMirrors_apply_iff ht op).mpr hsafe
  exact ⟨h, holdMirrors_apply_iff h⟩

/-- A dispute is flagged, reviewed and denied. -/
theorem hold_mirrors_along_runs_denied :
    ∃ t, exec disputeStep undisputed [parentFlags "d1" "tx1",
        administratorMoves "d1" "under_review", administratorMoves "d1" "rejected"] = some t ∧
      HoldMirrors ("SCH", "STU001") t ∧ t.disputeHold ("SCH", "STU001") = false := by
  have h0 : HoldMirrors ("SCH", "STU001") undisputed := by decide +kernel
  have h1 : HoldMirrors ("SCH", "STU001") (DisputeOp.apply undisputed (parentFlags "d1" "tx1")) := by
    decide +kernel
  have h2 : HoldMirrors ("SCH", "STU001")
      (DisputeOp.apply (DisputeOp.apply undisputed (parentFlags "d1" "tx1"))
        (administratorMoves "d1" "under_review")) := by
    decide +kernel
  have hrun : Reach disputeStep (HoldSafe ("SCH", "STU001")) undisputed
      ([parentFlags "d1" "tx1", administratorMoves "d1" "under_review",
        administratorMoves "d1" "rejected"].foldl DisputeOp.apply undisputed) := by
    refine .tail (a := administratorMoves "d1" "rejected")
      (.tail (a := administratorMoves "d1" "under_review")
        (.tail (a := parentFlags "d1" "tx1") .refl ?_ rfl) ?_ rfl) ?_ rfl
    · exact (holdMirrors_apply_iff h0 _).mp h1
    · exact (holdMirrors_apply_iff h1 _).mp h2
    · exact (holdMirrors_apply_iff h2 _).mp (by decide +kernel)
  exact ⟨_, rfl, (hold_mirrors_along_runs h0 hrun).1, by decide +kernel⟩

/-- A denied dispute that is opened again puts nobody on hold. -/
theorem reopened_dispute_without_hold :
    ¬ ∀ o s t, HoldMirrors o s → Reach disputeStep Free s t → HoldMirrors o t := by
  intro h
  have hrun := reach_of_exec (show exec disputeStep undisputed
    [parentFlags "d1" "tx1", administratorMoves "d1" "rejected", administratorMoves "d1" "open"] =
      some _ from rfl)
  have hwrong := h ("SCH", "STU001") undisputed _ (by decide +kernel) hrun
  revert hwrong
  decide +kernel

end StellarEduPay

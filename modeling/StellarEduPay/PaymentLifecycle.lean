import StellarEduPay.Disputes
import StellarEduPay.PaymentAdmin
import StellarEduPay.PaymentRecording
import StellarEduPay.Runs

/-! # The lifecycle of a payment's status

The transition table is declared once, and only `applyStatusTransition` consults it.
`submitTransaction`, the refund service and the dispute handlers assign the status
themselves and save; the comment on `_syncPaymentStatus` counts on a guard at save time,
but the model's only hook derives other fields from the status.

A write of one row is an edge of the table exactly when the row's status is among the
`sourcesOf` the new one.  `LifecycleSafe` says it of each operation, in terms of the
state the operation starts from.
-/
namespace StellarEduPay
open Runs

abbrev PaymentRows := Collection Payment (String × String × Nat) Payment.key

/-! ## The system -/

/-- An operation that may change a payment's status. -/
inductive LifecycleOp
  | submitTransaction (req : SubmitRequest) (horizon : HorizonSubmission)
  | applyStatusTransition (schoolId txHash : String) (newStatus : PaymentStatus)
  | refund (call : RefundCall)
  | dispute (op : DisputeOp)

/-- The store after an operation. -/
def LifecycleOp.apply (s : DisputeStore) : LifecycleOp → DisputeStore
  | .submitTransaction req horizon =>
      { s with db := (StellarEduPay.submitTransaction s.db req horizon).2 }
  | .applyStatusTransition schoolId txHash newStatus =>
      match StellarEduPay.applyStatusTransition s.db schoolId txHash newStatus with
      | .error _ => s
      | .ok (_, _, db) => { s with db := db }
  | .refund call => { s with db := call.apply s.db }
  | .dispute op => op.apply s

def lifecycleStep (s : DisputeStore) (op : LifecycleOp) : Option DisputeStore := some (op.apply s)

/-- The `PENDING` row a submission finds, if it is not refused before it looks. -/
def submissionRow (db : Db) (req : SubmitRequest) : Option Payment :=
  (req.memo.filter (· ≠ "")).bind fun memo =>
    match matchPendingRow db req memo with
    | .error _ => none
    | .ok row => row

/-- What an operation stores, write by write.  Only a submission saves a row twice. -/
def rowWrites (s : DisputeStore) (op : LifecycleOp) : List PaymentRows :=
  match op with
  | .submitTransaction req _ =>
      match submissionRow s.db req with
      | none => []
      | some row => [s.db.payments.save (submittedRow row req.normalizedHash),
          (op.apply s).db.payments]
  | _ => [(op.apply s).db.payments]

/-- No row is lost, and where a status changes it follows the administrator's table. -/
def RowsMove (rows rows' : PaymentRows) : Prop :=
  ∀ p ∈ rows.docs, ∃ q ∈ rows'.docs, q.key = p.key ∧
    (q.status = p.status ∨ q.status ∈ adminPaymentStatusTransitions p.status)

instance : DecidableRel RowsMove := fun rows rows' =>
  inferInstanceAs (Decidable (∀ p ∈ rows.docs, ∃ q ∈ rows'.docs, q.key = p.key ∧
    (q.status = p.status ∨ q.status ∈ adminPaymentStatusTransitions p.status)))

/-- **Lifecycle discipline**: every write of the operation keeps to the table. -/
def Disciplined (s : DisputeStore) (op : LifecycleOp) : Prop :=
  (s.db.payments :: rowWrites s op).IsChain RowsMove

instance (s : DisputeStore) (op : LifecycleOp) : Decidable (Disciplined s op) :=
  inferInstanceAs (Decidable (List.IsChain RowsMove _))

/-! ## Which writes are edges -/

/-- The statuses from which a row may be given status `target`. -/
def sourcesOf : PaymentStatus → List PaymentStatus
  | .success => [.success, .refundPending, .pending, .failed]
  | .refunded => [.refunded, .success, .refundPending, .disputed]
  | .disputed => [.disputed, .success, .failed]
  | .refundPending => [.refundPending, .success]
  | .failed => [.failed, .pending, .submitted]
  | .pending => [.pending]
  | .submitted => [.submitted]
  | .invalid => [.invalid]
  | .rejected => [.rejected]

theorem mem_sourcesOf {source target : PaymentStatus} :
    source ∈ sourcesOf target ↔
      target = source ∨ target ∈ adminPaymentStatusTransitions source := by
  cases source <;> cases target <;> decide

theorem RowsMove.refl (rows : PaymentRows) : RowsMove rows rows :=
  fun p hp => ⟨p, hp, rfl, Or.inl rfl⟩

/-- The write of one row. -/
theorem rowsMove_save_iff {rows : PaymentRows} {row row' : Payment} (hrow : row ∈ rows.docs)
    (hkey : row'.key = row.key) :
    RowsMove rows (rows.save row') ↔ row.status ∈ sourcesOf row'.status := by
  rw [mem_sourcesOf]
  constructor
  · intro h
    obtain ⟨q, hq, hqkey, hst⟩ := h row hrow
    rcases rows.mem_save.mp hq with ⟨rfl, -⟩ | ⟨-, hne⟩
    · exact hst
    · exact absurd (hqkey.trans hkey.symm) hne
  · intro h p hp
    by_cases hk : p.key = row'.key
    · obtain rfl := rows.eq_of_key hp hrow (hk.trans hkey)
      exact ⟨row', rows.mem_save.mpr (Or.inl ⟨rfl, p, hp, hk⟩), hk.symm, h⟩
    · exact ⟨p, rows.mem_save.mpr (Or.inr ⟨hp, hk⟩), rfl, Or.inl rfl⟩

/-- The write of one row's status. -/
theorem rowsMove_status_iff {rows : PaymentRows} {row : Payment} (hrow : row ∈ rows.docs)
    (st : PaymentStatus) :
    RowsMove rows (rows.save { row with status := st }) ↔ row.status ∈ sourcesOf st :=
  rowsMove_save_iff hrow (Payment.key_status row st)

/-- The condition on the state an operation starts from: if it gets as far as writing the
status of a row, the row is in a status the table leads on from.  A submission that finds
its row always fails it, since the table has no edge to `SUBMITTED`. -/
def LifecycleSafe (s : DisputeStore) : LifecycleOp → Prop
  | .submitTransaction req _ => submissionRow s.db req = none
  | .refund (.rejectRefund lockFree refundId principal rejectReason schoolId) =>
      ∀ p refund row, checkRejectRefund s.db lockFree refundId principal rejectReason schoolId =
          .ok (p, refund, row) → jsLength rejectReason ≤ 1000 →
        row.status ∈ sourcesOf .success
  | .refund (.completeRefund lockFree refundId refundTxHash principal schoolId) =>
      ∀ p refund row, checkCompleteRefund s.db lockFree refundId refundTxHash principal schoolId =
          .ok (p, refund, row) →
        ¬ s.db.refunds.Clashes (confirmedRefund refund refundTxHash) →
        row.status ∈ sourcesOf .refunded
  | .dispute (.flagDispute newId schoolId flag) =>
      ∀ dispute row, FlagAccepted s newId schoolId flag dispute →
        s.db.findPaymentByTx dispute.schoolId dispute.txHash = some row →
        row.status ∈ sourcesOf .disputed
  | .dispute (.resolveDispute disputeId schoolId user body now) =>
      ∀ tr dispute row, ResolveAccepted s disputeId schoolId user body now tr dispute →
        s.db.findPaymentByTx dispute.schoolId dispute.txHash = some row →
        row.status ∈ sourcesOf tr.newStatus.paymentStatus
  | _ => True

/-! ## One operation at a time -/

section Step
variable {s : DisputeStore}

/-- An operation that makes one write. -/
theorem disciplined_single {op : LifecycleOp}
    (hop : rowWrites s op = [(op.apply s).db.payments]) :
    Disciplined s op ↔ RowsMove s.db.payments (op.apply s).db.payments := by
  simp [Disciplined, hop]

theorem submissionRow_some {req : SubmitRequest} {row : Payment}
    (h : submissionRow s.db req = some row) :
    ∃ memo, req.memo.filter (· ≠ "") = some memo ∧
      matchPendingRow s.db req memo = .ok (some row) := by
  obtain ⟨memo, hmemo, hrow⟩ := Option.bind_eq_some_iff.mp h
  refine ⟨memo, hmemo, ?_⟩
  split at hrow
  · cases hrow
  · rename_i found hmatch
    rw [hmatch, hrow]

/-- A submission finds a `PENDING` row, and makes it `SUBMITTED`. -/
theorem submitTransaction_disciplined_iff (req : SubmitRequest) (horizon : HorizonSubmission) :
    Disciplined s (.submitTransaction req horizon) ↔
      LifecycleSafe s (.submitTransaction req horizon) := by
  simp only [Disciplined, rowWrites, LifecycleSafe]
  cases hrow : submissionRow s.db req with
  | none => exact iff_of_true (.singleton _) rfl
  | some row =>
    obtain ⟨memo, -, hmatch⟩ := submissionRow_some hrow
    obtain ⟨hmem, -, hpending⟩ := matchPendingRow_ok hmatch
    refine iff_of_false (fun h => ?_) (by simp)
    have hkey : (submittedRow row req.normalizedHash).key = row.key := rfl
    have hedge := (rowsMove_save_iff hmem hkey).mp (List.isChain_cons_cons.mp h).1
    have hsubmitted : (submittedRow row req.normalizedHash).status = .submitted := rfl
    rw [hpending, hsubmitted] at hedge
    revert hedge
    decide

theorem applyStatusTransition_disciplined (schoolId txHash : String) (newStatus : PaymentStatus) :
    Disciplined s (.applyStatusTransition schoolId txHash newStatus) := by
  rw [disciplined_single rfl]
  cases hc : checkStatusTransition s.db schoolId txHash newStatus with
  | error e =>
    have hrun : StellarEduPay.applyStatusTransition s.db schoolId txHash newStatus = .error e := by
      rw [StellarEduPay.applyStatusTransition, hc]
      rfl
    simp only [LifecycleOp.apply, hrun]
    exact .refl _
  | ok row =>
    obtain ⟨hfind, hedge⟩ := checkStatusTransition_ok hc
    simp only [LifecycleOp.apply, StellarEduPay.applyStatusTransition, hc, bind, Except.bind, pure,
      Except.pure]
    exact (rowsMove_status_iff (Db.findPayment_mem hfind) _).mpr (mem_sourcesOf.mpr (Or.inr hedge))

/-- A refund call that leaves the payments alone when it is refused. -/
theorem refund_apply_refused {call : RefundCall} {e : RefundError}
    (hrun : call.run s.db = .error e) : LifecycleOp.apply s (.refund call) = s := by
  simp only [LifecycleOp.apply, RefundCall.apply, hrun, Db.after]

theorem refund_apply_accepted {call : RefundCall} {r : Refund × Db}
    (hrun : call.run s.db = .ok r) :
    (LifecycleOp.apply s (.refund call)).db.payments = r.2.payments := by
  simp only [LifecycleOp.apply, RefundCall.apply, hrun, Db.after]

/-- A refused call is no step out of the table: what would have made it one is a check
that refused it. -/
theorem lifecycleSafe_of_refused {call : RefundCall} {e : RefundError}
    (hrun : call.run s.db = .error e) : LifecycleSafe s (.refund call) := by
  cases call with
  | initiateRefund => trivial
  | approveRefund => trivial
  | updateRefundStatus => trivial
  | rejectRefund lockFree refundId principal rejectReason schoolId =>
    intro p refund row hc hlen
    obtain ⟨r, hr⟩ := rejectRefund_accepts hc hlen
    exact absurd (hr.symm.trans hrun) (by simp)
  | completeRefund lockFree refundId refundTxHash principal schoolId =>
    intro p refund row hc hclash
    obtain ⟨refunds, hu⟩ := s.db.refunds.update_isSome hclash
    have hr := completeRefund_ok_iff.mpr ⟨p, refund, row, refunds, hc, hu, rfl, rfl⟩
    exact absurd (hr.symm.trans hrun) (by simp)

/-- What an accepted call does to the payments. -/
theorem rowsMove_accepted_iff {call : RefundCall} {r : Refund × Db} (hrun : call.run s.db = .ok r) :
    RowsMove s.db.payments r.2.payments ↔ LifecycleSafe s (.refund call) := by
  cases call with
  | initiateRefund lockFree newId args =>
    obtain ⟨p, row, refunds, hc, -, -, -, hdb⟩ := initiateRefund_ok_iff.mp hrun
    have hfind := (checkInitiateRefund_ok_iff.mp hc).2.2.1
    have hsat := (Db.findPayment_sat hfind).2
    simp only [Bool.and_eq_true, beq_iff_eq] at hsat
    rw [hdb, rowsMove_status_iff (Db.findPayment_mem hfind), hsat.2]
    exact iff_of_true (by decide) trivial
  | approveRefund refundId principal schoolId =>
    obtain ⟨_, _, -, -, -, -, -, -, hpay, -⟩ := approveRefund_ok hrun
    rw [hpay]
    exact iff_of_true (.refl _) trivial
  | updateRefundStatus lockFree refundId newStatus txHash failureReason schoolId =>
    obtain ⟨_, _, -, -, -, hpay, -⟩ := updateRefundStatus_ok hrun
    rw [hpay]
    exact iff_of_true (.refl _) trivial
  | rejectRefund lockFree refundId principal rejectReason schoolId =>
    obtain ⟨p, refund, row, refunds, hc, hlen, -, -, hdb⟩ := rejectRefund_ok_iff.mp hrun
    have hmem := Db.findPayment_mem (checkRejectRefund_ok hc).2.2.2
    rw [hdb, rowsMove_status_iff hmem]
    constructor
    · intro hst p' refund' row' hc' _
      rw [hc] at hc'
      cases hc'
      exact hst
    · intro hsafe
      exact hsafe p refund row hc hlen
  | completeRefund lockFree refundId refundTxHash principal schoolId =>
    obtain ⟨p, refund, row, refunds, hc, hu, -, hdb⟩ := completeRefund_ok_iff.mp hrun
    have hmem := Db.findPayment_mem (checkCompleteRefund_ok hc).2.2
    rw [hdb, updateStudentBalance_payments, rowsMove_status_iff hmem]
    constructor
    · intro hst p' refund' row' hc' _
      rw [hc] at hc'
      cases hc'
      exact hst
    · intro hsafe
      exact hsafe p refund row hc (s.db.refunds.not_clashes_of_update hu)

theorem refund_disciplined_iff (call : RefundCall) :
    Disciplined s (.refund call) ↔ LifecycleSafe s (.refund call) := by
  rw [disciplined_single rfl]
  cases hrun : call.run s.db with
  | error e =>
    rw [refund_apply_refused hrun]
    exact iff_of_true (.refl _) (lifecycleSafe_of_refused hrun)
  | ok r =>
    rw [refund_apply_accepted hrun]
    exact rowsMove_accepted_iff hrun

/-- The payment's side of a dispute. -/
theorem rowsMove_syncPaymentStatus_iff {schoolId txHash : String} {st : DisputeStatus} :
    RowsMove s.db.payments (syncPaymentStatus s.db schoolId txHash st).payments ↔
      ∀ row, s.db.findPaymentByTx schoolId txHash = some row →
        row.status ∈ sourcesOf st.paymentStatus := by
  cases hfind : s.db.findPaymentByTx schoolId txHash with
  | none =>
    rw [syncPaymentStatus_none hfind]
    exact iff_of_true (.refl _) (by simp)
  | some row =>
    rw [syncPaymentStatus_payments hfind, rowsMove_status_iff (Db.findPayment_mem hfind)]
    simp

theorem dispute_disciplined_iff (op : DisputeOp) :
    Disciplined s (.dispute op) ↔ LifecycleSafe s (.dispute op) := by
  rw [disciplined_single rfl]
  dsimp only [LifecycleOp.apply]
  cases hrun : op.run s with
  | error e =>
    rw [DisputeOp.apply_error hrun]
    refine iff_of_true (.refl _) ?_
    cases op with
    | flagDispute newId schoolId flag =>
      exact fun dispute row hacc _ => absurd hacc (not_flagAccepted hrun dispute)
    | resolveDispute disputeId schoolId user body now =>
      exact fun tr dispute row hacc _ => absurd hacc (not_resolveAccepted hrun tr dispute)
  | ok r =>
    rw [DisputeOp.apply_ok hrun, DisputeOp.run_db hrun, rowsMove_syncPaymentStatus_iff]
    cases op with
    | flagDispute newId schoolId flag =>
      obtain ⟨-, hacc, -, -⟩ := flagDispute_ok_iff.mp hrun
      obtain ⟨-, -, -, -, hst⟩ := checkFlagDispute_ok hacc.check
      rw [hst]
      constructor
      · intro h dispute row hacc' hfind
        rw [hacc.unique hacc'] at hfind
        exact h row hfind
      · exact fun hsafe row hfind => hsafe _ row hacc hfind
    | resolveDispute disputeId schoolId user body now =>
      obtain ⟨tr, dispute, -, hacc, -, hd, -⟩ := resolveDispute_ok_iff.mp hrun
      rw [hd]
      constructor
      · intro h tr' dispute' row hacc' hfind
        obtain ⟨rfl, rfl⟩ := hacc.unique hacc'
        exact h row hfind
      · exact fun hsafe row hfind => hsafe tr dispute row hacc hfind

/-- **An operation keeps to the table exactly when it is safe**, in every state. -/
theorem disciplined_iff (op : LifecycleOp) : Disciplined s op ↔ LifecycleSafe s op := by
  cases op with
  | submitTransaction req horizon => exact submitTransaction_disciplined_iff req horizon
  | applyStatusTransition schoolId txHash newStatus =>
    exact iff_of_true (applyStatusTransition_disciplined schoolId txHash newStatus) trivial
  | refund call => exact refund_disciplined_iff call
  | dispute op => exact dispute_disciplined_iff op

/-- The last write of an operation is what it leaves. -/
theorem getLast_rowWrites (s : DisputeStore) (op : LifecycleOp) :
    (rowWrites s op).getLast?.getD s.db.payments = (op.apply s).db.payments := by
  cases op with
  | submitTransaction req horizon =>
    simp only [rowWrites]
    cases hrow : submissionRow s.db req with
    | some row => rfl
    | none =>
      simp only [submissionRow, Option.bind_eq_none_iff] at hrow
      simp only [LifecycleOp.apply, StellarEduPay.submitTransaction]
      split
      · rfl
      · rename_i memo hmemo
        have hmatch := hrow memo hmemo
        split
        · rfl
        · split <;> rfl
        · rename_i row hfound
          rw [hfound] at hmatch
          cases hmatch
  | _ => rfl

end Step

/-! ## Along a run -/

/-- The row of this key is `REFUNDED`. -/
def Refunded (rows : PaymentRows) (k : String × String × Nat) : Prop :=
  ∃ row ∈ rows.docs, row.key = k ∧ row.status = .refunded

instance (rows : PaymentRows) (k : String × String × Nat) : Decidable (Refunded rows k) :=
  inferInstanceAs (Decidable (∃ row ∈ rows.docs, row.key = k ∧ row.status = .refunded))

/-- The table has no edge out of `REFUNDED`. -/
theorem RowsMove.refunded {rows rows' : PaymentRows} (h : RowsMove rows rows')
    {k : String × String × Nat} (hk : Refunded rows k) : Refunded rows' k := by
  obtain ⟨row, hrow, hkey, hst⟩ := hk
  obtain ⟨row', hrow', hkey', hmove⟩ := h row hrow
  refine ⟨row', hrow', hkey'.trans hkey, ?_⟩
  rcases hmove with hsame | hedge
  · exact hsame.trans hst
  · rw [hst] at hedge
    cases hedge

theorem refunded_of_isChain {k : String × String × Nat} :
    ∀ {writes : List PaymentRows} {rows : PaymentRows}, (rows :: writes).IsChain RowsMove →
      Refunded rows k → Refunded (writes.getLast?.getD rows) k
  | [], rows, _, hk => hk
  | next :: writes, rows, hchain, hk => by
      obtain ⟨hmove, hrest⟩ := List.isChain_cons_cons.mp hchain
      rw [List.getLast?_cons]
      exact refunded_of_isChain hrest (hmove.refunded hk)

theorem refunded_along_run {s t : DisputeStore} (hrun : Reach lifecycleStep Disciplined s t)
    {k : String × String × Nat} (hk : Refunded s.db.payments k) : Refunded t.db.payments k := by
  induction hrun with
  | refl => exact hk
  | tail _ hop hstep ih =>
    obtain rfl := Option.some.inj hstep
    rw [← getLast_rowWrites]
    exact refunded_of_isChain hop ih

/-- **Lifecycle discipline along runs.**  A run of safe operations is a run in which every
write is an edge of the administrator's table, a `REFUNDED` row is `REFUNDED` for good, and
safety is exactly what the next operation needs. -/
theorem lifecycle_along_runs {s t : DisputeStore}
    (hrun : Reach lifecycleStep LifecycleSafe s t) :
    Reach lifecycleStep Disciplined s t ∧
      (∀ k, Refunded s.db.payments k → Refunded t.db.payments k) ∧
      ∀ op, Disciplined t op ↔ LifecycleSafe t op := by
  have hdisciplined : Reach lifecycleStep Disciplined s t :=
    hrun.mono fun _ op hsafe => (disciplined_iff op).mpr hsafe
  exact ⟨hdisciplined, fun _ => refunded_along_run hdisciplined, disciplined_iff⟩

/-! ## Two runs -/

/-- The dispute of `paidRow` is opened. -/
def openedState : DisputeStore :=
  LifecycleOp.apply undisputed (.dispute (parentFlags "d1" "tx1"))

/-- It is decided for the parent. -/
def upheldState : DisputeStore :=
  LifecycleOp.apply openedState (.dispute (administratorMoves "d1" "resolved"))

theorem lifecycle_along_runs_upheld :
    Reach lifecycleStep LifecycleSafe undisputed upheldState ∧
      Refunded upheldState.db.payments ("SCH", "tx1", 0) ∧
      Reach lifecycleStep Disciplined undisputed upheldState := by
  have hflag : LifecycleSafe undisputed (.dispute (parentFlags "d1" "tx1")) :=
    (disciplined_iff _).mp (by decide +kernel)
  have hresolve : LifecycleSafe openedState (.dispute (administratorMoves "d1" "resolved")) :=
    (disciplined_iff _).mp (by decide +kernel)
  have hrun : Reach lifecycleStep LifecycleSafe undisputed upheldState :=
    .tail (.tail .refl hflag rfl) hresolve rfl
  exact ⟨hrun, by decide +kernel, (lifecycle_along_runs hrun).1⟩

/-- A decided dispute is opened again and denied: the refunded payment becomes `DISPUTED` and
then `SUCCESS`, and neither write is refused. -/
theorem reopened_dispute_unrefunds :
    (¬ ∀ s t op, Reach lifecycleStep Free s t → Disciplined t op) ∧
      ¬ ∀ s t k, Reach lifecycleStep Free s t → Refunded s.db.payments k →
        Refunded t.db.payments k := by
  constructor
  · intro h
    have hupheld := reach_of_exec (show exec lifecycleStep undisputed
      [.dispute (parentFlags "d1" "tx1"), .dispute (administratorMoves "d1" "resolved")] =
        some upheldState from rfl)
    have hreopen := h undisputed upheldState (.dispute (administratorMoves "d1" "open")) hupheld
    revert hreopen
    decide +kernel
  · intro h
    have hdenied := reach_of_exec (show exec lifecycleStep upheldState
      [.dispute (administratorMoves "d1" "open"), .dispute (administratorMoves "d1" "rejected")] =
        some _ from rfl)
    have hfinal := h upheldState _ ("SCH", "tx1", 0) hdenied (by decide +kernel)
    revert hfinal
    decide +kernel

end StellarEduPay

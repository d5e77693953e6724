import StellarEduPay.Runs
import StellarEduPay.RefundService
import StellarEduPay.PaymentAdmin
import StellarEduPay.PaymentRecording

/-! # The balance invariant over sequences of operations

The operations that change which rows count toward a balance, run one after the
other to completion.  A refused operation leaves the store as it was.

Only the recorders and `completeRefund` recompute a balance.  `BalanceSafe` says,
for each of the others, what has to be true of the row it is about to write for
the stored balances to survive: the row does not start or stop counting, or
nobody's balance rests on it.  The condition is exact, one operation at a time.
-/
namespace StellarEduPay
open Runs

/-- A completed operation, with everything its environment decided. -/
inductive LedgerOp
  | verifyPayment (req : VerifyRequest)
      (outcome : Except VerifyErrorCode (Option VerifiedTransaction))
  | submitTransaction (req : SubmitRequest) (horizon : HorizonSubmission)
  | processTransaction (d : PolledPayment)
  | applyStatusTransition (schoolId txHash : String) (newStatus : PaymentStatus)
  | reviewSuspiciousPayment (schoolId txHash action reviewer : String) (note : Option String)
  | refund (call : RefundCall)

section
variable (recordPayment : Db → Payment → Except RecordError Db)

/-- Run one operation. -/
def LedgerOp.apply (db : Db) : LedgerOp → Db
  | .verifyPayment req outcome => (StellarEduPay.verifyPayment recordPayment db req outcome).2
  | .submitTransaction req horizon => (StellarEduPay.submitTransaction db req horizon).2
  | .processTransaction d => (recordPolledPayment db d).getD db
  | .applyStatusTransition schoolId txHash newStatus =>
      db.after ((StellarEduPay.applyStatusTransition db schoolId txHash newStatus).map
        fun (row, _, db') => (row, db'))
  | .reviewSuspiciousPayment schoolId txHash action reviewer note =>
      db.after (StellarEduPay.reviewSuspiciousPayment db schoolId txHash action reviewer note)
  | .refund call => call.apply db

/-- The ledger as a transition system: every operation is enabled in every store. -/
def ledgerStep (db : Db) (op : LedgerOp) : Option Db := some (op.apply recordPayment db)

end

/-! ## When a write is safe -/

/-- Moving `row` to status `st` cannot make a stored balance stale: the row does
not start or stop being `SUCCESS`, or it counts for nothing, or no live student
owns it. -/
def StatusWriteSafe (db : Db) (row : Payment) (st : PaymentStatus) : Prop :=
  (row.status = .success ↔ st = .success) ∨ row.isSuspicious = true ∨ row.amount = 0 ∨
    db.findStudent row.schoolId row.studentId = none

/-- Likewise for clearing a suspicion flag. -/
def ClearSafe (db : Db) (row : Payment) : Prop :=
  row.isSuspicious = false ∨ row.status ≠ .success ∨ row.amount = 0 ∨
    db.findStudent row.schoolId row.studentId = none

/-- The condition on the store an operation is taken in: if its checks pass, the
row they found may be written the way the operation writes it. -/
def BalanceSafe (db : Db) : LedgerOp → Prop
  | .applyStatusTransition schoolId txHash newStatus =>
      ∀ row, checkStatusTransition db schoolId txHash newStatus = .ok row →
        StatusWriteSafe db row newStatus
  | .reviewSuspiciousPayment schoolId txHash action _ _ =>
      ∀ row, checkSuspicionReview db schoolId txHash action = .ok row → action = "clear" →
        ClearSafe db row
  | .refund (.initiateRefund lockFree newId args) =>
      ∀ p row, checkInitiateRefund db lockFree args = .ok (p, row) →
        (newRefund newId args p).schemaValid = true →
        (db.refunds.create (newRefund newId args p)).isSome = true →
        StatusWriteSafe db row .refundPending
  | .refund (.rejectRefund lockFree refundId principal rejectReason schoolId) =>
      ∀ p refund row, checkRejectRefund db lockFree refundId principal rejectReason schoolId =
          .ok (p, refund, row) → jsLength rejectReason ≤ 1000 →
        StatusWriteSafe db row .success
  | .refund (.completeRefund lockFree refundId refundTxHash principal schoolId) =>
      ∀ p refund row, checkCompleteRefund db lockFree refundId refundTxHash principal schoolId =
          .ok (p, refund, row) →
        ¬ db.refunds.Clashes (confirmedRefund refund refundTxHash) →
        row.owner = (refund.schoolId, refund.studentId) ∨ StatusWriteSafe db row .refunded
  | _ => True

section
variable {db : Db}

theorem credited_of_live {p : Payment} (hl : p.live = true) :
    p.credited = if p.status = .success ∧ p.isSuspicious = false then p.amount else 0 := by
  simp [Payment.credited, Payment.counted, hl]

theorem keepsCredit_status_iff {row : Payment} (hl : row.live = true) (st : PaymentStatus) :
    KeepsCredit db row { row with status := st } ↔ StatusWriteSafe db row st := by
  have hl' : ({ row with status := st } : Payment).live = true := hl
  rw [KeepsCredit, StatusWriteSafe, credited_of_live hl, credited_of_live hl']
  cases row.isSuspicious with
  | true => simp
  | false =>
    by_cases h1 : row.status = .success <;> by_cases h2 : st = .success <;>
      simp [h1, h2, or_comm, eq_comm]

/-- Storing a row in another status keeps the balances coherent exactly when that is safe. -/
theorem coherent_statusWrite_iff (hco : BalanceCoherent db) {row : Payment} {st : PaymentStatus}
    {db' : Db} (hrow : row ∈ db.payments.docs) (hl : row.live = true)
    (hpay : db'.payments = db.payments.save { row with status := st })
    (hstu : db'.students = db.students) : BalanceCoherent db' ↔ StatusWriteSafe db row st := by
  have hsaved := coherent_save_iff hco hrow (Payment.key_status row st) (Payment.owner_status row st)
  rw [← keepsCredit_status_iff hl st, ← hsaved]
  exact ⟨fun h => h.congr hpay.symm hstu.symm, fun h => h.congr hpay hstu⟩

theorem keepsCredit_clear_iff {row : Payment} (hl : row.live = true) (reviewer : String)
    (note : Option String) :
    KeepsCredit db row (reviewedPayment row "clear" reviewer note) ↔ ClearSafe db row := by
  have hl' : ({ row with isSuspicious := false } : Payment).live = true := hl
  rw [KeepsCredit, ClearSafe, credited_reviewedPayment, if_pos rfl, credited_of_live hl,
    credited_of_live hl']
  cases row.isSuspicious with
  | false => simp
  | true => by_cases h1 : row.status = .success <;> simp [h1, or_comm]

/-! ## One operation -/

theorem applyStatusTransition_coherent_iff (hco : BalanceCoherent db) {schoolId txHash : String}
    {newStatus : PaymentStatus} :
    BalanceCoherent (db.after ((applyStatusTransition db schoolId txHash newStatus).map
        fun (row, _, db') => (row, db'))) ↔
      ∀ row, checkStatusTransition db schoolId txHash newStatus = .ok row →
        StatusWriteSafe db row newStatus := by
  cases hc : checkStatusTransition db schoolId txHash newStatus with
  | error e =>
    simp only [applyStatusTransition, hc]
    exact iff_of_true hco (fun _ h => by cases h)
  | ok row =>
    have hrow := (checkStatusTransition_ok hc).1
    simp only [applyStatusTransition, hc]
    have key : BalanceCoherent { db with
        payments := db.payments.save { row with status := newStatus } } ↔
          StatusWriteSafe db row newStatus :=
      coherent_statusWrite_iff hco (Db.findPayment_mem hrow) (Db.findPaymentByTx_sat hrow).1 rfl rfl
    exact key.trans ⟨fun h _ he => Except.ok.inj he ▸ h, fun h => h row rfl⟩

theorem reviewSuspiciousPayment_coherent_iff (hco : BalanceCoherent db)
    {schoolId txHash action reviewer : String} {note : Option String} :
    BalanceCoherent (db.after (reviewSuspiciousPayment db schoolId txHash action reviewer note)) ↔
      ∀ row, checkSuspicionReview db schoolId txHash action = .ok row → action = "clear" →
        ClearSafe db row := by
  cases hc : checkSuspicionReview db schoolId txHash action with
  | error e =>
    simp only [reviewSuspiciousPayment, hc]
    exact iff_of_true hco (fun _ h => by cases h)
  | ok row =>
    have hrow := checkSuspicionReview_ok hc
    have key := coherent_save_iff hco (Db.findPayment_mem hrow)
      (show (reviewedPayment row action reviewer note).key = row.key from rfl)
      (show (reviewedPayment row action reviewer note).owner = row.owner from rfl)
    simp only [reviewSuspiciousPayment, hc]
    refine key.trans ?_
    by_cases ha : action = "clear"
    · subst ha
      rw [keepsCredit_clear_iff (Db.findPaymentByTx_sat hrow).1]
      exact ⟨fun h _ he _ => Except.ok.inj he ▸ h, fun h => h row rfl rfl⟩
    · refine iff_of_true (Or.inr ?_) (fun _ _ h => absurd h ha)
      rw [credited_reviewedPayment, if_neg ha]

theorem initiateRefund_coherent_iff (hco : BalanceCoherent db) {lockFree : Bool} {newId : String}
    {args : InitiateArgs} :
    BalanceCoherent (db.after (initiateRefund db lockFree newId args)) ↔
      ∀ p row, checkInitiateRefund db lockFree args = .ok (p, row) →
        (newRefund newId args p).schemaValid = true →
        (db.refunds.create (newRefund newId args p)).isSome = true →
        StatusWriteSafe db row .refundPending := by
  cases hr : initiateRefund db lockFree newId args with
  | error e =>
    refine iff_of_true hco fun p row hc hv hi => ?_
    obtain ⟨refunds, hi⟩ := Option.isSome_iff_exists.mp hi
    rw [initiateRefund_ok_iff.mpr ⟨p, row, refunds, hc, hv, hi, rfl, rfl⟩] at hr
    cases hr
  | ok r =>
    obtain ⟨p, row, refunds, hc, hv, hi, -, hdb⟩ := initiateRefund_ok_iff.mp hr
    have hrow := (checkInitiateRefund_ok_iff.mp hc).2.2.1
    have key : BalanceCoherent r.2 ↔ StatusWriteSafe db row .refundPending :=
      coherent_statusWrite_iff hco (Db.findPayment_mem hrow) (Db.findPayment_sat hrow).1
        (by rw [hdb]) (by rw [hdb])
    refine key.trans ⟨fun h p' row' hc' _ _ => ?_, fun h => ?_⟩
    · rw [hc] at hc'
      cases hc'
      exact h
    · exact h p row hc hv (by simp [hi])

theorem rejectRefund_coherent_iff (hco : BalanceCoherent db) {lockFree : Bool} {refundId : String}
    {principal : Option Principal} {rejectReason schoolId : String} :
    BalanceCoherent (db.after (rejectRefund db lockFree refundId principal rejectReason schoolId)) ↔
      ∀ p refund row, checkRejectRefund db lockFree refundId principal rejectReason schoolId =
          .ok (p, refund, row) → jsLength rejectReason ≤ 1000 →
        StatusWriteSafe db row .success := by
  cases hr : rejectRefund db lockFree refundId principal rejectReason schoolId with
  | error e =>
    refine iff_of_true hco fun p refund row hc hlen => ?_
    obtain ⟨r, hr'⟩ := rejectRefund_accepts hc hlen
    rw [hr'] at hr
    cases hr
  | ok r =>
    obtain ⟨p, refund, row, refunds, hc, hlen, -, -, hdb⟩ := rejectRefund_ok_iff.mp hr
    have hrow := (checkRejectRefund_ok hc).2.2.2
    have key : BalanceCoherent r.2 ↔ StatusWriteSafe db row .success :=
      coherent_statusWrite_iff hco (Db.findPayment_mem hrow) (Db.findPaymentByTx_sat hrow).1
        (by rw [hdb]) (by rw [hdb])
    refine key.trans ⟨fun h p' refund' row' hc' _ => ?_, fun h => ?_⟩
    · rw [hc] at hc'
      cases hc'
      exact h
    · exact h p refund row hc hlen

theorem completeRefund_coherent_iff (hco : BalanceCoherent db) {lockFree : Bool}
    {refundId refundTxHash : String} {principal : Option Principal} {schoolId : String} :
    BalanceCoherent
        (db.after (completeRefund db lockFree refundId refundTxHash principal schoolId)) ↔
      ∀ p refund row, checkCompleteRefund db lockFree refundId refundTxHash principal schoolId =
          .ok (p, refund, row) →
        ¬ db.refunds.Clashes (confirmedRefund refund refundTxHash) →
        row.owner = (refund.schoolId, refund.studentId) ∨ StatusWriteSafe db row .refunded := by
  cases hr : completeRefund db lockFree refundId refundTxHash principal schoolId with
  | error e =>
    refine iff_of_true hco fun p refund row hc hclash => ?_
    obtain ⟨refunds, hu⟩ := db.refunds.update_isSome hclash
    rw [completeRefund_ok_iff.mpr ⟨p, refund, row, refunds, hc, hu, rfl, rfl⟩] at hr
    cases hr
  | ok r =>
    obtain ⟨p, refund, row, refunds, hc, hu, -, hdb⟩ := completeRefund_ok_iff.mp hr
    have hrow := (checkCompleteRefund_ok hc).2.2
    have hclash := db.refunds.not_clashes_of_update hu
    have key := coherent_save_update_iff hco (Db.findPayment_mem hrow)
      (Payment.key_status row .refunded) (Payment.owner_status row .refunded)
      refund.schoolId refund.studentId
    rw [keepsCredit_status_iff (Db.findPaymentByTx_sat hrow).1] at key
    have hafter : BalanceCoherent (db.after (.ok r : Except RefundError (Refund × Db))) ↔
        BalanceCoherent (updateStudentBalance
          { db with payments := db.payments.save { row with status := .refunded } }
          refund.schoolId refund.studentId).2 := by
      simp only [Db.after, hdb, coherent_updateStudentBalance_iff]
      exact ⟨fun h s hs hl hne => (h s hs hl hne).congr rfl,
        fun h s hs hl hne => (h s hs hl hne).congr rfl⟩
    refine (hafter.trans key).trans ⟨fun h p' refund' row' hc' _ => ?_, fun h => ?_⟩
    · rw [hc] at hc'
      cases hc'
      exact h
    · exact h p refund row hc hclash

/-- **One operation keeps the balances coherent exactly when it is safe.** -/
theorem apply_coherent_iff {recordPayment : Db → Payment → Except RecordError Db}
    (hrec : RecordPaymentSpec recordPayment) (hco : BalanceCoherent db) (op : LedgerOp) :
    BalanceCoherent (op.apply recordPayment db) ↔ BalanceSafe db op := by
  cases op with
  | verifyPayment req outcome =>
    exact iff_of_true (verifyPayment_coherent hrec hco req outcome) trivial
  | submitTransaction req horizon =>
    exact iff_of_true (submitTransaction_coherent hco req horizon) trivial
  | processTransaction d =>
    refine iff_of_true ?_ trivial
    show BalanceCoherent ((recordPolledPayment db d).getD db)
    cases hr : recordPolledPayment db d with
    | none => exact hco
    | some db' => exact recordPolledPayment_coherent hco hr
  | applyStatusTransition schoolId txHash newStatus => exact applyStatusTransition_coherent_iff hco
  | reviewSuspiciousPayment schoolId txHash action reviewer note =>
    exact reviewSuspiciousPayment_coherent_iff hco
  | refund call =>
    cases call with
    | initiateRefund lockFree newId args => exact initiateRefund_coherent_iff hco
    | approveRefund refundId principal schoolId =>
      refine iff_of_true ?_ trivial
      show BalanceCoherent (db.after (approveRefund db refundId principal schoolId))
      cases hr : approveRefund db refundId principal schoolId with
      | error e => exact hco
      | ok r =>
        obtain ⟨_, _, -, -, -, -, -, -, hp, hs⟩ := approveRefund_ok hr
        exact hco.congr hp hs
    | rejectRefund lockFree refundId principal rejectReason schoolId =>
      exact rejectRefund_coherent_iff hco
    | completeRefund lockFree refundId refundTxHash principal schoolId =>
      exact completeRefund_coherent_iff hco
    | updateRefundStatus lockFree refundId newStatus txHash failureReason schoolId =>
      refine iff_of_true ?_ trivial
      show BalanceCoherent (db.after
        (updateRefundStatus db lockFree refundId newStatus txHash failureReason schoolId))
      cases hr : updateRefundStatus db lockFree refundId newStatus txHash failureReason schoolId with
      | error e => exact hco
      | ok r =>
        obtain ⟨_, _, -, -, -, hp, hs⟩ := updateRefundStatus_ok hr
        exact hco.congr hp hs

/-! ## Whole runs -/

/-- **Balances stay coherent along every run of safe operations**, and safety is
exactly what one operation needs. -/
theorem balances_coherent_along_runs {recordPayment : Db → Payment → Except RecordError Db}
    (hrec : RecordPaymentSpec recordPayment) :
    (∀ db db', BalanceCoherent db → Reach (ledgerStep recordPayment) BalanceSafe db db' →
      BalanceCoherent db') ∧
    (∀ db op, BalanceCoherent db →
      (BalanceCoherent (op.apply recordPayment db) ↔ BalanceSafe db op)) := by
  refine ⟨fun db db' hco hrun => ?_, fun db op hco => apply_coherent_iff hrec hco op⟩
  refine hrun.invariant hco fun {t a u} ht hsafe hstep => ?_
  obtain rfl : a.apply recordPayment t = u := Option.some.inj hstep
  exact (apply_coherent_iff hrec ht a).mpr hsafe

end

/-! ## A run that is not safe -/

/-- Safe runs exist: verifying a second transaction is one. -/
theorem balances_coherent_along_runs_verify : ∃ db', BalanceCoherent db' ∧
    Reach (ledgerStep savePayment) BalanceSafe paidDb db' ∧
    db'.payments.docs.length = 2 ∧ db'.students.docs.map Student.totalPaid = [1500000000] := by
  let op : LedgerOp := .verifyPayment ⟨"SCH", "tx2", true, true, 1⟩
    (.ok (some ⟨"tx2", "STU001", "STU001", 500000000, none, none, none⟩))
  have hrun : Reach (ledgerStep savePayment) BalanceSafe paidDb (op.apply savePayment paidDb) :=
    .tail .refl (show BalanceSafe paidDb op from trivial) rfl
  refine ⟨_, ?_, hrun, by decide, by decide⟩
  exact (balances_coherent_along_runs savePayment_spec).1 paidDb _ (by decide) hrun

/-- An administrator disputes the payment: the row stops counting, the stored total
does not move. -/
theorem dispute_leaves_balance_stale :
    ¬ ∀ db db', BalanceCoherent db → Reach (ledgerStep savePayment) Free db db' →
      BalanceCoherent db' := by
  intro h
  have hrun : Reach (ledgerStep savePayment) Free paidDb
      ((LedgerOp.applyStatusTransition "SCH" "tx1" .disputed).apply savePayment paidDb) :=
    .tail .refl trivial rfl
  exact absurd (h paidDb _ (by decide) hrun) (by decide)

end StellarEduPay

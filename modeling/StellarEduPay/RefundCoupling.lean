import StellarEduPay.Runs
import StellarEduPay.RefundService

/-! # Refunds and the rows they were initiated on

A refund document names a transaction, not a row, so the row it was initiated on
is remembered in a ghost field of the state, next to the paid total its student
had at that moment.  `RefundCoupling` says how the two documents move together.

Two calls can break it.  `updateRefundStatus` may end a refund without touching
the row.  `rejectRefund` and `completeRefund` write the first live row of the
transaction, which need not be the refund's.  `CouplingSafe` rules out exactly
these.
-/
namespace StellarEduPay
open Runs

/-- The store, with the row each refund was initiated on and the stored paid total
of that row's student just before. -/
structure Tracked where
  db : Db
  origin : String → Option (String × String × Nat)
  paidBefore : String → Int

/-- A store before any refund was tracked. -/
def Tracked.start (db : Db) : Tracked := ⟨db, fun _ => none, fun _ => 0⟩

/-- The stored paid total of the student who owns a row, zero if there is none. -/
def storedPaid (db : Db) (row : Payment) : Int :=
  match db.findStudent row.schoolId row.studentId with
  | none => 0
  | some s => s.totalPaid

/-- Remember the row a refund was initiated on. -/
def Tracked.initiated (s : Tracked) (db' : Db) (refundId : String) (row : Payment) : Tracked where
  db := db'
  origin := fun id => if id = refundId then some row.key else s.origin id
  paidBefore := fun id => if id = refundId then storedPaid s.db row else s.paidBefore id

/-- The state after a call; a refused one changes nothing. -/
def Tracked.next (s : Tracked) (call : RefundCall) : Tracked :=
  match call.run s.db with
  | .error _ => s
  | .ok (refund, db') =>
    match call with
    | .initiateRefund _ _ args =>
      match s.db.findSuccessByTx args.schoolId args.originalTxHash with
      | none => { s with db := db' }
      | some row => s.initiated db' refund.id row
    | _ => { s with db := db' }

/-- The refund service as a transition system: every call may be made in every state. -/
def refundStep (s : Tracked) (call : RefundCall) : Option Tracked := some (s.next call)

/-! ## What the two documents owe each other -/

/-- The status a refund asks of its row. -/
def rowStatus : RefundStatus → PaymentStatus
  | .approvalPending | .pending | .submitted => .refundPending
  | .confirmed => .refunded
  | .rejected | .failed => .success

theorem rowStatus_refundPending_iff (st : RefundStatus) :
    rowStatus st = .refundPending ↔ st.inProgress = true := by
  cases st <;> decide

/-- **Refund/payment coupling** against the rows `db₀` of the start. -/
structure RefundCoupling (db₀ : Db) (s : Tracked) : Prop where
  /-- Every refund was initiated on a row of the store. -/
  has_row : ∀ r ∈ s.db.refunds.docs, ∃ row ∈ s.db.payments.docs, s.origin r.id = some row.key
  pending_iff : ∀ r ∈ s.db.refunds.docs, ∀ row ∈ s.db.payments.docs,
    s.origin r.id = some row.key → (row.status = .refundPending ↔
      r.status = .approvalPending ∨ r.status = .pending ∨ r.status = .submitted)
  refunded_iff : ∀ r ∈ s.db.refunds.docs, ∀ row ∈ s.db.payments.docs,
    s.origin r.id = some row.key → (row.status = .refunded ↔ r.status = .confirmed)
  restored : ∀ r ∈ s.db.refunds.docs, ∀ row ∈ s.db.payments.docs,
    s.origin r.id = some row.key → r.status = .rejected ∨ r.status = .failed →
      row.status = .success
  /-- Rows without a refund are as they were. -/
  untouched : ∀ row ∈ s.db.payments.docs,
    (∀ r ∈ s.db.refunds.docs, s.origin r.id ≠ some row.key) → row ∈ db₀.payments.docs
  /-- No row is stuck. -/
  not_stuck : ∀ row ∈ s.db.payments.docs, row.status = .refundPending →
    ∃ r ∈ s.db.refunds.docs, s.origin r.id = some row.key ∧ r.status.inProgress = true

/-- The inductive form: every refund has its row in the status it asks for, no row
has two refunds, and rows without a refund are unchanged and not waiting for one. -/
structure Coupled (db₀ : Db) (s : Tracked) : Prop where
  has_row : ∀ r ∈ s.db.refunds.docs, ∃ row ∈ s.db.payments.docs, s.origin r.id = some row.key ∧
    row.schoolId = r.schoolId ∧ row.txHash = r.originalTxHash ∧ row.status = rowStatus r.status
  hash : ∀ r ∈ s.db.refunds.docs, r.status ≠ .confirmed → r.refundTxHash = none
  single : ∀ r ∈ s.db.refunds.docs, ∀ r' ∈ s.db.refunds.docs,
    s.origin r.id = s.origin r'.id → r.id = r'.id
  untouched : ∀ row ∈ s.db.payments.docs,
    (∀ r ∈ s.db.refunds.docs, s.origin r.id ≠ some row.key) →
      row ∈ db₀.payments.docs ∧ row.status ≠ .refundPending

/-- A store in which nothing has been refunded yet. -/
structure Unrefunded (db : Db) : Prop where
  refunds : db.refunds.docs = []
  payments : ∀ row ∈ db.payments.docs, row.status ≠ .refundPending

namespace Coupled
variable {db₀ : Db} {s : Tracked}

theorem start {db : Db} (h : Unrefunded db) : Coupled db (.start db) where
  has_row r hr := by simp [Tracked.start, h.refunds] at hr
  hash r hr := by simp [Tracked.start, h.refunds] at hr
  single r hr := by simp [Tracked.start, h.refunds] at hr
  untouched row hrow _ := ⟨hrow, h.payments row hrow⟩

/-- The row of a refund belongs to its transaction. -/
theorem row_tx (h : Coupled db₀ s) {r : Refund} (hr : r ∈ s.db.refunds.docs) {row : Payment}
    (hrow : row ∈ s.db.payments.docs) (ho : s.origin r.id = some row.key) :
    r.schoolId = row.schoolId ∧ r.originalTxHash = row.txHash := by
  obtain ⟨row', hrow', ho', hschool, htx, -⟩ := h.has_row r hr
  have hk : row.key = row'.key := Option.some.inj (ho.symm.trans ho')
  rw [s.db.payments.eq_of_key hrow hrow' hk]
  exact ⟨hschool.symm, htx.symm⟩

/-- The row of a refund has the status it asks for. -/
theorem row_status (h : Coupled db₀ s) {r : Refund} (hr : r ∈ s.db.refunds.docs) {row : Payment}
    (hrow : row ∈ s.db.payments.docs) (ho : s.origin r.id = some row.key) :
    row.status = rowStatus r.status := by
  obtain ⟨row', hrow', ho', -, -, hst⟩ := h.has_row r hr
  have hk : row.key = row'.key := Option.some.inj (ho.symm.trans ho')
  rw [s.db.payments.eq_of_key hrow hrow' hk]
  exact hst

theorem coupling (h : Coupled db₀ s) : RefundCoupling db₀ s where
  has_row r hr := by
    obtain ⟨row, hrow, ho, -⟩ := h.has_row r hr
    exact ⟨row, hrow, ho⟩
  pending_iff r hr row hrow ho := by
    rw [h.row_status hr hrow ho]
    cases r.status <;> decide
  refunded_iff r hr row hrow ho := by
    rw [h.row_status hr hrow ho]
    cases r.status <;> decide
  restored r hr row hrow ho hst := by
    rw [h.row_status hr hrow ho]
    rcases hst with hst | hst <;> rw [hst] <;> rfl
  untouched row hrow hn := (h.untouched row hrow hn).1
  not_stuck row hrow hst := by
    by_cases hn : ∃ r ∈ s.db.refunds.docs, s.origin r.id = some row.key
    · obtain ⟨r, hr, ho⟩ := hn
      rw [h.row_status hr hrow ho, rowStatus_refundPending_iff] at hst
      exact ⟨r, hr, ho, hst⟩
    · exact absurd hst (h.untouched row hrow fun r hr ho => hn ⟨r, hr, ho⟩).2

/-- **A refund and its row move together.**  The refund takes a new status, and its
row the status that one asks for. -/
theorem move (h : Coupled db₀ s) {refund updated : Refund} {row : Payment} {db' : Db}
    (hmem : refund ∈ s.db.refunds.docs) (hid : updated.id = refund.id)
    (hschool : updated.schoolId = refund.schoolId)
    (htx : updated.originalTxHash = refund.originalTxHash)
    (hhash : updated.status ≠ .confirmed → updated.refundTxHash = none)
    (hrow : row ∈ s.db.payments.docs) (ho : s.origin refund.id = some row.key)
    (hrefunds : db'.refunds.toCollection = s.db.refunds.toCollection.save updated)
    (hpay : db'.payments = s.db.payments.save { row with status := rowStatus updated.status }) :
    Coupled db₀ { s with db := db' } := by
  -- what is in the new collections, refund by refund and row by row
  have inRefunds : ∀ r ∈ db'.refunds.docs,
      r = updated ∨ (r ∈ s.db.refunds.docs ∧ r.id ≠ updated.id) := by
    intro r hr
    rw [hrefunds] at hr
    rcases s.db.refunds.mem_save.mp hr with ⟨hr, -⟩ | hr
    · exact Or.inl hr
    · exact Or.inr hr
  have old : ∀ r ∈ db'.refunds.docs, ∃ r₀ ∈ s.db.refunds.docs, r₀.id = r.id := by
    intro r hr
    rcases inRefunds r hr with rfl | ⟨hr, -⟩
    · exact ⟨refund, hmem, hid.symm⟩
    · exact ⟨r, hr, rfl⟩
  have survives : ∀ r₀ ∈ s.db.refunds.docs, ∃ r ∈ db'.refunds.docs, r.id = r₀.id := by
    intro r₀ hr₀
    rw [hrefunds]
    by_cases he : r₀.id = updated.id
    · exact ⟨updated, s.db.refunds.mem_save.mpr (Or.inl ⟨rfl, refund, hmem, hid.symm⟩), he.symm⟩
    · exact ⟨r₀, s.db.refunds.mem_save.mpr (Or.inr ⟨hr₀, he⟩), rfl⟩
  constructor
  · intro r hr
    rcases inRefunds r hr with rfl | ⟨hr, hne⟩
    · obtain ⟨row', hrow', ho', hs', ht', -⟩ := h.has_row refund hmem
      obtain rfl : row = row' :=
        s.db.payments.eq_of_key hrow hrow' (Option.some.inj (ho.symm.trans ho'))
      refine ⟨{ row with status := rowStatus r.status }, ?_, hid ▸ ho, hs'.trans hschool.symm,
        ht'.trans htx.symm, rfl⟩
      exact hpay ▸ s.db.payments.mem_save.mpr (Or.inl ⟨rfl, row, hrow, rfl⟩)
    · obtain ⟨row', hrow', ho', hs', ht', hst'⟩ := h.has_row r hr
      refine ⟨row', ?_, ho', hs', ht', hst'⟩
      refine hpay ▸ s.db.payments.mem_save.mpr (Or.inr ⟨hrow', fun hk => hne ?_⟩)
      rw [hid]
      exact h.single r hr refund hmem (by rw [ho', ho, hk]; rfl)
  · intro r hr hst
    rcases inRefunds r hr with rfl | ⟨hr, -⟩
    · exact hhash hst
    · exact h.hash r hr hst
  · intro r hr r' hr' heq
    obtain ⟨r₀, hr₀, hid₀⟩ := old r hr
    obtain ⟨r₁, hr₁, hid₁⟩ := old r' hr'
    rw [← hid₀, ← hid₁]
    exact h.single r₀ hr₀ r₁ hr₁ (by rw [hid₀, hid₁]; exact heq)
  · intro row' hrow' hn
    have hn' : ∀ r ∈ s.db.refunds.docs, s.origin r.id ≠ some row'.key := by
      intro r₀ hr₀
      obtain ⟨r, hr, hrid⟩ := survives r₀ hr₀
      exact hrid ▸ hn r hr
    rw [hpay] at hrow'
    rcases s.db.payments.mem_save.mp hrow' with ⟨rfl, -⟩ | ⟨hrow', -⟩
    · exact absurd ho (hn' refund hmem)
    · exact h.untouched row' hrow' hn'

/-- A refund moves and asks nothing new of its row. -/
theorem move_refund (h : Coupled db₀ s) {refund updated : Refund} {db' : Db}
    (hmem : refund ∈ s.db.refunds.docs) (hid : updated.id = refund.id)
    (hschool : updated.schoolId = refund.schoolId)
    (htx : updated.originalTxHash = refund.originalTxHash)
    (hhash : updated.status ≠ .confirmed → updated.refundTxHash = none)
    (hst : rowStatus updated.status = rowStatus refund.status)
    (hrefunds : db'.refunds.toCollection = s.db.refunds.toCollection.save updated)
    (hpay : db'.payments = s.db.payments) : Coupled db₀ { s with db := db' } := by
  obtain ⟨row, hrow, ho, -, -, hrst⟩ := h.has_row refund hmem
  refine h.move hmem hid hschool htx hhash hrow ho hrefunds ?_
  rw [hst, ← hrst, hpay]
  exact (s.db.payments.save_of_mem hrow).symm

/-- A new refund on a row that has none. -/
theorem initiate (h : Coupled db₀ s) {refund : Refund} {row : Payment} {db' : Db}
    (hrow : row ∈ s.db.payments.docs) (hsuccess : row.status = .success)
    (hschool : row.schoolId = refund.schoolId) (htx : row.txHash = refund.originalTxHash)
    (hst : refund.status = .approvalPending) (hhash : refund.refundTxHash = none)
    (hcreate : s.db.refunds.create refund = some db'.refunds)
    (hpay : db'.payments = s.db.payments.save { row with status := .refundPending }) :
    Coupled db₀ (s.initiated db' refund.id row) := by
  have hdocs := s.db.refunds.create_docs hcreate
  have fresh : ∀ r ∈ s.db.refunds.docs, r.id ≠ refund.id := s.db.refunds.create_fresh hcreate
  -- a row back at SUCCESS belongs to a refund that still holds the null hash,
  -- and the index lets no second document in with it
  have free : ∀ r ∈ s.db.refunds.docs, s.origin r.id ≠ some row.key := by
    intro r hr ho
    have hrst := h.row_status hr hrow ho
    rw [hsuccess] at hrst
    have hne : r.status ≠ .confirmed := by rintro he; rw [he] at hrst; cases hrst
    have hin : refund ∈ db'.refunds.docs := by rw [hdocs]; simp
    have hin' : r ∈ db'.refunds.docs := by rw [hdocs]; simp [hr]
    refine fresh r hr (db'.refunds.unique r hin' refund hin (.refundTxHash none) ?_ ?_)
    · simp [h.hash r hr hne]
    · simp [hhash]
  have inRefunds : ∀ r ∈ db'.refunds.docs, r ∈ s.db.refunds.docs ∨ r = refund := by
    intro r hr
    rw [hdocs] at hr
    simpa using hr
  have keepsOrigin : ∀ r ∈ s.db.refunds.docs,
      (s.initiated db' refund.id row).origin r.id = s.origin r.id := by
    intro r hr
    simp [Tracked.initiated, fresh r hr]
  have newOrigin : (s.initiated db' refund.id row).origin refund.id = some row.key := by
    simp [Tracked.initiated]
  constructor
  · intro r hr
    rcases inRefunds r hr with hr | rfl
    · obtain ⟨row', hrow', ho', hs', ht', hst'⟩ := h.has_row r hr
      refine ⟨row', ?_, (keepsOrigin r hr).trans ho', hs', ht', hst'⟩
      refine show row' ∈ db'.payments.docs from hpay ▸ s.db.payments.mem_save.mpr (Or.inr ⟨hrow', ?_⟩)
      intro hk
      exact free r hr (ho'.trans (congrArg some hk))
    · refine ⟨{ row with status := .refundPending }, ?_, newOrigin, hschool, htx, by rw [hst]; rfl⟩
      exact show _ ∈ db'.payments.docs from
        hpay ▸ s.db.payments.mem_save.mpr (Or.inl ⟨rfl, row, hrow, rfl⟩)
  · intro r hr hne
    rcases inRefunds r hr with hr | rfl
    · exact h.hash r hr hne
    · exact hhash
  · intro r hr r' hr' heq
    rcases inRefunds r hr with hr₀ | rfl <;> rcases inRefunds r' hr' with hr₁ | rfl
    · rw [keepsOrigin r hr₀, keepsOrigin r' hr₁] at heq
      exact h.single r hr₀ r' hr₁ heq
    · rw [keepsOrigin r hr₀, newOrigin] at heq
      exact absurd heq (free r hr₀)
    · rw [keepsOrigin r' hr₁, newOrigin] at heq
      exact absurd heq.symm (free r' hr₁)
    · rfl
  · intro row' hrow' hn
    rw [show (s.initiated db' refund.id row).db.payments = _ from hpay] at hrow'
    rcases s.db.payments.mem_save.mp hrow' with ⟨rfl, -⟩ | ⟨hrow', -⟩
    · refine absurd newOrigin (hn refund ?_)
      exact show refund ∈ db'.refunds.docs by rw [hdocs]; simp
    · refine h.untouched row' hrow' fun r hr => ?_
      rw [← keepsOrigin r hr]
      exact hn r (show r ∈ db'.refunds.docs by rw [hdocs]; simp [hr])

end Coupled

/-! ## Which calls keep it -/

/-- The condition on the state a call is made in: if its checks pass, an
`updateRefundStatus` leaves the refund in progress, and a `rejectRefund` or
`completeRefund` finds the row the refund was initiated on. -/
def CouplingSafe (s : Tracked) : RefundCall → Prop
  | .rejectRefund lockFree refundId principal rejectReason schoolId =>
      ∀ p refund row, checkRejectRefund s.db lockFree refundId principal rejectReason schoolId =
          .ok (p, refund, row) → jsLength rejectReason ≤ 1000 →
        s.origin refund.id = some row.key
  | .completeRefund lockFree refundId refundTxHash principal schoolId =>
      ∀ p refund row, checkCompleteRefund s.db lockFree refundId refundTxHash principal schoolId =
          .ok (p, refund, row) →
        ¬ s.db.refunds.Clashes (confirmedRefund refund refundTxHash) →
        s.origin refund.id = some row.key
  | .updateRefundStatus lockFree refundId newStatus txHash failureReason schoolId =>
      ∀ refund st, checkUpdateRefundStatus s.db lockFree refundId newStatus schoolId =
          .ok (refund, st) →
        ¬ s.db.refunds.Clashes (statusUpdate refund st txHash failureReason) →
        st.inProgress = true
  | _ => True

section Step
variable {db₀ : Db} {s : Tracked}

theorem next_refused {call : RefundCall} {e : RefundError} (hrun : call.run s.db = .error e) :
    s.next call = s := by
  unfold Tracked.next
  rw [hrun]

theorem next_initiated {lockFree : Bool} {newId : String} {args : InitiateArgs}
    {r : Refund × Db} {p : Principal} {row : Payment}
    (hrun : initiateRefund s.db lockFree newId args = .ok r)
    (hc : checkInitiateRefund s.db lockFree args = .ok (p, row)) :
    s.next (.initiateRefund lockFree newId args) = s.initiated r.2 r.1.id row := by
  have hfind := (checkInitiateRefund_ok_iff.mp hc).2.2.1
  simp only [Tracked.next, RefundCall.run, hrun, hfind]

/-- The step of an accepted call other than `initiateRefund`. -/
theorem next_moved {call : RefundCall} {r : Refund × Db} (hrun : call.run s.db = .ok r)
    (hcall : ∀ lockFree newId args, call ≠ .initiateRefund lockFree newId args) :
    s.next call = { s with db := r.2 } := by
  unfold Tracked.next
  rw [hrun]
  cases call with
  | initiateRefund lockFree newId args => exact absurd rfl (hcall lockFree newId args)
  | _ => rfl

/-- A refund that ends takes its row along, so the row written is its own. -/
theorem RefundCoupling.origin_written (h : Coupled db₀ s) {refund updated : Refund} {row' : Payment}
    {db' : Db} (hmem : refund ∈ s.db.refunds.docs) (hid : updated.id = refund.id)
    (hprogress : refund.status.inProgress = true) (hended : updated.status.inProgress = false)
    (hrefunds : db'.refunds.toCollection = s.db.refunds.toCollection.save updated)
    (hpay : db'.payments = s.db.payments.save row')
    (hcoupling : RefundCoupling db₀ { s with db := db' }) :
    s.origin refund.id = some row'.key := by
  obtain ⟨row, hrow, ho, -, -, hst⟩ := h.has_row refund hmem
  by_cases hk : row.key = row'.key
  · exact ho.trans (congrArg some hk)
  · -- otherwise the refund's row is still waiting, for a refund that has ended
    have hrow' : row ∈ db'.payments.docs :=
      hpay ▸ s.db.payments.mem_save.mpr (Or.inr ⟨hrow, hk⟩)
    have hup : updated ∈ db'.refunds.docs :=
      hrefunds ▸ s.db.refunds.mem_save.mpr (Or.inl ⟨rfl, refund, hmem, hid.symm⟩)
    have hwait := (hcoupling.pending_iff updated hup row hrow' (hid ▸ ho)).mp
      (hst.trans ((rowStatus_refundPending_iff _).mpr hprogress))
    rcases hwait with hw | hw | hw <;> rw [hw] at hended <;> cases hended

theorem initiateRefund_coupled (h : Coupled db₀ s) {lockFree : Bool} {newId : String}
    {args : InitiateArgs} : Coupled db₀ (s.next (.initiateRefund lockFree newId args)) := by
  cases hrun : RefundCall.run s.db (.initiateRefund lockFree newId args) with
  | error e => rw [next_refused hrun]; exact h
  | ok r =>
    obtain ⟨p, row, refunds, hc, -, hcreate, hr, hdb⟩ := initiateRefund_ok_iff.mp hrun
    rw [next_initiated hrun hc]
    have hfind := (checkInitiateRefund_ok_iff.mp hc).2.2.1
    have hsat := (Db.findPayment_sat hfind).2
    simp only [Bool.and_eq_true, beq_iff_eq] at hsat
    refine h.initiate (Db.findPayment_mem hfind) hsat.2 ?_ ?_ ?_ ?_ ?_ ?_
    · rw [hr]; exact hsat.1.1
    · rw [hr]; exact hsat.1.2
    · rw [hr]; rfl
    · rw [hr]; rfl
    · rw [hr, hcreate, hdb]
    · rw [hdb]

theorem approveRefund_coupled (h : Coupled db₀ s) {refundId : String}
    {principal : Option Principal} {schoolId : String} :
    Coupled db₀ (s.next (.approveRefund refundId principal schoolId)) := by
  cases hrun : RefundCall.run s.db (.approveRefund refundId principal schoolId) with
  | error e => rw [next_refused hrun]; exact h
  | ok r =>
    rw [next_moved hrun (by simp)]
    obtain ⟨p, refund, -, hfind, hst, -, hup, hu, hpay, -⟩ := approveRefund_ok hrun
    rw [hup] at hu
    have hmem := s.db.refunds.mem_of_findOne hfind
    have hid : (approvedRefund refund p).id = refund.id := rfl
    refine h.move_refund hmem hid rfl rfl (fun _ => ?_) ?_ (s.db.refunds.update_toCollection hu) hpay
    · exact h.hash refund hmem (by simp [hst])
    · rw [hst]; rfl

theorem rejectRefund_coupled_iff (h : Coupled db₀ s) {lockFree : Bool} {refundId : String}
    {principal : Option Principal} {rejectReason schoolId : String} {call : RefundCall}
    (hcall : call = .rejectRefund lockFree refundId principal rejectReason schoolId) :
    (CouplingSafe s call → Coupled db₀ (s.next call)) ∧
      (RefundCoupling db₀ (s.next call) → CouplingSafe s call) := by
  subst hcall
  cases hrun : RefundCall.run s.db
      (.rejectRefund lockFree refundId principal rejectReason schoolId) with
  | error e =>
    rw [next_refused hrun]
    refine ⟨fun _ => h, fun _ p refund row hc hlen => ?_⟩
    obtain ⟨r, hr⟩ := rejectRefund_accepts hc hlen
    exact absurd (hr.symm.trans hrun) (by simp)
  | ok r =>
    rw [next_moved hrun (by simp)]
    obtain ⟨p, refund, row, refunds, hc, hlen, hu, -, hdb⟩ := rejectRefund_ok_iff.mp hrun
    obtain ⟨hfind, hst, -, hrow⟩ := checkRejectRefund_ok hc
    have hmem := s.db.refunds.mem_of_findOne hfind
    have hid : (rejectedRefund refund p rejectReason).id = refund.id := rfl
    have hrefunds : r.2.refunds.toCollection =
        s.db.refunds.toCollection.save (rejectedRefund refund p rejectReason) := by
      rw [hdb]; exact s.db.refunds.update_toCollection hu
    have hpay : r.2.payments = s.db.payments.save { row with status := .success } := by rw [hdb]
    constructor
    · intro hsafe
      exact h.move hmem hid rfl rfl (fun _ => h.hash refund hmem (by simp [hst]))
        (Db.findPayment_mem hrow) (hsafe p refund row hc hlen) hrefunds hpay
    · intro hcoupling p' refund' row' hc' _
      rw [hc] at hc'
      cases hc'
      have hprogress : refund.status.inProgress = true := by rw [hst]; rfl
      exact (hcoupling.origin_written h hmem hid hprogress rfl hrefunds hpay :)

theorem completeRefund_coupled_iff (h : Coupled db₀ s) {lockFree : Bool}
    {refundId refundTxHash : String} {principal : Option Principal} {schoolId : String}
    {call : RefundCall}
    (hcall : call = .completeRefund lockFree refundId refundTxHash principal schoolId) :
    (CouplingSafe s call → Coupled db₀ (s.next call)) ∧
      (RefundCoupling db₀ (s.next call) → CouplingSafe s call) := by
  subst hcall
  cases hrun : RefundCall.run s.db
      (.completeRefund lockFree refundId refundTxHash principal schoolId) with
  | error e =>
    rw [next_refused hrun]
    refine ⟨fun _ => h, fun _ p refund row hc hclash => ?_⟩
    obtain ⟨refunds, hu⟩ := s.db.refunds.update_isSome hclash
    have hr := completeRefund_ok_iff.mpr ⟨p, refund, row, refunds, hc, hu, rfl, rfl⟩
    exact absurd (hr.symm.trans hrun) (by simp)
  | ok r =>
    rw [next_moved hrun (by simp)]
    obtain ⟨p, refund, row, refunds, hc, hu, -, hdb⟩ := completeRefund_ok_iff.mp hrun
    obtain ⟨hfind, hst, hrow⟩ := checkCompleteRefund_ok hc
    have hmem := s.db.refunds.mem_of_findOne hfind
    have hid : (confirmedRefund refund refundTxHash).id = refund.id := rfl
    have hrefunds : r.2.refunds.toCollection =
        s.db.refunds.toCollection.save (confirmedRefund refund refundTxHash) := by
      rw [hdb, updateStudentBalance_refunds]; exact s.db.refunds.update_toCollection hu
    have hpay : r.2.payments = s.db.payments.save { row with status := .refunded } := by
      rw [hdb, updateStudentBalance_payments]
    constructor
    · intro hsafe
      exact h.move hmem hid rfl rfl (fun hne => absurd rfl hne) (Db.findPayment_mem hrow)
        (hsafe p refund row hc (s.db.refunds.not_clashes_of_update hu)) hrefunds hpay
    · intro hcoupling p' refund' row' hc' _
      rw [hc] at hc'
      cases hc'
      have hprogress : refund.status.inProgress = true := by rw [hst]; rfl
      exact (hcoupling.origin_written h hmem hid hprogress rfl hrefunds hpay :)

theorem updateRefundStatus_coupled_iff (h : Coupled db₀ s) {lockFree : Bool}
    {refundId newStatus : String} {txHash failureReason schoolId : Option String}
    {call : RefundCall}
    (hcall : call =
      .updateRefundStatus lockFree refundId newStatus txHash failureReason schoolId) :
    (CouplingSafe s call → Coupled db₀ (s.next call)) ∧
      (RefundCoupling db₀ (s.next call) → CouplingSafe s call) := by
  subst hcall
  cases hrun : RefundCall.run s.db
      (.updateRefundStatus lockFree refundId newStatus txHash failureReason schoolId) with
  | error e =>
    rw [next_refused hrun]
    refine ⟨fun _ => h, fun _ refund st hc hclash => ?_⟩
    obtain ⟨r, hr⟩ := updateRefundStatus_accepts hc hclash
    exact absurd (hr.symm.trans hrun) (by simp)
  | ok r =>
    rw [next_moved hrun (by simp)]
    obtain ⟨refund, st, hc, hup, hu, hpay, -⟩ := updateRefundStatus_ok hrun
    obtain ⟨-, hfind, htrans⟩ := checkUpdateRefundStatus_ok hc
    have hmem := (findRefundScoped_mem hfind).1
    rw [hup] at hu
    have hcont : refund.Continues (statusUpdate refund st txHash failureReason) :=
      continues_statusUpdate
    have hid := hcont.id
    have hrefunds := s.db.refunds.update_toCollection hu
    have hprogress : refund.status.inProgress = true := RefundStatus.inProgress_of_mem htrans
    constructor
    · intro hsafe
      have hst := hsafe refund st hc (s.db.refunds.not_clashes_of_update hu)
      have hne : st ≠ .confirmed := by rintro rfl; cases hst
      refine h.move_refund hmem hid hcont.schoolId hcont.originalTxHash
        (fun _ => ?_) ?_ hrefunds hpay
      · rw [statusUpdate_refundTxHash_of_ne _ _ _ _ hne]
        refine h.hash refund hmem fun he => ?_
        rw [he] at hprogress
        cases hprogress
      · rw [statusUpdate_status]
        exact ((rowStatus_refundPending_iff st).mpr hst).trans
          ((rowStatus_refundPending_iff _).mpr hprogress).symm
    · intro hcoupling refund' st' hc' _
      rw [hc] at hc'
      cases hc'
      obtain ⟨row, hrow, ho, -, -, hrst⟩ := h.has_row refund hmem
      have hup' : statusUpdate refund st txHash failureReason ∈ r.2.refunds.docs :=
        hrefunds ▸ s.db.refunds.mem_save.mpr (Or.inl ⟨rfl, refund, hmem, hid.symm⟩)
      have hwait := (hcoupling.pending_iff _ hup' row (hpay ▸ hrow) (hid ▸ ho)).mp
        (hrst.trans ((rowStatus_refundPending_iff _).mpr hprogress))
      rw [statusUpdate_status] at hwait
      rcases hwait with hw | hw | hw <;> rw [hw] <;> rfl

/-- **One call keeps the coupling exactly when it is safe.** -/
theorem next_coupled_iff (h : Coupled db₀ s) (call : RefundCall) :
    (CouplingSafe s call → Coupled db₀ (s.next call)) ∧
      (RefundCoupling db₀ (s.next call) → CouplingSafe s call) := by
  cases call with
  | initiateRefund lockFree newId args =>
    exact ⟨fun _ => initiateRefund_coupled h, fun _ => trivial⟩
  | approveRefund refundId principal schoolId =>
    exact ⟨fun _ => approveRefund_coupled h, fun _ => trivial⟩
  | rejectRefund lockFree refundId principal rejectReason schoolId =>
    exact rejectRefund_coupled_iff h rfl
  | completeRefund lockFree refundId refundTxHash principal schoolId =>
    exact completeRefund_coupled_iff h rfl
  | updateRefundStatus lockFree refundId newStatus txHash failureReason schoolId =>
    exact updateRefundStatus_coupled_iff h rfl

theorem reach_coupled (h0 : Unrefunded db₀) (hrun : Reach refundStep CouplingSafe (.start db₀) s) :
    Coupled db₀ s :=
  hrun.invariant (Coupled.start h0) fun ht hsafe hstep =>
    Option.some.inj hstep ▸ (next_coupled_iff ht _).1 hsafe

end Step

/-- **Refund and row stay coupled along every run of safe calls**, and in each state
such a run reaches, safety is exactly what the next call needs. -/
theorem refund_coupling_along_runs {db₀ : Db} (h0 : Unrefunded db₀) {s : Tracked}
    (hrun : Reach refundStep CouplingSafe (.start db₀) s) :
    RefundCoupling db₀ s ∧
      ∀ call, RefundCoupling db₀ (s.next call) ↔ CouplingSafe s call := by
  have h := reach_coupled h0 hrun
  refine ⟨h.coupling, fun call => ?_⟩
  obtain ⟨hkeeps, hneeds⟩ := next_coupled_iff h call
  exact ⟨hneeds, fun hsafe => (hkeeps hsafe).coupling⟩

/-! ## Two runs -/

/-- A full refund of `paidRow`. -/
def fullRefund : InitiateArgs :=
  ⟨"SCH", "tx1", "STU001", 1000000000, "duplicate payment", some ⟨"u1", "operator 1"⟩⟩

theorem paidDb_unrefunded : Unrefunded paidDb := ⟨rfl, by decide⟩

/-- A refund of `paidRow` initiated by one operator and approved by another. -/
def approvedState : Tracked :=
  ((Tracked.start paidDb).next (.initiateRefund true "r1" fullRefund)).next
    (.approveRefund "r1" (some ⟨"u2", "operator 2"⟩) "SCH")

theorem refund_coupling_along_runs_approved :
    Reach refundStep CouplingSafe (.start paidDb) approvedState ∧
      RefundCoupling paidDb approvedState ∧
      approvedState.db.refunds.docs.map Refund.status = [.pending] ∧
      approvedState.db.payments.docs.map Payment.status = [.refundPending] := by
  have hrun : Reach refundStep CouplingSafe (.start paidDb) approvedState :=
    .tail (.tail .refl (show CouplingSafe _ (.initiateRefund true "r1" fullRefund) from trivial) rfl)
      (show CouplingSafe _ (.approveRefund "r1" (some ⟨"u2", "operator 2"⟩) "SCH") from trivial) rfl
  exact ⟨hrun, (refund_coupling_along_runs paidDb_unrefunded hrun).1, by decide, by decide⟩

/-- A refund that fails through `updateRefundStatus` leaves its row waiting for it. -/
theorem failed_refund_leaves_row_stuck :
    ¬ ∀ db₀ s, Unrefunded db₀ → Reach refundStep Free (.start db₀) s → RefundCoupling db₀ s := by
  intro h
  have hrun := reach_of_exec (show exec refundStep (.start paidDb)
    [.initiateRefund true "r1" fullRefund,
      .updateRefundStatus true "r1" "failed" none (some "destination account missing")
        (some "SCH")] = some _ from rfl)
  have stuck := (h paidDb _ paidDb_unrefunded hrun).not_stuck { paidRow with status := .refundPending }
    (by decide) rfl
  revert stuck
  decide

end StellarEduPay

import StellarEduPay.Runs
import StellarEduPay.RefundService

/-! # The two-person rule

A refund may be paid out only after somebody other than its initiator approved
it.  `approveRefund` enforces the rule on the edge from `approval_pending` to
`pending`.  The transition table has the same edge, so `updateRefundStatus` can
take it as well, and records no approver: `TwoPersonSafe` is the condition that
it does not.
-/
namespace StellarEduPay
open Runs

/-- The states from which money is, or has been, paid out. -/
def RefundStatus.payable : RefundStatus → Bool
  | .pending | .submitted | .confirmed => true
  | _ => false

/-- An approver is recorded, and is not the initiator. -/
def Refund.Approved (r : Refund) : Prop :=
  ∃ approver, r.approvedBy = some approver ∧ approver.userId ≠ r.initiatedBy.userId

instance (r : Refund) : Decidable r.Approved :=
  match h : r.approvedBy with
  | none => .isFalse fun ⟨_, ha, _⟩ => by rw [h] at ha; cases ha
  | some approver =>
    decidable_of_iff (approver.userId ≠ r.initiatedBy.userId)
      ⟨fun hne => ⟨approver, h, hne⟩, fun ⟨_, ha, hne⟩ => Option.some.inj (h.symm.trans ha) ▸ hne⟩

/-- **The two-person rule.** -/
def TwoPersonRule (db : Db) : Prop :=
  ∀ r ∈ db.refunds.docs, r.status.payable = true → r.Approved

instance (db : Db) : Decidable (TwoPersonRule db) :=
  inferInstanceAs (Decidable (∀ r ∈ db.refunds.docs, r.status.payable = true → r.Approved))

/-- The service as a transition system on the store. -/
def refundDbStep (db : Db) (call : RefundCall) : Option Db := some (call.apply db)

/-- An `updateRefundStatus` that passes its checks does not move a refund to
`pending` in place of an approval. -/
def TwoPersonSafe (db : Db) : RefundCall → Prop
  | .updateRefundStatus lockFree refundId newStatus _ _ schoolId =>
      ∀ refund st, checkUpdateRefundStatus db lockFree refundId newStatus schoolId =
        .ok (refund, st) → st = .pending → refund.Approved
  | _ => True

section Step
variable {db : Db}

/-- One refund replaced: the rule is about the new version only. -/
theorem twoPersonRule_save_iff (h : TwoPersonRule db) {refund updated : Refund} {db' : Db}
    (hmem : refund ∈ db.refunds.docs) (hid : updated.id = refund.id)
    (hu : db.refunds.update updated = some db'.refunds) :
    TwoPersonRule db' ↔ (updated.status.payable = true → updated.Approved) := by
  have hdocs := db.refunds.update_toCollection hu
  constructor
  · intro h' hp
    refine h' updated ?_ hp
    rw [hdocs]
    exact db.refunds.mem_save.mpr (Or.inl ⟨rfl, refund, hmem, hid.symm⟩)
  · intro hup r hr hp
    rw [hdocs] at hr
    rcases db.refunds.mem_save.mp hr with ⟨rfl, -⟩ | ⟨hr, -⟩
    · exact hup hp
    · exact h r hr hp

theorem initiateRefund_twoPerson (h : TwoPersonRule db) (lockFree : Bool) (newId : String)
    (args : InitiateArgs) : TwoPersonRule (db.after (initiateRefund db lockFree newId args)) := by
  cases hrun : initiateRefund db lockFree newId args with
  | error e => exact h
  | ok r =>
    obtain ⟨p, row, refunds, -, -, hcreate, -, hdb⟩ := initiateRefund_ok_iff.mp hrun
    intro x hx hp
    rw [Db.after, hdb] at hx
    rw [db.refunds.create_docs hcreate] at hx
    rcases List.mem_append.mp hx with hx | hx
    · exact h x hx hp
    · obtain rfl := List.mem_singleton.mp hx
      cases hp

theorem approveRefund_twoPerson (h : TwoPersonRule db) (refundId : String)
    (principal : Option Principal) (schoolId : String) :
    TwoPersonRule (db.after (approveRefund db refundId principal schoolId)) := by
  cases hrun : approveRefund db refundId principal schoolId with
  | error e => exact h
  | ok r =>
    obtain ⟨p, refund, -, hfind, -, hne, hup, hu, -⟩ := approveRefund_ok hrun
    have hid : r.1.id = refund.id := by rw [hup]; rfl
    refine (twoPersonRule_save_iff h (db.refunds.mem_of_findOne hfind) hid hu).mpr fun _ => ?_
    rw [hup]
    exact ⟨p, rfl, fun he => hne he.symm⟩

theorem rejectRefund_twoPerson (h : TwoPersonRule db) (lockFree : Bool) (refundId : String)
    (principal : Option Principal) (rejectReason schoolId : String) :
    TwoPersonRule (db.after (rejectRefund db lockFree refundId principal rejectReason schoolId)) := by
  cases hrun : rejectRefund db lockFree refundId principal rejectReason schoolId with
  | error e => exact h
  | ok r =>
    obtain ⟨p, refund, row, refunds, hc, -, hu, -, hdb⟩ := rejectRefund_ok_iff.mp hrun
    have hmem := db.refunds.mem_of_findOne (checkRejectRefund_ok hc).1
    have hid : (rejectedRefund refund p rejectReason).id = refund.id := rfl
    have hu' : db.refunds.update (rejectedRefund refund p rejectReason) = some r.2.refunds := by
      rw [hu, hdb]
    exact (twoPersonRule_save_iff h hmem hid hu').mpr fun hp => by cases hp

theorem completeRefund_twoPerson (h : TwoPersonRule db) (lockFree : Bool)
    (refundId refundTxHash : String) (principal : Option Principal) (schoolId : String) :
    TwoPersonRule
      (db.after (completeRefund db lockFree refundId refundTxHash principal schoolId)) := by
  cases hrun : completeRefund db lockFree refundId refundTxHash principal schoolId with
  | error e => exact h
  | ok r =>
    obtain ⟨p, refund, row, refunds, hc, hu, -, hdb⟩ := completeRefund_ok_iff.mp hrun
    obtain ⟨hfind, hst, -⟩ := checkCompleteRefund_ok hc
    have hmem := db.refunds.mem_of_findOne hfind
    have hid : (confirmedRefund refund refundTxHash).id = refund.id := rfl
    have hu' : db.refunds.update (confirmedRefund refund refundTxHash) = some r.2.refunds := by
      rw [hu, hdb, updateStudentBalance_refunds]
    -- a pending refund was approved, and completing it keeps the approver
    exact (twoPersonRule_save_iff h hmem hid hu').mpr fun _ => h refund hmem (by rw [hst]; rfl)

theorem updateRefundStatus_twoPerson_iff (h : TwoPersonRule db) (lockFree : Bool)
    (refundId newStatus : String) (txHash failureReason schoolId : Option String) :
    TwoPersonRule (db.after
        (updateRefundStatus db lockFree refundId newStatus txHash failureReason schoolId)) ↔
      ∀ refund st, checkUpdateRefundStatus db lockFree refundId newStatus schoolId =
        .ok (refund, st) → st = .pending → refund.Approved := by
  cases hrun : updateRefundStatus db lockFree refundId newStatus txHash failureReason schoolId with
  | error e =>
    refine iff_of_true h ?_
    rintro refund st hc rfl
    obtain ⟨-, hfind, htrans⟩ := checkUpdateRefundStatus_ok hc
    have hst : refund.status = .approvalPending := by
      revert htrans
      cases refund.status <;> decide
    have hcont : refund.Continues (statusUpdate refund .pending txHash failureReason) :=
      continues_statusUpdate
    -- the move keeps both index entries, so it cannot have been refused
    have hsub : ∀ i ∈ (statusUpdate refund .pending txHash failureReason).indexEntries,
        i ∈ refund.indexEntries := by
      intro i hi
      rw [Refund.indexEntries, statusUpdate_refundTxHash_of_ne _ _ _ _ (by simp)] at hi
      simpa [Refund.indexEntries, RefundStatus.active, hst, hcont.schoolId, hcont.originalTxHash]
        using hi
    obtain ⟨refunds, hu⟩ := update_isSome_of_subset (findRefundScoped_mem hfind).1
      hcont.id hsub
    obtain ⟨r, hr⟩ := updateRefundStatus_accepts hc (db.refunds.not_clashes_of_update hu)
    exact absurd (hr.symm.trans hrun) (by simp)
  | ok r =>
    obtain ⟨refund, st, hc, hup, hu, -⟩ := updateRefundStatus_ok hrun
    obtain ⟨-, hfind, htrans⟩ := checkUpdateRefundStatus_ok hc
    have hmem := (findRefundScoped_mem hfind).1
    have hid : r.1.id = refund.id := hup ▸ continues_statusUpdate.id
    refine (twoPersonRule_save_iff h hmem hid hu).trans ?_
    have happroved : r.1.Approved ↔ refund.Approved := by
      obtain ⟨_, _, heq, -⟩ := statusUpdate_eq refund st txHash failureReason
      rw [hup, heq]
      rfl
    rw [happroved, hup, statusUpdate_status]
    constructor
    · rintro hkeep refund' st' hc' rfl
      rw [hc] at hc'
      cases hc'
      exact hkeep rfl
    · intro hsafe hp
      by_cases hst : st = .pending
      · exact hsafe refund st hc hst
      · -- the other payable states are entered from payable ones
        refine h refund hmem ?_
        revert htrans hp hst
        cases refund.status <;> cases st <;> decide

/-- **One call keeps the rule exactly when it is safe.** -/
theorem apply_twoPerson_iff (h : TwoPersonRule db) (call : RefundCall) :
    TwoPersonRule (call.apply db) ↔ TwoPersonSafe db call := by
  cases call with
  | initiateRefund lockFree newId args =>
    exact iff_of_true (initiateRefund_twoPerson h lockFree newId args) trivial
  | approveRefund refundId principal schoolId =>
    exact iff_of_true (approveRefund_twoPerson h refundId principal schoolId) trivial
  | rejectRefund lockFree refundId principal rejectReason schoolId =>
    exact iff_of_true (rejectRefund_twoPerson h lockFree refundId principal rejectReason schoolId)
      trivial
  | completeRefund lockFree refundId refundTxHash principal schoolId =>
    exact iff_of_true
      (completeRefund_twoPerson h lockFree refundId refundTxHash principal schoolId) trivial
  | updateRefundStatus lockFree refundId newStatus txHash failureReason schoolId =>
    exact updateRefundStatus_twoPerson_iff h lockFree refundId newStatus txHash failureReason schoolId

end Step

/-- **The two-person rule holds along every run of safe calls**, and in every state of such
a run safety is exactly what the next call needs. -/
theorem two_person_rule_along_runs {db db' : Db} (h : TwoPersonRule db)
    (hrun : Reach refundDbStep TwoPersonSafe db db') :
    TwoPersonRule db' ∧ ∀ call, TwoPersonRule (call.apply db') ↔ TwoPersonSafe db' call := by
  have h' : TwoPersonRule db' := by
    refine hrun.invariant h fun {t a u} ht hsafe hstep => ?_
    obtain rfl : a.apply t = u := Option.some.inj hstep
    exact (apply_twoPerson_iff ht a).mpr hsafe
  exact ⟨h', apply_twoPerson_iff h'⟩

/-- Initiated by one operator and approved by another. -/
theorem two_person_rule_along_runs_approved : ∃ db', TwoPersonRule db' ∧
    Reach refundDbStep TwoPersonSafe paidDb db' ∧
    db'.refunds.docs.map Refund.status = [.pending] := by
  let initiate : RefundCall := .initiateRefund true "r1" ⟨"SCH", "tx1", "STU001", 1000000000,
    "duplicate payment", some ⟨"u1", "operator 1"⟩⟩
  let approve : RefundCall := .approveRefund "r1" (some ⟨"u2", "operator 2"⟩) "SCH"
  have hrun : Reach refundDbStep TwoPersonSafe paidDb (approve.apply (initiate.apply paidDb)) :=
    .tail (.tail .refl (show TwoPersonSafe _ initiate from trivial) rfl)
      (show TwoPersonSafe _ approve from trivial) rfl
  exact ⟨_, (two_person_rule_along_runs (by decide) hrun).1, hrun, by decide⟩

/-- The initiator alone takes a refund to `pending`, with no approver on record. -/
theorem update_status_skips_approval :
    ¬ ∀ db db', TwoPersonRule db → Reach refundDbStep Free db db' → TwoPersonRule db' := by
  intro h
  have hrun := reach_of_exec (show exec refundDbStep paidDb
    [.initiateRefund true "r1" ⟨"SCH", "tx1", "STU001", 1000000000, "duplicate payment",
        some ⟨"u1", "operator 1"⟩⟩,
      .updateRefundStatus true "r1" "pending" none none (some "SCH")] = some _ from rfl)
  exact absurd (h paidDb _ (by decide) hrun) (by decide)

end StellarEduPay

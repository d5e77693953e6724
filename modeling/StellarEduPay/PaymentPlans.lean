import Mathlib.Algebra.BigOperators.Group.List.Basic
import Mathlib.Algebra.Order.Field.Rat
import Mathlib.Data.List.Sort
import Mathlib.Tactic.Linarith
import Mathlib.Tactic.Ring
import StellarEduPay.Checks
import StellarEduPay.JsString
import StellarEduPay.Runs

/-! # Payment plans (`models/paymentPlanModel.js`)

A plan splits a fee into instalments.  `applyPayment` hands a confirmed payment out to the unpaid
instalments, the earliest due date first, and `settleInstallmentManually` sets one of them by hand.
Amounts are exact, and an instalment keeps its place in the array: the sorted copy of the loop holds
the same entries, so it is a list of places here.
-/
namespace StellarEduPay
open Checks Runs

/-! ## The model -/

structure Installment where
  amount : ℚ
  dueDate : Nat
  paid : Bool := false
  paidAt : Option Nat := none
  paidAmount : ℚ := 0
  paymentTxHashes : List String := []
  reference : Option String := none
  deriving DecidableEq, Repr

inductive PlanStatus
  | active
  | completed
  | cancelled
  deriving DecidableEq, Repr

structure PaymentPlan where
  schoolId : String
  studentId : String
  totalAmount : ℚ
  installments : List Installment
  status : PlanStatus := .active
  updatedAt : Nat := 0
  deletedAt : Option Nat := none
  deriving DecidableEq, Repr

namespace Installment

/-- `Math.max(0, inst.amount - inst.paidAmount)` -/
def outstanding (inst : Installment) : ℚ := max 0 (inst.amount - inst.paidAmount)

/-- `if (txHash && !inst.paymentTxHashes.includes(txHash)) inst.paymentTxHashes.push(txHash)` -/
def addTxHash (inst : Installment) (txHash : Option String) : Installment :=
  match truthy txHash with
  | some hash =>
    if hash ∈ inst.paymentTxHashes then inst
    else { inst with paymentTxHashes := inst.paymentTxHashes ++ [hash] }
  | none => inst

/-- `if (inst.paidAmount >= inst.amount)` the instalment is paid. -/
def markPaid (inst : Installment) (now : Nat) : Installment :=
  if inst.amount ≤ inst.paidAmount then { inst with paid := true, paidAt := some now } else inst

/-- The body of the loop: the instalment, and what remains of the payment. -/
def receive (now : Nat) (txHash : Option String) (inst : Installment) (remaining : ℚ) :
    Installment × ℚ :=
  if inst.paid = true ∨ inst.outstanding ≤ 0 then (inst, remaining)
  else
    let portion := min inst.outstanding remaining
    let inst := ({ inst with paidAmount := inst.paidAmount + portion }.addTxHash txHash).markPaid now
    (inst, remaining - portion)

end Installment

/-- The loop of `applyPayment` over the places in `order`. -/
def applyLoop (now : Nat) (txHash : Option String) :
    List Nat → List Installment → ℚ → List Installment × ℚ
  | [], installments, remaining => (installments, remaining)
  | i :: order, installments, remaining =>
    if remaining ≤ 0 then (installments, remaining)
    else match installments[i]? with
    | some inst =>
      let (inst, remaining) := inst.receive now txHash remaining
      applyLoop now txHash order (installments.set i inst) remaining
    | none => applyLoop now txHash order installments remaining

/-- The due date at a place. -/
def dueDateAt (installments : List Installment) (i : Nat) : Nat :=
  (installments[i]?.map (·.dueDate)).getD 0

/-- `[...this.installments].sort((a, b) => a.dueDate - b.dueDate)`, which is stable. -/
def dueOrder (installments : List Installment) : List Nat :=
  (List.range installments.length).insertionSort fun i j =>
    dueDateAt installments i ≤ dueDateAt installments j

/-- `{ applied, remaining }` -/
structure Applied where
  applied : ℚ
  remaining : ℚ
  deriving DecidableEq, Repr

/-- What `settleInstallmentManually` is given besides the place. -/
structure Settlement where
  paid : Bool := false
  paidAmount : Option ℚ := none
  reference : Option String := none
  deriving DecidableEq, Repr

namespace PaymentPlan

/-- `this.installments.every(inst => inst.paid)` -/
def allPaid (plan : PaymentPlan) : Bool := plan.installments.all (·.paid)

/-- `applyPayment` -/
def applyPayment (plan : PaymentPlan) (now : Nat) (amount : ℚ) (txHash : Option String) :
    PaymentPlan × Applied :=
  if amount ≤ 0 then (plan, ⟨0, 0⟩)
  else
    let (installments, remaining) :=
      applyLoop now txHash (dueOrder plan.installments) plan.installments amount
    let plan := { plan with installments, updatedAt := now }
    ({ plan with status := if plan.allPaid then .completed else plan.status },
      ⟨amount - remaining, remaining⟩)

end PaymentPlan

/-- The fields `settleInstallmentManually` sets. -/
def Installment.settle (now : Nat) (settlement : Settlement) (inst : Installment) : Installment :=
  let inst := { inst with reference := settlement.reference }
  if settlement.paid then
    let amount := settlement.paidAmount.getD inst.amount
    { inst with paidAmount := amount, paid := decide (inst.amount ≤ amount), paidAt := some now }
  else { inst with paid := false, paidAmount := 0, paidAt := none }

/-- `settleInstallmentManually` -/
def PaymentPlan.settleInstallmentManually (plan : PaymentPlan) (now index : Nat)
    (settlement : Settlement) : Except String PaymentPlan :=
  match plan.installments[index]? with
  | none => .error "Installment not found"
  | some inst =>
    if truthy settlement.reference = none then
      .error "A reference is required for manual installment settlement"
    else
      let plan := { plan with
        installments := plan.installments.set index (inst.settle now settlement), updatedAt := now }
      .ok { plan with
        status :=
          if plan.allPaid then .completed
          else if plan.status = .completed then .active
          else plan.status }

/-! ## One instalment -/

namespace Installment
variable {inst a b c : Installment} {now : Nat} {txHash : Option String} {remaining : ℚ}

@[simp] theorem addTxHash_amount : (inst.addTxHash txHash).amount = inst.amount := by
  unfold addTxHash
  split
  · split <;> rfl
  · rfl

@[simp] theorem addTxHash_dueDate : (inst.addTxHash txHash).dueDate = inst.dueDate := by
  unfold addTxHash
  split
  · split <;> rfl
  · rfl

@[simp] theorem addTxHash_paid : (inst.addTxHash txHash).paid = inst.paid := by
  unfold addTxHash
  split
  · split <;> rfl
  · rfl

@[simp] theorem addTxHash_paidAmount : (inst.addTxHash txHash).paidAmount = inst.paidAmount := by
  unfold addTxHash
  split
  · split <;> rfl
  · rfl

@[simp] theorem markPaid_amount : (inst.markPaid now).amount = inst.amount := by
  unfold markPaid
  split <;> rfl

@[simp] theorem markPaid_dueDate : (inst.markPaid now).dueDate = inst.dueDate := by
  unfold markPaid
  split <;> rfl

@[simp] theorem markPaid_paidAmount : (inst.markPaid now).paidAmount = inst.paidAmount := by
  unfold markPaid
  split <;> rfl

@[simp] theorem markPaid_paid :
    (inst.markPaid now).paid = (inst.paid || decide (inst.amount ≤ inst.paidAmount)) := by
  unfold markPaid
  split
  · rename_i h; simp [h]
  · rename_i h; simp [h]

/-- An instalment is paid exactly when its amount has been paid in. -/
def Settled (inst : Installment) : Prop := inst.paid = true ↔ inst.amount ≤ inst.paidAmount

/-- What a payment does to an instalment: nothing, or it pays in up to the amount. -/
structure Advances (a b : Installment) : Prop where
  amount : b.amount = a.amount
  dueDate : b.dueDate = a.dueDate
  moved : b = a ∨ a.paidAmount < b.paidAmount ∧ b.paidAmount ≤ b.amount
  settled : a.Settled → b.Settled
  staysPaid : a.paid = true → b.paid = true

theorem Advances.refl (a : Installment) : Advances a a :=
  ⟨rfl, rfl, Or.inl rfl, id, id⟩

theorem Advances.trans (hab : Advances a b) (hbc : Advances b c) : Advances a c := by
  refine ⟨hbc.amount.trans hab.amount, hbc.dueDate.trans hab.dueDate, ?_, hbc.settled ∘ hab.settled,
    hbc.staysPaid ∘ hab.staysPaid⟩
  rcases hab.moved with rfl | ⟨hlt, hle⟩
  · exact hbc.moved
  · rcases hbc.moved with rfl | ⟨hlt', hle'⟩
    · exact Or.inr ⟨hlt, hle⟩
    · exact Or.inr ⟨hlt.trans hlt', hle'⟩

/-- What one turn of the loop does. -/
structure Received (inst : Installment) (remaining : ℚ) (after : Installment × ℚ) : Prop where
  advances : Advances inst after.1
  conserved : after.1.paidAmount + after.2 = inst.paidAmount + remaining
  nonneg : 0 ≤ after.2
  full : 0 < after.2 → after.1.paid = true

theorem outstanding_le_zero_iff : inst.outstanding ≤ 0 ↔ inst.amount ≤ inst.paidAmount := by
  rw [outstanding, max_le_iff, sub_nonpos]
  exact and_iff_right le_rfl

theorem receive_spec (now : Nat) (txHash : Option String) (h : inst.Settled) (hpos : 0 < remaining) :
    Received inst remaining (inst.receive now txHash remaining) := by
  unfold receive
  split
  · rename_i hdone
    have hpaid : inst.paid = true := hdone.elim id fun hle => h.mpr (outstanding_le_zero_iff.mp hle)
    exact ⟨.refl inst, rfl, hpos.le, fun _ => hpaid⟩
  · rename_i hopen
    obtain ⟨-, hout⟩ := not_or.mp hopen
    have hshort : inst.paidAmount < inst.amount := by
      rw [outstanding_le_zero_iff] at hout
      exact not_le.mp hout
    have houtstanding : inst.outstanding = inst.amount - inst.paidAmount :=
      max_eq_right (sub_nonneg.mpr hshort.le)
    have hunpaid : inst.paid = false := Bool.eq_false_iff.mpr fun hp => (h.mp hp).not_gt hshort
    have hportion : 0 < min inst.outstanding remaining := lt_min (not_le.mp hout) hpos
    have hle : min inst.outstanding remaining ≤ inst.amount - inst.paidAmount :=
      houtstanding ▸ min_le_left _ _
    refine ⟨⟨by simp, by simp, Or.inr ?_, fun _ => ?_, fun hp => absurd hp (by simp [hunpaid])⟩, ?_, ?_,
      fun hleft => ?_⟩
    · simp only [markPaid_paidAmount, addTxHash_paidAmount, markPaid_amount, addTxHash_amount]
      constructor <;> linarith
    · simp [Settled, hunpaid]
    · simp only [markPaid_paidAmount, addTxHash_paidAmount]
      ring
    · exact sub_nonneg.mpr (min_le_right _ _)
    · -- something is left over, so the portion was all that was outstanding
      have hall : min inst.outstanding remaining = inst.outstanding := by
        refine min_eq_left_iff.mpr (le_of_lt ?_)
        by_contra hge
        rw [min_eq_right (not_lt.mp hge)] at hleft
        linarith
      simp only [hall, markPaid_paid, addTxHash_amount, addTxHash_paidAmount, Bool.or_eq_true,
        decide_eq_true_eq]
      exact Or.inr (by linarith)

end Installment

/-! ## The loop -/

/-- The instalments before and after a payment, place by place. -/
structure PlanAdvances (before after : List Installment) : Prop where
  length : after.length = before.length
  each : ∀ {i : Nat} {a : Installment}, before[i]? = some a → ∃ b, after[i]? = some b ∧ a.Advances b

namespace PlanAdvances
variable {l m k : List Installment}

theorem refl (l : List Installment) : PlanAdvances l l := ⟨rfl, fun h => ⟨_, h, .refl _⟩⟩

theorem trans (hlm : PlanAdvances l m) (hmk : PlanAdvances m k) : PlanAdvances l k := by
  refine ⟨hmk.length.trans hlm.length, fun h => ?_⟩
  obtain ⟨b, hb, hab⟩ := hlm.each h
  obtain ⟨c, hc, hbc⟩ := hmk.each hb
  exact ⟨c, hc, hab.trans hbc⟩

theorem set {i : Nat} {a b : Installment} (hi : l[i]? = some a) (hab : a.Advances b) :
    PlanAdvances l (l.set i b) := by
  refine ⟨List.length_set, fun {j x} hj => ?_⟩
  by_cases hij : i = j
  · subst hij
    obtain rfl := Option.some.inj (hi.symm.trans hj)
    exact ⟨b, List.getElem?_set_self (List.getElem?_eq_some_iff.mp hi).1, hab⟩
  · exact ⟨x, by rw [List.getElem?_set_ne hij, hj], .refl x⟩

/-- What is paid stays paid. -/
theorem paid (h : PlanAdvances l m) {i : Nat} (hl : ∀ x ∈ l[i]?, x.paid = true) :
    ∀ x ∈ m[i]?, x.paid = true := by
  intro x hx
  have hi : i < l.length := h.length ▸ (List.getElem?_eq_some_iff.mp hx).1
  obtain ⟨b, hb, hab⟩ := h.each (List.getElem?_eq_getElem hi)
  obtain rfl := Option.some.inj (hb.symm.trans hx)
  exact hab.staysPaid (hl _ (List.getElem?_eq_getElem hi))

/-- What a payment keeps of an instalment, it keeps of all. -/
theorem forall_mem {P : Installment → Prop} (h : PlanAdvances l m)
    (hkeeps : ∀ {a b : Installment}, a.Advances b → P a → P b) (hl : ∀ x ∈ l, P x) : ∀ x ∈ m, P x := by
  intro x hx
  obtain ⟨i, hi, rfl⟩ := List.mem_iff_getElem.mp hx
  have hil : i < l.length := h.length ▸ hi
  obtain ⟨b, hb, hab⟩ := h.each (List.getElem?_eq_getElem hil)
  obtain rfl := Option.some.inj (hb.symm.trans (List.getElem?_eq_getElem hi))
  exact hkeeps hab (hl _ (List.getElem_mem hil))

theorem settled (h : PlanAdvances l m) (hl : ∀ x ∈ l, x.Settled) : ∀ x ∈ m, x.Settled :=
  h.forall_mem (fun hab => hab.settled) hl

end PlanAdvances

/-- What has been paid in, over all instalments. -/
def paidIn (installments : List Installment) : ℚ := (installments.map (·.paidAmount)).sum

theorem paidIn_set {l : List Installment} {i : Nat} {a b : Installment} (hi : l[i]? = some a) :
    paidIn (l.set i b) + a.paidAmount = paidIn l + b.paidAmount := by
  induction l generalizing i with
  | nil => simp at hi
  | cons x l ih =>
    cases i with
    | zero =>
      obtain rfl : x = a := by simpa using hi
      simp only [paidIn, List.set_cons_zero, List.map_cons, List.sum_cons]
      ring
    | succ i =>
      have := ih (i := i) (by simpa using hi)
      simp only [paidIn, List.set_cons_succ, List.map_cons, List.sum_cons] at this ⊢
      linarith

/-- What the loop does over the places in `order`. -/
structure LoopDone (order : List Nat) (before : List Installment) (remaining : ℚ)
    (after : List Installment × ℚ) : Prop where
  advances : PlanAdvances before after.1
  conserved : paidIn after.1 + after.2 = paidIn before + remaining
  nonneg : 0 ≤ after.2
  full : 0 < after.2 → ∀ i ∈ order, ∀ x ∈ after.1[i]?, x.paid = true
  inOrder : order.Pairwise fun i j => after.1[j]? ≠ before[j]? → ∀ x ∈ after.1[i]?, x.paid = true
  elsewhere : ∀ j ∉ order, after.1[j]? = before[j]?

theorem applyLoop_of_nonpos {now : Nat} {txHash : Option String} (order : List Nat)
    (installments : List Installment) {remaining : ℚ} (h : remaining ≤ 0) :
    applyLoop now txHash order installments remaining = (installments, remaining) := by
  cases order with
  | nil => rfl
  | cons i order => exact if_pos h

namespace LoopDone
variable {order : List Nat} {before : List Installment} {remaining : ℚ}
  {after : List Installment × ℚ} {i : Nat}

/-- The loop stops: nothing happens. -/
theorem stop (order : List Nat) (before : List Installment) (hnonneg : 0 ≤ remaining)
    (h : order = [] ∨ remaining ≤ 0) : LoopDone order before remaining (before, remaining) := by
  refine ⟨.refl before, rfl, hnonneg, fun hpos i hi => ?_,
    List.pairwise_of_forall fun _ _ hchanged => absurd rfl hchanged, fun _ _ => rfl⟩
  rcases h with rfl | hstop
  · exact absurd hi List.not_mem_nil
  · exact absurd hpos hstop.not_gt

/-- The loop goes on beyond a place. -/
theorem receive {inst inst' : Installment} {left : ℚ} (hi : i ∉ order) (hinst : before[i]? = some inst)
    (hreceived : inst.Received remaining (inst', left))
    (hrest : LoopDone order (before.set i inst') left after)
    (hstop : left ≤ 0 → after = (before.set i inst', left)) :
    LoopDone (i :: order) before remaining after := by
  have hset : PlanAdvances before (before.set i inst') := .set hinst hreceived.advances
  have hother : ∀ j, j ≠ i → (before.set i inst')[j]? = before[j]? := fun j hj =>
    List.getElem?_set_ne (Ne.symm hj)
  -- a payment that goes on leaves the place paid
  have hhead : 0 < left → ∀ x ∈ after.1[i]?, x.paid = true := by
    intro hleft
    refine hrest.advances.paid fun x hx => ?_
    rw [List.getElem?_set_self (List.getElem?_eq_some_iff.mp hinst).1] at hx
    exact Option.some.inj hx ▸ hreceived.full hleft
  refine ⟨hset.trans hrest.advances, ?_, hrest.nonneg, fun hleft j hj => ?_, ?_, fun j hj => ?_⟩
  · have hsum := paidIn_set (b := inst') hinst
    have := hrest.conserved
    have := hreceived.conserved
    linarith
  · rcases List.mem_cons.mp hj with rfl | hj
    · refine hhead ?_
      by_contra hnone
      rw [hstop (not_lt.mp hnone)] at hleft
      exact hnone hleft
    · exact hrest.full hleft j hj
  · refine List.pairwise_cons.mpr ⟨fun j hj hchanged => hhead ?_, ?_⟩
    · by_contra hnone
      rw [hstop (not_lt.mp hnone)] at hchanged
      exact hchanged (hother j fun h => hi (h ▸ hj))
    · refine hrest.inOrder.imp_of_mem fun {a b} _ hb h hchanged => h ?_
      rwa [hother b fun h => hi (h ▸ hb)]
  · obtain ⟨hji, hj⟩ := not_or.mp (List.mem_cons.not.mp hj)
    exact (hrest.elsewhere j hj).trans (hother j hji)

/-- A place that there is not. -/
theorem missing (hnone : before[i]? = none) (hrest : LoopDone order before remaining after) :
    LoopDone (i :: order) before remaining after := by
  have hnone' : after.1[i]? = none := by
    rw [List.getElem?_eq_none_iff] at hnone ⊢
    exact hrest.advances.length.trans_le hnone
  have hvacuous : ∀ x ∈ after.1[i]?, x.paid = true := by
    rw [hnone']
    exact nofun
  refine ⟨hrest.advances, hrest.conserved, hrest.nonneg, fun hleft j hj => ?_, ?_, fun j hj => ?_⟩
  · rcases List.mem_cons.mp hj with rfl | hj
    · exact hvacuous
    · exact hrest.full hleft j hj
  · exact List.pairwise_cons.mpr ⟨fun _ _ _ => hvacuous, hrest.inOrder⟩
  · exact hrest.elsewhere j fun h => hj (List.mem_cons_of_mem i h)

end LoopDone

/-- By induction on the places that are left: each is met once, and a payment that goes on beyond one
leaves it paid. -/
theorem applyLoop_spec {now : Nat} {txHash : Option String} {order : List Nat}
    {before : List Installment} {remaining : ℚ} (hnodup : order.Nodup)
    (hsettled : ∀ x ∈ before, x.Settled) (hnonneg : 0 ≤ remaining) :
    LoopDone order before remaining (applyLoop now txHash order before remaining) := by
  induction order generalizing before remaining with
  | nil => exact .stop [] before hnonneg (Or.inl rfl)
  | cons i order ih =>
    obtain ⟨hi, hnodup⟩ := List.nodup_cons.mp hnodup
    unfold applyLoop
    split
    · rename_i hstop
      exact .stop (i :: order) before hnonneg (Or.inr hstop)
    · rename_i hpos
      split
      · rename_i inst hinst
        have hreceived := Installment.receive_spec now txHash
          (hsettled inst (List.mem_of_getElem? hinst)) (not_le.mp hpos)
        have hsettled := (PlanAdvances.set hinst hreceived.advances).settled hsettled
        exact .receive hi hinst hreceived (ih hnodup hsettled hreceived.nonneg)
          (applyLoop_of_nonpos order _)
      · rename_i hnone
        exact .missing hnone (ih hnodup hsettled hnonneg)

/-! ## A payment -/

section DueOrder
variable (installments : List Installment)

theorem dueOrder_perm : (dueOrder installments).Perm (List.range installments.length) :=
  List.perm_insertionSort _ _

theorem mem_dueOrder {i : Nat} : i ∈ dueOrder installments ↔ i < installments.length := by
  rw [(dueOrder_perm installments).mem_iff, List.mem_range]

theorem dueOrder_nodup : (dueOrder installments).Nodup :=
  (dueOrder_perm installments).nodup_iff.mpr List.nodup_range

theorem dueOrder_sorted :
    (dueOrder installments).Pairwise fun i j =>
      dueDateAt installments i ≤ dueDateAt installments j := by
  let r := fun i j => dueDateAt installments i ≤ dueDateAt installments j
  have : Std.Total r := ⟨fun _ _ => Nat.le_total _ _⟩
  have : IsTrans Nat r := ⟨fun _ _ _ => Nat.le_trans⟩
  exact List.pairwise_insertionSort r _

end DueOrder

/-- **What `applyPayment` has to do** with an amount. -/
structure AppliesPayment (plan : PaymentPlan) (amount : ℚ) (after : PaymentPlan × Applied) : Prop where
  total : after.2.applied + after.2.remaining = amount
  raised : paidIn after.1.installments = paidIn plan.installments + after.2.applied
  bounded : ∀ {i : Nat} {a b : Installment}, plan.installments[i]? = some a →
    after.1.installments[i]? = some b → a.paidAmount ≠ b.paidAmount → b.paidAmount ≤ b.amount
  leftover : 0 < after.2.remaining → after.1.allPaid = true
  earliestFirst : ∀ {i j : Nat} {a b a' : Installment}, plan.installments[i]? = some a →
    plan.installments[j]? = some b → a.dueDate < b.dueDate → after.1.installments[i]? = some a' →
      a'.paid = false → after.1.installments[j]? = some b

/-- The invariant of a plan. -/
structure PlanInv (plan : PaymentPlan) : Prop where
  positive : ∀ x ∈ plan.installments, 0 < x.amount
  settled : ∀ x ∈ plan.installments, x.Settled
  status : plan.status = if plan.allPaid then .completed else .active

namespace PaymentPlan
variable {plan : PaymentPlan} {now : Nat} {amount : ℚ} {txHash : Option String}

/-- The loop of a payment. -/
theorem loopDone (now : Nat) (txHash : Option String) (h : ∀ x ∈ plan.installments, x.Settled)
    (hpos : 0 < amount) :
    LoopDone (dueOrder plan.installments) plan.installments amount
      (applyLoop now txHash (dueOrder plan.installments) plan.installments amount) :=
  applyLoop_spec (dueOrder_nodup _) h hpos.le

/-- A payment in terms of its loop. -/
theorem applyPayment_eq (now : Nat) (txHash : Option String) (hpos : 0 < amount) :
    (plan.applyPayment now amount txHash).1.installments =
        (applyLoop now txHash (dueOrder plan.installments) plan.installments amount).1 ∧
      (plan.applyPayment now amount txHash).2 =
        ⟨amount - (applyLoop now txHash (dueOrder plan.installments) plan.installments amount).2,
          (applyLoop now txHash (dueOrder plan.installments) plan.installments amount).2⟩ ∧
      (plan.applyPayment now amount txHash).1.status =
        if (plan.applyPayment now amount txHash).1.allPaid then .completed else plan.status := by
  unfold applyPayment
  rw [if_neg hpos.not_ge]
  exact ⟨rfl, rfl, rfl⟩

theorem applyPayment_spec (h : PlanInv plan) (hpos : 0 < amount) :
    AppliesPayment plan amount (plan.applyPayment now amount txHash) := by
  have hloop := plan.loopDone now txHash h.settled hpos
  obtain ⟨hinstallments, happlied, -⟩ := plan.applyPayment_eq now txHash hpos
  refine ⟨?_, ?_, fun {i a b} ha hb hne => ?_, fun hleft => ?_,
    fun {i j a b a'} ha hb hdue ha' hopen => ?_⟩
  · rw [happlied]
    exact sub_add_cancel _ _
  · rw [happlied, hinstallments]
    have := hloop.conserved
    linarith
  · rw [hinstallments] at hb
    obtain ⟨b', hb', hadvance⟩ := hloop.advances.each ha
    obtain rfl := Option.some.inj (hb'.symm.trans hb)
    rcases hadvance.moved with rfl | ⟨-, hle⟩
    · exact absurd rfl hne
    · exact hle
  · rw [happlied] at hleft
    rw [allPaid, hinstallments, List.all_eq_true]
    intro x hx
    obtain ⟨i, hi, rfl⟩ := List.mem_iff_getElem.mp hx
    have hplace : i ∈ dueOrder plan.installments :=
      (mem_dueOrder _).mpr (hi.trans_eq hloop.advances.length)
    exact hloop.full hleft i hplace _ (List.getElem?_eq_getElem hi)
  · -- both places are in the order, the earlier one first
    rw [hinstallments] at ha' ⊢
    by_contra hchanged
    have hi := (mem_dueOrder plan.installments).mpr (List.getElem?_eq_some_iff.mp ha).1
    have hj := (mem_dueOrder plan.installments).mpr (List.getElem?_eq_some_iff.mp hb).1
    have hne : i ≠ j := by
      rintro rfl
      obtain rfl := Option.some.inj (ha.symm.trans hb)
      exact absurd hdue (Nat.lt_irrefl _)
    have hboth := hloop.inOrder.and (dueOrder_sorted plan.installments)
    have hget := List.pairwise_iff_getElem.mp hboth
    obtain ⟨m, hm, rfl⟩ := List.mem_iff_getElem.mp hi
    obtain ⟨k, hk, rfl⟩ := List.mem_iff_getElem.mp hj
    rcases Nat.lt_trichotomy m k with hlt | rfl | hgt
    · have hpaid := (hget m k hm hk hlt).1 (by rwa [hb]) a' ha'
      rw [hopen] at hpaid
      cases hpaid
    · exact hne rfl
    · have hle := (hget k m hk hm hgt).2
      simp only [dueDateAt, ha, hb, Option.map_some, Option.getD_some] at hle
      omega

theorem applyPayment_inv (h : PlanInv plan) (hpos : 0 < amount) :
    PlanInv (plan.applyPayment now amount txHash).1 := by
  have hloop := plan.loopDone now txHash h.settled hpos
  obtain ⟨hinstallments, -, hstatus⟩ := plan.applyPayment_eq now txHash hpos
  have hadvances : PlanAdvances plan.installments (plan.applyPayment now amount txHash).1.installments :=
    hinstallments ▸ hloop.advances
  refine ⟨hadvances.forall_mem (fun hab ha => hab.amount.symm ▸ ha) h.positive,
    hadvances.settled h.settled, ?_⟩
  rw [hstatus]
  by_cases hall : (plan.applyPayment now amount txHash).1.allPaid = true
  · rw [if_pos hall, if_pos hall]
  · rw [if_neg hall, if_neg hall, h.status, if_neg]
    -- a plan that was all paid would still be
    intro hbefore
    exact hall (List.all_eq_true.mpr
      (hadvances.forall_mem (fun hab => hab.staysPaid) (List.all_eq_true.mp hbefore)))

end PaymentPlan

/-! ## A manual settlement -/

section Settle
variable {plan plan' : PaymentPlan} {now index : Nat} {settlement : Settlement}

theorem Installment.settle_spec {inst : Installment} (now : Nat) (settlement : Settlement)
    (h : 0 < inst.amount) :
    (inst.settle now settlement).amount = inst.amount ∧ (inst.settle now settlement).Settled := by
  unfold Installment.settle Installment.Settled
  dsimp only
  split
  · exact ⟨rfl, decide_eq_true_iff⟩
  · exact ⟨rfl, by simp [h]⟩

/-- What a settlement that is accepted does. -/
theorem settleInstallmentManually_ok
    (h : plan.settleInstallmentManually now index settlement = .ok plan') :
    ∃ inst, plan.installments[index]? = some inst ∧
      plan'.installments = plan.installments.set index (inst.settle now settlement) ∧
        plan'.status = if plan'.allPaid then .completed
          else if plan.status = .completed then .active else plan.status := by
  unfold PaymentPlan.settleInstallmentManually at h
  split at h
  · cases h
  · rename_i inst hinst
    split at h
    · cases h
    · cases h
      exact ⟨inst, hinst, rfl, rfl⟩

theorem settleInstallmentManually_inv (h : PlanInv plan)
    (hsettle : plan.settleInstallmentManually now index settlement = .ok plan') : PlanInv plan' := by
  obtain ⟨inst, hinst, hinstallments, hstatus⟩ := settleInstallmentManually_ok hsettle
  have hmem := List.mem_of_getElem? hinst
  obtain ⟨hamount, hsettled⟩ := Installment.settle_spec now settlement (h.positive inst hmem)
  refine ⟨fun x hx => ?_, fun x hx => ?_, ?_⟩
  · rw [hinstallments] at hx
    rcases List.mem_or_eq_of_mem_set hx with hx | rfl
    · exact h.positive x hx
    · exact hamount ▸ h.positive inst hmem
  · rw [hinstallments] at hx
    rcases List.mem_or_eq_of_mem_set hx with hx | rfl
    · exact h.settled x hx
    · exact hsettled
  · -- a plan is active or completed, so one that is not all paid ends up active
    rw [hstatus, h.status]
    by_cases hall : plan'.allPaid = true
    · rw [if_pos hall, if_pos hall]
    · rw [if_neg hall, if_neg hall]
      by_cases hbefore : plan.allPaid = true <;> simp [hbefore]

end Settle

/-! ## Runs -/

inductive PlanAction
  | applyPayment (now : Nat) (amount : ℚ) (txHash : Option String)
  | settleInstallmentManually (now index : Nat) (settlement : Settlement)
  deriving DecidableEq, Repr

/-- A settlement that throws is no step. -/
def planStep (plan : PaymentPlan) : PlanAction → Option PaymentPlan
  | .applyPayment now amount txHash => some (plan.applyPayment now amount txHash).1
  | .settleInstallmentManually now index settlement =>
    (plan.settleInstallmentManually now index settlement).toOption

/-- Payments are positive. -/
def PositiveAmount (_ : PaymentPlan) : PlanAction → Prop
  | .applyPayment _ amount _ => 0 < amount
  | .settleInstallmentManually .. => True

instance (plan : PaymentPlan) : ∀ a, Decidable (PositiveAmount plan a)
  | .applyPayment _ amount _ => inferInstanceAs (Decidable (0 < amount))
  | .settleInstallmentManually .. => isTrue trivial

/-- An active plan with positive amounts of which nothing is paid. -/
structure FreshPlan (plan : PaymentPlan) : Prop where
  active : plan.status = .active
  nonempty : plan.installments ≠ []
  positive : ∀ x ∈ plan.installments, 0 < x.amount
  unpaid : ∀ x ∈ plan.installments, x.paid = false ∧ x.paidAmount = 0

theorem FreshPlan.inv {plan : PaymentPlan} (h : FreshPlan plan) : PlanInv plan := by
  refine ⟨h.positive, fun x hx => ?_, ?_⟩
  · obtain ⟨hpaid, hamount⟩ := h.unpaid x hx
    rw [Installment.Settled, hpaid, hamount]
    exact iff_of_false Bool.false_ne_true (h.positive x hx).not_ge
  · obtain ⟨x, hx⟩ := List.exists_mem_of_ne_nil _ h.nonempty
    rw [h.active, if_neg]
    intro hall
    have hpaid := List.all_eq_true.mp hall x hx
    rw [(h.unpaid x hx).1] at hpaid
    cases hpaid

theorem planStep_inv {plan plan' : PaymentPlan} {a : PlanAction} (h : PlanInv plan)
    (hok : PositiveAmount plan a) (hs : planStep plan a = some plan') : PlanInv plan' := by
  cases a with
  | applyPayment now amount txHash =>
    obtain rfl := Option.some.inj hs
    exact plan.applyPayment_inv h hok
  | settleInstallmentManually now index settlement =>
    exact settleInstallmentManually_inv h (toOption_eq_some_iff.mp hs)

/-- **Instalments conserve money**: along any mix of payments and manual settlements the plan keeps
its invariant, and each payment is handed out in full, in the order of the due dates. -/
theorem instalments_conserve {plan₀ plan : PaymentPlan} (hfresh : FreshPlan plan₀)
    (hrun : Reach planStep PositiveAmount plan₀ plan) :
    PlanInv plan ∧ ∀ now amount txHash, 0 < amount →
      AppliesPayment plan amount (plan.applyPayment now amount txHash) := by
  have h : PlanInv plan := hrun.invariant hfresh.inv planStep_inv
  exact ⟨h, fun now amount txHash hpos => plan.applyPayment_spec h hpos⟩

/-- Three instalments, two of them due on one day, out of order. -/
def threeInstallments : PaymentPlan where
  schoolId := "SCH"
  studentId := "STU001"
  totalAmount := 60
  installments := [⟨30, 300, false, none, 0, [], none⟩, ⟨10, 100, false, none, 0, [], none⟩,
    ⟨20, 100, false, none, 0, [], none⟩]

/-- A part payment, a settlement above and one below the amount, a payment that completes the plan,
and a reversal. -/
theorem instalments_conserve_mixed : ∃ plan, PlanInv plan ∧ plan.status = .active ∧
    plan.installments.map (·.paidAmount) = [30, 0, 20] := by
  have hend : ((execOk planStep PositiveAmount threeInstallments
      [.applyPayment 1 15 (some "tx1"), .settleInstallmentManually 2 1 ⟨true, some 12, some "cash"⟩,
        .settleInstallmentManually 3 0 ⟨true, some (-5), some "cash"⟩, .applyPayment 4 60 none,
        .settleInstallmentManually 5 1 ⟨false, none, some "bounced"⟩]).bind fun plan =>
          some (plan.status, plan.installments.map (·.paidAmount))) = some (.active, [30, 0, 20]) := by
    decide +kernel
  obtain ⟨plan, hexec, hresult⟩ := Option.bind_eq_some_iff.mp hend
  obtain ⟨hstatus, hamounts⟩ := Prod.mk.inj (Option.some.inj hresult)
  exact ⟨plan, (instalments_conserve ⟨rfl, by decide, by decide +kernel, by decide +kernel⟩
    (Reach.of_execOk hexec)).1, hstatus, hamounts⟩

end StellarEduPay

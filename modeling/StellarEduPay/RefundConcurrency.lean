import Mathlib.Logic.Function.Basic
import StellarEduPay.Runs
import StellarEduPay.Documents

/-! # Concurrent calls on one refund (`services/refundService.js`)

Any number of calls work on one refund document, each a process that reads the
document, takes the lock of its payment, saves and releases, one step at a time
and interleaved in any way.  A save writes the status the call decided on, by
document id; nothing compares the stored status with the one that was read.

`approveRefund` takes no lock.  `rejectRefund` and `completeRefund` check the status
they read before the lock.  `updateRefundStatus` reads again under the lock and
checks that.
-/
namespace StellarEduPay
open Runs

/-! ## The calls -/

/-- Which operation a call is. -/
inductive CallKind
  | approve
  | reject
  | complete
  | updateStatus (newStatus : RefundStatus)
  deriving DecidableEq, Repr

namespace CallKind

/-- The check on the status of the document as first read. -/
def accepts : CallKind → RefundStatus → Bool
  | approve, st => st == .approvalPending
  | reject, st => st == .approvalPending
  | complete, st => st == .pending
  | updateStatus _, _ => true

/-- The status the call saves. -/
def target : CallKind → RefundStatus
  | approve => .pending
  | reject => .rejected
  | complete => .confirmed
  | updateStatus newStatus => newStatus

/-- Does the call take the lock of the payment? -/
def locks : CallKind → Bool
  | approve => false
  | _ => true

/-- Does the call read the document again under the lock? -/
def rereads : CallKind → Bool
  | updateStatus _ => true
  | _ => false

end CallKind

/-- Where a call is.  `checked` is the status it has read and accepted. -/
inductive CallPc
  | start
  | read (checked : RefundStatus)
  | locked (checked : RefundStatus)
  | reread (checked : RefundStatus)
  | saved
  | finished
  deriving DecidableEq, Repr

/-- The call is between its acquisition and its release. -/
def CallPc.holding : CallPc → Bool
  | .locked _ | .reread _ | .saved => true
  | _ => false

/-- The stored status, the statuses stored so far with the newest first, who holds the
lock, and where each call is. -/
structure RefundRace (P : Type) where
  stored : RefundStatus
  trail : List RefundStatus
  holder : Option P
  pc : P → CallPc

/-- A call takes its next step, or throws where it stands; in the latter case its
`finally` releases the lock. -/
inductive RaceAct (P : Type)
  | step (p : P)
  | throw (p : P)

namespace RefundRace
variable {P : Type} [DecidableEq P] (s : RefundRace P)

/-- One refund in status `st`, no call under way. -/
def init (P : Type) (st : RefundStatus) : RefundRace P := ⟨st, [st], none, fun _ => .start⟩

def goto (p : P) (pc : CallPc) : RefundRace P := { s with pc := Function.update s.pc p pc }

/-- Back at the end of the call, lock released. -/
def release (p : P) : RefundRace P := { s.goto p .finished with holder := none }

/-- The statuses a save adds to the trail.  Completing a pending refund passes
`submitted`; a save that stores the status already there adds nothing. -/
def added (kind : CallKind) : List RefundStatus :=
  if kind.target = s.stored then []
  else if kind = .complete ∧ s.stored = .pending then [.confirmed, .submitted]
  else [kind.target]

/-- `refund.save()`. -/
def save (kind : CallKind) : RefundRace P :=
  { s with stored := kind.target, trail := s.added kind ++ s.trail }

end RefundRace

section
variable {P : Type} [DecidableEq P] (kind : P → CallKind)

/-- The next step of call `p`. -/
def advance (s : RefundRace P) (p : P) : Option (RefundRace P) :=
  match s.pc p with
  | .start =>
    if (kind p).accepts s.stored then some (s.goto p (.read s.stored))
    else some (s.goto p .finished)
  | .read checked =>
    if (kind p).locks then
      match s.holder with
      | none => some { s.goto p (.locked checked) with holder := some p }
      -- REFUND_LOCK_CONTENDED
      | some _ => some (s.goto p .finished)
    else some ((s.save (kind p)).goto p .finished)
  | .locked _ =>
    if (kind p).rereads then
      if (kind p).target ∈ s.stored.transitions then some (s.goto p (.reread s.stored))
      else some (s.release p)
    else some ((s.save (kind p)).goto p .saved)
  | .reread _ => some ((s.save (kind p)).goto p .saved)
  | .saved => some (s.release p)
  | .finished => none

/-- The calls as a transition system. -/
def raceStep (s : RefundRace P) : RaceAct P → Option (RefundRace P)
  | .step p => advance kind s p
  | .throw p =>
    match s.pc p with
    | .start | .read _ => some (s.goto p .finished)
    | .locked _ | .reread _ => some (s.release p)
    | .saved | .finished => none

/-! ## Paths of the transition table -/

/-- Statuses stored one after the other, newest first, follow the table. -/
def TrailFollowsTable (trail : List RefundStatus) : Prop :=
  trail.IsChain fun newer older => newer ∈ older.transitions

/-- **Terminal states absorb**: what was stored is a path of the table, and nothing was
stored after a terminal state. -/
structure Absorbing (s : RefundRace P) : Prop where
  path : TrailFollowsTable s.trail
  current : s.trail.head? = some s.stored
  terminal : ∀ newer st older, s.trail = newer ++ st :: older → st.transitions = [] → newer = []

/-- A path cannot leave a terminal state. -/
theorem TrailFollowsTable.terminal {st : RefundStatus} {older : List RefundStatus}
    (hst : st.transitions = []) : ∀ {newer : List RefundStatus},
    TrailFollowsTable (newer ++ st :: older) → newer = []
  | [], _ => rfl
  | x :: newer, h => by
      have htail : TrailFollowsTable (newer ++ st :: older) := List.IsChain.of_cons h
      obtain rfl := htail.terminal hst
      have hedge : x ∈ st.transitions := (List.isChain_cons_cons.mp h).1
      rw [hst] at hedge
      cases hedge

/-! ## Which saves are safe -/

/-- A save outside the lock, or on a status read before the lock, finds that status
still stored; and nobody approves while an `updateRefundStatus` is between its second
read and its save. -/
def SaveSafe (s : RefundRace P) : RaceAct P → Prop
  | .throw _ => True
  | .step p =>
    match s.pc p, kind p with
    | .read checked, .approve => s.stored = checked ∧ ∀ q st, s.pc q ≠ .reread st
    | .locked checked, .reject => s.stored = checked
    | .locked checked, .complete => s.stored = checked
    | _, _ => True

/-- The inductive invariant.  Whoever is past its acquisition holds the lock, and what
was read a second time is still stored. -/
structure RaceInv (s : RefundRace P) : Prop where
  path : TrailFollowsTable s.trail
  current : s.trail.head? = some s.stored
  holds : ∀ p, (s.pc p).holding = true → s.holder = some p
  read : ∀ p st, s.pc p = .read st → (kind p).accepts st = true
  locked : ∀ p st, s.pc p = .locked st → (kind p).accepts st = true ∧ (kind p).locks = true
  fresh : ∀ p st, s.pc p = .reread st →
    s.stored = st ∧ (kind p).target ∈ st.transitions ∧ (kind p).rereads = true

variable {kind} {s : RefundRace P}

omit [DecidableEq P] in
theorem RaceInv.init (st : RefundStatus) : RaceInv kind (.init P st) where
  path := List.IsChain.singleton st
  current := rfl
  holds p h := by cases h
  read p st h := by cases h
  locked p st h := by cases h
  fresh p st h := by cases h

namespace RaceInv

/-- One call moves to `pc'`.  The rest of the state has to agree with where it now is,
and with where the others still are. -/
theorem moved (h : RaceInv kind s) {s' : RefundRace P} {p : P} {pc' : CallPc}
    (hpc : s'.pc = Function.update s.pc p pc') (hpath : TrailFollowsTable s'.trail)
    (hcurrent : s'.trail.head? = some s'.stored)
    (hself : pc'.holding = true → s'.holder = some p)
    (hothers : ∀ q, q ≠ p → (s.pc q).holding = true → s'.holder = some q)
    (hread : ∀ st, pc' = .read st → (kind p).accepts st = true)
    (hlocked : ∀ st, pc' = .locked st → (kind p).accepts st = true ∧ (kind p).locks = true)
    (hfresh : ∀ st, pc' = .reread st →
      s'.stored = st ∧ (kind p).target ∈ st.transitions ∧ (kind p).rereads = true)
    (hstored : ∀ q, q ≠ p → ∀ st, s.pc q = .reread st → s'.stored = s.stored) :
    RaceInv kind s' := by
  have self : s'.pc p = pc' := by rw [hpc, Function.update_self]
  have other : ∀ q, q ≠ p → s'.pc q = s.pc q := fun q hq => by rw [hpc, Function.update_of_ne hq]
  refine ⟨hpath, hcurrent, ?_, ?_, ?_, ?_⟩
  · intro q hq
    by_cases he : q = p
    · subst he
      exact hself (self ▸ hq)
    · exact hothers q he (other q he ▸ hq)
  · intro q st hq
    by_cases he : q = p
    · subst he
      exact hread st (self ▸ hq)
    · exact h.read q st (other q he ▸ hq)
  · intro q st hq
    by_cases he : q = p
    · subst he
      exact hlocked st (self ▸ hq)
    · exact h.locked q st (other q he ▸ hq)
  · intro q st hq
    by_cases he : q = p
    · subst he
      exact hfresh st (self ▸ hq)
    · rw [other q he] at hq
      rw [hstored q he st hq]
      exact h.fresh q st hq

/-- A call ends and the lock stays as it is. -/
theorem finish (h : RaceInv kind s) (p : P) : RaceInv kind (s.goto p .finished) :=
  h.moved rfl h.path h.current (by simp [CallPc.holding]) (fun q _ hq => h.holds q hq)
    (by simp) (by simp) (by simp) (fun _ _ _ _ => rfl)

/-- The holder ends; nobody else was past its acquisition. -/
theorem release (h : RaceInv kind s) {p : P} (hp : (s.pc p).holding = true) :
    RaceInv kind (s.release p) := by
  refine h.moved rfl h.path h.current (by simp [CallPc.holding]) (fun q hq hqh => ?_)
    (by simp) (by simp) (by simp) (fun _ _ _ _ => rfl)
  exact absurd (Option.some.inj ((h.holds q hqh).symm.trans (h.holds p hp))) hq

omit [DecidableEq P] in
/-- A save along an edge of the table, or the two edges of a completion, extends the
path. -/
theorem save_path (h : RaceInv kind s) {k : CallKind}
    (hedge : k.target ∈ s.stored.transitions ∨ k = .complete ∧ s.stored = .pending) :
    TrailFollowsTable (s.save k).trail ∧ (s.save k).trail.head? = some (s.save k).stored := by
  obtain ⟨older, htrail⟩ : ∃ older, s.trail = s.stored :: older := by
    have := h.current
    cases ht : s.trail with
    | nil => rw [ht] at this; cases this
    | cons x older => rw [ht] at this; exact ⟨older, by rw [← Option.some.inj this]⟩
  have hpath := h.path
  rw [htrail] at hpath
  simp only [RefundRace.save, RefundRace.added]
  split
  · rename_i heq
    exact ⟨h.path, heq ▸ h.current⟩
  split
  · rename_i hc
    obtain ⟨rfl, hst⟩ := hc
    rw [hst] at hpath htrail
    rw [htrail]
    refine ⟨?_, rfl⟩
    exact List.isChain_cons_cons.mpr ⟨by decide, List.isChain_cons_cons.mpr ⟨by decide, hpath⟩⟩
  · rename_i hc
    rw [htrail]
    exact ⟨List.isChain_cons_cons.mpr ⟨hedge.resolve_right hc, hpath⟩, rfl⟩

/-- The lock holder saves what it may and keeps the lock. -/
theorem save_locked (h : RaceInv kind s) {p : P} (hp : (s.pc p).holding = true)
    (hedge : (kind p).target ∈ s.stored.transitions ∨ kind p = .complete ∧ s.stored = .pending) :
    RaceInv kind ((s.save (kind p)).goto p .saved) := by
  obtain ⟨hpath, hcurrent⟩ := h.save_path hedge
  refine h.moved rfl hpath hcurrent (fun _ => h.holds p hp) (fun q _ hq => h.holds q hq)
    (by simp) (by simp) (by simp) (fun q hq st hst => ?_)
  -- no second call can be past its second read while this one holds the lock
  have hqh : (s.pc q).holding = true := by rw [hst]; rfl
  exact absurd (Option.some.inj ((h.holds q hqh).symm.trans (h.holds p hp))) hq

variable {p : P} {checked : RefundStatus} {s' : RefundRace P}

/-- A call that throws gives its lock back, if it has it. -/
theorem throw (h : RaceInv kind s) (hstep : raceStep kind s (.throw p) = some s') :
    RaceInv kind s' := by
  simp only [raceStep] at hstep
  cases hpc : s.pc p with
  | start => rw [hpc] at hstep; cases hstep; exact h.finish p
  | read st => rw [hpc] at hstep; cases hstep; exact h.finish p
  | locked st => rw [hpc] at hstep; cases hstep; exact h.release (by rw [hpc]; rfl)
  | reread st => rw [hpc] at hstep; cases hstep; exact h.release (by rw [hpc]; rfl)
  | saved => rw [hpc] at hstep; cases hstep
  | finished => rw [hpc] at hstep; cases hstep

theorem advance_start (h : RaceInv kind s) (hpc : s.pc p = .start)
    (hstep : advance kind s p = some s') : RaceInv kind s' := by
  simp only [advance, hpc] at hstep
  split at hstep
  · rename_i hacc
    cases hstep
    refine h.moved rfl h.path h.current (by simp [CallPc.holding]) (fun q _ hq => h.holds q hq)
      ?_ (by simp) (by simp) (fun _ _ _ _ => rfl)
    intro st he
    cases he
    exact hacc
  · cases hstep; exact h.finish p

/-- After its read a call takes the lock, or, if it is an approval, saves at once. -/
theorem advance_read (h : RaceInv kind s) (hpc : s.pc p = .read checked)
    (hsafe : SaveSafe kind s (.step p)) (hstep : advance kind s p = some s') :
    RaceInv kind s' := by
  simp only [SaveSafe, hpc] at hsafe
  simp only [advance, hpc] at hstep
  have hacc := h.read p checked hpc
  split at hstep
  · rename_i hlocks
    split at hstep
    · rename_i hfree
      cases hstep
      refine h.moved rfl h.path h.current (fun _ => rfl) (fun q _ hq => ?_) (by simp) ?_
        (by simp) (fun _ _ _ _ => rfl)
      · rw [h.holds q hq] at hfree; cases hfree
      · intro st he
        cases he
        exact ⟨hacc, hlocks⟩
    · cases hstep; exact h.finish p
  · rename_i hlocks
    cases hstep
    have hkind : kind p = .approve := by
      revert hlocks
      cases kind p <;> simp [CallKind.locks]
    rw [hkind] at hsafe hacc
    obtain ⟨hstored, hnone⟩ := hsafe
    have hst : s.stored = .approvalPending := hstored.trans (by simpa [CallKind.accepts] using hacc)
    obtain ⟨hpath, hcurrent⟩ := h.save_path (k := kind p) (Or.inl (by rw [hkind, hst]; decide))
    exact h.moved rfl hpath hcurrent (by simp [CallPc.holding]) (fun q _ hq => h.holds q hq)
      (by simp) (by simp) (by simp) (fun q _ st hq => absurd hq (hnone q st))

/-- Under the lock a call reads again, or saves what it checked before. -/
theorem advance_locked (h : RaceInv kind s) (hpc : s.pc p = .locked checked)
    (hsafe : SaveSafe kind s (.step p)) (hstep : advance kind s p = some s') :
    RaceInv kind s' := by
  simp only [SaveSafe, hpc] at hsafe
  simp only [advance, hpc] at hstep
  obtain ⟨hacc, hlocks⟩ := h.locked p checked hpc
  have hhold : (s.pc p).holding = true := by rw [hpc]; rfl
  split at hstep
  · rename_i hre
    split at hstep
    · rename_i hmem
      cases hstep
      refine h.moved rfl h.path h.current (fun _ => h.holds p hhold) (fun q _ hq => h.holds q hq)
        (by simp) (by simp) ?_ (fun _ _ _ _ => rfl)
      intro st he
      cases he
      exact ⟨rfl, hmem, hre⟩
    · cases hstep; exact h.release hhold
  · rename_i hre
    cases hstep
    refine h.save_locked hhold ?_
    -- a lock holder that does not read again is a rejection or a completion
    cases hkind : kind p with
    | approve => rw [hkind] at hlocks; cases hlocks
    | reject =>
      rw [hkind] at hsafe hacc
      have hst : s.stored = .approvalPending :=
        hsafe.trans (by simpa [CallKind.accepts] using hacc)
      exact Or.inl (by rw [hst]; decide)
    | complete =>
      rw [hkind] at hsafe hacc
      exact Or.inr ⟨rfl, hsafe.trans (by simpa [CallKind.accepts] using hacc)⟩
    | updateStatus st => rw [hkind] at hre; exact absurd rfl hre

theorem step (h : RaceInv kind s) {a : RaceAct P} (hsafe : SaveSafe kind s a)
    (hstep : raceStep kind s a = some s') : RaceInv kind s' := by
  cases a with
  | throw p => exact h.throw hstep
  | step p =>
    have hadvance : advance kind s p = some s' := hstep
    cases hpc : s.pc p with
    | start => exact h.advance_start hpc hadvance
    | read checked => exact h.advance_read hpc hsafe hadvance
    | locked checked => exact h.advance_locked hpc hsafe hadvance
    | reread checked =>
      simp only [advance, hpc] at hadvance
      cases hadvance
      obtain ⟨hst, hmem, -⟩ := h.fresh p checked hpc
      exact h.save_locked (by rw [hpc]; rfl) (Or.inl (hst ▸ hmem))
    | saved =>
      simp only [advance, hpc] at hadvance
      cases hadvance
      exact h.release (by rw [hpc]; rfl)
    | finished =>
      simp only [advance, hpc] at hadvance
      cases hadvance

end RaceInv

end

/-- **Terminal states absorb along every safe interleaving** of any calls on a refund
in any status. -/
theorem refund_statuses_follow_table {P : Type} [DecidableEq P] (kind : P → CallKind)
    (st : RefundStatus) {s : RefundRace P}
    (hrun : Reach (raceStep kind) (SaveSafe kind) (.init P st) s) : Absorbing s := by
  have h : RaceInv kind s := hrun.invariant (RaceInv.init st) fun ht hsafe hstep => ht.step hsafe hstep
  refine ⟨h.path, h.current, fun newer st older htrail hst => ?_⟩
  have hpath := h.path
  rw [htrail] at hpath
  exact hpath.terminal hst

/-- One call that approves and one that rejects. -/
def approveAndReject : Bool → CallKind
  | true => .approve
  | false => .reject

theorem refund_statuses_follow_table_rejected : ∃ s : RefundRace Bool,
    Reach (raceStep approveAndReject) (SaveSafe approveAndReject) (.init Bool .approvalPending) s ∧
      Absorbing s ∧ s.stored = .rejected := by
  have hrun : Reach (raceStep approveAndReject) (SaveSafe approveAndReject)
      (.init Bool .approvalPending) _ :=
    .tail (.tail (.tail .refl (show SaveSafe _ _ (.step false) from trivial) rfl)
      (show SaveSafe _ _ (.step false) from trivial) rfl)
      (show SaveSafe _ _ (.step false) from rfl) rfl
  exact ⟨_, hrun, refund_statuses_follow_table _ _ hrun, rfl⟩

/-- Both calls read the refund before either saves: the rejected refund is approved. -/
theorem rejected_refund_gets_approved :
    ¬ ∀ (P : Type) [DecidableEq P] (kind : P → CallKind) (st : RefundStatus) (s : RefundRace P),
      Reach (raceStep kind) Free (.init P st) s → Absorbing s := by
  intro h
  have hrun := reach_of_exec (show exec (raceStep approveAndReject) (.init Bool .approvalPending)
    [.step true, .step false, .step false, .step false, .step true] = some _ from rfl)
  have habs := (h Bool approveAndReject .approvalPending _ hrun).terminal [.pending] .rejected
    [.approvalPending] rfl rfl
  cases habs

end StellarEduPay

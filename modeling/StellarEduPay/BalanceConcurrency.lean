import Mathlib.Logic.Function.Basic
import StellarEduPay.Runs
import StellarEduPay.StudentBalance

/-! # Concurrent recorders of one student

Four paths change a payment row of a student and then rewrite the student's paid
total: they sum the rows and store the sum, in two separate steps.  Any number of
them may run at once, interleaved in any way.

* `verifyPayment` works under the student's balance lock;
* `submitTransaction` and `completeRefund` take no lock;
* `processTransaction` does all of it in one snapshot transaction, which aborts and
  starts over when the student document was written since the snapshot.

A total that was summed before another row changed and stored after is stale.
Whether that matters depends on who writes last: `WriteSafe` is the condition on
a write, and the balance lock is what it need not ask of two `verifyPayment`s.
-/
namespace StellarEduPay
open Runs

/-- The payment rows. -/
abbrev Rows := Collection Payment (String × String × Nat) Payment.key

/-- Set the status of one row. -/
def Rows.setStatus (rows : Rows) (k : String × String × Nat) (st : PaymentStatus) : Rows :=
  match rows.findOne fun p => p.key == k with
  | none => rows
  | some row => rows.save { row with status := st }

/-- The paid total of a student over some rows. -/
def Rows.paidTotal (rows : Rows) (owner : String × String) (credit : Int) : Int :=
  rows.sumBy (contribution owner) + credit

/-- It is the canonical total of the student with these rows and adjustments. -/
theorem canonicalTotal_eq_paidTotal (db : Db) (s : Student) :
    canonicalTotal db s = Rows.paidTotal db.payments s.key s.creditAdjustments := by
  rw [canonicalTotal, sumCanonicalPayments_none]
  rfl

/-! ## The recorders -/

/-- A recorder and the row change it makes. -/
inductive Recorder
  | verifyPayment (row : Payment)
  | submitTransaction (row : String × String × Nat)
  | processTransaction (row : Payment)
  | completeRefund (row : String × String × Nat)

/-- Does the recorder hold the student's balance lock? -/
def Recorder.locks : Recorder → Bool
  | .verifyPayment _ => true
  | _ => false

/-- Where a recorder is.  `aggregated` carries the total it summed and, as a ghost, how
many row changes there had been by then; `snapshot` the rows and the number of
student writes its transaction started from. -/
inductive RecorderPc
  | start
  | locked
  | changed
  | aggregated (total : Int) (seen : Nat)
  | written
  | snapshot (rows : Rows) (writes : Nat)
  | finished

/-- The recorder has changed its row and not yet written the student. -/
def RecorderPc.pending : RecorderPc → Bool
  | .changed | .aggregated _ _ => true
  | _ => false

/-- The recorder is between the acquisition and the release of the balance lock, if it
takes it at all. -/
def RecorderPc.inside : RecorderPc → Bool
  | .locked | .changed | .aggregated _ _ | .written => true
  | _ => false

/-- The rows, the student's stored total and how often it was written, the holder of the
balance lock, who changed a row (newest first, a ghost) and where each recorder
is. -/
structure Recording (P : Type) where
  rows : Rows
  totalPaid : Int
  writes : Nat
  holder : Option P
  changes : List P
  pc : P → RecorderPc

namespace Recording
variable {P : Type} [DecidableEq P] (s : Recording P)

def goto (p : P) (pc : RecorderPc) : Recording P := { s with pc := Function.update s.pc p pc }

/-- `p` leaves new rows behind. -/
def change (p : P) (rows : Rows) : Recording P :=
  { s with rows := rows, changes := p :: s.changes }

/-- Store a total on the student. -/
def write (total : Int) : Recording P := { s with totalPaid := total, writes := s.writes + 1 }

end Recording

section
variable {P : Type} [DecidableEq P] (owner : String × String) (credit : Int) (rec : P → Recorder)

/-- The next step of recorder `p`. -/
def recorderStep (s : Recording P) (p : P) : Option (Recording P) :=
  match rec p, s.pc p with
  | .verifyPayment _, .start =>
    match s.holder with
    | none => some { s.goto p .locked with holder := some p }
    -- SYNC_IN_PROGRESS
    | some _ => some (s.goto p .finished)
  | .verifyPayment row, .locked =>
    match s.rows.insert row with
    -- DUPLICATE_TX: answered from the row that is there
    | none => some { s.goto p .finished with holder := none }
    | some rows => some ((s.change p rows).goto p .changed)
  | .submitTransaction row, .start =>
    some ((s.change p (s.rows.setStatus row .success)).goto p .changed)
  | .completeRefund row, .start =>
    some ((s.change p (s.rows.setStatus row .refunded)).goto p .changed)
  | .processTransaction row, .start =>
    match s.rows.insert row with
    | none => some (s.goto p .finished)
    | some _ => some (s.goto p (.snapshot s.rows s.writes))
  | .processTransaction row, .snapshot rows writes =>
    match rows.insert row, s.rows.insert row with
    | some own, some stored =>
      -- a row that does not count leaves the student alone
      if !row.counted then some ({ s with rows := stored }.goto p .finished)
      else if s.writes = writes then
        some (((s.change p stored).write (Rows.paidTotal own owner credit)).goto p .finished)
      else some (s.goto p .start)
    | _, _ => some (s.goto p .start)
  | _, .changed =>
    some (s.goto p (.aggregated (Rows.paidTotal s.rows owner credit) s.changes.length))
  | .verifyPayment _, .aggregated total _ => some ((s.write total).goto p .written)
  | .submitTransaction _, .aggregated total _ => some ((s.write total).goto p .finished)
  | .completeRefund _, .aggregated total _ => some ((s.write total).goto p .finished)
  | .verifyPayment _, .written => some { s.goto p .finished with holder := none }
  | _, _ => none

/-- A store with a settled student and no recorder under way. -/
def Recording.init (P : Type) (rows : Rows) : Recording P :=
  ⟨rows, Rows.paidTotal rows owner credit, 0, none, [], fun _ => .start⟩

/-- No recorder is in the middle of its work. -/
def Recording.Quiet (s : Recording P) : Prop := ∀ p, s.pc p = .start ∨ s.pc p = .finished

/-- Who changed a row after `seen` changes. -/
def Recording.changesSince (s : Recording P) (seen : Nat) : List P :=
  s.changes.take (s.changes.length - seen)

/-- A recorder stores its total only if no row changed since it summed — except by a
recorder of the same lock — or if another recorder has yet to store its own. -/
def WriteSafe (s : Recording P) (p : P) : Prop :=
  ∀ total seen, s.pc p = .aggregated total seen →
    (∀ q ∈ s.changesSince seen, (rec p).locks = true ∧ (rec q).locks = true) ∨
    ∃ q, q ≠ p ∧ (s.pc q).pending = true

/-- The inductive invariant. -/
structure RecordingInv (s : Recording P) : Prop where
  /-- With nobody about to write, the stored total is right. -/
  settled : (∀ p, (s.pc p).pending = false) → s.totalPaid = Rows.paidTotal s.rows owner credit
  /-- A total is right while no row changes after it was summed. -/
  fresh : ∀ p total seen, s.pc p = .aggregated total seen → seen ≤ s.changes.length ∧
    (s.changes.length = seen → total = Rows.paidTotal s.rows owner credit)
  holds : ∀ p, (rec p).locks = true → (s.pc p).inside = true → s.holder = some p
  /-- The lock keeps other lock holders from changing rows. -/
  excluded : ∀ p total seen, (rec p).locks = true → s.pc p = .aggregated total seen →
    ∀ q ∈ s.changesSince seen, (rec q).locks = false
  /-- A snapshot whose student was not written since is right once nobody is pending. -/
  snapshot : ∀ p rows writes, s.pc p = .snapshot rows writes → writes ≤ s.writes ∧
    (s.writes = writes → (∀ q, (s.pc q).pending = false) →
      rows.sumBy (contribution owner) = s.rows.sumBy (contribution owner))

variable {owner credit rec}

namespace Recording
variable {s : Recording P} {p q : P}

/-- Only `p` itself is where `p` has gone. -/
theorem pc_goto_of_ne {pc pc' : RecorderPc} (hne : pc ≠ pc') (hq : (s.goto p pc).pc q = pc') :
    q ≠ p ∧ s.pc q = pc' := by
  by_cases hqp : q = p
  · subst hqp
    exact absurd (by simpa [goto] using hq) hne
  · exact ⟨hqp, by simpa [goto, hqp] using hq⟩

omit [DecidableEq P] in
theorem changesSince_change {rows : Rows} {seen : Nat} (h : seen ≤ s.changes.length) :
    (s.change p rows).changesSince seen = p :: s.changesSince seen := by
  simp only [changesSince, change, List.length_cons]
  rw [Nat.succ_sub h, List.take_succ_cons]

end Recording

omit [DecidableEq P] in
theorem RecordingInv.init (rows : Rows) :
    RecordingInv owner credit rec (Recording.init owner credit P rows) where
  settled _ := rfl
  fresh := by intro p total seen h; cases h
  holds := by intro p _ h; cases h
  excluded := by intro p total seen _ h; cases h
  snapshot := by intro p rows' writes h; cases h

namespace RecordingInv
variable {s : Recording P} {p : P} (h : RecordingInv owner credit rec s)
include h

/-- A recorder that is not pending and does not become so moves on. -/
theorem moves {pc : RecorderPc} {holder : Option P} (hp : (s.pc p).pending = false)
    (hpc : pc.pending = false)
    (hsnap : ∀ rows writes, pc = .snapshot rows writes → rows = s.rows ∧ writes = s.writes)
    (hown : (rec p).locks = true → pc.inside = true → holder = some p)
    (hothers : ∀ q, q ≠ p → s.holder = some q → holder = some q) :
    RecordingInv owner credit rec { s.goto p pc with holder := holder } := by
  have hpend : ∀ q, ((s.goto p pc).pc q).pending = (s.pc q).pending := by
    intro q
    by_cases hq : q = p
    · subst hq; simp [Recording.goto, hp, hpc]
    · simp [Recording.goto, hq]
  refine ⟨fun hn => h.settled fun q => hpend q ▸ hn q, ?_, ?_, ?_, ?_⟩
  · intro q total seen hq
    by_cases hqp : q = p
    · subst hqp
      rw [show pc = .aggregated total seen by simpa [Recording.goto] using hq] at hpc
      cases hpc
    · exact h.fresh q total seen (by simpa [Recording.goto, hqp] using hq)
  · intro q hlock hq
    by_cases hqp : q = p
    · subst hqp; exact hown hlock (by simpa [Recording.goto] using hq)
    · exact hothers q hqp (h.holds q hlock (by simpa [Recording.goto, hqp] using hq))
  · intro q total seen hlock hq
    by_cases hqp : q = p
    · subst hqp
      rw [show pc = .aggregated total seen by simpa [Recording.goto] using hq] at hpc
      cases hpc
    · exact h.excluded q total seen hlock (by simpa [Recording.goto, hqp] using hq)
  · intro q rows writes hq
    by_cases hqp : q = p
    · subst hqp
      obtain ⟨rfl, rfl⟩ := hsnap rows writes (by simpa [Recording.goto] using hq)
      exact ⟨Nat.le_refl _, fun _ _ => rfl⟩
    · obtain ⟨hle, heq⟩ := h.snapshot q rows writes (by simpa [Recording.goto, hqp] using hq)
      exact ⟨hle, fun hw hn => heq hw fun q => hpend q ▸ hn q⟩

/-- A recorder changes a row, and will write the student. -/
theorem changed (rows : Rows) (hown : (rec p).locks = true → s.holder = some p) :
    RecordingInv owner credit rec ((s.change p rows).goto p .changed) := by
  have hpend : (((s.change p rows).goto p .changed).pc p).pending = true := by
    simp [Recording.goto, RecorderPc.pending]
  refine ⟨fun hn => ?_, ?_, ?_, ?_, ?_⟩
  · rw [hn p] at hpend; cases hpend
  · intro q total seen hq
    obtain ⟨hqp, hq⟩ := Recording.pc_goto_of_ne (by simp) hq
    have hle := (h.fresh q total seen hq).1
    simp only [Recording.goto, Recording.change, List.length_cons]
    exact ⟨by omega, fun heq => by omega⟩
  · intro q hlock hq
    by_cases hqp : q = p
    · subst hqp; exact hown hlock
    · exact h.holds q hlock (by simpa [Recording.goto, Recording.change, hqp] using hq)
  · intro q total seen hlock hq
    obtain ⟨hqp, hq⟩ := Recording.pc_goto_of_ne (by simp) hq
    have hle := (h.fresh q total seen hq).1
    have hholds := h.holds q hlock (by rw [show s.pc q = _ from hq]; rfl)
    intro r hr
    replace hr : r ∈ (s.change p rows).changesSince seen := hr
    rw [Recording.changesSince_change hle, List.mem_cons] at hr
    rcases hr with rfl | hr
    · -- two recorders of one lock
      by_contra hlr
      have := hown (by simpa using hlr)
      rw [hholds] at this
      exact hqp (Option.some.inj this)
    · exact h.excluded q total seen hlock hq r hr
  · intro q rows' writes hq
    obtain ⟨hqp, hq⟩ := Recording.pc_goto_of_ne (by simp) hq
    refine ⟨(h.snapshot q rows' writes hq).1, fun _ hn => ?_⟩
    rw [hn p] at hpend; cases hpend

/-- A recorder sums the rows. -/
theorem aggregates (hp : s.pc p = .changed) :
    RecordingInv owner credit rec
      (s.goto p (.aggregated (Rows.paidTotal s.rows owner credit) s.changes.length)) := by
  have hpend : ¬ ∀ q, ((s.goto p (.aggregated (Rows.paidTotal s.rows owner credit)
      s.changes.length)).pc q).pending = false := by
    intro hn
    simpa [Recording.goto, RecorderPc.pending] using hn p
  refine ⟨fun hn => absurd hn hpend, ?_, ?_, ?_, ?_⟩
  · intro q total seen hq
    by_cases hqp : q = p
    · subst hqp
      obtain ⟨rfl, rfl⟩ : Rows.paidTotal s.rows owner credit = total ∧ s.changes.length = seen := by
        simpa [Recording.goto] using hq
      exact ⟨Nat.le_refl _, fun _ => rfl⟩
    · exact h.fresh q total seen (by simpa [Recording.goto, hqp] using hq)
  · intro q hlock hq
    by_cases hqp : q = p
    · subst hqp; exact h.holds q hlock (by rw [hp]; rfl)
    · exact h.holds q hlock (by simpa [Recording.goto, hqp] using hq)
  · intro q total seen hlock hq r hr
    by_cases hqp : q = p
    · subst hqp
      obtain ⟨-, rfl⟩ : Rows.paidTotal s.rows owner credit = total ∧ s.changes.length = seen := by
        simpa [Recording.goto] using hq
      simp [Recording.changesSince, Recording.goto] at hr
    · exact h.excluded q total seen hlock (by simpa [Recording.goto, hqp] using hq) r hr
  · intro q rows' writes hq
    obtain ⟨hqp, hq⟩ := Recording.pc_goto_of_ne (by simp) hq
    exact ⟨(h.snapshot q rows' writes hq).1, fun _ hn => absurd hn hpend⟩

/-- A recorder stores the total it summed. -/
theorem stores {total : Int} {seen : Nat} {pc : RecorderPc} (hsafe : WriteSafe rec s p)
    (hp : s.pc p = .aggregated total seen) (hpc : pc = .written ∨ pc = .finished) :
    RecordingInv owner credit rec ((s.write total).goto p pc) := by
  have hagg : ∀ total' seen', pc ≠ .aggregated total' seen' := by
    rcases hpc with rfl | rfl <;> simp
  have hsnap : ∀ rows writes, pc ≠ .snapshot rows writes := by
    rcases hpc with rfl | rfl <;> simp
  refine ⟨fun hn => ?_, ?_, ?_, ?_, ?_⟩
  · -- nobody else is pending, so no row changed since the sum
    have hseen : s.changesSince seen = [] := by
      rcases hsafe total seen hp with hlocks | ⟨q, hqp, hq⟩
      · refine List.eq_nil_iff_forall_not_mem.mpr fun q hq => ?_
        obtain ⟨hlp, hlq⟩ := hlocks q hq
        rw [h.excluded p total seen hlp hp q hq] at hlq
        cases hlq
      · have := hn q
        simp only [Recording.goto, Recording.write, Function.update_of_ne hqp] at this
        rw [hq] at this
        cases this
    obtain ⟨hle, heq⟩ := h.fresh p total seen hp
    refine heq ?_
    have : s.changes.length - seen = 0 ∨ s.changes = [] := by
      simpa [Recording.changesSince, List.take_eq_nil_iff] using hseen
    rcases this with hlen | hnil
    · omega
    · rw [hnil] at hle ⊢; simp at hle ⊢; omega
  · intro q total' seen' hq
    obtain ⟨hqp, hq⟩ := Recording.pc_goto_of_ne (hagg _ _) hq
    exact h.fresh q total' seen' hq
  · intro q hlock hq
    by_cases hqp : q = p
    · subst hqp; exact h.holds q hlock (by rw [hp]; rfl)
    · exact h.holds q hlock (by simpa [Recording.goto, Recording.write, hqp] using hq)
  · intro q total' seen' hlock hq
    obtain ⟨hqp, hq⟩ := Recording.pc_goto_of_ne (hagg _ _) hq
    exact h.excluded q total' seen' hlock hq
  · intro q rows writes hq
    obtain ⟨hqp, hq⟩ := Recording.pc_goto_of_ne (hsnap _ _) hq
    have hle := (h.snapshot q rows writes hq).1
    simp only [Recording.goto, Recording.write]
    exact ⟨by omega, fun hw => by omega⟩

omit [DecidableEq P] in
/-- A row is inserted that counts for nothing. -/
theorem insert_uncounted {row : Payment} {stored : Rows} (hins : s.rows.insert row = some stored)
    (hrow : row.counted = false) : RecordingInv owner credit rec { s with rows := stored } := by
  have hsum : stored.sumBy (contribution owner) = s.rows.sumBy (contribution owner) := by
    rw [s.rows.sumBy_insert _ hins]
    simp [contribution, Payment.credited, hrow]
  have htotal : Rows.paidTotal stored owner credit = Rows.paidTotal s.rows owner credit := by
    simp [Rows.paidTotal, hsum]
  refine ⟨fun hn => (h.settled hn).trans htotal.symm, ?_, h.holds, h.excluded, ?_⟩
  · intro q total seen hq
    obtain ⟨hle, heq⟩ := h.fresh q total seen hq
    exact ⟨hle, fun hlen => (heq hlen).trans htotal.symm⟩
  · intro q rows writes hq
    obtain ⟨hle, heq⟩ := h.snapshot q rows writes hq
    exact ⟨hle, fun hw hn => (heq hw hn).trans hsum.symm⟩

/-- The poller's transaction commits: nobody wrote the student since its snapshot. -/
theorem commits {row : Payment} {rows own stored : Rows} (hlock : (rec p).locks = false)
    (hp : s.pc p = .snapshot rows s.writes) (hown : rows.insert row = some own)
    (hins : s.rows.insert row = some stored) :
    RecordingInv owner credit rec
      (((s.change p stored).write (Rows.paidTotal own owner credit)).goto p .finished) := by
  refine ⟨fun hn => ?_, ?_, ?_, ?_, ?_⟩
  · have hnone : ∀ q, (s.pc q).pending = false := by
      intro q
      by_cases hqp : q = p
      · subst hqp; rw [hp]; rfl
      · simpa [Recording.goto, Recording.write, Recording.change, hqp] using hn q
    have hsum := (h.snapshot p rows s.writes hp).2 rfl hnone
    simp only [Recording.goto, Recording.write, Recording.change, Rows.paidTotal,
      rows.sumBy_insert _ hown, s.rows.sumBy_insert _ hins, hsum]
  · intro q total seen hq
    obtain ⟨hqp, hq⟩ := Recording.pc_goto_of_ne (by simp) hq
    have hle := (h.fresh q total seen hq).1
    simp only [Recording.goto, Recording.change, Recording.write, List.length_cons]
    exact ⟨by omega, fun heq => by omega⟩
  · intro q hl hq
    by_cases hqp : q = p
    · subst hqp; rw [hlock] at hl; cases hl
    · exact h.holds q hl (by simpa [Recording.goto, Recording.write, Recording.change, hqp] using hq)
  · intro q total seen hl hq r hr
    obtain ⟨hqp, hq⟩ := Recording.pc_goto_of_ne (by simp) hq
    have hle := (h.fresh q total seen hq).1
    replace hr : r ∈ (s.change p stored).changesSince seen := hr
    rw [Recording.changesSince_change hle, List.mem_cons] at hr
    rcases hr with rfl | hr
    · exact hlock
    · exact h.excluded q total seen hl hq r hr
  · intro q rows' writes hq
    obtain ⟨hqp, hq⟩ := Recording.pc_goto_of_ne (by simp) hq
    have hle := (h.snapshot q rows' writes hq).1
    simp only [Recording.goto, Recording.write, Recording.change]
    exact ⟨by omega, fun hw => by omega⟩

/-- A recorder with no row under way starts over or ends. -/
theorem idles {pc : RecorderPc} (hp : (s.pc p).pending = false) (hpc : pc = .start ∨ pc = .finished) :
    RecordingInv owner credit rec (s.goto p pc) := by
  refine h.moves hp ?_ ?_ ?_ fun _ _ hq => hq
  all_goals rcases hpc with rfl | rfl <;> simp [RecorderPc.pending, RecorderPc.inside]

/-- The holder of the lock ends and gives it back. -/
theorem releases (hlock : (rec p).locks = true) (hin : (s.pc p).inside = true)
    (hp : (s.pc p).pending = false) :
    RecordingInv owner credit rec { s.goto p .finished with holder := none } := by
  refine h.moves hp rfl (by simp) (by simp [RecorderPc.inside]) fun q hq hholds => ?_
  rw [h.holds p hlock hin] at hholds
  exact absurd (Option.some.inj hholds).symm hq

/-- **One step keeps the invariant.** -/
theorem step {s' : Recording P} (hsafe : WriteSafe rec s p)
    (hstep : recorderStep owner credit rec s p = some s') : RecordingInv owner credit rec s' := by
  unfold recorderStep at hstep
  split at hstep
  · -- verifyPayment asks for the lock
    rename_i row hrec hpc
    split at hstep <;> cases hstep
    · rename_i hfree
      refine h.moves (by rw [hpc]; rfl) rfl (by simp) (fun _ _ => rfl) fun q _ hq => ?_
      rw [hfree] at hq; cases hq
    · exact h.idles (by rw [hpc]; rfl) (.inr rfl)
  · -- verifyPayment inserts its row
    rename_i row hrec hpc
    have hlock : (rec p).locks = true := by rw [hrec]; rfl
    split at hstep <;> cases hstep
    · exact h.releases hlock (by rw [hpc]; rfl) (by rw [hpc]; rfl)
    · exact h.changed _ fun _ => h.holds p hlock (by rw [hpc]; rfl)
  · rename_i row hrec hpc
    cases hstep
    exact h.changed _ fun hlock => by rw [hrec] at hlock; cases hlock
  · rename_i row hrec hpc
    cases hstep
    exact h.changed _ fun hlock => by rw [hrec] at hlock; cases hlock
  · -- the poller opens its transaction
    rename_i row hrec hpc
    split at hstep <;> cases hstep
    · exact h.idles (by rw [hpc]; rfl) (.inr rfl)
    · refine h.moves (by rw [hpc]; rfl) rfl ?_ ?_ fun _ _ hq => hq
      · intro rows writes heq; cases heq; exact ⟨rfl, rfl⟩
      · simp [RecorderPc.inside]
  · -- the poller commits or starts over
    rename_i row rows writes hrec hpc
    have hp : (s.pc p).pending = false := by rw [hpc]; rfl
    split at hstep
    · rename_i own stored hown hins
      split at hstep
      · rename_i hcounted
        cases hstep
        refine (h.insert_uncounted hins (by simpa using hcounted)).moves hp rfl (by simp)
          (by simp [RecorderPc.inside]) fun _ _ hq => hq
      · split at hstep <;> cases hstep
        · rename_i hw
          subst hw
          exact h.commits (by rw [hrec]; rfl) hpc hown hins
        · exact h.idles hp (.inl rfl)
    · cases hstep; exact h.idles hp (.inl rfl)
  · rename_i hpc
    cases hstep
    exact h.aggregates hpc
  · rename_i hpc
    cases hstep
    exact h.stores hsafe hpc (.inl rfl)
  · rename_i hpc
    cases hstep
    exact h.stores hsafe hpc (.inr rfl)
  · rename_i hpc
    cases hstep
    exact h.stores hsafe hpc (.inr rfl)
  · rename_i hrec hpc
    cases hstep
    exact h.releases (by rw [hrec]; rfl) (by rw [hpc]; rfl) (by rw [hpc]; rfl)
  · cases hstep

end RecordingInv

end

/-- **No balance update is lost** in an interleaving of any recorders whose writes are
all safe. -/
theorem no_lost_balance_update {P : Type} [DecidableEq P] (owner : String × String) (credit : Int)
    (rec : P → Recorder) (rows : Rows) {s : Recording P}
    (hrun : Reach (recorderStep owner credit rec) (WriteSafe rec) (.init owner credit P rows) s)
    (hquiet : s.Quiet) : s.totalPaid = Rows.paidTotal s.rows owner credit := by
  have h : RecordingInv owner credit rec s :=
    hrun.invariant (RecordingInv.init rows) fun ht hsafe hstep => ht.step hsafe hstep
  refine h.settled fun p => ?_
  rcases hquiet p with hp | hp <;> rw [hp] <;> rfl

/-- One call of `verifyPayment` and one of `completeRefund`. -/
def verifyAndComplete : Bool → Recorder
  | true => .verifyPayment { paidRow with txHash := "tx2" }
  | false => .completeRefund paidRow.key

/-- The row whose refund is completed. -/
def refundPendingRows : Rows := ⟨[{ paidRow with status := .refundPending }], by decide⟩

theorem no_lost_balance_update_overlap : ∃ s : Recording Bool,
    Reach (recorderStep paidRow.owner 0 verifyAndComplete) (WriteSafe verifyAndComplete)
      (.init paidRow.owner 0 Bool refundPendingRows) s ∧ s.Quiet ∧
    s.totalPaid = Rows.paidTotal s.rows paidRow.owner 0 ∧ s.totalPaid = 1000000000 := by
  have idle : ∀ (s : Recording Bool) (p : Bool), (s.pc p).pending = false →
      WriteSafe verifyAndComplete s p := by
    intro s p hp total seen hpc
    rw [hpc] at hp; cases hp
  have summing : ∀ (s : Recording Bool) (p : Bool), s.pc p = .changed →
      WriteSafe verifyAndComplete s p := by
    intro s p hp total seen hpc
    rw [hpc] at hp; cases hp
  have hrun : Reach (recorderStep paidRow.owner 0 verifyAndComplete) (WriteSafe verifyAndComplete)
      (.init paidRow.owner 0 Bool refundPendingRows) _ :=
    .tail (.tail (.tail (.tail (.tail (.tail (.tail (.tail .refl
      (idle _ true rfl) rfl) (idle _ true rfl) rfl) (idle _ false rfl) rfl)
      (summing _ true rfl) rfl)
      -- the other recorder has yet to write
      (show WriteSafe _ _ true from fun _ _ _ => Or.inr ⟨false, by decide, rfl⟩) rfl)
      (summing _ false rfl) rfl)
      -- no row changed since
      (show WriteSafe _ _ false from fun _ _ h => Or.inl (by cases h; intro q hq; cases hq)) rfl)
      (idle _ true rfl) rfl
  refine ⟨_, hrun, ?_, no_lost_balance_update _ _ _ _ hrun ?_, by decide⟩
  all_goals
    intro p
    cases p <;> exact Or.inr rfl

/-- `completeRefund` sums the rows, `verifyPayment` does all its work, `completeRefund`
stores its sum: the lock does not keep it out, and the new payment is lost. -/
theorem stale_total_written_last :
    ¬ ∀ (P : Type) [DecidableEq P] (owner : String × String) (credit : Int) (rec : P → Recorder)
      (rows : Rows) (s : Recording P),
      Reach (recorderStep owner credit rec) Free (.init owner credit P rows) s →
      (∀ p, s.pc p = .finished) → s.totalPaid = Rows.paidTotal s.rows owner credit := by
  intro h
  have hrun := reach_of_exec (show exec (recorderStep paidRow.owner 0 verifyAndComplete)
    (.init paidRow.owner 0 Bool refundPendingRows)
    [false, false, true, true, true, true, true, false] = some _ from rfl)
  have hstale := h Bool paidRow.owner 0 verifyAndComplete refundPendingRows _ hrun fun p => by
    cases p <;> rfl
  revert hstale
  decide

end StellarEduPay

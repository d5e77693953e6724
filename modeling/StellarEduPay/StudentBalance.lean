import StellarEduPay.Documents

/-! # Student balances (`utils/studentBalanceUpdater.js`)

A student's paid total is a sum over payment rows, denormalised onto the student
document.  `updateStudentBalance` recomputes it; it is the only writer of the
balance fields, so a row that changes without it leaves them stale.

`BalanceCoherent` states what the fields are for.  The lemmas at the end say how
one write to a payment row, with or without a recompute after it, moves that
property, and are all the proofs about whole operations need.
-/
namespace StellarEduPay

/-- Canonical filter for the rows that count toward a student's paid total,
optionally within one fee category. -/
def canonicalPaidMatch (schoolId studentId : String) (feeCategory : Option String)
    (p : Payment) : Bool :=
  p.schoolId == schoolId && p.studentId == studentId && p.live && p.status == .success &&
  !p.isSuspicious &&
  (match feeCategory with
    | none => true
    | some category => p.feeCategory == some category)

/-- Sum of the canonical rows. -/
def sumCanonicalPayments (db : Db) (schoolId studentId : String) (feeCategory : Option String) :
    Int :=
  ((db.payments.docs.filter (canonicalPaidMatch schoolId studentId feeCategory)).map
    Payment.amount).sum

/-- The three balance figures. -/
structure Balance where
  totalPaid : Int
  remainingBalance : Int
  feePaid : Bool
  deriving DecidableEq, Repr

/-- The balance figures of a student that was found. -/
def balanceOf (db : Db) (s : Student) : Balance :=
  let paymentTotal := sumCanonicalPayments db s.schoolId s.studentId none
  let classification := classify (paymentTotal + s.creditAdjustments) s.feeAmount
  ⟨classification.cumulativeTotal, classification.remainingBalance, classification.feePaid⟩

/-- Recompute one fee category. -/
def updateFeeCategory (db : Db) (s : Student) (f : FeeCategory) : FeeCategory :=
  let categoryTotal := sumCanonicalPayments db s.schoolId s.studentId (some f.category)
  let classification := classify categoryTotal f.amount
  { f with
    totalPaid := classification.cumulativeTotal
    remainingBalance := some classification.remainingBalance
    paid := classification.feePaid }

/-- The student document `updateStudentBalance` writes. -/
def withBalance (db : Db) (s : Student) : Student :=
  let balance := balanceOf db s
  { s with
    totalPaid := balance.totalPaid
    remainingBalance := some balance.remainingBalance
    feePaid := balance.feePaid
    fees := s.fees.map (updateFeeCategory db s) }

/-- Keep the current period's fee record in step with the payments made since the
period started. -/
def syncCurrentPeriodFee (db : Db) (schoolId studentId : String) : Db :=
  match db.academicPeriods.find? fun p => p.schoolId == schoolId && p.isCurrent with
  | none => db
  | some period =>
    match db.studentPeriodFees.findOne fun f =>
      f.schoolId == schoolId && f.studentId == studentId && f.periodId == period.id with
    | none => db
    | some periodFee =>
      let paid := db.payments.docs.filter fun p =>
        canonicalPaidMatch schoolId studentId none p && decide (period.startsAt ≤ p.createdAt)
      let paymentTotal := (paid.map Payment.amount).sum
      let totalDue := periodFee.feeAmount + periodFee.carriedArrears
      let classification := classify (paymentTotal + periodFee.creditAdjustments) totalDue
      { db with studentPeriodFees := db.studentPeriodFees.save { periodFee with
          totalPaid := classification.cumulativeTotal
          remainingBalance := some classification.remainingBalance
          feePaid := classification.feePaid } }

/-- Recompute a student's balance fields from the payment rows and store them. -/
def updateStudentBalance (db : Db) (schoolId studentId : String) : Option Student × Db :=
  match db.findStudent schoolId studentId with
  | none => (none, db)
  | some student =>
    let updated := withBalance db student
    (some updated,
      syncCurrentPeriodFee { db with students := db.students.save updated } schoolId studentId)

/-! ## The balance invariant -/

/-- The canonical total of a student: counted rows plus credit adjustments. -/
def canonicalTotal (db : Db) (s : Student) : Int :=
  sumCanonicalPayments db s.schoolId s.studentId none + s.creditAdjustments

/-- The stored balance fields of `s` are those of its canonical total. -/
structure Settled (db : Db) (s : Student) : Prop where
  totalPaid : s.totalPaid = canonicalTotal db s
  remainingBalance : s.remainingBalance = some (max 0 (s.feeAmount - s.totalPaid))
  feePaid : s.feePaid = true ↔ s.feeAmount ≤ s.totalPaid

/-- Every live student's balance fields agree with the payment rows. -/
def BalanceCoherent (db : Db) : Prop :=
  ∀ s ∈ db.students.docs, s.live = true → Settled db s

instance (db : Db) (s : Student) : Decidable (Settled db s) :=
  decidable_of_iff (s.totalPaid = canonicalTotal db s ∧
      s.remainingBalance = some (max 0 (s.feeAmount - s.totalPaid)) ∧
      (s.feePaid = true ↔ s.feeAmount ≤ s.totalPaid))
    ⟨fun ⟨h, h', h''⟩ => ⟨h, h', h''⟩, fun h => ⟨h.totalPaid, h.remainingBalance, h.feePaid⟩⟩

instance (db : Db) : Decidable (BalanceCoherent db) :=
  inferInstanceAs (Decidable (∀ s ∈ db.students.docs, s.live = true → Settled db s))

/-! A small store the concrete runs of the development start from. -/

/-- A student of school `SCH` who owes 100 and has paid it. -/
def paidStudent : Student where
  schoolId := "SCH"
  studentId := "STU001"
  feeAmount := 1000000000
  fees := []
  feePaid := true
  totalPaid := 1000000000
  remainingBalance := some 0
  creditAdjustments := 0
  deletedAt := none

/-- The row of that payment, a single operation of transaction `tx1`. -/
def paidRow : Payment :=
  { Payment.withDefaults "SCH" "STU001" "tx1" 1000000000 0 with
    status := .success, feeAmount := some 1000000000, feeValidationStatus := .valid }

/-- A store with that student and that row. -/
def paidDb : Db where
  payments := ⟨[paidRow], by decide⟩
  students := ⟨[paidStudent], by decide⟩
  refunds := ⟨Collection.empty, by simp [Collection.empty]⟩
  academicPeriods := []
  studentPeriodFees := Collection.empty
  paymentIntents := Collection.empty
  outbox := []

example : BalanceCoherent paidDb := by decide

/-! ## What a row contributes -/

namespace Payment

/-- The row counts toward its student's paid total. -/
def counted (p : Payment) : Bool := p.live && p.status == .success && !p.isSuspicious

/-- What the row adds to its student's paid total. -/
def credited (p : Payment) : Int := if p.counted then p.amount else 0

end Payment

/-- What row `p` adds to the paid total of student `owner`. -/
def contribution (owner : String × String) (p : Payment) : Int :=
  if p.owner = owner then p.credited else 0

theorem canonicalPaidMatch_none (schoolId studentId : String) (p : Payment) :
    canonicalPaidMatch schoolId studentId none p = true ↔
      p.owner = (schoolId, studentId) ∧ p.counted = true := by
  simp [canonicalPaidMatch, Payment.owner, Payment.counted, and_assoc]

theorem sumCanonicalPayments_none (db : Db) (schoolId studentId : String) :
    sumCanonicalPayments db schoolId studentId none =
      db.payments.sumBy (contribution (schoolId, studentId)) := by
  unfold sumCanonicalPayments
  rw [Collection.sum_filter]
  refine db.payments.sumBy_congr fun p _ => ?_
  simp only [canonicalPaidMatch_none, contribution, Payment.credited]
  by_cases ho : p.owner = (schoolId, studentId) <;> simp [ho]

/-- A write to a row that keeps its owner moves that owner's sum by the change of
the credited amount, and no other sum. -/
theorem sumCanonicalPayments_save {db : Db} {row row' : Payment} (hrow : row ∈ db.payments.docs)
    (hkey : row'.key = row.key) (howner : row'.owner = row.owner) (schoolId studentId : String) :
    sumCanonicalPayments { db with payments := db.payments.save row' } schoolId studentId none =
      sumCanonicalPayments db schoolId studentId none +
        if row.owner = (schoolId, studentId) then row'.credited - row.credited else 0 := by
  have h := db.payments.sumBy_save (contribution (schoolId, studentId)) hrow hkey.symm
  simp only [sumCanonicalPayments_none]
  simp only [contribution, howner] at h ⊢
  split
  · rename_i ho; simp only [ho, if_true] at h; omega
  · rename_i ho; simp only [ho, if_false] at h; omega

theorem sumCanonicalPayments_insert {db : Db} {row : Payment}
    {payments' : Collection Payment (String × String × Nat) Payment.key}
    (h : db.payments.insert row = some payments') (schoolId studentId : String) :
    sumCanonicalPayments { db with payments := payments' } schoolId studentId none =
      sumCanonicalPayments db schoolId studentId none +
        contribution (schoolId, studentId) row := by
  simp only [sumCanonicalPayments_none]
  exact db.payments.sumBy_insert _ h

/-! ## What a recompute does -/

@[simp] theorem syncCurrentPeriodFee_payments (db : Db) (schoolId studentId : String) :
    (syncCurrentPeriodFee db schoolId studentId).payments = db.payments := by
  unfold syncCurrentPeriodFee
  split
  · rfl
  · split <;> rfl

@[simp] theorem syncCurrentPeriodFee_students (db : Db) (schoolId studentId : String) :
    (syncCurrentPeriodFee db schoolId studentId).students = db.students := by
  unfold syncCurrentPeriodFee
  split
  · rfl
  · split <;> rfl

@[simp] theorem syncCurrentPeriodFee_refunds (db : Db) (schoolId studentId : String) :
    (syncCurrentPeriodFee db schoolId studentId).refunds = db.refunds := by
  unfold syncCurrentPeriodFee
  split
  · rfl
  · split <;> rfl

@[simp] theorem syncCurrentPeriodFee_outbox (db : Db) (schoolId studentId : String) :
    (syncCurrentPeriodFee db schoolId studentId).outbox = db.outbox := by
  unfold syncCurrentPeriodFee
  split
  · rfl
  · split <;> rfl

@[simp] theorem updateStudentBalance_payments (db : Db) (schoolId studentId : String) :
    (updateStudentBalance db schoolId studentId).2.payments = db.payments := by
  unfold updateStudentBalance
  split <;> simp

@[simp] theorem updateStudentBalance_refunds (db : Db) (schoolId studentId : String) :
    (updateStudentBalance db schoolId studentId).2.refunds = db.refunds := by
  unfold updateStudentBalance
  split <;> simp

@[simp] theorem updateStudentBalance_outbox (db : Db) (schoolId studentId : String) :
    (updateStudentBalance db schoolId studentId).2.outbox = db.outbox := by
  unfold updateStudentBalance
  split <;> simp

theorem updateStudentBalance_students {db : Db} {schoolId studentId : String} {s : Student}
    (h : db.findStudent schoolId studentId = some s) :
    (updateStudentBalance db schoolId studentId).2.students = db.students.save (withBalance db s) := by
  simp [updateStudentBalance, h]

theorem updateStudentBalance_none {db : Db} {schoolId studentId : String}
    (h : db.findStudent schoolId studentId = none) :
    (updateStudentBalance db schoolId studentId).2 = db := by
  simp [updateStudentBalance, h]

theorem findStudent_withBalance {db : Db} {schoolId studentId : String} {s : Student}
    (h : db.findStudent schoolId studentId = some s) :
    (updateStudentBalance db schoolId studentId).2.findStudent schoolId studentId =
      some (withBalance db s) := by
  obtain ⟨hlive, hschool, hstudent⟩ := Db.findStudent_sat h
  have hmem : withBalance db s ∈ (updateStudentBalance db schoolId studentId).2.students.docs := by
    rw [updateStudentBalance_students h]
    exact db.students.mem_save.mpr (Or.inl ⟨rfl, s, Db.findStudent_mem h, rfl⟩)
  have hfound := Db.findStudent_of_mem hmem hlive
  rwa [show (withBalance db s).schoolId = schoolId from hschool,
    show (withBalance db s).studentId = studentId from hstudent] at hfound

/-- Settlement only reads the payment rows. -/
theorem Settled.congr {db db' : Db} {s : Student} (h : Settled db s)
    (hsum : sumCanonicalPayments db' s.schoolId s.studentId none =
      sumCanonicalPayments db s.schoolId s.studentId none) : Settled db' s :=
  ⟨by rw [h.totalPaid, canonicalTotal, canonicalTotal, hsum], h.remainingBalance, h.feePaid⟩

theorem settled_withBalance (db : Db) (s : Student) : Settled db (withBalance db s) where
  totalPaid := rfl
  remainingBalance := rfl
  feePaid := by simp [withBalance, balanceOf]

/-- After a recompute a live student is the one recomputed, or another one. -/
theorem mem_updateStudentBalance {db : Db} {schoolId studentId : String} {s : Student}
    (hs : s ∈ (updateStudentBalance db schoolId studentId).2.students.docs) (hl : s.live = true) :
    (∃ s₀, db.findStudent schoolId studentId = some s₀ ∧ s = withBalance db s₀) ∨
      (s ∈ db.students.docs ∧ s.key ≠ (schoolId, studentId)) := by
  cases hf : db.findStudent schoolId studentId with
  | none =>
    rw [updateStudentBalance_none hf] at hs
    refine Or.inr ⟨hs, fun hk => ?_⟩
    have := Db.findStudent_of_mem hs hl
    rw [Student.key, Prod.mk.injEq] at hk
    rw [hk.1, hk.2, hf] at this
    cases this
  | some found =>
    obtain ⟨-, hschool, hstudent⟩ := Db.findStudent_sat hf
    have hkey : (withBalance db found).key = (schoolId, studentId) := Prod.ext hschool hstudent
    rw [updateStudentBalance_students hf] at hs
    rcases db.students.mem_save.mp hs with ⟨rfl, -⟩ | ⟨hs, hne⟩
    · exact Or.inl ⟨found, rfl, rfl⟩
    · exact Or.inr ⟨hs, hkey ▸ hne⟩

/-- **A recompute settles its student and leaves the others alone.** -/
theorem coherent_updateStudentBalance_iff {db : Db} {schoolId studentId : String} :
    BalanceCoherent (updateStudentBalance db schoolId studentId).2 ↔
      ∀ s ∈ db.students.docs, s.live = true → s.key ≠ (schoolId, studentId) → Settled db s := by
  have sums : ∀ s : Student, Settled (updateStudentBalance db schoolId studentId).2 s ↔
      Settled db s := fun s =>
    ⟨fun h => h.congr (by simp [sumCanonicalPayments]),
      fun h => h.congr (by simp [sumCanonicalPayments])⟩
  constructor
  · intro h s hs hl hne
    refine (sums s).mp (h s ?_ hl)
    cases hf : db.findStudent schoolId studentId with
    | none => rw [updateStudentBalance_none hf]; exact hs
    | some found =>
      obtain ⟨-, hschool, hstudent⟩ := Db.findStudent_sat hf
      rw [updateStudentBalance_students hf]
      refine db.students.mem_save.mpr (Or.inr ⟨hs, fun hk => hne (hk.trans ?_)⟩)
      exact Prod.ext hschool hstudent
  · intro h s hs hl
    refine (sums s).mpr ?_
    rcases mem_updateStudentBalance hs hl with ⟨found, -, rfl⟩ | ⟨hs, hne⟩
    · exact settled_withBalance db found
    · exact h s hs hl hne

/-! ## How a row write moves the invariant -/

/-- No live student owns the row, or the write keeps what it credits. -/
def KeepsCredit (db : Db) (row row' : Payment) : Prop :=
  db.findStudent row.schoolId row.studentId = none ∨ row'.credited = row.credited

/-- A settled student stays settled under a row write exactly when the write does
not move its sum. -/
theorem settled_save_iff {db : Db} {row row' : Payment} (hrow : row ∈ db.payments.docs)
    (hkey : row'.key = row.key) (howner : row'.owner = row.owner) {s : Student}
    (hs : Settled db s) :
    Settled { db with payments := db.payments.save row' } s ↔
      (row.owner = s.key → row'.credited = row.credited) := by
  have hsum := sumCanonicalPayments_save hrow hkey howner s.schoolId s.studentId
  constructor
  · intro h howns
    have := hs.totalPaid.symm.trans h.totalPaid
    rw [canonicalTotal, canonicalTotal, hsum, if_pos (show row.owner = (s.schoolId, s.studentId)
      from howns)] at this
    omega
  · intro h
    refine hs.congr (hsum.trans ?_)
    split
    · rename_i howns; have := h howns; omega
    · omega

theorem coherent_save_iff {db : Db} {row row' : Payment} (hco : BalanceCoherent db)
    (hrow : row ∈ db.payments.docs) (hkey : row'.key = row.key) (howner : row'.owner = row.owner) :
    BalanceCoherent { db with payments := db.payments.save row' } ↔ KeepsCredit db row row' := by
  constructor
  · intro h
    cases hf : db.findStudent row.schoolId row.studentId with
    | none => exact Or.inl hf
    | some s =>
      obtain ⟨hlive, hschool, hstudent⟩ := Db.findStudent_sat hf
      have hmem := Db.findStudent_mem hf
      refine Or.inr ((settled_save_iff hrow hkey howner (hco s hmem hlive)).mp
        (h s hmem hlive) (Prod.ext hschool.symm hstudent.symm))
  · rintro h s hs hl
    refine (settled_save_iff hrow hkey howner (hco s hs hl)).mpr fun howns => ?_
    rcases h with h | h
    · have hfound : db.findStudent s.schoolId s.studentId = some s := Db.findStudent_of_mem hs hl
      rw [Payment.owner, Student.key, Prod.mk.injEq] at howns
      rw [← howns.1, ← howns.2, h] at hfound
      cases hfound
    · exact h

/-- A row write followed by a recompute of one student. -/
theorem coherent_save_update_iff {db : Db} {row row' : Payment} (hco : BalanceCoherent db)
    (hrow : row ∈ db.payments.docs) (hkey : row'.key = row.key) (howner : row'.owner = row.owner)
    (schoolId studentId : String) :
    BalanceCoherent
        (updateStudentBalance { db with payments := db.payments.save row' } schoolId studentId).2 ↔
      row.owner = (schoolId, studentId) ∨ KeepsCredit db row row' := by
  rw [coherent_updateStudentBalance_iff]
  by_cases ho : row.owner = (schoolId, studentId)
  · refine iff_of_true (fun s hs hl hne => ?_) (Or.inl ho)
    exact (settled_save_iff hrow hkey howner (hco s hs hl)).mpr
      fun howns => absurd (howns.symm.trans ho) hne
  · rw [or_iff_right ho, ← coherent_save_iff hco hrow hkey howner]
    refine forall₃_congr fun s hs hl => ?_
    by_cases hne : s.key = (schoolId, studentId)
    · refine iff_of_true (absurd hne) ?_
      exact (settled_save_iff hrow hkey howner (hco s hs hl)).mpr
        fun howns => absurd (howns.trans hne) ho
    · exact ⟨fun h => h hne, fun h _ => h⟩

/-- A new row followed by a recompute of its student. -/
theorem coherent_insert_update {db : Db} {row : Payment}
    {payments' : Collection Payment (String × String × Nat) Payment.key}
    (hco : BalanceCoherent db) (h : db.payments.insert row = some payments') :
    BalanceCoherent
      (updateStudentBalance { db with payments := payments' } row.schoolId row.studentId).2 := by
  refine coherent_updateStudentBalance_iff.mpr fun s hs hl hne => ?_
  refine (hco s hs hl).congr ?_
  rw [sumCanonicalPayments_insert h, contribution, if_neg (fun ho => hne ho.symm), Int.add_zero]

/-- A new row that does not count. -/
theorem coherent_insert_uncounted {db : Db} {row : Payment}
    {payments' : Collection Payment (String × String × Nat) Payment.key}
    (hco : BalanceCoherent db) (h : db.payments.insert row = some payments')
    (hrow : row.counted = false) : BalanceCoherent { db with payments := payments' } := by
  intro s hs hl
  refine (hco s hs hl).congr ?_
  rw [sumCanonicalPayments_insert h]
  simp [contribution, Payment.credited, hrow]

end StellarEduPay

import StellarEduPay.RefundCoupling
import StellarEduPay.PaymentRecording

/-! # Refunds conserve money

What a payment still contributes to its student, after some refunds, should be its
amount less what was refunded.  The refund amounts are checked against a running
sum, but the row itself is all or nothing: `completeRefund` marks it `REFUNDED`
whatever the amount, and the balance is recomputed from the rows.

The bound on the refunded sum holds in every run.  The rest holds in the runs of
`ConservationSafe`: whole payments are refunded, on a row that counts and is found
again, and no refund ends without completing — a refund that was rejected or
failed keeps the one `null` entry of the `refundTxHash` index, and the next
refund is refused.
-/
namespace StellarEduPay
open Runs

/-- What the confirmed refunds initiated on a row sum to. -/
def confirmedOn (s : Tracked) (k : String × String × Nat) : Int :=
  s.db.refunds.sumBy fun r =>
    if s.origin r.id = some k ∧ r.status = .confirmed then r.amount else 0

/-! ## The refunded sum is bounded in every run -/

/-- Every refund was initiated on a row of its transaction, for at most its amount. -/
structure WithinAmount (s : Tracked) : Prop where
  nonneg : ∀ row ∈ s.db.payments.docs, 0 ≤ row.amount
  bound : ∀ r ∈ s.db.refunds.docs, ∃ row ∈ s.db.payments.docs, s.origin r.id = some row.key ∧
    row.schoolId = r.schoolId ∧ row.txHash = r.originalTxHash ∧ r.amount ≤ row.amount

/-- No active refund of a transaction, so nothing was refunded of it yet. -/
theorem alreadyRefunded_eq_zero {db : Db} {schoolId txHash : String}
    (h : db.findActiveRefund schoolId txHash = none) : alreadyRefunded db schoolId txHash = 0 := by
  have hnone := db.refunds.findOne_eq_none.mp h
  rw [alreadyRefunded, List.filter_eq_nil_iff.mpr]
  · rfl
  · intro r hr hc
    have := hnone r hr
    simp only [Bool.and_eq_true, beq_iff_eq] at hc
    simp [hc.1.1, hc.1.2, hc.2, RefundStatus.active] at this

/-- A saved row keeps its key and amount under any write of a status. -/
theorem mem_save_status {db : Db} {row row' : Payment} (st : PaymentStatus)
    (hrow : row ∈ db.payments.docs) (hrow' : row' ∈ db.payments.docs) :
    ∃ row'' ∈ (db.payments.save { row with status := st }).docs, row''.key = row'.key ∧
      row''.schoolId = row'.schoolId ∧ row''.txHash = row'.txHash ∧ row''.amount = row'.amount := by
  by_cases hk : row'.key = row.key
  · obtain rfl := db.payments.eq_of_key hrow' hrow hk
    exact ⟨_, db.payments.mem_save.mpr (Or.inl ⟨rfl, row', hrow', rfl⟩), rfl, rfl, rfl, rfl⟩
  · exact ⟨row', db.payments.mem_save.mpr (Or.inr ⟨hrow', hk⟩), rfl, rfl, rfl, rfl⟩

/-- A first live row that is `SUCCESS` is the row `initiateRefund` takes. -/
theorem findSuccessByTx_of_first {db : Db} {schoolId txHash : String} {row : Payment}
    (hfirst : db.findPaymentByTx schoolId txHash = some row) (hst : row.status = .success) :
    db.findSuccessByTx schoolId txHash = some row := by
  rw [← db.payments.findOne_and hfirst (q := fun e => e.status == .success) (by simp [hst])]
  unfold Db.findSuccessByTx Db.findPayment
  congr 1
  funext e
  simp only [Bool.and_assoc]

namespace WithinAmount
variable {s : Tracked}

/-- A later version of the refunds, with rows that keep their key and amount. -/
theorem congr (h : WithinAmount s) {db' : Db}
    (hrows : ∀ row ∈ s.db.payments.docs, ∃ row' ∈ db'.payments.docs, row'.key = row.key ∧
      row'.schoolId = row.schoolId ∧ row'.txHash = row.txHash ∧ row'.amount = row.amount)
    (hnonneg : ∀ row' ∈ db'.payments.docs, 0 ≤ row'.amount)
    (hrefunds : ∀ r ∈ db'.refunds.docs, ∃ r₀ ∈ s.db.refunds.docs, r₀.Continues r) :
    WithinAmount { s with db := db' } where
  nonneg := hnonneg
  bound r hr := by
    obtain ⟨r₀, hr₀, hc⟩ := hrefunds r hr
    obtain ⟨row, hrow, ho, hs, ht, hle⟩ := h.bound r₀ hr₀
    obtain ⟨row', hrow', hk, hs', ht', ha⟩ := hrows row hrow
    refine ⟨row', hrow', ?_, ?_, ?_, ?_⟩
    · rw [hk, hc.id]; exact ho
    · rw [hs', hs, hc.schoolId]
    · rw [ht', ht, hc.originalTxHash]
    · rw [ha, hc.amount]; exact hle

theorem nonneg_save (h : WithinAmount s) {row : Payment} (hrow : row ∈ s.db.payments.docs)
    (st : PaymentStatus) :
    ∀ row' ∈ (s.db.payments.save { row with status := st }).docs, 0 ≤ row'.amount := by
  intro row' hrow'
  rcases s.db.payments.mem_save.mp hrow' with ⟨rfl, -⟩ | ⟨hrow', -⟩
  · exact h.nonneg row hrow
  · exact h.nonneg row' hrow'

theorem next (h : WithinAmount s) (call : RefundCall) : WithinAmount (s.next call) := by
  cases hrun : call.run s.db with
  | error e => rw [next_refused hrun]; exact h
  | ok r =>
    by_cases hcall : ∀ lockFree newId args, call ≠ .initiateRefund lockFree newId args
    · rw [next_moved hrun hcall]
      obtain ⟨refund, hmem, hcont, hrefunds, hpay⟩ := RefundCall.run_moves hrun hcall
      have hdocs : ∀ x ∈ r.2.refunds.docs, ∃ r₀ ∈ s.db.refunds.docs, r₀.Continues x := by
        intro x hx
        rw [hrefunds] at hx
        rcases s.db.refunds.mem_save.mp hx with ⟨rfl, -⟩ | ⟨hx, -⟩
        · exact ⟨refund, hmem, hcont⟩
        · exact ⟨x, hx, rfl, rfl, rfl, rfl, rfl⟩
      rcases hpay with hpay | ⟨row, hrow, st, hpay⟩
      · exact h.congr (fun row hrow => ⟨row, hpay ▸ hrow, rfl, rfl, rfl, rfl⟩)
          (hpay ▸ h.nonneg) hdocs
      · exact h.congr (fun row' hrow' => hpay ▸ mem_save_status st hrow hrow')
          (hpay ▸ h.nonneg_save hrow st) hdocs
    · simp only [ne_eq, not_forall, not_not] at hcall
      obtain ⟨lockFree, newId, args, rfl⟩ := hcall
      obtain ⟨p, row, refunds, hc, -, hcreate, hr, hdb⟩ := initiateRefund_ok_iff.mp hrun
      obtain ⟨-, -, hfind, -, hle, hactive⟩ := checkInitiateRefund_ok_iff.mp hc
      have hrow := Db.findPayment_mem hfind
      have hsat := (Db.findPayment_sat hfind).2
      simp only [Bool.and_eq_true, beq_iff_eq] at hsat
      rw [alreadyRefunded_eq_zero hactive, Int.sub_zero] at hle
      have hdocs : r.2.refunds.docs = s.db.refunds.docs ++ [r.1] := by
        rw [hdb, hr]; exact s.db.refunds.create_docs hcreate
      have hpay : r.2.payments = s.db.payments.save { row with status := .refundPending } := by
        rw [hdb]
      rw [next_initiated hrun hc]
      constructor
      · exact show ∀ row' ∈ r.2.payments.docs, 0 ≤ row'.amount from hpay ▸ h.nonneg_save hrow _
      · intro x hx
        rw [show (s.initiated r.2 r.1.id row).db.refunds.docs = _ from hdocs] at hx
        rcases List.mem_append.mp hx with hx | hx
        · obtain ⟨row', hrow', ho, hs, ht, hle'⟩ := h.bound x hx
          obtain ⟨row'', hrow'', hk, hs'', ht'', ha⟩ := mem_save_status .refundPending hrow hrow'
          have hne : x.id ≠ r.1.id := by rw [hr]; exact s.db.refunds.create_fresh hcreate x hx
          refine ⟨row'', show row'' ∈ r.2.payments.docs from hpay ▸ hrow'', ?_, hs''.trans hs,
            ht''.trans ht, ha ▸ hle'⟩
          simp only [Tracked.initiated, hne, if_false, hk]
          exact ho
        · obtain rfl := List.mem_singleton.mp hx
          refine ⟨{ row with status := .refundPending }, ?_, ?_, ?_, ?_, ?_⟩
          · exact show _ ∈ r.2.payments.docs from
              hpay ▸ s.db.payments.mem_save.mpr (Or.inl ⟨rfl, row, hrow, rfl⟩)
          · simp [Tracked.initiated]
          · rw [hr]; exact hsat.1.1
          · rw [hr]; exact hsat.1.2
          · rw [hr]; exact hle

/-- Two confirmed refunds of one row are one refund: both are active, and the index
has one active refund for each transaction. -/
theorem confirmed_single (h : WithinAmount s) {k : String × String × Nat} {r r' : Refund}
    (hr : r ∈ s.db.refunds.docs) (hr' : r' ∈ s.db.refunds.docs)
    (ho : s.origin r.id = some k ∧ r.status = .confirmed)
    (ho' : s.origin r'.id = some k ∧ r'.status = .confirmed) : r.id = r'.id := by
  obtain ⟨row, hrow, hk, hs, ht, -⟩ := h.bound r hr
  obtain ⟨row', hrow', hk', hs', ht', -⟩ := h.bound r' hr'
  have hkeys : row.key = row'.key :=
    Option.some.inj ((hk.symm.trans ho.1).trans (ho'.1.symm.trans hk'))
  obtain rfl := s.db.payments.eq_of_key hrow hrow' hkeys
  refine s.db.refunds.unique r hr r' hr' (.activePayment row.schoolId row.txHash) ?_ ?_
  · simp [ho.2, RefundStatus.active, hs, ht]
  · simp [ho'.2, RefundStatus.active, hs', ht']

/-- The confirmed refund of a row, if it has one, is all that was refunded of it. -/
theorem confirmedOn_eq_amount (h : WithinAmount s) {k : String × String × Nat} {r : Refund}
    (hr : r ∈ s.db.refunds.docs) (ho : s.origin r.id = some k) (hconf : r.status = .confirmed) :
    confirmedOn s k = r.amount := by
  have hothers : ∀ x ∈ s.db.refunds.docs, x.id ≠ r.id →
      (if s.origin x.id = some k ∧ x.status = .confirmed then x.amount else 0) = 0 :=
    fun x hx hne => if_neg fun hc => hne (h.confirmed_single hx hr hc ⟨ho, hconf⟩)
  exact (s.db.refunds.sumBy_eq_single _ hr hothers).trans (if_pos ⟨ho, hconf⟩)

theorem confirmedOn_eq_zero {k : String × String × Nat}
    (h : ∀ r ∈ s.db.refunds.docs, s.origin r.id = some k → r.status ≠ .confirmed) :
    confirmedOn s k = 0 :=
  s.db.refunds.sumBy_eq_zero _ fun r hr => if_neg fun hc => h r hr hc.1 hc.2

theorem confirmedOn_le (h : WithinAmount s) {row : Payment} (hrow : row ∈ s.db.payments.docs) :
    confirmedOn s row.key ≤ row.amount := by
  by_cases hex : ∃ r ∈ s.db.refunds.docs, s.origin r.id = some row.key ∧ r.status = .confirmed
  · obtain ⟨r, hr, ho, hconf⟩ := hex
    obtain ⟨row', hrow', hk, -, -, hle⟩ := h.bound r hr
    obtain rfl := s.db.payments.eq_of_key hrow hrow' (Option.some.inj (ho.symm.trans hk))
    rw [h.confirmedOn_eq_amount hr ho hconf]
    exact hle
  · rw [confirmedOn_eq_zero fun r hr ho hconf => hex ⟨r, hr, ho, hconf⟩]
    exact h.nonneg row hrow

end WithinAmount

/-! ## Rows change only their status -/

/-- The rows of `db` are those of `db₀`, in the same order, up to their status. -/
def SameRows (db₀ db : Db) : Prop :=
  ∃ f : Payment → PaymentStatus,
    db.payments.docs = db₀.payments.docs.map fun p => { p with status := f p }

namespace SameRows
variable {db₀ db : Db}

theorem refl (db : Db) : SameRows db db := ⟨Payment.status, by simp⟩

theorem save (h : SameRows db₀ db) {row : Payment} (hrow : row ∈ db.payments.docs)
    (st : PaymentStatus) {db' : Db}
    (hpay : db'.payments = db.payments.save { row with status := st }) : SameRows db₀ db' := by
  obtain ⟨f, hf⟩ := h
  refine ⟨fun p => if p.key = row.key then st else f p, ?_⟩
  rw [hpay, Collection.save_docs, hf, List.map_map]
  refine List.map_congr_left fun p hp => ?_
  have hmem : ({ p with status := f p } : Payment) ∈ db.payments.docs := by
    rw [hf]; exact List.mem_map_of_mem hp
  by_cases hk : p.key = row.key
  · have heq : ({ p with status := f p } : Payment) = row := db.payments.eq_of_key hmem hrow hk
    subst heq
    simp only [Function.comp, Payment.key_status, if_true]
  · simp only [Function.comp, Payment.key_status, hk, if_false]

/-- The first live row of a transaction is the same row throughout. -/
theorem findPaymentByTx (h : SameRows db₀ db) (schoolId txHash : String) :
    ∃ f : Payment → PaymentStatus, db.findPaymentByTx schoolId txHash =
      (db₀.findPaymentByTx schoolId txHash).map fun p => { p with status := f p } := by
  obtain ⟨f, hf⟩ := h
  refine ⟨f, ?_⟩
  unfold Db.findPaymentByTx Db.findPayment Collection.findOne
  rw [hf, List.find?_map]
  rfl

theorem exists_row (h : SameRows db₀ db) {row₀ : Payment} (hrow₀ : row₀ ∈ db₀.payments.docs) :
    ∃ st, ({ row₀ with status := st } : Payment) ∈ db.payments.docs := by
  obtain ⟨f, hf⟩ := h
  exact ⟨f row₀, by rw [hf]; exact List.mem_map_of_mem hrow₀⟩

end SameRows

/-! ## What is held back while a refund is in progress -/

/-- What a row that waits for its refund would credit. -/
def held (owner : String × String) (p : Payment) : Int :=
  if p.owner = owner ∧ p.live = true ∧ p.isSuspicious = false ∧ p.status = .refundPending then
    p.amount
  else 0

theorem contribution_of_live {p : Payment} (hl : p.live = true) (hs : p.isSuspicious = false)
    (owner : String × String) :
    contribution owner p = if p.owner = owner ∧ p.status = .success then p.amount else 0 := by
  by_cases ho : p.owner = owner <;> simp [contribution, Payment.credited, Payment.counted, hl, hs, ho]

theorem held_of_live {p : Payment} (hl : p.live = true) (hs : p.isSuspicious = false)
    (owner : String × String) :
    held owner p = if p.owner = owner ∧ p.status = .refundPending then p.amount else 0 := by
  simp [held, hl, hs]

/-- A status write changes what is credited and what is held, for the owner only. -/
theorem canonical_add_held_save {db db' : Db} {row : Payment} (hrow : row ∈ db.payments.docs)
    (st : PaymentStatus) (hpay : db'.payments = db.payments.save { row with status := st })
    (student : Student) :
    canonicalTotal db' student + db'.payments.sumBy (held student.key) =
      canonicalTotal db student + db.payments.sumBy (held student.key) +
        (contribution student.key { row with status := st } - contribution student.key row) +
        (held student.key { row with status := st } - held student.key row) := by
  have hkey : ({ row with status := st } : Payment).key = row.key := rfl
  have hsum := db.payments.sumBy_save (contribution student.key) hrow hkey.symm
  have hheld := db.payments.sumBy_save (held student.key) hrow hkey.symm
  simp only [canonicalTotal, sumCanonicalPayments_none, hpay]
  rw [show (student.schoolId, student.studentId) = student.key from rfl]
  omega

/-- The first live row of a transaction after a status write. -/
theorem findPaymentByTx_save {db db' : Db} {row : Payment} (hrow : row ∈ db.payments.docs)
    {st : PaymentStatus} (hpay : db'.payments = db.payments.save { row with status := st })
    {schoolId txHash : String} {found : Payment}
    (hfound : db.findPaymentByTx schoolId txHash = some found) :
    ∃ found', db'.findPaymentByTx schoolId txHash = some found' ∧ found'.key = found.key ∧
      found'.amount = found.amount ∧ found'.isSuspicious = found.isSuspicious ∧
      found'.studentId = found.studentId := by
  have hmap : db'.findPaymentByTx schoolId txHash =
      (db.findPaymentByTx schoolId txHash).map fun e =>
        if e.key = row.key then { row with status := st } else e := by
    unfold Db.findPaymentByTx Db.findPayment
    rw [hpay]
    refine db.payments.findOne_save fun e he hk => ?_
    obtain rfl := db.payments.eq_of_key he hrow hk
    rfl
  rw [hfound] at hmap
  refine ⟨_, hmap, ?_⟩
  dsimp only
  split
  · rename_i hk
    obtain rfl := db.payments.eq_of_key (Db.findPayment_mem hfound) hrow hk
    exact ⟨rfl, rfl, rfl, rfl⟩
  · exact ⟨rfl, rfl, rfl, rfl⟩

/-- A refund names the student, the amount and the first row of its transaction. -/
def NamesFirst (db : Db) (origin : String → Option (String × String × Nat)) (r : Refund) : Prop :=
  ∃ row, db.findPaymentByTx r.schoolId r.originalTxHash = some row ∧ origin r.id = some row.key ∧
    row.amount = r.amount ∧ row.isSuspicious = false ∧ row.studentId = r.studentId

namespace NamesFirst
variable {db db' : Db} {origin origin' : String → Option (String × String × Nat)} {r r' : Refund}

/-- A later version of the refund, over the same rows. -/
theorem congr (h : NamesFirst db origin r) (hcont : r.Continues r')
    (hpay : db'.payments = db.payments) : NamesFirst db' origin r' := by
  obtain ⟨row, hrow, ho, hamount, hsusp, hstud⟩ := h
  refine ⟨row, ?_, hcont.id ▸ ho, hamount.trans hcont.amount.symm, hsusp,
    hstud.trans hcont.studentId.symm⟩
  rw [hcont.schoolId, hcont.originalTxHash, ← hrow]
  simp only [Db.findPaymentByTx, Db.findPayment, hpay]

/-- A status write leaves the row where it is found. -/
theorem save (h : NamesFirst db origin r) (horigin : origin' r.id = origin r.id) {row : Payment}
    (hrow : row ∈ db.payments.docs) {st : PaymentStatus}
    (hpay : db'.payments = db.payments.save { row with status := st }) :
    NamesFirst db' origin' r := by
  obtain ⟨found, hfound, ho, hamount, hsusp, hstud⟩ := h
  obtain ⟨found', hfound', hk, ha, hs, hsd⟩ := findPaymentByTx_save hrow hpay hfound
  exact ⟨found', hfound', by rw [horigin, hk, ho], ha.trans hamount, hs.trans hsusp,
    hsd.trans hstud⟩

end NamesFirst

/-- The calls that conserve money.  A refund is initiated for the whole of a row that
counts, that is the first live row of its transaction, and for the student who
owns it; and no call ends a refund except `completeRefund`. -/
def ConservationSafe (s : Tracked) : RefundCall → Prop
  | .initiateRefund lockFree newId args =>
      ∀ p row, checkInitiateRefund s.db lockFree args = .ok (p, row) →
        (newRefund newId args p).schemaValid = true →
        (s.db.refunds.create (newRefund newId args p)).isSome = true →
        args.amount = row.amount ∧ row.isSuspicious = false ∧ args.studentId = row.studentId ∧
          s.db.findPaymentByTx args.schoolId args.originalTxHash = some row
  | .rejectRefund lockFree refundId principal rejectReason schoolId =>
      ∀ p refund row, checkRejectRefund s.db lockFree refundId principal rejectReason schoolId =
        .ok (p, refund, row) → 1000 < jsLength rejectReason
  | .updateRefundStatus lockFree refundId newStatus txHash failureReason schoolId =>
      ∀ refund st, checkUpdateRefundStatus s.db lockFree refundId newStatus schoolId =
          .ok (refund, st) →
        ¬ s.db.refunds.Clashes (statusUpdate refund st txHash failureReason) →
        st.inProgress = true
  | _ => True

/-- What holds along the runs that conserve money. -/
structure Conserved (db₀ : Db) (s : Tracked) : Prop where
  coupled : Coupled db₀ s
  within : WithinAmount s
  sameRows : SameRows db₀ s.db
  first : ∀ r ∈ s.db.refunds.docs, NamesFirst s.db s.origin r
  ended : ∀ r ∈ s.db.refunds.docs, r.status.inProgress = false →
    r.status = .confirmed ∧ r.refundTxHash ≠ none
  /-- A stored total counts the rows that wait for their refund. -/
  stored : ∀ st ∈ s.db.students.docs, st.live = true →
    st.totalPaid = canonicalTotal s.db st + s.db.payments.sumBy (held st.key)
  before : ∀ r ∈ s.db.refunds.docs, r.status.inProgress = true →
    ∀ st, s.db.findStudent r.schoolId r.studentId = some st → s.paidBefore r.id = st.totalPaid

namespace Conserved
variable {db₀ : Db} {s : Tracked}

theorem start (h0 : Unrefunded db₀) (hco : BalanceCoherent db₀)
    (hnonneg : ∀ row ∈ db₀.payments.docs, 0 ≤ row.amount) : Conserved db₀ (.start db₀) where
  coupled := Coupled.start h0
  within := ⟨hnonneg, fun r hr => by simp [Tracked.start, h0.refunds] at hr⟩
  sameRows := SameRows.refl db₀
  first r hr := by simp [Tracked.start, h0.refunds] at hr
  ended r hr := by simp [Tracked.start, h0.refunds] at hr
  stored st hst hl := by
    have hheld : db₀.payments.sumBy (held st.key) = 0 :=
      db₀.payments.sumBy_eq_zero _ fun row hrow => if_neg fun h => h0.payments row hrow h.2.2.2
    rw [show (Tracked.start db₀).db = db₀ from rfl, hheld, Int.add_zero]
    exact (hco st hst hl).totalPaid
  before r hr := by simp [Tracked.start, h0.refunds] at hr

/-- At most one refund is in progress: they all hold the `null` entry of the index. -/
theorem inProgress_single (h : Conserved db₀ s) {r r' : Refund} (hr : r ∈ s.db.refunds.docs)
    (hr' : r' ∈ s.db.refunds.docs) (hp : r.status.inProgress = true)
    (hp' : r'.status.inProgress = true) : r.id = r'.id := by
  have hash : ∀ x ∈ s.db.refunds.docs, x.status.inProgress = true → x.refundTxHash = none :=
    fun x hx hpx => h.coupled.hash x hx fun he => by rw [he] at hpx; cases hpx
  refine s.db.refunds.unique r hr r' hr' (.refundTxHash none) ?_ ?_
  · simp [hash r hr hp]
  · simp [hash r' hr' hp']

/-- While nothing is in progress nothing is held back. -/
theorem held_eq_zero (h : Coupled db₀ s)
    (hnone : ∀ r ∈ s.db.refunds.docs, r.status.inProgress = false) (owner : String × String) :
    s.db.payments.sumBy (held owner) = 0 := by
  refine s.db.payments.sumBy_eq_zero _ fun row hrow => if_neg fun hheld => ?_
  obtain ⟨r, hr, -, hp⟩ := h.coupling.not_stuck row hrow hheld.2.2.2
  rw [hnone r hr] at hp
  cases hp

/-- A refund in progress moves on: nothing but its own document changes. -/
theorem move_refund (h : Conserved db₀ s) {refund updated : Refund} {db' : Db}
    (hmem : refund ∈ s.db.refunds.docs) (hcont : refund.Continues updated)
    (hprogress : refund.status.inProgress = true) (hup : updated.status.inProgress = true)
    (hhash : updated.refundTxHash = refund.refundTxHash)
    (hrefunds : db'.refunds.toCollection = s.db.refunds.toCollection.save updated)
    (hpay : db'.payments = s.db.payments) (hstu : db'.students = s.db.students) :
    Conserved db₀ { s with db := db' } := by
  have hdocs : ∀ x ∈ db'.refunds.docs, ∃ r₀ ∈ s.db.refunds.docs, r₀.Continues x ∧
      (x.status.inProgress = r₀.status.inProgress) ∧ (x = r₀ ∨ x.status.inProgress = true) := by
    intro x hx
    rw [hrefunds] at hx
    rcases s.db.refunds.mem_save.mp hx with ⟨rfl, -⟩ | ⟨hx, -⟩
    · exact ⟨refund, hmem, hcont, hup.trans hprogress.symm, Or.inr hup⟩
    · exact ⟨x, hx, ⟨rfl, rfl, rfl, rfl, rfl⟩, rfl, Or.inl rfl⟩
  have hne : refund.status ≠ .confirmed := fun he => by rw [he] at hprogress; cases hprogress
  refine ⟨?_, ?_, ?_, ?_, ?_, ?_, ?_⟩
  · refine h.coupled.move_refund hmem hcont.id hcont.schoolId hcont.originalTxHash
      (fun _ => hhash.trans (h.coupled.hash refund hmem hne)) ?_ hrefunds hpay
    rw [(rowStatus_refundPending_iff _).mpr hup, (rowStatus_refundPending_iff _).mpr hprogress]
  · refine h.within.congr (fun row hrow => ⟨row, hpay ▸ hrow, rfl, rfl, rfl, rfl⟩)
      (hpay ▸ h.within.nonneg) fun x hx => ?_
    obtain ⟨r₀, hr₀, hc, -⟩ := hdocs x hx
    exact ⟨r₀, hr₀, hc⟩
  · obtain ⟨f, hf⟩ := h.sameRows
    exact ⟨f, by rw [← hf, hpay]⟩
  · intro x hx
    obtain ⟨r₀, hr₀, hc, -⟩ := hdocs x hx
    exact (h.first r₀ hr₀).congr hc hpay
  · intro x hx hended
    obtain ⟨r₀, hr₀, -, -, rfl | hp⟩ := hdocs x hx
    · exact h.ended x hr₀ hended
    · rw [hp] at hended; cases hended
  · intro st hst hl
    rw [show canonicalTotal db' st = canonicalTotal s.db st by
      simp only [canonicalTotal, sumCanonicalPayments, hpay], hpay]
    exact h.stored st (hstu ▸ hst) hl
  · intro x hx hp st hst
    obtain ⟨r₀, hr₀, hc, hpe, -⟩ := hdocs x hx
    rw [hc.id]
    refine h.before r₀ hr₀ (hpe ▸ hp) st ?_
    rw [← hc.schoolId, ← hc.studentId, ← hst]
    simp only [Db.findStudent, hstu]

/-- A refund of a whole row that counts. -/
theorem initiate (h : Conserved db₀ s) {lockFree : Bool} {newId : String} {args : InitiateArgs}
    (hsafe : ConservationSafe s (.initiateRefund lockFree newId args)) :
    Conserved db₀ (s.next (.initiateRefund lockFree newId args)) := by
  have hwithin := h.within.next (.initiateRefund lockFree newId args)
  have hcoupled : Coupled db₀ (s.next (.initiateRefund lockFree newId args)) :=
    initiateRefund_coupled h.coupled
  cases hrun : initiateRefund s.db lockFree newId args with
  | error e =>
    rw [next_refused (show RefundCall.run s.db (.initiateRefund lockFree newId args) = _ from hrun)]
    exact h
  | ok r =>
    obtain ⟨p, row, refunds, hc, hv, hcreate, hr, hdb⟩ := initiateRefund_ok_iff.mp hrun
    obtain ⟨-, -, hfind, -, -, -⟩ := checkInitiateRefund_ok_iff.mp hc
    obtain ⟨hamount, hsusp, hstud, hfirst⟩ := hsafe p row hc hv (by rw [hcreate]; rfl)
    have hrow := Db.findPayment_mem hfind
    obtain ⟨hlive, hsat⟩ := Db.findPayment_sat hfind
    simp only [Bool.and_eq_true, beq_iff_eq] at hsat
    have hdocs : r.2.refunds.docs = s.db.refunds.docs ++ [r.1] := by
      rw [hdb, hr]; exact s.db.refunds.create_docs hcreate
    have fresh : ∀ x ∈ s.db.refunds.docs, x.id ≠ r.1.id := by
      rw [hr]; exact s.db.refunds.create_fresh hcreate
    have hpay : r.2.payments = s.db.payments.save { row with status := .refundPending } := by
      rw [hdb]
    have hstu : r.2.students = s.db.students := by rw [hdb]
    rw [next_initiated hrun hc] at hwithin hcoupled ⊢
    refine ⟨hcoupled, hwithin, h.sameRows.save hrow _ hpay, ?_, ?_, ?_, ?_⟩
    · intro x hx
      rw [show (s.initiated r.2 r.1.id row).db.refunds.docs = _ from hdocs] at hx
      rcases List.mem_append.mp hx with hx | hx
      · refine (h.first x hx).save ?_ hrow hpay
        simp only [Tracked.initiated, fresh x hx, if_false]
      · obtain rfl := List.mem_singleton.mp hx
        have hnew : NamesFirst s.db (s.initiated r.2 r.1.id row).origin r.1 := by
          rw [hr]
          exact ⟨row, hfirst, by simp [Tracked.initiated], hamount.symm, hsusp, hstud.symm⟩
        exact hnew.save rfl hrow hpay
    · intro x hx hended
      rw [show (s.initiated r.2 r.1.id row).db.refunds.docs = _ from hdocs] at hx
      rcases List.mem_append.mp hx with hx | hx
      · exact h.ended x hx hended
      · obtain rfl := List.mem_singleton.mp hx
        rw [hr] at hended
        cases hended
    · intro st hst hl
      rw [show (s.initiated r.2 r.1.id row).db = r.2 from rfl] at hst ⊢
      rw [canonical_add_held_save hrow _ hpay, h.stored st (hstu ▸ hst) hl]
      -- the row moves from what is credited to what is held
      have hlive' : ({ row with status := .refundPending } : Payment).live = true := hlive
      rw [contribution_of_live hlive hsusp, contribution_of_live hlive' hsusp,
        held_of_live hlive hsusp, held_of_live hlive' hsusp]
      simp only [Payment.owner_status, hsat.2, reduceCtorEq, and_false, and_true, if_false]
      omega
    · intro x hx hp st hst
      rw [show (s.initiated r.2 r.1.id row).db.refunds.docs = _ from hdocs] at hx
      have hst' : s.db.findStudent x.schoolId x.studentId = some st := by
        rw [← hst]; simp only [Db.findStudent, Tracked.initiated, hstu]
      rcases List.mem_append.mp hx with hx | hx
      · simp only [Tracked.initiated, fresh x hx, if_false]
        exact h.before x hx hp st hst'
      · obtain rfl := List.mem_singleton.mp hx
        have hids : r.1.schoolId = row.schoolId ∧ r.1.studentId = row.studentId := by
          rw [hr]; exact ⟨hsat.1.1.symm, hstud⟩
        rw [hids.1, hids.2] at hst'
        simp only [Tracked.initiated, if_true, storedPaid, hst']

/-- With nothing held back any more, a refunded row is what the paid totals lost. -/
theorem canonicalTotal_refunded (h : Conserved db₀ s) {row : Payment}
    (hrow : row ∈ s.db.payments.docs) (hlive : row.live = true) (hsusp : row.isSuspicious = false)
    (hst : row.status = .refundPending) {db' : Db}
    (hpay : db'.payments = s.db.payments.save { row with status := .refunded })
    (hheld : ∀ owner, db'.payments.sumBy (held owner) = 0) {st : Student}
    (hmem : st ∈ s.db.students.docs) (hl : st.live = true) :
    canonicalTotal db' st = st.totalPaid - if row.owner = st.key then row.amount else 0 := by
  have hlive' : ({ row with status := .refunded } : Payment).live = true := hlive
  have hsum := canonical_add_held_save hrow .refunded hpay st
  rw [contribution_of_live hlive hsusp, contribution_of_live hlive' hsusp,
    held_of_live hlive hsusp, held_of_live hlive' hsusp, hheld st.key] at hsum
  simp only [Payment.owner_status, hst, reduceCtorEq, and_false, and_true, if_false] at hsum
  have hstored := h.stored st hmem hl
  omega

section Complete
variable {lockFree : Bool} {refundId refundTxHash : String} {principal : Option Principal}
  {schoolId : String} {r : Refund × Db}

/-- What `completeRefund` finds and writes: the refund waits on the row that is found, and
both are moved. -/
theorem completed (h : Conserved db₀ s)
    (hrun : completeRefund s.db lockFree refundId refundTxHash principal schoolId = .ok r) :
    ∃ refund ∈ s.db.refunds.docs, ∃ row ∈ s.db.payments.docs, ∃ db,
      refund.status = .pending ∧ s.origin refund.id = some row.key ∧
      row.live = true ∧ row.isSuspicious = false ∧ row.status = .refundPending ∧
      row.amount = refund.amount ∧ row.owner = (refund.schoolId, refund.studentId) ∧
      r.1 = confirmedRefund refund refundTxHash ∧
      db.refunds.toCollection = s.db.refunds.toCollection.save r.1 ∧
      db.payments = s.db.payments.save { row with status := .refunded } ∧
      db.students = s.db.students ∧
      r.2 = (updateStudentBalance db refund.schoolId refund.studentId).2 := by
  obtain ⟨p, refund, row, refunds, hc, hu, hr, hdb⟩ := completeRefund_ok_iff.mp hrun
  obtain ⟨hfind, hpending, hrowTx⟩ := checkCompleteRefund_ok hc
  have hmem := s.db.refunds.mem_of_findOne hfind
  have hrow := Db.findPayment_mem hrowTx
  obtain ⟨hlive, hschool, -⟩ := Db.findPaymentByTx_sat hrowTx
  obtain ⟨row', hfirst, ho, hamount, hsusp, hstud⟩ := h.first refund hmem
  obtain rfl : row = row' := Option.some.inj (hrowTx.symm.trans hfirst)
  have hst : row.status = .refundPending := by
    rw [h.coupled.row_status hmem hrow ho, hpending]; rfl
  refine ⟨refund, hmem, row, hrow, _, hpending, ho, hlive, hsusp, hst, hamount,
    Prod.ext hschool hstud, hr, ?_, ?_, ?_, hdb⟩
  · rw [hr]; exact s.db.refunds.update_toCollection hu
  · rfl
  · rfl

/-- A refund completes: nothing is in progress after it, and the student's total is down
by exactly the refund. -/
theorem complete (h : Conserved db₀ s)
    (hrun : completeRefund s.db lockFree refundId refundTxHash principal schoolId = .ok r) :
    Conserved db₀ { s with db := r.2 } ∧
      ∀ st, r.2.findStudent r.1.schoolId r.1.studentId = some st →
        st.totalPaid = s.paidBefore r.1.id - r.1.amount := by
  have hwithin := h.within.next (.completeRefund lockFree refundId refundTxHash principal schoolId)
  rw [next_moved (show RefundCall.run s.db (.completeRefund lockFree refundId refundTxHash
    principal schoolId) = .ok r from hrun) (by simp)] at hwithin
  obtain ⟨refund, hmem, row, hrow, db, hpending, ho, hlive, hsusp, hst, hamount, howner, hr, hrefunds,
    hpay, hstu, hdb⟩ := h.completed hrun
  have hprogress : refund.status.inProgress = true := by rw [hpending]; rfl
  have hpay' : r.2.payments = s.db.payments.save { row with status := .refunded } := by
    rw [hdb, updateStudentBalance_payments, hpay]
  have hrefunds' : r.2.refunds.toCollection = s.db.refunds.toCollection.save r.1 := by
    rw [hdb, updateStudentBalance_refunds, hrefunds]
  have hcont : refund.Continues r.1 := hr ▸ continues_confirmedRefund
  have hcoupled : Coupled db₀ { s with db := r.2 } :=
    h.coupled.move hmem hcont.id hcont.schoolId hcont.originalTxHash
      (fun hne => absurd (hr ▸ rfl) hne) hrow ho hrefunds' (hr ▸ hpay')
  -- the refund was the only one in progress
  have inRefunds : ∀ x ∈ r.2.refunds.docs, x = r.1 ∨
      (x ∈ s.db.refunds.docs ∧ x.status.inProgress = false) := by
    intro x hx
    rw [hrefunds'] at hx
    rcases s.db.refunds.mem_save.mp hx with ⟨hx, -⟩ | ⟨hx, hne⟩
    · exact Or.inl hx
    · refine Or.inr ⟨hx, ?_⟩
      by_contra hp
      exact hne ((h.inProgress_single hx hmem (by simpa using hp) hprogress).trans hcont.id.symm)
  have hnone : ∀ x ∈ r.2.refunds.docs, x.status.inProgress = false := by
    intro x hx
    rcases inRefunds x hx with rfl | ⟨-, hp⟩
    · rw [hr]; rfl
    · exact hp
  have hheld := held_eq_zero hcoupled hnone
  have total : ∀ st ∈ s.db.students.docs, st.live = true → canonicalTotal r.2 st =
      st.totalPaid - if row.owner = st.key then row.amount else 0 :=
    fun _ => h.canonicalTotal_refunded hrow hlive hsusp hst hpay' hheld
  -- a student has the total of its rows, and the one recomputed was there before
  have students : ∀ st ∈ r.2.students.docs, st.live = true →
      st.totalPaid = canonicalTotal r.2 st ∧ (st.key = (refund.schoolId, refund.studentId) →
        ∃ st₀, s.db.findStudent refund.schoolId refund.studentId = some st₀ ∧
          canonicalTotal r.2 st = canonicalTotal r.2 st₀) := by
    intro st hst hl
    rw [hdb] at hst
    rcases mem_updateStudentBalance hst hl with ⟨st₀, hst₀, rfl⟩ | ⟨hst, hne⟩
    · refine ⟨?_, fun _ => ⟨st₀, ?_, rfl⟩⟩
      · rw [hdb]
        simp only [withBalance, balanceOf, classify_cumulativeTotal, canonicalTotal,
          sumCanonicalPayments, updateStudentBalance_payments]
      · rw [← hst₀]; simp only [Db.findStudent, hstu]
    · refine ⟨?_, fun hk => absurd hk hne⟩
      rw [total st (hstu ▸ hst) hl, if_neg (fun hk => hne (hk.symm.trans howner)), Int.sub_zero]
  constructor
  · refine ⟨hcoupled, hwithin, h.sameRows.save hrow _ hpay', ?_, ?_, ?_, ?_⟩
    · intro x hx
      rcases inRefunds x hx with rfl | ⟨hx, -⟩
      · exact ((h.first refund hmem).congr hcont rfl).save rfl hrow hpay'
      · exact (h.first x hx).save rfl hrow hpay'
    · intro x hx hended
      rcases inRefunds x hx with rfl | ⟨hx, -⟩
      · rw [hr]; exact ⟨rfl, by simp [confirmedRefund]⟩
      · exact h.ended x hx hended
    · intro st hst hl
      rw [show ({ s with db := r.2 } : Tracked).db = r.2 from rfl] at hst ⊢
      rw [(students st hst hl).1, hheld st.key, Int.add_zero]
    · intro x hx hp
      rw [hnone x hx] at hp
      cases hp
  · intro st hst
    rw [hcont.schoolId, hcont.studentId] at hst
    obtain ⟨hl, hs1, hs2⟩ := Db.findStudent_sat hst
    obtain ⟨htotal, hfound⟩ := students st (Db.findStudent_mem hst) hl
    obtain ⟨st₀, hst₀, hsame⟩ := hfound (Prod.ext hs1 hs2)
    obtain ⟨hl₀, hs1₀, hs2₀⟩ := Db.findStudent_sat hst₀
    have hown : row.owner = st₀.key := howner.trans (Prod.ext hs1₀.symm hs2₀.symm)
    rw [htotal, hsame, total st₀ (Db.findStudent_mem hst₀) hl₀, if_pos hown, hamount, hcont.amount,
      hcont.id]
    exact congrArg (· - refund.amount) (h.before refund hmem hprogress st₀ hst₀).symm

end Complete

theorem next (h : Conserved db₀ s) {call : RefundCall} (hsafe : ConservationSafe s call) :
    Conserved db₀ (s.next call) := by
  cases hrun : call.run s.db with
  | error e => rw [next_refused hrun]; exact h
  | ok r =>
    cases call with
    | initiateRefund lockFree newId args => exact h.initiate hsafe
    | approveRefund refundId principal schoolId =>
      rw [next_moved hrun (by simp)]
      obtain ⟨p, refund, -, hfind, hst, -, hup, hu, hpay, hstu⟩ := approveRefund_ok hrun
      have hcont : refund.Continues r.1 := by rw [hup]; exact continues_approvedRefund
      refine h.move_refund (s.db.refunds.mem_of_findOne hfind) hcont ?_ ?_ ?_
        (s.db.refunds.update_toCollection hu) hpay hstu
      · rw [hst]; rfl
      · rw [hup]; rfl
      · rw [hup]; rfl
    | rejectRefund lockFree refundId principal rejectReason schoolId =>
      obtain ⟨p, refund, row, refunds, hc, hlen, -⟩ := rejectRefund_ok_iff.mp hrun
      exact absurd hlen (Nat.not_le.mpr (hsafe p refund row hc))
    | completeRefund lockFree refundId refundTxHash principal schoolId =>
      rw [next_moved hrun (by simp)]
      exact (h.complete hrun).1
    | updateRefundStatus lockFree refundId newStatus txHash failureReason schoolId =>
      rw [next_moved hrun (by simp)]
      obtain ⟨refund, st, hc, hup, hu, hpay, hstu⟩ := updateRefundStatus_ok hrun
      obtain ⟨-, hfind, htrans⟩ := checkUpdateRefundStatus_ok hc
      have hst : st.inProgress = true :=
        hsafe refund st hc (hup ▸ s.db.refunds.not_clashes_of_update hu)
      have hcont : refund.Continues r.1 := by rw [hup]; exact continues_statusUpdate
      refine h.move_refund (findRefundScoped_mem hfind).1 hcont
        (RefundStatus.inProgress_of_mem htrans) ?_ ?_ (s.db.refunds.update_toCollection hu) hpay hstu
      · rw [hup, statusUpdate_status]; exact hst
      · rw [hup]
        refine statusUpdate_refundTxHash_of_ne _ _ _ _ ?_
        rintro rfl
        cases hst

end Conserved

/-! ## Conservation along runs -/

/-- Completing a refund lowers the student's stored total by exactly its amount,
against the total before the refund was initiated. -/
def CompletionDrops (s : Tracked) : Prop :=
  ∀ lockFree refundId refundTxHash principal schoolId updated db',
    completeRefund s.db lockFree refundId refundTxHash principal schoolId = .ok (updated, db') →
    ∀ student, db'.findStudent updated.schoolId updated.studentId = some student →
      student.totalPaid = s.paidBefore updated.id - updated.amount

/-- A payment that counted at the start, with no refund of it in progress, contributes
what is left of it. -/
def ContributesRest (db₀ : Db) (s : Tracked) : Prop :=
  ∀ row₀ ∈ db₀.payments.docs, row₀.counted = true → ∀ row ∈ s.db.payments.docs,
    row.key = row₀.key →
    (∀ r ∈ s.db.refunds.docs, s.origin r.id = some row.key → r.status.inProgress = false) →
    row.credited = row₀.amount - confirmedOn s row.key

/-- With no refund in progress, a further refund of a payment that was `SUCCESS` at the
start is accepted for any positive amount up to what is left.  The payment is the
row a caller can name by transaction hash. -/
def AcceptsRest (db₀ : Db) (s : Tracked) : Prop :=
  ∀ row₀ ∈ db₀.payments.docs, row₀.status = .success →
    db₀.findPaymentByTx row₀.schoolId row₀.txHash = some row₀ →
    (∀ r ∈ s.db.refunds.docs, r.status.inProgress = false) →
    ∀ newId args p, (∀ r ∈ s.db.refunds.docs, r.id ≠ newId) →
      args.schoolId = row₀.schoolId → args.originalTxHash = row₀.txHash →
      knownPrincipal args.principal = some p → (newRefund newId args p).schemaValid = true →
      0 < args.amount → args.amount ≤ row₀.amount - confirmedOn s row₀.key →
      ∃ r, initiateRefund s.db true newId args = .ok r

namespace Conserved
variable {db₀ : Db} {s : Tracked}

theorem completionDrops (h : Conserved db₀ s) : CompletionDrops s :=
  fun _ _ _ _ _ _ _ hrun => (h.complete hrun).2

theorem contributesRest (h : Conserved db₀ s) : ContributesRest db₀ s := by
  intro row₀ hrow₀ hcounted row hrow hkey hnone
  obtain ⟨st, hst⟩ := h.sameRows.exists_row hrow₀
  have heq : row = { row₀ with status := st } := s.db.payments.eq_of_key hrow hst hkey
  by_cases hex : ∃ r ∈ s.db.refunds.docs, s.origin r.id = some row.key
  · obtain ⟨r, hr, ho⟩ := hex
    have hconf := (h.ended r hr (hnone r hr ho)).1
    obtain ⟨found, hfound, hof, hamount, -⟩ := h.first r hr
    obtain rfl := s.db.payments.eq_of_key hrow (Db.findPayment_mem hfound)
      (Option.some.inj (ho.symm.trans hof))
    have hstatus : row.status ≠ .success := by
      rw [h.coupled.row_status hr hrow ho, hconf]; decide
    rw [credited_of_status_ne hstatus, h.within.confirmedOn_eq_amount hr ho hconf, ← hamount, heq]
    simp
  · -- no refund ever touched the row
    have hmem := (h.coupled.untouched row hrow fun r hr ho => hex ⟨r, hr, ho⟩).1
    obtain rfl := db₀.payments.eq_of_key hmem hrow₀ hkey
    rw [WithinAmount.confirmedOn_eq_zero fun r hr ho => absurd ⟨r, hr, ho⟩ hex, Int.sub_zero,
      Payment.credited, if_pos hcounted]

theorem acceptsRest (h : Conserved db₀ s) : AcceptsRest db₀ s := by
  intro row₀ hrow₀ hsuccess hfirst₀ hnone newId args p hfresh hschool htx hp hv hpos hle
  -- the first live row of the transaction is still this one
  obtain ⟨f, hf⟩ := h.sameRows.findPaymentByTx row₀.schoolId row₀.txHash
  rw [hfirst₀] at hf
  have hfound : s.db.findPaymentByTx row₀.schoolId row₀.txHash =
      some { row₀ with status := f row₀ } := hf
  have hrow := Db.findPayment_mem hfound
  -- every refund of the transaction would have ended on it, for all of its amount
  have hnoRefund : ∀ r ∈ s.db.refunds.docs, r.schoolId = row₀.schoolId →
      r.originalTxHash = row₀.txHash → False := by
    intro r hr hs ht
    obtain ⟨found, hfound', ho, hamount, -⟩ := h.first r hr
    rw [hs, ht, hfound] at hfound'
    obtain rfl := Option.some.inj hfound'
    have hconf := (h.ended r hr (hnone r hr)).1
    have hsum : confirmedOn s row₀.key = r.amount := h.within.confirmedOn_eq_amount hr ho hconf
    rw [hsum, ← hamount] at hle
    simp only at hle
    omega
  have hunrefunded : ∀ r ∈ s.db.refunds.docs, s.origin r.id = some row₀.key → False := by
    intro r hr ho
    obtain ⟨hs, ht⟩ := h.coupled.row_tx hr hrow ho
    exact hnoRefund r hr hs ht
  have hstatus : f row₀ = .success := by
    have hmem := (h.coupled.untouched _ hrow fun r hr ho => hunrefunded r hr ho).1
    have hsame := db₀.payments.eq_of_key hmem hrow₀ rfl
    exact (congrArg Payment.status hsame).trans hsuccess
  have hsuccessTx := findSuccessByTx_of_first hfound hstatus
  have hactive : s.db.findActiveRefund row₀.schoolId row₀.txHash = none := by
    refine s.db.refunds.findOne_eq_none.mpr fun r hr => ?_
    by_contra hc
    simp only [Bool.not_eq_false, Bool.and_eq_true, beq_iff_eq] at hc
    exact hnoRefund r hr hc.1.1 hc.1.2
  have hzero : confirmedOn s row₀.key = 0 :=
    WithinAmount.confirmedOn_eq_zero fun r hr ho => (hunrefunded r hr ho).elim
  have hcheck : checkInitiateRefund s.db true args = .ok (p, { row₀ with status := f row₀ }) := by
    refine checkInitiateRefund_ok_iff.mpr ⟨hp, rfl, ?_, hpos, ?_, ?_⟩
    · rw [hschool, htx]; exact hsuccessTx
    · rw [hschool, htx, alreadyRefunded_eq_zero hactive]
      rw [hzero] at hle
      exact hle
    · rw [hschool, htx]; exact hactive
  have hclash : ¬ s.db.refunds.Clashes (newRefund newId args p) := by
    rintro ⟨r, hr, -, i, hir, hin⟩
    cases i with
    | refundTxHash hash =>
      obtain rfl : none = hash := by simpa [newRefund] using hin
      exact (h.ended r hr (hnone r hr)).2 (by simpa using hir)
    | activePayment schoolId txHash =>
      simp only [Refund.activePayment_mem_indexEntries] at hir hin
      exact hnoRefund r hr (hir.2.1.trans (hin.2.1.symm.trans hschool))
        (hir.2.2.trans (hin.2.2.symm.trans htx))
  obtain ⟨refunds, hcreate⟩ := s.db.refunds.create_isSome hfresh hclash
  exact ⟨(_, _), initiateRefund_ok_iff.mpr ⟨p, _, refunds, hcheck, hv, hcreate, rfl, rfl⟩⟩

end Conserved

/-- **Refunds conserve money.**  The confirmed refunds of a row never sum to more than
its amount, in any run.  Along the safe runs a completed refund lowers the
student's total by its amount, a payment contributes what is left of it, and the
rest may be refunded. -/
theorem refund_conservation_along_runs {db₀ : Db} (h0 : Unrefunded db₀)
    (hco : BalanceCoherent db₀) (hnonneg : ∀ row ∈ db₀.payments.docs, 0 ≤ row.amount) :
    (∀ s, Reach refundStep Free (.start db₀) s →
      ∀ row ∈ s.db.payments.docs, confirmedOn s row.key ≤ row.amount) ∧
    (∀ s, Reach refundStep ConservationSafe (.start db₀) s →
      CompletionDrops s ∧ ContributesRest db₀ s ∧ AcceptsRest db₀ s) := by
  have hstart := Conserved.start h0 hco hnonneg
  constructor
  · intro s hrun row hrow
    have h : WithinAmount s := hrun.invariant hstart.within fun ht _ hstep =>
      Option.some.inj hstep ▸ ht.next _
    exact h.confirmedOn_le hrow
  · intro s hrun
    have h : Conserved db₀ s := hrun.invariant hstart fun ht hsafe hstep =>
      Option.some.inj hstep ▸ ht.next hsafe
    exact ⟨h.completionDrops, h.contributesRest, h.acceptsRest⟩

theorem refund_conservation_along_runs_full :
    Reach refundStep ConservationSafe (.start paidDb) approvedState ∧
      CompletionDrops approvedState ∧ approvedState.paidBefore "r1" = 1000000000 := by
  have hfirst : ConservationSafe (.start paidDb) (.initiateRefund true "r1" fullRefund) := by
    intro p row hc _ _
    have hfind := (checkInitiateRefund_ok_iff.mp hc).2.2.1
    obtain rfl : paidRow = row := Option.some.inj hfind
    exact ⟨rfl, rfl, rfl, rfl⟩
  have hrun : Reach refundStep ConservationSafe (.start paidDb) approvedState :=
    .tail (.tail .refl hfirst rfl)
      (show ConservationSafe _ (.approveRefund "r1" (some ⟨"u2", "operator 2"⟩) "SCH") from trivial)
      rfl
  have hconserved := refund_conservation_along_runs paidDb_unrefunded (by decide) (by decide)
  exact ⟨hrun, (hconserved.2 _ hrun).1, rfl⟩

/-- A refund of 30 out of 100: completing it takes the whole 100 off the total. -/
theorem partial_refund_drops_whole_payment :
    ¬ ∀ db₀, Unrefunded db₀ → BalanceCoherent db₀ →
      (∀ row ∈ db₀.payments.docs, 0 ≤ row.amount) →
      ∀ s, Reach refundStep Free (.start db₀) s →
        CompletionDrops s ∧ ContributesRest db₀ s ∧ AcceptsRest db₀ s := by
  intro h
  let operator : Option Principal := some ⟨"u2", "operator 2"⟩
  have hrun := reach_of_exec (show exec refundStep (.start paidDb)
    [.initiateRefund true "r1" { fullRefund with amount := 300000000 },
      .approveRefund "r1" operator "SCH"] = some _ from rfl)
  obtain ⟨hdrops, -, -⟩ := h paidDb paidDb_unrefunded (by decide) (by decide) _ hrun
  have := hdrops true "r1" "tx9" operator "SCH" _ _ rfl
    { paidStudent with totalPaid := 0, remainingBalance := some 1000000000, feePaid := false } rfl
  revert this
  decide

end StellarEduPay

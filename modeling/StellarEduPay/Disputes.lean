import StellarEduPay.Checks
import StellarEduPay.RefundService

/-! # Disputes (`controllers/dispute.controller.js`, `models/disputeModel.js`)

A dispute is a document of its own that names a payment by its transaction hash.
`flagDispute` opens one and `resolveDispute` moves it through the transition table;
both then set or lift the student's hold and bring the payment's status in line with
the dispute's.  The payment status is a fixed function of the dispute status: the
status the payment had before is not kept anywhere.

Each operation is a read half, which checks, and a write half, which works on the
store it finds then.  Run one after the other on the same store they are the
operation; a concurrent system may put other writes between them.
-/
namespace StellarEduPay
open Checks Function

/-! ## Documents -/

/-- `Dispute.status`; `opened` is spelled `open`. -/
inductive DisputeStatus
  | opened
  | underReview
  | resolved
  | rejected
  deriving DecidableEq, Repr

namespace DisputeStatus

/-- The status as the source spells it. -/
def name : DisputeStatus → String
  | opened => "open"
  | underReview => "under_review"
  | resolved => "resolved"
  | rejected => "rejected"

/-- `DISPUTE_TRANSITIONS`. -/
def transitions : DisputeStatus → List DisputeStatus
  | opened => [underReview, resolved, rejected]
  | underReview => [resolved, rejected, opened]
  | resolved => [opened]
  | rejected => [opened]

/-- `TERMINAL_STATUSES`. -/
def terminal : DisputeStatus → Bool
  | resolved | rejected => true
  | opened | underReview => false

/-- The statuses of an active dispute, `{ $in: ['open', 'under_review'] }`. -/
def active (st : DisputeStatus) : Bool := !st.terminal

/-- `DISPUTE_TO_PAYMENT_STATUS`. -/
def paymentStatus : DisputeStatus → PaymentStatus
  | resolved => .refunded
  | rejected => .success
  | opened | underReview => .disputed

/-- The status a caller spelled, if there is one. -/
def ofName (s : String) : Option DisputeStatus :=
  [resolved, rejected, underReview, opened].find? fun st => st.name == s

end DisputeStatus

/-- `isValidTransition`. -/
def isValidTransition (source target : DisputeStatus) : Bool := target ∈ source.transitions

inductive EvidenceType
  | screenshot
  | txReference
  | document
  | other
  deriving DecidableEq, Repr

structure Evidence where
  type : EvidenceType
  url : String
  description : Option String
  deriving DecidableEq, Repr

/-- `disputeModel`, without the contact, the deadline and the escalation fields. -/
structure Dispute where
  id : String
  schoolId : String
  txHash : String
  studentId : String
  txReference : Option String
  raisedBy : String
  reason : String
  evidence : List Evidence
  status : DisputeStatus
  assignedTo : Option String
  resolvedBy : Option String
  resolutionNote : Option String
  resolvedAt : Option Nat
  deriving DecidableEq, Repr

namespace Dispute

/-- The payment a dispute is about. -/
def payment (d : Dispute) : String × String := (d.schoolId, d.txHash)

/-- The student a dispute is about. -/
def owner (d : Dispute) : String × String := (d.schoolId, d.studentId)

/-- The unique index `{ schoolId, txHash, status }`, partial on the active statuses. -/
def indexEntries (d : Dispute) : List ((String × String) × DisputeStatus) :=
  if d.status.active then [(d.payment, d.status)] else []

/-- The schema's limits on the fields a handler does not check itself. -/
def schemaValid (d : Dispute) : Bool :=
  d.txReference.all (jsLength · ≤ 128) &&
  d.evidence.all fun e => jsTrim e.url ≠ "" && e.description.all fun text =>
    decide (jsLength (jsTrim text) ≤ 500)

end Dispute

/-- The disputes, under their unique index. -/
abbrev DisputeCollection :=
  Indexed Dispute String ((String × String) × DisputeStatus) Dispute.id Dispute.indexEntries

/-- The payment core with the disputes and every student's `disputeHold`. -/
structure DisputeStore where
  db : Db
  disputes : DisputeCollection
  disputeHold : String × String → Bool

namespace DisputeStore
variable (s : DisputeStore)

/-- `Dispute.findOne({ _id, schoolId })`. -/
def findDispute (id schoolId : String) : Option Dispute :=
  s.disputes.findOne fun d => d.id == id && d.schoolId == schoolId

/-- `Dispute.findOne({ schoolId, txHash, status: { $in: ['open', 'under_review'] } })`. -/
def findActiveDispute (schoolId txHash : String) : Option Dispute :=
  s.disputes.findOne fun d => d.schoolId == schoolId && d.txHash == txHash && d.status.active

/-- `Student.findOneAndUpdate({ schoolId, studentId }, { $set: { disputeHold } })`, which
passes a deleted student by. -/
def setHold (schoolId studentId : String) (hold : Bool) : DisputeStore :=
  match s.db.findStudent schoolId studentId with
  | some _ => { s with disputeHold := update s.disputeHold (schoolId, studentId) hold }
  | none => s

end DisputeStore

/-- `_syncPaymentStatus`: the first live row of the transaction takes the status that goes
with the dispute's, and its student's balance is recomputed. -/
def syncPaymentStatus (db : Db) (schoolId txHash : String) (newDisputeStatus : DisputeStatus) : Db :=
  match db.findPaymentByTx schoolId txHash with
  | none => db
  | some payment =>
    let target := newDisputeStatus.paymentStatus
    if payment.status = target then db
    else
      (updateStudentBalance { db with payments := db.payments.save { payment with status := target } }
        schoolId payment.studentId).2

/-! ## Requests -/

inductive DisputeErrorCode
  | validationError
  | notFound
  | disputeAlreadyExists
  | unauthorized
  | invalidDisputeTransition
  | schemaValidation
  | duplicateKey
  deriving DecidableEq, Repr

/-- A refused request: the HTTP status, the code and the text. -/
structure DisputeError where
  status : Nat
  code : DisputeErrorCode
  error : String
  deriving DecidableEq, Repr

/-- An optional contact field, after the check of its format. -/
inductive ContactField
  | absent
  | malformed
  | wellFormed
  deriving DecidableEq, Repr

/-- An optional field that should hold an array. -/
inductive EvidenceField
  | absent
  | notArray
  | array (items : List Evidence)
  deriving DecidableEq, Repr

def EvidenceField.items : EvidenceField → List Evidence
  | .array items => items
  | .absent | .notArray => []

/-- The body of `POST /api/disputes`. -/
structure FlagBody where
  txHash : Option String
  studentId : Option String
  raisedBy : Option String
  reason : Option String
  txReference : Option String := none
  evidence : EvidenceField := .absent
  raisedByEmail : ContactField := .absent
  raisedByPhone : ContactField := .absent
  deriving DecidableEq, Repr

/-- The signed-in user of a request. -/
structure Actor where
  email : Option String := none
  id : Option String := none
  sub : Option String := none
  deriving DecidableEq, Repr

/-- The body of `PATCH /api/disputes/:id/resolve`. -/
structure ResolveBody where
  resolutionNote : Option String
  status : Option String
  assignedTo : Option String := none
  evidence : EvidenceField := .absent
  deriving DecidableEq, Repr

/-- A field that is there and not the empty string. -/
def present (field : Option String) : Option String := field.filter (· ≠ "")

/-- `user?.email || user?.id || user?.sub` -/
def Actor.resolvedBy (user : Actor) : Option String :=
  (present user.email).or ((present user.id).or (present user.sub))

/-! ## flagDispute -/

def badRequest (error : String) : DisputeError := ⟨400, .validationError, error⟩

/-- The checks of `flagDispute`; the result is the document to create. -/
def checkFlagDispute (s : DisputeStore) (newId schoolId : String) (body : FlagBody) :
    Except DisputeError Dispute := do
  let missing := badRequest "txHash, studentId, raisedBy, and reason are all required."
  let txHash ← orThrow (present body.txHash) missing
  let studentId ← orThrow (present body.studentId) missing
  let raisedBy ← orThrow (present body.raisedBy) missing
  let reason ← orThrow (present body.reason) missing
  require (jsTrim raisedBy != "") (badRequest "raisedBy must not be blank.")
  require (jsTrim reason != "") (badRequest "reason must not be blank.")
  require (decide (jsLength (jsTrim raisedBy) ≤ 200))
    (badRequest "raisedBy must not exceed 200 characters.")
  require (decide (jsLength (jsTrim reason) ≤ 1000))
    (badRequest "reason must not exceed 1000 characters.")
  require (body.raisedByEmail != .malformed)
    (badRequest "raisedByEmail must be a valid email address.")
  require (body.raisedByPhone != .malformed)
    (badRequest "raisedByPhone must be an E.164 phone number, e.g. +2348012345678.")
  let payment ← orThrow (s.db.findPaymentByTx schoolId txHash)
    ⟨404, .notFound, "Payment not found for this school."⟩
  require (payment.studentId == studentId) ⟨404, .notFound, "Payment not found for this student."⟩
  forbid (s.findActiveDispute schoolId txHash) fun _ =>
    ⟨409, .disputeAlreadyExists, "An active dispute already exists for this payment."⟩
  require (body.evidence != .notArray) (badRequest "evidence must be an array.")
  pure {
    id := newId
    schoolId := schoolId
    txHash := txHash
    studentId := studentId
    txReference := (present body.txReference).map jsTrim
    raisedBy := jsTrim raisedBy
    reason := jsTrim reason
    evidence := body.evidence.items
    status := .opened
    assignedTo := none
    resolvedBy := none
    resolutionNote := none
    resolvedAt := none }

/-- The writes of `flagDispute`: the dispute, the hold, the payment. -/
def createDispute (s : DisputeStore) (dispute : Dispute) :
    Except DisputeError (Dispute × DisputeStore) := do
  require dispute.schemaValid ⟨500, .schemaValidation, "Dispute validation failed"⟩
  let disputes ← orThrow (s.disputes.create dispute)
    ⟨500, .duplicateKey, "E11000 duplicate key error"⟩
  let s := { s with disputes := disputes }.setHold dispute.schoolId dispute.studentId true
  pure (dispute, { s with db := syncPaymentStatus s.db dispute.schoolId dispute.txHash .opened })

/-- Open a dispute on a payment. -/
def flagDispute (s : DisputeStore) (newId schoolId : String) (body : FlagBody) :
    Except DisputeError (Dispute × DisputeStore) := do
  let dispute ← checkFlagDispute s newId schoolId body
  createDispute s dispute

/-! ## resolveDispute -/

/-- What the read half of `resolveDispute` hands to the write half. -/
structure DisputeTransition where
  disputeId : String
  schoolId : String
  source : DisputeStatus
  newStatus : DisputeStatus
  resolvedBy : String
  resolutionNote : String
  assignedTo : Option String
  evidence : List Evidence
  deriving DecidableEq, Repr

/-- The checks of `resolveDispute`.  A status that is none of the four counts as
`resolved`. -/
def checkResolveDispute (s : DisputeStore) (disputeId schoolId : String) (user : Actor)
    (body : ResolveBody) : Except DisputeError DisputeTransition := do
  let resolvedBy ← orThrow user.resolvedBy
    ⟨401, .unauthorized, "Authentication required to transition a dispute."⟩
  let resolutionNote ← orThrow (present body.resolutionNote)
    (badRequest "resolutionNote is required.")
  require (jsTrim resolutionNote != "") (badRequest "resolutionNote must not be blank.")
  require (decide (jsLength (jsTrim resolutionNote) ≤ 1000))
    (badRequest "resolutionNote must not exceed 1000 characters.")
  let current ← orThrow (s.findDispute disputeId schoolId) ⟨404, .notFound, "Dispute not found."⟩
  let newStatus := (body.status.bind DisputeStatus.ofName).getD .resolved
  require (isValidTransition current.status newStatus) ⟨422, .invalidDisputeTransition,
    "Transition from \"" ++ current.status.name ++ "\" to \"" ++ newStatus.name ++
      "\" is not allowed."⟩
  pure {
    disputeId := disputeId
    schoolId := schoolId
    source := current.status
    newStatus := newStatus
    resolvedBy := resolvedBy
    resolutionNote := jsTrim resolutionNote
    assignedTo := (present body.assignedTo).map jsTrim
    evidence := body.evidence.items }

/-- The document after the update. -/
def transitioned (dispute : Dispute) (tr : DisputeTransition) (now : Nat) : Dispute :=
  { dispute with
    status := tr.newStatus
    resolvedBy := some tr.resolvedBy
    resolutionNote := some tr.resolutionNote
    resolvedAt := if tr.newStatus.terminal then some now else none
    assignedTo := tr.assignedTo.or dispute.assignedTo
    evidence := dispute.evidence ++ tr.evidence }

/-- The writes of `resolveDispute`.  The update addresses the dispute by its id, whatever
status it has by then. -/
def applyTransition (s : DisputeStore) (tr : DisputeTransition) (now : Nat) :
    Except DisputeError (Dispute × DisputeStore) := do
  let dispute ← orThrow (s.findDispute tr.disputeId tr.schoolId)
    ⟨404, .notFound, "Dispute not found."⟩
  let updated := transitioned dispute tr now
  let disputes ← orThrow (s.disputes.update updated)
    ⟨500, .duplicateKey, "E11000 duplicate key error"⟩
  let s := { s with disputes := disputes }
  let s := if tr.newStatus.terminal then s.setHold tr.schoolId updated.studentId false else s
  pure (updated, { s with db := syncPaymentStatus s.db tr.schoolId updated.txHash tr.newStatus })

/-- Move a dispute to another status. -/
def resolveDispute (s : DisputeStore) (disputeId schoolId : String) (user : Actor)
    (body : ResolveBody) (now : Nat) : Except DisputeError (Dispute × DisputeStore) := do
  let tr ← checkResolveDispute s disputeId schoolId user body
  applyTransition s tr now

/-! ## Operations -/

/-- A request to one of the two handlers. -/
inductive DisputeOp
  | flagDispute (newId schoolId : String) (body : FlagBody)
  | resolveDispute (disputeId schoolId : String) (user : Actor) (body : ResolveBody) (now : Nat)

/-- Handle the request. -/
def DisputeOp.run (s : DisputeStore) : DisputeOp → Except DisputeError (Dispute × DisputeStore)
  | .flagDispute newId schoolId body => StellarEduPay.flagDispute s newId schoolId body
  | .resolveDispute disputeId schoolId user body now =>
      StellarEduPay.resolveDispute s disputeId schoolId user body now

/-- The store after a request, which a refused one leaves unchanged. -/
def DisputeOp.apply (s : DisputeStore) (op : DisputeOp) : DisputeStore :=
  match op.run s with
  | .error _ => s
  | .ok (_, s') => s'

/-- A store with `paidStudent` and `paidRow` and no dispute, the concrete runs' start. -/
def undisputed : DisputeStore where
  db := paidDb
  disputes := ⟨Collection.empty, by simp [Collection.empty]⟩
  disputeHold := fun _ => false

/-- The parent of `paidStudent` disputes the payment of transaction `txHash`. -/
def parentDisputes (txHash : String) : FlagBody where
  txHash := some txHash
  studentId := some "STU001"
  raisedBy := some "parent"
  reason := some "charged twice"

/-- The dispute this opens on `paidRow`. -/
def openedDispute : Dispute where
  id := "d1"
  schoolId := "SCH"
  txHash := "tx1"
  studentId := "STU001"
  txReference := none
  raisedBy := "parent"
  reason := "charged twice"
  evidence := []
  status := .opened
  assignedTo := none
  resolvedBy := none
  resolutionNote := none
  resolvedAt := none

/-- The school's administrator. -/
def administrator : Actor where
  email := some "admin@school"

/-- The body of the decision to move a dispute. -/
def decision (status : String) : ResolveBody where
  resolutionNote := some "checked"
  status := some status

def parentFlags (newId txHash : String) : DisputeOp :=
  .flagDispute newId "SCH" (parentDisputes txHash)

def administratorMoves (disputeId status : String) : DisputeOp :=
  .resolveDispute disputeId "SCH" administrator (decision status) 1

/-! ## What an accepted request checked and wrote -/

section Spec
variable {s t : DisputeStore} {schoolId : String} {dispute updated : Dispute}

theorem checkFlagDispute_ok {newId : String} {body : FlagBody}
    (h : checkFlagDispute s newId schoolId body = .ok dispute) :
    (∃ payment, s.db.findPaymentByTx schoolId dispute.txHash = some payment ∧
        payment.studentId = dispute.studentId) ∧
      s.findActiveDispute schoolId dispute.txHash = none ∧
      dispute.id = newId ∧ dispute.schoolId = schoolId ∧ dispute.status = .opened := by
  simp only [checkFlagDispute, orThrow_bind_ok_iff, require_bind_ok_iff, forbid_bind_ok_iff,
    pure_ok_iff, beq_iff_eq] at h
  obtain ⟨_, -, _, -, _, -, _, -, -, -, -, -, -, -, payment, hpay, hstu, hnone, -, rfl⟩ := h
  exact ⟨⟨payment, hpay, hstu⟩, hnone, rfl, rfl, rfl⟩

@[simp] theorem setHold_db (studentId : String) (hold : Bool) :
    (s.setHold schoolId studentId hold).db = s.db := by
  unfold DisputeStore.setHold
  split <;> rfl

/-- The hold of a student that exists, and of nobody else. -/
theorem setHold_disputeHold (studentId : String) (hold : Bool) (o : String × String) :
    (s.setHold schoolId studentId hold).disputeHold o =
      if o = (schoolId, studentId) ∧ (s.db.findStudent schoolId studentId).isSome = true then hold
      else s.disputeHold o := by
  unfold DisputeStore.setHold
  cases s.db.findStudent schoolId studentId with
  | none => simp
  | some student => simp [update_apply]

/-- The hold and the disputes are written independently. -/
theorem setHold_with_disputes (disputes : DisputeCollection) (studentId : String) (hold : Bool) :
    ({ s with disputes := disputes } : DisputeStore).setHold schoolId studentId hold =
      { s.setHold schoolId studentId hold with disputes := disputes } := by
  unfold DisputeStore.setHold
  dsimp only
  cases s.db.findStudent schoolId studentId with
  | none => rfl
  | some student => rfl

theorem createDispute_ok_iff :
    createDispute s dispute = .ok (updated, t) ↔
      ∃ disputes, dispute.schemaValid = true ∧ s.disputes.create dispute = some disputes ∧
        updated = dispute ∧
        t = { s.setHold dispute.schoolId dispute.studentId true with
          disputes := disputes
          db := syncPaymentStatus s.db dispute.schoolId dispute.txHash .opened } := by
  simp only [createDispute, require_bind_ok_iff, orThrow_bind_ok_iff, pure_ok_iff, Prod.mk.injEq,
    setHold_with_disputes, setHold_db]
  constructor
  · rintro ⟨hvalid, disputes, hcreate, rfl, rfl⟩
    exact ⟨disputes, hvalid, hcreate, rfl, rfl⟩
  · rintro ⟨disputes, hvalid, hcreate, rfl, rfl⟩
    exact ⟨hvalid, disputes, hcreate, rfl, rfl⟩

theorem checkResolveDispute_ok {disputeId : String} {user : Actor} {body : ResolveBody}
    {tr : DisputeTransition} (h : checkResolveDispute s disputeId schoolId user body = .ok tr) :
    ∃ current, s.findDispute disputeId schoolId = some current ∧ tr.source = current.status ∧
      tr.newStatus ∈ current.status.transitions ∧ tr.disputeId = disputeId ∧
      tr.schoolId = schoolId := by
  simp only [checkResolveDispute, orThrow_bind_ok_iff, require_bind_ok_iff, pure_ok_iff,
    isValidTransition, decide_eq_true_eq] at h
  obtain ⟨_, -, _, -, -, -, current, hfind, hvalid, rfl⟩ := h
  exact ⟨current, hfind, rfl, hvalid, rfl, rfl⟩

theorem applyTransition_ok_iff {tr : DisputeTransition} {now : Nat} :
    applyTransition s tr now = .ok (updated, t) ↔
      ∃ dispute disputes, s.findDispute tr.disputeId tr.schoolId = some dispute ∧
        s.disputes.update (transitioned dispute tr now) = some disputes ∧
        updated = transitioned dispute tr now ∧
        t = { (if tr.newStatus.terminal then s.setHold tr.schoolId dispute.studentId false else s) with
          disputes := disputes
          db := syncPaymentStatus s.db tr.schoolId dispute.txHash tr.newStatus } := by
  -- the store the transition starts from, with the disputes taken out
  have hstore : ∀ (disputes : DisputeCollection) (studentId : String),
      (if tr.newStatus.terminal then
        ({ s with disputes := disputes } : DisputeStore).setHold tr.schoolId studentId false
        else { s with disputes := disputes }) =
      { (if tr.newStatus.terminal then s.setHold tr.schoolId studentId false else s) with
        disputes := disputes } := by
    intro disputes studentId
    split
    · exact setHold_with_disputes ..
    · rfl
  have hdb : ∀ studentId : String,
      (if tr.newStatus.terminal then s.setHold tr.schoolId studentId false else s).db = s.db := by
    intro studentId
    split
    · exact setHold_db ..
    · rfl
  simp only [applyTransition, orThrow_bind_ok_iff, pure_ok_iff, Prod.mk.injEq]
  constructor
  · rintro ⟨dispute, hfind, disputes, hup, rfl, rfl⟩
    refine ⟨dispute, disputes, hfind, hup, rfl, ?_⟩
    rw [hstore, hdb]
    rfl
  · rintro ⟨dispute, disputes, hfind, hup, rfl, rfl⟩
    refine ⟨dispute, hfind, disputes, hup, rfl, ?_⟩
    rw [hstore, hdb]
    rfl

theorem findDispute_mem {id : String} (h : s.findDispute id schoolId = some dispute) :
    dispute ∈ s.disputes.docs ∧ dispute.id = id ∧ dispute.schoolId = schoolId := by
  have hsat := s.disputes.findOne_sat h
  simp only [Bool.and_eq_true, beq_iff_eq] at hsat
  exact ⟨s.disputes.mem_of_findOne h, hsat⟩

end Spec

/-! ## The payment's side -/

section Sync
variable {db : Db} {schoolId txHash : String} {st : DisputeStatus} {row : Payment}

theorem syncPaymentStatus_none (h : db.findPaymentByTx schoolId txHash = none) :
    syncPaymentStatus db schoolId txHash st = db := by
  simp only [syncPaymentStatus, h]

/-- The one row that is written; a row in the target status already is written as it was. -/
theorem syncPaymentStatus_payments (h : db.findPaymentByTx schoolId txHash = some row) :
    (syncPaymentStatus db schoolId txHash st).payments =
      db.payments.save { row with status := st.paymentStatus } := by
  simp only [syncPaymentStatus, h]
  split
  · rename_i hsame
    rw [← hsame]
    exact (db.payments.save_of_mem (Db.findPayment_mem h)).symm
  · exact updateStudentBalance_payments _ _ _

end Sync

/-! ## Accepted requests -/

section Accepted
variable {s s' : DisputeStore} {newId disputeId schoolId : String} {flag : FlagBody} {user : Actor}
  {body : ResolveBody} {now : Nat} {d dispute : Dispute} {tr tr' : DisputeTransition}

/-- `flagDispute` gets through its checks and stores `dispute`. -/
structure FlagAccepted (s : DisputeStore) (newId schoolId : String) (flag : FlagBody)
    (dispute : Dispute) : Prop where
  check : checkFlagDispute s newId schoolId flag = .ok dispute
  valid : dispute.schemaValid = true
  fresh : (s.disputes.create dispute).isSome = true

/-- `resolveDispute` gets through its checks and moves `dispute` along `tr`. -/
structure ResolveAccepted (s : DisputeStore) (disputeId schoolId : String) (user : Actor)
    (body : ResolveBody) (now : Nat) (tr : DisputeTransition) (dispute : Dispute) : Prop where
  check : checkResolveDispute s disputeId schoolId user body = .ok tr
  found : s.findDispute tr.disputeId tr.schoolId = some dispute
  fits : ¬ s.disputes.Clashes (transitioned dispute tr now)

theorem FlagAccepted.unique (h : FlagAccepted s newId schoolId flag dispute)
    (h' : FlagAccepted s newId schoolId flag d) : d = dispute :=
  Except.ok.inj (h'.check.symm.trans h.check)

theorem ResolveAccepted.unique (h : ResolveAccepted s disputeId schoolId user body now tr dispute)
    (h' : ResolveAccepted s disputeId schoolId user body now tr' d) : tr' = tr ∧ d = dispute := by
  obtain rfl : tr' = tr := Except.ok.inj (h'.check.symm.trans h.check)
  exact ⟨rfl, Option.some.inj (h'.found.symm.trans h.found)⟩

/-- A dispute that ends was active. -/
theorem ResolveAccepted.active_of_terminal
    (h : ResolveAccepted s disputeId schoolId user body now tr dispute)
    (hterminal : tr.newStatus.terminal = true) : dispute.status.active = true := by
  obtain ⟨current, hfind, -, hedge, hid, hschool⟩ := checkResolveDispute_ok h.check
  have hfound := h.found
  rw [hid, hschool, hfind] at hfound
  cases hfound
  revert hedge hterminal
  cases dispute.status <;> cases tr.newStatus <;> decide

theorem flagDispute_ok_iff :
    flagDispute s newId schoolId flag = .ok (d, s') ↔
      ∃ disputes, FlagAccepted s newId schoolId flag d ∧ s.disputes.create d = some disputes ∧
        s' = { s.setHold d.schoolId d.studentId true with
          disputes := disputes
          db := syncPaymentStatus s.db d.schoolId d.txHash .opened } := by
  simp only [flagDispute, bind_ok_iff, createDispute_ok_iff]
  constructor
  · rintro ⟨_, hc, disputes, hvalid, hcreate, rfl, rfl⟩
    exact ⟨disputes, ⟨hc, hvalid, by simp [hcreate]⟩, hcreate, rfl⟩
  · rintro ⟨disputes, ⟨hc, hvalid, -⟩, hcreate, rfl⟩
    exact ⟨d, hc, disputes, hvalid, hcreate, rfl, rfl⟩

theorem resolveDispute_ok_iff :
    resolveDispute s disputeId schoolId user body now = .ok (d, s') ↔
      ∃ tr dispute disputes, ResolveAccepted s disputeId schoolId user body now tr dispute ∧
        s.disputes.update (transitioned dispute tr now) = some disputes ∧
        d = transitioned dispute tr now ∧
        s' = { (if tr.newStatus.terminal then s.setHold tr.schoolId dispute.studentId false else s) with
          disputes := disputes
          db := syncPaymentStatus s.db tr.schoolId dispute.txHash tr.newStatus } := by
  simp only [resolveDispute, bind_ok_iff, applyTransition_ok_iff]
  constructor
  · rintro ⟨tr, hc, dispute, disputes, hfind, hup, rfl, rfl⟩
    exact ⟨tr, dispute, disputes, ⟨hc, hfind, s.disputes.not_clashes_of_update hup⟩, hup, rfl, rfl⟩
  · rintro ⟨tr, dispute, disputes, ⟨hc, hfind, -⟩, hup, rfl, rfl⟩
    exact ⟨tr, hc, dispute, disputes, hfind, hup, rfl, rfl⟩

theorem not_flagAccepted {e : DisputeError}
    (h : DisputeOp.run s (.flagDispute newId schoolId flag) = .error e) (d : Dispute) :
    ¬ FlagAccepted s newId schoolId flag d := by
  intro hacc
  obtain ⟨disputes, hcreate⟩ := Option.isSome_iff_exists.mp hacc.fresh
  have hok := flagDispute_ok_iff.mpr ⟨disputes, hacc, hcreate, rfl⟩
  exact absurd (hok.symm.trans h) (by simp)

theorem not_resolveAccepted {e : DisputeError}
    (h : DisputeOp.run s (.resolveDispute disputeId schoolId user body now) = .error e)
    (tr : DisputeTransition) (d : Dispute) :
    ¬ ResolveAccepted s disputeId schoolId user body now tr d := by
  intro hacc
  obtain ⟨disputes, hup⟩ := s.disputes.update_isSome hacc.fits
  have hok := resolveDispute_ok_iff.mpr ⟨tr, d, disputes, hacc, hup, rfl, rfl⟩
  exact absurd (hok.symm.trans h) (by simp)

theorem DisputeOp.apply_ok {op : DisputeOp} (h : op.run s = .ok (d, s')) : op.apply s = s' := by
  simp only [DisputeOp.apply, h]

theorem DisputeOp.apply_error {op : DisputeOp} {e : DisputeError} (h : op.run s = .error e) :
    op.apply s = s := by
  simp only [DisputeOp.apply, h]

/-- **What an accepted request does to the payment**: its status follows the dispute's. -/
theorem DisputeOp.run_db {op : DisputeOp} (h : op.run s = .ok (d, s')) :
    s'.db = syncPaymentStatus s.db d.schoolId d.txHash d.status := by
  cases op with
  | flagDispute newId schoolId flag =>
    obtain ⟨disputes, hacc, -, rfl⟩ := flagDispute_ok_iff.mp h
    obtain ⟨-, -, -, -, hst⟩ := checkFlagDispute_ok hacc.check
    rw [hst]
  | resolveDispute disputeId schoolId user body now =>
    obtain ⟨tr, dispute, disputes, hacc, -, rfl, rfl⟩ := resolveDispute_ok_iff.mp h
    obtain ⟨-, -, hschool⟩ := findDispute_mem hacc.found
    simp only [transitioned, hschool]

end Accepted

end StellarEduPay

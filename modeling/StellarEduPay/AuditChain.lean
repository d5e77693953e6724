import Mathlib.Data.List.Sort
import Mathlib.Logic.Function.Basic
import StellarEduPay.Runs

/-! # The audit chain (`services/auditService.js`, `models/auditLogModel.js`)

`logAudit` reserves a sequence number on a counter document, reads the hash of the entry before it,
and inserts the entry; calls run side by side, one store step at a time.  `verifyAuditChain` reads
the documents of a school back in sequence and recomputes their hashes.

The collection keeps the paths of the schema only, and `seq` is none of them.  The reservation is an
upsert that filters by it, which Mongoose refuses; `logAudit` swallows the error, so no call stores
anything.  The hash is a parameter.
-/
namespace StellarEduPay
open Runs Function

/-! ## The collection -/

/-- The paths of `auditLogSchema`, with those its time stamps add. -/
def auditSchemaPaths : List String :=
  ["schoolId", "action", "performedBy", "targetId", "targetType", "details", "result",
    "errorMessage", "ipAddress", "userAgent", "prevHash", "entryHash", "archived", "createdAt",
    "updatedAt"]

/-- The `enum` of `targetType`. -/
def auditTargetTypes : List String :=
  ["student", "payment", "fee", "school", "user", "webhook", "academicPeriod", "auth"]

/-- A document of the collection, with every field the code writes; `details` by its canonical
JSON. -/
structure AuditDoc where
  schoolId : String
  seq : Option Nat
  action : Option String
  performedBy : Option String
  targetId : Option String
  targetType : Option String
  details : Option String
  result : Option String
  errorMessage : Option String
  ipAddress : Option String
  userAgent : Option String
  severity : Option String
  prevHash : Option String
  entryHash : Option String
  archived : Bool
  createdAt : Nat
  updatedAt : Nat
  deriving DecidableEq, Repr

namespace AuditDoc

/-- Fields without a path are dropped. -/
def strict (d : AuditDoc) : AuditDoc :=
  { d with
    seq := if "seq" ∈ auditSchemaPaths then d.seq else none
    severity := if "severity" ∈ auditSchemaPaths then d.severity else none }

/-- What an upsert inserts for a school. -/
def defaults (schoolId : String) (now : Nat) : AuditDoc :=
  ⟨schoolId, none, none, none, none, none, some "{}", some "success", none, none, none, none, none,
    none, false, now, now⟩

/-- `{ $inc: { seq: 1 } }`, as far as the schema has the path. -/
def incSeq (now : Nat) (d : AuditDoc) : AuditDoc :=
  { d with
    seq := if "seq" ∈ auditSchemaPaths then some (d.seq.getD 0 + 1) else d.seq
    updatedAt := now }

/-- The validators of the schema. -/
def valid (d : AuditDoc) : Bool :=
  d.schoolId ≠ "" && [d.action, d.performedBy, d.targetId].all (·.any (· ≠ "")) &&
    d.targetType.any (· ∈ auditTargetTypes) && d.result.all (· ∈ ["success", "failure"])

end AuditDoc

/-- The fields that are hashed. -/
structure EntryFields where
  schoolId : String
  action : Option String
  performedBy : Option String
  targetId : Option String
  targetType : Option String
  details : Option String
  result : Option String
  errorMessage : Option String
  ipAddress : Option String
  prevHash : Option String
  createdAt : Nat
  deriving DecidableEq, Repr

/-- The documents of a school. -/
def schoolDocs (schoolId : String) (docs : List AuditDoc) : List AuditDoc :=
  docs.filter (·.schoolId = schoolId)

/-- Change the first document that meets `p`. -/
def updateFirst (p : AuditDoc → Bool) (f : AuditDoc → AuditDoc) :
    List AuditDoc → Option (AuditDoc × List AuditDoc)
  | [] => none
  | d :: ds =>
    if p d then some (f d, f d :: ds)
    else (updateFirst p f ds).map fun (x, ds') => (x, d :: ds')

/-- What Mongoose throws at an upsert whose filter has a path that the schema lacks. -/
def strictModeError (path : String) : String :=
  "Path \"" ++ path ++ "\" is not in schema, strict mode is `true`, and upsert is `true`."

/-- `_reserveSequence`, with the documents after it. -/
def reserveSequence (schoolId : String) (now : Nat) (docs : List AuditDoc) :
    Except String (Option Nat × List AuditDoc) :=
  if "seq" ∉ auditSchemaPaths then .error (strictModeError "seq")
  else
    match updateFirst (fun d => d.schoolId = schoolId ∧ d.seq = none) (·.incSeq now) docs with
    | some (counter, docs') => .ok (counter.seq, docs')
    | none =>
      let counter := (AuditDoc.defaults schoolId now).incSeq now
      .ok (counter.seq, docs ++ [counter])

/-- `_getHashAtSeq`; of no number, `NaN` is asked for, which no document has. -/
def getHashAtSeq (schoolId : String) (seq : Option Nat) (docs : List AuditDoc) : Option String :=
  match seq with
  | none => none
  | some 0 => none
  | some n => (docs.find? fun d => d.schoolId = schoolId ∧ d.seq = some n).bind fun prev =>
      prev.entryHash.filter (· ≠ "")

/-- The arguments of `logAudit`. -/
structure AuditArgs where
  schoolId : String
  action : String
  performedBy : String
  targetId : String
  targetType : String
  details : String
  result : String
  errorMessage : Option String
  ipAddress : Option String
  userAgent : Option String
  severity : Option String
  deriving DecidableEq, Repr

section
variable (entryHash : EntryFields → String)

/-- `_computeEntryHash` of a stored document. -/
def AuditDoc.computeEntryHash (d : AuditDoc) : String :=
  entryHash ⟨d.schoolId, d.action, d.performedBy, d.targetId, d.targetType, d.details, d.result,
    d.errorMessage, d.ipAddress, d.prevHash, d.createdAt⟩

/-- The document `logAudit` creates. -/
def auditEntry (args : AuditArgs) (seq : Option Nat) (prevHash : Option String) (createdAt : Nat) :
    AuditDoc :=
  { schoolId := args.schoolId
    seq := seq
    action := some args.action
    performedBy := some args.performedBy
    targetId := some args.targetId
    targetType := some args.targetType
    details := some args.details
    result := some args.result
    errorMessage := args.errorMessage
    ipAddress := args.ipAddress
    userAgent := args.userAgent
    severity := args.severity.filter (· ≠ "")
    prevHash := prevHash
    entryHash := some (entryHash ⟨args.schoolId, some args.action, some args.performedBy,
      some args.targetId, some args.targetType, some args.details, some args.result,
      args.errorMessage, args.ipAddress, prevHash, createdAt⟩)
    archived := false
    createdAt := createdAt
    updatedAt := createdAt }

/-- `AuditLog.create`: what is stored; no index of the collection but that of `_id` is unique. -/
def createEntry (d : AuditDoc) : Option AuditDoc :=
  if d.valid then some d.strict else none

/-- The loop of `verifyAuditChain`: the documents that are reported, with the reason. -/
def verifyEntries : Option String → List AuditDoc → List (AuditDoc × String)
  | _, [] => []
  | prevHash, d :: ds =>
    let rest := verifyEntries d.entryHash ds
    if some (d.computeEntryHash entryHash) ≠ d.entryHash then (d, "entryHash_mismatch") :: rest
    else if d.prevHash ≠ prevHash then (d, "chain_link_broken") :: rest
    else rest

/-- The order of `sort({ seq: 1 })`; what has no number comes first. -/
def seqKey (d : AuditDoc) : Nat := d.seq.elim 0 (· + 1)

/-- `verifyAuditChain`, its `broken`; `ok` is that there are none. -/
def verifyAuditChain (schoolId : String) (limit : Nat) (docs : List AuditDoc) :
    List (AuditDoc × String) :=
  verifyEntries entryHash none
    (((schoolDocs schoolId docs).insertionSort (seqKey · ≤ seqKey ·)).take limit)

/-! ## Calls side by side -/

/-- Where a call of `logAudit` is.  Its loop makes one attempt: only a duplicate key makes it try
again, and any other error is counted and swallowed. -/
inductive AuditPc
  | reserving
  | linking (seq : Option Nat)
  | creating (seq : Option Nat) (prevHash : Option String) (createdAt : Nat)
  | returned
  deriving DecidableEq, Repr

structure AuditCall where
  args : AuditArgs
  pc : AuditPc
  deriving DecidableEq, Repr

/-- The collection in store order, the calls, `_auditFailureCount`, and a ghost: the entries as they
were inserted, with their calls. -/
structure AuditSystem where
  docs : List AuditDoc
  call : Nat → Option AuditCall
  failures : Nat
  inserted : List (Nat × AuditDoc)

inductive AuditAction
  | logAudit (c : Nat) (args : AuditArgs)
  | reserve (c now : Nat)
  | link (c now : Nat)
  | create (c : Nat)
  deriving DecidableEq, Repr

/-- No call was made, and the log is empty. -/
def AuditSystem.init : AuditSystem := ⟨[], fun _ => none, 0, []⟩

def AuditSystem.goto (s : AuditSystem) (c : Nat) (args : AuditArgs) (pc : AuditPc) : AuditSystem :=
  { s with call := update s.call c (some ⟨args, pc⟩) }

/-- One step of a call. -/
def auditStep (s : AuditSystem) : AuditAction → Option AuditSystem
  | .logAudit c args =>
    match s.call c with
    | none => some (s.goto c args .reserving)
    | some _ => none
  | .reserve c now =>
    match s.call c with
    | some ⟨args, .reserving⟩ =>
      match reserveSequence args.schoolId now s.docs with
      | .error _ => some ({ s with failures := s.failures + 1 }.goto c args .returned)
      | .ok (seq, docs) => some ({ s with docs := docs }.goto c args (.linking seq))
    | _ => none
  | .link c now =>
    match s.call c with
    | some ⟨args, .linking seq⟩ =>
      some (s.goto c args
        (.creating seq (getHashAtSeq args.schoolId (seq.map (· - 1)) s.docs) now))
    | _ => none
  | .create c =>
    match s.call c with
    | some ⟨args, .creating seq prevHash createdAt⟩ =>
      match createEntry (auditEntry entryHash args seq prevHash createdAt) with
      | some d =>
        some ({ s with docs := s.docs ++ [d], inserted := s.inserted ++ [(c, d)] }.goto c args
          .returned)
      | none => some ({ s with failures := s.failures + 1 }.goto c args .returned)
    | _ => none

/-! ## One entry for each call -/

/-- An entry has the fields its call was given. -/
def AuditDoc.carries (d : AuditDoc) (args : AuditArgs) : Prop :=
  d.action = some args.action ∧ d.performedBy = some args.performedBy ∧
    d.targetId = some args.targetId ∧ d.targetType = some args.targetType ∧
    d.details = some args.details ∧ d.result = some args.result ∧
    d.errorMessage = args.errorMessage ∧ d.ipAddress = args.ipAddress ∧
    d.userAgent = args.userAgent ∧ d.severity = args.severity

/-- What the log of a school promises: every call that returned has inserted one entry with its own
fields, there is no other document and none has changed, the entries are numbered from 1 on, and the
chain verifies. -/
structure AuditAppended (schoolId : String) (s : AuditSystem) : Prop where
  entry : ∀ c args, s.call c = some ⟨args, .returned⟩ → args.schoolId = schoolId →
    ∃ d, s.inserted.filter (·.1 = c) = [(c, d)] ∧ d.carries args
  only : schoolDocs schoolId s.docs = schoolDocs schoolId (s.inserted.map Prod.snd)
  numbered : ((schoolDocs schoolId s.docs).map (·.seq)).Perm
    ((List.range (schoolDocs schoolId s.docs).length).map fun n => some (n + 1))
  verifies : ∀ limit, (schoolDocs schoolId s.docs).length ≤ limit →
    verifyAuditChain entryHash schoolId limit s.docs = []

/-- A call for the school has made its first store step. -/
def ReservedFor (schoolId : String) (s : AuditSystem) : Prop :=
  ∃ c x, s.call c = some x ∧ x.args.schoolId = schoolId ∧ x.pc ≠ .reserving

/-- Nothing is stored, and every call is about to be refused or has been. -/
structure AuditInv (s : AuditSystem) : Prop where
  docs : s.docs = []
  inserted : s.inserted = []
  calls : ∀ c x, s.call c = some x → x.pc = .reserving ∨ x.pc = .returned

variable {entryHash} {schoolId : String} {s s' : AuditSystem}

/-- **A reservation is refused**, whatever the collection holds. -/
theorem reserveSequence_refused (schoolId : String) (now : Nat) (docs : List AuditDoc) :
    reserveSequence schoolId now docs = .error (strictModeError "seq") :=
  if_pos (by decide)

namespace AuditInv

theorem init : AuditInv .init := ⟨rfl, rfl, fun _ _ hx => (nomatch hx)⟩

/-- A call begins, or is refused. -/
theorem goto (hinv : AuditInv s) {s₁ : AuditSystem} {c : Nat} {args : AuditArgs} {pc : AuditPc}
    (hdocs : s₁.docs = s.docs) (hinserted : s₁.inserted = s.inserted) (hcall : s₁.call = s.call)
    (hpc : pc = .reserving ∨ pc = .returned) : AuditInv (s₁.goto c args pc) where
  docs := hdocs.trans hinv.docs
  inserted := hinserted.trans hinv.inserted
  calls c' x hx := by
    rcases update_some_iff.mp hx with ⟨-, rfl⟩ | ⟨-, hx⟩
    · exact hpc
    · exact hinv.calls c' x (hcall ▸ hx)

/-- **One step keeps the invariant.** -/
theorem step (hinv : AuditInv s) {a : AuditAction} (hstep : auditStep entryHash s a = some s') :
    AuditInv s' := by
  cases a with
  | logAudit c args =>
    simp only [auditStep] at hstep
    split at hstep <;> cases hstep
    exact hinv.goto rfl rfl rfl (.inl rfl)
  | reserve c now =>
    simp only [auditStep, reserveSequence_refused] at hstep
    split at hstep <;> cases hstep
    exact hinv.goto rfl rfl rfl (.inr rfl)
  | link c now =>
    simp only [auditStep] at hstep
    split at hstep
    · rename_i hc
      rcases hinv.calls c _ hc with hpc | hpc <;> cases hpc
    · cases hstep
  | create c =>
    simp only [auditStep] at hstep
    split at hstep
    · rename_i hc
      rcases hinv.calls c _ hc with hpc | hpc <;> cases hpc
    · cases hstep

end AuditInv

/-- **Nothing is ever logged**, in any interleaving of any calls; so the log keeps its promise for a
school exactly as long as no call for it has made its first store step. -/
theorem audit_append_iff (h : Reach (auditStep entryHash) Free .init s) :
    s.docs = [] ∧ (AuditAppended entryHash schoolId s ↔ ¬ ReservedFor schoolId s) := by
  have hinv : AuditInv s := h.invariant .init fun hinv _ hstep => hinv.step hstep
  refine ⟨hinv.docs, fun hkept ⟨c, ⟨args, pc⟩, hc, hschool, hpc⟩ => ?_, fun hnot => ?_⟩
  · obtain rfl : pc = .returned := (hinv.calls c _ hc).resolve_left hpc
    obtain ⟨d, hd, -⟩ := hkept.entry c args hc hschool
    rw [hinv.inserted] at hd
    cases hd
  · constructor
    · intro c args hc hschool
      exact absurd ⟨c, _, hc, hschool, by simp⟩ hnot
    · rw [hinv.docs, hinv.inserted]
      rfl
    · simp [hinv.docs, schoolDocs]
    · intro limit _
      simp [verifyAuditChain, hinv.docs, schoolDocs, verifyEntries]

end

/-- An entry of `verifyPayment`. -/
def verifyArgs : AuditArgs :=
  ⟨"SCH-1", "payment_verify", "admin", "TX1", "payment", "\x7b\"amount\":10\x7d", "success", none,
    none, none, none⟩

/-- Another school's call is none of this school's business. -/
theorem audit_append_iff_other : ∃ s,
    exec (auditStep fun f => f.schoolId) .init [.logAudit 0 verifyArgs, .reserve 0 1] = some s ∧
      s.failures = 1 ∧ s.docs = [] ∧
      (AuditAppended (fun f => f.schoolId) "SCH-1" s ↔ ¬ ReservedFor "SCH-1" s) ∧
      (AuditAppended (fun f => f.schoolId) "SCH-2" s ↔ ¬ ReservedFor "SCH-2" s) := by
  have hrun : (exec (auditStep fun f => f.schoolId) .init
      [.logAudit 0 verifyArgs, .reserve 0 1]).map (·.failures) = some 1 := by
    decide +kernel
  obtain ⟨s, hs, hfailures⟩ := Option.map_eq_some_iff.mp hrun
  obtain ⟨hdocs, hkept⟩ := @audit_append_iff (fun f => f.schoolId) "SCH-1" s (reach_of_exec hs)
  exact ⟨s, hs, hfailures, hdocs, hkept, (audit_append_iff (reach_of_exec hs)).2⟩

/-- One call returns and leaves no entry. -/
theorem audit_entry_not_stored : ¬ ∀ (entryHash : EntryFields → String) (schoolId : String)
    (s : AuditSystem), Reach (auditStep entryHash) Free .init s →
      AuditAppended entryHash schoolId s := by
  intro hclaim
  have hrun : (exec (auditStep fun f => f.schoolId) .init
      [.logAudit 0 verifyArgs, .reserve 0 1]).map (fun s => (s.call 0, s.inserted)) =
        some (some ⟨verifyArgs, .returned⟩, []) := by
    decide +kernel
  obtain ⟨s, hs, hview⟩ := Option.map_eq_some_iff.mp hrun
  obtain ⟨hcall, hinserted⟩ := Prod.mk.inj hview
  obtain ⟨d, hd, -⟩ := (hclaim _ "SCH-1" s (reach_of_exec hs)).entry 0 verifyArgs hcall rfl
  rw [hinserted] at hd
  cases hd

end StellarEduPay

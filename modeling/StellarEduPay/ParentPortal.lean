import Mathlib.Data.List.Dedup
import StellarEduPay.Checks
import StellarEduPay.Collection
import StellarEduPay.JsString
import StellarEduPay.Runs

/-! # The parent portal (`services/parentPortalService.js`, `middleware/parentAuth.js`,
`controllers/parentPortalController.js`)

A link carries a signed token, and a record with the hash of the token says which students the link can
see and whether the school has revoked it.  Staff issue and revoke links while parents use them; a
request of a parent is authenticated first and answered later.

Signing is ideal, as for the access tokens of the staff: a token is the key it was signed with and its
claims, and anything else is no token at all.
-/
namespace StellarEduPay
namespace ParentPortal
open Checks Runs Function

/-! ## Links -/

/-- The claims of a parent token that are read; `exp` in seconds. -/
structure LinkClaims where
  typ : Option String
  sid : Option String
  jti : Option String
  aud : Option String
  exp : Nat
  deriving DecidableEq

/-- A string in the place of a token; a token of the staff is one with another key. -/
inductive PortalToken
  | signed (key : String) (claims : LinkClaims)
  | garbage
  deriving DecidableEq

/-- The keys and hashes: `_signingKey`, `_hashToken`, `hashParentEmail`, and `DEFAULT_TTL_DAYS`. -/
structure PortalEnv where
  signingKey : String
  hashToken : PortalToken → String
  hashParentEmail : String → String
  defaultTtlDays : Nat

/-- A record behind a link; dates in milliseconds. -/
structure ParentAccessToken where
  schoolId : String
  tokenId : String
  tokenHash : String
  studentIds : List String
  parentEmailHash : Option String
  expiresAt : Nat
  revokedAt : Option Nat
  revokedBy : Option String
  revokeReason : Option String
  createdBy : String
  deriving DecidableEq

namespace ParentAccessToken

def key (r : ParentAccessToken) : String × String := (r.schoolId, r.tokenId)

/-- The required fields of the schema. -/
def schemaValid (r : ParentAccessToken) : Bool :=
  r.schoolId ≠ "" && r.tokenId ≠ "" && r.tokenHash ≠ "" && !r.studentIds.isEmpty && r.createdBy ≠ ""

/-- What a revocation sets. -/
def revoke (now : Nat) (revokedBy : String) (reason : Option String) (r : ParentAccessToken) :
    ParentAccessToken :=
  { r with revokedAt := some now, revokedBy := some revokedBy, revokeReason := reason }

end ParentAccessToken

abbrev ParentAccessTokens := Collection ParentAccessToken (String × String) ParentAccessToken.key

/-- The fields of a student that the portal reads or writes. -/
structure PortalStudent where
  schoolId : String
  studentId : String
  parentEmail : Option String
  parentEmailHash : Option String
  deleted : Bool
  reminderOptOut : Bool
  deriving DecidableEq

def PortalStudent.key (st : PortalStudent) : String × String := (st.schoolId, st.studentId)

abbrev PortalStudents := Collection PortalStudent (String × String) PortalStudent.key

/-- The body of `createLink`: no ids where none are given, `parseInt` applied to `ttlDays`. -/
structure LinkRequest where
  studentIds : List String
  parentEmail : Option String
  ttlDays : Option Int

structure PortalError where
  message : String
  code : String
  status : Nat
  deriving DecidableEq

def MAX_TTL_DAYS : Nat := 180

/-- `_ttlDays` -/
def ttlDays (env : PortalEnv) (requested : Option Int) : Nat :=
  match requested with
  | none => env.defaultTtlDays
  | some n => if n ≤ 0 then env.defaultTtlDays else min n.toNat MAX_TTL_DAYS

/-- `[...new Set(ids)]` -/
def unique (ids : List String) : List String := ids.reverse.dedup.reverse

/-- `_resolveStudents` -/
def resolveStudents (env : PortalEnv) (students : PortalStudents) (schoolId : String)
    (request : LinkRequest) : Except PortalError (List PortalStudent) :=
  if request.studentIds ≠ [] then
    let ids := unique request.studentIds
    let found := students.docs.filter fun st =>
      st.schoolId == schoolId && ids.contains st.studentId && !st.deleted
    if found.length ≠ ids.length then
      let unknown := ids.filter fun id => !(found.map PortalStudent.studentId).contains id
      .error ⟨"Unknown student(s): " ++ ", ".intercalate unknown, "STUDENT_NOT_FOUND", 404⟩
    else .ok found
  else
    match truthy request.parentEmail with
    | some email =>
      let found := students.docs.filter fun st =>
        st.schoolId == schoolId && st.parentEmailHash == some (env.hashParentEmail email) && !st.deleted
      if found.isEmpty then
        .error ⟨"No students found for this parent email", "STUDENT_NOT_FOUND", 404⟩
      else .ok found
    | none => .error ⟨"Provide studentIds or parentEmail", "VALIDATION_ERROR", 400⟩

def AUDIENCE : String := "parent-portal"

def DAY_SECONDS : Nat := 24 * 3600

/-- The token of a link, signed at `now`. -/
def mintToken (env : PortalEnv) (now days : Nat) (schoolId tokenId : String) : PortalToken :=
  .signed env.signingKey
    ⟨some "parent", some schoolId, some tokenId, some AUDIENCE, now / 1000 + days * DAY_SECONDS⟩

/-- `issueParentLink` up to the insertion: the record and the token, for a `tokenId` that was drawn. -/
def prepareLink (env : PortalEnv) (students : PortalStudents) (now : Nat) (schoolId : String)
    (request : LinkRequest) (tokenId createdBy : String) :
    Except PortalError (ParentAccessToken × PortalToken) := do
  let found ← resolveStudents env students schoolId request
  let days := ttlDays env request.ttlDays
  let token := mintToken env now days schoolId tokenId
  let email := (truthy request.parentEmail).or (found.findSome? fun st => truthy st.parentEmail)
  pure (⟨schoolId, tokenId, env.hashToken token, found.map PortalStudent.studentId,
    email.map env.hashParentEmail, now + days * DAY_SECONDS * 1000, none, none, none,
    (truthy (some createdBy)).getD "system"⟩, token)

def tokenMissing : PortalError := ⟨"Missing parent token", "PARENT_TOKEN_MISSING", 401⟩

def tokenInvalid : PortalError := ⟨"This link is invalid or has expired", "PARENT_TOKEN_INVALID", 401⟩

def jwtExpired : PortalError := ⟨"This link is invalid or has expired", "PARENT_TOKEN_EXPIRED", 401⟩

def linkRevoked : PortalError :=
  ⟨"This link has been revoked by the school", "PARENT_TOKEN_REVOKED", 401⟩

def linkExpired : PortalError := ⟨"This link has expired", "PARENT_TOKEN_EXPIRED", 401⟩

/-- `jwt.verify(token, _signingKey(), { audience })` -/
def jwtVerify (env : PortalEnv) (now : Nat) : PortalToken → Except PortalError LinkClaims
  | .garbage => .error tokenInvalid
  | .signed key claims =>
    if key ≠ env.signingKey then .error tokenInvalid
    else if claims.exp ≤ now / 1000 then .error jwtExpired
    else if claims.aud ≠ some AUDIENCE then .error tokenInvalid
    else .ok claims

/-- `verifyParentToken` -/
def verifyParentToken (env : PortalEnv) (records : ParentAccessTokens) (now : Nat)
    (raw : Option PortalToken) : Except PortalError ParentAccessToken := do
  let token ← orThrow raw tokenMissing
  let claims ← jwtVerify env now token
  require (claims.typ == some "parent") tokenInvalid
  let sid ← orThrow (truthy claims.sid) tokenInvalid
  let jti ← orThrow (truthy claims.jti) tokenInvalid
  let record ← orThrow (records.findOne fun r => r.schoolId == sid && r.tokenId == jti) tokenInvalid
  require (record.tokenHash == env.hashToken token) tokenInvalid
  require record.revokedAt.isNone linkRevoked
  require (decide (now < record.expiresAt)) linkExpired
  pure record

/-! ## The system -/

/-- `req.parent` -/
structure Parent where
  tokenId : String
  schoolId : String
  studentIds : List String
  expiresAt : Nat
  deriving DecidableEq

/-- A payment of the school, and whether a receipt was made for it. -/
structure PortalPayment where
  schoolId : String
  txHash : String
  studentId : String
  receipt : Bool
  deriving DecidableEq

/-- What a parent asks for. -/
inductive PortalCall
  | getOverview
  | getPaymentHistory (studentId : String)
  | getReceipt (txHash : String)
  | raiseDispute (txHash : String)
  | updatePreferences (studentId : String) (reminderOptOut : Bool)
  deriving DecidableEq

/-- What staff did: links issued, with their tokens, and revocations, as the audit log has them. -/
inductive PortalEvent
  | issued (link : ParentAccessToken) (token : PortalToken)
  | revoked (schoolId tokenId : String)
  | revokedStudent (schoolId studentId : String)

/-- A request past `requireParentAuth`; with when that was, and the log as it was then. -/
structure PortalRequest where
  parent : Parent
  time : Nat
  seen : List PortalEvent

/-- An answer about a student, or a write to one. -/
structure Served where
  request : PortalRequest
  call : PortalCall
  schoolId : String
  studentId : String

structure PortalSystem where
  now : Nat
  students : PortalStudents
  payments : List PortalPayment
  records : ParentAccessTokens
  issuing : Nat → Option (ParentAccessToken × PortalToken)
  requests : Nat → Option PortalRequest
  log : List PortalEvent
  served : List Served

inductive PortalAction
  | tick (ms : Nat)
  | addStudent (st : PortalStudent)
  | deleteStudent (key : String × String)
  | addPayment (payment : PortalPayment)
  | prepareLink (call : Nat) (schoolId : String) (request : LinkRequest) (tokenId createdBy : String)
  | createLink (call : Nat)
  | giveUp (call : Nat)
  | revokeParentLink (schoolId tokenId revokedBy : String) (reason : Option String)
  | revokeLinksForStudent (schoolId studentId revokedBy : String) (reason : Option String)
  | purge (key : String × String)
  | requireParentAuth (call : Nat) (raw : Option PortalToken)
  | serve (call : Nat) (what : PortalCall)

namespace PortalSystem
variable (env : PortalEnv) (s : PortalSystem)

def init (now : Nat) : PortalSystem :=
  ⟨now, .empty, [], .empty, fun _ => none, fun _ => none, [], []⟩

/-- The students a request is answered about, and those it writes to: `requireLinkedStudent` and the
checks of the handlers. -/
def subjects (parent : Parent) : PortalCall → List String
  | .getOverview =>
    (s.students.docs.filter fun st =>
      st.schoolId == parent.schoolId && parent.studentIds.contains st.studentId && !st.deleted).map
        PortalStudent.studentId
  | .getPaymentHistory studentId => if parent.studentIds.contains studentId then [studentId] else []
  | .getReceipt txHash =>
    match s.payments.find? fun p => p.schoolId == parent.schoolId && p.txHash == txHash && p.receipt with
    | some p => if parent.studentIds.contains p.studentId then [p.studentId] else []
    | none => []
  | .raiseDispute txHash =>
    match s.payments.find? fun p => p.schoolId == parent.schoolId && p.txHash == txHash with
    | some p => if parent.studentIds.contains p.studentId then [p.studentId] else []
    | none => []
  | .updatePreferences studentId _ => if parent.studentIds.contains studentId then [studentId] else []

/-- The students after a request. -/
def studentsAfter (parent : Parent) : PortalCall → PortalStudents
  | .updatePreferences studentId reminderOptOut =>
    if parent.studentIds.contains studentId then
      s.students.modify (parent.schoolId, studentId)
        (fun st => if st.deleted then st else { st with reminderOptOut }) fun st => by
          split <;> rfl
    else s.students
  | _ => s.students

/-- The insertion of a record comes after the date it was signed at, and the answer to a request after
its authentication; anything else may come between. -/
def step : PortalAction → Option PortalSystem
  | .tick ms => some { s with now := s.now + ms }
  | .addStudent st => (s.students.insert st).map fun students => { s with students }
  | .deleteStudent key =>
    some { s with students := s.students.modify key (fun st => { st with deleted := true }) fun _ => rfl }
  | .addPayment payment => some { s with payments := s.payments ++ [payment] }
  | .prepareLink call schoolId request tokenId createdBy =>
    match ParentPortal.prepareLink env s.students s.now schoolId request tokenId createdBy with
    | .ok prepared => some { s with issuing := update s.issuing call (some prepared) }
    | .error _ => some { s with issuing := update s.issuing call none }
  | .createLink call =>
    (s.issuing call).bind fun (link, token) =>
      if link.schemaValid then
        (s.records.insert link).map fun records =>
          { s with
            records
            issuing := update s.issuing call none
            log := .issued link token :: s.log }
      else none
  | .giveUp call => some { s with issuing := update s.issuing call none }
  | .revokeParentLink schoolId tokenId revokedBy reason =>
    some { s with
      records := s.records.modify (schoolId, tokenId)
        (fun r => if r.revokedAt.isNone then r.revoke s.now revokedBy reason else r) fun r => by
          split <;> rfl
      log := .revoked schoolId tokenId :: s.log }
  | .revokeLinksForStudent schoolId studentId revokedBy reason =>
    some { s with
      records := s.records.map (fun r =>
          if r.schoolId = schoolId ∧ r.studentIds.contains studentId ∧ r.revokedAt.isNone then
            r.revoke s.now revokedBy reason
          else r) fun r => by
          split <;> rfl
      log := .revokedStudent schoolId studentId :: s.log }
  | .purge key =>
    -- the TTL index: `expireAfterSeconds` after `expiresAt`
    if ∀ r ∈ s.records.docs, r.key = key → r.expiresAt + 30 * DAY_SECONDS * 1000 ≤ s.now then
      some { s with records := s.records.remove key }
    else none
  | .requireParentAuth call raw =>
    match verifyParentToken env s.records s.now raw with
    | .ok r => some { s with
        requests := update s.requests call
          (some ⟨⟨r.tokenId, r.schoolId, r.studentIds, r.expiresAt⟩, s.now, s.log⟩) }
    | .error _ => some { s with requests := update s.requests call none }
  | .serve call what =>
    (s.requests call).map fun q =>
      { s with
        students := s.studentsAfter q.parent what
        requests := update s.requests call none
        served := (s.subjects q.parent what).map (fun id => ⟨q, what, q.parent.schoolId, id⟩) ++
          s.served }

end PortalSystem

/-! ## Links that stand -/

/-- The revocation is of the link, by its id or by one of its students. -/
def PortalEvent.revokes (link : ParentAccessToken) : PortalEvent → Bool
  | .issued _ _ => false
  | .revoked schoolId tokenId => link.schoolId == schoolId && link.tokenId == tokenId
  | .revokedStudent schoolId studentId =>
    link.schoolId == schoolId && link.studentIds.contains studentId

/-- The link was issued, with the token, and nothing has revoked it since. -/
inductive Stands (link : ParentAccessToken) (token : PortalToken) : List PortalEvent → Prop
  | issued {log : List PortalEvent} : Stands link token (.issued link token :: log)
  | later {log : List PortalEvent} {e : PortalEvent} (h : Stands link token log)
      (he : e.revokes link = false) : Stands link token (e :: log)

section
variable {env : PortalEnv} {link r : ParentAccessToken} {token : PortalToken} {log : List PortalEvent}
  {e : PortalEvent}

theorem Stands.mem (h : Stands link token log) : .issued link token ∈ log := by
  induction h with
  | issued => exact List.mem_cons_self
  | later _ _ ih => exact List.mem_cons_of_mem _ ih

theorem stands_cons (he : ∀ l k, e ≠ .issued l k) :
    Stands link token (e :: log) ↔ Stands link token log ∧ e.revokes link = false := by
  constructor
  · intro h
    cases h with
    | issued => exact absurd rfl (he _ _)
    | later h he => exact ⟨h, he⟩
  · exact fun h => .later h.1 h.2

/-- What `prepareLink` leaves of a link that is issued. -/
structure Minted (env : PortalEnv) (link : ParentAccessToken) (token : PortalToken) : Prop where
  signed : ∃ exp, token = .signed env.signingKey
    ⟨some "parent", some link.schoolId, some link.tokenId, some AUDIENCE, exp⟩
  tokenHash : link.tokenHash = env.hashToken token
  revokedAt : link.revokedAt = none

/-- The record is of the link, revoked or not. -/
structure RecordOf (link r : ParentAccessToken) : Prop where
  key : r.key = link.key
  studentIds : r.studentIds = link.studentIds
  expiresAt : r.expiresAt = link.expiresAt
  unrevoked : r.revokedAt = none → r = link

theorem RecordOf.refl : RecordOf link link := ⟨rfl, rfl, rfl, fun _ => rfl⟩

theorem RecordOf.revoke (h : RecordOf link r) (now : Nat) (revokedBy : String)
    (reason : Option String) : RecordOf link (r.revoke now revokedBy reason) :=
  ⟨h.key, h.studentIds, h.expiresAt, fun hnone => nomatch hnone⟩

theorem RecordOf.revokes (h : RecordOf link r) : e.revokes r = e.revokes link := by
  obtain ⟨hschool, hid⟩ := Prod.mk.injEq .. ▸ h.key
  cases e with
  | issued l k => rfl
  | revoked schoolId tokenId => rw [PortalEvent.revokes, PortalEvent.revokes, hschool, hid]
  | revokedStudent schoolId studentId =>
    rw [PortalEvent.revokes, PortalEvent.revokes, hschool, h.studentIds]

theorem minted_of_prepareLink {students : PortalStudents} {now : Nat} {schoolId tokenId by' : String}
    {request : LinkRequest} {x : ParentAccessToken × PortalToken}
    (h : prepareLink env students now schoolId request tokenId by' = .ok x) : Minted env x.1 x.2 := by
  obtain ⟨found, -, hx⟩ := bind_ok_iff.mp h
  obtain rfl := pure_ok_iff.mp hx
  exact ⟨⟨_, rfl⟩, rfl, rfl⟩

end

/-! ## The records of the links -/

/-- The ids of the links issued. -/
def issuedIds (log : List PortalEvent) : List String :=
  log.filterMap fun
    | .issued link _ => some link.tokenId
    | _ => none

theorem mem_issuedIds {log : List PortalEvent} {link : ParentAccessToken} {token : PortalToken}
    (h : .issued link token ∈ log) : link.tokenId ∈ issuedIds log :=
  List.mem_filterMap.mpr ⟨_, h, rfl⟩

/-- `crypto.randomBytes(16)` does not repeat itself. -/
def FreshIds : PortalSystem → PortalAction → Prop
  | s, .createLink call => ∀ x ∈ s.issuing call, x.1.tokenId ∉ issuedIds s.log
  | _, _ => True

instance (s : PortalSystem) (a : PortalAction) : Decidable (FreshIds s a) := by
  cases a <;> unfold FreshIds <;> infer_instance

/-- **The invariant.**  Every record is of a link that was issued, and is not revoked exactly while the
link stands; and a link has its record until long after it expired. -/
structure Recorded (env : PortalEnv) (s : PortalSystem) : Prop where
  minted : ∀ link token, .issued link token ∈ s.log → Minted env link token ∧ link.schemaValid
  pending : ∀ call x, s.issuing call = some x → Minted env x.1 x.2
  unique : ∀ link token link' token', .issued link token ∈ s.log → .issued link' token' ∈ s.log →
    link.tokenId = link'.tokenId → link = link' ∧ token = token'
  record : ∀ r ∈ s.records.docs, ∃ link token, .issued link token ∈ s.log ∧ RecordOf link r ∧
    (r.revokedAt = none ↔ Stands link token s.log)
  kept : ∀ link token, .issued link token ∈ s.log →
    (∃ r ∈ s.records.docs, r.key = link.key) ∨ link.expiresAt ≤ s.now

section
variable {env : PortalEnv} {s t : PortalSystem} {a : PortalAction}

/-- A step that neither logs nor changes a record. -/
theorem Recorded.calm (h : Recorded env s) (hlog : t.log = s.log) (hrecords : t.records = s.records)
    (hnow : s.now ≤ t.now) (hpending : ∀ call x, t.issuing call = some x → Minted env x.1 x.2) :
    Recorded env t where
  minted := hlog ▸ h.minted
  pending := hpending
  unique := hlog ▸ h.unique
  record := by rw [hlog, hrecords]; exact h.record
  kept := by
    rw [hlog, hrecords]
    exact fun link token hl => (h.kept link token hl).imp_right fun hle => hle.trans hnow

theorem Recorded.idle (h : Recorded env s) {call : Nat} :
    ∀ c x, update s.issuing call none c = some x → Minted env x.1 x.2 :=
  fun c x hx => h.pending c x (update_none_iff.mp hx).2

theorem Recorded.createLink (h : Recorded env s) {call : Nat} {link : ParentAccessToken}
    {token : PortalToken} {records : ParentAccessTokens} (hx : s.issuing call = some (link, token))
    (hfresh : link.tokenId ∉ issuedIds s.log) (hvalid : link.schemaValid)
    (hinsert : s.records.insert link = some records) :
    Recorded env { s with
      records, issuing := update s.issuing call none, log := .issued link token :: s.log } := by
  have hminted := h.pending call _ hx
  have hnew : ∀ link' token', .issued link' token' ∈ s.log → link'.tokenId ≠ link.tokenId :=
    fun link' token' hl heq => hfresh (heq ▸ mem_issuedIds hl)
  constructor
  case minted =>
    intro link' token' hl
    rcases List.mem_cons.mp hl with heq | hl
    · cases heq
      exact ⟨hminted, hvalid⟩
    · exact h.minted link' token' hl
  case pending => exact h.idle
  case unique =>
    intro l₁ t₁ l₂ t₂ h₁ h₂ hid
    rcases List.mem_cons.mp h₁ with e₁ | h₁ <;> rcases List.mem_cons.mp h₂ with e₂ | h₂
    · cases e₁
      cases e₂
      exact ⟨rfl, rfl⟩
    · cases e₁
      exact absurd hid.symm (hnew l₂ t₂ h₂)
    · cases e₂
      exact absurd hid (hnew l₁ t₁ h₁)
    · exact h.unique l₁ t₁ l₂ t₂ h₁ h₂ hid
  case record =>
    intro r hr
    rw [s.records.insert_docs hinsert] at hr
    rcases List.mem_append.mp hr with hr | hr
    · obtain ⟨link', token', hl, hof, hiff⟩ := h.record r hr
      refine ⟨link', token', List.mem_cons_of_mem _ hl, hof, hiff.trans ⟨fun hst => .later hst rfl, ?_⟩⟩
      intro hst
      cases hst with
      | issued => exact absurd rfl (hnew _ _ hl)
      | later hst _ => exact hst
    · obtain rfl := List.mem_singleton.mp hr
      exact ⟨r, token, List.mem_cons_self, .refl, iff_of_true hminted.revokedAt .issued⟩
  case kept =>
    intro link' token' hl
    dsimp only
    rw [s.records.insert_docs hinsert]
    rcases List.mem_cons.mp hl with heq | hl
    · cases heq
      exact .inl ⟨link, List.mem_append_right _ (List.mem_singleton.mpr rfl), rfl⟩
    · exact (h.kept link' token' hl).imp_left fun ⟨r, hr, hkey⟩ => ⟨r, List.mem_append_left _ hr, hkey⟩

/-- A revocation, of one link or of a student's. -/
theorem Recorded.revoke (h : Recorded env s) {e : PortalEvent} (he : ∀ l k, e ≠ .issued l k)
    {now : Nat} {revokedBy : String} {reason : Option String}
    (hrecords : ∀ r', r' ∈ t.records.docs ↔ ∃ r ∈ s.records.docs,
      (if e.revokes r ∧ r.revokedAt = none then r.revoke now revokedBy reason else r) = r')
    (hlog : t.log = e :: s.log) (hissuing : t.issuing = s.issuing) (hnow : t.now = s.now) :
    Recorded env t := by
  have hold : ∀ link token, .issued link token ∈ t.log → .issued link token ∈ s.log := by
    intro link token hl
    rw [hlog] at hl
    exact (List.mem_cons.mp hl).resolve_left fun heq => he link token heq.symm
  constructor
  case minted => exact fun link token hl => h.minted link token (hold link token hl)
  case pending => exact hissuing ▸ h.pending
  case unique =>
    exact fun l₁ t₁ l₂ t₂ h₁ h₂ => h.unique l₁ t₁ l₂ t₂ (hold l₁ t₁ h₁) (hold l₂ t₂ h₂)
  case record =>
    intro r' hr'
    obtain ⟨r, hr, rfl⟩ := (hrecords r').mp hr'
    obtain ⟨link, token, hl, hof, hiff⟩ := h.record r hr
    refine ⟨link, token, hlog ▸ List.mem_cons_of_mem e hl, ?_, ?_⟩
    · split
      · exact hof.revoke now revokedBy reason
      · exact hof
    · rw [hlog, stands_cons he, ← hiff, ← hof.revokes]
      split
      · rename_i hrevoked
        exact iff_of_false (fun hnone => nomatch hnone) fun hst => absurd hrevoked.1 (by simp [hst.2])
      · rename_i hspared
        refine ⟨fun hnone => ⟨hnone, ?_⟩, fun hst => hst.1⟩
        exact Bool.eq_false_iff.mpr fun hrevokes => hspared ⟨hrevokes, hnone⟩
  case kept =>
    intro link token hl
    rw [hnow]
    refine (h.kept link token (hold link token hl)).imp_left fun ⟨r, hr, hkey⟩ => ?_
    refine ⟨_, (hrecords _).mpr ⟨r, hr, rfl⟩, ?_⟩
    split
    · exact hkey
    · exact hkey

theorem Recorded.purge (h : Recorded env s) {key : String × String}
    (hexpired : ∀ r ∈ s.records.docs, r.key = key → r.expiresAt + 30 * DAY_SECONDS * 1000 ≤ s.now) :
    Recorded env { s with records := s.records.remove key } where
  minted := h.minted
  pending := h.pending
  unique := h.unique
  record r hr := h.record r (s.records.mem_remove.mp hr).1
  kept link token hl := by
    rcases h.kept link token hl with ⟨r, hr, hkey⟩ | hle
    · by_cases hk : r.key = key
      · -- the record that goes is the link's own, and it expired long ago
        obtain ⟨link', token', hl', hof, -⟩ := h.record r hr
        have hid : link.tokenId = link'.tokenId := congrArg Prod.snd (hkey.symm.trans hof.key)
        obtain ⟨rfl, -⟩ := h.unique link token link' token' hl hl' hid
        have hgone := hexpired r hr hk
        rw [hof.expiresAt] at hgone
        exact .inr (Nat.le_of_add_right_le hgone)
      · exact .inl ⟨r, s.records.mem_remove.mpr ⟨hr, hk⟩, hkey⟩
    · exact .inr hle

theorem mem_revokeParentLink {schoolId tokenId revokedBy : String} {reason : Option String}
    (hs : s.step env (.revokeParentLink schoolId tokenId revokedBy reason) = some t)
    (r' : ParentAccessToken) :
    r' ∈ t.records.docs ↔ ∃ r ∈ s.records.docs,
      (if (PortalEvent.revoked schoolId tokenId).revokes r ∧ r.revokedAt = none then
        r.revoke s.now revokedBy reason else r) = r' := by
  obtain rfl := Option.some.inj hs
  rw [Collection.mem_modify]
  refine exists_congr fun r => and_congr_right fun _ => ?_
  simp only [PortalEvent.revokes, ParentAccessToken.key, Prod.mk.injEq, Bool.and_eq_true, beq_iff_eq,
    Option.isNone_iff_eq_none]
  by_cases hk : r.schoolId = schoolId ∧ r.tokenId = tokenId
  · simp only [hk, true_and, if_true]
  · rw [if_neg hk, if_neg fun hc => hk hc.1]

theorem mem_revokeLinksForStudent {schoolId studentId revokedBy : String} {reason : Option String}
    (hs : s.step env (.revokeLinksForStudent schoolId studentId revokedBy reason) = some t)
    (r' : ParentAccessToken) :
    r' ∈ t.records.docs ↔ ∃ r ∈ s.records.docs,
      (if (PortalEvent.revokedStudent schoolId studentId).revokes r ∧ r.revokedAt = none then
        r.revoke s.now revokedBy reason else r) = r' := by
  obtain rfl := Option.some.inj hs
  refine List.mem_map.trans (exists_congr fun r => and_congr_right fun _ => ?_)
  simp [PortalEvent.revokes, and_assoc]

theorem recorded_step (h : Recorded env s) (hfresh : FreshIds s a) (hs : s.step env a = some t) :
    Recorded env t := by
  cases a with
  | tick ms =>
    obtain rfl := Option.some.inj hs
    exact h.calm rfl rfl (Nat.le_add_right _ _) h.pending
  | addStudent st =>
    obtain ⟨c, -, rfl⟩ := Option.map_eq_some_iff.mp hs
    exact h.calm rfl rfl le_rfl h.pending
  | deleteStudent key =>
    obtain rfl := Option.some.inj hs
    exact h.calm rfl rfl le_rfl h.pending
  | addPayment payment =>
    obtain rfl := Option.some.inj hs
    exact h.calm rfl rfl le_rfl h.pending
  | prepareLink call schoolId request tokenId createdBy =>
    simp only [PortalSystem.step] at hs
    split at hs
    · rename_i prepared hprepared
      obtain rfl := Option.some.inj hs
      refine h.calm rfl rfl le_rfl fun c x hx => ?_
      rcases update_some_iff.mp hx with ⟨-, rfl⟩ | ⟨-, hold⟩
      · exact minted_of_prepareLink hprepared
      · exact h.pending c x hold
    · obtain rfl := Option.some.inj hs
      exact h.calm rfl rfl le_rfl h.idle
  | createLink call =>
    obtain ⟨⟨link, token⟩, hx, hs⟩ := Option.bind_eq_some_iff.mp hs
    dsimp only at hs
    split at hs
    · rename_i hvalid
      obtain ⟨records, hinsert, rfl⟩ := Option.map_eq_some_iff.mp hs
      exact h.createLink hx (hfresh _ hx) hvalid hinsert
    · exact nomatch hs
  | giveUp call =>
    obtain rfl := Option.some.inj hs
    exact h.calm rfl rfl le_rfl h.idle
  | revokeParentLink schoolId tokenId revokedBy reason =>
    have hmem := mem_revokeParentLink hs
    obtain rfl := Option.some.inj hs
    exact h.revoke (fun _ _ => PortalEvent.noConfusion) hmem rfl rfl rfl
  | revokeLinksForStudent schoolId studentId revokedBy reason =>
    have hmem := mem_revokeLinksForStudent hs
    obtain rfl := Option.some.inj hs
    exact h.revoke (fun _ _ => PortalEvent.noConfusion) hmem rfl rfl rfl
  | purge key =>
    rw [PortalSystem.step] at hs
    split at hs
    · rename_i hexpired
      obtain rfl := Option.some.inj hs
      exact h.purge hexpired
    · exact nomatch hs
  | requireParentAuth call raw =>
    simp only [PortalSystem.step] at hs
    split at hs
    · obtain rfl := Option.some.inj hs
      exact h.calm rfl rfl le_rfl h.pending
    · obtain rfl := Option.some.inj hs
      exact h.calm rfl rfl le_rfl h.pending
  | serve call what =>
    obtain ⟨q, -, rfl⟩ := Option.map_eq_some_iff.mp hs
    exact h.calm rfl rfl le_rfl h.pending

theorem recorded_init (now : Nat) : Recorded env (.init now) :=
  ⟨fun _ _ hl => (nomatch hl), fun _ _ hx => (nomatch hx), fun _ _ _ _ hl => (nomatch hl),
    fun _ hr => (nomatch hr), fun _ _ hl => (nomatch hl)⟩

end

/-! ## Which tokens let a parent in -/

/-- The date in the token has not come. -/
def PortalToken.live (now : Nat) : PortalToken → Prop
  | .signed _ claims => now / 1000 < claims.exp
  | .garbage => False

instance (now : Nat) (token : PortalToken) : Decidable (token.live now) := by
  cases token <;> unfold PortalToken.live <;> infer_instance

section
variable {env : PortalEnv} {s : PortalSystem} {r : ParentAccessToken} {raw : Option PortalToken}

theorem jwtVerify_ok_iff {now : Nat} {token : PortalToken} {claims : LinkClaims} :
    jwtVerify env now token = .ok claims ↔
      token = .signed env.signingKey claims ∧ token.live now ∧ claims.aud = some AUDIENCE := by
  cases token with
  | garbage => exact iff_of_false (fun h => nomatch h) fun h => nomatch h.1
  | signed key c =>
    rw [jwtVerify]
    split
    · rename_i hkey
      exact iff_of_false (fun h => nomatch h) fun h => hkey (PortalToken.signed.inj h.1).1
    · rename_i hkey
      obtain rfl := Decidable.not_not.mp hkey
      split
      · rename_i hexp
        exact iff_of_false (fun h => nomatch h) fun h => absurd h.2.1 (Nat.not_lt.mpr hexp)
      · rename_i hexp
        split
        · rename_i haud
          refine iff_of_false (fun h => nomatch h) fun h => haud ?_
          rw [(PortalToken.signed.inj h.1).2, h.2.2]
        · rename_i haud
          constructor
          · intro h
            obtain rfl := Except.ok.inj h
            exact ⟨rfl, Nat.lt_of_not_le hexp, Decidable.not_not.mp haud⟩
          · exact fun h => congrArg Except.ok (PortalToken.signed.inj h.1).2

/-- What `verifyParentToken` lets in. -/
theorem verifyParentToken_iff {records : ParentAccessTokens} {now : Nat} :
    verifyParentToken env records now raw = .ok r ↔
      ∃ token, raw = some token ∧ ∃ claims, jwtVerify env now token = .ok claims ∧
        claims.typ = some "parent" ∧ ∃ sid, truthy claims.sid = some sid ∧
        ∃ jti, truthy claims.jti = some jti ∧ ∃ record,
        (records.findOne fun r => r.schoolId == sid && r.tokenId == jti) = some record ∧
        record.tokenHash = env.hashToken token ∧ record.revokedAt = none ∧ now < record.expiresAt ∧
        record = r := by
  simp only [verifyParentToken, bind_ok_iff, orThrow_ok_iff, require_ok_iff, pure_ok_iff, exists_const,
    beq_iff_eq, Option.isNone_iff_eq_none, decide_eq_true_iff]

/-- The hash of no other token is the hash of an issued one. -/
def HashApart (env : PortalEnv) (s : PortalSystem) : Prop :=
  ∀ link token raw, .issued link token ∈ s.log → env.hashToken raw = env.hashToken token → raw = token

/-- A token that is let in was issued, with a link that stands. -/
theorem Recorded.stands (h : Recorded env s) (hhash : HashApart env s)
    (hok : verifyParentToken env s.records s.now raw = .ok r) :
    ∃ token, raw = some token ∧ Stands r token s.log ∧ token.live s.now ∧ s.now < r.expiresAt := by
  obtain ⟨token, hraw, claims, hjwt, -, sid, -, jti, -, record, hfind, hsame, hunrevoked, hlive, rfl⟩ :=
    verifyParentToken_iff.mp hok
  obtain ⟨link, issued, hl, hof, hiff⟩ := h.record record (s.records.mem_of_findOne hfind)
  have hlink : record = link := hof.unrevoked hunrevoked
  have htoken : token = issued := by
    refine hhash link issued token hl ?_
    rw [← hsame, hlink, (h.minted link issued hl).1.tokenHash]
  refine ⟨token, hraw, ?_, (jwtVerify_ok_iff.mp hjwt).2.1, hlive⟩
  rw [htoken]
  exact hlink ▸ hiff.mp hunrevoked

/-- The token of a link that stands is let in while both of its dates are ahead. -/
theorem Recorded.verify (h : Recorded env s) {token : PortalToken} (hst : Stands r token s.log)
    (hlive : token.live s.now) (hexpires : s.now < r.expiresAt) :
    verifyParentToken env s.records s.now (some token) = .ok r := by
  obtain ⟨⟨⟨exp, htoken⟩, hhash, hunrevoked⟩, hvalid⟩ := h.minted r token hst.mem
  have hrecord : ∃ record ∈ s.records.docs, record.key = r.key :=
    (h.kept r token hst.mem).resolve_right (Nat.not_le.mpr hexpires)
  obtain ⟨record, hmem, hkey⟩ := hrecord
  obtain ⟨link, token', hl, hof, hiff⟩ := h.record record hmem
  have hid : r.tokenId = link.tokenId := congrArg Prod.snd (hkey.symm.trans hof.key)
  obtain ⟨rfl, rfl⟩ := h.unique r token link token' hst.mem hl hid
  obtain rfl := hof.unrevoked (hiff.mpr hst)
  simp only [ParentAccessToken.schemaValid, Bool.and_eq_true, decide_eq_true_eq, ne_eq] at hvalid
  refine verifyParentToken_iff.mpr ⟨token, rfl, _, jwtVerify_ok_iff.mpr ⟨htoken, hlive, rfl⟩, rfl,
    record.schoolId, truthy_of_ne hvalid.1.1.1.1, record.tokenId, truthy_of_ne hvalid.1.1.1.2, record,
    ?_, hhash, hunrevoked, hexpires, rfl⟩
  refine s.records.findOne_eq_some_of_key hmem (by simp) fun e _ he => ?_
  simpa [ParentAccessToken.key] using he

/-- **Which tokens let a parent in.**  Whatever links were issued and revoked, and however those calls
came between each other and the requests of parents: a token is accepted, as a link, exactly if the
link was issued with it, neither the link nor one of its students had its links revoked since, and both
the date in the token and the date of the record are still ahead. -/
theorem verifyParentToken_ok_iff {now : Nat} {token : PortalToken}
    (h : Reach (PortalSystem.step env) FreshIds (.init now) s) (hhash : HashApart env s) :
    verifyParentToken env s.records s.now (some token) = .ok r ↔
      Stands r token s.log ∧ token.live s.now ∧ s.now < r.expiresAt := by
  have hrecorded : Recorded env s := h.invariant (recorded_init now) recorded_step
  constructor
  · intro hok
    obtain ⟨token', hraw, hst, hlive, hexpires⟩ := hrecorded.stands hhash hok
    obtain rfl := Option.some.inj hraw
    exact ⟨hst, hlive, hexpires⟩
  · exact fun ⟨hst, hlive, hexpires⟩ => hrecorded.verify hst hlive hexpires

end

/-- An environment whose hash tells one token from the others. -/
def sampleEnv : PortalEnv where
  signingKey := "portal"
  hashToken raw := if raw = .signed "portal" ⟨some "parent", some "s", some "link", some AUDIENCE,
    2592000⟩ then "hash" else "other"
  hashParentEmail email := email
  defaultTtlDays := 30

/-- Where only one token was issued, its hash is its own. -/
theorem sampleEnv_apart {s : PortalSystem} (h : ∀ link issued, .issued link issued ∈ s.log →
    issued = mintToken sampleEnv 5 30 "s" "link") : HashApart sampleEnv s := by
  intro link issued raw hl heq
  rw [h link issued hl] at heq ⊢
  by_contra hne
  have hother : sampleEnv.hashToken raw = "other" := if_neg hne
  rw [hother] at heq
  exact absurd heq (by decide)

/-- A link for one child, while the links of another child are revoked. -/
theorem verifyParentToken_ok_iff_other_child :
    let s := (execOk (PortalSystem.step sampleEnv) FreshIds (.init 5) [
      .addStudent ⟨"s", "a", none, none, false, false⟩,
      .prepareLink 0 "s" ⟨["a"], none, none⟩ "link" "staff", .createLink 0, .tick 100,
      .revokeLinksForStudent "s" "b" "staff" none]).get (by decide)
    let token := mintToken sampleEnv 5 30 "s" "link"
    ∀ r ∈ s.records.docs, verifyParentToken sampleEnv s.records s.now (some token) = .ok r ↔
      Stands r token s.log ∧ token.live s.now ∧ s.now < r.expiresAt := by
  intro s token r _
  have hissued : ∀ link issued, .issued link issued ∈ s.log → issued = token := by
    intro link issued hl
    rcases List.mem_cons.mp hl with heq | hl
    · exact nomatch heq
    · exact (PortalEvent.issued.inj (List.mem_singleton.mp hl)).2
  exact verifyParentToken_ok_iff (.getOk (by decide)) (sampleEnv_apart hissued)

/-! ## What parents are answered -/

/-- When the request was let in, a link for its school and its students stood, and was not expired. -/
def PortalRequest.Granted (log : List PortalEvent) (q : PortalRequest) : Prop :=
  ∃ link token, Stands link token q.seen ∧ q.seen <:+ log ∧ token.live q.time ∧
    q.time < link.expiresAt ∧ q.parent = ⟨link.tokenId, link.schoolId, link.studentIds, link.expiresAt⟩

theorem PortalRequest.Granted.later {log log' : List PortalEvent} {q : PortalRequest}
    (h : q.Granted log) (hlog : log <:+ log') : q.Granted log' := by
  obtain ⟨link, token, hst, hseen, hrest⟩ := h
  exact ⟨link, token, hst, hseen.trans hlog, hrest⟩

/-- Every request in progress was granted, and what was answered is about the students it was granted. -/
structure Confined (s : PortalSystem) : Prop where
  requests : ∀ call q, s.requests call = some q → q.Granted s.log
  served : ∀ x ∈ s.served, x.request.Granted s.log ∧ x.schoolId = x.request.parent.schoolId ∧
    x.studentId ∈ x.request.parent.studentIds

section
variable {env : PortalEnv} {s t : PortalSystem} {a : PortalAction}

/-- What a step does to the requests: nothing, or it lets one in, or ends one, or answers one. -/
inductive Answers (env : PortalEnv) (s t : PortalSystem) : Prop
  | none (hrequests : t.requests = s.requests) (hserved : t.served = s.served)
  | accept (call : Nat) (raw : Option PortalToken) (r : ParentAccessToken)
      (hok : verifyParentToken env s.records s.now raw = .ok r)
      (hrequests : t.requests = update s.requests call
        (some ⟨⟨r.tokenId, r.schoolId, r.studentIds, r.expiresAt⟩, s.now, s.log⟩))
      (hserved : t.served = s.served)
  | refuse (call : Nat) (hrequests : t.requests = update s.requests call none)
      (hserved : t.served = s.served)
  | serve (call : Nat) (what : PortalCall) (q : PortalRequest) (hq : s.requests call = some q)
      (hrequests : t.requests = update s.requests call none)
      (hserved : t.served =
        (s.subjects q.parent what).map (fun id => ⟨q, what, q.parent.schoolId, id⟩) ++ s.served)

theorem answers_of_step (hs : s.step env a = some t) : s.log <:+ t.log ∧ Answers env s t := by
  have same : ∀ u : PortalSystem, u.log = s.log → u.requests = s.requests → u.served = s.served →
      s.log <:+ u.log ∧ Answers env s u :=
    fun u hlog hrequests hserved => ⟨hlog ▸ List.suffix_refl _, .none hrequests hserved⟩
  cases a with
  | tick _ | deleteStudent _ | addPayment _ | giveUp _ =>
    obtain rfl := Option.some.inj hs
    exact same _ rfl rfl rfl
  | revokeParentLink _ _ _ _ | revokeLinksForStudent _ _ _ _ =>
    obtain rfl := Option.some.inj hs
    exact ⟨List.suffix_cons _ _, .none rfl rfl⟩
  | addStudent st =>
    obtain ⟨c, -, rfl⟩ := Option.map_eq_some_iff.mp hs
    exact same _ rfl rfl rfl
  | prepareLink call schoolId request tokenId createdBy =>
    simp only [PortalSystem.step] at hs
    split at hs <;> (obtain rfl := Option.some.inj hs; exact same _ rfl rfl rfl)
  | createLink call =>
    obtain ⟨⟨link, token⟩, -, hs⟩ := Option.bind_eq_some_iff.mp hs
    dsimp only at hs
    split at hs
    · obtain ⟨records, -, rfl⟩ := Option.map_eq_some_iff.mp hs
      exact ⟨List.suffix_cons _ _, .none rfl rfl⟩
    · exact nomatch hs
  | purge key =>
    rw [PortalSystem.step] at hs
    split at hs
    · obtain rfl := Option.some.inj hs
      exact same _ rfl rfl rfl
    · exact nomatch hs
  | requireParentAuth call raw =>
    simp only [PortalSystem.step] at hs
    split at hs
    · rename_i r hok
      obtain rfl := Option.some.inj hs
      exact ⟨List.suffix_refl _, .accept call raw r hok rfl rfl⟩
    · obtain rfl := Option.some.inj hs
      exact ⟨List.suffix_refl _, .refuse call rfl rfl⟩
  | serve call what =>
    obtain ⟨q, hq, rfl⟩ := Option.map_eq_some_iff.mp hs
    exact ⟨List.suffix_refl _, .serve call what q hq rfl rfl⟩

theorem HashApart.earlier (h : HashApart env t) (hlog : s.log <:+ t.log) : HashApart env s :=
  fun link token raw hl => h link token raw (hlog.subset hl)

theorem mem_subjects {parent : Parent} {what : PortalCall} {id : String}
    (h : id ∈ s.subjects parent what) : id ∈ parent.studentIds := by
  have single : ∀ studentId, id ∈ (if parent.studentIds.contains studentId then [studentId] else []) →
      id ∈ parent.studentIds := by
    intro studentId hmem
    split at hmem
    · rename_i hin
      rw [List.mem_singleton.mp hmem]
      exact List.contains_iff_mem.mp hin
    · exact absurd hmem List.not_mem_nil
  cases what with
  | getOverview =>
    obtain ⟨st, hst, rfl⟩ := List.mem_map.mp h
    have hchecks := (List.mem_filter.mp hst).2
    simp only [Bool.and_eq_true] at hchecks
    exact List.contains_iff_mem.mp hchecks.1.2
  | getPaymentHistory studentId => exact single studentId h
  | getReceipt txHash =>
    simp only [PortalSystem.subjects] at h
    split at h
    · exact single _ h
    · exact absurd h List.not_mem_nil
  | raiseDispute txHash =>
    simp only [PortalSystem.subjects] at h
    split at h
    · exact single _ h
    · exact absurd h List.not_mem_nil
  | updatePreferences studentId reminderOptOut => exact single studentId h

theorem confined_step (hrecorded : Recorded env s) (hhash : HashApart env s) (h : Confined s)
    (hs : s.step env a = some t) : Confined t := by
  obtain ⟨hlog, hanswers⟩ := answers_of_step hs
  have hold : ∀ x ∈ s.served, x.request.Granted t.log ∧ x.schoolId = x.request.parent.schoolId ∧
      x.studentId ∈ x.request.parent.studentIds := fun x hx =>
    ⟨(h.served x hx).1.later hlog, (h.served x hx).2⟩
  cases hanswers with
  | none hrequests hserved =>
    exact ⟨fun c q hq => (h.requests c q (hrequests ▸ hq)).later hlog, hserved ▸ hold⟩
  | accept call raw r hok hrequests hserved =>
    refine ⟨fun c q hq => ?_, hserved ▸ hold⟩
    rw [hrequests] at hq
    rcases update_some_iff.mp hq with ⟨-, rfl⟩ | ⟨-, hq⟩
    · obtain ⟨token, -, hst, hlive, hexpires⟩ := hrecorded.stands hhash hok
      exact ⟨r, token, hst, hlog, hlive, hexpires, rfl⟩
    · exact (h.requests c q hq).later hlog
  | refuse call hrequests hserved =>
    refine ⟨fun c q hq => ?_, hserved ▸ hold⟩
    rw [hrequests] at hq
    exact (h.requests c q (update_none_iff.mp hq).2).later hlog
  | serve call what q hq hrequests hserved =>
    refine ⟨fun c r hr => ?_, fun x hx => ?_⟩
    · rw [hrequests] at hr
      exact (h.requests c r (update_none_iff.mp hr).2).later hlog
    · rw [hserved] at hx
      rcases List.mem_append.mp hx with hx | hx
      · obtain ⟨id, hid, rfl⟩ := List.mem_map.mp hx
        exact ⟨(h.requests call q hq).later hlog, rfl, mem_subjects hid⟩
      · exact hold x hx

theorem confined_of_reach {now : Nat} (h : Reach (PortalSystem.step env) FreshIds (.init now) s) :
    Recorded env s ∧ (HashApart env s → Confined s) := by
  induction h with
  | refl =>
    exact ⟨recorded_init now, fun _ => ⟨fun _ _ hq => (nomatch hq), fun _ hx => (nomatch hx)⟩⟩
  | tail _ hok hs ih =>
    refine ⟨recorded_step ih.1 hok hs, fun hhash => ?_⟩
    have hearlier := hhash.earlier (answers_of_step hs).1
    exact confined_step ih.1 hearlier (ih.2 hearlier) hs

/-- **A parent sees only the children of the link.**  However links are issued and revoked in between,
everything a parent is answered about, or writes to, is a student of the school and among the students
of a link that had been issued, that nothing had revoked, and whose dates were ahead when the request
was authenticated. -/
theorem served_granted {now : Nat} (h : Reach (PortalSystem.step env) FreshIds (.init now) s)
    (hhash : HashApart env s) {x : Served} (hx : x ∈ s.served) :
    ∃ link token, Stands link token x.request.seen ∧ x.request.seen <:+ s.log ∧
      token.live x.request.time ∧ x.request.time < link.expiresAt ∧ x.schoolId = link.schoolId ∧
      x.studentId ∈ link.studentIds := by
  obtain ⟨⟨link, token, hst, hseen, hlive, hexpires, hparent⟩, hschool, hstudent⟩ :=
    ((confined_of_reach h).2 hhash).served x hx
  rw [hparent] at hschool hstudent
  exact ⟨link, token, hst, hseen, hlive, hexpires, hschool, hstudent⟩

end

/-- A parent's page, answered after the link was revoked. -/
theorem served_granted_late :
    let s := (execOk (PortalSystem.step sampleEnv) FreshIds (.init 5) [
      .addStudent ⟨"s", "a", none, none, false, false⟩,
      .prepareLink 0 "s" ⟨["a"], none, none⟩ "link" "staff", .createLink 0,
      .requireParentAuth 0 (some (mintToken sampleEnv 5 30 "s" "link")),
      .revokeParentLink "s" "link" "staff" none, .serve 0 .getOverview]).get (by decide)
    s.served.length = 1 ∧ ∀ x ∈ s.served, ∃ link token, Stands link token x.request.seen ∧
      x.request.seen <:+ s.log ∧ token.live x.request.time ∧ x.request.time < link.expiresAt ∧
      x.schoolId = link.schoolId ∧ x.studentId ∈ link.studentIds := by
  intro s
  have hissued : ∀ link issued, .issued link issued ∈ s.log →
      issued = mintToken sampleEnv 5 30 "s" "link" := by
    intro link issued hl
    rcases List.mem_cons.mp hl with heq | hl
    · exact nomatch heq
    · exact (PortalEvent.issued.inj (List.mem_singleton.mp hl)).2
  exact ⟨by decide, fun x hx => served_granted (.getOk (by decide)) (sampleEnv_apart hissued) hx⟩

end ParentPortal
end StellarEduPay

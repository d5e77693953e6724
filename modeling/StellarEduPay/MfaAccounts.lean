import StellarEduPay.Checks
import StellarEduPay.JsString

/-! # Second factors (`controllers/mfaController.js`)

A school and a user each have a TOTP secret, a list of backup codes and a flag that says
whether the factor is active.  A handler looks the account up, checks what it was sent, and
writes once; the two halves are separate here, since other handlers may write in between.

The time-based codes and bcrypt are parameters.  A stored secret is written as what it decrypts
to.
-/
namespace StellarEduPay
open Checks

/-! ## Backup codes -/

/-- `speakeasy.totp.verify` of a secret and a token at a time, and bcrypt, whose hash depends on a
salt. -/
structure MfaCrypto where
  totp : Nat → String → String → Bool
  bcryptHash : String → String → String
  bcryptCompare : String → String → Bool

/-- An entry of `mfaBackupCodes`. -/
structure BackupCode where
  hash : String
  used : Bool := false
  deriving DecidableEq, Repr

def BACKUP_CODE_HASH_PREFIX : String := "bcrypt$"

def normalizeBackupCode (code : String) : String :=
  let upper := (code.toList.flatMap jsUpperAscii).filter fun c => c.isDigit || c.isUpper
  String.ofList <| upper.map fun c => if c = 'O' then '0' else if c = 'I' ∨ c = 'L' then '1' else c

/-- A code that was drawn, and the salt it is hashed with. -/
structure DrawnCode where
  code : String
  salt : String
  deriving DecidableEq, Repr

def hashBackupCode (crypto : MfaCrypto) (drawn : DrawnCode) : String :=
  BACKUP_CODE_HASH_PREFIX ++ crypto.bcryptHash drawn.salt (normalizeBackupCode drawn.code)

def isLegacyBackupCodeHash (hash : String) : Bool :=
  !BACKUP_CODE_HASH_PREFIX.toList.isPrefixOf hash.toList

/-- The comparison of a presented code with an entry; legacy hashes match nothing. -/
def BackupCode.opens (crypto : MfaCrypto) (code : String) (entry : BackupCode) : Bool :=
  !isLegacyBackupCodeHash entry.hash && crypto.bcryptCompare (normalizeBackupCode code)
    (String.ofList (entry.hash.toList.drop BACKUP_CODE_HASH_PREFIX.toList.length))

/-- The position of the first unused entry a code matches, or `-1`. -/
def findMatchingBackupCodeIndex (crypto : MfaCrypto) (mfaBackupCodes : List BackupCode)
    (code : String) : Int :=
  if mfaBackupCodes = [] ∨ normalizeBackupCode code = "" then -1
  else match mfaBackupCodes.findIdx? fun entry => !entry.used && entry.opens crypto code with
    | none => -1
    | some idx => idx

/-- A hash matches what it was made from and nothing else. -/
def BcryptSound (crypto : MfaCrypto) : Prop :=
  ∀ salt plain plain',
    crypto.bcryptCompare plain (crypto.bcryptHash salt plain') = decide (plain = plain')

theorem opens_of_hash {crypto : MfaCrypto} (hbcrypt : BcryptSound crypto) {entry : BackupCode}
    {drawn : DrawnCode} (hentry : entry.hash = hashBackupCode crypto drawn) (code : String) :
    entry.opens crypto code =
      decide (normalizeBackupCode code = normalizeBackupCode drawn.code) := by
  have hprefix : isLegacyBackupCodeHash entry.hash = false := by
    simp [isLegacyBackupCodeHash, hentry, hashBackupCode, String.toList_append]
  have hstored : String.ofList (entry.hash.toList.drop BACKUP_CODE_HASH_PREFIX.toList.length) =
      crypto.bcryptHash drawn.salt (normalizeBackupCode drawn.code) := by
    rw [hentry, hashBackupCode, String.toList_append, List.drop_left, String.ofList_toList]
  rw [BackupCode.opens, hprefix, hstored, hbcrypt, Bool.not_false, Bool.true_and]

/-- A stand-in for the primitives: a hash is what it was made from, and the token of a secret is
the secret. -/
def plainCrypto : MfaCrypto where
  totp _ secret token := secret == token
  bcryptHash _ plain := plain
  bcryptCompare plain hash := plain == hash

theorem plainCrypto_sound : BcryptSound plainCrypto := by
  intro salt plain plain'
  rfl

/-! ## Accounts and writes -/

/-- The fields of a school or a user the handlers read and write. -/
structure MfaAccount where
  isActive : Bool := true
  mfaEnabled : Bool := false
  mfaSecret : Option String := none
  mfaBackupCodes : List BackupCode := []
  deriving DecidableEq, Repr

/-- The two sets of handlers. -/
inductive MfaOwner
  | school
  | user
  deriving DecidableEq, Repr

/-- Why a handler wrote nothing: a response, or the status a consumption returns. -/
inductive MfaRefusal
  | response (status : Nat) (error code : String)
  | status (status : String)
  deriving DecidableEq, Repr

/-- The one update of a handler. -/
inductive MfaWrite
  | setup (secret : String) (codes : List BackupCode)
  | enable (secret : String)
  | disable
  | regenerate (codes : List BackupCode)
  | consume (presented : String) (idx : Nat)
  deriving DecidableEq, Repr

/-- The entry the filter of a consumption asks for: still unused, and of an active account where
a school is concerned. -/
def MfaAccount.unusedAt (owner : MfaOwner) (account : MfaAccount) (idx : Nat) : Option BackupCode :=
  if owner = .school ∧ account.isActive = false then none
  else account.mfaBackupCodes[idx]?.filter fun entry => !entry.used

/-- The account after an update.  A consumption whose filter matches nothing changes nothing. -/
def MfaWrite.apply (owner : MfaOwner) (account : MfaAccount) : MfaWrite → MfaAccount
  | .setup secret codes => { account with mfaSecret := some secret, mfaBackupCodes := codes }
  | .enable secret => { account with mfaEnabled := true, mfaSecret := some secret }
  | .disable => { account with mfaEnabled := false, mfaSecret := none, mfaBackupCodes := [] }
  | .regenerate codes => { account with mfaBackupCodes := codes }
  | .consume _ idx =>
    match account.unusedAt owner idx with
    | none => account
    | some _ => { account with
        mfaBackupCodes := account.mfaBackupCodes.modify idx fun entry => { entry with used := true } }

/-- What `setupMfa` and `regenerateBackupCodes` draw at random. -/
structure DrawnMfa where
  secret : String
  codes : List DrawnCode
  deriving DecidableEq, Repr

def hashBackupCodes (crypto : MfaCrypto) (drawn : List DrawnCode) : List BackupCode :=
  drawn.map fun code => { hash := hashBackupCode crypto code }

/-! ## The checks of the handlers -/

/-- `SCHOOL_ADMIN_PASSWORD_HASH` and `SCHOOL_ADMIN_PASSWORD`. -/
structure MfaEnv where
  adminPasswordHash : Option String := none
  adminPassword : Option String := none

def schoolNotFound : MfaRefusal := .response 404 "School not found." "SCHOOL_NOT_FOUND"

def userNotFound : MfaRefusal := .response 404 "User not found." "USER_NOT_FOUND"

def missingSlug : MfaRefusal :=
  .response 400 "X-School-Slug header is required." "MISSING_SCHOOL_SLUG"

def mfaNotAvailable : MfaRefusal :=
  .response 403 "User-level MFA is not available for environment-based super-admin accounts."
    "MFA_NOT_AVAILABLE"

def invalidTotp (status : Nat) : MfaRefusal :=
  .response status "Invalid TOTP code." "INVALID_MFA_CODE"

/-- `findOne({ slug, isActive: true })`, or `findById`. -/
def findAccount (owner : MfaOwner) (account : Option MfaAccount) : Option MfaAccount :=
  account.filter fun account => owner = .user || account.isActive

/-- The user id of a request, unless it is the super admin's. -/
def mfaUserId (userId : Option String) : Option String :=
  (truthy userId).filter (· ≠ "super_admin")

section Handlers
variable (crypto : MfaCrypto) (now : Nat)

def setupMfa (slug : Option String) (account : Option MfaAccount) (drawn : DrawnMfa) :
    Except MfaRefusal MfaWrite := do
  let _ ← orThrow (truthy slug) missingSlug
  let school ← orThrow (findAccount .school account) schoolNotFound
  require (!school.mfaEnabled) <| .response 400
    "MFA is already active for this school. Disable MFA before setting it up again."
    "MFA_ALREADY_ACTIVE"
  pure (.setup drawn.secret (hashBackupCodes crypto drawn.codes))

/-- Nothing asks whether the user's factor is active. -/
def setupUserMfa (userId : Option String) (account : Option MfaAccount) (drawn : DrawnMfa) :
    Except MfaRefusal MfaWrite := do
  let _ ← orThrow (mfaUserId userId) mfaNotAvailable
  let _ ← orThrow (findAccount .user account) userNotFound
  pure (.setup drawn.secret (hashBackupCodes crypto drawn.codes))

/-- The check of `verifyAndEnable*`: the code has to be valid for the secret of the body, or else
for the stored one. -/
def verifyAndEnable (account : MfaAccount) (secret : Option String) (code : String) :
    Except MfaRefusal MfaWrite := do
  let verifySecret ← orThrow ((truthy secret).or (truthy account.mfaSecret)) <|
    .response 400 "MFA setup must be completed first." "MFA_NOT_SETUP"
  require (crypto.totp now verifySecret code) (invalidTotp 400)
  pure (.enable verifySecret)

def verifyAndEnableMfa (slug : Option String) (account : Option MfaAccount)
    (secret code : Option String) : Except MfaRefusal MfaWrite := do
  let _ ← orThrow (truthy slug) missingSlug
  let code ← orThrow (truthy code) <| .response 400 "TOTP code is required." "MISSING_MFA_CODE"
  let school ← orThrow (findAccount .school account) schoolNotFound
  verifyAndEnable crypto now school secret code

def verifyAndEnableUserMfa (userId : Option String) (account : Option MfaAccount)
    (secret code : Option String) : Except MfaRefusal MfaWrite := do
  let _ ← orThrow (mfaUserId userId) mfaNotAvailable
  let code ← orThrow (truthy code) <| .response 400 "TOTP code is required." "MISSING_MFA_CODE"
  let user ← orThrow (findAccount .user account) userNotFound
  verifyAndEnable crypto now user secret code

/-- The check of `disable*`: a code that is valid for the stored secret. -/
def disableFactor (account : MfaAccount) (code : String) (ownerName : String) :
    Except MfaRefusal MfaWrite := do
  let secret ← orThrow (truthy account.mfaSecret) <|
    .response 400 ("MFA is not configured for this " ++ ownerName ++ ".") "MFA_NOT_CONFIGURED"
  require (crypto.totp now secret code) (invalidTotp 400)
  pure .disable

def disableMfa (slug : Option String) (account : Option MfaAccount) (code : Option String) :
    Except MfaRefusal MfaWrite := do
  let _ ← orThrow (truthy slug) missingSlug
  let code ← orThrow (truthy code) <|
    .response 400 "TOTP code is required to disable MFA." "MISSING_MFA_CODE"
  let school ← orThrow (findAccount .school account) schoolNotFound
  disableFactor crypto now school code "school"

def disableUserMfa (userId : Option String) (account : Option MfaAccount) (code : Option String) :
    Except MfaRefusal MfaWrite := do
  let _ ← orThrow (mfaUserId userId) mfaNotAvailable
  let code ← orThrow (truthy code) <|
    .response 400 "TOTP code is required to disable MFA." "MISSING_MFA_CODE"
  let user ← orThrow (findAccount .user account) userNotFound
  disableFactor crypto now user code "user"

/-- The password alternative of `regenerateBackupCodes`.  Comparing buffers of different lengths
throws. -/
def checkAdminPassword (env : MfaEnv) (password : String) : Except MfaRefusal Bool :=
  match truthy env.adminPasswordHash, truthy env.adminPassword with
  | some hash, _ => .ok (crypto.bcryptCompare password hash)
  | none, some expected =>
    if password.utf8ByteSize = expected.utf8ByteSize then .ok (password == expected)
    else .error (.response 500 "Failed to regenerate backup codes." "MFA_REGENERATE_ERROR")
  | none, none => .ok false

/-- The step-up verification of `regenerateBackupCodes`; a code that is sent has to be valid. -/
def verifyStepUp (env : MfaEnv) (school : MfaAccount) (code password : Option String) :
    Except MfaRefusal Unit :=
  match truthy code, truthy password with
  | some code, _ => do
    let secret ← orThrow (truthy school.mfaSecret) <| .response 400
      "MFA is not configured for this school. Cannot use TOTP code for verification."
      "MFA_NOT_CONFIGURED"
    require (crypto.totp now secret code) (invalidTotp 401)
  | none, some password => do
    let verified ← checkAdminPassword crypto env password
    require verified (.response 401 "Invalid password." "INVALID_PASSWORD")
  | none, none =>
    .error (.response 400 "Either a valid TOTP code or password is required."
      "VERIFICATION_REQUIRED")

def regenerateBackupCodes (env : MfaEnv) (slug : Option String) (account : Option MfaAccount)
    (code password : Option String) (drawn : List DrawnCode) : Except MfaRefusal MfaWrite := do
  let _ ← orThrow (truthy slug) missingSlug
  let school ← orThrow (findAccount .school account) schoolNotFound
  verifyStepUp crypto now env school code password
  pure (.regenerate (hashBackupCodes crypto drawn))

/-- The read of `consumeSchoolBackupCode` and `consumeUserBackupCode`: the position the code was
matched at goes into the update. -/
def consumeBackupCode (account : Option MfaAccount) (rateLimited : Bool) (code : String) :
    Except MfaRefusal MfaWrite := do
  let account ← orThrow account (.status "not_found")
  require (!rateLimited) (.status "rate_limited")
  match findMatchingBackupCodeIndex crypto account.mfaBackupCodes code with
  | .ofNat idx => pure (.consume code idx)
  | .negSucc _ => .error (.status "invalid")

def consumeSchoolBackupCode (account : Option MfaAccount) (rateLimited : Bool) (code : String) :
    Except MfaRefusal MfaWrite :=
  consumeBackupCode crypto (findAccount .school account) rateLimited code

def consumeUserBackupCode (account : Option MfaAccount) (rateLimited : Bool) (code : String) :
    Except MfaRefusal MfaWrite :=
  consumeBackupCode crypto (findAccount .user account) rateLimited code

end Handlers

/-! ## What a handler that got through will write -/

section Writes
variable {crypto : MfaCrypto} {now : Nat} {env : MfaEnv} {key : Option String}
  {account : Option MfaAccount} {found : MfaAccount} {secret code password : Option String}
  {write : MfaWrite}

theorem setupMfa_ok {drawn : DrawnMfa} (h : setupMfa crypto key account drawn = .ok write) :
    (∃ school, findAccount .school account = some school ∧ school.mfaEnabled = false) ∧
      write = .setup drawn.secret (hashBackupCodes crypto drawn.codes) := by
  obtain ⟨slug, -, h⟩ := orThrow_bind_ok_iff.mp h
  obtain ⟨school, hschool, h⟩ := orThrow_bind_ok_iff.mp h
  obtain ⟨hoff, h⟩ := require_bind_ok_iff.mp h
  exact ⟨⟨school, hschool, by simpa using hoff⟩, (pure_ok_iff.mp h).symm⟩

theorem setupUserMfa_ok {drawn : DrawnMfa} (h : setupUserMfa crypto key account drawn = .ok write) :
    write = .setup drawn.secret (hashBackupCodes crypto drawn.codes) := by
  obtain ⟨userId, -, h⟩ := orThrow_bind_ok_iff.mp h
  obtain ⟨user, -, h⟩ := orThrow_bind_ok_iff.mp h
  exact (pure_ok_iff.mp h).symm

theorem verifyAndEnable_ok {code : String}
    (h : verifyAndEnable crypto now found secret code = .ok write) :
    ∃ verifySecret, (truthy secret).or (truthy found.mfaSecret) = some verifySecret ∧
      crypto.totp now verifySecret code = true ∧ write = .enable verifySecret := by
  obtain ⟨verifySecret, hsecret, h⟩ := orThrow_bind_ok_iff.mp h
  obtain ⟨hvalid, h⟩ := require_bind_ok_iff.mp h
  exact ⟨verifySecret, hsecret, hvalid, (pure_ok_iff.mp h).symm⟩

theorem verifyAndEnableMfa_ok (h : verifyAndEnableMfa crypto now key account secret code = .ok write) :
    ∃ found token, findAccount .school account = some found ∧ truthy code = some token ∧
      verifyAndEnable crypto now found secret token = .ok write := by
  obtain ⟨slug, -, h⟩ := orThrow_bind_ok_iff.mp h
  obtain ⟨token, hcode, h⟩ := orThrow_bind_ok_iff.mp h
  obtain ⟨found, hfound, h⟩ := orThrow_bind_ok_iff.mp h
  exact ⟨found, token, hfound, hcode, h⟩

theorem verifyAndEnableUserMfa_ok
    (h : verifyAndEnableUserMfa crypto now key account secret code = .ok write) :
    ∃ found token, findAccount .user account = some found ∧ truthy code = some token ∧
      verifyAndEnable crypto now found secret token = .ok write := by
  obtain ⟨userId, -, h⟩ := orThrow_bind_ok_iff.mp h
  obtain ⟨token, hcode, h⟩ := orThrow_bind_ok_iff.mp h
  obtain ⟨found, hfound, h⟩ := orThrow_bind_ok_iff.mp h
  exact ⟨found, token, hfound, hcode, h⟩

theorem disableFactor_ok {code ownerName : String}
    (h : disableFactor crypto now found code ownerName = .ok write) :
    ∃ secret, truthy found.mfaSecret = some secret ∧ crypto.totp now secret code = true ∧
      write = .disable := by
  obtain ⟨secret, hsecret, h⟩ := orThrow_bind_ok_iff.mp h
  obtain ⟨hvalid, h⟩ := require_bind_ok_iff.mp h
  exact ⟨secret, hsecret, hvalid, (pure_ok_iff.mp h).symm⟩

theorem disableMfa_ok (h : disableMfa crypto now key account code = .ok write) :
    ∃ found token, findAccount .school account = some found ∧ truthy code = some token ∧
      disableFactor crypto now found token "school" = .ok write := by
  obtain ⟨slug, -, h⟩ := orThrow_bind_ok_iff.mp h
  obtain ⟨token, hcode, h⟩ := orThrow_bind_ok_iff.mp h
  obtain ⟨found, hfound, h⟩ := orThrow_bind_ok_iff.mp h
  exact ⟨found, token, hfound, hcode, h⟩

theorem disableUserMfa_ok (h : disableUserMfa crypto now key account code = .ok write) :
    ∃ found token, findAccount .user account = some found ∧ truthy code = some token ∧
      disableFactor crypto now found token "user" = .ok write := by
  obtain ⟨userId, -, h⟩ := orThrow_bind_ok_iff.mp h
  obtain ⟨token, hcode, h⟩ := orThrow_bind_ok_iff.mp h
  obtain ⟨found, hfound, h⟩ := orThrow_bind_ok_iff.mp h
  exact ⟨found, token, hfound, hcode, h⟩

theorem regenerateBackupCodes_ok {drawn : List DrawnCode}
    (h : regenerateBackupCodes crypto now env key account code password drawn = .ok write) :
    write = .regenerate (hashBackupCodes crypto drawn) := by
  obtain ⟨slug, -, h⟩ := orThrow_bind_ok_iff.mp h
  obtain ⟨school, -, h⟩ := orThrow_bind_ok_iff.mp h
  obtain ⟨_, -, h⟩ := bind_ok_iff.mp h
  exact (pure_ok_iff.mp h).symm

theorem consumeBackupCode_ok {rateLimited : Bool} {code : String}
    (h : consumeBackupCode crypto account rateLimited code = .ok write) :
    ∃ idx : Nat, write = .consume code idx := by
  obtain ⟨found, -, h⟩ := orThrow_bind_ok_iff.mp h
  obtain ⟨-, h⟩ := require_bind_ok_iff.mp h
  split at h
  · exact ⟨_, (pure_ok_iff.mp h).symm⟩
  · cases h

end Writes

/-! ## Calls -/

/-- A call of a handler, with its body and what it draws at random. -/
inductive MfaCall
  | setupMfa (drawn : DrawnMfa)
  | verifyAndEnableMfa (secret code : Option String)
  | disableMfa (code : Option String)
  | regenerateBackupCodes (code password : Option String) (drawn : List DrawnCode)
  | consumeSchoolBackupCode (rateLimited : Bool) (code : String)
  | setupUserMfa (drawn : DrawnMfa)
  | verifyAndEnableUserMfa (secret code : Option String)
  | disableUserMfa (code : Option String)
  | consumeUserBackupCode (rateLimited : Bool) (code : String)
  deriving DecidableEq, Repr

namespace MfaCall

def owner : MfaCall → MfaOwner
  | setupMfa _ | verifyAndEnableMfa .. | disableMfa _ | regenerateBackupCodes .. |
    consumeSchoolBackupCode .. => .school
  | setupUserMfa _ | verifyAndEnableUserMfa .. | disableUserMfa _ | consumeUserBackupCode .. => .user

/-- The backup codes a call draws. -/
def drawn : MfaCall → List DrawnCode
  | setupMfa drawn | setupUserMfa drawn => drawn.codes
  | regenerateBackupCodes _ _ drawn => drawn
  | _ => []

/-- The read half of the handler, for the slug or the user id of the request and the account that
has it. -/
def read (crypto : MfaCrypto) (env : MfaEnv) (now : Nat) (key : Option String)
    (account : Option MfaAccount) : MfaCall → Except MfaRefusal MfaWrite
  | setupMfa drawn => StellarEduPay.setupMfa crypto key account drawn
  | verifyAndEnableMfa secret code =>
    StellarEduPay.verifyAndEnableMfa crypto now key account secret code
  | disableMfa code => StellarEduPay.disableMfa crypto now key account code
  | regenerateBackupCodes code password drawn =>
    StellarEduPay.regenerateBackupCodes crypto now env key account code password drawn
  | consumeSchoolBackupCode rateLimited code =>
    StellarEduPay.consumeSchoolBackupCode crypto account rateLimited code
  | setupUserMfa drawn => StellarEduPay.setupUserMfa crypto key account drawn
  | verifyAndEnableUserMfa secret code =>
    StellarEduPay.verifyAndEnableUserMfa crypto now key account secret code
  | disableUserMfa code => StellarEduPay.disableUserMfa crypto now key account code
  | consumeUserBackupCode rateLimited code =>
    StellarEduPay.consumeUserBackupCode crypto account rateLimited code

end MfaCall

/-- The list of backup codes a write brings. -/
def MfaWrite.codes : MfaWrite → List BackupCode
  | .setup _ codes | .regenerate codes => codes
  | .enable _ | .disable | .consume .. => []

/-- A call brings the codes it drew. -/
theorem MfaCall.read_codes {crypto : MfaCrypto} {env : MfaEnv} {now : Nat} {key : Option String}
    {account : Option MfaAccount} {call : MfaCall} {write : MfaWrite}
    (h : call.read crypto env now key account = .ok write) :
    write.codes = hashBackupCodes crypto call.drawn := by
  cases call with
  | setupMfa drawn =>
    obtain ⟨-, rfl⟩ := setupMfa_ok h
    rfl
  | setupUserMfa drawn =>
    obtain rfl := setupUserMfa_ok h
    rfl
  | regenerateBackupCodes code password drawn =>
    obtain rfl := regenerateBackupCodes_ok h
    rfl
  | verifyAndEnableMfa secret code =>
    obtain ⟨_, _, -, -, h⟩ := verifyAndEnableMfa_ok h
    obtain ⟨_, -, -, rfl⟩ := verifyAndEnable_ok h
    rfl
  | verifyAndEnableUserMfa secret code =>
    obtain ⟨_, _, -, -, h⟩ := verifyAndEnableUserMfa_ok h
    obtain ⟨_, -, -, rfl⟩ := verifyAndEnable_ok h
    rfl
  | disableMfa code =>
    obtain ⟨_, _, -, -, h⟩ := disableMfa_ok h
    obtain ⟨_, -, -, rfl⟩ := disableFactor_ok h
    rfl
  | disableUserMfa code =>
    obtain ⟨_, _, -, -, h⟩ := disableUserMfa_ok h
    obtain ⟨_, -, -, rfl⟩ := disableFactor_ok h
    rfl
  | consumeSchoolBackupCode rateLimited code =>
    obtain ⟨_, rfl⟩ := consumeBackupCode_ok h
    rfl
  | consumeUserBackupCode rateLimited code =>
    obtain ⟨_, rfl⟩ := consumeBackupCode_ok h
    rfl

end StellarEduPay

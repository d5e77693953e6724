import StellarEduPay.MfaAccounts
import StellarEduPay.RefreshRotation

/-! # Logging in with a second factor (`handleLogin` in `controllers/authController.js`)

`verifyBackupCode` is asynchronous and `handleLogin` does not await it: what it compares with `-1`,
and splices into the path of its update, is a promise.  The value it computes with is therefore
a value of the language here, not an index.

What the login asks of other services (the lockout counters, the school's policy) is part of an
attempt.  The store object it asks to keep the refresh token is that of `services/sessionStore.js`,
which has no `setToken`: no login gets as far as its cookies.
-/
namespace StellarEduPay
open Checks

/-! ## What the source computes with -/

/-- A number, or a promise of one. -/
inductive JsIndex
  | number (n : Int)
  | promise (n : Int)
  deriving DecidableEq, Repr

/-- `x === n` -/
def JsIndex.strictEq (x : JsIndex) (n : Int) : Bool :=
  match x with
  | number m => m == n
  | promise _ => false

/-- The text of a value in a template string. -/
def JsIndex.text : JsIndex → String
  | number n => toString n
  | promise _ => "[object Promise]"

/-- `verifyBackupCode`, an `async` function. -/
def verifyBackupCode (crypto : MfaCrypto) (mfaBackupCodes : List BackupCode) (code : String) :
    JsIndex :=
  .promise (findMatchingBackupCodeIndex crypto mfaBackupCodes code)

/-- `$set: { 'mfaBackupCodes.<key>.used': true }`: a key that is not a position of the array sets
nothing. -/
def setUsed (codes : List BackupCode) (key : String) : List BackupCode :=
  if isDecimalDigits key then codes.modify (decimalValue key) fun e => { e with used := true }
  else codes

/-! ## The handler -/

/-- The fields of a user document the login reads. -/
structure LoginUser where
  id : String
  email : String
  passwordHash : String
  schoolId : Option String
  roles : List String
  factor : MfaAccount
  deriving DecidableEq, Repr

/-- The variables of the environment, and the primitives.  `toLowerCase` only feeds the lookup. -/
structure LoginEnv where
  crypto : MfaCrypto
  toLowerCase : String → String
  adminUsername : Option String := none
  adminPasswordHash : Option String := none
  adminPassword : Option String := none
  requireMfa : Bool := false

/-- The body of a request and what the services answer while it is handled.  An `mfaCode` is
missing when it is falsy, and a string otherwise. -/
structure LoginAttempt where
  now : Nat
  lockedOut : Bool := false
  dbFailed : Bool := false
  schoolRequiresMfa : Bool := false
  username : Option String := none
  email : Option String
  password : Option String
  mfaCode : Option String
  deriving DecidableEq, Repr

/-- The claims of an access token. -/
structure JwtPayload where
  role : String
  userId : String
  username : Option String := none
  schoolId : Option String := none
  roles : List String
  mfaSetupPending : Bool := false
  deriving DecidableEq, Repr

inductive LoginResponse
  | refused (status : Nat) (error code : String)
  | requiresMfa
  | tokens (payload : JwtPayload)
  deriving DecidableEq, Repr

def invalidCredentials : LoginResponse :=
  .refused 401 "Invalid credentials." "INVALID_CREDENTIALS"

/-- `issueRefreshToken` returns: the store has a `setToken`, and a `setSession` whose result has a
`.catch`. -/
def TokenStore.issuesRefreshToken {σ : Type} (store : TokenStore σ) : Bool :=
  match store.setToken.await?, store.setSession with
  | some _, .async _ => true
  | _, _ => false

/-- The last step of a login: both cookies are set unless `issueRefreshToken` throws. -/
def issueTokens (payload : JwtPayload) : LoginResponse :=
  if getStore.issuesRefreshToken then .tokens payload
  else .refused 500 "Authentication service unavailable." "TOKEN_STORE_ERROR"

/-- The login of the administrator of the environment. -/
def adminLogin (env : LoginEnv) (a : LoginAttempt) (loginId : String) : LoginResponse :=
  match truthy env.adminUsername, truthy env.adminPasswordHash, truthy env.adminPassword with
  | some envUsername, hash, plain =>
    if hash = none ∧ plain = none then
      .refused 500 "Server misconfiguration: ADMIN_USERNAME or ADMIN_PASSWORD is not set."
        "AUTH_MISCONFIGURED"
    else
      let usernameMatch := loginId ≠ "" && loginId == envUsername
      let credValid := usernameMatch && (truthy a.password).any fun password =>
        match hash with
        | some hash => env.crypto.bcryptCompare password hash
        | none => some password == plain
      if credValid then
        issueTokens
          { role := "admin", username := some loginId, userId := "super_admin", roles := ["super_admin"] }
      else invalidCredentials
  | none, _, _ =>
    .refused 500 "Server misconfiguration: ADMIN_USERNAME or ADMIN_PASSWORD is not set."
      "AUTH_MISCONFIGURED"

def MfaAccount.personalMfa (factor : MfaAccount) : Bool :=
  factor.mfaEnabled && (truthy factor.mfaSecret).isSome

/-- The MFA check: the user after its update, or the response that ends the login. -/
def checkMfa (crypto : MfaCrypto) (now : Nat) (user : LoginUser) (mfaCode : Option String) :
    Except LoginResponse LoginUser :=
  match user.factor.mfaEnabled, truthy user.factor.mfaSecret with
  | true, some secret =>
    match mfaCode with
    | none => .error .requiresMfa
    | some code =>
      if crypto.totp now secret code then .ok user
      else
        let bcIdx := verifyBackupCode crypto user.factor.mfaBackupCodes code
        if bcIdx.strictEq (-1) then .error (.refused 401 "Invalid MFA code." "INVALID_MFA_CODE")
        else .ok { user with factor := { user.factor with
          mfaBackupCodes := setUsed user.factor.mfaBackupCodes bcIdx.text } }
  | _, _ => .ok user

/-- The login of a stored user: the response, and the user after it. -/
def userLogin (env : LoginEnv) (a : LoginAttempt) (user : LoginUser) : LoginResponse × LoginUser :=
  if (truthy a.password).any (env.crypto.bcryptCompare · user.passwordHash) then
    match checkMfa env.crypto a.now user a.mfaCode with
    | .error response => (response, user)
    | .ok user' =>
      let mfaSetupPending := !user.factor.personalMfa &&
        (env.requireMfa || (user.schoolId.isSome && a.schoolRequiresMfa))
      (issueTokens
        { role := "user", userId := user.id, schoolId := user.schoolId, roles := user.roles
          mfaSetupPending := mfaSetupPending }, user')
  else (invalidCredentials, user)

/-- `handleLogin`, where `user` is the active user of the collection an address may find. -/
def handleLogin (env : LoginEnv) (user : LoginUser) (a : LoginAttempt) : LoginResponse × LoginUser :=
  let loginId := env.toLowerCase (jsTrim (((truthy a.email).or (truthy a.username)).getD ""))
  if a.lockedOut then
    (.refused 429 "Too many failed login attempts. Account temporarily locked." "ACCOUNT_LOCKED", user)
  else if (truthy a.email).isNone then (adminLogin env a loginId, user)
  else if a.dbFailed then
    (.refused 503 "Authentication service unavailable." "AUTH_DB_ERROR", user)
  else if loginId = user.email then userLogin env a user
  else (invalidCredentials, user)

/-! ## Sequences of logins -/

/-- A login of a sequence: the user before it, its response, and the user after it. -/
structure LoginRecord where
  before : LoginUser
  attempt : LoginAttempt
  response : LoginResponse
  after : LoginUser
  deriving DecidableEq, Repr

def LoginRecord.of (env : LoginEnv) (user : LoginUser) (a : LoginAttempt) : LoginRecord where
  before := user
  attempt := a
  response := (handleLogin env user a).1
  after := (handleLogin env user a).2

def logins (env : LoginEnv) (user : LoginUser) : List LoginAttempt → List LoginRecord
  | [] => []
  | a :: rest => .of env user a :: logins env (handleLogin env user a).2 rest

namespace LoginRecord
variable (env : LoginEnv) (r : LoginRecord)

/-- Tokens were issued for a stored user. -/
def issued : Bool :=
  match r.response with
  | .tokens payload => payload.role == "user"
  | _ => false

/-- The code sent is a TOTP code accepted for the user's secret. -/
def byTotp : Bool :=
  (truthy r.before.factor.mfaSecret).any fun secret =>
    r.attempt.mfaCode.any (env.crypto.totp r.attempt.now secret)

/-- The code sent matches the unused entry at a position. -/
def matchesAt (i : Nat) : Bool :=
  r.before.factor.mfaBackupCodes[i]?.any fun entry =>
    !entry.used && r.attempt.mfaCode.any (entry.opens env.crypto)

/-- The login got through by the backup code at a position. -/
def byBackupCode (i : Nat) : Bool := r.issued && !r.byTotp env && r.matchesAt env i

/-- Tokens were issued for the right password and a code of one of the two kinds, and a backup code
is recorded as used. -/
def Sound : Prop :=
  r.issued = true →
    (truthy r.attempt.password).any (env.crypto.bcryptCompare · r.before.passwordHash) = true ∧
      (r.byTotp env = true ∨ ∃ i, r.matchesAt env i = true ∧
        r.after.factor.mfaBackupCodes[i]?.any BackupCode.used = true)

end LoginRecord

/-- **Sound logins**: each login is sound, and each backup code lets at most one through. -/
structure MfaSound (env : LoginEnv) (records : List LoginRecord) : Prop where
  sound : ∀ r ∈ records, r.Sound env
  once : ∀ i, records.countP (·.byBackupCode env i) ≤ 1

section Login
variable {env : LoginEnv} {user : LoginUser}

/-- **No token is issued**: the refresh token cannot be stored. -/
theorem issueTokens_refused (payload : JwtPayload) :
    issueTokens payload =
      .refused 500 "Authentication service unavailable." "TOKEN_STORE_ERROR" :=
  if_neg (by decide)

theorem adminLogin_issues_none (a : LoginAttempt) (loginId : String) (payload : JwtPayload) :
    adminLogin env a loginId ≠ .tokens payload := by
  unfold adminLogin
  split
  · split
    · simp
    · dsimp only
      split
      · simp [issueTokens_refused]
      · simp [invalidCredentials]
  · simp

theorem checkMfa_issues_none (crypto : MfaCrypto) (now : Nat) (mfaCode : Option String)
    (payload : JwtPayload) : checkMfa crypto now user mfaCode ≠ .error (.tokens payload) := by
  unfold checkMfa
  split
  · split
    · simp
    · split
      · simp
      · dsimp only
        split <;> simp
  · simp

theorem userLogin_issues_none (a : LoginAttempt) (payload : JwtPayload) :
    (userLogin env a user).1 ≠ .tokens payload := by
  unfold userLogin
  split
  · split
    · rename_i response hcheck
      intro htokens
      obtain rfl : response = .tokens payload := htokens
      exact checkMfa_issues_none _ _ _ _ hcheck
    · simp [issueTokens_refused]
  · simp [invalidCredentials]

theorem handleLogin_issues_none (a : LoginAttempt) (payload : JwtPayload) :
    (handleLogin env user a).1 ≠ .tokens payload := by
  unfold handleLogin
  dsimp only
  split
  · simp
  split
  · exact adminLogin_issues_none a _ payload
  split
  · simp
  split
  · exact userLogin_issues_none a payload
  · simp [invalidCredentials]

/-- Whatever logins come one after the other, none is answered with tokens. -/
theorem logins_issue_none (attempts : List LoginAttempt) :
    ∀ r ∈ logins env user attempts, ∀ payload, r.response ≠ .tokens payload := by
  induction attempts generalizing user with
  | nil => simp [logins]
  | cons a rest ih =>
    intro r hr
    rcases List.mem_cons.mp hr with rfl | hr
    · exact handleLogin_issues_none a
    · exact ih r hr

end Login

/-- **Logins with a second factor** are sound, of any user and in any sequence: no login of this
store object is answered with tokens. -/
theorem mfa_logins_sound (env : LoginEnv) (user : LoginUser) (attempts : List LoginAttempt) :
    (∀ r ∈ logins env user attempts, ∀ payload, r.response ≠ .tokens payload) ∧
      MfaSound env (logins env user attempts) := by
  have hnone : ∀ r ∈ logins env user attempts, r.issued = false := by
    intro r hr
    unfold LoginRecord.issued
    split
    · rename_i payload hresponse
      exact absurd hresponse (logins_issue_none attempts r hr payload)
    · rfl
  refine ⟨logins_issue_none attempts, fun r hr hissued => ?_, fun i => ?_⟩
  · rw [hnone r hr] at hissued
    cases hissued
  · have hzero : (logins env user attempts).countP (·.byBackupCode env i) = 0 :=
      List.countP_eq_zero.mpr fun r hr => by simp [LoginRecord.byBackupCode, hnone r hr]
    omega

/-- A user with an active factor and one unused backup code. -/
def enrolledLogin : LoginUser where
  id := "u1"
  email := "ada@school.org"
  passwordHash := "hunter2"
  schoolId := some "SCH"
  roles := ["owner"]
  factor :=
    { mfaEnabled := true, mfaSecret := some "JBSW", mfaBackupCodes := [⟨"bcrypt$AAAAA00001", false⟩] }

def plainLogin : LoginEnv where
  crypto := plainCrypto
  toLowerCase := id

end StellarEduPay

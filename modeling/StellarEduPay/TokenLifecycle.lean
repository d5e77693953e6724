import StellarEduPay.AccessTokens
import StellarEduPay.MfaLogin
import StellarEduPay.Runs

/-! # The life of an access token

`handleLogin`, `handleRefresh` and the last step of an MFA enrolment hand access tokens out; role
changes, deactivation and password resets revoke them by raising the user's `tokenVersion`
(`revokeUserSessions` in `controllers/userController.js`).  The first two need methods of the store
object that it does not have, and the third is behind a guard that asks for a token.

A step is one request, or one update of a user where a request makes several.  A revocation marks the
tokens of its user that are out.  What `handleLogin` signs and does not hand out is gone.
-/
namespace StellarEduPay
open Checks Runs Function

/-- A user document. -/
structure StoredUser where
  login : LoginUser
  isActive : Bool := false
  tokenVersion : Nat := 0
  deriving DecidableEq, Repr

/-- A token that was minted and handed out, and whether its user was revoked since. -/
structure MintedToken where
  token : AccessToken
  revoked : Bool := false
  deriving DecidableEq, Repr

def MintedToken.owner (m : MintedToken) : Option String := m.token.claims.userId

/-- `refreshMetas` are the payloads stored with the refresh tokens that were handed out. -/
structure TokenSystem where
  clock : Nat
  users : String → Option StoredUser
  minted : List MintedToken
  refreshMetas : List JwtPayload

def TokenSystem.start : TokenSystem := ⟨0, fun _ => none, [], []⟩

/-- The environment: the login's, the secrets, and `JWT_ACCESS_TOKEN_TTL`. -/
structure SessionEnv where
  login : LoginEnv
  tokens : TokenEnv
  accessTTL : Nat

/-! ## Minting -/

/-- The claims `jwt.sign` is given. -/
def JwtPayload.claims (payload : JwtPayload) : Claims where
  role := some payload.role
  roles := payload.roles
  schoolId := payload.schoolId
  userId := some payload.userId
  username := payload.username
  mfaSetupPending := payload.mfaSetupPending

/-- `jwt.sign(payload, JWT_SECRET, { expiresIn: accessTTL })` -/
def mint (env : SessionEnv) (now : Nat) (claims : Claims) : MintedToken :=
  { token := ⟨env.tokens.jwtSecret, claims, some (now + env.accessTTL)⟩ }

/-- The payload `handleRefresh` makes of the stored one; none if the account is disabled.  A lookup
that fails leaves it as it was stored. -/
def refreshPayload (env : SessionEnv) (dbFailed schoolRequiresMfa : Bool)
    (users : String → Option StoredUser) (stored : JwtPayload) : Option JwtPayload :=
  if stored.userId = "" ∨ stored.userId = "super_admin" then
    some { stored with mfaSetupPending := false }
  else if dbFailed then some stored
  else match users stored.userId with
  | none => none
  | some user =>
    if user.isActive then
      some { stored with
        roles := user.login.roles
        schoolId := (truthy user.login.schoolId).or stored.schoolId
        mfaSetupPending := !user.login.factor.personalMfa &&
          (env.login.requireMfa || ((truthy user.login.schoolId).isSome && schoolRequiresMfa)) }
    else none

/-- The claims of the token that replaces a restricted one after an enrolment. -/
def enrolledClaims (decoded : Claims) : Claims :=
  { role := decoded.role, userId := decoded.userId, schoolId := decoded.schoolId,
    roles := decoded.roles }

/-! ## Runs -/

/-- What the guards see of the users. -/
def TokenSystem.findUser (s : TokenSystem) (id : String) : Except String (Option SessionUser) :=
  .ok ((s.users id).map fun user => ⟨user.isActive, user.tokenVersion⟩)

inductive TokenAction
  | tick (seconds : Nat)
  | createUser (id email tempPasswordHash schoolId : String) (roles : List String)
  | setPassword (id passwordHash : String)
  | login (id : String) (a : LoginAttempt)
  | refresh (index : Nat) (dbFailed schoolRequiresMfa : Bool)
  | enrol (ipBlocked : Bool) (req : ApiRequest) (refreshCookie : Option String)
      (secret code : Option String)
  | updateUser (id : String) (roles : Option (List String)) (isActive : Option Bool)
  | resetPassword (id passwordHash : String)
  | revokeUserSessions (id : String)
  | deleteUser (id : String)
  deriving DecidableEq, Repr

/-- An update of one user. -/
def TokenSystem.setUser (s : TokenSystem) (id : String) (f : StoredUser → StoredUser) : TokenSystem :=
  { s with users := update s.users id ((s.users id).map f) }

/-- A token for the payload, beside a refresh token that stores it. -/
def TokenSystem.issue (env : SessionEnv) (s : TokenSystem) (payload : JwtPayload) : TokenSystem :=
  { s with
    minted := s.minted ++ [mint env s.clock payload.claims]
    refreshMetas := s.refreshMetas ++ [payload] }

/-- A refresh cookie is looked up by `store.getToken(…).catch(…)`, which throws unless the method is
there and asynchronous. -/
def TokenStore.looksUp {σ : Type} (store : TokenStore σ) : Bool :=
  match store.getToken with
  | .async _ => true
  | _ => false

/-- The handler of an enrolment, for a request that came through. -/
def TokenSystem.enrol (env : SessionEnv) (s : TokenSystem) (decoded : Claims)
    (refreshCookie secret code : Option String) : TokenSystem :=
  let account := (decoded.userId.bind s.users).map (·.login.factor)
  match verifyAndEnableUserMfa env.login.crypto s.clock decoded.userId account secret code with
  | .error _ => s
  | .ok write =>
    let s := s.setUser (decoded.userId.getD "") fun user =>
      { user with login := { user.login with factor := write.apply .user user.login.factor } }
    if decoded.mfaSetupPending && ((truthy refreshCookie).isNone || getStore.looksUp) then
      { s with minted := s.minted ++ [mint env s.clock (enrolledClaims decoded)] }
    else s

/-- Signing is ideal: a signed token that is presented was handed out. -/
def TokenSystem.HandedOut (s : TokenSystem) : RawToken → Prop
  | .signed token => token ∈ s.minted.map (·.token)
  | .garbage => True

instance (s : TokenSystem) (raw : RawToken) : Decidable (s.HandedOut raw) := by
  cases raw <;> unfold TokenSystem.HandedOut <;> infer_instance

def tokenStep (env : SessionEnv) (s : TokenSystem) : TokenAction → Option TokenSystem
  | .tick seconds => some { s with clock := s.clock + seconds }
  | .createUser id email tempPasswordHash schoolId roles =>
    if s.users id = none ∧ schoolId ≠ "" ∧ roles ≠ [] then
      some { s with
        users := update s.users id
          (some { login := ⟨id, email, tempPasswordHash, some schoolId, roles, {}⟩ }) }
    else none
  | .setPassword id passwordHash => some (s.setUser id fun user =>
      { user with login := { user.login with passwordHash := passwordHash }, isActive := true })
  | .login id a =>
    match s.users id with
    | some user =>
      if user.isActive then
        let s := s.setUser id fun user =>
          { user with login := (handleLogin env.login user.login { a with now := s.clock }).2 }
        match (handleLogin env.login user.login { a with now := s.clock }).1 with
        | .tokens payload => some (s.issue env payload)
        | _ => some s
      else none
    | none => none
  | .refresh index dbFailed schoolRequiresMfa =>
    -- `await store.getToken(…)` throws if the store has no such method
    if getStore.getToken.await?.isNone then some s
    else match s.refreshMetas[index]? with
    | some stored =>
      match refreshPayload env dbFailed schoolRequiresMfa s.users stored with
      | some payload => some { s with
          minted := s.minted ++ [mint env s.clock payload.claims]
          refreshMetas := s.refreshMetas ++ [stored] }
      | none => some s
    | none => none
  | .enrol ipBlocked req refreshCookie secret code =>
    if ∀ raw ∈ req.token, s.HandedOut raw then
      match requireSchoolAuth env.tokens ⟨s.clock, ipBlocked, fun _ => false, s.findUser⟩ [] req with
      | .error _ => some s
      | .ok out => some (s.enrol env out.decoded refreshCookie secret code)
    else none
  | .updateUser id roles isActive => some (s.setUser id fun user =>
      { user with
        login := { user.login with roles := roles.getD user.login.roles }
        isActive := isActive.getD user.isActive })
  | .resetPassword id passwordHash => some (s.setUser id fun user =>
      { user with login := { user.login with passwordHash := passwordHash } })
  | .revokeUserSessions id => some
    { (s.setUser id fun user => { user with tokenVersion := user.tokenVersion + 1 }) with
      minted := s.minted.map fun m => if m.owner = some id then { m with revoked := true } else m }
  | .deleteUser id => some { s with users := update s.users id none }

/-! ## What a token is good for -/

/-- The token has not expired, and its user is stored and active and was not revoked since. -/
def InForce (s : TokenSystem) (m : MintedToken) : Prop :=
  m.token.exp.any (· ≤ s.clock) = false ∧ ∃ id user, m.owner = some id ∧ s.users id = some user ∧
    user.isActive = true ∧ m.revoked = false

/-- The token is presented, from an IP that is not blocked, for its user's own school, where one of
its roles is allowed. -/
structure Presents (s : TokenSystem) (m : MintedToken) (ctx : AuthContext) (allowedRoles : List String)
    (req : ApiRequest) : Prop where
  now : ctx.now = s.clock
  unblocked : ctx.ipBlocked = false
  users : ctx.findUser = s.findUser
  token : req.token = some (.signed m.token)
  ownSchool : ∃ id user schoolId, m.owner = some id ∧ s.users id = some user ∧
    truthy user.login.schoolId = some schoolId ∧ req.xSchoolId = some schoolId
  role : allowedRoles = [] ∨ ∃ role ∈ allowedRoles, role ∈ m.token.claims.roles

/-- The routes of the set-up of a personal second factor. -/
def mfaSetupPaths : List String := ["/api/auth/mfa/user/setup", "/api/auth/mfa/user/verify"]

/-- **The life of a token**: it is accepted exactly while it is in force, and with a set-up pending
nowhere but at the set-up. -/
structure TokenLifecycle (env : SessionEnv) (s : TokenSystem) (m : MintedToken) : Prop where
  accepted : m.token.exp.any (· ≤ s.clock) = false →
    ∀ ctx allowedRoles req, Presents s m ctx allowedRoles req →
    ((requireSchoolAuth env.tokens ctx allowedRoles req).isOk = true ↔ InForce s m)
  pending : m.token.claims.mfaSetupPending = true → ∀ ctx allowedRoles req,
    req.token = some (.signed m.token) → req.path ∉ mfaSetupPaths →
      (requireSchoolAuth env.tokens ctx allowedRoles req).isOk = false ∧
        (requireAdminAuth env.tokens ctx req).isOk = false

/-! ## No token is handed out -/

section
variable {env : SessionEnv} {s t : TokenSystem}

/-- Nothing was handed out. -/
structure TokenInv (s : TokenSystem) : Prop where
  minted : s.minted = []
  refreshMetas : s.refreshMetas = []

/-- A request without a token that was handed out does not pass the guard. -/
theorem requireSchoolAuth_refuses (hminted : s.minted = []) {tokens : TokenEnv} {ctx : AuthContext}
    {allowedRoles : List String} {req : ApiRequest} (hreq : ∀ raw ∈ req.token, s.HandedOut raw)
    (out : Authorized) : requireSchoolAuth tokens ctx allowedRoles req ≠ .ok out := by
  intro h
  obtain ⟨claims, hauth, -⟩ := bind_ok_iff.mp h
  obtain ⟨raw, hraw, hverify⟩ := authenticate_ok hauth
  obtain ⟨token, rfl, -⟩ := verify_ok hverify
  have hout := hreq _ hraw
  rw [TokenSystem.HandedOut, hminted] at hout
  exact List.not_mem_nil hout

theorem TokenInv.step (hinv : TokenInv s) {a : TokenAction} (hstep : tokenStep env s a = some t) :
    TokenInv t := by
  cases a with
  | tick seconds =>
    obtain rfl := Option.some.inj hstep
    exact ⟨hinv.minted, hinv.refreshMetas⟩
  | createUser id email tempPasswordHash schoolId roles =>
    simp only [tokenStep, Option.ite_none_right_eq_some, Option.some.injEq] at hstep
    obtain ⟨-, rfl⟩ := hstep
    exact ⟨hinv.minted, hinv.refreshMetas⟩
  | setPassword id passwordHash =>
    obtain rfl := Option.some.inj hstep
    exact ⟨hinv.minted, hinv.refreshMetas⟩
  | login id a =>
    cases huser : s.users id with
    | none => simp [tokenStep, huser] at hstep
    | some user =>
      simp only [tokenStep, huser, Option.ite_none_right_eq_some] at hstep
      obtain ⟨-, hstep⟩ := hstep
      split at hstep
      · rename_i payload htokens
        exact absurd htokens (handleLogin_issues_none _ payload)
      · obtain rfl := Option.some.inj hstep
        exact ⟨hinv.minted, hinv.refreshMetas⟩
  | refresh index dbFailed schoolRequiresMfa =>
    simp only [tokenStep, getStore, StoreMethod.await?, Option.isNone_none, if_true] at hstep
    obtain rfl := Option.some.inj hstep
    exact hinv
  | enrol ipBlocked req refreshCookie secret code =>
    simp only [tokenStep, Option.ite_none_right_eq_some] at hstep
    obtain ⟨hreq, hstep⟩ := hstep
    split at hstep
    · obtain rfl := Option.some.inj hstep
      exact hinv
    · rename_i out hok
      exact absurd hok (requireSchoolAuth_refuses hinv.minted hreq out)
  | updateUser id roles isActive =>
    obtain rfl := Option.some.inj hstep
    exact ⟨hinv.minted, hinv.refreshMetas⟩
  | resetPassword id passwordHash =>
    obtain rfl := Option.some.inj hstep
    exact ⟨hinv.minted, hinv.refreshMetas⟩
  | revokeUserSessions id =>
    obtain rfl := Option.some.inj hstep
    refine ⟨?_, hinv.refreshMetas⟩
    rw [hinv.minted]
    rfl
  | deleteUser id =>
    obtain rfl := Option.some.inj hstep
    exact ⟨hinv.minted, hinv.refreshMetas⟩

end

/-- The sample deployment, whose tokens are good for eight hours. -/
def sampleEnv : SessionEnv :=
  ⟨plainLogin, ⟨"secret", none, fun secret => "access-token of " ++ secret⟩, 28800⟩

/-- A user is created, sets a password and logs in; and tries to enrol. -/
def firstLogin : List TokenAction :=
  [.createUser "u1" "ada@school.org" "-" "SCH" ["owner"], .setPassword "u1" "hunter2",
    .login "u1"
      { now := 0, email := some "ada@school.org", password := some "hunter2", mfaCode := none },
    .enrol false { bearer := some .garbage } none (some "JBSW") (some "JBSW")]

end StellarEduPay

import StellarEduPay.Checks
import StellarEduPay.JsString

/-! # Access tokens and who they let in (`services/tokenService.js`, `middleware/auth.js`)

Signing is ideal: a token is what it was signed as, with its key and its claims, and anything else
is no token at all.  `tokenService` has a key of its own and asks for an issuer and an audience.
-/
namespace StellarEduPay
open Checks

/-! ## Tokens -/

/-- The claims that are read; `roles` is empty where it is missing or no array. -/
structure Claims where
  role : Option String := none
  roles : List String := []
  schoolId : Option String := none
  userId : Option String := none
  sub : Option String := none
  id : Option String := none
  username : Option String := none
  sid : Option String := none
  tokenVersion : Option Nat := none
  mfaSetupPending : Bool := false
  iss : Option String := none
  aud : Option String := none
  deriving DecidableEq, Repr

/-- `role === 'admin'` or a role `super_admin`. -/
def Claims.isSuperAdmin (c : Claims) : Bool := c.role == some "admin" || c.roles.contains "super_admin"

structure AccessToken where
  key : String
  claims : Claims
  exp : Option Nat
  deriving DecidableEq, Repr

/-- A string in the place of a token. -/
inductive RawToken
  | signed (token : AccessToken)
  | garbage
  deriving DecidableEq, Repr

inductive JwtError
  | expired
  | invalid
  deriving DecidableEq, Repr

/-- `jwt.verify(token, key)`; times are in seconds. -/
def jwtVerify (key : String) (now : Nat) : RawToken → Except JwtError Claims
  | .garbage => .error .invalid
  | .signed token =>
    if token.key ≠ key then .error .invalid
    else if token.exp.any (· ≤ now) then .error .expired
    else .ok token.claims

/-- The environment's secrets; `hkdf` is the derivation of a key from a secret. -/
structure TokenEnv where
  jwtSecret : String
  jwtSigningKey : Option String
  hkdf : String → String

/-- `getSigningKey` -/
def TokenEnv.signingKey (env : TokenEnv) : String :=
  (truthy env.jwtSigningKey).getD (env.hkdf env.jwtSecret)

def ISSUER : String := "stellaredupay-api"

def AUDIENCE : String := "stellaredupay-admin"

/-- `tokenService.sign` -/
def TokenEnv.sign (env : TokenEnv) (payload : Claims) (sid : String) (now expiresIn : Nat) :
    AccessToken where
  key := env.signingKey
  claims := { payload with sid := some sid, iss := some ISSUER, aud := some AUDIENCE }
  exp := some (now + expiresIn)

/-- `tokenService.verify` -/
def TokenEnv.verify (env : TokenEnv) (now : Nat) (raw : RawToken) : Except JwtError Claims :=
  match jwtVerify env.signingKey now raw with
  | .error e => .error e
  | .ok claims =>
    if claims.aud = some AUDIENCE ∧ claims.iss = some ISSUER then .ok claims else .error .invalid

section
variable {env : TokenEnv} {key : String} {now : Nat} {raw : RawToken} {claims : Claims}

theorem jwtVerify_ok_iff : jwtVerify key now raw = .ok claims ↔
    ∃ token, raw = .signed token ∧ token.key = key ∧ token.claims = claims ∧
      token.exp.any (· ≤ now) = false := by
  cases raw with
  | garbage => simp [jwtVerify]
  | signed token =>
    by_cases hkey : token.key = key
    · cases hexp : token.exp.any (· ≤ now) <;> simp [jwtVerify, hkey, hexp]
    · simp [jwtVerify, hkey]

/-- What a token in use has been signed with. -/
theorem verify_ok (h : env.verify now raw = .ok claims) :
    ∃ token, raw = .signed token ∧ token.key = env.signingKey ∧ token.claims = claims ∧
      token.exp.any (· ≤ now) = false ∧ claims.iss = some ISSUER := by
  unfold TokenEnv.verify at h
  cases hjwt : jwtVerify env.signingKey now raw with
  | error e =>
    rw [hjwt] at h
    cases h
  | ok c =>
    rw [hjwt] at h
    dsimp only at h
    split at h
    · rename_i hregistered
      obtain rfl := Except.ok.inj h
      obtain ⟨token, hraw, hkey, hclaims, hexp⟩ := jwtVerify_ok_iff.mp hjwt
      exact ⟨token, hraw, hkey, hclaims, hexp, hregistered.2⟩
    · cases h

end

/-! ## Requests -/

/-- What the middlewares read of a request.  `bearer` is the token of an `Authorization` header
that begins with `Bearer `, and `adminToken` the cookie, where they are not empty. -/
structure ApiRequest where
  path : String := "/"
  xSchoolId : Option String := none
  xSchoolSlug : Option String := none
  querySchoolId : Option String := none
  paramSchoolId : Option String := none
  bearer : Option RawToken := none
  adminToken : Option RawToken := none
  deriving DecidableEq, Repr

/-- `cookieToken || bearerToken` -/
def ApiRequest.token (req : ApiRequest) : Option RawToken := req.adminToken.or req.bearer

/-- A response that ends a request. -/
structure Refusal where
  status : Nat
  error : String
  code : String
  deriving DecidableEq, Repr

/-- The response of `handleAuthFailure`. -/
def authFailure (reason code : String) : Refusal := ⟨401, reason, code⟩

/-! ## Sessions -/

structure SessionUser where
  isActive : Bool
  tokenVersion : Nat
  deriving DecidableEq, Repr

/-- What the middlewares find out on the way; a lookup of a user may fail. -/
structure AuthContext where
  now : Nat
  ipBlocked : Bool
  sessionRevoked : String → Bool
  findUser : String → Except String (Option SessionUser)

/-- `decoded.userId || decoded.sub || decoded.id` -/
def Claims.subject (c : Claims) : Option String :=
  ((truthy c.userId).or (truthy c.sub)).or (truthy c.id)

/-- `checkSessionRevoked` -/
def checkSessionRevoked (ctx : AuthContext) (decoded : Claims) : Except Refusal Unit :=
  if decoded.role = some "admin" ∧ truthy decoded.userId = none ∧ truthy decoded.sub = none then .ok ()
  else match decoded.subject with
  | none => .ok ()
  | some userId =>
    match ctx.findUser userId with
    | .error _ => .error ⟨500, "Server error validating session.", "SESSION_CHECK_FAILED"⟩
    | .ok none => .error ⟨401, "Session is no longer valid.", "SESSION_REVOKED"⟩
    | .ok (some user) => do
      require user.isActive ⟨401, "Account is deactivated.", "SESSION_REVOKED"⟩
      require (user.tokenVersion = decoded.tokenVersion.getD 0)
        ⟨401, "Session has been revoked.", "SESSION_REVOKED"⟩

/-- `tokenService.verify`, and the responses to what it throws. -/
def verifyToken (env : TokenEnv) (now : Nat) (token : RawToken) : Except Refusal Claims :=
  match env.verify now token with
  | .error .expired => .error (authFailure "Token has expired." "TOKEN_EXPIRED")
  | .error .invalid => .error (authFailure "Invalid token." "INVALID_AUTH_TOKEN")
  | .ok decoded => .ok decoded

theorem verifyToken_ok {env : TokenEnv} {now : Nat} {token : RawToken} {decoded : Claims}
    (h : verifyToken env now token = .ok decoded) : env.verify now token = .ok decoded := by
  unfold verifyToken at h
  split at h
  · cases h
  · cases h
  · rename_i hok
    obtain rfl := Except.ok.inj h
    exact hok

/-- The IP block, the token and the session it belongs to: what both guards begin with. -/
def authenticate (env : TokenEnv) (ctx : AuthContext) (req : ApiRequest) (missing : String) :
    Except Refusal Claims := do
  require (!ctx.ipBlocked) ⟨429, "Too many requests, IP temporarily blocked.", "IP_BLOCKED"⟩
  let token ← orThrow req.token (authFailure missing "MISSING_AUTH_TOKEN")
  let decoded ← verifyToken env ctx.now token
  require (!(truthy decoded.sid).any ctx.sessionRevoked)
    (authFailure "Session has been revoked." "SESSION_REVOKED")
  return decoded

theorem authenticate_ok {env : TokenEnv} {ctx : AuthContext} {req : ApiRequest} {missing : String}
    {decoded : Claims} (h : authenticate env ctx req missing = .ok decoded) :
    ∃ raw, req.token = some raw ∧ env.verify ctx.now raw = .ok decoded := by
  obtain ⟨-, h⟩ := require_bind_ok_iff.mp h
  obtain ⟨raw, hraw, h⟩ := orThrow_bind_ok_iff.mp h
  obtain ⟨claims, hverify, h⟩ := bind_ok_iff.mp h
  obtain ⟨-, h⟩ := require_bind_ok_iff.mp h
  obtain rfl := pure_ok_iff.mp h
  exact ⟨raw, hraw, verifyToken_ok hverify⟩

/-! ## The guards -/

/-- `requireAdminAuth`, with the claims it hands on. -/
def requireAdminAuth (env : TokenEnv) (ctx : AuthContext) (req : ApiRequest) :
    Except Refusal Claims := do
  let decoded ← authenticate env ctx req
    "Authentication required. Provide an admin session cookie or Bearer token."
  require decoded.isSuperAdmin ⟨403, "Forbidden. Admin role required.", "INSUFFICIENT_ROLE"⟩
  checkSessionRevoked ctx decoded
  return decoded

/-- `req.headers['x-school-id'] || req.query?.schoolId || req.params?.schoolId` -/
def ApiRequest.requestedSchoolId (req : ApiRequest) : Option String :=
  ((truthy req.xSchoolId).or (truthy req.querySchoolId)).or (truthy req.paramSchoolId)

/-- The checks of a token that is no super admin's, and the school it sets `req.schoolId` to. -/
def tenantScope (allowedRoles : List String) (req : ApiRequest) (decoded : Claims) :
    Except Refusal String := do
  let schoolId ← orThrow (truthy decoded.schoolId)
    ⟨403, "Forbidden. Token is not scoped to a school.", "MISSING_TENANT_CLAIM"⟩
  require (req.requestedSchoolId.all (· = schoolId))
    ⟨403, "Forbidden. Token schoolId does not match the requested school.", "TENANT_MISMATCH"⟩
  require (allowedRoles.isEmpty || allowedRoles.any decoded.roles.contains)
    ⟨403, "Forbidden. Required role: " ++ String.intercalate " or " allowedRoles ++ ".",
      "INSUFFICIENT_ROLE"⟩
  return schoolId

/-- A super admin's token reaches every tenant, and `req.schoolId` stays what it was. -/
def guardScope (allowedRoles : List String) (req : ApiRequest) (decoded : Claims) :
    Except Refusal (Option String) :=
  if decoded.isSuperAdmin then .ok none else (tenantScope allowedRoles req decoded).map some

/-- A request that got through, and `req.schoolId` where the guard sets it. -/
structure Authorized where
  decoded : Claims
  schoolId : Option String
  deriving DecidableEq, Repr

/-- `requireSchoolAuth(allowedRoles)` -/
def requireSchoolAuth (env : TokenEnv) (ctx : AuthContext) (allowedRoles : List String)
    (req : ApiRequest) : Except Refusal Authorized := do
  let decoded ← authenticate env ctx req "Authentication required."
  checkSessionRevoked ctx decoded
  let schoolId ← guardScope allowedRoles req decoded
  require (decoded.role = some "admin" ||
      (truthy req.xSchoolId).all fun header => (truthy decoded.schoolId).all (· = header))
    (authFailure "Token school does not match requested school." "TENANT_MISMATCH")
  require (allowedRoles.isEmpty || decoded.role = some "admin" ||
      decoded.roles.any allowedRoles.contains)
    ⟨403, "Forbidden. Insufficient role.", "INSUFFICIENT_ROLE"⟩
  return ⟨decoded, schoolId⟩

section
variable {env : TokenEnv} {ctx : AuthContext} {allowedRoles : List String} {req : ApiRequest}
  {decoded : Claims} {out : Authorized}

theorem tenantScope_ok {schoolId : String} (h : tenantScope allowedRoles req decoded = .ok schoolId) :
    truthy decoded.schoolId = some schoolId ∧ req.requestedSchoolId.all (· = schoolId) = true := by
  obtain ⟨own, hown, h⟩ := orThrow_bind_ok_iff.mp h
  obtain ⟨hrequested, h⟩ := require_bind_ok_iff.mp h
  obtain ⟨-, h⟩ := require_bind_ok_iff.mp h
  obtain rfl := pure_ok_iff.mp h
  exact ⟨hown, hrequested⟩

/-- A request that got through has a token that was verified, for the school it names if it names
one. -/
theorem requireSchoolAuth_ok (h : requireSchoolAuth env ctx allowedRoles req = .ok out)
    (hsuper : out.decoded.isSuperAdmin = false) :
    ∃ raw schoolId, req.token = some raw ∧ env.verify ctx.now raw = .ok out.decoded ∧
      truthy out.decoded.schoolId = some schoolId ∧ out.schoolId = some schoolId ∧
      req.requestedSchoolId.all (· = schoolId) = true := by
  obtain ⟨claims, hauth, h⟩ := bind_ok_iff.mp h
  obtain ⟨-, -, h⟩ := bind_ok_iff.mp h
  obtain ⟨schoolId, hscope, h⟩ := bind_ok_iff.mp h
  obtain ⟨-, h⟩ := require_bind_ok_iff.mp h
  obtain ⟨-, h⟩ := require_bind_ok_iff.mp h
  obtain rfl := pure_ok_iff.mp h
  obtain ⟨raw, hraw, hverify⟩ := authenticate_ok hauth
  simp only [guardScope, hsuper, Bool.false_eq_true, if_false] at hscope
  cases hown : tenantScope allowedRoles req claims with
  | error e => simp [hown, Except.map] at hscope
  | ok own =>
    obtain rfl : some own = schoolId := by simpa [hown, Except.map] using hscope
    obtain ⟨htoken, hrequested⟩ := tenantScope_ok hown
    exact ⟨raw, own, hraw, hverify, htoken, rfl, hrequested⟩

end

end StellarEduPay

import StellarEduPay.AccessTokens
import StellarEduPay.Collection
import StellarEduPay.Runs

/-! # Tenant binding (`middleware/schoolContext.js` before `requireSchoolAuth`)

`resolveSchool` finds the school a request names, in a cache that ids and slugs share or in the
store, and looks at the token's school on the way; `requireSchoolAuth` does so again.  They verify
with different keys: a token that `requireSchoolAuth` accepts is, as a rule, none to
`resolveSchool`.  What remains is the guard's comparison with the id in the request, and a slug is not
compared with anything.

The store and the cache of a replica change in a run: schools are created and updated, requests fill
the cache, entries are invalidated or expire.
-/
namespace StellarEduPay
open Checks Runs Function

/-! ## Schools -/

/-- The fields of a school the middleware reads; id and slug never change. -/
structure TenantSchool where
  schoolId : String
  slug : String
  isActive : Bool
  maintenanceMode : Bool
  deriving DecidableEq, Repr

/-- An update of what can change of a school. -/
def TenantSchool.setState (isActive maintenanceMode : Bool) (school : TenantSchool) : TenantSchool :=
  { school with isActive := isActive, maintenanceMode := maintenanceMode }

theorem setState_schoolId (isActive maintenanceMode : Bool) (school : TenantSchool) :
    (school.setState isActive maintenanceMode).schoolId = school.schoolId := rfl

/-- The schools, and the cache entries `school:<key>` by their keys. -/
structure TenantStore where
  schools : Collection TenantSchool String TenantSchool.schoolId
  cache : String → Option TenantSchool

def TenantStore.init : TenantStore := ⟨.empty, fun _ => none⟩

/-- `/^[a-z0-9-]{2,60}$/` -/
def validSlug (slug : String) : Bool :=
  2 ≤ slug.length && slug.length ≤ 60 && slug.toList.all fun c => c.isLower || c.isDigit || c == '-'

/-- `createSchool`, with the four bytes it draws; both the id and the slug are unique. -/
def createSchool (toLowerCase : String → String) (random : Nat) (slug : String)
    (schools : Collection TenantSchool String TenantSchool.schoolId) :
    Option (Collection TenantSchool String TenantSchool.schoolId) :=
  if validSlug (toLowerCase (jsTrim slug)) ∧
      ∀ s ∈ schools.docs, s.slug ≠ toLowerCase (jsTrim slug) then
    schools.insert ⟨"SCH-" ++ upperHex 8 random, toLowerCase (jsTrim slug), true, false⟩
  else none

/-! ## resolveSchool -/

/-- How a request names its school: by an id or by a slug. -/
inductive SchoolName
  | id (schoolId : String)
  | slug (slug : String)
  deriving DecidableEq, Repr

/-- `lookupKey` -/
def SchoolName.key : SchoolName → String
  | .id value => value
  | .slug value => value

/-- The query of the name. -/
def SchoolName.isOf (name : SchoolName) (school : TenantSchool) : Bool :=
  match name with
  | .id value => school.schoolId == value
  | .slug value => school.slug == value

def ApiRequest.isSSERoute (req : ApiRequest) : Bool :=
  req.path == "/events" || "/payments/events".toList.isSuffixOf req.path.toList

def ApiRequest.effectiveId (req : ApiRequest) : Option String :=
  (truthy req.xSchoolId).or (if req.isSSERoute then truthy req.querySchoolId else none)

def ApiRequest.schoolName (toLowerCase : String → String) (req : ApiRequest) : Option SchoolName :=
  match req.effectiveId with
  | some schoolId => some (.id schoolId)
  | none => (truthy req.xSchoolSlug).map fun slug => .slug (jsTrim (toLowerCase slug))

/-- The school a name leads to: the entry under its key, else the school of the store. -/
def TenantStore.find (st : TenantStore) (name : SchoolName) : Option TenantSchool :=
  (st.cache name.key).or (st.schools.findOne name.isOf)

/-- An entry for a school; there is none under an empty key. -/
def cacheUnder (key : String) (school : TenantSchool) (cache : String → Option TenantSchool) :
    String → Option TenantSchool :=
  if key = "" then cache else update cache key (some school)

/-- An active school that was not cached gets an entry under its id and one under its slug. -/
def TenantStore.remember (st : TenantStore) (name : SchoolName) : TenantStore :=
  match st.cache name.key, st.schools.findOne name.isOf with
  | none, some school =>
    if school.isActive then
      { st with cache := cacheUnder school.slug school (cacheUnder school.schoolId school st.cache) }
    else st
  | _, _ => st

/-- The look at the token; one that `JWT_SECRET` does not verify is left to the guards.  What a super
admin does is audited, and goes on. -/
def tokenAllows (env : TokenEnv) (now : Nat) (req : ApiRequest) (school : TenantSchool) : Bool :=
  match req.token with
  | none => true
  | some raw =>
    match jwtVerify env.jwtSecret now raw with
    | .error _ => true
    | .ok decoded => decoded.isSuperAdmin || (truthy decoded.schoolId).all (· = school.schoolId)

/-- `resolveSchool`: the school it sets `req.school` to. -/
def resolveSchool (env : TokenEnv) (toLowerCase : String → String) (now : Nat) (st : TenantStore)
    (req : ApiRequest) : Except Refusal TenantSchool := do
  let name ← orThrow (req.schoolName toLowerCase)
    ⟨400, "School context is required. Provide X-School-ID or X-School-Slug header.",
      "MISSING_SCHOOL_CONTEXT"⟩
  let school ← orThrow (st.find name) ⟨404, "School not found.", "NOT_FOUND"⟩
  require school.isActive ⟨403, "School is deactivated.", "SCHOOL_INACTIVE"⟩
  require (tokenAllows env now req school)
    ⟨403, "Forbidden. Token schoolId does not match the requested school.", "TENANT_MISMATCH"⟩
  require (!school.maintenanceMode)
    ⟨503, "This school is temporarily unavailable due to maintenance.", "SCHOOL_MAINTENANCE_MODE"⟩
  return school

/-! ## The store over time -/

inductive TenantAction
  | create (random : Nat) (slug : String)
  | update (schoolId : String) (isActive maintenanceMode : Bool)
  | request (req : ApiRequest)
  | evict (key : String)
  deriving DecidableEq, Repr

def tenantStep (toLowerCase : String → String) (st : TenantStore) : TenantAction → Option TenantStore
  | .create random slug =>
    (createSchool toLowerCase random slug st.schools).map fun schools => { st with schools := schools }
  | .update schoolId isActive maintenanceMode => some { st with
      schools := st.schools.modify schoolId (TenantSchool.setState isActive maintenanceMode)
        (setState_schoolId isActive maintenanceMode) }
  | .request req => some ((req.schoolName toLowerCase).elim st st.remember)
  | .evict key => some { st with cache := update st.cache key none }

/-- A school of the store, at least by its id and its slug. -/
def Known (st : TenantStore) (school : TenantSchool) : Prop :=
  ∃ s ∈ st.schools.docs, s.schoolId = school.schoolId ∧ s.slug = school.slug

structure TenantInv (st : TenantStore) : Prop where
  ids : ∀ s ∈ st.schools.docs, 'S' ∈ s.schoolId.toList
  slugs : ∀ s ∈ st.schools.docs, validSlug s.slug = true
  unique : ∀ s ∈ st.schools.docs, ∀ t ∈ st.schools.docs, s.slug = t.slug → s.schoolId = t.schoolId
  cached : ∀ key school, st.cache key = some school →
    (school.schoolId = key ∨ school.slug = key) ∧ Known st school

/-- An id has an upper-case letter, and a slug has none. -/
theorem validSlug_lower {slug : String} (h : validSlug slug = true) : 'S' ∉ slug.toList := by
  intro hS
  simp only [validSlug, Bool.and_eq_true, List.all_eq_true] at h
  exact absurd (h.2 'S' hS) (by decide)

theorem TenantInv.init : TenantInv .init where
  ids _ hs := absurd hs List.not_mem_nil
  slugs _ hs := absurd hs List.not_mem_nil
  unique _ hs := absurd hs List.not_mem_nil
  cached _ _ h := by cases h

section
variable {toLowerCase : String → String} {st st' : TenantStore}

/-- A school a name leads to has the name's key as its id or as its slug. -/
theorem TenantInv.find (hinv : TenantInv st) {name : SchoolName} {school : TenantSchool}
    (h : st.find name = some school) :
    (school.schoolId = name.key ∨ school.slug = name.key) ∧ Known st school := by
  rcases Option.or_eq_some_iff.mp h with hcached | ⟨-, hfound⟩
  · exact hinv.cached _ _ hcached
  · refine ⟨?_, school, st.schools.mem_of_findOne hfound, rfl, rfl⟩
    have hsat := st.schools.findOne_sat hfound
    cases name with
    | id value => exact Or.inl (beq_iff_eq.mp hsat)
    | slug value => exact Or.inr (beq_iff_eq.mp hsat)

theorem TenantInv.create (hinv : TenantInv st) {random : Nat} {slug : String}
    {schools : Collection TenantSchool String TenantSchool.schoolId}
    (h : createSchool toLowerCase random slug st.schools = some schools) :
    TenantInv { st with schools := schools } := by
  simp only [createSchool, Option.ite_none_right_eq_some] at h
  obtain ⟨⟨hvalid, hfresh⟩, hinsert⟩ := h
  have hdocs := st.schools.insert_docs hinsert
  have hmem : ∀ s ∈ schools.docs, s ∈ st.schools.docs ∨
      s = ⟨"SCH-" ++ upperHex 8 random, toLowerCase (jsTrim slug), true, false⟩ := by
    intro s hs
    simpa [hdocs] using hs
  constructor
  · intro s hs
    rcases hmem s hs with hold | rfl
    · exact hinv.ids s hold
    · simp
  · intro s hs
    rcases hmem s hs with hold | rfl
    · exact hinv.slugs s hold
    · exact hvalid
  · intro s hs t ht heq
    rcases hmem s hs with hs' | rfl
    · rcases hmem t ht with ht' | rfl
      · exact hinv.unique s hs' t ht' heq
      · exact absurd heq (hfresh s hs')
    · rcases hmem t ht with ht' | rfl
      · exact absurd heq.symm (hfresh t ht')
      · rfl
  · intro key school hcached
    obtain ⟨hkey, s, hs, hsame⟩ := hinv.cached key school hcached
    exact ⟨hkey, s, by simp [hdocs, hs], hsame⟩

theorem TenantInv.setState (hinv : TenantInv st) (schoolId : String)
    (isActive maintenanceMode : Bool) :
    TenantInv { st with
      schools := st.schools.modify schoolId (TenantSchool.setState isActive maintenanceMode)
        (setState_schoolId isActive maintenanceMode) } := by
  have hmem : ∀ s' ∈ (st.schools.modify schoolId (TenantSchool.setState isActive maintenanceMode)
      (setState_schoolId isActive maintenanceMode)).docs,
      ∃ s ∈ st.schools.docs, s.schoolId = s'.schoolId ∧ s.slug = s'.slug := by
    intro s' hs'
    obtain ⟨s, hs, rfl⟩ := (st.schools.mem_modify (setState_schoolId _ _)).mp hs'
    refine ⟨s, hs, ?_⟩
    split
    · exact ⟨rfl, rfl⟩
    · exact ⟨rfl, rfl⟩
  constructor
  · intro s' hs'
    obtain ⟨s, hs, hid, -⟩ := hmem s' hs'
    exact hid ▸ hinv.ids s hs
  · intro s' hs'
    obtain ⟨s, hs, -, hslug⟩ := hmem s' hs'
    exact hslug ▸ hinv.slugs s hs
  · intro s' hs' t' ht' heq
    obtain ⟨s, hs, hsid, hsslug⟩ := hmem s' hs'
    obtain ⟨t, ht, htid, htslug⟩ := hmem t' ht'
    rw [← hsid, ← htid]
    exact hinv.unique s hs t ht (hsslug.trans (heq.trans htslug.symm))
  · intro key school hcached
    obtain ⟨hkey, s, hs, hid, hslug⟩ := hinv.cached key school hcached
    refine ⟨hkey, _, (st.schools.mem_modify (setState_schoolId _ _)).mpr ⟨s, hs, rfl⟩, ?_⟩
    split
    · exact ⟨hid, hslug⟩
    · exact ⟨hid, hslug⟩

theorem cacheUnder_some {key other : String} {school found : TenantSchool}
    {cache : String → Option TenantSchool} (h : cacheUnder key school cache other = some found) :
    cache other = some found ∨ (found = school ∧ other = key) := by
  unfold cacheUnder at h
  split at h
  · exact Or.inl h
  · rcases update_some_iff.mp h with ⟨hkey, hfound⟩ | ⟨-, hold⟩
    · exact Or.inr ⟨hfound, hkey⟩
    · exact Or.inl hold

/-- An entry that was there before, or one of a school of the store under its id or its slug. -/
theorem remember_cache {name : SchoolName} {key : String} {school : TenantSchool}
    (h : (st.remember name).cache key = some school) :
    st.cache key = some school ∨
      (school ∈ st.schools.docs ∧ (school.schoolId = key ∨ school.slug = key)) := by
  unfold TenantStore.remember at h
  split at h
  · rename_i found _ hfound
    have hmem := st.schools.mem_of_findOne hfound
    split at h
    · rcases cacheUnder_some h with h | ⟨rfl, rfl⟩
      · rcases cacheUnder_some h with hold | ⟨rfl, rfl⟩
        · exact Or.inl hold
        · exact Or.inr ⟨hmem, Or.inl rfl⟩
      · exact Or.inr ⟨hmem, Or.inr rfl⟩
    · exact Or.inl h
  · exact Or.inl h

theorem remember_schools (st : TenantStore) (name : SchoolName) :
    (st.remember name).schools = st.schools := by
  unfold TenantStore.remember
  split
  · split
    · rfl
    · rfl
  · rfl

theorem TenantInv.remember (hinv : TenantInv st) (name : SchoolName) :
    TenantInv (st.remember name) := by
  have hschools := remember_schools st name
  constructor
  · exact fun s hs => hinv.ids s (hschools ▸ hs)
  · exact fun s hs => hinv.slugs s (hschools ▸ hs)
  · exact fun s hs t ht => hinv.unique s (hschools ▸ hs) t (hschools ▸ ht)
  · intro key school hcached
    rw [Known, hschools]
    rcases remember_cache hcached with hold | ⟨hmem, hkey⟩
    · exact hinv.cached key school hold
    · exact ⟨hkey, school, hmem, rfl, rfl⟩

theorem TenantInv.step (hinv : TenantInv st) {a : TenantAction}
    (hstep : tenantStep toLowerCase st a = some st') : TenantInv st' := by
  cases a with
  | create random slug =>
    obtain ⟨schools, hcreate, rfl⟩ := Option.map_eq_some_iff.mp hstep
    exact hinv.create hcreate
  | update schoolId isActive maintenanceMode =>
    obtain rfl := Option.some.inj hstep
    exact hinv.setState schoolId isActive maintenanceMode
  | request req =>
    obtain rfl := Option.some.inj hstep
    cases req.schoolName toLowerCase with
    | none => exact hinv
    | some name => exact hinv.remember name
  | evict key =>
    obtain rfl := Option.some.inj hstep
    refine ⟨hinv.ids, hinv.slugs, hinv.unique, fun other school hcached => ?_⟩
    exact hinv.cached other school (update_none_iff.mp hcached).2

end

/-! ## What the two middlewares checked -/

section
variable {env : TokenEnv} {toLowerCase : String → String} {now : Nat} {st : TenantStore}
  {req : ApiRequest} {school : TenantSchool} {ctx : AuthContext} {allowedRoles : List String}
  {out : Authorized}

theorem resolveSchool_ok (h : resolveSchool env toLowerCase now st req = .ok school) :
    ∃ name, req.schoolName toLowerCase = some name ∧ st.find name = some school ∧
      tokenAllows env now req school = true := by
  obtain ⟨name, hname, h⟩ := orThrow_bind_ok_iff.mp h
  obtain ⟨found, hfound, h⟩ := orThrow_bind_ok_iff.mp h
  obtain ⟨-, h⟩ := require_bind_ok_iff.mp h
  obtain ⟨hallows, h⟩ := require_bind_ok_iff.mp h
  obtain ⟨-, h⟩ := require_bind_ok_iff.mp h
  obtain rfl := pure_ok_iff.mp h
  exact ⟨name, hname, hfound, hallows⟩

/-- A token that `JWT_SECRET` verifies too is one for the school. -/
theorem tokenAllows_verified {raw : RawToken} {decoded : Claims} {schoolId : String}
    (hallows : tokenAllows env now req school = true) (hraw : req.token = some raw)
    (hverify : env.verify ctx.now raw = .ok decoded) (hkey : env.signingKey = env.jwtSecret)
    (hnow : now ≤ ctx.now) (hsuper : decoded.isSuperAdmin = false)
    (hschool : truthy decoded.schoolId = some schoolId) : schoolId = school.schoolId := by
  obtain ⟨token, rfl, htoken, rfl, hexp, -⟩ := verify_ok hverify
  have hearlier : token.exp.any (· ≤ now) = false := by
    cases hexpiry : token.exp with
    | none => rfl
    | some exp =>
      simp only [hexpiry, Option.any_some, decide_eq_false_iff_not] at hexp ⊢
      omega
  have hok : jwtVerify env.jwtSecret now (.signed token) = .ok token.claims :=
    jwtVerify_ok_iff.mpr ⟨token, rfl, htoken.trans hkey, rfl, hearlier⟩
  simpa [tokenAllows, hraw, hok, hsuper, hschool] using hallows

/-- An id that names the school is the one the guard asks the token for. -/
theorem requestedSchoolId_of_effectiveId {schoolId : String}
    (h : req.effectiveId = some schoolId) : req.requestedSchoolId = some schoolId := by
  unfold ApiRequest.effectiveId at h
  unfold ApiRequest.requestedSchoolId
  cases hheader : truthy req.xSchoolId with
  | some header => simpa [hheader] using h
  | none =>
    rw [hheader, Option.none_or] at h
    split at h
    · simp [h]
    · cases h

end

/-! ## The claim on both -/

/-- `req.schoolId`, `req.school.schoolId` and the token's `schoolId` are the same. -/
structure SameSchool (school : TenantSchool) (out : Authorized) : Prop where
  request : out.schoolId.getD school.schoolId = school.schoolId
  token : out.decoded.schoolId = some school.schoolId

/-- The name a request gives its school belongs to the school of a token: it is an id, of no school
whose slug it is, or it is a slug that the token's school has. -/
def NamesOwnSchool (schools : Collection TenantSchool String TenantSchool.schoolId)
    (tokenSchool : Option String) : SchoolName → Prop
  | .id value => ∀ s ∈ schools.docs, s.slug ≠ value
  | .slug value => ∃ s ∈ schools.docs, tokenSchool = some s.schoolId ∧
      (s.slug = value ∨ s.schoolId = value)

/-- No slug is an id. -/
theorem TenantInv.slug_ne_id {st : TenantStore} (hinv : TenantInv st) {s t : TenantSchool}
    (hs : s ∈ st.schools.docs) (ht : t ∈ st.schools.docs) : s.slug ≠ t.schoolId := by
  intro heq
  have hlower := validSlug_lower (hinv.slugs s hs)
  rw [heq] at hlower
  exact hlower (hinv.ids t ht)

/-- The school found under a token's id is the token's, unless the id is its slug. -/
theorem TenantInv.namesOwn_id {st : TenantStore} (hinv : TenantInv st) {known : TenantSchool}
    (hknown : known ∈ st.schools.docs) {value : String}
    (hkey : known.schoolId = value ∨ known.slug = value) :
    value = known.schoolId ↔ NamesOwnSchool st.schools (some value) (.id value) := by
  constructor
  · rintro rfl s hs
    exact hinv.slug_ne_id hs hknown
  · intro hnone
    rcases hkey with hid | hslug
    · exact hid.symm
    · exact absurd hslug (hnone known hknown)

/-- The school found under a slug is the token's if that is the slug of the token's school. -/
theorem TenantInv.namesOwn_slug {st : TenantStore} (hinv : TenantInv st) {known : TenantSchool}
    (hknown : known ∈ st.schools.docs) {own slug : String}
    (hkey : known.schoolId = slug ∨ known.slug = slug) :
    own = known.schoolId ↔ NamesOwnSchool st.schools (some own) (.slug slug) := by
  constructor
  · rintro rfl
    exact ⟨known, hknown, rfl, hkey.symm⟩
  · rintro ⟨s, hs, hown, hnamed⟩
    obtain rfl := Option.some.inj hown
    rcases hnamed with hs' | hs' <;> rcases hkey with hk | hk
    · exact absurd (hs'.trans hk.symm) (hinv.slug_ne_id hs hknown)
    · exact hinv.unique s hs known hknown (hs'.trans hk.symm)
    · exact hs'.trans hk.symm
    · exact absurd (hk.trans hs'.symm) (hinv.slug_ne_id hknown hs)

/-- **A request that got through is bound to one school exactly if** `resolveSchool` can verify its
token, or the name it gives belongs to the token's school. -/
theorem tenant_bound_iff {env : TokenEnv} {toLowerCase : String → String} {now : Nat}
    {st : TenantStore} {req : ApiRequest} {school : TenantSchool} {ctx : AuthContext}
    {allowedRoles : List String} {out : Authorized}
    (hreach : Reach (tenantStep toLowerCase) Free .init st)
    (hresolved : resolveSchool env toLowerCase now st req = .ok school)
    (hauth : requireSchoolAuth env ctx allowedRoles req = .ok out) (hnow : now ≤ ctx.now)
    (hsuper : out.decoded.isSuperAdmin = false) :
    SameSchool school out ↔ env.signingKey = env.jwtSecret ∨
      ∀ name, req.schoolName toLowerCase = some name →
        NamesOwnSchool st.schools out.decoded.schoolId name := by
  have hinv : TenantInv st := hreach.invariant .init fun h _ hstep => h.step hstep
  obtain ⟨name, hname, hfind, hallows⟩ := resolveSchool_ok hresolved
  obtain ⟨raw, own, hraw, hverify, htoken, hout, hrequested⟩ := requireSchoolAuth_ok hauth hsuper
  have hclaim : out.decoded.schoolId = some own := (Option.filter_eq_some_iff.mp htoken).1
  obtain ⟨hkey, known, hknown, hid, hslug⟩ := hinv.find hfind
  rw [← hid, ← hslug] at hkey
  -- both fields say that the token's school is the resolved one
  have hsame : SameSchool school out ↔ own = school.schoolId := by
    constructor
    · intro h
      exact Option.some.inj (hclaim.symm.trans h.token)
    · rintro rfl
      exact ⟨by rw [hout]; rfl, hclaim⟩
  rw [hsame]
  by_cases hsecret : env.signingKey = env.jwtSecret
  · have := tokenAllows_verified hallows hraw hverify hsecret hnow hsuper htoken
    simp [this, hsecret]
  rw [or_iff_right hsecret, hname, hclaim, ← hid]
  simp only [Option.some.injEq, forall_eq']
  unfold ApiRequest.schoolName at hname
  split at hname
  · rename_i value heffective
    obtain rfl := Option.some.inj hname
    rw [requestedSchoolId_of_effectiveId heffective] at hrequested
    obtain rfl : value = own := by simpa using hrequested
    exact hinv.namesOwn_id hknown hkey
  · obtain ⟨slug, -, rfl⟩ := Option.map_eq_some_iff.mp hname
    exact hinv.namesOwn_slug hknown hkey

/-- A deployment with one secret, from which the key of access tokens is derived. -/
def derivedEnv : TokenEnv := ⟨"secret", none, fun secret => "access-token of " ++ secret⟩

/-- What a user of the first school is given by `tokenService`. -/
def staffToken : AccessToken :=
  derivedEnv.sign
    { role := some "user", roles := ["staff"], userId := some "u1", schoolId := some "SCH-0000000A" }
    "s1" 0 28800

def staffContext : AuthContext := ⟨60, false, fun _ => false, fun _ => .ok (some ⟨true, 0⟩)⟩

def twoSchools : List TenantAction := [.create 10 "alpha", .create 11 "beta"]

/-- The user's own school, by its id. -/
def ownRequest : ApiRequest :=
  { xSchoolId := some "SCH-0000000A", bearer := some (.signed staffToken) }

/-- The other school, by its slug. -/
def otherRequest : ApiRequest :=
  { xSchoolSlug := some "beta", bearer := some (.signed staffToken) }

theorem tenant_bound_iff_own : ∃ st school out,
    resolveSchool derivedEnv id 0 st ownRequest = .ok school ∧
      requireSchoolAuth derivedEnv staffContext ["staff"] ownRequest = .ok out ∧
      (SameSchool school out ↔ derivedEnv.signingKey = derivedEnv.jwtSecret ∨
        ∀ name, ownRequest.schoolName id = some name →
          NamesOwnSchool st.schools out.decoded.schoolId name) := by
  obtain ⟨st, hst, hschool⟩ : ∃ st, exec (tenantStep id) .init twoSchools = some st ∧
      resolveSchool derivedEnv id 0 st ownRequest = .ok ⟨"SCH-0000000A", "alpha", true, false⟩ := by
    have h : (exec (tenantStep id) .init twoSchools).map
        (fun st => resolveSchool derivedEnv id 0 st ownRequest) =
          some (.ok ⟨"SCH-0000000A", "alpha", true, false⟩) := by decide +kernel
    exact Option.map_eq_some_iff.mp h
  have hauth : requireSchoolAuth derivedEnv staffContext ["staff"] ownRequest =
      .ok ⟨staffToken.claims, some "SCH-0000000A"⟩ := by decide +kernel
  exact ⟨st, _, _, hschool, hauth,
    tenant_bound_iff (reach_of_exec hst) hschool hauth (by decide) (by decide)⟩

/-- With the slug of another school, a request works on that school for a user of the first. -/
theorem slug_crosses_tenants :
    ¬ ∀ (env : TokenEnv) (toLowerCase : String → String) (now : Nat) (st : TenantStore)
        (req : ApiRequest) (school : TenantSchool) (ctx : AuthContext) (allowedRoles : List String)
        (out : Authorized), Reach (tenantStep toLowerCase) Free .init st →
        resolveSchool env toLowerCase now st req = .ok school →
        requireSchoolAuth env ctx allowedRoles req = .ok out → now ≤ ctx.now →
        out.decoded.isSuperAdmin = false → SameSchool school out := by
  intro hclaim
  obtain ⟨st, hst, hschool⟩ : ∃ st, exec (tenantStep id) .init twoSchools = some st ∧
      resolveSchool derivedEnv id 0 st otherRequest = .ok ⟨"SCH-0000000B", "beta", true, false⟩ := by
    have h : (exec (tenantStep id) .init twoSchools).map
        (fun st => resolveSchool derivedEnv id 0 st otherRequest) =
          some (.ok ⟨"SCH-0000000B", "beta", true, false⟩) := by decide +kernel
    exact Option.map_eq_some_iff.mp h
  have hauth : requireSchoolAuth derivedEnv staffContext ["staff"] otherRequest =
      .ok ⟨staffToken.claims, some "SCH-0000000A"⟩ := by decide +kernel
  have hsame := hclaim derivedEnv id 0 st otherRequest _ staffContext ["staff"] _ (reach_of_exec hst)
    hschool hauth (by decide) (by decide)
  exact absurd hsame.token (by decide)

end StellarEduPay

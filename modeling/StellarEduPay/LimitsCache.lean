import StellarEduPay.PaymentLimits
import StellarEduPay.Runs

/-! # The cache in front of the payment limits (`services/paymentLimitsService.js`)

`resolveLimits` reads the school's document, then the system's, with awaits in between, and
fills the cache with both; a write stores a document and then drops cache entries.  A call that
read before a write and fills after it puts the replaced document back for the lifetime of an
entry, and later calls are answered from it.
-/
namespace StellarEduPay
open Runs Function

/-! ## Documents -/

/-- The document of a request: either part may be missing. -/
structure LimitsInput where
  default : Option LimitPair
  assets : Option (List (String × LimitPair))
  deriving DecidableEq, Repr

/-- The document as it is stored. -/
def LimitsInput.doc (input : LimitsInput) : LimitsDoc := ⟨input.default, input.assets.getD []⟩

/-- Validate a document: the error, if any. -/
def validateLimitsDocument (input : LimitsInput) : Option String :=
  match input.default.bind limitPairError with
  | some error => some ("default: " ++ error)
  | none =>
    match (input.assets.getD []).findSome? fun entry =>
        (limitPairError entry.2).map fun error => "assets." ++ entry.1 ++ ": " ++ error with
    | some error => some error
    | none =>
      if input.default = none ∧ input.assets = none then
        some "Provide at least one of default or assets"
      else none

/-! ## What the order is documented to be -/

/-- The pair a document stores for an asset code, in whatever letter case it names it. -/
def LimitsDoc.named (doc : LimitsDoc) (assetKey : String) : Option LimitPair :=
  (doc.assets.find? fun entry => jsUpper entry.1 = assetKey).map Prod.snd

def LimitsDoc.documented (doc : LimitsDoc) (assetKey source : String) : Option ResolvedLimits :=
  match (doc.named assetKey).filter LimitPair.valid with
  | some pair => some ⟨pair, source ++ ":asset:" ++ assetKey⟩
  | none => (doc.default.filter LimitPair.valid).map fun pair => ⟨pair, source ++ ":default"⟩

/-- The first applicable entry of: school asset, school default, system asset, system default,
environment. -/
def LimitsDocs.documented (docs : LimitsDocs) (env : LimitPair) (assetKey : String) :
    ResolvedLimits :=
  match docs.school.bind (·.documented assetKey "school") with
  | some limits => limits
  | none => (docs.system.bind (·.documented assetKey "system")).getD (ENV_LIMITS env)

/-- A document that names its asset codes in upper case. -/
def LimitsDoc.UpperCase (doc : LimitsDoc) : Prop := ∀ entry ∈ doc.assets, jsUpper entry.1 = entry.1

instance (doc : LimitsDoc) : Decidable doc.UpperCase :=
  inferInstanceAs (Decidable (∀ entry ∈ doc.assets, jsUpper entry.1 = entry.1))

theorem LimitsDoc.UpperCase.named {doc : LimitsDoc} (h : doc.UpperCase) (assetKey : String) :
    doc.named assetKey = doc.assets.lookup assetKey := by
  unfold LimitsDoc.named
  have hall : ∀ entries : List (String × LimitPair),
      (∀ entry ∈ entries, jsUpper entry.1 = entry.1) →
      (entries.find? fun entry => jsUpper entry.1 = assetKey).map Prod.snd =
        entries.lookup assetKey := by
    intro entries
    induction entries with
    | nil => exact fun _ => rfl
    | cons entry entries ih =>
      intro hupper
      have hrest := ih fun x hx => hupper x (List.mem_cons_of_mem _ hx)
      have hentry := hupper entry List.mem_cons_self
      have htest : decide (jsUpper entry.1 = assetKey) = (assetKey == entry.1) := by
        rw [hentry, Bool.eq_iff_iff, decide_eq_true_eq, beq_iff_eq]
        exact eq_comm
      rw [List.find?_cons, List.lookup_cons, htest]
      cases assetKey == entry.1 with
      | true => rfl
      | false => exact hrest
  exact hall doc.assets h

/-- Documents that name their codes in upper case are resolved as documented. -/
theorem resolve_eq_documented {docs : LimitsDocs} (hschool : ∀ doc ∈ docs.school, doc.UpperCase)
    (hsystem : ∀ doc ∈ docs.system, doc.UpperCase) (env : LimitPair) (assetKey : String) :
    docs.resolve env assetKey = docs.documented env assetKey := by
  have hpick : ∀ (doc : Option LimitsDoc) (source : String), (∀ d ∈ doc, d.UpperCase) →
      doc.bind (·.pickFrom assetKey source) = doc.bind (·.documented assetKey source) := by
    intro doc source hupper
    cases doc with
    | none => rfl
    | some d =>
      have hd : d.UpperCase := hupper d rfl
      let pick (stored : Option LimitPair) : Option ResolvedLimits :=
        match stored.filter LimitPair.valid with
        | some pair => some ⟨pair, source ++ ":asset:" ++ assetKey⟩
        | none => (d.default.filter LimitPair.valid).map fun pair => ⟨pair, source ++ ":default"⟩
      exact congrArg pick (hd.named assetKey).symm
  let first (school system : Option ResolvedLimits) : ResolvedLimits :=
    match school with
    | some limits => limits
    | none => system.getD (ENV_LIMITS env)
  exact congrArg₂ first (hpick _ _ hschool) (hpick _ _ hsystem)

/-- A code stored in lower case is overlooked. -/
example : (LimitsDocs.mk none (some ⟨none, [("usdc", ⟨1, 50⟩)]⟩)).resolve ⟨0, 1000⟩ "USDC" ≠
    (LimitsDocs.mk none (some ⟨none, [("usdc", ⟨1, 50⟩)]⟩)).documented ⟨0, 1000⟩ "USDC" := by
  decide

/-! ## The instance -/

/-- A write: `setSystemLimits`, `setSchoolLimits` or `clearSchoolLimits`. -/
inductive LimitsWrite
  | setSystem (input : LimitsInput)
  | setSchool (schoolId : String) (input : LimitsInput)
  | clearSchool (schoolId : String)
  deriving DecidableEq, Repr

/-- Whether a write is taken: the document is valid, and the school exists. -/
def LimitsWrite.accepted (schools : List String) : LimitsWrite → Bool
  | .setSystem input => (validateLimitsDocument input).isNone
  | .setSchool schoolId input => (validateLimitsDocument input).isNone && schools.contains schoolId
  | .clearSchool schoolId => schools.contains schoolId

/-- What a write stores. -/
def LimitsWrite.store (store : LimitsStore) : LimitsWrite → LimitsStore
  | .setSystem input => { store with system := some input.doc }
  | .setSchool schoolId input =>
    { store with school := update store.school schoolId (some input.doc) }
  | .clearSchool schoolId => { store with school := update store.school schoolId none }

/-- An entry of `_cache`. -/
structure LimitsEntry where
  docs : LimitsDocs
  expiresAt : Nat
  deriving DecidableEq, Repr

/-- `_cacheKey`: an empty id is none. -/
def limitsSchoolKey (schoolId : Option String) : Option String := schoolId.filter (· ≠ "")

/-- `_cache`; the key of no school (`__global__`) is no school's id. -/
abbrev LimitsCache := Option String → Option LimitsEntry

/-- `_readCache` -/
def readCache (cache : LimitsCache) (now : Nat) (schoolId : Option String) : Option LimitsDocs :=
  ((cache schoolId).filter fun hit => now < hit.expiresAt).map LimitsEntry.docs

/-- `invalidateCache`, as a write calls it. -/
def LimitsWrite.invalidate (cache : LimitsCache) : LimitsWrite → LimitsCache
  | .setSystem _ => fun _ => none
  | .setSchool schoolId _ | .clearSchool schoolId => update cache (some schoolId) none

/-- Whether a write changes what is resolved for a school, or for none. -/
def LimitsWrite.concerns (schoolId : Option String) : LimitsWrite → Bool
  | .setSystem _ => true
  | .setSchool schoolId' _ | .clearSchool schoolId' => schoolId == some schoolId'

/-- How far a call of `resolveLimits` has come that missed the cache. -/
inductive LimitsPhase
  | missed
  | readSchool (doc : Option LimitsDoc)
  | readSystem (docs : LimitsDocs)
  deriving DecidableEq, Repr

/-- Both documents, once they are read. -/
def LimitsPhase.docs : LimitsPhase → Option LimitsDocs
  | .readSystem docs => some docs
  | _ => none

/-- A call in progress; `undisturbed` is kept while no write that concerns it has been in
progress since it started. -/
structure LimitsCall where
  schoolId : Option String
  asset : Option String
  undisturbed : Bool
  phase : LimitsPhase
  deriving DecidableEq, Repr

/-- What a call was answered, and what was documented at that moment. -/
structure LimitsAnswer where
  undisturbed : Bool
  given : ResolvedLimits
  documented : ResolvedLimits
  deriving DecidableEq, Repr

/-- An instance and the store it shares: calls of `resolveLimits` in progress, and writes that
have stored their document but not yet dropped the cache entries and returned. -/
structure LimitsSystem (P : Type) where
  clock : Nat
  limits : LimitsStore
  cache : LimitsCache
  call : P → Option LimitsCall
  writing : List LimitsWrite
  answers : List LimitsAnswer

structure LimitsConfig where
  schools : List String
  cacheTtlMs : Nat := 30000

inductive LimitsAction (P : Type)
  | tick (ms : Nat)
  | resolve (p : P) (schoolId asset : Option String)
  | readSchool (p : P)
  | readSystem (p : P)
  | finish (p : P)
  | fail (p : P)
  | write (w : LimitsWrite)
  | invalidate (w : LimitsWrite)

section System
variable {P : Type} [DecidableEq P]

/-- The answer of a call. -/
def LimitsSystem.answer (s : LimitsSystem P) (schoolId asset : Option String) (undisturbed : Bool)
    (given : ResolvedLimits) : LimitsAnswer where
  undisturbed := undisturbed
  given := given
  documented := (s.limits.docs schoolId).documented s.limits.env (limitsAssetKey asset)

/-- One step: of a call, between two awaits; or of a write. -/
def limitsStep (cfg : LimitsConfig) (s : LimitsSystem P) :
    LimitsAction P → Option (LimitsSystem P)
  | .tick ms => some { s with clock := s.clock + ms }
  | .resolve p schoolId asset =>
    if s.call p ≠ none then none
    else
      let schoolId := limitsSchoolKey schoolId
      let undisturbed := !s.writing.any (LimitsWrite.concerns schoolId)
      match readCache s.cache s.clock schoolId with
      | some docs => some { s with
          answers := s.answer schoolId asset undisturbed
            (docs.resolve s.limits.env (limitsAssetKey asset)) :: s.answers }
      | none => some { s with
          call := update s.call p (some ⟨schoolId, asset, undisturbed, .missed⟩) }
  | .readSchool p =>
    match s.call p with
    | some ⟨schoolId, asset, undisturbed, .missed⟩ => some { s with
        call := update s.call p (some ⟨schoolId, asset, undisturbed,
          .readSchool (s.limits.docs schoolId).school⟩) }
    | _ => none
  | .readSystem p =>
    match s.call p with
    | some ⟨schoolId, asset, undisturbed, .readSchool doc⟩ => some { s with
        call := update s.call p (some ⟨schoolId, asset, undisturbed,
          .readSystem ⟨doc, s.limits.system⟩⟩) }
    | _ => none
  | .finish p =>
    match s.call p with
    | some ⟨schoolId, asset, undisturbed, .readSystem docs⟩ => some { s with
        cache := update s.cache schoolId (some ⟨docs, s.clock + cfg.cacheTtlMs⟩)
        call := update s.call p none
        answers := s.answer schoolId asset undisturbed
          (docs.resolve s.limits.env (limitsAssetKey asset)) :: s.answers }
    | _ => none
  | .fail p =>
    -- a read that fails or times out is answered from the environment, and not cached
    match s.call p with
    | some call => some { s with
        call := update s.call p none
        answers := s.answer call.schoolId call.asset call.undisturbed (ENV_LIMITS s.limits.env) ::
          s.answers }
    | none => none
  | .write w =>
    if w.accepted cfg.schools then some { s with
      limits := w.store s.limits
      call := fun p => (s.call p).map fun call =>
        { call with undisturbed := call.undisturbed && !w.concerns call.schoolId }
      writing := w :: s.writing }
    else none
  | .invalidate w =>
    if w ∈ s.writing then some { s with
      cache := w.invalidate s.cache
      writing := s.writing.erase w }
    else none

/-- **Limit changes take effect**: a call that started after every write that concerns it had
returned, with none since, is answered what is documented. -/
def TakesEffect (s : LimitsSystem P) : Prop :=
  ∀ answer ∈ s.answers, answer.undisturbed = true → answer.given = answer.documented

/-- The document of a write names its codes in upper case; a call fills the cache with what is
stored, or before the write that replaced it drops the entry; and no read of an undisturbed
call fails, unless the environment's limits apply. -/
def LimitsCareful (s : LimitsSystem P) : LimitsAction P → Prop
  | .finish p => ∀ call ∈ s.call p, ∀ docs ∈ call.phase.docs,
      (∃ w ∈ s.writing, w.concerns call.schoolId = true) ∨ docs = s.limits.docs call.schoolId
  | .fail p => ∀ call ∈ s.call p, call.undisturbed = true →
      (s.limits.docs call.schoolId).documented s.limits.env (limitsAssetKey call.asset) =
        ENV_LIMITS s.limits.env
  | .write (.setSystem input) | .write (.setSchool _ input) => input.doc.UpperCase
  | _ => True

instance (s : LimitsSystem P) (a : LimitsAction P) : Decidable (LimitsCareful s a) :=
  match a with
  | .finish p => inferInstanceAs (Decidable (∀ call ∈ s.call p, ∀ docs ∈ call.phase.docs,
      (∃ w ∈ s.writing, w.concerns call.schoolId = true) ∨ docs = s.limits.docs call.schoolId))
  | .fail p => inferInstanceAs (Decidable (∀ call ∈ s.call p, call.undisturbed = true →
      (s.limits.docs call.schoolId).documented s.limits.env (limitsAssetKey call.asset) =
        ENV_LIMITS s.limits.env))
  | .write (.setSystem input) => inferInstanceAs (Decidable input.doc.UpperCase)
  | .write (.setSchool _ input) => inferInstanceAs (Decidable input.doc.UpperCase)
  | .write (.clearSchool _) => isTrue trivial
  | .tick _ => isTrue trivial
  | .resolve _ _ _ => isTrue trivial
  | .readSchool _ => isTrue trivial
  | .readSystem _ => isTrue trivial
  | .invalidate _ => isTrue trivial

/-- The reads of the documents do not fail. -/
def ReadsSucceed (_ : LimitsSystem P) : LimitsAction P → Prop
  | .fail _ => False
  | _ => True

instance (s : LimitsSystem P) (a : LimitsAction P) : Decidable (ReadsSucceed s a) :=
  match a with
  | .fail _ => isFalse id
  | .finish _ => isTrue trivial
  | .write _ => isTrue trivial
  | .tick _ => isTrue trivial
  | .resolve _ _ _ => isTrue trivial
  | .readSchool _ => isTrue trivial
  | .readSystem _ => isTrue trivial
  | .invalidate _ => isTrue trivial

/-- The documents of a store name their codes in upper case. -/
structure UpperCaseStore (limits : LimitsStore) : Prop where
  school : ∀ schoolId, ∀ doc ∈ limits.school schoolId, doc.UpperCase
  system : ∀ doc ∈ limits.system, doc.UpperCase

/-- An instance that has just started. -/
def LimitsSystem.start (limits : LimitsStore) : LimitsSystem P where
  clock := 0
  limits := limits
  cache := fun _ => none
  call := fun _ => none
  writing := []
  answers := []

/-- What a call has read is what is stored. -/
def LimitsCall.UpToDate (limits : LimitsStore) (call : LimitsCall) : Prop :=
  match call.phase with
  | .missed => True
  | .readSchool doc => doc = (limits.docs call.schoolId).school
  | .readSystem docs => docs = limits.docs call.schoolId

/-- **The invariant**: a cached entry is what is stored, or a write that concerns it is about
to drop it; and what an undisturbed call has read is what is stored. -/
structure LimitsInv (s : LimitsSystem P) : Prop where
  upperCase : UpperCaseStore s.limits
  cached : ∀ schoolId entry, s.cache schoolId = some entry →
    (∃ w ∈ s.writing, w.concerns schoolId = true) ∨ entry.docs = s.limits.docs schoolId
  read : ∀ p call, s.call p = some call → call.undisturbed = true → call.UpToDate s.limits
  effect : TakesEffect s

/-! ## Writes and entries -/

theorem docs_store {w : LimitsWrite} {schoolId : Option String} (h : w.concerns schoolId = false)
    (limits : LimitsStore) : (w.store limits).docs schoolId = limits.docs schoolId := by
  cases w with
  | setSystem input => cases h
  | setSchool schoolId' input | clearSchool schoolId' =>
    cases schoolId with
    | none => rfl
    | some id =>
      have hne : id ≠ schoolId' := by simpa [LimitsWrite.concerns] using h
      simp [LimitsWrite.store, LimitsStore.docs, update_of_ne hne]

/-- An entry that a write leaves in the cache is of a school the write does not concern. -/
theorem invalidate_some {w : LimitsWrite} {cache : LimitsCache} {schoolId : Option String}
    {entry : LimitsEntry} (h : w.invalidate cache schoolId = some entry) :
    cache schoolId = some entry ∧ w.concerns schoolId = false := by
  cases w with
  | setSystem input => cases h
  | setSchool schoolId' input | clearSchool schoolId' =>
    obtain ⟨hne, hcache⟩ := update_none_iff.mp h
    exact ⟨hcache, by simpa [LimitsWrite.concerns] using hne⟩

theorem readCache_some {cache : LimitsCache} {now : Nat} {schoolId : Option String}
    {docs : LimitsDocs} (h : readCache cache now schoolId = some docs) :
    ∃ entry, cache schoolId = some entry ∧ entry.docs = docs := by
  obtain ⟨entry, hentry, rfl⟩ := Option.map_eq_some_iff.mp h
  exact ⟨entry, (Option.filter_eq_some_iff.mp hentry).1, rfl⟩

theorem UpperCaseStore.resolve {limits : LimitsStore} (h : UpperCaseStore limits)
    (schoolId : Option String) (env : LimitPair) (assetKey : String) :
    (limits.docs schoolId).resolve env assetKey = (limits.docs schoolId).documented env assetKey := by
  refine resolve_eq_documented (fun doc hdoc => ?_) h.system env assetKey
  obtain ⟨id, rfl, hstored⟩ := Option.bind_eq_some_iff.mp hdoc
  exact h.school id doc hstored

omit [DecidableEq P] in
theorem UpperCaseStore.write {s : LimitsSystem P} {w : LimitsWrite} (h : UpperCaseStore s.limits)
    (hcareful : LimitsCareful s (.write w)) : UpperCaseStore (w.store s.limits) := by
  cases w with
  | setSystem input =>
    refine ⟨h.school, fun doc hdoc => ?_⟩
    obtain rfl := Option.some.inj hdoc
    exact hcareful
  | setSchool schoolId input =>
    refine ⟨fun id doc hdoc => ?_, h.system⟩
    rcases update_some_iff.mp hdoc with ⟨-, rfl⟩ | ⟨-, hstored⟩
    · exact hcareful
    · exact h.school id doc hstored
  | clearSchool schoolId =>
    refine ⟨fun id doc hdoc => ?_, h.system⟩
    exact h.school id doc (update_none_iff.mp hdoc).2

/-! ## Steps -/

section Step
variable {cfg : LimitsConfig} {s t : LimitsSystem P} {p : P} {w : LimitsWrite}

omit [DecidableEq P] in
theorem TakesEffect.cons {answer : LimitsAnswer} {s' : LimitsSystem P} (h : TakesEffect s)
    (hanswers : s'.answers = answer :: s.answers)
    (hanswer : answer.undisturbed = true → answer.given = answer.documented) : TakesEffect s' := by
  intro a ha
  rw [hanswers] at ha
  rcases List.mem_cons.mp ha with rfl | ha
  · exact hanswer
  · exact h a ha

/-- A call that moves on keeps the invariant if what it has read by then is what is stored. -/
theorem LimitsInv.move (h : LimitsInv s) {call : LimitsCall}
    (hcall : call.undisturbed = true → call.UpToDate s.limits) :
    LimitsInv { s with call := update s.call p (some call) } where
  upperCase := h.upperCase
  cached := h.cached
  read q c hq hquiet := by
    rcases update_some_iff.mp hq with ⟨-, rfl⟩ | ⟨-, hq⟩
    · exact hcall hquiet
    · exact h.read q c hq hquiet
  effect := h.effect

theorem LimitsInv.resolve_step {schoolId asset : Option String} (h : LimitsInv s)
    (hstep : limitsStep cfg s (.resolve p schoolId asset) = some t) : LimitsInv t := by
  simp only [limitsStep] at hstep
  split at hstep
  · cases hstep
  split at hstep
  · rename_i docs hhit
    obtain rfl := Option.some.inj hstep
    refine ⟨h.upperCase, h.cached, h.read, h.effect.cons rfl fun hquiet => ?_⟩
    obtain ⟨entry, hentry, rfl⟩ := readCache_some hhit
    have hstored : entry.docs = s.limits.docs (limitsSchoolKey schoolId) := by
      refine (h.cached _ entry hentry).resolve_left fun hwrite => ?_
      obtain ⟨w, hw, hconcerns⟩ := hwrite
      have hany : s.writing.any (LimitsWrite.concerns (limitsSchoolKey schoolId)) = true :=
        List.any_eq_true.mpr ⟨w, hw, hconcerns⟩
      simp [LimitsSystem.answer, hany] at hquiet
    simp only [LimitsSystem.answer, hstored]
    exact h.upperCase.resolve _ s.limits.env (limitsAssetKey asset)
  · obtain rfl := Option.some.inj hstep
    exact h.move fun _ => trivial

theorem LimitsInv.readSchool_step (h : LimitsInv s) (hstep : limitsStep cfg s (.readSchool p) = some t) :
    LimitsInv t := by
  simp only [limitsStep] at hstep
  split at hstep
  · obtain rfl := Option.some.inj hstep
    exact h.move fun _ => rfl
  · cases hstep

theorem LimitsInv.readSystem_step (h : LimitsInv s) (hstep : limitsStep cfg s (.readSystem p) = some t) :
    LimitsInv t := by
  simp only [limitsStep] at hstep
  split at hstep
  · rename_i schoolId asset undisturbed doc hcall
    obtain rfl := Option.some.inj hstep
    refine h.move fun hquiet => ?_
    obtain rfl : doc = (s.limits.docs schoolId).school := h.read p _ hcall hquiet
    rfl
  · cases hstep

theorem LimitsInv.finish_step (h : LimitsInv s) (hcareful : LimitsCareful s (.finish p))
    (hstep : limitsStep cfg s (.finish p) = some t) : LimitsInv t := by
  simp only [limitsStep] at hstep
  split at hstep
  · rename_i schoolId asset undisturbed docs hcall
    obtain rfl := Option.some.inj hstep
    refine ⟨h.upperCase, fun id entry hentry => ?_, fun q call hq => ?_,
      h.effect.cons rfl fun hquiet => ?_⟩
    · rcases update_some_iff.mp hentry with ⟨rfl, rfl⟩ | ⟨-, hentry⟩
      · exact hcareful _ hcall docs rfl
      · exact h.cached id entry hentry
    · exact h.read q call (update_none_iff.mp hq).2
    · obtain rfl : docs = s.limits.docs schoolId := h.read p _ hcall hquiet
      exact h.upperCase.resolve schoolId s.limits.env (limitsAssetKey asset)
  · cases hstep

theorem LimitsInv.fail_step (h : LimitsInv s) (hcareful : LimitsCareful s (.fail p))
    (hstep : limitsStep cfg s (.fail p) = some t) : LimitsInv t := by
  simp only [limitsStep] at hstep
  split at hstep
  · rename_i call hcall
    obtain rfl := Option.some.inj hstep
    refine ⟨h.upperCase, h.cached, fun q c hq => ?_, h.effect.cons rfl fun hquiet => ?_⟩
    · exact h.read q c (update_none_iff.mp hq).2
    · exact (hcareful call hcall hquiet).symm
  · cases hstep

/-- A write disturbs the calls it concerns; for the others the same documents are stored. -/
theorem LimitsInv.write_step (h : LimitsInv s) (hcareful : LimitsCareful s (.write w))
    (hstep : limitsStep cfg s (.write w) = some t) : LimitsInv t := by
  simp only [limitsStep] at hstep
  split at hstep
  case isFalse => cases hstep
  obtain rfl := Option.some.inj hstep
  refine ⟨h.upperCase.write hcareful, fun schoolId entry hentry => ?_, fun q call hq hquiet => ?_,
    h.effect⟩
  · by_cases hconcerns : w.concerns schoolId = true
    · exact Or.inl ⟨w, List.mem_cons_self, hconcerns⟩
    · rw [docs_store (Bool.eq_false_iff.mpr hconcerns)]
      exact (h.cached schoolId entry hentry).imp_left fun ⟨w', hw', hconcerns'⟩ =>
        ⟨w', List.mem_cons_of_mem _ hw', hconcerns'⟩
  · obtain ⟨old, hold, rfl⟩ := Option.map_eq_some_iff.mp hq
    obtain ⟨hquiet, hconcerns⟩ := Bool.and_eq_true_iff.mp hquiet
    have hdocs : (w.store s.limits).docs old.schoolId = s.limits.docs old.schoolId :=
      docs_store (by simpa using hconcerns) s.limits
    have hread := h.read q old hold hquiet
    simp only [LimitsCall.UpToDate, hdocs] at hread ⊢
    exact hread

/-- A write drops the entries it concerns; the others are left to the writes that concern
them. -/
theorem LimitsInv.invalidate_step (h : LimitsInv s) (hstep : limitsStep cfg s (.invalidate w) = some t) :
    LimitsInv t := by
  simp only [limitsStep] at hstep
  split at hstep
  case isFalse => cases hstep
  obtain rfl := Option.some.inj hstep
  refine ⟨h.upperCase, fun schoolId entry hentry => ?_, h.read, h.effect⟩
  obtain ⟨hcached, hconcerns⟩ := invalidate_some hentry
  refine (h.cached schoolId entry hcached).imp_left fun ⟨w', hw', hconcerns'⟩ => ⟨w', ?_, hconcerns'⟩
  refine (List.mem_erase_of_ne ?_).mpr hw'
  rintro rfl
  rw [hconcerns] at hconcerns'
  cases hconcerns'

theorem LimitsInv.step {a : LimitsAction P} (h : LimitsInv s) (hcareful : LimitsCareful s a)
    (hstep : limitsStep cfg s a = some t) : LimitsInv t := by
  cases a with
  | tick ms =>
    cases hstep
    exact ⟨h.upperCase, h.cached, h.read, h.effect⟩
  | resolve p schoolId asset => exact h.resolve_step hstep
  | readSchool p => exact h.readSchool_step hstep
  | readSystem p => exact h.readSystem_step hstep
  | finish p => exact h.finish_step hcareful hstep
  | fail p => exact h.fail_step hcareful hstep
  | write w => exact h.write_step hcareful hstep
  | invalidate w => exact h.invalidate_step hstep

end Step

/-- **Limit changes take effect** in every run in which documents name their codes in upper
case, no call fills the cache with documents that were replaced since it read them, and the
reads do not fail. -/
theorem limits_take_effect {cfg : LimitsConfig} {limits : LimitsStore} {t : LimitsSystem P}
    (hupper : UpperCaseStore limits)
    (hreach : Reach (limitsStep cfg) LimitsCareful (.start limits) t) : TakesEffect t := by
  have hstart : LimitsInv (LimitsSystem.start limits : LimitsSystem P) := by
    refine ⟨hupper, ?_, ?_, ?_⟩
    · intro schoolId entry hentry
      cases hentry
    · intro p call hcall
      cases hcall
    · intro answer hanswer
      cases hanswer
  have hinv : LimitsInv t := hreach.invariant hstart fun h hcareful hstep => h.step hcareful hstep
  exact hinv.effect

end System

/-! ## Runs -/

/-- A system document for `USDC` only. -/
def usdcLimits : LimitsInput := ⟨none, some [("USDC", ⟨1, 50⟩)]⟩

/-- No document is stored yet. -/
def noLimits : LimitsStore := ⟨fun _ => none, none, ⟨0, 1000⟩⟩

theorem noLimits_upperCase : UpperCaseStore noLimits := by
  refine ⟨?_, ?_⟩
  · intro schoolId doc hdoc
    cases hdoc
  · intro doc hdoc
    cases hdoc

def oneSchool : LimitsConfig where
  schools := ["SCH"]

/-- A change, and two calls after it: one reads the documents, the other is a cache hit. -/
def changeThenResolve : List (LimitsAction Nat) :=
  [.write (.setSystem usdcLimits), .invalidate (.setSystem usdcLimits),
    .resolve 0 (some "SCH") (some "usdc"), .readSchool 0, .readSystem 0, .finish 0,
    .resolve 1 (some "SCH") (some "usdc")]

theorem limits_take_effect_change :
    ∃ t, exec (limitsStep oneSchool) (.start noLimits) changeThenResolve = some t ∧
      t.answers.map LimitsAnswer.undisturbed = [true, true] ∧ TakesEffect t := by
  obtain ⟨t, hrun, hcareful, hquiet⟩ : ∃ t,
      exec (limitsStep oneSchool) (.start noLimits) changeThenResolve = some t ∧
      execOk (limitsStep oneSchool) LimitsCareful (.start noLimits) changeThenResolve = some t ∧
      t.answers.map LimitsAnswer.undisturbed = [true, true] := ⟨_, rfl, rfl, rfl⟩
  exact ⟨t, hrun, hquiet, limits_take_effect noLimits_upperCase (.of_execOk hcareful)⟩

/-- A call in flight reads before a change and fills the cache after it; the next call, started
after the change had returned, is answered from the environment. -/
theorem stale_fill_hides_change :
    ¬ ∀ (cfg : LimitsConfig) (limits : LimitsStore) (t : LimitsSystem Nat),
      UpperCaseStore limits →
      Reach (limitsStep cfg) ReadsSucceed (.start limits) t → TakesEffect t := by
  intro h
  obtain ⟨t, hrun, hanswers⟩ : ∃ t, execOk (limitsStep oneSchool) ReadsSucceed
      (.start noLimits) [.resolve 0 (some "SCH") (some "USDC"), .readSchool 0, .readSystem 0,
        .write (.setSystem usdcLimits), .invalidate (.setSystem usdcLimits), .finish 0,
        .resolve 1 (some "SCH") (some "USDC")] = some t ∧
      (⟨true, ENV_LIMITS ⟨0, 1000⟩, ⟨⟨1, 50⟩, "system:asset:USDC"⟩⟩ : LimitsAnswer) ∈ t.answers :=
    ⟨_, rfl, List.mem_cons_self⟩
  have heffect := h oneSchool noLimits t noLimits_upperCase (.of_execOk hrun)
  exact absurd (heffect _ hanswers rfl) (by decide)

end StellarEduPay

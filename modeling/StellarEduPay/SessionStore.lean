import Mathlib.Data.List.AList
import StellarEduPay.JsString

/-! # The session store (`services/sessionStore.js`)

Refresh tokens are stored by token, and beside them each family has the set of its tokens. A token that
is read after its time is deleted from the tokens only, so a family may list tokens that are gone, or
that have been stored again for another family. No token is missing from its family: so a revoked family
has none left, and what a user has is found through the tokens themselves.

The order of a `Map` does not matter here. User ids are as `String` turns them into text.
-/
namespace StellarEduPay

/-! ## The store -/

/-- A `Map` with strings for keys. -/
abbrev StringMap (ν : Type) := AList fun _ : String => ν

/-- A `Set` of strings. -/
abbrev StringSet := StringMap Unit

/-- What is stored with a refresh token. -/
structure RefreshEntry where
  userId : String
  sessionId : Option String
  familyId : Option String
  /-- `none` is anything but a number. -/
  expiresAt : Option Int
  deriving DecidableEq, Repr

/-- The maps of the module; a token may be stored with no entry. -/
structure SessionStore (σ : Type) where
  sessions : StringMap (StringMap σ)
  refreshTokens : StringMap (Option RefreshEntry)
  families : StringMap StringSet

/-- `entry && entry.familyId`, where that is truthy. -/
def entryFamily (entry : Option RefreshEntry) : Option String :=
  entry.bind fun e => truthy e.familyId

/-- `isExpired` -/
def isEntryExpired (now : Int) : Option RefreshEntry → Bool
  | none => true
  | some e => e.expiresAt.any (· ≤ now)

/-- Delete keys one by one, and count those that were there. -/
def deleteAll {ν : Type} : List String → StringMap ν → Nat × StringMap ν
  | [], m => (0, m)
  | key :: keys, m =>
    let (n, m') := deleteAll keys (m.erase key)
    ((if key ∈ m then 1 else 0) + n, m')

namespace SessionStore
variable {σ : Type}

def empty : SessionStore σ := ⟨∅, ∅, ∅⟩

def getUserSessions (s : SessionStore σ) (userId : String) : StringMap σ :=
  (s.sessions.lookup userId).getD ∅

def getSession (s : SessionStore σ) (userId sessionId : String) : Option σ :=
  (s.getUserSessions userId).lookup sessionId

def setSession (s : SessionStore σ) (userId sessionId : String) (session : σ) : SessionStore σ :=
  { s with
    sessions := s.sessions.insert userId ((s.getUserSessions userId).insert sessionId session) }

def deleteSession (s : SessionStore σ) (userId sessionId : String) : SessionStore σ :=
  match s.sessions.lookup userId with
  | none => s
  | some userSessions =>
    { s with sessions := s.sessions.insert userId (userSessions.erase sessionId) }

def setRefreshToken (s : SessionStore σ) (token : String) (entry : Option RefreshEntry) :
    SessionStore σ :=
  { s with
    refreshTokens := s.refreshTokens.insert token entry
    families :=
      match entryFamily entry with
      | none => s.families
      | some familyId =>
        s.families.insert familyId (((s.families.lookup familyId).getD ∅).insert token ()) }

def getRefreshToken (s : SessionStore σ) (now : Int) (token : String) :
    Option RefreshEntry × SessionStore σ :=
  let entry := (s.refreshTokens.lookup token).join
  if isEntryExpired now entry then
    (none, if entry.isSome then { s with refreshTokens := s.refreshTokens.erase token } else s)
  else (entry, s)

def deleteRefreshToken (s : SessionStore σ) (token : String) :
    Option RefreshEntry × SessionStore σ :=
  let entry := (s.refreshTokens.lookup token).join
  let families :=
    match entryFamily entry with
    | none => s.families
    | some familyId =>
      match s.families.lookup familyId with
      | none => s.families
      | some family =>
        if (family.erase token).keys.length = 0 then s.families.erase familyId
        else s.families.insert familyId (family.erase token)
  (entry, { s with refreshTokens := s.refreshTokens.erase token, families := families })

def revokeFamily (s : SessionStore σ) (familyId : String) : Nat × SessionStore σ :=
  match s.families.lookup familyId with
  | none => (0, s)
  | some family =>
    let (revoked, refreshTokens) := deleteAll family.keys s.refreshTokens
    (revoked, { s with refreshTokens := refreshTokens, families := s.families.erase familyId })

/-- The tokens of a user, with their entries. -/
def ownedTokens (s : SessionStore σ) (key : String) :
    List (Sigma fun _ : String => Option RefreshEntry) :=
  s.refreshTokens.entries.filter fun m => m.2.any (·.userId = key)

/-- How many sessions and refresh tokens there were, and the store without them. -/
def revokeAllUserSessions (s : SessionStore σ) (key : String) : (Nat × Nat) × SessionStore σ :=
  let owned := s.ownedTokens key
  let familyIds := owned.filterMap fun m => entryFamily m.2
  let sessionCount := (s.getUserSessions key).keys.length
  ((sessionCount, owned.length),
    { sessions := s.sessions.erase key
      refreshTokens := (deleteAll (owned.map Sigma.fst) s.refreshTokens).2
      families := (deleteAll familyIds s.families).2 })

end SessionStore

/-! ## Runs -/

inductive StoreAction (σ : Type)
  | setRefreshToken (token : String) (entry : Option RefreshEntry)
  | getRefreshToken (token : String)
  | deleteRefreshToken (token : String)
  | revokeFamily (familyId : String)
  | revokeAllUserSessions (userId : String)
  | setSession (userId sessionId : String) (session : σ)
  | deleteSession (userId sessionId : String)
  | clear
  /-- Milliseconds go by. -/
  | wait (ms : Nat)

/-- The store, and the clock in milliseconds. -/
structure SessionRun (σ : Type) where
  store : SessionStore σ
  now : Int

namespace SessionRun
variable {σ : Type}

def step (s : SessionRun σ) : StoreAction σ → SessionRun σ
  | .setRefreshToken token entry => { s with store := s.store.setRefreshToken token entry }
  | .getRefreshToken token => { s with store := (s.store.getRefreshToken s.now token).2 }
  | .deleteRefreshToken token => { s with store := (s.store.deleteRefreshToken token).2 }
  | .revokeFamily familyId => { s with store := (s.store.revokeFamily familyId).2 }
  | .revokeAllUserSessions userId => { s with store := (s.store.revokeAllUserSessions userId).2 }
  | .setSession userId sessionId session =>
    { s with store := s.store.setSession userId sessionId session }
  | .deleteSession userId sessionId => { s with store := s.store.deleteSession userId sessionId }
  | .clear => { s with store := .empty }
  | .wait ms => { s with now := s.now + ms }

def run (s : SessionRun σ) (actions : List (StoreAction σ)) : SessionRun σ := actions.foldl step s

/-- What `getRefreshToken` returns. -/
def returned (s : SessionRun σ) (token : String) : Option RefreshEntry :=
  (s.store.getRefreshToken s.now token).1

end SessionRun

/-- Each family's tokens are stored for one user. -/
def OneOwner {σ : Type} (owner : String → String) (actions : List (StoreAction σ)) : Prop :=
  ∀ token e f, .setRefreshToken token (some e) ∈ actions → truthy e.familyId = some f →
    e.userId = owner f

/-! ## What is deleted, and where an entry comes from -/

theorem lookup_deleteAll {ν : Type} {key : String} (keys : List String) (m : StringMap ν) :
    (deleteAll keys m).2.lookup key = if key ∈ keys then none else m.lookup key := by
  induction keys generalizing m with
  | nil => simp [deleteAll]
  | cons k keys ih =>
    rw [deleteAll, ih]
    by_cases hkey : key ∈ keys
    · simp [hkey]
    · by_cases heq : key = k
      · subst heq
        simp [AList.lookup_erase]
      · simp [hkey, heq, AList.lookup_erase_ne heq]

namespace SessionStore
variable {σ : Type} {s : SessionStore σ} {token other familyId key : String} {now : Int}
  {entry : Option RefreshEntry} {e : RefreshEntry}

theorem lookup_setRefreshToken :
    (s.setRefreshToken token entry).refreshTokens.lookup other =
      if other = token then some entry else s.refreshTokens.lookup other := by
  rw [setRefreshToken]
  by_cases heq : other = token
  · subst heq
    simp [AList.lookup_insert]
  · simp [heq, AList.lookup_insert_ne heq]

/-- A read at most deletes the token, and only from the tokens. -/
theorem getRefreshToken_cases (s : SessionStore σ) (now : Int) (token : String) :
    (s.getRefreshToken now token).2 = s ∨
      (s.getRefreshToken now token).2 = { s with refreshTokens := s.refreshTokens.erase token } := by
  unfold getRefreshToken
  dsimp only
  split
  · split
    · exact .inr rfl
    · exact .inl rfl
  · exact .inl rfl

/-- What is returned is what is stored, when its time is not over. -/
theorem fst_getRefreshToken (s : SessionStore σ) (now : Int) (token : String) :
    (s.getRefreshToken now token).1 =
      (s.refreshTokens.lookup token).join.filter fun e => !isEntryExpired now (some e) := by
  unfold getRefreshToken
  dsimp only
  cases (s.refreshTokens.lookup token).join with
  | none => rfl
  | some e => cases hexpired : isEntryExpired now (some e) <;> simp [Option.filter, hexpired]

theorem lookup_of_getRefreshToken (h : (s.getRefreshToken now token).1 = some e) :
    s.refreshTokens.lookup token = some (some e) := by
  rw [fst_getRefreshToken, Option.filter_eq_some_iff] at h
  exact Option.join_eq_some_iff.mp h.1

theorem deleteAll_eq_some {ν : Type} {keys : List String} {m : StringMap ν} {x : ν} :
    (deleteAll keys m).2.lookup key = some x ↔ m.lookup key = some x ∧ key ∉ keys := by
  rw [lookup_deleteAll]
  by_cases hkey : key ∈ keys <;> simp [hkey]

theorem lookup_revokeFamily :
    (s.revokeFamily familyId).2.refreshTokens.lookup token = some entry ↔
      s.refreshTokens.lookup token = some entry ∧
        ∀ family, s.families.lookup familyId = some family → token ∉ family := by
  unfold revokeFamily
  cases hfamily : s.families.lookup familyId with
  | none => simp
  | some family => simp [deleteAll_eq_some, AList.mem_keys]

theorem mem_ownedTokens {m : Sigma fun _ : String => Option RefreshEntry} :
    m ∈ s.ownedTokens key ↔
      s.refreshTokens.lookup m.1 = some m.2 ∧ ∃ e, m.2 = some e ∧ e.userId = key := by
  rw [ownedTokens, List.mem_filter, ← AList.mem_lookup_iff, Option.mem_def, Option.any_eq_true]
  simp

/-- The tokens of the user are gone, the others are as they were. -/
theorem lookup_revokeAllUserSessions :
    (s.revokeAllUserSessions key).2.refreshTokens.lookup token = some entry ↔
      s.refreshTokens.lookup token = some entry ∧ ∀ e, entry = some e → e.userId ≠ key := by
  rw [revokeAllUserSessions, deleteAll_eq_some, List.mem_map]
  refine and_congr_right fun hstored => ⟨fun hfree e he huser => hfree ?_, fun hother hmem => ?_⟩
  · exact ⟨⟨token, entry⟩, mem_ownedTokens.mpr ⟨hstored, e, he, huser⟩, rfl⟩
  · obtain ⟨m, hm, rfl⟩ := hmem
    obtain ⟨hlookup, e, he, huser⟩ := mem_ownedTokens.mp hm
    rw [hlookup, Option.some_inj] at hstored
    exact hother e (hstored ▸ he) huser

/-- The families that a token of the user is of are gone. -/
theorem lookup_families_revokeAllUserSessions {family : StringSet} :
    (s.revokeAllUserSessions key).2.families.lookup familyId = some family ↔
      s.families.lookup familyId = some family ∧
        ∀ token e, s.refreshTokens.lookup token = some (some e) → e.userId = key →
          truthy e.familyId ≠ some familyId := by
  rw [revokeAllUserSessions, deleteAll_eq_some, List.mem_filterMap]
  refine and_congr_right fun _ => ⟨fun hfree token e hstored huser hfamily => hfree ?_,
    fun hother hmem => ?_⟩
  · exact ⟨⟨token, some e⟩, mem_ownedTokens.mpr ⟨hstored, e, rfl, huser⟩, hfamily⟩
  · obtain ⟨m, hm, hfamily⟩ := hmem
    obtain ⟨hlookup, e, he, huser⟩ := mem_ownedTokens.mp hm
    rw [he] at hlookup hfamily
    exact hother m.1 e hlookup huser hfamily

/-! ### Sessions -/

section
variable {userId sessionId u id : String} {x : σ}

theorem getSession_setSession :
    (s.setSession u id x).getSession userId sessionId =
      if userId = u ∧ sessionId = id then some x else s.getSession userId sessionId := by
  rw [getSession, getUserSessions, setSession]
  by_cases hu : userId = u
  · subst hu
    rw [AList.lookup_insert, Option.getD_some]
    by_cases hid : sessionId = id
    · subst hid
      rw [AList.lookup_insert, if_pos ⟨rfl, rfl⟩]
    · rw [AList.lookup_insert_ne hid, if_neg fun h => hid h.2, getSession]
  · rw [AList.lookup_insert_ne hu, if_neg fun h => hu h.1, getSession, getUserSessions]

theorem getSession_of_deleteSession
    (h : (s.deleteSession u id).getSession userId sessionId = some x) :
    s.getSession userId sessionId = some x := by
  unfold deleteSession at h
  cases hsessions : s.sessions.lookup u with
  | none => rwa [hsessions] at h
  | some userSessions =>
    rw [hsessions, getSession, getUserSessions] at h
    by_cases hu : userId = u
    · subst hu
      rw [AList.lookup_insert, Option.getD_some] at h
      rw [getSession, getUserSessions, hsessions, Option.getD_some]
      by_cases hid : sessionId = id
      · rw [hid, AList.lookup_erase] at h
        cases h
      · rwa [AList.lookup_erase_ne hid] at h
    · rwa [AList.lookup_insert_ne hu] at h

theorem getSession_revokeAllUserSessions :
    (s.revokeAllUserSessions u).2.getSession userId sessionId =
      if userId = u then none else s.getSession userId sessionId := by
  rw [getSession, getUserSessions, revokeAllUserSessions]
  by_cases hu : userId = u
  · subst hu
    rw [AList.lookup_erase, if_pos rfl]
    rfl
  · rw [AList.lookup_erase_ne hu, if_neg hu]
    rfl

end

/-! ### The families -/

def InFamily (s : SessionStore σ) (familyId token : String) : Prop :=
  ∃ family, s.families.lookup familyId = some family ∧ token ∈ family

theorem inFamily_setRefreshToken_self (h : entryFamily entry = some familyId) :
    (s.setRefreshToken token entry).InFamily familyId token := by
  refine ⟨((s.families.lookup familyId).getD ∅).insert token (), ?_, ?_⟩
  · rw [setRefreshToken, h]
    exact AList.lookup_insert _
  · exact (AList.mem_insert _).mpr (.inl rfl)

theorem inFamily_setRefreshToken (h : s.InFamily familyId token) :
    (s.setRefreshToken other entry).InFamily familyId token := by
  obtain ⟨family, hfamily, hmem⟩ := h
  rw [InFamily, setRefreshToken]
  cases hentry : entryFamily entry with
  | none => exact ⟨family, hfamily, hmem⟩
  | some f =>
    by_cases heq : familyId = f
    · subst heq
      refine ⟨family.insert other (), ?_, (AList.mem_insert _).mpr (.inr hmem)⟩
      simp only [hfamily, Option.getD_some, AList.lookup_insert]
    · exact ⟨family, by simpa only [AList.lookup_insert_ne heq] using hfamily, hmem⟩

/-- A family is dropped only when its last token is deleted. -/
theorem inFamily_deleteRefreshToken (h : s.InFamily familyId token) (hne : token ≠ other) :
    (s.deleteRefreshToken other).2.InFamily familyId token := by
  obtain ⟨family, hfamily, hmem⟩ := h
  rw [InFamily, deleteRefreshToken]
  cases hentry : entryFamily (s.refreshTokens.lookup other).join with
  | none => exact ⟨family, hfamily, hmem⟩
  | some f =>
    cases hf : s.families.lookup f with
    | none => exact ⟨family, by simpa only [hf] using hfamily, hmem⟩
    | some rest =>
      by_cases heq : familyId = f
      · subst heq
        obtain rfl : rest = family := Option.some.inj (hf.symm.trans hfamily)
        have hleft : token ∈ rest.erase other := AList.mem_erase.mpr ⟨hne, hmem⟩
        have hsize : (rest.erase other).keys.length ≠ 0 := by
          intro hempty
          rw [AList.mem_keys, List.length_eq_zero_iff.mp hempty] at hleft
          exact absurd hleft List.not_mem_nil
        exact ⟨rest.erase other, by simp only [hf, if_neg hsize, AList.lookup_insert], hleft⟩
      · refine ⟨family, ?_, hmem⟩
        simp only [hf]
        split
        · rwa [AList.lookup_erase_ne heq]
        · rwa [AList.lookup_insert_ne heq]

theorem inFamily_revokeFamily (h : s.InFamily familyId token) (hne : familyId ≠ other) :
    (s.revokeFamily other).2.InFamily familyId token := by
  obtain ⟨family, hfamily, hmem⟩ := h
  rw [InFamily, revokeFamily]
  cases hother : s.families.lookup other with
  | none => exact ⟨family, hfamily, hmem⟩
  | some rest => exact ⟨family, (AList.lookup_erase_ne hne).trans hfamily, hmem⟩

/-- Every stored token is listed in its family, and its user is the owner of that family. -/
structure Indexed (owner : String → String) (s : SessionStore σ) : Prop where
  listed : ∀ token e familyId, s.refreshTokens.lookup token = some (some e) →
    truthy e.familyId = some familyId → s.InFamily familyId token
  owned : ∀ token e familyId, s.refreshTokens.lookup token = some (some e) →
    truthy e.familyId = some familyId → e.userId = owner familyId

theorem indexed_empty (owner : String → String) : (empty : SessionStore σ).Indexed owner where
  listed := by intro token e familyId h; cases h
  owned := by intro token e familyId h; cases h

end SessionStore

namespace SessionRun
variable {σ : Type} {s : SessionRun σ} {token : String} {e : RefreshEntry}

/-- What is stored with a token after a step was stored before it, or is what the step stores. -/
theorem lookup_step {a : StoreAction σ}
    (h : (s.step a).store.refreshTokens.lookup token = some (some e)) :
    s.store.refreshTokens.lookup token = some (some e) ∨ a = .setRefreshToken token (some e) := by
  have herase : ∀ other, (s.store.refreshTokens.erase other).lookup token = some (some e) →
      s.store.refreshTokens.lookup token = some (some e) := by
    intro other hlookup
    by_cases heq : token = other
    · rw [heq, AList.lookup_erase] at hlookup
      cases hlookup
    · rwa [AList.lookup_erase_ne heq] at hlookup
  cases a with
  | setRefreshToken other entry =>
    rw [step, SessionStore.lookup_setRefreshToken] at h
    split at h
    · rename_i heq
      obtain rfl := Option.some.inj h
      exact .inr (by rw [heq])
    · exact .inl h
  | getRefreshToken other =>
    rcases s.store.getRefreshToken_cases s.now other with heq | heq
    · rw [step, heq] at h
      exact .inl h
    · rw [step, heq] at h
      exact .inl (herase other h)
  | deleteRefreshToken other => exact .inl (herase other h)
  | revokeFamily familyId =>
    exact .inl (SessionStore.lookup_revokeFamily.mp h).1
  | revokeAllUserSessions userId =>
    exact .inl (SessionStore.lookup_revokeAllUserSessions.mp h).1
  | setSession userId sessionId session => exact .inl h
  | deleteSession userId sessionId =>
    refine .inl ?_
    rw [step, SessionStore.deleteSession] at h
    split at h <;> exact h
  | clear => cases h
  | wait ms => exact .inl h

/-- **An entry was stored**, before the run or in it. -/
theorem lookup_run {actions : List (StoreAction σ)}
    (h : (s.run actions).store.refreshTokens.lookup token = some (some e)) :
    s.store.refreshTokens.lookup token = some (some e) ∨
      .setRefreshToken token (some e) ∈ actions := by
  induction actions generalizing s with
  | nil => exact .inl h
  | cons a actions ih =>
    rcases ih (s := s.step a) h with hstored | hset
    · rcases lookup_step hstored with hbefore | rfl
      · exact .inl hbefore
      · exact .inr List.mem_cons_self
    · exact .inr (List.mem_cons_of_mem _ hset)

/-! ## No token is missing from its family -/

/-- **One step.** -/
theorem indexed_step {owner : String → String} {a : StoreAction σ} (h : s.store.Indexed owner)
    (hone : OneOwner owner [a]) : (s.step a).store.Indexed owner := by
  constructor
  · intro token e familyId hstored hfamily
    -- only the token that was just stored is new
    rcases lookup_step hstored with hbefore | rfl
    swap
    · exact SessionStore.inFamily_setRefreshToken_self hfamily
    have hlisted := h.listed token e familyId hbefore hfamily
    cases a with
    | setRefreshToken other entry => exact SessionStore.inFamily_setRefreshToken hlisted
    | getRefreshToken other =>
      rcases s.store.getRefreshToken_cases s.now other with heq | heq
      all_goals rw [step, heq]; exact hlisted
    | deleteRefreshToken other =>
      refine SessionStore.inFamily_deleteRefreshToken hlisted ?_
      rintro rfl
      cases (AList.lookup_erase _ _).symm.trans hstored
    | revokeFamily other =>
      refine SessionStore.inFamily_revokeFamily hlisted ?_
      rintro rfl
      obtain ⟨family, hlookup, hmem⟩ := hlisted
      exact (SessionStore.lookup_revokeFamily.mp hstored).2 family hlookup hmem
    | revokeAllUserSessions userId =>
      obtain ⟨family, hlookup, hmem⟩ := hlisted
      refine ⟨family, SessionStore.lookup_families_revokeAllUserSessions.mpr ⟨hlookup, ?_⟩, hmem⟩
      -- a token of the user in this family has the family's owner, as this token has
      rintro other e' hother rfl hsame
      refine (SessionStore.lookup_revokeAllUserSessions.mp hstored).2 e rfl ?_
      rw [h.owned token e familyId hbefore hfamily, h.owned other e' familyId hother hsame]
    | setSession userId sessionId session => exact hlisted
    | deleteSession userId sessionId =>
      rw [step, SessionStore.deleteSession]
      split <;> exact hlisted
    | clear => cases hstored
    | wait ms => exact hlisted
  · intro token e familyId hstored hfamily
    rcases lookup_step hstored with hbefore | rfl
    · exact h.owned token e familyId hbefore hfamily
    · exact hone token e familyId List.mem_cons_self hfamily

/-- **A whole run.** -/
theorem indexed_run {owner : String → String} {actions : List (StoreAction σ)}
    (h : s.store.Indexed owner) (hone : OneOwner owner actions) :
    (s.run actions).store.Indexed owner := by
  induction actions generalizing s with
  | nil => exact h
  | cons a actions ih =>
    refine ih (indexed_step h ?_) fun token e f hmem => hone token e f (List.mem_cons_of_mem _ hmem)
    intro token e f hmem
    exact hone token e f (List.mem_cons.mpr (.inl (List.mem_singleton.mp hmem)))

/-! ## What is returned -/

/-- A session comes from the store before the step, or is what the step stores. -/
theorem getSession_step {a : StoreAction σ} {userId sessionId : String} {x : σ}
    (h : (s.step a).store.getSession userId sessionId = some x) :
    s.store.getSession userId sessionId = some x ∨ a = .setSession userId sessionId x := by
  cases a with
  | setSession u id y =>
    rw [step, SessionStore.getSession_setSession] at h
    split at h
    · rename_i heq
      exact .inr (by rw [heq.1, heq.2, Option.some.inj h])
    · exact .inl h
  | deleteSession u id => exact .inl (SessionStore.getSession_of_deleteSession h)
  | getRefreshToken other =>
    rcases s.store.getRefreshToken_cases s.now other with heq | heq
    all_goals rw [step, heq] at h; exact .inl h
  | revokeFamily other =>
    refine .inl ?_
    rw [step, SessionStore.revokeFamily] at h
    split at h <;> exact h
  | revokeAllUserSessions u =>
    rw [step, SessionStore.getSession_revokeAllUserSessions] at h
    split at h
    · cases h
    · exact .inl h
  | setRefreshToken other entry => exact .inl h
  | deleteRefreshToken other => exact .inl h
  | clear => cases h
  | wait ms => exact .inl h

theorem getSession_run {actions : List (StoreAction σ)} {userId sessionId : String} {x : σ}
    (h : (s.run actions).store.getSession userId sessionId = some x) :
    s.store.getSession userId sessionId = some x ∨ .setSession userId sessionId x ∈ actions := by
  induction actions generalizing s with
  | nil => exact .inl h
  | cons a actions ih =>
    rcases ih (s := s.step a) h with hbefore | hset
    · rcases getSession_step hbefore with hstored | rfl
      · exact .inl hstored
      · exact .inr List.mem_cons_self
    · exact .inr (List.mem_cons_of_mem _ hset)

/-- A token that is returned after the store no longer had it was set again. -/
theorem set_of_returned {actions : List (StoreAction σ)}
    (h : (s.run actions).returned token = some e)
    (hgone : s.store.refreshTokens.lookup token ≠ some (some e)) :
    .setRefreshToken token (some e) ∈ actions :=
  (lookup_run (SessionStore.lookup_of_getRefreshToken h)).resolve_left hgone

theorem eq_of_returned {before : RefreshEntry} (hreturned : s.returned token = some before)
    (hstored : s.store.refreshTokens.lookup token = some (some e)) : before = e :=
  Option.some.inj (Option.some.inj
    ((SessionStore.lookup_of_getRefreshToken hreturned).symm.trans hstored))

/-- **The family is gone**, with every token that was stored for it. -/
theorem returned_revokeFamily {owner : String → String} {familyId : String}
    {later : List (StoreAction σ)} (h : s.store.Indexed owner)
    (hreturned : ((s.step (.revokeFamily familyId)).run later).returned token = some e)
    (hfamily : truthy e.familyId = some familyId ∨
      ∃ before, s.returned token = some before ∧ truthy before.familyId = some familyId) :
    .setRefreshToken token (some e) ∈ later := by
  refine set_of_returned hreturned fun hstored => ?_
  obtain ⟨hbefore, hother⟩ := SessionStore.lookup_revokeFamily.mp hstored
  have hsame : truthy e.familyId = some familyId := by
    obtain hsame | ⟨e', he', hsame⟩ := hfamily
    · exact hsame
    · rwa [eq_of_returned he' hbefore] at hsame
  obtain ⟨family, hlookup, hmem⟩ := h.listed token e familyId hbefore hsame
  exact hother family hlookup hmem

/-- **The user's tokens are gone.** -/
theorem returned_revokeAllUserSessions {userId : String} {later : List (StoreAction σ)}
    (hreturned : ((s.step (.revokeAllUserSessions userId)).run later).returned token = some e)
    (huser : e.userId = userId ∨ ∃ before, s.returned token = some before ∧ before.userId = userId) :
    .setRefreshToken token (some e) ∈ later := by
  refine set_of_returned hreturned fun hstored => ?_
  obtain ⟨hbefore, hother⟩ := SessionStore.lookup_revokeAllUserSessions.mp hstored
  obtain hsame | ⟨e', he', hsame⟩ := huser
  · exact hother e rfl hsame
  · exact hother e rfl (by rwa [eq_of_returned he' hbefore] at hsame)

/-- **Only the user's tokens are gone.** -/
theorem returned_step_revokeAllUserSessions (s : SessionRun σ) (userId token : String) :
    (s.step (.revokeAllUserSessions userId)).returned token =
      (s.returned token).filter (·.userId ≠ userId) := by
  have hjoin : ((s.store.revokeAllUserSessions userId).2.refreshTokens.lookup token).join =
      (s.store.refreshTokens.lookup token).join.filter (·.userId ≠ userId) := by
    refine Option.ext fun e => ?_
    simp [Option.join_eq_some_iff, Option.filter_eq_some_iff,
      SessionStore.lookup_revokeAllUserSessions]
  rw [returned, returned, step, SessionStore.fst_getRefreshToken, SessionStore.fst_getRefreshToken,
    hjoin, Option.filter_filter, Option.filter_filter]
  simp only [Bool.and_comm]

theorem families_step_revokeAllUserSessions {owner : String → String} {userId familyId : String}
    (h : s.store.Indexed owner) (hne : owner familyId ≠ userId) :
    (s.step (.revokeAllUserSessions userId)).store.families.lookup familyId =
      s.store.families.lookup familyId := by
  refine Option.ext fun family => SessionStore.lookup_families_revokeAllUserSessions.trans
    (and_iff_left_of_imp fun _ => ?_)
  rintro other e hstored rfl hfamily
  exact hne (h.owned other e familyId hstored hfamily).symm

end SessionRun

/-- **Revocation is complete.** Whatever the store went through, a token that can be returned is in its
family. After a family is revoked no token of it is returned until it is set again, and the same holds of
the tokens and the sessions of a user; of the others nothing changes. -/
theorem session_revocation_complete {σ : Type} (owner : String → String) (start : Int)
    (actions : List (StoreAction σ)) (hone : OneOwner owner actions) :
    let s : SessionRun σ := SessionRun.run ⟨.empty, start⟩ actions
    (∀ token e familyId, s.returned token = some e → truthy e.familyId = some familyId →
      s.store.InFamily familyId token) ∧
    (∀ familyId later token e,
      ((s.step (.revokeFamily familyId)).run later).returned token = some e →
      (truthy e.familyId = some familyId ∨
        ∃ before, s.returned token = some before ∧ truthy before.familyId = some familyId) →
      .setRefreshToken token (some e) ∈ later) ∧
    (∀ userId later token e,
      ((s.step (.revokeAllUserSessions userId)).run later).returned token = some e →
      (e.userId = userId ∨ ∃ before, s.returned token = some before ∧ before.userId = userId) →
      .setRefreshToken token (some e) ∈ later) ∧
    (∀ userId later sessionId x,
      ((s.step (.revokeAllUserSessions userId)).run later).store.getSession userId sessionId = some x →
      .setSession userId sessionId x ∈ later) ∧
    ∀ userId, (∀ token, (s.step (.revokeAllUserSessions userId)).returned token =
        (s.returned token).filter (·.userId ≠ userId)) ∧
      (∀ familyId, owner familyId ≠ userId →
        (s.step (.revokeAllUserSessions userId)).store.families.lookup familyId =
          s.store.families.lookup familyId) ∧
      ∀ other sessionId, other ≠ userId →
        (s.step (.revokeAllUserSessions userId)).store.getSession other sessionId =
          s.store.getSession other sessionId := by
  intro s
  have hindexed : s.store.Indexed owner :=
    SessionRun.indexed_run (SessionStore.indexed_empty owner) hone
  refine ⟨fun token e familyId hreturned hfamily => ?_,
    fun familyId later token e hreturned hfamily => ?_,
    fun userId later token e hreturned huser => ?_,
    fun userId later sessionId x hsession => ?_, fun userId => ⟨fun token => ?_, ?_, ?_⟩⟩
  · exact hindexed.listed token e familyId (SessionStore.lookup_of_getRefreshToken hreturned) hfamily
  · exact SessionRun.returned_revokeFamily hindexed hreturned hfamily
  · exact SessionRun.returned_revokeAllUserSessions hreturned huser
  · refine (SessionRun.getSession_run hsession).resolve_left fun hstored => ?_
    rw [SessionRun.step, SessionStore.getSession_revokeAllUserSessions, if_pos rfl] at hstored
    cases hstored
  · exact s.returned_step_revokeAllUserSessions userId token
  · intro familyId hne
    exact SessionRun.families_step_revokeAllUserSessions hindexed hne
  · intro other sessionId hne
    exact SessionStore.getSession_revokeAllUserSessions.trans (if_neg hne)

/-- Two tokens of one login, one of them read too late. -/
theorem session_revocation_complete_twice :
    let entry (ms : Int) : RefreshEntry := ⟨"u1", some "s1", some "f1", some ms⟩
    let s : SessionRun Unit := SessionRun.run ⟨.empty, 0⟩ [.setRefreshToken "t1" (some (entry 10)),
      .setRefreshToken "t2" (some (entry 90)), .wait 10, .getRefreshToken "t1"]
    ∀ later e, ((s.step (.revokeFamily "f1")).run later).returned "t2" = some e →
      .setRefreshToken "t2" (some e) ∈ later := by
  intro entry s later e hreturned
  refine (session_revocation_complete (fun _ => "u1") 0 _ ?_).2.1 "f1" later "t2" e hreturned
    (.inr ⟨entry 90, rfl, rfl⟩)
  intro token e' f hmem hfamily
  simp only [List.mem_cons, List.not_mem_nil, StoreAction.setRefreshToken.injEq, or_false,
    reduceCtorEq, Option.some_inj] at hmem
  rcases hmem with ⟨rfl, rfl⟩ | ⟨rfl, rfl⟩
  all_goals rfl

end StellarEduPay

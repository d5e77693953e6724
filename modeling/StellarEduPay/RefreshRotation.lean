import Mathlib.Data.List.Basic
import Mathlib.Logic.Function.Basic
import StellarEduPay.Runs

/-! # Refresh tokens (`controllers/authController.js`, `services/sessionStore.js`)

The controller rotates refresh tokens through the methods of a store object; the handlers run side
by side, one call of the store at a time.  Calling a property the object does not have throws, and
so does asking a plain result for `.catch`.

The handlers are written over any store object.  The object `getStore` returns has none of the
methods the controller calls to set, get or delete a token.
-/
namespace StellarEduPay
open Runs Function

/-! ## Store objects -/

/-- A property of the store object: absent, a plain function, or one that returns a promise. -/
inductive StoreMethod (α : Type)
  | missing
  | plain (f : α)
  | async (f : α)

/-- The function `await store.m(…)` runs; there is none if the call throws. -/
def StoreMethod.await? {α : Type} : StoreMethod α → Option α
  | missing => none
  | plain f | async f => some f

/-- What is stored with a token. -/
structure TokenMeta where
  familyId : String
  sessionId : String
  userId : String
  deriving DecidableEq, Repr

/-- The methods the handlers call, over the data of a store. -/
structure TokenStore (σ : Type) where
  setToken : StoreMethod (String → TokenMeta → σ → σ)
  getToken : StoreMethod (String → σ → Option TokenMeta)
  delToken : StoreMethod (String → σ → σ)
  markConsumed : StoreMethod (String → String → σ → σ)
  getConsumedFamily : StoreMethod (String → σ → Option String)
  revokeFamily : StoreMethod (String → σ → σ)
  isFamilyRevoked : StoreMethod (String → σ → Bool)
  setSession : StoreMethod (String → σ → σ)
  getSession : StoreMethod (String → σ → Bool)
  delSession : StoreMethod (String → σ → σ)
  revokeAllUserSessions : String → σ → σ

/-- The maps of `sessionStore`; of the session records only the outer keys. -/
structure SessionData where
  sessions : List String
  refreshTokens : List (String × TokenMeta)
  families : List (String × String)
  deriving DecidableEq, Repr

namespace SessionData

def empty : SessionData := ⟨[], [], []⟩

def setSession (userId : String) (d : SessionData) : SessionData :=
  { d with sessions := userId :: d.sessions }

/-- `revokeFamily`: the tokens of the family, and the family. -/
def revokeFamily (familyId : String) (d : SessionData) : SessionData :=
  let family := (d.families.filter (·.1 == familyId)).map Prod.snd
  { d with
    refreshTokens := d.refreshTokens.filter fun entry => !family.contains entry.1
    families := d.families.filter (·.1 != familyId) }

/-- `revokeAllUserSessions`: the tokens of the user, their families, and the sessions. -/
def revokeAllUserSessions (userId : String) (d : SessionData) : SessionData :=
  let familyIds := (d.refreshTokens.filter (·.2.userId == userId)).map (·.2.familyId)
  { sessions := d.sessions.filter (· != userId)
    refreshTokens := d.refreshTokens.filter (·.2.userId != userId)
    families := d.families.filter fun entry => !familyIds.contains entry.1 }

end SessionData

/-- The object `getStore` returns, as far as the handlers call it.  Its `getSession` is called
without a session id. -/
def getStore : TokenStore SessionData where
  setToken := .missing
  getToken := .missing
  delToken := .missing
  markConsumed := .missing
  getConsumedFamily := .missing
  revokeFamily := .plain SessionData.revokeFamily
  isFamilyRevoked := .missing
  setSession := .plain SessionData.setSession
  getSession := .plain fun _ _ => false
  delSession := .missing
  revokeAllUserSessions := SessionData.revokeAllUserSessions

/-! ## The handlers -/

/-- The store call a handler makes next, with what it has by then. -/
inductive SessionCall
  | loginSet (token : String) (entry : TokenMeta)
  | loginSession (token : String) (entry : TokenMeta)
  | refreshGet (token : String)
  | refreshConsumed (token : String)
  | refreshReuse (token familyId : String)
  | refreshFamily (token : String) (entry : TokenMeta)
  | refreshMark (token : String) (entry : TokenMeta)
  | refreshDelete (token : String) (entry : TokenMeta)
  | refreshSet (token : String) (entry : TokenMeta)
  | refreshSession (token newToken : String) (entry : TokenMeta)
  | refreshUser (token newToken : String) (entry : TokenMeta)
  | logoutGet (token : String)
  | logoutFamily (token : String) (entry : TokenMeta)
  | logoutSession (token : String) (entry : TokenMeta)
  | logoutDelete (token : String) (familyId : Option String)
  | passwordRevoke (userId : String)
  deriving DecidableEq, Repr

/-- What a handler returned; `threw` is an exception that leaves it. -/
inductive SessionEvent
  | login (valid : Bool) (issued : Option (String × TokenMeta))
  | refreshed (token newToken : String) (entry : TokenMeta)
  | refreshRefused (token : String)
  | loggedOut (familyId : Option String)
  | passwordChanged (userId : String)
  | threw
  deriving DecidableEq, Repr

/-- The data of the store, the handlers under way, the clock in seconds, and what was returned and
when, most recent first. -/
structure SessionSystem (σ : Type) where
  clock : Nat
  data : σ
  call : Nat → Option SessionCall
  log : List (Nat × SessionEvent)

/-- `login` knows whether the credentials are valid; `next` makes the next store call of a handler,
with the random token and the answer of the user lookup it may need. -/
inductive SessionAction
  | tick (seconds : Nat)
  | login (pid : Nat) (valid : Bool) (token : String) (entry : TokenMeta)
  | refresh (pid : Nat) (token : String)
  | logout (pid : Nat) (token : Option String)
  | changePassword (pid : Nat) (userId : String)
  | next (pid : Nat) (newToken : String) (userActive : Bool)
  deriving DecidableEq, Repr

namespace SessionSystem
variable {σ : Type} (s : SessionSystem σ) (pid : Nat)

/-- The handler goes on to its next store call. -/
def goOn (data : σ) (call : SessionCall) : SessionSystem σ :=
  { s with data := data, call := update s.call pid (some call) }

/-- The handler returns. -/
def finish (data : σ) (event : SessionEvent) : SessionSystem σ :=
  { s with data := data, call := update s.call pid none, log := (s.clock, event) :: s.log }

/-- `await store.m(…)`: the handler goes on with the function, or throws. -/
def awaited {α : Type} (method : StoreMethod α) (f : α → SessionSystem σ) : SessionSystem σ :=
  match method.await? with
  | some m => f m
  | none => s.finish pid s.data .threw

/-- `await store.m(…).catch(…)` of a method that changes the data: a plain method is run, and its
result has no `.catch`. -/
def caught (method : StoreMethod (σ → σ)) (f : σ → SessionSystem σ) : SessionSystem σ :=
  match method with
  | .missing => s.finish pid s.data .threw
  | .plain m => s.finish pid (m s.data) .threw
  | .async m => f (m s.data)

end SessionSystem

def StoreMethod.map {α β : Type} (g : α → β) : StoreMethod α → StoreMethod β
  | missing => missing
  | plain f => plain (g f)
  | async f => async (g f)

/-- One store call of a handler. -/
def sessionCall {σ : Type} (store : TokenStore σ) (s : SessionSystem σ) (pid : Nat)
    (newToken : String) (userActive : Bool) : SessionCall → SessionSystem σ
  | .loginSet token entry =>
    -- `issueRefreshToken` runs in a `try`: what it throws is answered with a 500
    match store.setToken.await? with
    | none => s.finish pid s.data (.login true none)
    | some setToken => s.goOn pid (setToken token entry s.data) (.loginSession token entry)
  | .loginSession token entry =>
    match store.setSession with
    | .missing => s.finish pid s.data (.login true none)
    | .plain setSession => s.finish pid (setSession entry.sessionId s.data) (.login true none)
    | .async setSession =>
      s.finish pid (setSession entry.sessionId s.data) (.login true (some (token, entry)))
  | .refreshGet token => s.awaited pid store.getToken fun getToken =>
    match getToken token s.data with
    | none => s.goOn pid s.data (.refreshConsumed token)
    | some entry => s.goOn pid s.data (.refreshFamily token entry)
  | .refreshConsumed token => s.awaited pid store.getConsumedFamily fun getConsumedFamily =>
    match getConsumedFamily token s.data with
    | none => s.finish pid s.data (.refreshRefused token)
    | some familyId => s.goOn pid s.data (.refreshReuse token familyId)
  | .refreshReuse token familyId => s.caught pid (store.revokeFamily.map (· familyId)) fun data =>
    s.finish pid data (.refreshRefused token)
  | .refreshFamily token entry =>
    if entry.familyId = "" then s.finish pid s.data (.refreshRefused token)
    else s.awaited pid store.isFamilyRevoked fun isFamilyRevoked =>
      if isFamilyRevoked entry.familyId s.data then s.finish pid s.data (.refreshRefused token)
      else s.goOn pid s.data (.refreshMark token entry)
  | .refreshMark token entry => s.awaited pid store.markConsumed fun markConsumed =>
    s.goOn pid (markConsumed token entry.familyId s.data) (.refreshDelete token entry)
  | .refreshDelete token entry => s.awaited pid store.delToken fun delToken =>
    s.goOn pid (delToken token s.data) (.refreshSet token entry)
  | .refreshSet token entry =>
    match store.setToken.await? with
    | none => s.finish pid s.data (.refreshRefused token)
    | some setToken =>
      s.goOn pid (setToken newToken entry s.data) (.refreshSession token newToken entry)
  | .refreshSession token newToken entry =>
    -- the session is read for its `lastUsed`; a plain result has no `.then`
    match store.getSession with
    | .async _ => s.goOn pid s.data (.refreshUser token newToken entry)
    | .plain _ | .missing => s.finish pid s.data .threw
  | .refreshUser token newToken entry =>
    if userActive then s.finish pid s.data (.refreshed token newToken entry)
    else s.finish pid s.data (.refreshRefused token)
  | .logoutGet token =>
    match store.getToken with
    | .missing | .plain _ => s.finish pid s.data .threw
    | .async getToken =>
      match getToken token s.data with
      | none => s.goOn pid s.data (.logoutDelete token none)
      | some entry => s.goOn pid s.data (.logoutFamily token entry)
  | .logoutFamily token entry =>
    s.caught pid (store.revokeFamily.map (· entry.familyId)) fun data =>
      s.goOn pid data (.logoutSession token entry)
  | .logoutSession token entry =>
    s.caught pid (store.delSession.map (· entry.sessionId)) fun data =>
      s.goOn pid data (.logoutDelete token (some entry.familyId))
  | .logoutDelete token familyId => s.caught pid (store.delToken.map (· token)) fun data =>
    s.finish pid data (.loggedOut familyId)
  | .passwordRevoke userId =>
    s.finish pid (store.revokeAllUserSessions userId s.data) (.passwordChanged userId)

def sessionStep {σ : Type} (store : TokenStore σ) (s : SessionSystem σ) :
    SessionAction → Option (SessionSystem σ)
  | .tick seconds => some { s with clock := s.clock + seconds }
  | .login pid valid token entry =>
    match s.call pid, valid with
    | none, true => some (s.goOn pid s.data (.loginSet token entry))
    | none, false => some (s.finish pid s.data (.login false none))
    | some _, _ => none
  | .refresh pid token =>
    match s.call pid with
    | none => some (s.goOn pid s.data (.refreshGet token))
    | some _ => none
  | .logout pid token =>
    match s.call pid, token with
    | none, some token => some (s.goOn pid s.data (.logoutGet token))
    | none, none => some (s.finish pid s.data (.loggedOut none))
    | some _, _ => none
  | .changePassword pid userId =>
    match s.call pid with
    | none => some (s.goOn pid s.data (.passwordRevoke userId))
    | some _ => none
  | .next pid newToken userActive =>
    (s.call pid).map (sessionCall store s pid newToken userActive)

def SessionSystem.start : SessionSystem SessionData where
  clock := 0
  data := .empty
  call := fun _ => none
  log := []

/-! ## What is to hold -/

/-- The exchange of a token. -/
def SessionEvent.exchanges (token : String) : SessionEvent → Bool
  | refreshed consumed _ _ => consumed == token
  | _ => false

/-- Nothing among the events exchanges a token of the family. -/
def NoExchange (familyId : String) (events : List (Nat × SessionEvent)) : Prop :=
  ∀ e ∈ events, ∀ token newToken entry, e.2 = .refreshed token newToken entry →
    entry.familyId ≠ familyId

/-- How long a token that was exchanged is remembered, in seconds. -/
def reuseWindow : Nat := 300

/-- **Rotation**: valid logins get a token, no token is exchanged twice, a family has one live
token, and a reuse, a logout or a password change ends the families concerned. -/
structure RotationSafe (s : SessionSystem SessionData) : Prop where
  yields : ∀ e ∈ s.log, ∀ issued, e.2 = .login true issued → issued.isSome = true
  once : ∀ token, s.log.countP (fun e => e.2.exchanges token) ≤ 1
  oneLive : (s.data.refreshTokens.map (·.2.familyId)).Nodup
  reuse : ∀ later e earlier, s.log = later ++ e :: earlier → ∀ token, e.2 = .refreshRefused token →
    ∀ time newToken entry, (time, .refreshed token newToken entry) ∈ earlier →
      e.1 ≤ time + reuseWindow → NoExchange entry.familyId later
  logout : ∀ later e earlier, s.log = later ++ e :: earlier → ∀ familyId,
    e.2 = .loggedOut (some familyId) → NoExchange familyId later
  password : ∀ later e earlier, s.log = later ++ e :: earlier → ∀ userId,
    e.2 = .passwordChanged userId → ∀ time token entry,
      (time, .login true (some (token, entry))) ∈ earlier → entry.userId = userId →
        NoExchange entry.familyId later

/-! ## Every run over `getStore` -/

/-- The first store call of a handler. -/
def SessionCall.first : SessionCall → Bool
  | loginSet .. | refreshGet _ | logoutGet _ | passwordRevoke _ => true
  | _ => false

/-- The event hands out no token. -/
def SessionEvent.bare : SessionEvent → Bool
  | refreshed .. | login _ (some _) => false
  | login _ none | refreshRefused _ | loggedOut _ | passwordChanged _ | threw => true

/-- No token was ever stored, no handler got past its first store call, and nothing was handed
out. -/
structure NothingIssued (s : SessionSystem SessionData) : Prop where
  tokens : s.data.refreshTokens = []
  calls : ∀ pid call, s.call pid = some call → call.first = true
  log : ∀ e ∈ s.log, e.2.bare = true

section Step
variable {s t : SessionSystem SessionData} {pid : Nat}

theorem NothingIssued.goOn (h : NothingIssued s) {call : SessionCall} (hfirst : call.first = true) :
    NothingIssued (s.goOn pid s.data call) := by
  refine ⟨h.tokens, fun q c hq => ?_, h.log⟩
  rcases update_some_iff.mp hq with ⟨-, rfl⟩ | ⟨-, hq⟩
  · exact hfirst
  · exact h.calls q c hq

theorem NothingIssued.finish (h : NothingIssued s) {data : SessionData} {event : SessionEvent}
    (htokens : data.refreshTokens = []) (hbare : event.bare = true) :
    NothingIssued (s.finish pid data event) :=
  ⟨htokens, fun q c hq => h.calls q c (update_none_iff.mp hq).2, List.forall_mem_cons.mpr ⟨hbare, h.log⟩⟩

/-- The first store call of a handler is its last: the methods are not there. -/
theorem NothingIssued.call_step (h : NothingIssued s) {call : SessionCall}
    (hcall : s.call pid = some call) (newToken : String) (userActive : Bool) :
    NothingIssued (sessionCall getStore s pid newToken userActive call) := by
  have hfirst := h.calls pid call hcall
  cases call with
  | loginSet token entry => exact h.finish h.tokens rfl
  | refreshGet token => exact h.finish h.tokens rfl
  | logoutGet token => exact h.finish h.tokens rfl
  | passwordRevoke userId =>
    refine h.finish ?_ rfl
    simp [getStore, SessionData.revokeAllUserSessions, h.tokens]
  | _ => cases hfirst

theorem NothingIssued.step {a : SessionAction} (h : NothingIssued s)
    (hstep : sessionStep getStore s a = some t) : NothingIssued t := by
  cases a with
  | tick seconds =>
    obtain rfl := Option.some.inj hstep
    exact ⟨h.tokens, h.calls, h.log⟩
  | login pid valid token entry =>
    simp only [sessionStep] at hstep
    split at hstep
    · exact Option.some.inj hstep ▸ h.goOn rfl
    · exact Option.some.inj hstep ▸ h.finish h.tokens rfl
    · cases hstep
  | refresh pid token =>
    simp only [sessionStep] at hstep
    split at hstep
    · exact Option.some.inj hstep ▸ h.goOn rfl
    · cases hstep
  | logout pid token =>
    simp only [sessionStep] at hstep
    split at hstep
    · exact Option.some.inj hstep ▸ h.goOn rfl
    · exact Option.some.inj hstep ▸ h.finish h.tokens rfl
    · cases hstep
  | changePassword pid userId =>
    simp only [sessionStep] at hstep
    split at hstep
    · exact Option.some.inj hstep ▸ h.goOn rfl
    · cases hstep
  | next pid newToken userActive =>
    obtain ⟨call, hcall, rfl⟩ := Option.map_eq_some_iff.mp hstep
    exact h.call_step hcall newToken userActive

/-- Without an exchange in the log there is none among its later events. -/
theorem NothingIssued.noExchange (h : NothingIssued s) {later : List (Nat × SessionEvent)}
    (hlater : ∀ e ∈ later, e ∈ s.log) (familyId : String) : NoExchange familyId later := by
  intro e he token newToken entry hevent
  have hbare := h.log e (hlater e he)
  rw [hevent] at hbare
  cases hbare

end Step

/-- **Rotation** holds in exactly those runs in which no login with valid credentials returned. -/
theorem rotation_safe_iff {s : SessionSystem SessionData}
    (hrun : Reach (sessionStep getStore) Free .start s) :
    RotationSafe s ↔ ∀ e ∈ s.log, ∀ issued, e.2 ≠ .login true issued := by
  have hstart : NothingIssued .start := by
    constructor <;> simp [SessionSystem.start, SessionData.empty]
  have hinv : NothingIssued s := hrun.invariant hstart fun h _ hstep => h.step hstep
  constructor
  · intro hsafe e he issued hlogin
    have hsome := hsafe.yields e he issued hlogin
    obtain ⟨pair, rfl⟩ := Option.isSome_iff_exists.mp hsome
    have hbare := hinv.log e he
    rw [hlogin] at hbare
    cases hbare
  · intro hnone
    refine ⟨fun e he issued hlogin => absurd hlogin (hnone e he issued), fun token => ?_, ?_, ?_, ?_, ?_⟩
    · have hzero : s.log.countP (fun e => e.2.exchanges token) = 0 := by
        refine List.countP_eq_zero.mpr fun e he hexchange => ?_
        have hbare := hinv.log e he
        revert hexchange hbare
        cases e.2 <;> simp [SessionEvent.exchanges, SessionEvent.bare]
      omega
    · simp [hinv.tokens]
    · intro later e earlier hlog _ _ _ _ entry _ _
      exact hinv.noExchange (fun x hx => hlog ▸ List.mem_append_left _ hx) _
    · intro later e earlier hlog _ _
      exact hinv.noExchange (fun x hx => hlog ▸ List.mem_append_left _ hx) _
    · intro later e earlier hlog _ _ _ _ entry _ _
      exact hinv.noExchange (fun x hx => hlog ▸ List.mem_append_left _ hx) _

/-- A login with a wrong password, a refresh, a logout and a password change. -/
def noValidLogin : List SessionAction :=
  [.login 0 false "t0" ⟨"f0", "s0", "u1"⟩, .refresh 1 "stolen", .next 1 "t1" true,
    .logout 2 (some "stolen"), .next 2 "t2" true, .changePassword 3 "u1", .next 3 "t3" true]

theorem rotation_safe_iff_noValidLogin : ∃ s,
    exec (sessionStep getStore) .start noValidLogin = some s ∧
    s.log.map Prod.snd = [.passwordChanged "u1", .threw, .threw, .login false none] ∧
    RotationSafe s := by
  obtain ⟨s, hs, hlog⟩ : ∃ s, exec (sessionStep getStore) .start noValidLogin = some s ∧
      s.log = [(0, .passwordChanged "u1"), (0, .threw), (0, .threw), (0, .login false none)] :=
    ⟨_, rfl, rfl⟩
  refine ⟨s, hs, by rw [hlog]; rfl, (rotation_safe_iff (reach_of_exec hs)).mpr ?_⟩
  rw [hlog]
  intro e he issued hlogin
  have hnot : ∀ e ∈ [((0 : Nat), SessionEvent.passwordChanged "u1"), (0, .threw), (0, .threw),
      (0, .login false none)], e.2 ≠ .login true issued := by simp
  exact hnot e he hlogin

/-- A login with valid credentials gets no token. -/
theorem valid_login_refused :
    ¬ ∀ s, Reach (sessionStep getStore) Free .start s → RotationSafe s := by
  intro h
  obtain ⟨s, hs, hlog⟩ : ∃ s, exec (sessionStep getStore) .start
      [.login 0 true "t0" ⟨"f0", "s0", "u1"⟩, .next 0 "t1" true] = some s ∧
      s.log = [(0, .login true none)] := ⟨_, rfl, rfl⟩
  have hyields := (h s (reach_of_exec hs)).yields (0, .login true none) (by simp [hlog]) none rfl
  cases hyields

end StellarEduPay

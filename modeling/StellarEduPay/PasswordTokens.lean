import Mathlib.Data.List.Count
import StellarEduPay.Runs

/-! # Reset and invitation tokens (`controllers/userController.js`)

`resetPassword` and `setPassword` look the user up by the hash of the token they are given, compute
the hash of the new password, and update the user by its id, removing the token of their kind;
`requestPasswordReset` stores a new reset token over the old one. The steps of any number of calls
for one user interleave. Between the lookup and the update the token can be used by another call,
or replaced; the update does not ask.

A token is known by its hash, and one that is generated has not been stored before. -/

namespace StellarEduPay
open Runs Function

/-! ## The user -/

inductive TokenKind where
  | reset
  | invitation
  deriving DecidableEq

/-- The fields of a user the password flows read and write. -/
structure PasswordUser where
  passwordHash : String
  isActive : Bool
  invitationToken : Option String
  invitationExpires : Option Nat
  resetToken : Option String
  resetExpires : Option Nat
  resetRequestIp : Option String

namespace PasswordUser
variable (user : PasswordUser)

def token : TokenKind → Option String
  | .reset => user.resetToken
  | .invitation => user.invitationToken

def expires : TokenKind → Option Nat
  | .reset => user.resetExpires
  | .invitation => user.invitationExpires

/-- The filter of the lookup by a token. -/
def hasToken (kind : TokenKind) (tokenHash : String) (now : Nat) : Bool :=
  user.token kind = some tokenHash && (user.expires kind).any (now < ·)

/-- The update of `resetPassword` or of `setPassword`. -/
def changePassword (passwordHash : String) : TokenKind → PasswordUser
  | .reset =>
    { user with
      passwordHash := passwordHash
      resetToken := none
      resetExpires := none
      resetRequestIp := none }
  | .invitation =>
    { user with
      passwordHash := passwordHash
      isActive := true
      invitationToken := none
      invitationExpires := none }

/-- The update of `requestPasswordReset`; a reset token is good for an hour. -/
def issueReset (tokenHash : String) (now : Nat) (ip : Option String) : PasswordUser :=
  { user with
    resetToken := some tokenHash
    resetExpires := some (now + 60 * 60 * 1000)
    resetRequestIp := ip }

end PasswordUser

/-! ## The calls -/

inductive PasswordResponse where
  | error (status : Nat) (error code : String)
  | message (message : String)
  deriving DecidableEq

def MIN_PASSWORD_LENGTH : Nat := 12

/-- `length` of a string, in code units: two for a character beyond the first 65536. -/
def codeUnits (s : String) : Nat := s.toList.length + s.toList.countP (65536 ≤ ·.toNat)

/-- `validatePassword`: the error, if there is one. -/
def validatePassword (password : String) : Option String :=
  if codeUnits password < MIN_PASSWORD_LENGTH then
    some ("Password must be at least " ++ toString MIN_PASSWORD_LENGTH ++ " characters.")
  else none

/-- What a call answers before it looks the user up. -/
def checkPasswordBody (token password : String) : Option PasswordResponse :=
  if token = "" ∨ password = "" then
    some (.error 400 "token and password are required." "VALIDATION_ERROR")
  else (validatePassword password).map fun error => .error 400 error "WEAK_PASSWORD"

def TokenKind.invalid : TokenKind → PasswordResponse
  | .reset => .error 400 "Invalid or expired reset token." "INVALID_TOKEN"
  | .invitation => .error 400 "Invalid or expired invitation token." "INVALID_TOKEN"

def TokenKind.success : TokenKind → PasswordResponse
  | .reset => .message "Password reset successfully. You can now log in with your new password."
  | .invitation => .message "Password set successfully. You can now log in."

def genericMessage : PasswordResponse :=
  .message "If an account exists with that email, a password reset link has been sent."

inductive PasswordRequest where
  | change (kind : TokenKind) (token password : String)
  /-- `requestPasswordReset`, with the address of the user. -/
  | requestPasswordReset (ip : Option String)

/-- `resetPassword` -/
def resetPassword (token password : String) : PasswordRequest := .change .reset token password

/-- `setPassword` -/
def setPassword (token password : String) : PasswordRequest := .change .invitation token password

/-- Where a call is. -/
inductive PasswordPhase where
  | started
  /-- The lookup found the user. -/
  | found
  | answered (response : PasswordResponse)

structure PasswordCall where
  request : PasswordRequest
  phase : PasswordPhase

/-- What becomes of the tokens: a reset token is stored, or a call that presents a token changes the
password and removes what is stored. -/
inductive TokenEvent where
  | issued (tokenHash : String)
  | changed (kind : TokenKind) (tokenHash : String) (removed : Option String)

/-- The user, the calls, and two ghosts: the hashes that were ever stored, and the events, the latest
first. -/
structure PasswordSystem where
  user : PasswordUser
  call : Nat → Option PasswordCall
  seen : List String
  log : List TokenEvent

inductive PasswordAction where
  | call (c : Nat) (request : PasswordRequest)
  | lookup (c now : Nat)
  | write (c : Nat)
  | issue (c : Nat) (token : String) (now : Nat)

namespace PasswordSystem
variable (s : PasswordSystem)

def start (user : PasswordUser) : PasswordSystem :=
  ⟨user, fun _ => none, user.resetToken.toList ++ user.invitationToken.toList, []⟩

def goto (c : Nat) (request : PasswordRequest) (phase : PasswordPhase) : PasswordSystem :=
  { s with call := update s.call c (some ⟨request, phase⟩) }

/-- A call changes the password, presenting a token. -/
def change (kind : TokenKind) (tokenHash passwordHash : String) : PasswordSystem :=
  { s with
    user := s.user.changePassword passwordHash kind
    log := .changed kind tokenHash (s.user.token kind) :: s.log }

/-- A reset token is stored. -/
def issue (tokenHash : String) (now : Nat) (ip : Option String) : PasswordSystem :=
  { s with
    user := s.user.issueReset tokenHash now ip
    seen := tokenHash :: s.seen
    log := .issued tokenHash :: s.log }

end PasswordSystem

section
variable (hashToken bcryptHash : String → String)

/-- One step of a call. -/
def passwordStep (s : PasswordSystem) : PasswordAction → Option PasswordSystem
  | .call c request =>
    if (s.call c).isSome then none
    else match request with
      | .change _ token password =>
        match checkPasswordBody token password with
        | some response => some (s.goto c request (.answered response))
        | none => some (s.goto c request .started)
      | .requestPasswordReset _ => some (s.goto c request .started)
  | .lookup c now =>
    match s.call c with
    | some ⟨.change kind token password, .started⟩ =>
      if s.user.hasToken kind (hashToken token) now then
        some (s.goto c (.change kind token password) .found)
      else some (s.goto c (.change kind token password) (.answered kind.invalid))
    | some ⟨.requestPasswordReset ip, .started⟩ =>
      if s.user.isActive then some (s.goto c (.requestPasswordReset ip) .found)
      else some (s.goto c (.requestPasswordReset ip) (.answered genericMessage))
    | _ => none
  | .write c =>
    match s.call c with
    | some ⟨.change kind token password, .found⟩ =>
      some ((s.change kind (hashToken token) (bcryptHash password)).goto c
        (.change kind token password) (.answered kind.success))
    | _ => none
  | .issue c token now =>
    match s.call c with
    | some ⟨.requestPasswordReset ip, .found⟩ =>
      if hashToken token ∈ s.seen then none
      else some ((s.issue (hashToken token) now ip).goto c (.requestPasswordReset ip)
        (.answered genericMessage))
    | _ => none

/-- The password is written while the token the call presented is stored. -/
def StillStored (s : PasswordSystem) : PasswordAction → Prop
  | .write c =>
    match s.call c with
    | some ⟨.change kind token _, .found⟩ => s.user.token kind = some (hashToken token)
    | _ => True
  | _ => True

end

/-! ## What is asked of the tokens -/

def TokenEvent.changes (kind : TokenKind) (tokenHash : String) : TokenEvent → Bool
  | .issued _ => false
  | .changed kind' tokenHash' _ => kind' = kind && tokenHash' = tokenHash

def TokenEvent.issue? : TokenEvent → Option String
  | .issued tokenHash => some tokenHash
  | .changed .. => none

/-- The reset token that was stored last. -/
def latestIssue (log : List TokenEvent) : Option String := log.findSome? TokenEvent.issue?

/-- Each token changes the password at most once, a reset token that was replaced does not, and what
is removed is the token that was presented. -/
structure TokensOnce (log : List TokenEvent) : Prop where
  once : ∀ kind tokenHash, log.countP (·.changes kind tokenHash) ≤ 1
  current : ∀ {later earlier tokenHash removed},
    log = later ++ .changed .reset tokenHash removed :: earlier →
      ∀ newest ∈ latestIssue earlier, newest = tokenHash
  own : ∀ kind tokenHash removed, .changed kind tokenHash (some removed) ∈ log → removed = tokenHash

namespace TokensOnce
variable {log : List TokenEvent} {kind : TokenKind} {tokenHash : String} {removed : Option String}

theorem nil : TokensOnce [] where
  once _ _ := Nat.zero_le _
  current h := by simp at h
  own _ _ _ h := nomatch h

/-- A first change by a token that is still the latest, and is what it removes. -/
theorem changed (h : TokensOnce log) (hunused : log.countP (·.changes kind tokenHash) = 0)
    (hcurrent : kind = .reset → ∀ newest ∈ latestIssue log, newest = tokenHash)
    (hown : ∀ r ∈ removed, r = tokenHash) :
    TokensOnce (.changed kind tokenHash removed :: log) where
  once kind' tokenHash' := by
    rw [List.countP_cons]
    by_cases hsame : kind = kind' ∧ tokenHash = tokenHash'
    · obtain ⟨rfl, rfl⟩ := hsame
      rw [hunused]
      split <;> decide
    · rw [if_neg (by simpa [TokenEvent.changes] using hsame)]
      exact h.once kind' tokenHash'
  current {later earlier tokenHash' removed'} heq := by
    cases later with
    | nil =>
      rw [List.nil_append, List.cons.injEq, TokenEvent.changed.injEq] at heq
      obtain ⟨⟨rfl, rfl, rfl⟩, rfl⟩ := heq
      exact hcurrent rfl
    | cons e later => exact h.current (List.cons.inj heq).2
  own kind' tokenHash' removed' hmem := by
    rcases List.mem_cons.mp hmem with heq | hmem
    · cases heq
      exact hown removed' rfl
    · exact h.own kind' tokenHash' removed' hmem

theorem issued (h : TokensOnce log) : TokensOnce (.issued tokenHash :: log) where
  once kind' tokenHash' := by
    rw [List.countP_cons, if_neg (by simp [TokenEvent.changes])]
    exact h.once kind' tokenHash'
  current {later earlier tokenHash' removed'} heq := by
    cases later with
    | nil => cases (List.cons.inj heq).1
    | cons e later => exact h.current (List.cons.inj heq).2
  own kind' tokenHash' removed' hmem := by
    rcases List.mem_cons.mp hmem with heq | hmem
    · cases heq
    · exact h.own kind' tokenHash' removed' hmem

end TokensOnce

/-! ## The steps -/

section
variable {hashToken bcryptHash : String → String} {s s' : PasswordSystem} {act : PasswordAction}
  {kind kind' : TokenKind} {tokenHash tokenHash' passwordHash : String} {now : Nat}
  {ip : Option String}

variable (hashToken bcryptHash) in
/-- What a step does. -/
inductive PasswordMove (s : PasswordSystem) : PasswordAction → PasswordSystem → Prop where
  /-- A call goes on, and the store stays as it is. -/
  | pass (act : PasswordAction) (c : Nat) (request : PasswordRequest) (phase : PasswordPhase)
    (hfound : ∀ kind token password, request = .change kind token password → phase = .found →
      s.user.token kind = some (hashToken token)) :
    PasswordMove s act (s.goto c request phase)
  | change (c : Nat) (kind : TokenKind) (token password : String) (response : PasswordResponse)
    (hat : s.call c = some ⟨.change kind token password, .found⟩) :
    PasswordMove s (.write c) ((s.change kind (hashToken token) (bcryptHash password)).goto c
      (.change kind token password) (.answered response))
  | issue (c : Nat) (token : String) (now : Nat) (ip : Option String) (response : PasswordResponse)
    (hfresh : hashToken token ∉ s.seen) :
    PasswordMove s (.issue c token now) ((s.issue (hashToken token) now ip).goto c
      (.requestPasswordReset ip) (.answered response))

theorem passwordStep_move (h : passwordStep hashToken bcryptHash s act = some s') :
    PasswordMove hashToken bcryptHash s act s' := by
  cases act with
  | call c request =>
    simp only [passwordStep, Option.ite_none_left_eq_some] at h
    obtain ⟨-, h⟩ := h
    split at h
    · split at h <;> obtain rfl := Option.some.inj h <;> exact .pass _ _ _ _ fun _ _ _ _ h => nomatch h
    · obtain rfl := Option.some.inj h
      exact .pass _ _ _ _ fun _ _ _ _ h => nomatch h
  | lookup c now =>
    rw [passwordStep] at h
    split at h
    · rename_i kind token password hat
      split at h <;> obtain rfl := Option.some.inj h
      · rename_i hhas
        rw [PasswordUser.hasToken, Bool.and_eq_true, decide_eq_true_eq] at hhas
        refine .pass _ _ _ _ fun _ _ _ heq _ => ?_
        cases heq
        exact hhas.1
      · exact .pass _ _ _ _ fun _ _ _ _ h => nomatch h
    · split at h <;> obtain rfl := Option.some.inj h <;> exact .pass _ _ _ _ fun _ _ _ h => nomatch h
    · cases h
  | write c =>
    rw [passwordStep] at h
    split at h
    · obtain rfl := Option.some.inj h
      exact .change _ _ _ _ _ ‹_›
    · cases h
  | issue c token now =>
    rw [passwordStep] at h
    split at h
    · split at h
      · cases h
      · obtain rfl := Option.some.inj h
        exact .issue _ _ _ _ _ ‹_›
    · cases h

theorem token_changePassword (user : PasswordUser) (h : kind' ≠ kind) :
    (user.changePassword passwordHash kind).token kind' = user.token kind' := by
  cases kind <;> cases kind' <;> first | rfl | exact absurd rfl h

theorem token_changePassword_self (user : PasswordUser) :
    (user.changePassword passwordHash kind).token kind = none := by
  cases kind <;> rfl

/-- A token that is still stored after a change is of the other kind. -/
theorem token_of_changePassword {user : PasswordUser} {tokenHash : String}
    (h : (user.changePassword passwordHash kind).token kind' = some tokenHash) :
    kind' ≠ kind ∧ user.token kind' = some tokenHash := by
  by_cases hkind : kind' = kind
  · rw [hkind, token_changePassword_self] at h
    cases h
  · exact ⟨hkind, (token_changePassword user hkind).symm.trans h⟩

/-! ## When every write finds its token -/

/-- What is stored was seen and is not used, and a reset token that is stored is the latest. -/
structure TokensKept (s : PasswordSystem) : Prop where
  stored_seen : ∀ {kind tokenHash}, s.user.token kind = some tokenHash → tokenHash ∈ s.seen
  used_seen : ∀ {kind tokenHash}, tokenHash ∉ s.seen →
    s.log.countP (·.changes kind tokenHash) = 0
  unused : ∀ {kind tokenHash}, s.user.token kind = some tokenHash →
    s.log.countP (·.changes kind tokenHash) = 0
  newest : ∀ {tokenHash}, s.user.token .reset = some tokenHash →
    ∀ newest ∈ latestIssue s.log, newest = tokenHash
  once : TokensOnce s.log

theorem TokensKept.start (user : PasswordUser) : TokensKept (.start user) where
  stored_seen {kind tokenHash} h := by
    cases kind with
    | reset => exact List.mem_append_left _ (Option.mem_toList.mpr h)
    | invitation => exact List.mem_append_right _ (Option.mem_toList.mpr h)
  used_seen _ := rfl
  unused _ := rfl
  newest _ _ h := nomatch h
  once := .nil

theorem TokensKept.change (h : TokensKept s) (hstored : s.user.token kind = some tokenHash)
    (passwordHash : String) : TokensKept (s.change kind tokenHash passwordHash) where
  stored_seen hstored' := h.stored_seen (token_of_changePassword hstored').2
  used_seen {kind' tokenHash'} hnew := by
    have hne : tokenHash ≠ tokenHash' := fun heq => hnew (heq ▸ h.stored_seen hstored)
    rw [PasswordSystem.change, List.countP_cons_of_neg (by simp [TokenEvent.changes, hne])]
    exact h.used_seen hnew
  unused {kind' tokenHash'} hstored' := by
    obtain ⟨hkind, hstored'⟩ := token_of_changePassword hstored'
    rw [PasswordSystem.change,
      List.countP_cons_of_neg (by simp [TokenEvent.changes, Ne.symm hkind])]
    exact h.unused hstored'
  newest hstored' := h.newest (token_of_changePassword hstored').2
  once := by
    refine h.once.changed (h.unused hstored) ?_ ?_
    · rintro rfl
      exact h.newest hstored
    · rintro r hr
      rw [hstored] at hr
      exact (Option.mem_some.mp hr).symm

theorem TokensKept.issue (h : TokensKept s) (hfresh : tokenHash ∉ s.seen) (now : Nat)
    (ip : Option String) : TokensKept (s.issue tokenHash now ip) where
  stored_seen {kind' tokenHash'} hstored := by
    cases kind' with
    | reset =>
      obtain rfl : tokenHash = tokenHash' := Option.some.inj hstored
      exact List.mem_cons_self
    | invitation => exact List.mem_cons_of_mem _ (@stored_seen _ h .invitation _ hstored)
  used_seen {kind' tokenHash'} hnew :=
    h.used_seen fun hmem => hnew (List.mem_cons_of_mem _ hmem)
  unused {kind' tokenHash'} hstored := by
    cases kind' with
    | reset =>
      obtain rfl : tokenHash = tokenHash' := Option.some.inj hstored
      exact h.used_seen hfresh
    | invitation => exact @unused _ h .invitation _ hstored
  newest {tokenHash'} hstored newest hnewest := by
    obtain rfl : tokenHash = tokenHash' := Option.some.inj hstored
    exact (Option.some.inj hnewest).symm
  once := h.once.issued

theorem TokensKept.step (h : TokensKept s) (hok : StillStored hashToken s act)
    (hmove : PasswordMove hashToken bcryptHash s act s') : TokensKept s' := by
  cases hmove with
  | pass act c request phase hfound => exact ⟨h.1, h.2, h.3, h.4, h.5⟩
  | change c kind token password response hat =>
    simp only [StillStored, hat] at hok
    have hchanged := h.change hok (bcryptHash password)
    exact ⟨hchanged.1, hchanged.2, hchanged.3, hchanged.4, hchanged.5⟩
  | issue c token now ip response hfresh =>
    have hissued := h.issue hfresh now ip
    exact ⟨hissued.1, hissued.2, hissued.3, hissued.4, hissued.5⟩

theorem tokensOnce_of_stillStored {user : PasswordUser}
    (hrun : Reach (passwordStep hashToken bcryptHash) (StillStored hashToken) (.start user) s) :
    TokensOnce s.log := by
  have hkept : TokensKept s :=
    hrun.invariant (.start user) fun h hok hstep => h.step hok (passwordStep_move hstep)
  exact hkept.once

/-! ## When a write does not find its token -/

/-- Where a token that was found has gone: it is still stored, it was used, it was replaced, or
another took it away. -/
def Traced (s : PasswordSystem) (kind : TokenKind) (tokenHash : String) : Prop :=
  s.user.token kind = some tokenHash ∨ (∃ removed, .changed kind tokenHash removed ∈ s.log) ∨
    (kind = .reset ∧ ∃ newest ∈ latestIssue s.log, newest ≠ tokenHash) ∨
      ∃ other, .changed kind other (some tokenHash) ∈ s.log ∧ tokenHash ≠ other

theorem Traced.change (h : Traced s kind tokenHash) :
    Traced (s.change kind' tokenHash' passwordHash) kind tokenHash := by
  rcases h with hstored | ⟨removed, hused⟩ | hreplaced | ⟨other, htaken, hne⟩
  · by_cases hkind : kind = kind'
    · subst hkind
      by_cases hsame : tokenHash = tokenHash'
      · exact .inr (.inl ⟨s.user.token kind, hsame ▸ List.mem_cons_self⟩)
      · refine .inr (.inr (.inr ⟨tokenHash', ?_, hsame⟩))
        rw [← hstored]
        exact List.mem_cons_self
    · exact .inl ((token_changePassword s.user hkind).trans hstored)
  · exact .inr (.inl ⟨removed, List.mem_cons_of_mem _ hused⟩)
  · exact .inr (.inr (.inl hreplaced))
  · exact .inr (.inr (.inr ⟨other, List.mem_cons_of_mem _ htaken, hne⟩))

theorem Traced.issue (h : Traced s kind tokenHash) (hne : tokenHash' ≠ tokenHash) :
    Traced (s.issue tokenHash' now ip) kind tokenHash := by
  rcases h with hstored | ⟨removed, hused⟩ | ⟨rfl, -⟩ | ⟨other, htaken, hother⟩
  · cases kind with
    | reset => exact .inr (.inr (.inl ⟨rfl, tokenHash', rfl, hne⟩))
    | invitation => exact .inl hstored
  · exact .inr (.inl ⟨removed, List.mem_cons_of_mem _ hused⟩)
  · exact .inr (.inr (.inl ⟨rfl, tokenHash', rfl, hne⟩))
  · exact .inr (.inr (.inr ⟨other, List.mem_cons_of_mem _ htaken, hother⟩))

variable (hashToken) in
/-- The tokens of the calls that have found the user are traced. -/
structure CallsTraced (s : PasswordSystem) : Prop where
  stored_seen : ∀ {kind tokenHash}, s.user.token kind = some tokenHash → tokenHash ∈ s.seen
  found : ∀ {c kind token password}, s.call c = some ⟨.change kind token password, .found⟩ →
    hashToken token ∈ s.seen ∧ Traced s kind (hashToken token)

/-- What a call that goes somewhere leaves of the others. -/
theorem found_of_goto {c c' : Nat} {request : PasswordRequest} {phase : PasswordPhase}
    {token password : String}
    (h : (s.goto c request phase).call c' = some ⟨.change kind token password, .found⟩) :
    s.call c' = some ⟨.change kind token password, .found⟩ ∨
      (request = .change kind token password ∧ phase = .found) := by
  rw [PasswordSystem.goto] at h
  change update s.call c _ c' = _ at h
  by_cases hc : c' = c
  · subst hc
    rw [update_self] at h
    cases h
    exact .inr ⟨rfl, rfl⟩
  · rw [update_of_ne hc] at h
    exact .inl h

theorem CallsTraced.step (h : CallsTraced hashToken s)
    (hmove : PasswordMove hashToken bcryptHash s act s') : CallsTraced hashToken s' := by
  cases hmove with
  | pass act c request phase hfound =>
    refine ⟨h.stored_seen, fun hcall => ?_⟩
    rcases found_of_goto hcall with hcall | ⟨hrequest, hphase⟩
    · exact h.found hcall
    · have hstored := hfound _ _ _ hrequest hphase
      exact ⟨h.stored_seen hstored, .inl hstored⟩
  | change c kind token password response hat =>
    refine ⟨fun {kind'} {tokenHash} hstored => ?_, fun hcall => ?_⟩
    · exact h.stored_seen (token_of_changePassword hstored).2
    · rcases found_of_goto hcall with hcall | ⟨-, hphase⟩
      · exact ⟨(h.found hcall).1, (h.found hcall).2.change⟩
      · cases hphase
  | issue c token now ip response hfresh =>
    refine ⟨fun {kind'} {tokenHash} hstored => ?_, fun hcall => ?_⟩
    · cases kind' with
      | reset =>
        obtain rfl : hashToken token = tokenHash := Option.some.inj hstored
        exact List.mem_cons_self
      | invitation => exact List.mem_cons_of_mem _ (@stored_seen _ _ h .invitation _ hstored)
    · rcases found_of_goto hcall with hcall | ⟨-, hphase⟩
      · obtain ⟨hseen, htraced⟩ := h.found hcall
        refine ⟨List.mem_cons_of_mem _ hseen, htraced.issue fun heq => ?_⟩
        exact hfresh (heq ▸ hseen)
      · cases hphase

theorem CallsTraced.start (user : PasswordUser) : CallsTraced hashToken (.start user) where
  stored_seen h := (TokensKept.start user).stored_seen h
  found h := nomatch h

/-- A change by a token that is not stored any more breaks what is asked. -/
theorem not_tokensOnce_change (htraced : Traced s kind tokenHash)
    (hgone : s.user.token kind ≠ some tokenHash) (passwordHash : String) :
    ¬ TokensOnce (s.change kind tokenHash passwordHash).log := by
  intro h
  rcases htraced with hstored | ⟨removed, hused⟩ | ⟨rfl, newest, hnewest, hne⟩ |
    ⟨other, htaken, hne⟩
  · exact hgone hstored
  · have honce := h.once kind tokenHash
    rw [PasswordSystem.change, List.countP_cons_of_pos (by simp [TokenEvent.changes])] at honce
    have hpos : 0 < s.log.countP (·.changes kind tokenHash) :=
      List.countP_pos_iff.mpr ⟨_, hused, by simp [TokenEvent.changes]⟩
    omega
  · exact hne (h.current (List.nil_append _).symm newest hnewest)
  · exact hne (h.own kind other tokenHash (List.mem_cons_of_mem _ htaken))

theorem not_tokensOnce_of_not_stillStored {user : PasswordUser}
    (hrun : Reach (passwordStep hashToken bcryptHash) Free (.start user) s)
    (hnot : ¬ StillStored hashToken s act)
    (hstep : passwordStep hashToken bcryptHash s act = some s') : ¬ TokensOnce s'.log := by
  have htraced : CallsTraced hashToken s :=
    hrun.invariant (.start user) fun h _ hstep => h.step (passwordStep_move hstep)
  cases act with
  | write c =>
    rw [StillStored] at hnot
    split at hnot
    · rename_i kind token password hat
      simp only [passwordStep, hat, Option.some.injEq] at hstep
      subst hstep
      exact not_tokensOnce_change (htraced.found hat).2 hnot (bcryptHash password)
    · exact absurd trivial hnot
  | _ => exact absurd trivial hnot

end

/-- **When tokens work once**: in every run in which each password is written while the token the
call presented is stored, and in no run beyond a write that does not find it. -/
theorem tokens_once_when (hashToken bcryptHash : String → String) (user : PasswordUser) :
    (∀ s, Reach (passwordStep hashToken bcryptHash) (StillStored hashToken) (.start user) s →
      TokensOnce s.log) ∧
    (∀ s s' act, Reach (passwordStep hashToken bcryptHash) Free (.start user) s →
      ¬ StillStored hashToken s act → passwordStep hashToken bcryptHash s act = some s' →
        ¬ TokensOnce s'.log) :=
  ⟨fun _ hrun => tokensOnce_of_stillStored hrun,
    fun _ _ _ hrun hnot hstep => not_tokensOnce_of_not_stillStored hrun hnot hstep⟩

/-- A user who asked for a reset before. -/
def forgetfulUser : PasswordUser where
  passwordHash := "old"
  isActive := true
  invitationToken := none
  invitationExpires := none
  resetToken := some "t1"
  resetExpires := some 3600000
  resetRequestIp := none

/-- Two calls with one token, side by side. -/
def tokenUsedTwice : List PasswordAction :=
  [.call 0 (resetPassword "t1" "my new password"), .call 1 (resetPassword "t1" "another password"),
    .lookup 0 1, .lookup 1 1, .write 0, .write 1]

theorem token_changes_password_twice :
    ¬ ∀ (hashToken bcryptHash : String → String) (user : PasswordUser) (s : PasswordSystem),
      Reach (passwordStep hashToken bcryptHash) Free (.start user) s → TokensOnce s.log := by
  intro h
  have hrun := reach_get (show (exec (passwordStep id id) (.start forgetfulUser)
    tokenUsedTwice).isSome = true by decide +kernel)
  exact absurd ((h id id forgetfulUser _ hrun).once .reset "t1") (by decide +kernel)

instance (hashToken : String → String) (s : PasswordSystem) (act : PasswordAction) :
    Decidable (StillStored hashToken s act) := by
  unfold StillStored
  split
  · split <;> infer_instance
  · infer_instance

/-- The call that comes second finds no token, and does not change the password. -/
theorem token_in_turn_once :
    (∃ s : PasswordSystem, s.user.passwordHash = "my new password" ∧ TokensOnce s.log) ∧
      ∃ s : PasswordSystem, s.user.passwordHash = "another password" ∧ ¬ TokensOnce s.log := by
  obtain ⟨honce, htwice⟩ := tokens_once_when id id forgetfulUser
  constructor
  · have hrun := Reach.getOk (show (execOk (passwordStep id id) (StillStored id) (.start forgetfulUser)
      [.call 0 (resetPassword "t1" "my new password"), .lookup 0 1, .write 0,
        .call 1 (resetPassword "t1" "another password"), .lookup 1 1]).isSome = true by
          decide +kernel)
    exact ⟨_, by decide +kernel, honce _ hrun⟩
  · have hrun := reach_get (show (exec (passwordStep id id) (.start forgetfulUser)
      (tokenUsedTwice.take 5)).isSome = true by decide +kernel)
    have hstep := (Option.some_get (show (passwordStep id id ((exec (passwordStep id id)
      (.start forgetfulUser) (tokenUsedTwice.take 5)).get (by decide +kernel))
        (.write 1)).isSome = true by decide +kernel)).symm
    exact ⟨_, by decide +kernel, htwice _ _ _ hrun (by decide +kernel) hstep⟩

end StellarEduPay

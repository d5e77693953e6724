import StellarEduPay.MfaAccounts
import StellarEduPay.Runs

/-! # Replacing an active factor

The six enrolment handlers, one call after the other, on any number of schools and users.
`setupMfa` refuses an account whose factor is active; `setupUserMfa` does not, and both
`verifyAndEnable` handlers take a secret of the caller's choice over the stored one.
-/
namespace StellarEduPay
open Runs Checks

/-! ## Calls in sequence -/

/-- The schools by slug and the users by id. -/
abbrev MfaAccounts := MfaOwner → String → Option MfaAccount

/-- A call at a time, with the slug header or the user id of the session. -/
structure MfaRequest where
  now : Nat
  key : Option String
  call : MfaCall
  deriving DecidableEq, Repr

def MfaAccounts.store (accounts : MfaAccounts) (owner : MfaOwner) (key : String)
    (account : MfaAccount) : MfaAccounts :=
  fun o k => if o = owner ∧ k = key then some account else accounts o k

/-- A handler from its lookup to its update. -/
def enrolStep (crypto : MfaCrypto) (env : MfaEnv) (accounts : MfaAccounts) (req : MfaRequest) :
    Option MfaAccounts :=
  let account := req.key.bind (accounts req.call.owner)
  match req.call.read crypto env req.now req.key account, req.key, account with
  | .ok write, some key, some found =>
    some (accounts.store req.call.owner key (write.apply req.call.owner found))
  | _, _, _ => some accounts

namespace MfaCall

/-- The six handlers that enrol a factor and remove it. -/
def enrols : MfaCall → Bool
  | setupMfa _ | verifyAndEnableMfa .. | disableMfa _ | setupUserMfa _ | verifyAndEnableUserMfa .. |
    disableUserMfa _ => true
  | regenerateBackupCodes .. | consumeSchoolBackupCode .. | consumeUserBackupCode .. => false

/-- The TOTP code of the body. -/
def code : MfaCall → Option String
  | verifyAndEnableMfa _ code | disableMfa code | verifyAndEnableUserMfa _ code |
    disableUserMfa code | regenerateBackupCodes code .. => code
  | setupMfa _ | setupUserMfa _ | consumeSchoolBackupCode .. | consumeUserBackupCode .. => none

end MfaCall

/-- The call presents a code that is valid for the secret. -/
def MfaRequest.proves (crypto : MfaCrypto) (secret : String) (req : MfaRequest) : Bool :=
  req.call.code.any (crypto.totp req.now secret)

/-- The factor is active with this secret and these backup codes. -/
def FactorActive (secret : String) (codes : List BackupCode) (account : Option MfaAccount) : Prop :=
  ∃ a ∈ account, a.mfaEnabled = true ∧ a.mfaSecret = some secret ∧ a.mfaBackupCodes = codes

instance (secret : String) (codes : List BackupCode) (account : Option MfaAccount) :
    Decidable (FactorActive secret codes account) :=
  inferInstanceAs (Decidable (∃ a ∈ account, _))

/-- The call takes the factor of an account over: it sets a user's factor up again, or enables
another secret with a code for that other secret. -/
def MfaRequest.takesOver (crypto : MfaCrypto) (secret : String) (req : MfaRequest) : Bool :=
  match req.call with
  | .setupUserMfa _ => true
  | .verifyAndEnableMfa own code | .verifyAndEnableUserMfa own code =>
    (truthy own).any fun own => own ≠ secret && (truthy code).any (crypto.totp req.now own)
  | _ => false

/-- No call on the account takes its factor over. -/
def SparesFactor (crypto : MfaCrypto) (owner : MfaOwner) (key secret : String)
    (accounts : MfaAccounts) (req : MfaRequest) : Prop :=
  req.call.owner = owner → req.key = some key → (findAccount owner (accounts owner key)).isSome →
    req.takesOver crypto secret = false

instance (crypto : MfaCrypto) (owner : MfaOwner) (key secret : String) (accounts : MfaAccounts)
    (req : MfaRequest) : Decidable (SparesFactor crypto owner key secret accounts req) :=
  inferInstanceAs (Decidable (_ → _ → _ → _))

/-! ## A call that spares the factor -/

section Step
variable {crypto : MfaCrypto} {env : MfaEnv} {owner : MfaOwner} {key secret : String}
  {codes : List BackupCode} {accounts t : MfaAccounts} {req : MfaRequest}

theorem findAccount_some {account : Option MfaAccount} {found : MfaAccount}
    (h : findAccount owner account = some found) : account = some found :=
  (Option.filter_eq_some_iff.mp h).1

/-- Enabling needs a code for the secret it stores, which is the caller's or the stored one. -/
theorem verifyAndEnable_refused {now : Nat} {found : MfaAccount} {own code : Option String}
    {token : String} {write : MfaWrite} (hstored : found.mfaSecret = some secret)
    (htoken : truthy code = some token) (hproves : code.any (crypto.totp now secret) = false)
    (hspares : ((truthy own).any fun own =>
      own ≠ secret && (truthy code).any (crypto.totp now own)) = false)
    (h : verifyAndEnable crypto now found own token = .ok write) : False := by
  obtain ⟨verifySecret, hsecret, hvalid, -⟩ := verifyAndEnable_ok h
  have hcode : code = some token := (Option.filter_eq_some_iff.mp htoken).1
  have hne : verifySecret ≠ secret := by
    rintro rfl
    simp [hcode, hvalid] at hproves
  cases hown : truthy own with
  | none =>
    rw [hown, Option.none_or, hstored] at hsecret
    exact hne (Option.some.inj (Option.filter_eq_some_iff.mp hsecret).1).symm
  | some own' =>
    rw [hown, Option.some_or] at hsecret
    obtain rfl := Option.some.inj hsecret
    simp [hown, htoken, hvalid, hne] at hspares

/-- Disabling needs a code for the stored secret. -/
theorem disableFactor_refused {now : Nat} {found : MfaAccount} {code : Option String}
    {token ownerName : String} {write : MfaWrite} (hstored : found.mfaSecret = some secret)
    (htoken : truthy code = some token) (hproves : code.any (crypto.totp now secret) = false)
    (h : disableFactor crypto now found token ownerName = .ok write) : False := by
  obtain ⟨stored, hsecret, hvalid, -⟩ := disableFactor_ok h
  have hcode : code = some token := (Option.filter_eq_some_iff.mp htoken).1
  have hsame : stored = secret := by
    rw [hstored] at hsecret
    exact (Option.some.inj (Option.filter_eq_some_iff.mp hsecret).1).symm
  simp [hcode, ← hsame, hvalid] at hproves

/-- On an active account, a call that neither proves the factor nor takes it over is refused. -/
theorem read_refused {found : MfaAccount} (hfound : accounts owner key = some found)
    (henabled : found.mfaEnabled = true) (hstored : found.mfaSecret = some secret)
    (howner : req.call.owner = owner) (hkey : req.key = some key) (henrols : req.call.enrols = true)
    (hproves : req.proves crypto secret = false)
    (hspares : SparesFactor crypto owner key secret accounts req) {write : MfaWrite}
    (h : req.call.read crypto env req.now req.key (some found) = .ok write) : False := by
  have htakes : (findAccount owner (some found)).isSome → req.takesOver crypto secret = false :=
    fun hsome => hspares howner hkey (hfound ▸ hsome)
  unfold MfaRequest.proves at hproves
  unfold MfaRequest.takesOver at htakes
  generalize req.call = call at *
  cases call with
  | setupMfa drawn =>
    obtain ⟨⟨school, hschool, hoff⟩, -⟩ := setupMfa_ok h
    obtain rfl := Option.some.inj (findAccount_some hschool)
    rw [henabled] at hoff
    cases hoff
  | verifyAndEnableMfa own code =>
    obtain ⟨school, token, hschool, htoken, h⟩ := verifyAndEnableMfa_ok h
    obtain rfl := Option.some.inj (findAccount_some hschool)
    subst howner
    have hspared := htakes (Option.isSome_iff_exists.mpr ⟨_, hschool⟩)
    exact verifyAndEnable_refused hstored htoken hproves hspared h
  | disableMfa code =>
    obtain ⟨school, token, hschool, htoken, h⟩ := disableMfa_ok h
    obtain rfl := Option.some.inj (findAccount_some hschool)
    exact disableFactor_refused hstored htoken hproves h
  | setupUserMfa drawn =>
    subst howner
    exact Bool.noConfusion (htakes rfl)
  | verifyAndEnableUserMfa own code =>
    obtain ⟨user, token, huser, htoken, h⟩ := verifyAndEnableUserMfa_ok h
    obtain rfl := Option.some.inj (findAccount_some huser)
    subst howner
    exact verifyAndEnable_refused hstored htoken hproves (htakes rfl) h
  | disableUserMfa code =>
    obtain ⟨user, token, huser, htoken, h⟩ := disableUserMfa_ok h
    obtain rfl := Option.some.inj (findAccount_some huser)
    exact disableFactor_refused hstored htoken hproves h
  | regenerateBackupCodes code password drawn => cases henrols
  | consumeSchoolBackupCode rateLimited code => cases henrols
  | consumeUserBackupCode rateLimited code => cases henrols

/-- The call leaves the active factor as it is. -/
theorem FactorActive.step (h : FactorActive secret codes (accounts owner key))
    (henrols : req.call.enrols = true) (hproves : req.proves crypto secret = false)
    (hspares : SparesFactor crypto owner key secret accounts req)
    (hstep : enrolStep crypto env accounts req = some t) :
    FactorActive secret codes (t owner key) := by
  unfold enrolStep at hstep
  dsimp only at hstep
  split at hstep
  · rename_i write key' found hread hkey haccount
    obtain rfl := Option.some.inj hstep
    by_cases hsame : owner = req.call.owner ∧ key = key'
    · obtain ⟨hsameOwner, rfl⟩ := hsame
      rw [haccount] at hread
      have hfound : accounts owner key = some found := by
        rw [hkey, Option.bind_some] at haccount
        rw [hsameOwner]
        exact haccount
      obtain ⟨a, ha, henabled, hstored, -⟩ := h
      obtain rfl : found = a := Option.some.inj (hfound.symm.trans ha)
      exact (read_refused hfound henabled hstored hsameOwner.symm hkey henrols hproves hspares
        hread).elim
    · rw [MfaAccounts.store, if_neg hsame]
      exact h
  · exact Option.some.inj hstep ▸ h

end Step

/-- **An active factor stays** in every run of the enrolment handlers in which no call presents a
code that is valid for its secret and none takes it over. -/
theorem active_factor_kept {crypto : MfaCrypto} {env : MfaEnv} {owner : MfaOwner}
    {key secret : String} {codes : List BackupCode} {accounts t : MfaAccounts}
    (hactive : FactorActive secret codes (accounts owner key))
    (hrun : Reach (enrolStep crypto env) (fun s req => req.call.enrols = true ∧
      req.proves crypto secret = false ∧ SparesFactor crypto owner key secret s req) accounts t) :
    FactorActive secret codes (t owner key) :=
  @Reach.invariant _ _ _ _ (fun s : MfaAccounts => FactorActive secret codes (s owner key)) _ _ hrun
    hactive fun h hok hstep => h.step hok.1 hok.2.1 hok.2.2 hstep

/-! ## A user's factor -/

/-- The user `u1`, with an active factor. -/
def enrolledUser : MfaAccounts
  | .user, "u1" =>
    some { mfaEnabled := true, mfaSecret := some "JBSW", mfaBackupCodes := [⟨"bcrypt$A", false⟩] }
  | _, _ => none

/-- Codes for other secrets are refused. -/
def refusedCalls : List MfaRequest :=
  [⟨0, some "u1", .disableUserMfa (some "KRSX")⟩,
    ⟨0, some "u1", .verifyAndEnableUserMfa (some "KRSX") (some "LAXS")⟩]

theorem active_factor_kept_refused : ∃ t, execOk (enrolStep plainCrypto {}) (fun s req =>
      req.call.enrols = true ∧ req.proves plainCrypto "JBSW" = false ∧
        SparesFactor plainCrypto .user "u1" "JBSW" s req) enrolledUser refusedCalls = some t ∧
    FactorActive "JBSW" [⟨"bcrypt$A", false⟩] (t .user "u1") := by
  have hrun : (execOk (enrolStep plainCrypto {}) (fun s req => req.call.enrols = true ∧
      req.proves plainCrypto "JBSW" = false ∧ SparesFactor plainCrypto .user "u1" "JBSW" s req)
      enrolledUser refusedCalls).isSome = true := by decide +kernel
  obtain ⟨t, ht⟩ := Option.isSome_iff_exists.mp hrun
  exact ⟨t, ht, active_factor_kept (by decide) (.of_execOk ht)⟩

/-- The user's factor is set up again, and the new secret is enabled. -/
theorem active_factor_replaced : ¬ ∀ (crypto : MfaCrypto) (env : MfaEnv) (owner : MfaOwner)
    (key secret : String) (codes : List BackupCode) (accounts t : MfaAccounts),
    FactorActive secret codes (accounts owner key) →
    Reach (enrolStep crypto env) (fun _ req => req.call.enrols = true ∧
      req.proves crypto secret = false) accounts t → FactorActive secret codes (t owner key) := by
  intro h
  have hrun : (execOk (enrolStep plainCrypto {}) (fun _ req => req.call.enrols = true ∧
      req.proves plainCrypto "JBSW" = false) enrolledUser
      [⟨0, some "u1", .setupUserMfa ⟨"KRSX", [⟨"BBBBB-00002", "x"⟩]⟩⟩,
        ⟨1, some "u1", .verifyAndEnableUserMfa none (some "KRSX")⟩]).map
      (fun t => decide (FactorActive "JBSW" [⟨"bcrypt$A", false⟩] (t .user "u1"))) = some false := by
    decide +kernel
  obtain ⟨t, ht, hlost⟩ := Option.map_eq_some_iff.mp hrun
  exact of_decide_eq_false hlost
    (h plainCrypto {} .user "u1" "JBSW" _ enrolledUser t (by decide) (.of_execOk ht))

end StellarEduPay

import Mathlib.Data.List.Nodup
import Mathlib.Logic.Function.Basic
import StellarEduPay.MfaAccounts
import StellarEduPay.Runs

/-! # Backup codes under concurrency

Any number of calls on one account, each in two steps: it reads the account, and later writes.
A consumption matches the presented code on what it read and updates by position, so between the
two the list may have been replaced.  The codes drawn so far and the consumptions that succeeded,
which the source does not keep, are kept beside the account.
-/
namespace StellarEduPay
open Runs Checks Function

/-! ## The system -/

/-- A consumption that returned `'ok'`: the code presented, the entry it marked, and the list it
marked it in. -/
structure AcceptedCode where
  presented : String
  marked : BackupCode
  stored : List BackupCode
  deriving DecidableEq, Repr

structure BackupSystem where
  account : MfaAccount
  pending : Nat → Option MfaWrite
  issued : List DrawnCode
  accepted : List AcceptedCode

/-- `abort` ends a call before its write: it failed, lost a version check or crashed. -/
inductive BackupAction
  | read (pid now : Nat) (call : MfaCall)
  | write (pid : Nat)
  | abort (pid : Nat)
  | setActive (isActive : Bool)
  deriving DecidableEq, Repr

def BackupSystem.start : BackupSystem where
  account := {}
  pending := fun _ => none
  issued := []
  accepted := []

/-- The account the calls are on, and the primitives they use. -/
structure BackupConfig where
  crypto : MfaCrypto
  env : MfaEnv := {}
  owner : MfaOwner
  key : String

/-- Codes are drawn at random: they differ from each other and from all before. -/
def FreshCodes (issued drawn : List DrawnCode) : Prop :=
  (drawn.map fun d => normalizeBackupCode d.code).Nodup ∧
    ∀ d ∈ drawn, ∀ g ∈ issued, normalizeBackupCode g.code ≠ normalizeBackupCode d.code

instance (issued drawn : List DrawnCode) : Decidable (FreshCodes issued drawn) :=
  inferInstanceAs (Decidable (_ ∧ _))

/-- What a write accepts: the entry its filter finds. -/
def MfaWrite.acceptance (owner : MfaOwner) (account : MfaAccount) : MfaWrite → Option AcceptedCode
  | .consume presented idx => (account.unusedAt owner idx).map fun entry =>
      ⟨presented, entry, account.mfaBackupCodes⟩
  | _ => none

def backupStep (cfg : BackupConfig) (s : BackupSystem) : BackupAction → Option BackupSystem
  | .read pid now call =>
    if s.pending pid = none ∧ call.owner = cfg.owner ∧ FreshCodes s.issued call.drawn then
      match call.read cfg.crypto cfg.env now (some cfg.key) (some s.account) with
      | .error _ => some s
      | .ok write => some { s with
          pending := update s.pending pid (some write)
          issued := call.drawn ++ s.issued }
    else none
  | .write pid =>
    match s.pending pid with
    | none => none
    | some write => some { s with
        account := write.apply cfg.owner s.account
        pending := update s.pending pid none
        accepted := (write.acceptance cfg.owner s.account).toList ++ s.accepted }
  | .abort pid => some { s with pending := update s.pending pid none }
  | .setActive isActive => some { s with account := { s.account with isActive := isActive } }

/-- **Single use**: a consumption marks the code presented, which is in the list stored at that
moment, and no code is accepted twice. -/
structure SingleUse (crypto : MfaCrypto) (s : BackupSystem) : Prop where
  marks : ∀ a ∈ s.accepted, a.marked.opens crypto a.presented = true
  listed : ∀ a ∈ s.accepted, ∃ entry ∈ a.stored, entry.opens crypto a.presented = true
  once : ∀ g ∈ s.issued, s.accepted.countP (fun a =>
    normalizeBackupCode a.presented = normalizeBackupCode g.code) ≤ 1

/-- Where the update of a consumption finds an unused entry at the position, it is still the code
that was presented. -/
def StillThere (cfg : BackupConfig) (s : BackupSystem) : BackupAction → Prop
  | .write pid =>
    match s.pending pid with
    | some (.consume presented idx) =>
      ∀ entry ∈ s.account.unusedAt cfg.owner idx, entry.opens cfg.crypto presented = true
    | _ => True
  | _ => True

instance (cfg : BackupConfig) (s : BackupSystem) : ∀ a, Decidable (StillThere cfg s a)
  | .write pid =>
    match h : s.pending pid with
    | some (.consume presented idx) => decidable_of_iff (∀ entry ∈ s.account.unusedAt cfg.owner idx,
        entry.opens cfg.crypto presented = true) (by simp only [StillThere, h])
    | some (.setup ..) | some (.enable _) | some .disable | some (.regenerate _) | none =>
      isTrue (by simp only [StillThere, h])
  | .read .. | .abort _ | .setActive _ => inferInstanceAs (Decidable True)

/-! ## The lists of codes -/

/-- No code opens both entries. -/
def Apart (crypto : MfaCrypto) (e e' : BackupCode) : Prop :=
  ∀ code, ¬ (e.opens crypto code = true ∧ e'.opens crypto code = true)

theorem opens_congr {crypto : MfaCrypto} {e e' : BackupCode} (h : e.hash = e'.hash) (code : String) :
    e.opens crypto code = e'.opens crypto code := by
  simp only [BackupCode.opens, h]

theorem Apart.congr {crypto : MfaCrypto} {e e' d d' : BackupCode} (h : Apart crypto e e')
    (he : d.hash = e.hash) (he' : d'.hash = e'.hash) : Apart crypto d d' := by
  intro code hopens
  rw [opens_congr he, opens_congr he'] at hopens
  exact h code hopens

/-- The stored list, and the list each call is about to store. -/
def BackupSystem.list (s : BackupSystem) : Option Nat → List BackupCode
  | none => s.account.mfaBackupCodes
  | some pid => ((s.pending pid).map MfaWrite.codes).getD []

/-- Every entry was made from a code drawn, no two can be opened by one code, and what was accepted
opens nothing that is unused. -/
structure BackupInv (crypto : MfaCrypto) (s : BackupSystem) : Prop where
  made : ∀ home, ∀ e ∈ s.list home, ∃ g ∈ s.issued, e.hash = hashBackupCode crypto g
  apart : ∀ home home' (i j : Nat) e e', (s.list home)[i]? = some e → (s.list home')[j]? = some e' →
    (home, i) ≠ (home', j) → Apart crypto e e'
  spent : ∀ a ∈ s.accepted, ∀ home, ∀ e ∈ s.list home, e.used = false →
    e.opens crypto a.presented = false
  known : ∀ a ∈ s.accepted, ∃ g ∈ s.issued,
    normalizeBackupCode a.presented = normalizeBackupCode g.code
  safe : SingleUse crypto s

section Steps
variable {cfg : BackupConfig} {s t : BackupSystem}

/-- A step that draws and accepts nothing moves lists about, and may mark entries used. -/
theorem BackupInv.moved {crypto : MfaCrypto} (h : BackupInv crypto s) (from_ : Option Nat → Option Nat)
    (hentry : ∀ home (i : Nat) e, (t.list home)[i]? = some e →
      ∃ e', (s.list (from_ home))[i]? = some e' ∧
      e.hash = e'.hash ∧ (e.used = false → e'.used = false))
    (hinj : ∀ home home', t.list home ≠ [] → t.list home' ≠ [] → from_ home = from_ home' →
      home = home')
    (hissued : t.issued = s.issued) (haccepted : t.accepted = s.accepted) : BackupInv crypto t := by
  refine ⟨fun home e he => ?_, fun home home' i j e e' he he' hne => ?_, ?_, ?_, ?_⟩
  · obtain ⟨i, hi⟩ := List.mem_iff_getElem?.mp he
    obtain ⟨e', he', hhash, -⟩ := hentry home i e hi
    rw [hissued, hhash]
    exact h.made _ e' (List.mem_iff_getElem?.mpr ⟨i, he'⟩)
  · obtain ⟨d, hd, hhash, -⟩ := hentry home i e he
    obtain ⟨d', hd', hhash', -⟩ := hentry home' j e' he'
    refine (h.apart _ _ i j d d' hd hd' fun heq => hne ?_).congr hhash hhash'
    obtain ⟨hfrom, rfl⟩ := Prod.mk.inj heq
    have hhome : home = home' := hinj home home'
      (fun hnil => by simp [hnil] at he) (fun hnil => by simp [hnil] at he') hfrom
    rw [hhome]
  · intro a ha home e he hunused
    rw [haccepted] at ha
    obtain ⟨i, hi⟩ := List.mem_iff_getElem?.mp he
    obtain ⟨e', he', hhash, hused⟩ := hentry home i e hi
    rw [opens_congr hhash]
    exact h.spent a ha _ e' (List.mem_iff_getElem?.mpr ⟨i, he'⟩) (hused hunused)
  · rw [haccepted, hissued]
    exact h.known
  · refine ⟨?_, ?_, ?_⟩
    · simpa only [haccepted] using h.safe.marks
    · simpa only [haccepted] using h.safe.listed
    · simpa only [haccepted, hissued] using h.safe.once

theorem list_update_of_ne {pid : Nat} {write : Option MfaWrite} {home : Option Nat}
    (hhome : home ≠ some pid) :
    BackupSystem.list { s with pending := update s.pending pid write } home = s.list home := by
  cases home with
  | none => rfl
  | some q =>
    have hq : q ≠ pid := fun h => hhome (congrArg some h)
    simp [BackupSystem.list, hq]

/-- A call that ends without its write drops the list it was about to store. -/
theorem BackupInv.abort_step {crypto : MfaCrypto} (h : BackupInv crypto s) (pid : Nat) :
    BackupInv crypto { s with pending := update s.pending pid none } := by
  refine h.moved id (fun home i e he => ?_) (fun _ _ _ _ heq => heq) rfl rfl
  by_cases hhome : home = some pid
  · subst hhome
    simp [BackupSystem.list] at he
  · rw [list_update_of_ne hhome] at he
    exact ⟨e, he, rfl, id⟩

/-- Entries made of different codes. -/
theorem apart_of_ne {crypto : MfaCrypto} (hbcrypt : BcryptSound crypto) {g d : DrawnCode}
    {e e' : BackupCode} (hne : normalizeBackupCode g.code ≠ normalizeBackupCode d.code)
    (he : e.hash = hashBackupCode crypto g) (he' : e'.hash = hashBackupCode crypto d) :
    Apart crypto e e' := by
  rintro code ⟨hopens, hopens'⟩
  rw [opens_of_hash hbcrypt he, decide_eq_true_iff] at hopens
  rw [opens_of_hash hbcrypt he', decide_eq_true_iff] at hopens'
  exact hne (hopens.symm.trans hopens')

theorem Apart.symm {crypto : MfaCrypto} {e e' : BackupCode} (h : Apart crypto e e') :
    Apart crypto e' e :=
  fun code hopens => h code hopens.symm

/-- A call draws codes: they were never accepted, and open no other entry. -/
theorem BackupInv.read_step (h : BackupInv cfg.crypto s) (hbcrypt : BcryptSound cfg.crypto)
    {pid : Nat} {write : MfaWrite} {drawn : List DrawnCode} (hfresh : FreshCodes s.issued drawn)
    (hcodes : write.codes = hashBackupCodes cfg.crypto drawn) :
    BackupInv cfg.crypto { s with
      pending := update s.pending pid (some write)
      issued := drawn ++ s.issued } := by
  obtain ⟨hnodup, hnew⟩ := hfresh
  have hcase : ∀ home (i : Nat) e, (BackupSystem.list { s with
        pending := update s.pending pid (some write)
        issued := drawn ++ s.issued } home)[i]? = some e →
      (home ≠ some pid ∧ (s.list home)[i]? = some e) ∨ (home = some pid ∧
        ∃ d, drawn[i]? = some d ∧ e.hash = hashBackupCode cfg.crypto d) := by
    intro home i e he
    by_cases hhome : home = some pid
    · subst hhome
      have hown : (hashBackupCodes cfg.crypto drawn)[i]? = some e := by
        simpa [BackupSystem.list, hcodes] using he
      obtain ⟨d, hd, rfl⟩ := Option.map_eq_some_iff.mp (List.getElem?_map.symm.trans hown)
      exact Or.inr ⟨rfl, d, hd, rfl⟩
    · exact Or.inl ⟨hhome, (congrArg (·[i]?) (list_update_of_ne hhome)).symm.trans he⟩
  -- a code that was drawn before opens none of the new entries
  have hold : ∀ g ∈ s.issued, ∀ d ∈ drawn, ∀ e e' : BackupCode, e.hash = hashBackupCode cfg.crypto g →
      e'.hash = hashBackupCode cfg.crypto d → Apart cfg.crypto e e' :=
    fun g hg d hd e e' => apart_of_ne hbcrypt (hnew d hd g hg)
  refine ⟨fun home e he => ?_, fun home home' i j e e' he he' hne => ?_,
    fun a ha home e he hunused => ?_, fun a ha => ?_, h.safe.marks, h.safe.listed, fun g hg => ?_⟩
  · obtain ⟨i, hi⟩ := List.mem_iff_getElem?.mp he
    rcases hcase home i e hi with ⟨-, hi⟩ | ⟨-, d, hd, hhash⟩
    · obtain ⟨g, hg, hhash⟩ := h.made home e (List.mem_iff_getElem?.mpr ⟨i, hi⟩)
      exact ⟨g, List.mem_append_right _ hg, hhash⟩
    · exact ⟨d, List.mem_append_left _ (List.mem_of_getElem? hd), hhash⟩
  · rcases hcase home i e he with ⟨-, he⟩ | ⟨rfl, d, hd, hhash⟩ <;>
      rcases hcase home' j e' he' with ⟨-, he'⟩ | ⟨rfl, d', hd', hhash'⟩
    · exact h.apart home home' i j e e' he he' hne
    · obtain ⟨g, hg, hhash⟩ := h.made home e (List.mem_of_getElem? he)
      exact hold g hg d' (List.mem_of_getElem? hd') e e' hhash hhash'
    · obtain ⟨g, hg, hhash'⟩ := h.made home' e' (List.mem_of_getElem? he')
      exact (hold g hg d (List.mem_of_getElem? hd) e' e hhash' hhash).symm
    · refine apart_of_ne hbcrypt (fun hsame => hne ?_) hhash hhash'
      have hij : i = j := by
        obtain ⟨hi, -⟩ := List.getElem?_eq_some_iff.mp hd
        refine (List.getElem?_inj (by simpa using hi) hnodup).mp ?_
        rw [List.getElem?_map, List.getElem?_map, hd, hd']
        exact congrArg some hsame
      rw [hij]
  · obtain ⟨i, hi⟩ := List.mem_iff_getElem?.mp he
    rcases hcase home i e hi with ⟨-, hi⟩ | ⟨-, d, hd, hhash⟩
    · exact h.spent a ha home e (List.mem_iff_getElem?.mpr ⟨i, hi⟩) hunused
    · obtain ⟨g, hg, hsame⟩ := h.known a ha
      rw [opens_of_hash hbcrypt hhash, hsame]
      exact decide_eq_false (hnew d (List.mem_of_getElem? hd) g hg)
  · obtain ⟨g, hg, hsame⟩ := h.known a ha
    exact ⟨g, List.mem_append_right _ hg, hsame⟩
  · rcases List.mem_append.mp hg with hg | hg
    · have hzero : s.accepted.countP (fun a =>
          normalizeBackupCode a.presented = normalizeBackupCode g.code) = 0 := by
        refine List.countP_eq_zero.mpr fun a ha => ?_
        obtain ⟨g', hg', hsame⟩ := h.known a ha
        simpa [hsame] using hnew g hg g' hg'
      dsimp only
      omega
    · exact h.safe.once g hg

/-- The list a call drew replaces the stored one. -/
theorem BackupInv.replace_step {crypto : MfaCrypto} (h : BackupInv crypto s) {pid : Nat}
    {write : MfaWrite} (hpending : s.pending pid = some write) {account : MfaAccount}
    (hcodes : account.mfaBackupCodes = write.codes) :
    BackupInv crypto { s with account := account, pending := update s.pending pid none } := by
  have hdrawn : s.list (some pid) = write.codes := by simp [BackupSystem.list, hpending]
  refine h.moved (fun home => if home = none then some pid else home) (fun home i e he => ?_)
    (fun home home' hnil hnil' hfrom => ?_) rfl rfl
  · rcases home with _ | q
    · refine ⟨e, ?_, rfl, id⟩
      rw [if_pos rfl, hdrawn, ← hcodes]
      exact he
    · by_cases hq : q = pid
      · subst hq
        simp [BackupSystem.list] at he
      · have hsame : s.list (some q) = BackupSystem.list { s with
            account := account, pending := update s.pending pid none } (some q) := by
          simp [BackupSystem.list, hq]
        exact ⟨e, by rw [if_neg (by simp), hsame]; exact he, rfl, id⟩
  · -- the call's own list is gone, so only the stored one comes from it
    have hgone : ∀ q, BackupSystem.list { s with
        account := account, pending := update s.pending pid none } (some q) ≠ [] → q ≠ pid := by
      rintro q hnil rfl
      simp [BackupSystem.list] at hnil
    rcases home with _ | q <;> rcases home' with _ | q'
    · rfl
    · exact absurd (Option.some.inj hfrom).symm (hgone q' hnil')
    · exact absurd (Option.some.inj hfrom) (hgone q hnil)
    · exact hfrom

/-- A write that leaves the stored list alone, or clears it. -/
theorem BackupInv.keep_step {crypto : MfaCrypto} (h : BackupInv crypto s) (pid : Nat)
    {account : MfaAccount}
    (hcodes : account.mfaBackupCodes = s.account.mfaBackupCodes ∨ account.mfaBackupCodes = []) :
    BackupInv crypto { s with account := account, pending := update s.pending pid none } := by
  refine h.moved id (fun home i e he => ⟨e, ?_, rfl, id⟩) (fun _ _ _ _ heq => heq) rfl rfl
  rcases home with _ | q
  · rcases hcodes with hcodes | hcodes
    · simpa [BackupSystem.list, hcodes] using he
    · simp [BackupSystem.list, hcodes] at he
  · by_cases hq : q = pid
    · subst hq
      simp [BackupSystem.list] at he
    · simpa [BackupSystem.list, hq] using he

/-- A consumption marks the entry of the code presented, which opens no other entry. -/
theorem BackupInv.accept_step {crypto : MfaCrypto} (h : BackupInv crypto s)
    (hbcrypt : BcryptSound crypto) {pid idx : Nat} {presented : String} {entry : BackupCode}
    (hentry : s.account.mfaBackupCodes[idx]? = some entry) (hunused : entry.used = false)
    (hopens : entry.opens crypto presented = true) :
    BackupInv crypto { s with
      account := { s.account with
        mfaBackupCodes := s.account.mfaBackupCodes.modify idx fun e => { e with used := true } }
      pending := update s.pending pid none
      accepted := ⟨presented, entry, s.account.mfaBackupCodes⟩ :: s.accepted } := by
  have hmem : entry ∈ s.list none := List.mem_of_getElem? hentry
  obtain ⟨g, hg, hhash⟩ := h.made none entry hmem
  have hpresented : normalizeBackupCode presented = normalizeBackupCode g.code := by
    rw [opens_of_hash hbcrypt hhash] at hopens
    exact of_decide_eq_true hopens
  have hfrom : ∀ home (i : Nat) e, (BackupSystem.list { s with
        account := { s.account with
          mfaBackupCodes := s.account.mfaBackupCodes.modify idx fun e => { e with used := true } }
        pending := update s.pending pid none } home)[i]? = some e →
      ∃ e', (s.list home)[i]? = some e' ∧ e.hash = e'.hash ∧
        (e.used = false → e'.used = false ∧ (home, i) ≠ (none, idx)) := by
    intro home i e he
    rcases home with _ | q
    · have he : (s.account.mfaBackupCodes.modify idx fun e => { e with used := true })[i]? = some e := he
      rw [List.getElem?_modify] at he
      obtain ⟨e', he', rfl⟩ := Option.map_eq_some_iff.mp he
      refine ⟨e', he', ?_, fun hused => ?_⟩
      · split <;> rfl
      · split at hused
        · cases hused
        · rename_i hne
          exact ⟨hused, fun heq => hne (Prod.mk.inj heq).2.symm⟩
    · by_cases hq : q = pid
      · subst hq
        simp [BackupSystem.list] at he
      · exact ⟨e, by simpa [BackupSystem.list, hq] using he, rfl, fun hused => ⟨hused, by simp⟩⟩
  have hmarked : BackupInv crypto { s with
      account := { s.account with
        mfaBackupCodes := s.account.mfaBackupCodes.modify idx fun e => { e with used := true } }
      pending := update s.pending pid none } := by
    refine h.moved id (fun home i e he => ?_) (fun _ _ _ _ heq => heq) rfl rfl
    obtain ⟨e', he', hhash, hused⟩ := hfrom home i e he
    exact ⟨e', he', hhash, fun hunused => (hused hunused).1⟩
  refine ⟨hmarked.made, hmarked.apart, fun a ha home e he hunusedE => ?_, fun a ha => ?_, ?_, ?_, ?_⟩
  · rcases List.mem_cons.mp ha with rfl | ha
    · obtain ⟨i, hi⟩ := List.mem_iff_getElem?.mp he
      obtain ⟨e', he', hhashE, hused⟩ := hfrom home i e hi
      rw [opens_congr hhashE, Bool.eq_false_iff]
      intro hopensE
      exact h.apart home none i idx e' entry he' hentry (hused hunusedE).2 presented
        ⟨hopensE, hopens⟩
    · exact hmarked.spent a ha home e he hunusedE
  · rcases List.mem_cons.mp ha with rfl | ha
    · exact ⟨g, hg, hpresented⟩
    · exact h.known a ha
  · exact List.forall_mem_cons.mpr ⟨hopens, h.safe.marks⟩
  · exact List.forall_mem_cons.mpr ⟨⟨entry, hmem, hopens⟩, h.safe.listed⟩
  · intro g' hg'
    have honce := h.safe.once g' hg'
    by_cases hsame : normalizeBackupCode presented = normalizeBackupCode g'.code
    · have hzero : s.accepted.countP (fun a =>
          normalizeBackupCode a.presented = normalizeBackupCode g'.code) = 0 := by
        refine List.countP_eq_zero.mpr fun a ha hcount => ?_
        have hspent := h.spent a ha none entry hmem hunused
        rw [opens_of_hash hbcrypt hhash, ← hpresented, hsame] at hspent
        exact of_decide_eq_false hspent (of_decide_eq_true hcount)
      rw [List.countP_cons, hzero]
      split <;> omega
    · rw [List.countP_cons_of_neg (by simpa using hsame)]
      exact honce

theorem BackupInv.write_step (h : BackupInv cfg.crypto s) (hbcrypt : BcryptSound cfg.crypto)
    {pid : Nat} (hthere : StillThere cfg s (.write pid))
    (hstep : backupStep cfg s (.write pid) = some t) : BackupInv cfg.crypto t := by
  simp only [backupStep] at hstep
  split at hstep
  · cases hstep
  rename_i write hpending
  obtain rfl := Option.some.inj hstep
  cases write with
  | setup secret codes => exact h.replace_step hpending rfl
  | regenerate codes => exact h.replace_step hpending rfl
  | enable secret => exact h.keep_step pid (Or.inl rfl)
  | disable => exact h.keep_step pid (Or.inr rfl)
  | consume presented idx =>
    simp only [StillThere, hpending] at hthere
    cases hfound : s.account.unusedAt cfg.owner idx with
    | none =>
      simp only [MfaWrite.apply, MfaWrite.acceptance, hfound]
      exact h.keep_step pid (Or.inl rfl)
    | some entry =>
      have hopens := hthere entry hfound
      simp only [MfaWrite.apply, MfaWrite.acceptance, hfound]
      obtain ⟨hentry, hunused⟩ : s.account.mfaBackupCodes[idx]? = some entry ∧ entry.used = false := by
        unfold MfaAccount.unusedAt at hfound
        split at hfound
        · cases hfound
        · simpa using Option.filter_eq_some_iff.mp hfound
      exact h.accept_step hbcrypt hentry hunused hopens

theorem BackupInv.step {a : BackupAction} (h : BackupInv cfg.crypto s)
    (hbcrypt : BcryptSound cfg.crypto) (hthere : StillThere cfg s a)
    (hstep : backupStep cfg s a = some t) : BackupInv cfg.crypto t := by
  cases a with
  | read pid now call =>
    simp only [backupStep] at hstep
    split at hstep
    · rename_i hguard
      split at hstep
      · exact Option.some.inj hstep ▸ h
      · rename_i write hread
        obtain rfl := Option.some.inj hstep
        exact h.read_step hbcrypt hguard.2.2 (MfaCall.read_codes hread)
    · cases hstep
  | write pid => exact h.write_step hbcrypt hthere hstep
  | abort pid =>
    obtain rfl := Option.some.inj hstep
    exact h.abort_step pid
  | setActive isActive =>
    obtain rfl := Option.some.inj hstep
    exact h.moved id (fun home i e he => ⟨e, by cases home <;> exact he, rfl, id⟩)
      (fun _ _ _ _ heq => heq) rfl rfl

end Steps

/-! ## Every interleaving -/

/-- **Backup codes are single-use** in every interleaving in which no consumption finds another
unused code at the position where it matched its own. -/
theorem backup_codes_single_use {cfg : BackupConfig} {s : BackupSystem}
    (hbcrypt : BcryptSound cfg.crypto)
    (hrun : Reach (backupStep cfg) (StillThere cfg) .start s) : SingleUse cfg.crypto s := by
  have hempty : ∀ home, BackupSystem.list .start home = [] := by
    intro home
    cases home <;> rfl
  have hstart : BackupInv cfg.crypto .start := by
    refine ⟨?_, ?_, ?_, ?_, ?_, ?_, ?_⟩
    · simp [hempty]
    · simp [hempty]
    · simp [BackupSystem.start]
    · simp [BackupSystem.start]
    · simp [BackupSystem.start]
    · simp [BackupSystem.start]
    · simp [BackupSystem.start]
  have hinv : BackupInv cfg.crypto s :=
    hrun.invariant hstart fun h hthere hstep => h.step hbcrypt hthere hstep
  exact hinv.safe

def schoolFactor : BackupConfig where
  crypto := plainCrypto
  owner := .school
  key := "greenwood"

/-- A factor with two codes, and two calls that both read the list with the first of them. -/
def twoConsumptions : List BackupAction :=
  [.read 0 0 (.setupMfa ⟨"JBSW", [⟨"AAAAA-00001", "x"⟩, ⟨"AAAAA-00002", "y"⟩]⟩), .write 0,
    .read 1 0 (.consumeSchoolBackupCode false "aaaaa 00001"),
    .read 2 0 (.consumeSchoolBackupCode false "AAAAA-OOOOI")]

theorem backup_codes_single_use_twice : ∃ s, execOk (backupStep schoolFactor) (StillThere schoolFactor)
      .start (twoConsumptions ++ [.write 1, .write 2]) = some s ∧
    s.accepted.map AcceptedCode.presented = ["aaaaa 00001"] ∧ SingleUse plainCrypto s := by
  have hrun : (execOk (backupStep schoolFactor) (StillThere schoolFactor) .start
      (twoConsumptions ++ [.write 1, .write 2])).map
        (fun s => s.accepted.map AcceptedCode.presented) = some ["aaaaa 00001"] := by decide +kernel
  obtain ⟨s, hs, haccepted⟩ := Option.map_eq_some_iff.mp hrun
  exact ⟨s, hs, haccepted, backup_codes_single_use plainCrypto_sound (.of_execOk hs)⟩

/-- The list is regenerated between the read and the update of a consumption: the old code is
accepted, and a new one is marked. -/
theorem replaced_code_accepted : ¬ ∀ (cfg : BackupConfig) (s : BackupSystem),
    BcryptSound cfg.crypto → Reach (backupStep cfg) Free .start s → SingleUse cfg.crypto s := by
  intro h
  have hrun : (exec (backupStep schoolFactor) .start (twoConsumptions ++
      [.read 3 0 (.regenerateBackupCodes (some "JBSW") none [⟨"BBBBB-00003", "z"⟩]), .write 3,
        .write 1])).map (fun s => s.accepted.all fun a => a.marked.opens plainCrypto a.presented) =
      some false := by decide +kernel
  obtain ⟨s, hs, hopens⟩ := Option.map_eq_some_iff.mp hrun
  have hmarks := (h schoolFactor s plainCrypto_sound (reach_of_exec hs)).marks
  have hall : (s.accepted.all fun a => a.marked.opens plainCrypto a.presented) = true :=
    List.all_eq_true.mpr hmarks
  exact absurd (hall.symm.trans hopens) (by decide)

end StellarEduPay

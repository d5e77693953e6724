import StellarEduPay.JsString
import StellarEduPay.Runs

/-! # The suppression list (`services/email/suppressionList.js`)

An address has one record, which every bounce, complaint or other event overwrites.  It is suppressed
as long as there is a record that is not of a soft bounce.
-/
namespace StellarEduPay
open Runs

/-! ## Records -/

/-- A record; `null` is `none`. -/
structure EmailSuppression where
  reason : String
  bounceType : Option String
  source : Option String
  detail : Option String
  suppressedAt : Nat
  deriving DecidableEq

/-- What is given to `suppress`; a bounce type that is left out is `none`. -/
structure SuppressOptions where
  reason : String
  bounceType : Option (Option String) := none
  source : Option String := none
  detail : Option String := none

/-- The records by address. -/
abbrev SuppressionList := String → Option EmailSuppression

/-- A soft bounce is recorded and does not block. -/
def EmailSuppression.soft (r : EmailSuppression) : Bool :=
  r.reason == "bounce" && r.bounceType == some "soft"

/-- What `suppress` calls blocking. -/
def EmailSuppression.blocking (r : EmailSuppression) : Bool :=
  r.reason != "bounce" || r.bounceType == some "hard"

theorem EmailSuppression.not_soft_of_blocking {r : EmailSuppression} (h : r.blocking = true) :
    r.soft = false := by
  rw [blocking, Bool.or_eq_true, bne_iff_ne, beq_iff_eq] at h
  rw [soft, Bool.and_eq_false_iff]
  rcases h with hreason | hhard
  · exact .inl (beq_false_of_ne hreason)
  · rw [hhard]
    exact .inr rfl

section
variable (toLowerCase : String → String)

def normalize (email : Option String) : String := toLowerCase (jsTrim (email.getD ""))

def isSuppressed (list : SuppressionList) (email : Option String) : Bool :=
  let addr := normalize toLowerCase email
  if addr = "" then false
  else
    match list addr with
    | none => false
    | some record => !record.soft

/-- The record that `suppress` stores. -/
def SuppressOptions.record (opts : SuppressOptions) (now : Nat) : EmailSuppression where
  reason := opts.reason
  bounceType := opts.bounceType.getD none
  source := opts.source
  detail := opts.detail
  suppressedAt := now

/-- What is returned, and the list after it. -/
def suppress (list : SuppressionList) (now : Nat) (email : Option String) (opts : SuppressOptions) :
    Option EmailSuppression × SuppressionList :=
  let addr := normalize toLowerCase email
  if addr = "" then (none, list)
  else (some (opts.record now), Function.update list addr (some (opts.record now)))

def bounceOptions (bounceType : Option (Option String)) (source detail : Option String) :
    SuppressOptions where
  reason := "bounce"
  bounceType := some (bounceType.getD (some "hard"))
  source := source
  detail := detail

def complaintOptions (source detail : Option String) : SuppressOptions where
  reason := "complaint"
  source := source
  detail := detail

def recordBounce (list : SuppressionList) (now : Nat) (email : Option String)
    (bounceType : Option (Option String)) (source detail : Option String) :
    Option EmailSuppression × SuppressionList :=
  suppress toLowerCase list now email (bounceOptions bounceType source detail)

def recordComplaint (list : SuppressionList) (now : Nat) (email : Option String)
    (source detail : Option String) : Option EmailSuppression × SuppressionList :=
  suppress toLowerCase list now email (complaintOptions source detail)

/-- Whether there was a record, and the list without it. -/
def removeSuppression (list : SuppressionList) (email : Option String) : Bool × SuppressionList :=
  let addr := normalize toLowerCase email
  if addr = "" then (false, list)
  else ((list addr).isSome, Function.update list addr none)

end

/-! ## Runs -/

inductive SuppressionEvent
  | suppress (now : Nat) (email : Option String) (opts : SuppressOptions)
  | recordBounce (now : Nat) (email : Option String) (bounceType : Option (Option String))
      (source detail : Option String)
  | recordComplaint (now : Nat) (email : Option String) (source detail : Option String)
  | remove (email : Option String)

/-- The list, and what has been recorded of each address since it was last removed. -/
structure SuppressionRun where
  list : SuppressionList
  since : String → List EmailSuppression

def SuppressionRun.start : SuppressionRun := ⟨fun _ => none, fun _ => []⟩

section
variable (toLowerCase : String → String)

/-- The address and the record of an event that stores one. -/
def SuppressionEvent.stores : SuppressionEvent → Option (Option String × EmailSuppression)
  | suppress now email opts => some (email, opts.record now)
  | recordBounce now email bounceType source detail =>
    some (email, (bounceOptions bounceType source detail).record now)
  | recordComplaint now email source detail =>
    some (email, (complaintOptions source detail).record now)
  | remove _ => none

def SuppressionRun.note (s : SuppressionRun) (email : Option String) (r : EmailSuppression)
    (list : SuppressionList) : SuppressionRun where
  list := list
  since :=
    let addr := normalize toLowerCase email
    if addr = "" then s.since else Function.update s.since addr (s.since addr ++ [r])

def suppressionStep (s : SuppressionRun) : SuppressionEvent → Option SuppressionRun
  | .suppress now email opts =>
    some (s.note toLowerCase email (opts.record now) (suppress toLowerCase s.list now email opts).2)
  | .recordBounce now email bounceType source detail =>
    some (s.note toLowerCase email ((bounceOptions bounceType source detail).record now)
      (recordBounce toLowerCase s.list now email bounceType source detail).2)
  | .recordComplaint now email source detail =>
    some (s.note toLowerCase email ((complaintOptions source detail).record now)
      (recordComplaint toLowerCase s.list now email source detail).2)
  | .remove email => some
    { list := (removeSuppression toLowerCase s.list email).2
      since :=
        let addr := normalize toLowerCase email
        if addr = "" then s.since else Function.update s.since addr [] }

end

/-! ## What an event does -/

section
variable {toLowerCase : String → String} {s t : SuppressionRun} {e : SuppressionEvent}

/-- An event that stores a record overwrites that of its address. -/
theorem step_stores {email : Option String} {r : EmailSuppression} (he : e.stores = some (email, r))
    (hstep : suppressionStep toLowerCase s e = some t) (addr : String) :
    if addr = normalize toLowerCase email ∧ addr ≠ "" then
      t.list addr = some r ∧ t.since addr = s.since addr ++ [r]
    else t.list addr = s.list addr ∧ t.since addr = s.since addr := by
  have hboth : suppressionStep toLowerCase s e = some (s.note toLowerCase email r
      (if normalize toLowerCase email = "" then s.list
        else Function.update s.list (normalize toLowerCase email) (some r))) := by
    cases e with
    | remove _ => cases he
    | suppress now email' opts | recordBounce now email' bounceType source detail
    | recordComplaint now email' source detail =>
      cases he
      simp only [suppressionStep, recordBounce, recordComplaint, suppress]
      split_ifs <;> rfl
  obtain rfl := Option.some.inj (hboth.symm.trans hstep)
  unfold SuppressionRun.note
  dsimp only
  by_cases haddr : addr = normalize toLowerCase email
  · by_cases hblank : addr = ""
    · rw [if_neg fun h => h.2 hblank, if_pos (haddr.symm.trans hblank),
        if_pos (haddr.symm.trans hblank)]
      exact ⟨rfl, rfl⟩
    · rw [if_pos ⟨haddr, hblank⟩, ← haddr, if_neg hblank, if_neg hblank, Function.update_self,
        Function.update_self]
      exact ⟨rfl, rfl⟩
  · rw [if_neg fun h => haddr h.1]
    split_ifs
    · exact ⟨rfl, rfl⟩
    · exact ⟨Function.update_of_ne haddr .., Function.update_of_ne haddr ..⟩

/-- The others remove the address, if they do anything to it. -/
theorem step_removes (he : e.stores = none) (hstep : suppressionStep toLowerCase s e = some t)
    (addr : String) : t.list addr = none ∧ t.since addr = [] ∨
      t.list addr = s.list addr ∧ t.since addr = s.since addr := by
  cases e with
  | remove email =>
    obtain rfl := Option.some.inj hstep
    simp only [removeSuppression]
    split_ifs
    · exact .inr ⟨rfl, rfl⟩
    · by_cases haddr : addr = normalize toLowerCase email
      · subst haddr
        exact .inl ⟨Function.update_self .., Function.update_self ..⟩
      · exact .inr ⟨Function.update_of_ne haddr .., Function.update_of_ne haddr ..⟩
  | suppress _ _ _ | recordBounce _ _ _ _ _ | recordComplaint _ _ _ _ => cases he

/-- The record of an address is the last of what has been recorded. -/
theorem list_eq_getLast {ok : SuppressionRun → SuppressionEvent → Prop}
    (hrun : Reach (suppressionStep toLowerCase) ok .start s) (addr : String) :
    s.list addr = (s.since addr).getLast? := by
  induction hrun with
  | refl => rfl
  | @tail t u e _ _ hstep ih =>
    cases he : e.stores with
    | some stored =>
      have hstored := step_stores he hstep addr
      split_ifs at hstored
      · rw [hstored.1, hstored.2, List.getLast?_concat]
      · rw [hstored.1, hstored.2, ih]
    | none =>
      rcases step_removes he hstep addr with ⟨hlist, hsince⟩ | ⟨hlist, hsince⟩
      · rw [hlist, hsince]
        rfl
      · rw [hlist, hsince, ih]

/-! ## Blocked until removed -/

/-- A blocking record has been stored for the address since it was last removed. -/
def SuppressionRun.Blocked (s : SuppressionRun) (addr : String) : Prop :=
  ∃ r ∈ s.since addr, r.blocking = true

/-- Every spelling of a blocked address is suppressed, and none of an address with soft bounces
alone. -/
def SuppressionHeld (toLowerCase : String → String) (s : SuppressionRun) : Prop :=
  ∀ email, normalize toLowerCase email ≠ "" →
    (s.Blocked (normalize toLowerCase email) → isSuppressed toLowerCase s.list email = true) ∧
    ((∀ r ∈ s.since (normalize toLowerCase email), r.soft = true) →
      isSuppressed toLowerCase s.list email = false)

/-- No soft bounce is recorded of an address that is blocked. -/
def NoSoftOnBlocked (toLowerCase : String → String) (s : SuppressionRun) (e : SuppressionEvent) : Prop :=
  ∀ email r, e.stores = some (email, r) → r.soft = true → normalize toLowerCase email ≠ "" →
    ¬s.Blocked (normalize toLowerCase email)

/-- What was last recorded of a blocked address is no soft bounce. -/
def BlockLasts (s : SuppressionRun) : Prop :=
  ∀ addr, s.Blocked addr → ∀ r, (s.since addr).getLast? = some r → r.soft = false

theorem isSuppressed_eq (hlist : ∀ addr, s.list addr = (s.since addr).getLast?) {email : Option String}
    (haddr : normalize toLowerCase email ≠ "") : isSuppressed toLowerCase s.list email =
      match (s.since (normalize toLowerCase email)).getLast? with
      | none => false
      | some record => !record.soft := by
  rw [isSuppressed, if_neg haddr, hlist]

theorem BlockLasts.held (h : BlockLasts s) (hlist : ∀ addr, s.list addr = (s.since addr).getLast?) :
    SuppressionHeld toLowerCase s := by
  intro email haddr
  rw [isSuppressed_eq hlist haddr]
  refine ⟨fun hblocked => ?_, fun hsoft => ?_⟩
  · obtain ⟨r, hr, hblocking⟩ := hblocked
    cases hlast : (s.since (normalize toLowerCase email)).getLast? with
    | none =>
      rw [List.getLast?_eq_none_iff.mp hlast] at hr
      cases hr
    | some last =>
      dsimp only
      rw [h _ ⟨r, hr, hblocking⟩ last hlast]
      rfl
  · cases hlast : (s.since (normalize toLowerCase email)).getLast? with
    | none => rfl
    | some last =>
      dsimp only
      rw [hsoft last (List.mem_of_getLast? hlast)]
      rfl

theorem BlockLasts.step (h : BlockLasts s) (hkeeps : NoSoftOnBlocked toLowerCase s e)
    (hstep : suppressionStep toLowerCase s e = some t) : BlockLasts t := by
  intro addr hblocked last hlast
  rw [SuppressionRun.Blocked] at hblocked
  cases he : e.stores with
  | some stored =>
    have hstored := step_stores he hstep addr
    split_ifs at hstored with haddr
    · obtain ⟨haddr, hblank⟩ := haddr
      rw [hstored.2, List.getLast?_concat] at hlast
      obtain rfl := Option.some.inj hlast
      obtain ⟨r, hr, hblocking⟩ := hblocked
      rw [hstored.2] at hr
      rcases List.mem_append.mp hr with hr | hr
      · by_contra hsoft
        rw [haddr] at hblank hr
        exact hkeeps stored.1 stored.2 he (Bool.not_eq_false _ ▸ hsoft) hblank ⟨r, hr, hblocking⟩
      · rw [List.mem_singleton.mp hr] at hblocking
        exact EmailSuppression.not_soft_of_blocking hblocking
    · rw [hstored.2] at hblocked hlast
      exact h addr hblocked last hlast
  | none =>
    rcases step_removes he hstep addr with ⟨-, hsince⟩ | ⟨-, hsince⟩
    · rw [hsince] at hlast
      cases hlast
    · rw [hsince] at hblocked hlast
      exact h addr hblocked last hlast

/-- A soft bounce of a blocked address shows. -/
theorem NoSoftOnBlocked.of_held (hlist : ∀ addr, t.list addr = (t.since addr).getLast?)
    (hstep : suppressionStep toLowerCase s e = some t) (h : SuppressionHeld toLowerCase t) :
    NoSoftOnBlocked toLowerCase s e := by
  intro email r he hsoft hblank hblocked
  have hstored := step_stores he hstep (normalize toLowerCase email)
  rw [if_pos ⟨rfl, hblank⟩] at hstored
  obtain ⟨r', hr', hblocking⟩ := hblocked
  have hstill : t.Blocked (normalize toLowerCase email) :=
    ⟨r', by rw [hstored.2]; exact List.mem_append_left _ hr', hblocking⟩
  have hsuppressed := (h email hblank).1 hstill
  rw [isSuppressed_eq hlist hblank, hstored.2, List.getLast?_concat] at hsuppressed
  simp [hsoft] at hsuppressed

end

/-- **Suppression** lasts until it is removed in the runs that record no soft bounce of a blocked
address, and no such bounce leaves it. -/
theorem suppression_held_iff (toLowerCase : String → String) (s : SuppressionRun)
    (hrun : Reach (suppressionStep toLowerCase) (NoSoftOnBlocked toLowerCase) .start s) :
    SuppressionHeld toLowerCase s ∧
      ∀ e t, suppressionStep toLowerCase s e = some t →
        (SuppressionHeld toLowerCase t ↔ NoSoftOnBlocked toLowerCase s e) := by
  have hlasts : BlockLasts s :=
    hrun.invariant (fun _ hblocked => by obtain ⟨_, hr, _⟩ := hblocked; cases hr)
      fun h hkeeps hstep => h.step hkeeps hstep
  have hall : ∀ e t, suppressionStep toLowerCase s e = some t →
      ∀ addr, t.list addr = (t.since addr).getLast? := by
    intro e t hstep
    have hfree : Reach (suppressionStep toLowerCase) Free .start t :=
      .tail (hrun.mono fun _ _ _ => trivial) trivial hstep
    exact list_eq_getLast hfree
  refine ⟨hlasts.held (list_eq_getLast hrun), fun e t hstep =>
    ⟨NoSoftOnBlocked.of_held (hall e t hstep) hstep, fun hkeeps =>
      (hlasts.step hkeeps hstep).held (hall e t hstep)⟩⟩

/-- A complaint blocks every spelling of the address. -/
theorem suppression_held_complaint : ∃ s : SuppressionRun,
    isSuppressed id s.list (some " parent@example.com") = true ∧ SuppressionHeld id s := by
  have hrun : Reach (suppressionStep id) (NoSoftOnBlocked id) .start
      (SuppressionRun.start.note id (some "parent@example.com") ((complaintOptions none none).record 0)
        (recordComplaint id (fun _ => none) 0 (some "parent@example.com") none none).2) := by
    refine .tail (a := .recordComplaint 0 (some "parent@example.com") none none) .refl ?_ rfl
    rintro email r - - - ⟨_, hr, -⟩
    cases hr
  exact ⟨_, by decide +kernel, (suppression_held_iff id _ hrun).1⟩

/-- A soft bounce after a complaint makes the address deliverable again. -/
theorem suppression_unblocked : ¬∀ (toLowerCase : String → String) (s : SuppressionRun),
    Reach (suppressionStep toLowerCase) Free .start s → SuppressionHeld toLowerCase s := by
  intro h
  have hexec : ∃ s, exec (suppressionStep id) .start
      [.recordComplaint 0 (some "parent@example.com") none none,
        .recordBounce 1 (some "parent@example.com") (some (some "soft")) none none] = some s ∧
      s.Blocked (normalize id (some "parent@example.com")) ∧
      isSuppressed id s.list (some "parent@example.com") = false := by
    refine ⟨_, rfl, ⟨(complaintOptions none none).record 0, ?_, rfl⟩, by decide +kernel⟩
    decide +kernel
  obtain ⟨s, hs, hblocked, hdeliverable⟩ := hexec
  have haddr : normalize id (some "parent@example.com") ≠ "" := by decide +kernel
  have hsuppressed := ((h id s (reach_of_exec hs)) (some "parent@example.com") haddr).1 hblocked
  exact absurd (hsuppressed.symm.trans hdeliverable) (by decide)

end StellarEduPay

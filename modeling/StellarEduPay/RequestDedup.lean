import Mathlib.Data.Nat.Basic
import Mathlib.Order.Basic
import StellarEduPay.Runs

/-! # Deduplicated requests (`middleware/concurrentRequestHandler.js`)

The first request of a key leads, and an entry stands for it until its handler calls `dedupComplete`
or a timer fires after `ttlMs`.  Requests that find an entry are to get what the leader gets.

Completions and timers know the key only, and a duplicate is handed the entry and not the promise in
it, so its `await` ends at once with the entry itself.
-/
namespace StellarEduPay
open Runs

/-! ## Leaders, entries and duplicates -/

/-- The answer to a duplicate: the JSON of a value, here of a result or of an entry, or the error
`DEDUP_ERROR`. -/
inductive DuplicateAnswer (α : Type)
  | result (a : α)
  | entry
  | failed
  deriving DecidableEq

/-- A request that leads, and how its handler ended. -/
structure Leader (κ α ε : Type) where
  key : κ
  startedAt : Nat
  fired : Bool := false
  outcome : Option (Except ε α) := none

/-- The entries and their promises, the leaders by number, the duplicates by the leader they joined,
and by whose completion or timer whose entry was removed. -/
structure DedupState (κ α ε : Type) where
  now : Nat
  pendingRequests : κ → Option Nat
  settled : Nat → Option (Except ε α)
  started : Nat
  leader : Nat → Option (Leader κ α ε)
  duplicates : List (Nat × DuplicateAnswer α)
  removals : List (Nat × Nat)

def DedupState.start {κ α ε : Type} : DedupState κ α ε :=
  ⟨0, fun _ => none, fun _ => none, 0, fun _ => none, [], []⟩

inductive DedupAction (κ α ε : Type)
  | tick (ms : Nat)
  | request (key : κ)
  | complete (n : Nat) (outcome : Except ε α)
  | timer (n : Nat)

/-- The answer with the outcome of the leader. -/
def DuplicateAnswer.ofOutcome {α ε : Type} : Except ε α → DuplicateAnswer α
  | .ok a => result a
  | .error _ => failed

section
variable {κ α ε : Type} [DecidableEq κ]

namespace DedupState
variable (s : DedupState κ α ε)

/-- `tryStart`: a duplicate is handed the entry of the leader it joins. -/
def tryStart (key : κ) : Option Nat × DedupState κ α ε :=
  match s.pendingRequests key with
  | some n => (some n, s)
  | none => (none, { s with
      pendingRequests := Function.update s.pendingRequests key (some s.started)
      started := s.started + 1
      leader := Function.update s.leader s.started (some { key := key, startedAt := s.now }) })

/-- The entry of the key goes, on account of leader `n`. -/
def delete (n : Nat) (key : κ) : DedupState κ α ε :=
  match s.pendingRequests key with
  | some m => { s with
      pendingRequests := Function.update s.pendingRequests key none
      removals := s.removals ++ [(n, m)] }
  | none => s

/-- The promise of the entry of the key. -/
def settle (key : κ) (outcome : Except ε α) : DedupState κ α ε :=
  match s.pendingRequests key with
  | some m => { s with settled := Function.update s.settled m (some outcome) }
  | none => s

def setLeader (n : Nat) (l : Leader κ α ε) : DedupState κ α ε :=
  { s with leader := Function.update s.leader n (some l) }

/-- The middleware.  An entry is no promise: awaiting it gives the entry. -/
def deduplicate (key : κ) : DedupState κ α ε :=
  match s.tryStart key with
  | (some n, s) => { s with duplicates := s.duplicates ++ [(n, .entry)] }
  | (none, s) => s

/-- `dedupComplete` -/
def complete (n : Nat) (l : Leader κ α ε) (outcome : Except ε α) : DedupState κ α ε :=
  ((s.setLeader n { l with outcome := l.outcome <|> some outcome }).settle l.key outcome).delete
    n l.key

end DedupState

def dedupStep (ttlMs : Nat) (s : DedupState κ α ε) :
    DedupAction κ α ε → Option (DedupState κ α ε)
  | .tick ms => some { s with now := s.now + ms }
  | .request key => some (s.deduplicate key)
  | .complete n outcome => (s.leader n).map fun l => s.complete n l outcome
  | .timer n =>
    match s.leader n with
    | none => none
    | some l =>
      if l.fired = false ∧ l.startedAt + ttlMs ≤ s.now then
        some ((s.setLeader n { l with fired := true }).delete n l.key)
      else none

end

/-! ## What deduplication is to ensure -/

section
variable {κ α ε : Type}

/-- A leader that still runs when another of its key does has run for `ttlMs`; a duplicate is answered
with the outcome of the leader it joined; an entry is settled and removed by its own leader. -/
structure DedupHeld (ttlMs : Nat) (s : DedupState κ α ε) : Prop where
  oneLeader : ∀ n m l l', n < m → s.leader n = some l → s.leader m = some l' → l.key = l'.key →
    l.outcome = none → l'.outcome = none → l.startedAt + ttlMs ≤ s.now
  answered : ∀ d ∈ s.duplicates, ∃ l outcome, s.leader d.1 = some l ∧ l.outcome = some outcome ∧
    d.2 = .ofOutcome outcome
  settledBy : ∀ n outcome, s.settled n = some outcome →
    ∃ l, s.leader n = some l ∧ l.outcome = some outcome
  removedBy : ∀ r ∈ s.removals, r.1 = r.2

/-- No request comes while the entry of its key is pending, and no leader completes or has its timer
fire while the entry of another is. -/
def RequestsApart (s : DedupState κ α ε) : DedupAction κ α ε → Prop
  | .tick _ => True
  | .request key => s.pendingRequests key = none
  | .complete n _ | .timer n =>
    ∀ l, s.leader n = some l → ∀ m, s.pendingRequests l.key = some m → m = n

/-! ## Runs whose requests stay apart -/

structure DedupKept (ttlMs : Nat) (s : DedupState κ α ε) : Prop where
  number_lt : ∀ {n l}, s.leader n = some l → n < s.started
  startedAt_le : ∀ {n l}, s.leader n = some l → l.startedAt ≤ s.now
  inOrder : ∀ {n m l l'}, n < m → s.leader n = some l → s.leader m = some l' →
    l.startedAt ≤ l'.startedAt
  pending : ∀ {key n}, s.pendingRequests key = some n →
    ∃ l, s.leader n = some l ∧ l.key = key ∧ l.outcome = none
  running : ∀ {n l}, s.leader n = some l → l.outcome = none →
    s.pendingRequests l.key = some n ∨ l.startedAt + ttlMs ≤ s.now
  noDuplicates : s.duplicates = []
  settledBy : ∀ {n outcome}, s.settled n = some outcome →
    ∃ l, s.leader n = some l ∧ l.outcome = some outcome
  removedBy : ∀ r ∈ s.removals, r.1 = r.2

variable {ttlMs : Nat} {s t : DedupState κ α ε}

theorem DedupKept.held (h : DedupKept ttlMs s) : DedupHeld ttlMs s where
  oneLeader n m l l' hnm hn hm hkey hl hl' := by
    rcases h.running hn hl with hpending | htimedOut
    · rcases h.running hm hl' with hpending' | htimedOut'
      · rw [hkey, hpending'] at hpending
        exact absurd (Option.some.inj hpending) hnm.ne'
      · exact (Nat.add_le_add_right (h.inOrder hnm hn hm) ttlMs).trans htimedOut'
    · exact htimedOut
  answered d hd := by
    rw [h.noDuplicates] at hd
    cases hd
  settledBy n outcome := h.settledBy
  removedBy := h.removedBy

theorem DedupKept.start : DedupKept ttlMs (.start : DedupState κ α ε) where
  number_lt := nofun
  startedAt_le := nofun
  inOrder := nofun
  pending := nofun
  running := nofun
  noDuplicates := rfl
  settledBy := nofun
  removedBy := nofun

theorem DedupKept.tick (h : DedupKept ttlMs s) (ms : Nat) :
    DedupKept ttlMs { s with now := s.now + ms } :=
  { h with
    startedAt_le := fun hn => (h.startedAt_le hn).trans (Nat.le_add_right _ _)
    running := fun hn hl => (h.running hn hl).imp_right fun hle => hle.trans (Nat.le_add_right _ _) }

/-- `l'` is `l` later on. -/
structure Leader.Same (l l' : Leader κ α ε) : Prop where
  key : l'.key = l.key
  startedAt : l'.startedAt = l.startedAt
  outcome : ∀ {outcome}, l.outcome = some outcome → l'.outcome = some outcome

/-- A step on account of leader `n` that touches no entry but its own. -/
structure OwnStep (ttlMs : Nat) (s t : DedupState κ α ε) (n : Nat) (l l' : Leader κ α ε) : Prop where
  leader : t.leader = Function.update s.leader n (some l')
  now : t.now = s.now
  started : t.started = s.started
  duplicates : t.duplicates = s.duplicates
  pending : ∀ {key m}, t.pendingRequests key = some m →
    s.pendingRequests key = some m ∧ (m = n → l'.outcome = none)
  others : ∀ {key m}, m ≠ n → s.pendingRequests key = some m → t.pendingRequests key = some m
  own : l'.outcome = none → t.pendingRequests l.key = some n ∨ l.startedAt + ttlMs ≤ s.now
  settled : ∀ {m outcome}, t.settled m = some outcome →
    s.settled m = some outcome ∨ m = n ∧ l'.outcome = some outcome
  removals : ∀ r ∈ t.removals, r ∈ s.removals ∨ r.1 = r.2

theorem DedupKept.own (h : DedupKept ttlMs s) {n : Nat} {l l' : Leader κ α ε}
    (hn : s.leader n = some l) (hsame : l.Same l') (hown : OwnStep ttlMs s t n l l') :
    DedupKept ttlMs t := by
  have hback : ∀ {m k'}, t.leader m = some k' →
      ∃ k, s.leader m = some k ∧ k'.key = k.key ∧ k'.startedAt = k.startedAt := by
    intro m k' hm
    rw [hown.leader] at hm
    rcases update_some_iff.mp hm with ⟨rfl, rfl⟩ | ⟨-, hm⟩
    · exact ⟨l, hn, hsame.key, hsame.startedAt⟩
    · exact ⟨k', hm, rfl, rfl⟩
  refine ⟨?_, ?_, ?_, ?_, ?_, hown.duplicates.trans h.noDuplicates, ?_, ?_⟩
  · intro m k' hm
    obtain ⟨k, hk, -, -⟩ := hback hm
    rw [hown.started]
    exact h.number_lt hk
  · intro m k' hm
    obtain ⟨k, hk, -, hstart⟩ := hback hm
    rw [hown.now, hstart]
    exact h.startedAt_le hk
  · intro m m' k k' hlt hm hm'
    obtain ⟨j, hj, -, hstart⟩ := hback hm
    obtain ⟨j', hj', -, hstart'⟩ := hback hm'
    rw [hstart, hstart']
    exact h.inOrder hlt hj hj'
  · intro key m hm
    obtain ⟨hpending, hrunning⟩ := hown.pending hm
    obtain ⟨k, hk, hkey, hnone⟩ := h.pending hpending
    rw [hown.leader]
    by_cases hmn : m = n
    · subst hmn
      obtain rfl := Option.some.inj (hn.symm.trans hk)
      exact ⟨l', Function.update_self .., hsame.key.trans hkey, hrunning rfl⟩
    · exact ⟨k, (Function.update_of_ne hmn ..).trans hk, hkey, hnone⟩
  · intro m k' hm hnone
    rw [hown.now]
    rw [hown.leader] at hm
    rcases update_some_iff.mp hm with ⟨rfl, rfl⟩ | ⟨hmn, hm⟩
    · rw [hsame.key, hsame.startedAt]
      exact hown.own hnone
    · exact (h.running hm hnone).imp_left (hown.others hmn)
  · intro m outcome hm
    rw [hown.leader]
    rcases hown.settled hm with hold | ⟨rfl, hnew⟩
    · obtain ⟨k, hk, hdone⟩ := h.settledBy hold
      by_cases hmn : m = n
      · subst hmn
        obtain rfl := Option.some.inj (hn.symm.trans hk)
        exact ⟨l', Function.update_self .., hsame.outcome hdone⟩
      · exact ⟨k, (Function.update_of_ne hmn ..).trans hk, hdone⟩
    · exact ⟨l', Function.update_self .., hnew⟩
  · intro r hr
    exact (hown.removals r hr).elim (h.removedBy r) id

/-- The only entry of a leader is that of its key. -/
theorem DedupKept.key_of_pending (h : DedupKept ttlMs s) {n : Nat} {l : Leader κ α ε}
    (hn : s.leader n = some l) {key : κ} (hpending : s.pendingRequests key = some n) :
    key = l.key ∧ l.outcome = none := by
  obtain ⟨k, hk, hkey, hnone⟩ := h.pending hpending
  obtain rfl := Option.some.inj (hn.symm.trans hk)
  exact ⟨hkey.symm, hnone⟩

variable [DecidableEq κ]

/-- A leader may remove the entry of its key as long as that is its own, and settle its own promise
with its outcome. -/
theorem DedupKept.own_delete (h : DedupKept ttlMs s) {n : Nat} {l l' : Leader κ α ε}
    (hn : s.leader n = some l) (hsame : l.Same l')
    (hapart : ∀ m, s.pendingRequests l.key = some m → m = n)
    (hdue : l'.outcome = none → l.startedAt + ttlMs ≤ s.now) {settled : Nat → Option (Except ε α)}
    (hsettled : ∀ {m outcome}, settled m = some outcome →
      s.settled m = some outcome ∨ m = n ∧ l'.outcome = some outcome) :
    DedupKept ttlMs ({ s.setLeader n l' with settled := settled }.delete n l.key) := by
  refine h.own hn hsame ?_
  unfold DedupState.delete DedupState.setLeader
  cases hkey : s.pendingRequests l.key with
  | none =>
    -- the entry of the key is gone already
    dsimp only
    refine ⟨rfl, rfl, rfl, rfl, fun hm => ⟨hm, ?_⟩, fun _ hm => hm, fun hnone => .inr (hdue hnone),
      hsettled, fun r hr => .inl hr⟩
    rintro rfl
    rw [(h.key_of_pending hn hm).1, hkey] at hm
    cases hm
  | some m =>
    obtain rfl := hapart m hkey
    dsimp only
    refine ⟨rfl, rfl, rfl, rfl, fun {key m'} hm => ?_, fun {key m'} hm hold => ?_,
      fun hnone => .inr (hdue hnone), hsettled, fun r hr => ?_⟩
    · obtain ⟨hother, hkept⟩ := update_none_iff.mp hm
      refine ⟨hkept, ?_⟩
      rintro rfl
      exact absurd (h.key_of_pending hn hkept).1 hother
    · refine update_none_iff.mpr ⟨?_, hold⟩
      rintro rfl
      exact hm (Option.some.inj (hold.symm.trans hkey))
    · rcases List.mem_append.mp hr with hr | hr
      · exact .inl hr
      · rw [List.mem_singleton.mp hr]
        exact .inr rfl

theorem DedupKept.complete (h : DedupKept ttlMs s) {n : Nat} {l : Leader κ α ε}
    (hn : s.leader n = some l) (outcome : Except ε α)
    (hapart : ∀ m, s.pendingRequests l.key = some m → m = n) :
    DedupKept ttlMs (s.complete n l outcome) := by
  have hsame : l.Same { l with outcome := l.outcome <|> some outcome } :=
    ⟨rfl, rfl, fun hdone => by rw [hdone]; rfl⟩
  have hdone : (l.outcome <|> some outcome) ≠ none := by cases l.outcome <;> nofun
  unfold DedupState.complete DedupState.settle
  cases hkey : (s.setLeader n { l with outcome := l.outcome <|> some outcome }).pendingRequests
    l.key with
  | none => exact h.own_delete hn hsame hapart (fun hnone => absurd hnone hdone) .inl
  | some m =>
    obtain rfl := hapart m hkey
    refine h.own_delete hn hsame hapart (fun hnone => absurd hnone hdone) fun {m' o} hm => ?_
    rcases update_some_iff.mp hm with ⟨rfl, rfl⟩ | ⟨-, hm⟩
    · rw [(h.key_of_pending hn hkey).2]
      exact .inr ⟨rfl, rfl⟩
    · exact .inl hm

theorem DedupKept.timer (h : DedupKept ttlMs s) {n : Nat} {l : Leader κ α ε}
    (hn : s.leader n = some l) (hdue : l.startedAt + ttlMs ≤ s.now)
    (hapart : ∀ m, s.pendingRequests l.key = some m → m = n) :
    DedupKept ttlMs ((s.setLeader n { l with fired := true }).delete n l.key) :=
  have hsame : l.Same { l with fired := true } := ⟨rfl, rfl, id⟩
  h.own_delete hn hsame hapart (fun _ => hdue) .inl

/-- A request that finds no entry leads. -/
theorem DedupKept.lead (h : DedupKept ttlMs s) {key : κ} (hfree : s.pendingRequests key = none) :
    DedupKept ttlMs (s.deduplicate key) := by
  have hnew : s.deduplicate key = { s with
      pendingRequests := Function.update s.pendingRequests key (some s.started)
      started := s.started + 1
      leader := Function.update s.leader s.started (some { key := key, startedAt := s.now }) } := by
    simp only [DedupState.deduplicate, DedupState.tryStart, hfree]
  rw [hnew]
  refine { h with
    number_lt := fun {n l} hn => ?_
    startedAt_le := fun {n l} hn => ?_
    inOrder := fun {n m l l'} hlt hn hm => ?_
    pending := fun {key' n} hn => ?_
    running := fun {n l} hn hl => ?_
    settledBy := fun {n outcome} hn => ?_ }
  · rcases update_some_iff.mp hn with ⟨rfl, -⟩ | ⟨-, hn⟩
    · exact Nat.lt_succ_self _
    · exact Nat.lt_succ_of_lt (h.number_lt hn)
  · rcases update_some_iff.mp hn with ⟨-, rfl⟩ | ⟨-, hn⟩
    · exact le_rfl
    · exact h.startedAt_le hn
  · rcases update_some_iff.mp hn with ⟨rfl, -⟩ | ⟨-, hn⟩
    · rcases update_some_iff.mp hm with ⟨rfl, -⟩ | ⟨-, hm⟩
      · exact absurd hlt (lt_irrefl _)
      · exact absurd (hlt.trans (h.number_lt hm)) (lt_irrefl _)
    · rcases update_some_iff.mp hm with ⟨-, rfl⟩ | ⟨-, hm⟩
      · exact h.startedAt_le hn
      · exact h.inOrder hlt hn hm
  · rcases update_some_iff.mp hn with ⟨rfl, rfl⟩ | ⟨-, hn⟩
    · exact ⟨_, Function.update_self .., rfl, rfl⟩
    · obtain ⟨l, hl, hkey, hnone⟩ := h.pending hn
      exact ⟨l, (Function.update_of_ne (h.number_lt hl).ne ..).trans hl, hkey, hnone⟩
  · rcases update_some_iff.mp hn with ⟨rfl, rfl⟩ | ⟨-, hn⟩
    · exact .inl (Function.update_self ..)
    · refine (h.running hn hl).imp_left fun hpending => ?_
      -- another key's entry, as there was none of this one
      refine update_some_iff.mpr (.inr ⟨?_, hpending⟩)
      rintro rfl
      rw [hfree] at hpending
      cases hpending
  · obtain ⟨l, hl, hdone⟩ := h.settledBy hn
    exact ⟨l, (Function.update_of_ne (h.number_lt hl).ne ..).trans hl, hdone⟩

/-- **Each step** that keeps requests apart keeps it. -/
theorem DedupKept.step (h : DedupKept ttlMs s) {a : DedupAction κ α ε} (hapart : RequestsApart s a)
    (hstep : dedupStep ttlMs s a = some t) : DedupKept ttlMs t := by
  cases a with
  | tick ms =>
    obtain rfl := Option.some.inj hstep
    exact h.tick ms
  | request key =>
    obtain rfl := Option.some.inj hstep
    exact h.lead hapart
  | complete n outcome =>
    obtain ⟨l, hn, rfl⟩ := Option.map_eq_some_iff.mp hstep
    exact h.complete hn outcome (hapart l hn)
  | timer n =>
    rw [dedupStep] at hstep
    cases hn : s.leader n with
    | none =>
      rw [hn] at hstep
      cases hstep
    | some l =>
      simp only [hn] at hstep
      split_ifs at hstep with hdue
      obtain rfl := Option.some.inj hstep
      exact h.timer hn hdue.2 (hapart l hn)

theorem RequestsApart.of_complete {n m : Nat} {l : Leader κ α ε} {outcome : Except ε α}
    (hpending : s.pendingRequests l.key = some m)
    (h : DedupHeld ttlMs (s.complete n l outcome)) : n = m := by
  have hremoved : (n, m) ∈ (s.complete n l outcome).removals := by
    unfold DedupState.complete DedupState.settle DedupState.delete DedupState.setLeader
    simp [hpending]
  exact h.removedBy _ hremoved

theorem RequestsApart.of_timer {n m : Nat} {l : Leader κ α ε}
    (hpending : s.pendingRequests l.key = some m)
    (h : DedupHeld ttlMs ((s.setLeader n { l with fired := true }).delete n l.key)) : n = m := by
  have hremoved : (n, m) ∈ ((s.setLeader n { l with fired := true }).delete n l.key).removals := by
    unfold DedupState.delete DedupState.setLeader
    simp [hpending]
  exact h.removedBy _ hremoved

/-- A step that does not keep requests apart shows. -/
theorem RequestsApart.of_held {a : DedupAction κ α ε} (hstep : dedupStep ttlMs s a = some t)
    (h : DedupHeld ttlMs t) : RequestsApart s a := by
  cases a with
  | tick ms => trivial
  | request key =>
    obtain rfl := Option.some.inj hstep
    by_contra hpending
    obtain ⟨n, hn⟩ := Option.ne_none_iff_exists'.mp hpending
    have hjoined : (n, DuplicateAnswer.entry) ∈ (s.deduplicate key).duplicates := by
      simp [DedupState.deduplicate, DedupState.tryStart, hn]
    obtain ⟨l, outcome, -, -, hanswer⟩ := h.answered _ hjoined
    cases outcome <;> cases hanswer
  | complete n outcome =>
    obtain ⟨l, hn, rfl⟩ := Option.map_eq_some_iff.mp hstep
    intro l' hn' m hpending
    obtain rfl := Option.some.inj (hn.symm.trans hn')
    exact (of_complete hpending h).symm
  | timer n =>
    intro l hn m hpending
    rw [dedupStep, hn] at hstep
    dsimp only at hstep
    split_ifs at hstep with hdue
    obtain rfl := Option.some.inj hstep
    exact (of_timer hpending h).symm

/-- **Deduplication** is kept up by the runs that keep requests apart, and by no step that does
not. -/
theorem dedup_held_iff (ttlMs : Nat) (s : DedupState κ α ε)
    (hrun : Reach (dedupStep ttlMs) RequestsApart .start s) :
    DedupHeld ttlMs s ∧
      ∀ a t, dedupStep ttlMs s a = some t → (DedupHeld ttlMs t ↔ RequestsApart s a) := by
  have h : DedupKept ttlMs s :=
    hrun.invariant .start fun hkept hapart hstep => hkept.step hapart hstep
  exact ⟨h.held, fun a t hstep =>
    ⟨RequestsApart.of_held hstep, fun hapart => (h.step hapart hstep).held⟩⟩

end

/-- A key is led again when its leader is done. -/
theorem dedup_held_again :
    ∃ s : DedupState Nat String String, s.started = 2 ∧ DedupHeld 60000 s := by
  have hfirst : Reach (dedupStep 60000) RequestsApart
      (.start : DedupState Nat String String) (DedupState.start.deduplicate 7) :=
    .tail (a := .request 7) .refl rfl rfl
  have hown : RequestsApart (DedupState.start.deduplicate 7 : DedupState Nat String String)
      (.complete 0 (.ok "paid")) := by
    intro l hl m hm
    obtain rfl := Option.some.inj hl
    exact (Option.some.inj hm).symm
  have hdone := hfirst.tail hown rfl
  have hagain := hdone.tail (a := .request 7) (by rfl) rfl
  exact ⟨_, rfl, (dedup_held_iff 60000 _ hagain).1⟩

/-- The timer of a leader that is done ends the entry of the next one. -/
theorem dedup_oldTimer : ¬∀ (ttlMs : Nat) (s : DedupState Nat String String),
    Reach (dedupStep ttlMs) Free .start s → DedupHeld ttlMs s := by
  intro h
  have hexec : ∃ s, exec (dedupStep 60000) (.start : DedupState Nat String String)
      [.request 7, .complete 0 (.ok "paid"), .tick 50000, .request 7, .tick 10000, .timer 0,
        .request 7] = some s ∧ s.now = 60000 ∧
      (∃ l, s.leader 1 = some l ∧ l.key = 7 ∧ l.outcome = none ∧ l.startedAt = 50000) ∧
      ∃ l, s.leader 2 = some l ∧ l.key = 7 ∧ l.outcome = none :=
    ⟨_, rfl, rfl, ⟨_, rfl, rfl, rfl, rfl⟩, ⟨_, rfl, rfl, rfl⟩⟩
  obtain ⟨s, hs, hnow, ⟨l, hl, hkey, hruns, hstart⟩, l', hl', hkey', hruns'⟩ := hexec
  have hlate := (h 60000 s (reach_of_exec hs)).oneLeader 1 2 l l' (by decide) hl hl'
    (hkey.trans hkey'.symm) hruns hruns'
  omega

end StellarEduPay

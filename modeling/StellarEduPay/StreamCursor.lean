import Mathlib.Data.Nat.Basic
import StellarEduPay.Cursor
import StellarEduPay.Ingestion
import StellarEduPay.Runs

/-! # The streaming cursor (`services/horizonStreamingService.js`)

A `SchoolStream` hands every transaction the Horizon stream delivers to an asynchronous
handler, which nobody awaits, so any number of handlers run at once.  A handler
processes its transaction and then moves the school's cursor to it, whatever the
result was, unless processing threw.

The stream delivers in ascending order from the cursor it was connected at.  After an
error it connects again at the cursor in memory; a restarted process connects at the
stored one.
-/
namespace StellarEduPay
open Runs Cursors

/-- A result after which nothing of a creditable transaction is left to record. -/
def PollResult.settles : PollResult → Bool
  | .processed _ => true
  | .skipped .duplicate | .skipped .invalidPayment | .skipped .studentNotFound => true
  | .skipped .amountLimitExceeded | .skipped .staleLock | .threw => false

/-- The result says that a payment or an unmatched payment was stored. -/
def PollResult.records : PollResult → Bool
  | .processed _ | .skipped .studentNotFound => true
  | _ => false

/-- Where the handler of a message is. -/
inductive HandlerPc
  | fetching
  | processing
  | examined (result : PollResult)
  | persisting
  | finished
  deriving DecidableEq, Repr

/-- A running `_onMessage`. -/
structure Handler where
  token : Nat
  pc : HandlerPc
  deriving DecidableEq, Repr

/-- A school's stream.  `syncCursor` is the field of the object and `stored` the one of the
school document; `connectedAt` and `position` are the stream's first and last token.
The last two fields are ghosts: what has been recorded, and which tokens got a
result that settles them. -/
structure StreamState where
  stored : Nat
  syncCursor : Nat
  connectedAt : Nat
  position : Nat
  active : Bool
  handlers : List Handler
  recorded : List Nat
  settled : List Nat

/-- What can happen next.  A handler is named by its place in the list.  Another path
(`verifyPayment`, the poller, a sync) may record a transaction at any time. -/
inductive StreamAction
  | deliver (token : Nat)
  | fetchSchool (handler : Nat) (isActive : Bool)
  | process (handler : Nat) (result : PollResult)
  | advance (handler : Nat)
  | persist (handler : Nat) (succeeds : Bool)
  | recordElsewhere (token : Nat)
  | reconnect
  | restart

namespace StreamState

/-- Handler `i` goes on to `pc`. -/
def goto (s : StreamState) (i : Nat) (h : Handler) (pc : HandlerPc) : StreamState :=
  { s with handlers := s.handlers.set i { h with pc := pc } }

/-- `_connect` at a cursor. -/
def connect (s : StreamState) (cursor : Nat) : StreamState :=
  { s with syncCursor := cursor, connectedAt := cursor, position := cursor }

end StreamState

section
variable (history : List Nat) (creditable : Nat → Bool)

/-- `token` is the next transaction after `position`. -/
def isNext (position token : Nat) : Prop :=
  token ∈ history ∧ position < token ∧ ∀ t ∈ history, position < t → token ≤ t

instance (position token : Nat) : Decidable (isNext history position token) := by
  unfold isNext; infer_instance

/-- One step of the stream and its handlers. -/
def streamStep (s : StreamState) : StreamAction → Option StreamState
  | .deliver token =>
    if s.active = true ∧ isNext history s.position token then
      some { s with position := token, handlers := s.handlers ++ [⟨token, .fetching⟩] }
    else none
  | .fetchSchool i isActive =>
    match s.handlers[i]? with
    | some ⟨token, .fetching⟩ =>
      if isActive then some (s.goto i ⟨token, .fetching⟩ .processing)
      else some { s.goto i ⟨token, .fetching⟩ .finished with active := false }
    | _ => none
  | .process i result =>
    match s.handlers[i]? with
    | some ⟨token, .processing⟩ =>
      -- a duplicate has been recorded, and an invalid payment is not creditable
      if result = .skipped .duplicate ∧ token ∉ s.recorded then none
      else if result = .skipped .invalidPayment ∧ creditable token = true then none
      else
        let s := { s with
          recorded := if result.records then token :: s.recorded else s.recorded
          settled := if result.settles then token :: s.settled else s.settled }
        if result = .threw then some (s.goto i ⟨token, .processing⟩ .finished)
        else some (s.goto i ⟨token, .processing⟩ (.examined result))
    | _ => none
  | .advance i =>
    match s.handlers[i]? with
    | some ⟨token, .examined result⟩ =>
      if token = s.syncCursor then some (s.goto i ⟨token, .examined result⟩ .finished)
      else some { s.goto i ⟨token, .examined result⟩ .persisting with syncCursor := token }
    | _ => none
  | .persist i succeeds =>
    match s.handlers[i]? with
    | some ⟨token, .persisting⟩ =>
      let s := s.goto i ⟨token, .persisting⟩ .finished
      -- a failed write is logged and forgotten
      some (if succeeds then { s with stored := token } else s)
    | _ => none
  | .recordElsewhere token => some { s with recorded := token :: s.recorded }
  | .reconnect => if s.active then some (s.connect s.syncCursor) else none
  | .restart => some { s.connect s.stored with active := true, handlers := [] }

/-- A stream opened at a school's cursor. -/
def StreamState.init (cursor : Nat) (recorded : List Nat) : StreamState :=
  ⟨cursor, cursor, cursor, cursor, true, [], recorded, []⟩

/-- Every creditable transaction from `start` up to the stored cursor is recorded. -/
def StreamGapFree (start : Nat) (s : StreamState) : Prop :=
  Covered history (fun t => creditable t = true → t ∈ s.recorded) start s.stored

/-- A handler moves the cursor only after a result that settles its transaction, and
when every transaction delivered before it since the stream was connected has one. -/
def CursorSafe (s : StreamState) : StreamAction → Prop
  | .advance i => ∀ token result, s.handlers[i]? = some ⟨token, .examined result⟩ →
      token ≠ s.syncCursor →
      result.settles = true ∧ ∀ t ∈ history, s.connectedAt < t → t < token → t ∈ s.settled
  | _ => True

/-! ## The invariant -/

/-- What keeps the stored cursor free of gaps: the other cursors and the writes under
way are free of gaps as well. -/
structure StreamInv (start : Nat) (s : StreamState) : Prop where
  stored : StreamGapFree history creditable start s
  syncCursor : StreamGapFree history creditable start { s with stored := s.syncCursor }
  connectedAt : StreamGapFree history creditable start { s with stored := s.connectedAt }
  persisting : ∀ h ∈ s.handlers, h.pc = .persisting →
    StreamGapFree history creditable start { s with stored := h.token }
  examined : ∀ h ∈ s.handlers, ∀ result, h.pc = .examined result → result.settles = true →
    h.token ∈ s.settled
  settled : ∀ t ∈ s.settled, creditable t = true → t ∈ s.recorded

variable {history creditable}

theorem StreamInv.init (cursor : Nat) (recorded : List Nat) :
    StreamInv history creditable cursor (.init cursor recorded) where
  stored := Covered.refl
  syncCursor := Covered.refl
  connectedAt := Covered.refl
  persisting := by simp [StreamState.init]
  examined := by simp [StreamState.init]
  settled := by simp [StreamState.init]

namespace StreamInv
variable {start : Nat} {s : StreamState} {i : Nat} {h : Handler} {pc : HandlerPc}

/-- A handler moves on without touching a cursor. -/
theorem goto (hinv : StreamInv history creditable start s)
    (hpers : pc = .persisting → StreamGapFree history creditable start { s with stored := h.token })
    (hexam : ∀ result, pc = .examined result → result.settles = true → h.token ∈ s.settled) :
    StreamInv history creditable start (s.goto i h pc) where
  stored := hinv.stored
  syncCursor := hinv.syncCursor
  connectedAt := hinv.connectedAt
  persisting := by
    intro h' hmem hpc
    rcases List.mem_or_eq_of_mem_set hmem with hmem | rfl
    · exact hinv.persisting h' hmem hpc
    · exact hpers hpc
  examined := by
    intro h' hmem result hpc hs
    rcases List.mem_or_eq_of_mem_set hmem with hmem | rfl
    · exact hinv.examined h' hmem result hpc hs
    · exact hexam result hpc hs
  settled := hinv.settled

/-- Recording more, and settling what is recorded or not creditable, opens no gap. -/
theorem grow (hinv : StreamInv history creditable start s) {recorded settled : List Nat}
    (hrec : s.recorded ⊆ recorded) (hset : s.settled ⊆ settled)
    (hnew : ∀ t ∈ settled, creditable t = true → t ∈ recorded) :
    StreamInv history creditable start { s with recorded := recorded, settled := settled } := by
  have hmono : ∀ {c}, StreamGapFree history creditable start { s with stored := c } →
      StreamGapFree history creditable start
        { s with stored := c, recorded := recorded, settled := settled } :=
    fun hgap => Covered.mono hgap fun _ hd hc => hrec (hd hc)
  exact ⟨hmono hinv.stored, hmono hinv.syncCursor, hmono hinv.connectedAt,
    fun h hmem hpc => hmono (hinv.persisting h hmem hpc),
    fun h hmem result hpc hs => hset (hinv.examined h hmem result hpc hs), hnew⟩

section
variable (result : PollResult) (token : Nat) (s : StreamState)

theorem recorded_subset :
    s.recorded ⊆ if result.records then token :: s.recorded else s.recorded := by
  split
  · exact List.subset_cons_self ..
  · exact List.Subset.refl _

theorem settled_subset :
    s.settled ⊆ if result.settles then token :: s.settled else s.settled := by
  split
  · exact List.subset_cons_self ..
  · exact List.Subset.refl _

end

/-- A result that settles a creditable transaction leaves it recorded. -/
theorem settles_recorded {result : PollResult} {token : Nat}
    (hs : ∀ t ∈ s.settled, creditable t = true → t ∈ s.recorded)
    (hdup : ¬ (result = .skipped .duplicate ∧ token ∉ s.recorded))
    (hinvalid : ¬ (result = .skipped .invalidPayment ∧ creditable token = true)) :
    ∀ t ∈ (if result.settles then token :: s.settled else s.settled), creditable t = true →
      t ∈ if result.records then token :: s.recorded else s.recorded := by
  intro t ht hc
  have hold : t ∈ s.recorded → t ∈ if result.records then token :: s.recorded else s.recorded :=
    fun h => recorded_subset result token s h
  split at ht
  · rename_i hsettles
    rcases List.mem_cons.mp ht with rfl | ht
    · cases result with
      | threw => cases hsettles
      | processed row => exact List.mem_cons_self ..
      | skipped reason =>
        cases reason with
        | duplicate => exact hold (by_contra fun hn => hdup ⟨rfl, hn⟩)
        | invalidPayment => exact absurd ⟨rfl, hc⟩ hinvalid
        | studentNotFound => exact List.mem_cons_self ..
        | amountLimitExceeded => cases hsettles
        | staleLock => cases hsettles
    · exact hold (hs t ht hc)
  · exact hold (hs t ht hc)

variable {s' : StreamState}

/-- A delivery starts a handler that has neither examined nor persisted anything. -/
theorem deliver (hinv : StreamInv history creditable start s) {token : Nat}
    (hstep : streamStep history creditable s (.deliver token) = some s') :
    StreamInv history creditable start s' := by
  simp only [streamStep] at hstep
  split at hstep <;> cases hstep
  refine ⟨hinv.stored, hinv.syncCursor, hinv.connectedAt, ?_, ?_, hinv.settled⟩
  · intro h hmem hpc
    rcases List.mem_append.mp hmem with hmem | hmem
    · exact hinv.persisting h hmem hpc
    · rw [List.mem_singleton.mp hmem] at hpc; cases hpc
  · intro h hmem result hpc hs
    rcases List.mem_append.mp hmem with hmem | hmem
    · exact hinv.examined h hmem result hpc hs
    · rw [List.mem_singleton.mp hmem] at hpc; cases hpc

theorem fetchSchool (hinv : StreamInv history creditable start s) {isActive : Bool}
    (hstep : streamStep history creditable s (.fetchSchool i isActive) = some s') :
    StreamInv history creditable start s' := by
  simp only [streamStep] at hstep
  split at hstep
  · rename_i token hi
    split at hstep <;> cases hstep
    · exact hinv.goto (by simp) (by simp)
    · have hgoto : StreamInv history creditable start (s.goto i ⟨token, .fetching⟩ .finished) :=
        hinv.goto (by simp) (by simp)
      exact ⟨hgoto.stored, hgoto.syncCursor, hgoto.connectedAt, hgoto.persisting, hgoto.examined,
        hgoto.settled⟩
  · cases hstep

/-- A transaction is settled with its result, and recorded if the result says so. -/
theorem process (hinv : StreamInv history creditable start s) {result : PollResult}
    (hstep : streamStep history creditable s (.process i result) = some s') :
    StreamInv history creditable start s' := by
  simp only [streamStep] at hstep
  split at hstep
  · rename_i token hi
    split at hstep
    · cases hstep
    rename_i hdup
    split at hstep
    · cases hstep
    rename_i hinvalid
    have hgrow := hinv.grow (recorded_subset result token s) (settled_subset result token s)
      (settles_recorded hinv.settled hdup hinvalid)
    split at hstep <;> cases hstep
    · exact hgrow.goto (by simp) (by simp)
    · refine hgrow.goto (by simp) fun r hr hs => ?_
      cases hr
      rw [if_pos hs]
      exact List.mem_cons_self ..
  · cases hstep

/-- The cursor moves to a settled token, past settled ones only. -/
theorem advance (hinv : StreamInv history creditable start s)
    (hsafe : CursorSafe history s (.advance i))
    (hstep : streamStep history creditable s (.advance i) = some s') :
    StreamInv history creditable start s' := by
  simp only [streamStep] at hstep
  split at hstep
  · rename_i token result hi
    have hmem := List.mem_of_getElem? hi
    split at hstep <;> cases hstep
    · exact hinv.goto (by simp) (by simp)
    · rename_i hne
      obtain ⟨hsettles, hbefore⟩ := hsafe token result hi hne
      have htoken : token ∈ s.settled := hinv.examined _ hmem result rfl hsettles
      -- everything between the connection's cursor and the token is settled
      have hgap : StreamGapFree history creditable start { s with stored := token } := by
        refine Covered.extend hinv.connectedAt fun t ht hlt hle hc => ?_
        rcases Nat.lt_or_eq_of_le hle with hlt' | rfl
        · exact hinv.settled t (hbefore t ht hlt hlt') hc
        · exact hinv.settled t htoken hc
      have hgoto : StreamInv history creditable start
          (s.goto i ⟨token, .examined result⟩ .persisting) := hinv.goto (fun _ => hgap) (by simp)
      exact ⟨hgoto.stored, hgap, hgoto.connectedAt, hgoto.persisting, hgoto.examined, hgoto.settled⟩
  · cases hstep

/-- The stored cursor takes over the token whose write was under way. -/
theorem persist (hinv : StreamInv history creditable start s) {succeeds : Bool}
    (hstep : streamStep history creditable s (.persist i succeeds) = some s') :
    StreamInv history creditable start s' := by
  simp only [streamStep] at hstep
  split at hstep
  · rename_i token hi
    have hgoto : StreamInv history creditable start (s.goto i ⟨token, .persisting⟩ .finished) :=
      hinv.goto (by simp) (by simp)
    cases hstep
    cases succeeds with
    | false => exact hgoto
    | true =>
      have hgap := hinv.persisting _ (List.mem_of_getElem? hi) rfl
      exact ⟨hgap, hgoto.syncCursor, hgoto.connectedAt, hgoto.persisting, hgoto.examined,
        hgoto.settled⟩
  · cases hstep

/-- **One step keeps the invariant.** -/
theorem step (hinv : StreamInv history creditable start s) {a : StreamAction}
    (hsafe : CursorSafe history s a) (hstep : streamStep history creditable s a = some s') :
    StreamInv history creditable start s' := by
  cases a with
  | deliver token => exact hinv.deliver hstep
  | fetchSchool i isActive => exact hinv.fetchSchool hstep
  | process i result => exact hinv.process hstep
  | advance i => exact hinv.advance hsafe hstep
  | persist i succeeds => exact hinv.persist hstep
  | recordElsewhere token =>
    simp only [streamStep] at hstep
    cases hstep
    exact hinv.grow (List.subset_cons_self ..) (List.Subset.refl _)
      fun t ht hc => List.mem_cons_of_mem _ (hinv.settled t ht hc)
  | reconnect =>
    simp only [streamStep] at hstep
    split at hstep <;> cases hstep
    exact ⟨hinv.stored, hinv.syncCursor, hinv.syncCursor, hinv.persisting, hinv.examined, hinv.settled⟩
  | restart =>
    simp only [streamStep] at hstep
    cases hstep
    exact ⟨hinv.stored, hinv.stored, hinv.stored, by simp, by simp, hinv.settled⟩

end StreamInv

end

/-- **The stored cursor has no gap** along every run of the stream and its handlers in which
the cursor is moved safely, from any cursor and over any history. -/
theorem stream_cursor_gap_free (history : List Nat) (creditable : Nat → Bool) (cursor : Nat)
    (recorded : List Nat) {s : StreamState}
    (hrun : Reach (streamStep history creditable) (CursorSafe history) (.init cursor recorded) s) :
    StreamGapFree history creditable cursor s :=
  (hrun.invariant (StreamInv.init cursor recorded) fun ht hsafe hstep => ht.step hsafe hstep).stored

/-- A payment, and after it a transaction that is none. -/
def paymentThenOther : Nat → Bool := fun t => t = 1

theorem stream_cursor_gap_free_two : ∃ s : StreamState,
    Reach (streamStep [1, 2] paymentThenOther) (CursorSafe [1, 2]) (.init 0 []) s ∧
      StreamGapFree [1, 2] paymentThenOther 0 s ∧ s.stored = 2 := by
  -- `verifyPayment` records the payment before its handler gets to it, both handlers run at
  -- once, and the first to be delivered is the first to move the cursor
  have hrun : Reach (streamStep [1, 2] paymentThenOther) (CursorSafe [1, 2]) (.init 0 []) _ :=
    .tail (.tail (.tail (.tail (.tail (.tail (.tail (.tail (.tail (.tail (.tail .refl
      (show CursorSafe _ _ (.deliver 1) from trivial) rfl)
      (show CursorSafe _ _ (.deliver 2) from trivial) rfl)
      (show CursorSafe _ _ (.recordElsewhere 1) from trivial) rfl)
      (show CursorSafe _ _ (.fetchSchool 1 true) from trivial) rfl)
      (show CursorSafe _ _ (.fetchSchool 0 true) from trivial) rfl)
      (show CursorSafe _ _ (.process 1 (.skipped .invalidPayment)) from trivial) rfl)
      (show CursorSafe _ _ (.process 0 (.skipped .duplicate)) from trivial) rfl)
      (show CursorSafe _ _ (.advance 0) from fun _ _ h _ => by cases h; decide) rfl)
      (show CursorSafe _ _ (.persist 0 true) from trivial) rfl)
      (show CursorSafe _ _ (.advance 1) from fun _ _ h _ => by cases h; decide) rfl)
      (show CursorSafe _ _ (.persist 1 true) from trivial) rfl
  exact ⟨_, hrun, stream_cursor_gap_free _ _ _ _ hrun, rfl⟩

/-- Processing the payment throws, and the next transaction, which is no payment, moves the
cursor past both. -/
theorem stream_cursor_skips_failed :
    ¬ ∀ (history : List Nat) (creditable : Nat → Bool) (cursor : Nat) (s : StreamState),
      Reach (streamStep history creditable) Free (.init cursor []) s →
      StreamGapFree history creditable cursor s := by
  intro h
  have hrun := reach_of_exec (show exec (streamStep [1, 2] paymentThenOther) (.init 0 [])
    [.deliver 1, .fetchSchool 0 true, .process 0 .threw, .deliver 2, .fetchSchool 1 true,
      .process 1 (.skipped .invalidPayment), .advance 1, .persist 1 true] = some _ from rfl)
  have hgap := h [1, 2] paymentThenOther 0 _ hrun 1 (by decide) (by decide) (by decide) rfl
  revert hgap
  decide

end StellarEduPay

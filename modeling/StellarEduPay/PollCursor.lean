import Mathlib.Data.Nat.Basic
import StellarEduPay.Cursor
import StellarEduPay.Ingestion
import StellarEduPay.Runs

/-! # The poll cursors (`pollSchoolTransactions` in `services/transactionPollingService.js`)

A poll cycle reads the transactions of one address in ascending pages from the cursor
the school document has for it, processes them one by one and stores the cursor
after every page.  A school has one cursor for its current wallet and one for each
retired address that is still being drained.

A cycle ends when the page cap or the request budget is used up, on a short or empty
page, on an error from Horizon or from processing, or with the process.  What
`processTransaction` returns does not matter to the cursor, unless it throws.
-/
namespace StellarEduPay
open Runs Cursors

/-- The transactions of an address, by paging token. -/
structure WalletHistory where
  tokens : List Nat
  ascending : tokens.Pairwise (· < ·)
  positive : ∀ t ∈ tokens, 0 < t

/-- An entry of `walletHistory`; a cursor of `0` is none. -/
structure WalletEntry where
  address : String
  cursor : Nat
  deriving DecidableEq, Repr

/-- The addresses and cursors of a school document. -/
structure SchoolWallets where
  stellarAddress : String
  syncCursor : Nat
  walletHistory : List WalletEntry
  deriving DecidableEq, Repr

/-- Set the cursor of the first entry with the address (`'walletHistory.$.cursor'`). -/
def setCursor (address : String) (cursor : Nat) : List WalletEntry → List WalletEntry
  | [] => []
  | e :: es =>
    if e.address = address then { e with cursor := cursor } :: es
    else e :: setCursor address cursor es

/-- Store the cursor of a cycle on the current wallet or on the retired address. -/
def SchoolWallets.persist (school : SchoolWallets) (retired : Option WalletEntry) (cursor : Nat) :
    SchoolWallets :=
  match retired with
  | none => { school with syncCursor := cursor }
  | some entry =>
    { school with walletHistory := setCursor entry.address cursor school.walletHistory }

/-- The address a cycle polls, with its cursor. -/
def SchoolWallets.target (school : SchoolWallets) (retired : Option WalletEntry) : WalletEntry :=
  retired.getD ⟨school.stellarAddress, school.syncCursor⟩

/-- `e` is an entry a cycle polls: the current wallet, or one of the retired addresses. -/
def SchoolWallets.Polls (school : SchoolWallets) (retired : Option WalletEntry) (e : WalletEntry) :
    Prop :=
  match retired with
  | none => e = ⟨school.stellarAddress, school.syncCursor⟩
  | some _ => e ∈ school.walletHistory

/-- All addresses with their cursors, the current one first. -/
def SchoolWallets.slots (school : SchoolWallets) : List WalletEntry :=
  ⟨school.stellarAddress, school.syncCursor⟩ :: school.walletHistory

/-- No address was retired twice, so the one update of an entry finds the entry. -/
def SchoolWallets.RetiredOnce (school : SchoolWallets) : Prop :=
  (school.walletHistory.map (·.address)).Nodup

/-- No address occurs twice. -/
def SchoolWallets.Distinct (school : SchoolWallets) : Prop :=
  (school.slots.map (·.address)).Nodup

instance (school : SchoolWallets) : Decidable school.RetiredOnce := by
  unfold SchoolWallets.RetiredOnce; infer_instance

instance (school : SchoolWallets) : Decidable school.Distinct := by
  unfold SchoolWallets.Distinct; infer_instance

/-! ## A cycle -/

/-- The variables of a running cycle.  `pagesLeft` is what the page cap and the budget
still allow; `stale`, a ghost, whether a transaction came back `stale_lock`. -/
structure PollCycle where
  retired : Option WalletEntry
  address : String
  batchSize : Nat
  pagesLeft : Nat
  startCursor : Nat
  cursor : Nat
  stale : Bool

/-- Where a cycle is: before a page fetch, or on a page of `size` records with `records` still to
be examined. -/
inductive PollPc
  | fetching
  | page (records : List Nat) (size : Nat)

/-- A transaction that was examined, with the result of `processTransaction`; there is none for a
transaction from before the school's ingest start. -/
structure Examination where
  address : String
  token : Nat
  result : Option PollResult
  deriving DecidableEq, Repr

/-- The school document, the cycle under way, and two ghosts: the examinations so far and,
for each address, how many transactions its cycles could examine. -/
structure PollState where
  school : SchoolWallets
  worker : Option (PollCycle × PollPc)
  log : List Examination
  allowance : String → Nat

/-- What can happen next.  A fetch sees the part of the history the ledger has reached. -/
inductive PollAction
  | begin (retired : Option WalletEntry) (batchSize pages : Nat)
  | fetch (visible : Nat)
  | fetchFails
  | examine (result : PollResult)
  | persist (succeeds : Bool)
  | crash

section
variable (history : String → WalletHistory) (beforeIngestStart : String → Nat → Bool)
  (maxPages : Nat)

/-- The next page after a cursor. -/
def nextPage (c : PollCycle) (visible : Nat) : List Nat :=
  (after ((history c.address).tokens.take visible) c.cursor).take c.batchSize

/-- One step of the polling of a school. -/
def pollStep (s : PollState) : PollAction → Option PollState
  | .begin retired batchSize pages =>
    match s.worker with
    | some _ => none
    | none =>
      if 0 < batchSize ∧ pages ≤ maxPages ∧ ∀ e ∈ retired, e ∈ s.school.walletHistory then
        let slot := s.school.target retired
        some { s with
          worker := some (⟨retired, slot.address, batchSize, pages, slot.cursor, slot.cursor, false⟩,
            .fetching)
          allowance := Function.update s.allowance slot.address
            (s.allowance slot.address + batchSize * pages) }
      else none
  | .fetch visible =>
    match s.worker with
    | some (c, .fetching) =>
      if c.pagesLeft = 0 then some { s with worker := none }
      else
        let records := nextPage history c visible
        if records.isEmpty then some { s with worker := none }
        else some { s with worker := some ({ c with pagesLeft := c.pagesLeft - 1 },
            .page records records.length) }
    | _ => none
  | .fetchFails =>
    match s.worker with
    | some (_, .fetching) => some { s with worker := none }
    | _ => none
  | .examine result =>
    match s.worker with
    | some (c, .page (t :: records) size) =>
      if beforeIngestStart c.address t then
        some { s with
          worker := some ({ c with cursor := t }, .page records size)
          log := s.log ++ [⟨c.address, t, none⟩] }
      else if result = .threw then some { s with worker := none }
      else some { s with
          worker := some ({ c with
            cursor := t, stale := c.stale || result = .skipped .staleLock }, .page records size)
          log := s.log ++ [⟨c.address, t, some result⟩] }
    | _ => none
  | .persist succeeds =>
    match s.worker with
    | some (c, .page [] size) =>
      if c.cursor ≠ 0 ∧ c.cursor ≠ c.startCursor ∧ succeeds = false then
        some { s with worker := none }
      else
        let school := if c.cursor ≠ 0 ∧ c.cursor ≠ c.startCursor
          then s.school.persist c.retired c.cursor else s.school
        let worker := if size < c.batchSize then none else some (c, .fetching)
        some { s with school := school, worker := worker }
    | _ => none
  | .crash => some { s with worker := none }

/-- A school whose wallets nobody has polled yet. -/
def PollState.init (school : SchoolWallets) : PollState := ⟨school, none, [], fun _ => 0⟩

/-- The transaction was examined with a result that recorded money or found none. -/
def SettledIn (log : List Examination) (address : String) (t : Nat) : Prop :=
  ∃ e ∈ log, e.address = address ∧ e.token = t ∧ e.result ≠ some (.skipped .staleLock)

/-- The cursor of an address moved from that of `e₀` to that of `e` without a gap. -/
structure SlotGapFree (log : List Examination) (e₀ e : WalletEntry) : Prop where
  address : e.address = e₀.address
  token : e.cursor = e₀.cursor ∨ e.cursor ∈ (history e.address).tokens
  covered : Covered (history e.address).tokens (SettledIn log e.address) e₀.cursor e.cursor

/-- Every stored cursor is a token all of whose predecessors were examined. -/
def PollGapFree (school : SchoolWallets) (s : PollState) : Prop :=
  List.Forall₂ (SlotGapFree history s.log) school.slots s.school.slots

/-- No cursor is stored in a cycle in which a transaction came back `stale_lock`. -/
def PersistSafe (s : PollState) : PollAction → Prop
  | .persist _ => ∀ c pc, s.worker = some (c, pc) → c.stale = false
  | _ => True

/-! ## No gap -/

/-- What holds of a running cycle: the cursor in memory has no gap either, since the slot
that is polled, and the page is what comes next. -/
structure CycleInv (school : SchoolWallets) (s : PollState) (c : PollCycle) (pc : PollPc) : Prop where
  address : c.address = (s.school.target c.retired).address
  cursor : ∃ e₀, school.Polls c.retired e₀ ∧ e₀.address = c.address ∧
    (c.cursor = e₀.cursor ∨ c.cursor ∈ (history c.address).tokens) ∧
    (c.stale = false →
      Covered (history c.address).tokens (SettledIn s.log c.address) e₀.cursor c.cursor)
  page : ∀ records size, pc = .page records size →
    ∃ more, after (history c.address).tokens c.cursor = records ++ more

structure PollInv (school : SchoolWallets) (s : PollState) : Prop where
  slots : PollGapFree history school s
  worker : ∀ c pc, s.worker = some (c, pc) → CycleInv history school s c pc

variable {history beforeIngestStart maxPages}

theorem exists_left_of_forall₂ {R : WalletEntry → WalletEntry → Prop} {l₀ l : List WalletEntry}
    (h : List.Forall₂ R l₀ l) {e : WalletEntry} (he : e ∈ l) : ∃ e₀ ∈ l₀, R e₀ e := by
  induction h with
  | nil => cases he
  | cons hR _ ih =>
    rcases List.mem_cons.mp he with rfl | he
    · exact ⟨_, List.mem_cons_self .., hR⟩
    · obtain ⟨e₀, he₀, hR⟩ := ih he
      exact ⟨e₀, List.mem_cons_of_mem _ he₀, hR⟩

/-- A relation survives a new cursor if it does on every entry with the address. -/
theorem forall₂_setCursor {R : WalletEntry → WalletEntry → Prop} {address : String} {cursor : Nat}
    {l₀ l : List WalletEntry} (h : List.Forall₂ R l₀ l)
    (hset : ∀ e₀ ∈ l₀, ∀ e, R e₀ e → e.address = address → R e₀ { e with cursor := cursor }) :
    List.Forall₂ R l₀ (setCursor address cursor l) := by
  induction h with
  | nil => exact .nil
  | @cons e₀ e l₀ l hR _ ih =>
    unfold setCursor
    split
    · rename_i ha
      exact .cons (hset e₀ (List.mem_cons_self ..) e hR ha) ‹_›
    · exact .cons hR (ih fun e₀' he₀' => hset e₀' (List.mem_cons_of_mem _ he₀'))

theorem target_persist (school : SchoolWallets) (retired retired' : Option WalletEntry)
    (cursor : Nat) :
    ((school.persist retired cursor).target retired').address = (school.target retired').address := by
  cases retired <;> cases retired' <;> rfl

/-- A page is the beginning of what comes after the cursor. -/
theorem nextPage_append (c : PollCycle) (visible : Nat) :
    ∃ more, after (history c.address).tokens c.cursor = nextPage history c visible ++ more := by
  refine ⟨(after ((history c.address).tokens.take visible) c.cursor).drop c.batchSize ++
    after ((history c.address).tokens.drop visible) c.cursor, ?_⟩
  rw [nextPage, ← List.append_assoc, List.take_append_drop]
  simp only [after]
  rw [← List.filter_append, List.take_append_drop]

theorem PollInv.init (school : SchoolWallets) : PollInv history school (.init school) where
  slots := by
    refine List.forall₂_same.mpr fun e _ => ⟨rfl, Or.inl rfl, Covered.refl⟩
  worker := by intro c pc h; cases h

section
variable {school : SchoolWallets} {s : PollState}

theorem SettledIn.mono {log log' : List Examination} (hlog : log ⊆ log') {address : String} {t : Nat}
    (h : SettledIn log address t) : SettledIn log' address t := by
  obtain ⟨e, he, hsat⟩ := h
  exact ⟨e, hlog he, hsat⟩

/-- Examining more keeps what is settled. -/
theorem SlotGapFree.mono {log log' : List Examination} (hlog : log ⊆ log') {e₀ e : WalletEntry}
    (h : SlotGapFree history log e₀ e) : SlotGapFree history log' e₀ e :=
  ⟨h.address, h.token, h.covered.mono fun _ hs => hs.mono hlog⟩

namespace PollInv

/-- The cycle is over. -/
theorem idle (hinv : PollInv history school s) : PollInv history school { s with worker := none } :=
  ⟨hinv.slots, by intro c pc h; cases h⟩

/-- A transaction is examined. -/
theorem examines (hinv : PollInv history school s) {c : PollCycle} {t size : Nat}
    {records : List Nat} {result : Option PollResult} {stale : Bool}
    (hw : s.worker = some (c, .page (t :: records) size))
    (hstale : stale = false → c.stale = false ∧ result ≠ some (.skipped .staleLock)) :
    PollInv history school { s with
      worker := some ({ c with cursor := t, stale := stale }, .page records size)
      log := s.log ++ [⟨c.address, t, result⟩] } := by
  have hlog : s.log ⊆ s.log ++ [⟨c.address, t, result⟩] := List.subset_append_left ..
  obtain ⟨haddr, ⟨e₀, he₀, ha₀, -, hcov⟩, hpage⟩ := hinv.worker _ _ hw
  obtain ⟨more, hmore⟩ := hpage _ _ rfl
  obtain ⟨hafter, -, ht, honly⟩ := after_of_cons (history c.address).ascending hmore
  refine ⟨List.Forall₂.imp (fun _ _ hslot => hslot.mono hlog) hinv.slots, ?_⟩
  rintro _ _ ⟨⟩
  refine ⟨haddr, ⟨e₀, he₀, ha₀, Or.inr ht, fun hns => ?_⟩, ?_⟩
  · obtain ⟨hcs, hres⟩ := hstale hns
    refine ((hcov hcs).mono fun _ hs => hs.mono hlog).extend fun u hu hlt hle => ?_
    obtain rfl := honly u hu hlt hle
    exact ⟨_, List.mem_append_right _ (List.mem_singleton_self _), rfl, rfl, hres⟩
  · rintro _ _ ⟨⟩
    exact ⟨more, hafter⟩

/-- The cursor of a cycle without a stale result is stored. -/
theorem persists (hinv : PollInv history school s) (hd : school.RetiredOnce) {c : PollCycle}
    {pc : PollPc} (hw : s.worker = some (c, pc)) (hstale : c.stale = false) :
    PollGapFree history school { s with school := s.school.persist c.retired c.cursor } := by
  obtain ⟨haddr, ⟨e₀, hpolls, ha₀, htok, hcov⟩, -⟩ := hinv.worker _ _ hw
  obtain ⟨hcurrent, hretired⟩ := List.forall₂_cons.mp hinv.slots
  have hmoved : ∀ {e}, SlotGapFree history s.log e₀ e → e.address = c.address →
      SlotGapFree history s.log e₀ { e with cursor := c.cursor } := fun hslot hec =>
    ⟨hslot.address, by rw [hec]; exact htok, by rw [hec]; exact hcov hstale⟩
  cases hr : c.retired with
  | none =>
    rw [hr] at hpolls haddr
    obtain rfl : e₀ = ⟨school.stellarAddress, school.syncCursor⟩ := hpolls
    exact .cons (hmoved hcurrent haddr.symm) hretired
  | some r =>
    rw [hr] at hpolls haddr
    refine .cons hcurrent (forall₂_setCursor hretired fun e₁ he₁ e hslot hea => ?_)
    -- the entry that was polled is the only one with its address
    have hec : e.address = c.address := hea.trans haddr.symm
    obtain rfl : e₁ = e₀ :=
      List.inj_on_of_nodup_map hd he₁ hpolls (by rw [← hslot.address, hec, ha₀])
    exact hmoved hslot hec

/-- The cursor a cycle starts from is one of the school's. -/
theorem polls (hinv : PollInv history school s) {retired : Option WalletEntry}
    (hlisted : ∀ e ∈ retired, e ∈ s.school.walletHistory) :
    ∃ e₀, school.Polls retired e₀ ∧ SlotGapFree history s.log e₀ (s.school.target retired) := by
  obtain ⟨hcurrent, hretired⟩ := List.forall₂_cons.mp hinv.slots
  cases retired with
  | none => exact ⟨_, rfl, hcurrent⟩
  | some e => exact exists_left_of_forall₂ hretired (hlisted e rfl)

/-- A page ends: its cursor is stored if it moved, and a full page is followed by the
next one. -/
theorem persist (hinv : PollInv history school s) (hd : school.RetiredOnce) {succeeds : Bool}
    {s' : PollState} (hsafe : PersistSafe s (.persist succeeds))
    (hstep : pollStep history beforeIngestStart maxPages s (.persist succeeds) = some s') :
    PollInv history school s' := by
  simp only [pollStep] at hstep
  split at hstep
  · rename_i c size hw
    split at hstep <;> cases hstep
    · exact hinv.idle
    · have hslots : PollGapFree history school { s with
          school := if c.cursor ≠ 0 ∧ c.cursor ≠ c.startCursor
            then s.school.persist c.retired c.cursor else s.school } := by
        split
        · exact hinv.persists hd hw (hsafe c _ hw)
        · exact hinv.slots
      refine ⟨hslots, fun c' pc hw' => ?_⟩
      replace hw' : (if size < c.batchSize then none else some (c, PollPc.fetching)) =
        some (c', pc) := hw'
      split at hw' <;> cases hw'
      obtain ⟨haddr, hcursor, -⟩ := hinv.worker _ _ hw
      refine ⟨haddr.trans ?_, hcursor, by rintro _ _ ⟨⟩⟩
      dsimp only
      split
      · exact (target_persist ..).symm
      · rfl
  · cases hstep

/-- **One step keeps the invariant.** -/
theorem step (hinv : PollInv history school s) (hd : school.RetiredOnce) {a : PollAction}
    {s' : PollState} (hsafe : PersistSafe s a)
    (hstep : pollStep history beforeIngestStart maxPages s a = some s') :
    PollInv history school s' := by
  cases a with
  | begin retired batchSize pages =>
    simp only [pollStep] at hstep
    split at hstep
    · cases hstep
    split at hstep <;> cases hstep
    rename_i hidle hen
    obtain ⟨e₀, hpolls, hgap⟩ := hinv.polls hen.2.2
    refine ⟨hinv.slots, ?_⟩
    rintro _ _ ⟨⟩
    exact ⟨rfl, ⟨e₀, hpolls, hgap.address.symm, hgap.token, fun _ => hgap.covered⟩,
      by rintro _ _ ⟨⟩⟩
  | fetch visible =>
    simp only [pollStep] at hstep
    split at hstep
    · rename_i c hw
      split at hstep
      · cases hstep; exact hinv.idle
      split at hstep <;> cases hstep
      · exact hinv.idle
      · obtain ⟨haddr, hcursor, -⟩ := hinv.worker _ _ hw
        refine ⟨hinv.slots, ?_⟩
        rintro _ _ ⟨⟩
        exact ⟨haddr, hcursor, by rintro _ _ ⟨⟩; exact nextPage_append c visible⟩
    · cases hstep
  | fetchFails =>
    simp only [pollStep] at hstep
    split at hstep <;> cases hstep
    exact hinv.idle
  | examine result =>
    simp only [pollStep] at hstep
    split at hstep
    · rename_i c t records size hw
      split at hstep
      · cases hstep
        exact hinv.examines hw fun hs => ⟨hs, by simp⟩
      · split at hstep <;> cases hstep
        · exact hinv.idle
        · refine hinv.examines hw fun hs => ?_
          simpa using hs
    · cases hstep
  | persist succeeds => exact hinv.persist hd hsafe hstep
  | crash =>
    simp only [pollStep] at hstep
    cases hstep
    exact hinv.idle

end PollInv

end

end

end StellarEduPay

import StellarEduPay.PollCursor

/-! # Wallet rotation (`services/walletRotationService.js`, `services/transactionPollingService.js`)

A school that changes its payment address retires the old one into `walletHistory`, where
it keeps being polled from a cursor of its own.  Two endpoints rotate, each with a read of the
school, a call to Horizon and a write; a poll cycle works from the document it read when it
started and stores its cursors in the document that is there by then.  (`PollCursor` has the
cursors of a school that does not rotate.)

A transaction is known by its paging token.  Whatever ends a poll early apart from the page
cap (the budget, the lock, Horizon, an error while processing or storing) is one failure here.
-/
namespace StellarEduPay
open Function Runs Cursors

/-! ## The school's wallets -/

/-- An entry of `walletHistory`; a cursor of `0` is none. -/
structure RetiredWallet where
  address : String
  cursor : Nat
  drainUntil : Nat
  deriving DecidableEq, Repr

/-- What a school document says about its wallets. -/
structure WalletDocument where
  stellarAddress : String
  syncCursor : Nat
  walletHistory : List RetiredWallet
  ingestStartsAt : Option Nat
  deriving DecidableEq, Repr

/-- The paging tokens of the ledger so far. -/
structure Ledger where
  tokens : List Nat
  ascending : tokens.Pairwise (· < ·)
  positive : ∀ t ∈ tokens, 0 < t

/-- The last paging token. -/
def Ledger.position (ledger : Ledger) : Nat := ledger.tokens.getLast?.getD 0

theorem Ledger.le_position (ledger : Ledger) {t : Nat} (ht : t ∈ ledger.tokens) :
    t ≤ ledger.position := by
  have hasc := ledger.ascending
  rcases List.eq_nil_or_concat' ledger.tokens with hnil | ⟨front, last, hfront⟩
  · rw [hnil] at ht
    cases ht
  · rw [hfront] at ht hasc
    obtain ⟨-, -, hbefore⟩ := List.pairwise_append.mp hasc
    have hposition : ledger.position = last := by simp [Ledger.position, hfront]
    rw [hposition]
    rcases List.mem_append.mp ht with ht | ht
    · exact (hbefore t ht last (List.mem_singleton_self _)).le
    · exact (List.mem_singleton.mp ht).le

/-- A ledger closes with one more transaction. -/
def Ledger.close (ledger : Ledger) (t : Nat) (h : ledger.position < t) : Ledger where
  tokens := ledger.tokens ++ [t]
  ascending := by
    refine List.pairwise_append.mpr ⟨ledger.ascending, List.pairwise_singleton .., ?_⟩
    intro u hu v hv
    rw [List.mem_singleton.mp hv]
    exact (ledger.le_position hu).trans_lt h
  positive := by
    intro u hu
    rcases List.mem_append.mp hu with hu | hu
    · exact ledger.positive u hu
    · rw [List.mem_singleton.mp hu]
      omega

section
variable (createdAt : Nat → Nat) (accounts : Nat → List String)

/-- The transactions of an account. -/
def Ledger.history (ledger : Ledger) (address : String) : List Nat :=
  ledger.tokens.filter fun t => address ∈ accounts t

/-- The newest transaction of an account; an account without any has none. -/
def latestPagingToken (ledger : Ledger) (address : String) : Nat :=
  (ledger.history accounts address).getLast?.getD 0

/-- True when a transaction predates the school's ingest start point. -/
def isBeforeIngestStart (t : Nat) (school : WalletDocument) : Bool :=
  school.ingestStartsAt.any (createdAt t < ·)

/-- Retired addresses that are still inside their drain window; the schema requires both fields that
are looked at. -/
def drainingWalletEntries (school : WalletDocument) (now : Nat) : List WalletEntry :=
  (school.walletHistory.filter (now < ·.drainUntil)).map fun entry => ⟨entry.address, entry.cursor⟩

/-- The address is the school's wallet or is being drained. -/
def WalletDocument.Watches (school : WalletDocument) (now : Nat) (address : String) : Prop :=
  address = school.stellarAddress ∨ address ∈ (drainingWalletEntries school now).map (·.address)

instance (school : WalletDocument) (now : Nat) (address : String) :
    Decidable (school.Watches now address) :=
  inferInstanceAs (Decidable (_ ∨ _))

/-! ## Rotations -/

def walletDrainWindowMs : Nat := 7776000000

/-- What a rotation writes, apart from the dates that nothing here reads. -/
structure WalletRotation where
  retired : RetiredWallet
  syncCursor : Nat
  deriving DecidableEq, Repr

def buildWalletRotation (ledger : Ledger) (school : WalletDocument) (newAddress : String)
    (backfill : Bool) (now : Nat) : WalletRotation where
  retired := ⟨school.stellarAddress, school.syncCursor, now + walletDrainWindowMs⟩
  syncCursor := if backfill then 0 else latestPagingToken accounts ledger newAddress

/-- The two ways to rotate; only the dedicated one takes `backfill`. -/
inductive RotationEndpoint
  | rotateStellarAddress (backfill : Bool)
  | updateSchool
  deriving DecidableEq, Repr

def RotationEndpoint.backfill : RotationEndpoint → Bool
  | .rotateStellarAddress backfill => backfill
  | .updateSchool => false

/-- A rotation under way: the document it read and, once Horizon has answered, what it is going to
write. -/
structure RotationCall where
  endpoint : RotationEndpoint
  newAddress : String
  school : WalletDocument
  rotation : Option WalletRotation

/-- `save` sends a path only if its value is not the one that was read. -/
def savedPath {α : Type} [DecidableEq α] (read value stored : α) : α :=
  if value = read then stored else value

/-- What the write of a rotation makes of the document that is stored by then.  The address is
known to differ from the one read, so both endpoints send it. -/
def RotationCall.write (call : RotationCall) (rotation : WalletRotation) (startsAt : Nat)
    (stored : WalletDocument) : WalletDocument :=
  match call.endpoint with
  | .rotateStellarAddress _ =>
    { stellarAddress := call.newAddress
      syncCursor := savedPath call.school.syncCursor rotation.syncCursor stored.syncCursor
      walletHistory := stored.walletHistory ++ [rotation.retired]
      ingestStartsAt := savedPath call.school.ingestStartsAt (some startsAt) stored.ingestStartsAt }
  | .updateSchool =>
    { stored with
      stellarAddress := call.newAddress
      syncCursor := rotation.syncCursor
      walletHistory := stored.walletHistory ++ [rotation.retired] }

/-! ## Poll cycles -/

/-- How a query hands out documents: as plain objects with `lean`, else as Mongoose documents, whose
paths are getters of the prototype.  `pollAllSchools` reads hydrated documents. -/
inductive DocumentKind
  | lean
  | hydrated
  deriving DecidableEq, Repr

/-- The school as `processTransaction` gets it. -/
structure PollScope where
  schoolId : Option String
  stellarAddress : String
  deriving DecidableEq, Repr

/-- `{ ...school }.schoolId`: a spread copies own properties, and the getters of a Mongoose document
are none. -/
def spreadSchoolId (kind : DocumentKind) (schoolId : String) : Option String :=
  match kind with
  | .lean => some schoolId
  | .hydrated => none

def pollScope (kind : DocumentKind) (schoolId : String) (school : WalletDocument) :
    Option WalletEntry → PollScope
  | none => ⟨some schoolId, school.stellarAddress⟩
  | some retired => ⟨spreadSchoolId kind schoolId, retired.address⟩

/-- The variables of `pollSchoolTransactions`. -/
structure WalletPoll where
  retired : Option WalletEntry
  scope : PollScope
  startCursor : Nat
  cursor : Nat
  pagesLeft : Nat
  deriving DecidableEq

/-- Where a cycle is: before a page fetch, on a page of `size` records with `records` still to be
examined, or between two polls. -/
inductive CyclePc
  | fetching (poll : WalletPoll)
  | page (poll : WalletPoll) (records : List Nat) (size : Nat)
  | between
  deriving DecidableEq

def CyclePc.poll : CyclePc → Option WalletPoll
  | .fetching poll | .page poll _ _ => some poll
  | .between => none

/-- A run of `pollSchoolWithDrainingAddresses` on the document it was given.  There is no `todo`
before the current wallet is done; `complete` says that no poll ended before the end of its
address's history. -/
structure SchoolCycle where
  school : WalletDocument
  pc : CyclePc
  todo : Option (List WalletEntry)
  complete : Bool
  deriving DecidableEq

/-- The cycle has read the current wallet and every draining address to the end. -/
def SchoolCycle.ReadToEnd (c : SchoolCycle) : Prop :=
  c.pc = .between ∧ c.todo = some [] ∧ c.complete = true

instance (c : SchoolCycle) : Decidable c.ReadToEnd :=
  inferInstanceAs (Decidable (_ ∧ _ ∧ _))

def baseTransactionsPerPoll : Nat := 20

/-- The next page of an address after a cursor. -/
def nextRecords (ledger : Ledger) (poll : WalletPoll) : List Nat :=
  (after (ledger.history accounts poll.scope.stellarAddress) poll.cursor).take
    baseTransactionsPerPoll

/-- Store the cursor of a poll: `syncCursor`, or the cursor of the first entry of the retired
address (`'walletHistory.$.cursor'`). -/
def setRetiredCursor (address : String) (cursor : Nat) : List RetiredWallet → List RetiredWallet
  | [] => []
  | e :: es =>
    if e.address = address then { e with cursor := cursor } :: es
    else e :: setRetiredCursor address cursor es

def WalletDocument.storeCursor (school : WalletDocument) (poll : WalletPoll) : WalletDocument :=
  match poll.retired with
  | none => { school with syncCursor := poll.cursor }
  | some retired =>
    { school with
      walletHistory := setRetiredCursor retired.address poll.cursor school.walletHistory }

/-- The poll has a cursor to store. -/
def WalletPoll.moved (poll : WalletPoll) : Bool :=
  poll.cursor ≠ 0 ∧ poll.cursor ≠ poll.startCursor

section
variable (kind : DocumentKind) (schoolId : String) (maxPages : Nat)

def startPoll (school : WalletDocument) (retired : Option WalletEntry) : WalletPoll :=
  let cursor := match retired with
    | none => school.syncCursor
    | some entry => entry.cursor
  ⟨retired, pollScope kind schoolId school retired, cursor, cursor, maxPages⟩

def SchoolCycle.start (school : WalletDocument) : SchoolCycle :=
  ⟨school, .fetching (startPoll kind schoolId maxPages school none), none, true⟩

/-- The poll under way is over. -/
def SchoolCycle.ended (c : SchoolCycle) (drained : Bool) : SchoolCycle :=
  { c with pc := .between, complete := c.complete && drained }

def SchoolCycle.fetch (ledger : Ledger) (c : SchoolCycle) (poll : WalletPoll) : SchoolCycle :=
  if poll.pagesLeft = 0 then c.ended false
  else
    let records := nextRecords accounts ledger poll
    if records.isEmpty then c.ended true
    else { c with pc := .page { poll with pagesLeft := poll.pagesLeft - 1 } records records.length }

/-- After a page: a short one was the last. -/
def SchoolCycle.pageDone (c : SchoolCycle) (poll : WalletPoll) (size : Nat) : SchoolCycle :=
  if size < baseTransactionsPerPoll then c.ended true else { c with pc := .fetching poll }

/-- The addresses still to be polled; the draining ones are read off the document after the current
wallet was polled. -/
def SchoolCycle.remaining (c : SchoolCycle) (now : Nat) : List WalletEntry :=
  c.todo.getD (drainingWalletEntries c.school now)

def SchoolCycle.next (c : SchoolCycle) (now : Nat) : SchoolCycle :=
  match c.remaining now with
  | [] => { c with todo := some [] }
  | entry :: rest =>
    { c with
      pc := .fetching (startPoll kind schoolId maxPages c.school (some entry))
      todo := some rest }

/-! ## The system -/

/-- The clock, the ledger and the school document, what each poller and each rotation is doing, and
two ghosts: the transactions that reached an address while it was watched (with `backfill`, also
the new address's earlier ones), and the calls of `processTransaction`. -/
structure WalletSystem where
  now : Nat
  ledger : Ledger
  school : WalletDocument
  cycles : Nat → Option SchoolCycle
  rotations : Nat → Option RotationCall
  owed : List (Nat × String)
  handed : List (PollScope × Nat)

/-- What can happen next. -/
inductive WalletAction
  | tick (now : Nat)
  | arrive (t : Nat)
  | begin (w : Nat)
  | fetch (w : Nat)
  | examine (w : Nat)
  | store (w : Nat)
  | fail (w : Nat)
  | next (w : Nat)
  | leave (w : Nat)
  | read (r : Nat) (endpoint : RotationEndpoint) (newAddress : String)
  | build (r : Nat)
  | write (r : Nat) (startsAt : Nat)
  | abandon (r : Nat)
  deriving DecidableEq

def WalletSystem.setCycle (s : WalletSystem) (w : Nat) (c : SchoolCycle) : WalletSystem :=
  { s with cycles := update s.cycles w (some c) }

def WalletSystem.setCall (s : WalletSystem) (r : Nat) (call : RotationCall) : WalletSystem :=
  { s with rotations := update s.rotations r (some call) }

/-- What a transaction that arrives is owed for. -/
def WalletSystem.arrivals (s : WalletSystem) (t : Nat) : List (Nat × String) :=
  ((accounts t).filter (s.school.Watches s.now ·)).map (t, ·)

/-- What a rotation with `backfill` is to read in. -/
def WalletSystem.backfilled (s : WalletSystem) (call : RotationCall) : List (Nat × String) :=
  if call.endpoint.backfill then
    (s.ledger.history accounts call.newAddress).map (·, call.newAddress)
  else []

/-- One step of the school's pollers, its rotations and the ledger. -/
def walletStep (s : WalletSystem) : WalletAction → Option WalletSystem
  | .tick now => if s.now ≤ now then some { s with now := now } else none
  | .arrive t =>
    if h : s.ledger.position < t then
      some { s with ledger := s.ledger.close t h, owed := s.owed ++ s.arrivals accounts t }
    else none
  | .begin w =>
    match s.cycles w with
    | none => some (s.setCycle w (.start kind schoolId maxPages s.school))
    | some _ => none
  | .fetch w =>
    match s.cycles w with
    | some c =>
      match c.pc with
      | .fetching poll => some (s.setCycle w (c.fetch accounts s.ledger poll))
      | _ => none
    | none => none
  | .examine w =>
    match s.cycles w with
    | some c =>
      match c.pc with
      | .page poll (t :: records) size =>
        let examined := s.setCycle w { c with pc := .page { poll with cursor := t } records size }
        if isBeforeIngestStart createdAt t c.school then some examined
        else some { examined with handed := s.handed ++ [(poll.scope, t)] }
      | _ => none
    | none => none
  | .store w =>
    match s.cycles w with
    | some c =>
      match c.pc with
      | .page poll [] size =>
        some { s.setCycle w (c.pageDone poll size) with
          school := if poll.moved then s.school.storeCursor poll else s.school }
      | _ => none
    | none => none
  | .fail w =>
    match s.cycles w with
    | some c => if c.pc = .between then none else some (s.setCycle w (c.ended false))
    | none => none
  | .next w =>
    match s.cycles w with
    | some c =>
      if c.pc = .between then some (s.setCycle w (c.next kind schoolId maxPages s.now)) else none
    | none => none
  | .leave w => some { s with cycles := update s.cycles w none }
  | .read r endpoint newAddress =>
    if s.rotations r = none ∧ newAddress ≠ s.school.stellarAddress then
      some (s.setCall r ⟨endpoint, newAddress, s.school, none⟩)
    else none
  | .build r =>
    match s.rotations r with
    | some call =>
      some (s.setCall r { call with
        rotation := some (buildWalletRotation accounts s.ledger call.school call.newAddress
          call.endpoint.backfill s.now) })
    | none => none
  | .write r startsAt =>
    match s.rotations r with
    | some call =>
      match call.rotation with
      | some rotation =>
        some { s with
          school := call.write rotation startsAt s.school
          rotations := update s.rotations r none
          owed := s.owed ++ s.backfilled accounts call }
      | none => none
    | none => none
  | .abandon r => some { s with rotations := update s.rotations r none }

/-- The start: nothing has been asked of the school yet. -/
def WalletSystem.init (now : Nat) (ledger : Ledger) (school : WalletDocument) : WalletSystem :=
  ⟨now, ledger, school, fun _ => none, fun _ => none, [], []⟩

/-- The transaction was handed to `processTransaction` with the school's id and the address. -/
def HandedOver (s : WalletSystem) (x : Nat × String) : Prop :=
  (⟨some schoolId, x.2⟩, x.1) ∈ s.handed

instance (s : WalletSystem) (x : Nat × String) : Decidable (HandedOver schoolId s x) :=
  inferInstanceAs (Decidable (_ ∈ _))

end

end

/-! ## What the operations leave -/

section
variable {createdAt : Nat → Nat} {accounts : Nat → List String}

theorem mem_history {ledger : Ledger} {address : String} {t : Nat} :
    t ∈ ledger.history accounts address ↔ t ∈ ledger.tokens ∧ address ∈ accounts t := by
  simp [Ledger.history]

theorem history_ascending (ledger : Ledger) (address : String) :
    (ledger.history accounts address).Pairwise (· < ·) :=
  ledger.ascending.filter _

/-- A position of an account is one of the ledger. -/
theorem latestPagingToken_le (ledger : Ledger) (address : String) :
    latestPagingToken accounts ledger address ≤ ledger.position := by
  unfold latestPagingToken
  cases hlast : (ledger.history accounts address).getLast? with
  | none => exact Nat.zero_le _
  | some t => exact ledger.le_position (mem_history.mp (List.mem_of_getLast? hlast)).1

/-- A page is the beginning of what comes after the cursor. -/
theorem nextRecords_append (ledger : Ledger) (poll : WalletPoll) :
    ∃ more, after (ledger.history accounts poll.scope.stellarAddress) poll.cursor =
      nextRecords accounts ledger poll ++ more :=
  ⟨_, (List.take_append_drop ..).symm⟩

theorem mem_drainingWalletEntries {school : WalletDocument} {now : Nat} {slot : WalletEntry} :
    slot ∈ drainingWalletEntries school now ↔
      ∃ e ∈ school.walletHistory, now < e.drainUntil ∧ (⟨e.address, e.cursor⟩ : WalletEntry) = slot := by
  simp [drainingWalletEntries, and_assoc]

/-- A poll stores over the one entry it finds; all others stay. -/
theorem mem_setRetiredCursor {address : String} {cursor : Nat} {e : RetiredWallet} :
    ∀ {entries : List RetiredWallet}, e ∈ entries →
      e ∈ setRetiredCursor address cursor entries ∨
        (entries.find? (·.address = address) = some e ∧
          { e with cursor := cursor } ∈ setRetiredCursor address cursor entries)
  | e' :: es, he => by
      unfold setRetiredCursor
      by_cases ha : e'.address = address
      · rw [if_pos ha]
        rcases List.mem_cons.mp he with rfl | he
        · exact Or.inr ⟨by simp [ha], List.mem_cons_self ..⟩
        · exact Or.inl (List.mem_cons_of_mem _ he)
      · rw [if_neg ha]
        rcases List.mem_cons.mp he with rfl | he
        · exact Or.inl (List.mem_cons_self ..)
        · rcases mem_setRetiredCursor he with h | ⟨hfind, h⟩
          · exact Or.inl (List.mem_cons_of_mem _ h)
          · exact Or.inr ⟨by simpa [List.find?_cons, ha] using hfind, List.mem_cons_of_mem _ h⟩

/-- The entries after a store are those before, one of them perhaps with the new cursor. -/
theorem setRetiredCursor_mem {address : String} {cursor : Nat} {e : RetiredWallet} :
    ∀ {entries : List RetiredWallet}, e ∈ setRetiredCursor address cursor entries →
      e ∈ entries ∨ e.cursor = cursor
  | e' :: es, he => by
      unfold setRetiredCursor at he
      split at he
      · rcases List.mem_cons.mp he with rfl | he
        · exact Or.inr rfl
        · exact Or.inl (List.mem_cons_of_mem _ he)
      · rcases List.mem_cons.mp he with rfl | he
        · exact Or.inl (List.mem_cons_self ..)
        · rcases setRetiredCursor_mem he with h | h
          · exact Or.inl (List.mem_cons_of_mem _ h)
          · exact Or.inr h

theorem storeCursor_windows (school : WalletDocument) (poll : WalletPoll) :
    ∀ e ∈ school.walletHistory,
      ∃ e' ∈ (school.storeCursor poll).walletHistory, e'.drainUntil = e.drainUntil := by
  intro e he
  cases hr : poll.retired with
  | none => exact ⟨e, by simpa [WalletDocument.storeCursor, hr] using he, rfl⟩
  | some retired =>
    simp only [WalletDocument.storeCursor, hr]
    rcases @mem_setRetiredCursor retired.address poll.cursor e _ he with h | ⟨-, h⟩
    · exact ⟨e, h, rfl⟩
    · exact ⟨_, h, rfl⟩

/-- The entries after a store are those before, or have the cursor of the poll. -/
theorem storeCursor_entries {school : WalletDocument} {poll : WalletPoll} {e : RetiredWallet}
    (he : e ∈ (school.storeCursor poll).walletHistory) :
    e ∈ school.walletHistory ∨ e.cursor = poll.cursor := by
  unfold WalletDocument.storeCursor at he
  split at he
  · exact Or.inl he
  · exact setRetiredCursor_mem he

theorem storeCursor_current (school : WalletDocument) (poll : WalletPoll) :
    (school.storeCursor poll).syncCursor = school.syncCursor ∨
      (school.storeCursor poll).syncCursor = poll.cursor := by
  unfold WalletDocument.storeCursor
  split
  · exact Or.inr rfl
  · exact Or.inl rfl

@[simp] theorem isBeforeIngestStart_storeCursor (school : WalletDocument) (poll : WalletPoll)
    (t : Nat) :
    isBeforeIngestStart createdAt t (school.storeCursor poll) =
      isBeforeIngestStart createdAt t school := by
  unfold WalletDocument.storeCursor
  split <;> rfl

theorem write_stellarAddress (call : RotationCall) (rotation : WalletRotation) (startsAt : Nat)
    (school : WalletDocument) :
    (call.write rotation startsAt school).stellarAddress = call.newAddress := by
  unfold RotationCall.write
  split <;> rfl

theorem write_walletHistory (call : RotationCall) (rotation : WalletRotation) (startsAt : Nat)
    (school : WalletDocument) :
    (call.write rotation startsAt school).walletHistory =
      school.walletHistory ++ [rotation.retired] := by
  unfold RotationCall.write
  split <;> rfl

/-- The new cursor is the one Horizon gave, or the one that is there. -/
theorem write_syncCursor (call : RotationCall) (rotation : WalletRotation) (startsAt : Nat)
    (school : WalletDocument) :
    (call.write rotation startsAt school).syncCursor = rotation.syncCursor ∨
      (call.write rotation startsAt school).syncCursor = school.syncCursor := by
  unfold RotationCall.write
  split
  · dsimp only [savedPath]
    split
    · exact Or.inr rfl
    · exact Or.inl rfl
  · exact Or.inl rfl

end

/-! ## What a step can do -/

section
variable (createdAt : Nat → Nat) (accounts : Nat → List String) (kind : DocumentKind)
  (schoolId : String) (maxPages : Nat)

/-- What each action finds and does. -/
inductive WalletMove (s : WalletSystem) : WalletAction → WalletSystem → Prop
  | tick {now : Nat} : s.now ≤ now → WalletMove s (.tick now) { s with now := now }
  | arrive {t : Nat} (h : s.ledger.position < t) : WalletMove s (.arrive t) { s with
      ledger := s.ledger.close t h, owed := s.owed ++ s.arrivals accounts t }
  | begin {w : Nat} : s.cycles w = none →
      WalletMove s (.begin w) (s.setCycle w (.start kind schoolId maxPages s.school))
  | fetch {w : Nat} {c : SchoolCycle} {poll : WalletPoll} :
      s.cycles w = some c → c.pc = .fetching poll →
      WalletMove s (.fetch w) (s.setCycle w (c.fetch accounts s.ledger poll))
  | skip {w t size : Nat} {records : List Nat} {c : SchoolCycle} {poll : WalletPoll} :
      s.cycles w = some c → c.pc = .page poll (t :: records) size →
      isBeforeIngestStart createdAt t c.school = true →
      WalletMove s (.examine w)
        (s.setCycle w { c with pc := .page { poll with cursor := t } records size })
  | hand {w t size : Nat} {records : List Nat} {c : SchoolCycle} {poll : WalletPoll} :
      s.cycles w = some c → c.pc = .page poll (t :: records) size →
      WalletMove s (.examine w)
        { s.setCycle w { c with pc := .page { poll with cursor := t } records size } with
          handed := s.handed ++ [(poll.scope, t)] }
  | store {w size : Nat} {c : SchoolCycle} {poll : WalletPoll} :
      s.cycles w = some c → c.pc = .page poll [] size →
      WalletMove s (.store w) { s.setCycle w (c.pageDone poll size) with
        school := if poll.moved then s.school.storeCursor poll else s.school }
  | fail {w : Nat} {c : SchoolCycle} : s.cycles w = some c →
      WalletMove s (.fail w) (s.setCycle w (c.ended false))
  | next {w : Nat} {c : SchoolCycle} : s.cycles w = some c → c.pc = .between →
      WalletMove s (.next w) (s.setCycle w (c.next kind schoolId maxPages s.now))
  | leave {w : Nat} : WalletMove s (.leave w) { s with cycles := update s.cycles w none }
  | read {r : Nat} {endpoint : RotationEndpoint} {newAddress : String} :
      WalletMove s (.read r endpoint newAddress)
        (s.setCall r ⟨endpoint, newAddress, s.school, none⟩)
  | build {r : Nat} {call : RotationCall} : s.rotations r = some call →
      WalletMove s (.build r) (s.setCall r { call with
        rotation := some (buildWalletRotation accounts s.ledger call.school call.newAddress
          call.endpoint.backfill s.now) })
  | write {r startsAt : Nat} {call : RotationCall} {rotation : WalletRotation} :
      s.rotations r = some call → call.rotation = some rotation →
      WalletMove s (.write r startsAt) { s with
        school := call.write rotation startsAt s.school
        rotations := update s.rotations r none
        owed := s.owed ++ s.backfilled accounts call }
  | abandon {r : Nat} :
      WalletMove s (.abandon r) { s with rotations := update s.rotations r none }

variable {createdAt accounts kind schoolId maxPages} {s s' : WalletSystem}

/-- A step is one of the moves. -/
theorem walletStep_move {a : WalletAction}
    (h : walletStep createdAt accounts kind schoolId maxPages s a = some s') :
    WalletMove createdAt accounts kind schoolId maxPages s a s' := by
  cases a with
  | tick now =>
    simp only [walletStep] at h
    split at h <;> cases h
    exact .tick ‹_›
  | arrive t =>
    simp only [walletStep] at h
    split at h <;> cases h
    exact .arrive _
  | begin w =>
    simp only [walletStep] at h
    split at h <;> cases h
    exact .begin ‹_›
  | fetch w =>
    simp only [walletStep] at h
    split at h
    · split at h <;> cases h
      exact .fetch ‹_› ‹_›
    · cases h
  | examine w =>
    simp only [walletStep] at h
    split at h
    · split at h
      · split at h <;> cases h
        · exact .skip ‹_› ‹_› ‹_›
        · exact .hand ‹_› ‹_›
      · cases h
    · cases h
  | store w =>
    simp only [walletStep] at h
    split at h
    · split at h <;> cases h
      exact .store ‹_› ‹_›
    · cases h
  | fail w =>
    simp only [walletStep] at h
    split at h
    · split at h <;> cases h
      exact .fail ‹_›
    · cases h
  | next w =>
    simp only [walletStep] at h
    split at h
    · split at h <;> cases h
      exact .next ‹_› ‹_›
    · cases h
  | leave w =>
    cases h
    exact .leave
  | read r endpoint newAddress =>
    simp only [walletStep] at h
    split at h <;> cases h
    exact .read
  | build r =>
    simp only [walletStep] at h
    split at h <;> cases h
    exact .build ‹_›
  | write r startsAt =>
    simp only [walletStep] at h
    split at h
    · split at h <;> cases h
      exact .write ‹_› ‹_›
    · cases h
  | abandon r =>
    cases h
    exact .abandon

theorem mem_backfilled {call : RotationCall} {x : Nat × String}
    (hx : x ∈ s.backfilled accounts call) :
    x.2 = call.newAddress ∧ x.1 ∈ s.ledger.history accounts x.2 := by
  unfold WalletSystem.backfilled at hx
  split at hx
  · obtain ⟨t, ht, rfl⟩ := List.mem_map.mp hx
    exact ⟨rfl, ht⟩
  · cases hx

theorem mem_arrivals {t : Nat} {x : Nat × String} (hx : x ∈ s.arrivals accounts t) :
    x.1 = t ∧ x.2 ∈ accounts t := by
  obtain ⟨address, ha, rfl⟩ := List.mem_map.mp hx
  exact ⟨rfl, (List.mem_filter.mp ha).1⟩

/-- What no step takes back. -/
structure WalletSystem.Grows (s s' : WalletSystem) : Prop where
  ledger : ∃ new, s'.ledger.tokens = s.ledger.tokens ++ new ∧ ∀ t ∈ new, s.ledger.position < t
  handed : s.handed ⊆ s'.handed
  owed : s.owed ⊆ s'.owed
  windows : ∀ e ∈ s.school.walletHistory,
    ∃ e' ∈ s'.school.walletHistory, e'.drainUntil = e.drainUntil

namespace WalletSystem

theorem Grows.of_eq (hl : s'.ledger = s.ledger) (hh : s.handed ⊆ s'.handed) (ho : s'.owed = s.owed)
    (hs : s'.school = s.school) : s.Grows s' where
  ledger := ⟨[], by simp [hl], by simp⟩
  handed := hh
  owed := by simp [ho]
  windows := by
    rw [hs]
    exact fun e he => ⟨e, he, rfl⟩

theorem Grows.position_le (h : s.Grows s') : s.ledger.position ≤ s'.ledger.position := by
  obtain ⟨new, htokens, hnew⟩ := h.ledger
  rcases List.eq_nil_or_concat new with rfl | ⟨front, last, rfl⟩
  · simp [Ledger.position, htokens]
  · have hlast : s.ledger.position < last := hnew last (by simp)
    have hposition : s'.ledger.position = last := by simp [Ledger.position, htokens]
    omega

theorem Grows.history (h : s.Grows s') (address : String) :
    ∃ new, s'.ledger.history accounts address = s.ledger.history accounts address ++ new ∧
      ∀ t ∈ new, s.ledger.position < t := by
  obtain ⟨new, htokens, hnew⟩ := h.ledger
  refine ⟨new.filter fun t => address ∈ accounts t, ?_, fun t ht => hnew t (List.mem_filter.mp ht).1⟩
  simp [Ledger.history, htokens]

end WalletSystem

/-- Nothing is taken back. -/
theorem WalletMove.grows {a : WalletAction}
    (h : WalletMove createdAt accounts kind schoolId maxPages s a s') : s.Grows s' := by
  cases h with
  | arrive ht =>
    exact ⟨⟨_, rfl, by simpa using ht⟩, List.Subset.refl _, List.subset_append_left ..,
      fun e he => ⟨e, he, rfl⟩⟩
  | hand => exact .of_eq rfl (List.subset_append_left ..) rfl rfl
  | @store w size c poll =>
    refine ⟨⟨[], by simp [WalletSystem.setCycle], by simp⟩, List.Subset.refl _,
      List.Subset.refl _, ?_⟩
    dsimp only
    split
    · exact storeCursor_windows s.school poll
    · exact fun e he => ⟨e, he, rfl⟩
  | write =>
    refine ⟨⟨[], by simp, by simp⟩, List.Subset.refl _, List.subset_append_left .., fun e he => ?_⟩
    dsimp only
    rw [write_walletHistory]
    exact ⟨e, List.mem_append_left _ he, rfl⟩
  | _ => exact .of_eq rfl (List.Subset.refl _) rfl rfl

theorem HandedOver.mono (h : s.Grows s') {x : Nat × String} (hx : HandedOver schoolId s x) :
    HandedOver schoolId s' x :=
  h.handed hx

end

end StellarEduPay

import StellarEduPay.WalletRotation

/-! # Payments around a wallet rotation

Which payments a rotation loses, and which runs lose none.  What a poll hands over with the
school's id comes from a slot: the current wallet, or a draining address if the spread of the
document keeps the id.  A payment is safe as long as it lies ahead of a slot of its address
and not before the ingest start.
-/
namespace StellarEduPay
open Function Runs Cursors

section
variable (createdAt : Nat → Nat) (accounts : Nat → List String) (kind : DocumentKind)
  (schoolId : String) (maxPages : Nat)

/-- The slots from which polls hand transactions over with the school's id. -/
def handingSlots (school : WalletDocument) (now : Nat) : List WalletEntry :=
  ⟨school.stellarAddress, school.syncCursor⟩ ::
    match kind with
    | .lean => drainingWalletEntries school now
    | .hydrated => []

/-- The transaction lies ahead of a slot of its address. -/
def AheadOfSlot (school : WalletDocument) (now : Nat) (x : Nat × String) : Prop :=
  ∃ slot ∈ handingSlots kind school now, slot.address = x.2 ∧ slot.cursor < x.1

/-- The slot a poll is about to overwrite. -/
def overwrittenSlot (school : WalletDocument) (poll : WalletPoll) : Option WalletEntry :=
  if poll.moved then
    match poll.retired, kind with
    | none, _ => some ⟨school.stellarAddress, school.syncCursor⟩
    | some retired, .lean =>
      (school.walletHistory.find? (·.address = retired.address)).map fun e => ⟨e.address, e.cursor⟩
    | some _, .hydrated => none
  else none

/-- A poll moves a slot past a payment that is still to be handed over only if it has read it: it
polled the address, started before the payment and does not take it for one from before the
ingest start. -/
def StoreSafe (s : WalletSystem) (c : SchoolCycle) (poll : WalletPoll) : Prop :=
  ∀ slot ∈ overwrittenSlot kind s.school poll, ∀ x ∈ s.owed,
    x.2 = slot.address → slot.cursor < x.1 → x.1 ≤ poll.cursor → HandedOver schoolId s x ∨
      (poll.scope.stellarAddress = x.2 ∧ poll.startCursor < x.1 ∧
        isBeforeIngestStart createdAt x.1 c.school = false)

/-- What a rotation's write must find of the payments that are still to be handed over: none is from
before the new ingest start; those ahead of the replaced wallet are ahead of the entry it
pushes, whose polls hand them over; and the history it is to read in is ahead of the new cursor.
The drain window of the entry has not passed. -/
structure RotationWriteSafe (s : WalletSystem) (call : RotationCall) (rotation : WalletRotation)
    (startsAt : Nat) : Prop where
  ingest : ∀ x ∈ s.owed ++ s.backfilled accounts call, HandedOver schoolId s x ∨
    isBeforeIngestStart createdAt x.1 (call.write rotation startsAt s.school) = false
  retired : ∀ x ∈ s.owed, x.2 = s.school.stellarAddress → s.school.syncCursor < x.1 →
    HandedOver schoolId s x ∨
      (kind = .lean ∧ rotation.retired.address = x.2 ∧ rotation.retired.cursor < x.1)
  history : ∀ x ∈ s.backfilled accounts call, HandedOver schoolId s x ∨
    (call.write rotation startsAt s.school).syncCursor < x.1
  window : s.now < rotation.retired.drainUntil

/-- The steps that lose no payment.  No drain window passes; a payment arrives at an address whose
polls hand it over, and not from before the ingest start; cursors and rotations are written when
that is safe. -/
def WalletSafe (s : WalletSystem) : WalletAction → Prop
  | .tick now => ∀ e ∈ s.school.walletHistory, s.now < e.drainUntil → now < e.drainUntil
  | .arrive t => ∀ x ∈ s.arrivals accounts t,
      x.2 ∈ (handingSlots kind s.school s.now).map (·.address) ∧
        isBeforeIngestStart createdAt t s.school = false
  | .store w => ∀ c ∈ s.cycles w, ∀ poll ∈ c.pc.poll, StoreSafe createdAt kind schoolId s c poll
  | .write r startsAt => ∀ call ∈ s.rotations r, ∀ rotation ∈ call.rotation,
      RotationWriteSafe createdAt accounts kind schoolId s call rotation startsAt
  | _ => True

instance (s : WalletSystem) (c : SchoolCycle) (poll : WalletPoll) :
    Decidable (StoreSafe createdAt kind schoolId s c poll) :=
  inferInstanceAs (Decidable (∀ slot ∈ overwrittenSlot kind s.school poll, ∀ x ∈ s.owed, _))

instance (s : WalletSystem) (call : RotationCall) (rotation : WalletRotation) (startsAt : Nat) :
    Decidable (RotationWriteSafe createdAt accounts kind schoolId s call rotation startsAt) :=
  decidable_of_iff (_ ∧ _ ∧ _ ∧ _)
    ⟨fun ⟨hi, hr, hh, hw⟩ => ⟨hi, hr, hh, hw⟩, fun h => ⟨h.ingest, h.retired, h.history, h.window⟩⟩

instance (s : WalletSystem) (a : WalletAction) :
    Decidable (WalletSafe createdAt accounts kind schoolId s a) := by
  cases a <;> unfold WalletSafe <;> infer_instance

/-! ## The invariant -/

/-- What holds of a running poll: up to its cursor it has handed over or skipped everything since its
start, and the rest of its page is what comes next. -/
structure PollReads (s : WalletSystem) (c : SchoolCycle) (poll : WalletPoll) : Prop where
  scope : poll.scope = pollScope kind schoolId c.school poll.retired
  reached : poll.cursor ≤ s.ledger.position
  covered : Covered (s.ledger.history accounts poll.scope.stellarAddress)
    (fun t => (poll.scope, t) ∈ s.handed ∨ isBeforeIngestStart createdAt t c.school = true)
    poll.startCursor poll.cursor
  page : ∀ records size, c.pc = .page poll records size →
    ∃ more, after (s.ledger.history accounts poll.scope.stellarAddress) poll.cursor = records ++ more

/-- What holds of a running cycle. -/
structure SchoolCycleInv (s : WalletSystem) (c : SchoolCycle) : Prop where
  current : c.school.syncCursor ≤ s.ledger.position
  retired : ∀ e ∈ c.school.walletHistory, e.cursor ≤ s.ledger.position
  todo : ∀ entries, c.todo = some entries → ∀ e ∈ entries, e.cursor ≤ s.ledger.position
  windows : ∀ e ∈ c.school.walletHistory,
    ∃ e' ∈ s.school.walletHistory, e'.drainUntil = e.drainUntil
  poll : ∀ poll, c.pc.poll = some poll → PollReads createdAt accounts kind schoolId s c poll

/-- What holds of a rotation under way: it retires the wallet it read, and starts from a position of
the ledger. -/
structure RotationInv (s : WalletSystem) (call : RotationCall) : Prop where
  read : call.school.syncCursor ≤ s.ledger.position
  built : ∀ rotation, call.rotation = some rotation →
    rotation.retired.cursor ≤ s.ledger.position ∧ rotation.syncCursor ≤ s.ledger.position

/-- **No payment is lost**: each one owed has been handed over, or lies ahead of a slot of its
address and not before the ingest start. -/
structure WalletInv (s : WalletSystem) : Prop where
  current : s.school.syncCursor ≤ s.ledger.position
  retired : ∀ e ∈ s.school.walletHistory, e.cursor ≤ s.ledger.position
  reached : ∀ x ∈ s.owed, x.1 ∈ s.ledger.history accounts x.2
  owed : ∀ x ∈ s.owed, HandedOver schoolId s x ∨
    (AheadOfSlot kind s.school s.now x ∧ isBeforeIngestStart createdAt x.1 s.school = false)
  cycles : ∀ w c, s.cycles w = some c → SchoolCycleInv createdAt accounts kind schoolId s c
  rotations : ∀ r call, s.rotations r = some call → RotationInv s call

variable {createdAt accounts kind schoolId maxPages} {s s' : WalletSystem}

/-- The slots: the current wallet and, with plain documents, the draining entries. -/
theorem aheadOfSlot_iff {school : WalletDocument} {now : Nat} {x : Nat × String} :
    AheadOfSlot kind school now x ↔
      (school.stellarAddress = x.2 ∧ school.syncCursor < x.1) ∨
      (kind = .lean ∧ ∃ e ∈ school.walletHistory,
        now < e.drainUntil ∧ e.address = x.2 ∧ e.cursor < x.1) := by
  cases kind <;> simp [AheadOfSlot, handingSlots, drainingWalletEntries, and_assoc]

/-- A poll keeps what it has read while others go on. -/
theorem PollReads.mono (h : s.Grows s') {c : SchoolCycle} {poll : WalletPoll}
    (hp : PollReads createdAt accounts kind schoolId s c poll) :
    PollReads createdAt accounts kind schoolId s' c poll where
  scope := hp.scope
  reached := hp.reached.trans h.position_le
  covered := by
    obtain ⟨new, hhistory, hnew⟩ := h.history poll.scope.stellarAddress
    intro t ht hstart hcursor
    rw [hhistory] at ht
    rcases List.mem_append.mp ht with ht | ht
    · exact (hp.covered t ht hstart hcursor).imp_left fun hh => h.handed hh
    · have := hnew t ht
      have := hp.reached
      omega
  page := by
    obtain ⟨new, hhistory, hnew⟩ := h.history poll.scope.stellarAddress
    intro records size hpc
    obtain ⟨more, hmore⟩ := hp.page records size hpc
    refine ⟨more ++ after new poll.cursor, ?_⟩
    rw [hhistory, after, List.filter_append, ← List.append_assoc]
    exact congrArg (· ++ _) hmore

theorem SchoolCycleInv.mono (h : s.Grows s') {c : SchoolCycle}
    (hc : SchoolCycleInv createdAt accounts kind schoolId s c) :
    SchoolCycleInv createdAt accounts kind schoolId s' c where
  current := hc.current.trans h.position_le
  retired := fun e he => (hc.retired e he).trans h.position_le
  todo := fun entries ht e he => (hc.todo entries ht e he).trans h.position_le
  windows := by
    intro e he
    obtain ⟨e', he', hwindow⟩ := hc.windows e he
    obtain ⟨e'', he'', hwindow'⟩ := h.windows e' he'
    exact ⟨e'', he'', hwindow'.trans hwindow⟩
  poll := fun poll hpoll => (hc.poll poll hpoll).mono h

theorem RotationInv.mono (h : s.Grows s') {call : RotationCall} (hcall : RotationInv s call) :
    RotationInv s' call where
  read := hcall.read.trans h.position_le
  built := fun rotation hr =>
    ⟨(hcall.built rotation hr).1.trans h.position_le, (hcall.built rotation hr).2.trans h.position_le⟩

/-! ## One step -/

namespace WalletInv

/-- The cycles and rotations after a step: those before, and the one that moved. -/
theorem cycles_of_update (hinv : WalletInv createdAt accounts kind schoolId s) (h : s.Grows s')
    {w : Nat} {c : SchoolCycle} (hs : s'.cycles = update s.cycles w (some c))
    (hc : SchoolCycleInv createdAt accounts kind schoolId s' c) :
    ∀ w c, s'.cycles w = some c → SchoolCycleInv createdAt accounts kind schoolId s' c := by
  intro w' c' hw'
  rw [hs] at hw'
  rcases update_some_iff.mp hw' with ⟨-, rfl⟩ | ⟨-, hw'⟩
  · exact hc
  · exact (hinv.cycles w' c' hw').mono h

/-- A step that leaves the school, the clock and what is owed alone. -/
theorem frame (hinv : WalletInv createdAt accounts kind schoolId s) (h : s.Grows s')
    (hnow : s'.now = s.now) (hschool : s'.school = s.school) (howed : s'.owed = s.owed)
    (hcycles : ∀ w c, s'.cycles w = some c → SchoolCycleInv createdAt accounts kind schoolId s' c)
    (hrotations : ∀ r call, s'.rotations r = some call → RotationInv s' call) :
    WalletInv createdAt accounts kind schoolId s' where
  current := by
    rw [hschool]
    exact hinv.current.trans h.position_le
  retired := by
    rw [hschool]
    exact fun e he => (hinv.retired e he).trans h.position_le
  reached := by
    rw [howed]
    intro x hx
    obtain ⟨new, hhistory, -⟩ := h.history x.2
    rw [hhistory]
    exact List.mem_append_left _ (hinv.reached x hx)
  owed := by
    rw [howed, hschool, hnow]
    exact fun x hx => (hinv.owed x hx).imp_left fun hh => hh.mono h
  cycles := hcycles
  rotations := hrotations

/-- A poller moves and hands nothing over. -/
theorem setCycle (hinv : WalletInv createdAt accounts kind schoolId s) (w : Nat) {c : SchoolCycle}
    (hc : SchoolCycleInv createdAt accounts kind schoolId s c) :
    WalletInv createdAt accounts kind schoolId (s.setCycle w c) :=
  have h : s.Grows (s.setCycle w c) := .of_eq rfl (List.Subset.refl _) rfl rfl
  hinv.frame h rfl rfl rfl (hinv.cycles_of_update h rfl (hc.mono h))
    fun r call hr => (hinv.rotations r call hr).mono h

/-- A rotation moves, short of its write. -/
theorem setCall (hinv : WalletInv createdAt accounts kind schoolId s) (r : Nat) {call : RotationCall}
    (hcall : RotationInv s call) :
    WalletInv createdAt accounts kind schoolId (s.setCall r call) := by
  have h : s.Grows (s.setCall r call) := .of_eq rfl (List.Subset.refl _) rfl rfl
  refine hinv.frame h rfl rfl rfl (fun w c hw => (hinv.cycles w c hw).mono h) fun r' call' hr' => ?_
  rcases update_some_iff.mp hr' with ⟨-, rfl⟩ | ⟨-, hr'⟩
  · exact hcall.mono h
  · exact (hinv.rotations r' call' hr').mono h

theorem init {now : Nat} {ledger : Ledger} {school : WalletDocument}
    (hcurrent : school.syncCursor ≤ ledger.position)
    (hretired : ∀ e ∈ school.walletHistory, e.cursor ≤ ledger.position) :
    WalletInv createdAt accounts kind schoolId (.init now ledger school) where
  current := hcurrent
  retired := hretired
  reached := by intro x hx; cases hx
  owed := by intro x hx; cases hx
  cycles := by intro w c hc; cases hc
  rotations := by intro r call hr; cases hr

end WalletInv

/-! ### Polls -/

/-- A poll starts from a slot the ledger has reached. -/
theorem PollReads.start {c : SchoolCycle} {retired : Option WalletEntry}
    (hcurrent : c.school.syncCursor ≤ s.ledger.position)
    (hretired : ∀ e ∈ retired, e.cursor ≤ s.ledger.position)
    (hpc : c.pc = .fetching (startPoll kind schoolId maxPages c.school retired)) :
    PollReads createdAt accounts kind schoolId s c
      (startPoll kind schoolId maxPages c.school retired) where
  scope := rfl
  reached := by
    cases retired with
    | none => exact hcurrent
    | some e => exact hretired e rfl
  covered := Covered.refl
  page := by
    intro records size h
    rw [hpc] at h
    cases h

/-- A cycle between two polls. -/
theorem SchoolCycleInv.ended {c : SchoolCycle}
    (hc : SchoolCycleInv createdAt accounts kind schoolId s c) (drained : Bool) :
    SchoolCycleInv createdAt accounts kind schoolId s (c.ended drained) where
  current := hc.current
  retired := hc.retired
  todo := hc.todo
  windows := hc.windows
  poll := by intro poll h; cases h

/-- The poll of a cycle moves. -/
theorem SchoolCycleInv.setPc {c : SchoolCycle} {pc : CyclePc}
    (hc : SchoolCycleInv createdAt accounts kind schoolId s c)
    (hpoll : ∀ poll, pc.poll = some poll →
      PollReads createdAt accounts kind schoolId s { c with pc := pc } poll) :
    SchoolCycleInv createdAt accounts kind schoolId s { c with pc := pc } where
  current := hc.current
  retired := hc.retired
  todo := hc.todo
  windows := hc.windows
  poll := hpoll

theorem SchoolCycleInv.fetch {c : SchoolCycle} {poll : WalletPoll} (hpc : c.pc = .fetching poll)
    (hc : SchoolCycleInv createdAt accounts kind schoolId s c) :
    SchoolCycleInv createdAt accounts kind schoolId s (c.fetch accounts s.ledger poll) := by
  have hreads := hc.poll poll (by rw [hpc]; rfl)
  unfold SchoolCycle.fetch
  dsimp only
  split
  · exact hc.ended false
  split
  · exact hc.ended true
  · refine hc.setPc ?_
    rintro _ ⟨⟩
    refine ⟨hreads.scope, hreads.reached, hreads.covered, ?_⟩
    rintro _ _ ⟨⟩
    exact nextRecords_append s.ledger poll

theorem SchoolCycleInv.pageDone {c : SchoolCycle} {poll : WalletPoll} {size : Nat}
    (hpc : c.pc = .page poll [] size) (hc : SchoolCycleInv createdAt accounts kind schoolId s c) :
    SchoolCycleInv createdAt accounts kind schoolId s (c.pageDone poll size) := by
  have hreads := hc.poll poll (by rw [hpc]; rfl)
  unfold SchoolCycle.pageDone
  split
  · exact hc.ended true
  · refine hc.setPc ?_
    rintro _ ⟨⟩
    exact ⟨hreads.scope, hreads.reached, hreads.covered, by rintro _ _ ⟨⟩⟩

/-- The next record of a page is handed over or skipped. -/
theorem PollReads.examine {c : SchoolCycle} {poll : WalletPoll} {t size : Nat} {records : List Nat}
    (hp : PollReads createdAt accounts kind schoolId s c poll)
    (hpc : c.pc = .page poll (t :: records) size) (hledger : s'.ledger = s.ledger)
    (hhanded : s.handed ⊆ s'.handed)
    (hdone : (poll.scope, t) ∈ s'.handed ∨ isBeforeIngestStart createdAt t c.school = true) :
    PollReads createdAt accounts kind schoolId s'
      { c with pc := .page { poll with cursor := t } records size } { poll with cursor := t } := by
  obtain ⟨more, hmore⟩ := hp.page _ _ hpc
  obtain ⟨hafter, -, ht, honly⟩ := after_of_cons (history_ascending ..) hmore
  refine ⟨hp.scope, ?_, ?_, ?_⟩
  · rw [hledger]
    exact s.ledger.le_position (mem_history.mp ht).1
  · rw [hledger]
    refine (hp.covered.mono fun u hu => hu.imp_left fun h => hhanded h).extend fun u hu hlt hle => ?_
    obtain rfl := honly u hu hlt hle
    exact hdone
  · rintro _ _ ⟨⟩
    rw [hledger]
    exact ⟨more, hafter⟩

/-- What is still to be polled comes from the document the cycle read. -/
theorem SchoolCycleInv.remaining {c : SchoolCycle}
    (hc : SchoolCycleInv createdAt accounts kind schoolId s c) (now : Nat) :
    ∀ e ∈ c.remaining now, e.cursor ≤ s.ledger.position := by
  intro e he
  unfold SchoolCycle.remaining at he
  cases htodo : c.todo with
  | some entries =>
    rw [htodo] at he
    exact hc.todo entries htodo e he
  | none =>
    rw [htodo] at he
    obtain ⟨entry, hentry, -, rfl⟩ := mem_drainingWalletEntries.mp he
    exact hc.retired entry hentry

theorem SchoolCycleInv.next {c : SchoolCycle} {now : Nat} (hpc : c.pc = .between)
    (hc : SchoolCycleInv createdAt accounts kind schoolId s c) :
    SchoolCycleInv createdAt accounts kind schoolId s (c.next kind schoolId maxPages now) := by
  have hremaining := hc.remaining now
  unfold SchoolCycle.next
  split
  · refine ⟨hc.current, hc.retired, ?_, hc.windows, ?_⟩
    · rintro _ ⟨⟩ e he
      cases he
    · intro poll hpoll
      rw [show _ = CyclePc.between from hpc] at hpoll
      cases hpoll
  · rename_i entry rest heq
    rw [heq] at hremaining
    refine ⟨hc.current, hc.retired, ?_, hc.windows, ?_⟩
    · rintro _ ⟨⟩ e he
      exact hremaining e (List.mem_cons_of_mem _ he)
    · rintro _ ⟨⟩
      refine .start hc.current (fun e he => ?_) rfl
      obtain rfl : entry = e := Option.some.inj he
      exact hremaining entry (List.mem_cons_self ..)

/-- A cycle starts from the school as it is. -/
theorem WalletInv.start (hinv : WalletInv createdAt accounts kind schoolId s) :
    SchoolCycleInv createdAt accounts kind schoolId s (.start kind schoolId maxPages s.school) where
  current := hinv.current
  retired := hinv.retired
  todo := by intro entries h; cases h
  windows := fun e he => ⟨e, he, rfl⟩
  poll := by
    rintro _ ⟨⟩
    exact .start hinv.current (by simp) rfl

/-! ### Stores -/

/-- Storing a cursor leaves a transaction ahead of its slot, unless it moves the slot past it. -/
theorem AheadOfSlot.storeCursor {school : WalletDocument} {now : Nat} {x : Nat × String}
    {poll : WalletPoll} (h : AheadOfSlot kind school now x) (hmoved : poll.moved = true) :
    AheadOfSlot kind (school.storeCursor poll) now x ∨
      ∃ slot ∈ overwrittenSlot kind school poll,
        slot.address = x.2 ∧ slot.cursor < x.1 ∧ x.1 ≤ poll.cursor := by
  rcases aheadOfSlot_iff.mp h with ⟨haddr, hlt⟩ | ⟨rfl, e, he, hwindow, haddr, hlt⟩
  · cases hr : poll.retired with
    | none =>
      by_cases hpast : x.1 ≤ poll.cursor
      · exact Or.inr ⟨⟨school.stellarAddress, school.syncCursor⟩,
          by simp [overwrittenSlot, hmoved, hr], haddr, hlt, hpast⟩
      · refine Or.inl (aheadOfSlot_iff.mpr (Or.inl ?_))
        simpa [WalletDocument.storeCursor, hr, haddr] using hpast
    | some retired =>
      refine Or.inl (aheadOfSlot_iff.mpr (Or.inl ?_))
      simpa [WalletDocument.storeCursor, hr] using ⟨haddr, hlt⟩
  · cases hr : poll.retired with
    | none =>
      refine Or.inl (aheadOfSlot_iff.mpr (Or.inr ⟨rfl, e, ?_, hwindow, haddr, hlt⟩))
      simpa [WalletDocument.storeCursor, hr] using he
    | some retired =>
      have hhistory : (school.storeCursor poll).walletHistory =
          setRetiredCursor retired.address poll.cursor school.walletHistory := by
        simp [WalletDocument.storeCursor, hr]
      rcases mem_setRetiredCursor he with hkept | ⟨hfind, hset⟩
      · exact Or.inl (aheadOfSlot_iff.mpr
          (Or.inr ⟨rfl, e, hhistory ▸ hkept, hwindow, haddr, hlt⟩))
      · by_cases hpast : x.1 ≤ poll.cursor
        · exact Or.inr ⟨⟨e.address, e.cursor⟩, by simp [overwrittenSlot, hmoved, hr, hfind],
            haddr, hlt, hpast⟩
        · exact Or.inl (aheadOfSlot_iff.mpr
            (Or.inr ⟨rfl, { e with cursor := poll.cursor }, hhistory ▸ hset, hwindow, haddr,
              not_le.mp hpast⟩))

/-- What a poll that is to overwrite a slot hands over carries the school's id. -/
theorem scope_of_overwrittenSlot {school school' : WalletDocument} {poll : WalletPoll}
    {slot : WalletEntry} (hscope : poll.scope = pollScope kind schoolId school' poll.retired)
    (h : slot ∈ overwrittenSlot kind school poll) : poll.scope.schoolId = some schoolId := by
  unfold overwrittenSlot at h
  split at h
  · cases hr : poll.retired with
    | none => simp [hscope, hr, pollScope]
    | some retired =>
      cases kind with
      | lean => simp [hscope, hr, pollScope, spreadSchoolId]
      | hydrated =>
        rw [hr] at h
        cases h
  · cases h

namespace WalletInv

/-- A safe store passes no payment that was not handed over. -/
theorem storeCursor (hinv : WalletInv createdAt accounts kind schoolId s) {c : SchoolCycle}
    {poll : WalletPoll} (hp : PollReads createdAt accounts kind schoolId s c poll)
    (hmoved : poll.moved = true) (hsafe : StoreSafe createdAt kind schoolId s c poll) :
    ∀ x ∈ s.owed, HandedOver schoolId s x ∨
      (AheadOfSlot kind (s.school.storeCursor poll) s.now x ∧
        isBeforeIngestStart createdAt x.1 (s.school.storeCursor poll) = false) := by
  intro x hx
  rw [isBeforeIngestStart_storeCursor]
  rcases hinv.owed x hx with hdone | ⟨hahead, hingest⟩
  · exact Or.inl hdone
  rcases hahead.storeCursor hmoved with hahead | ⟨slot, hslot, haddr, hlt, hle⟩
  · exact Or.inr ⟨hahead, hingest⟩
  rcases hsafe slot hslot x hx haddr.symm hlt hle with hdone | ⟨hpolled, hstart, hlate⟩
  · exact Or.inl hdone
  -- the poll has read it, and on behalf of the school
  have hhistory : x.1 ∈ s.ledger.history accounts poll.scope.stellarAddress := by
    rw [hpolled]
    exact hinv.reached x hx
  rcases hp.covered x.1 hhistory hstart hle with hdone | hskipped
  · have hscope : poll.scope = ⟨some schoolId, x.2⟩ := by
      rw [← hpolled, ← scope_of_overwrittenSlot hp.scope hslot]
    rw [hscope] at hdone
    exact Or.inl hdone
  · rw [hlate] at hskipped
    cases hskipped

/-- **A page ends**, and its cursor is stored where that is safe. -/
theorem store (hinv : WalletInv createdAt accounts kind schoolId s) {w size : Nat} {c : SchoolCycle}
    {poll : WalletPoll} (hw : s.cycles w = some c) (hpc : c.pc = .page poll [] size)
    (hsafe : StoreSafe createdAt kind schoolId s c poll) :
    WalletInv createdAt accounts kind schoolId { s.setCycle w (c.pageDone poll size) with
      school := if poll.moved then s.school.storeCursor poll else s.school } := by
  have hc := hinv.cycles w c hw
  have hp := hc.poll poll (by rw [hpc]; rfl)
  have hdone := hinv.setCycle w (hc.pageDone hpc)
  by_cases hmoved : poll.moved = true
  · simp only [hmoved, if_true]
    have hgrows : (s.setCycle w (c.pageDone poll size)).Grows
        { s.setCycle w (c.pageDone poll size) with school := s.school.storeCursor poll } :=
      ⟨⟨[], by simp, by simp⟩, List.Subset.refl _, List.Subset.refl _,
        storeCursor_windows s.school poll⟩
    refine ⟨?_, fun e he => ?_, hinv.reached, hinv.storeCursor hp hmoved hsafe,
      fun w' c' hw' => (hdone.cycles w' c' hw').mono hgrows,
      fun r call hr => (hdone.rotations r call hr).mono hgrows⟩
    · rcases storeCursor_current s.school poll with h | h
      · exact h.trans_le hinv.current
      · exact h.trans_le hp.reached
    · rcases storeCursor_entries he with h | h
      · exact hinv.retired e h
      · exact h.trans_le hp.reached
  · simp only [hmoved]
    exact hdone

end WalletInv

/-! ### Rotations -/

/-- A rotation leaves a transaction ahead of a slot, if the entry it pushes takes over those ahead
of the replaced wallet. -/
theorem AheadOfSlot.write {school : WalletDocument} {now startsAt : Nat} {x : Nat × String}
    {call : RotationCall} {rotation : WalletRotation} (h : AheadOfSlot kind school now x)
    (hwindow : now < rotation.retired.drainUntil)
    (hretired : x.2 = school.stellarAddress → school.syncCursor < x.1 →
      kind = .lean ∧ rotation.retired.address = x.2 ∧ rotation.retired.cursor < x.1) :
    AheadOfSlot kind (call.write rotation startsAt school) now x := by
  refine aheadOfSlot_iff.mpr (Or.inr ?_)
  rw [write_walletHistory]
  rcases aheadOfSlot_iff.mp h with ⟨haddr, hlt⟩ | ⟨hlean, e, he, hdrains, haddr, hlt⟩
  · obtain ⟨hlean, haddr, hlt⟩ := hretired haddr.symm hlt
    exact ⟨hlean, rotation.retired, by simp, hwindow, haddr, hlt⟩
  · exact ⟨hlean, e, List.mem_append_left _ he, hdrains, haddr, hlt⟩

/-- Horizon answers a rotation. -/
theorem RotationInv.build {call : RotationCall} (hcall : RotationInv s call) (now : Nat) :
    RotationInv s { call with
      rotation := some (buildWalletRotation accounts s.ledger call.school call.newAddress
        call.endpoint.backfill now) } where
  read := hcall.read
  built := by
    rintro _ ⟨⟩
    refine ⟨hcall.read, ?_⟩
    unfold buildWalletRotation
    dsimp only
    split
    · exact Nat.zero_le _
    · exact latestPagingToken_le ..

namespace WalletInv

/-- **A rotation is written**, where that is safe. -/
theorem write (hinv : WalletInv createdAt accounts kind schoolId s) {r startsAt : Nat}
    {call : RotationCall} {rotation : WalletRotation} (hr : s.rotations r = some call)
    (hrotation : call.rotation = some rotation)
    (hsafe : RotationWriteSafe createdAt accounts kind schoolId s call rotation startsAt)
    (hgrows : s.Grows { s with
      school := call.write rotation startsAt s.school
      rotations := update s.rotations r none
      owed := s.owed ++ s.backfilled accounts call }) :
    WalletInv createdAt accounts kind schoolId { s with
      school := call.write rotation startsAt s.school
      rotations := update s.rotations r none
      owed := s.owed ++ s.backfilled accounts call } := by
  obtain ⟨hretired, hcursor⟩ := (hinv.rotations r call hr).built rotation hrotation
  refine ⟨?_, ?_, ?_, ?_, fun w c hw => (hinv.cycles w c hw).mono hgrows,
    fun r' call' hr' => (hinv.rotations r' call' (update_none_iff.mp hr').2).mono hgrows⟩
  · rcases write_syncCursor call rotation startsAt s.school with h | h
    · exact h.trans_le hcursor
    · exact h.trans_le hinv.current
  · dsimp only
    rw [write_walletHistory]
    intro e he
    rcases List.mem_append.mp he with he | he
    · exact hinv.retired e he
    · rw [List.mem_singleton.mp he]
      exact hretired
  · intro x hx
    rcases List.mem_append.mp hx with hx | hx
    · exact hinv.reached x hx
    · exact (mem_backfilled hx).2
  · intro x hx
    rcases hsafe.ingest x hx with hdone | hingest
    · exact Or.inl hdone
    rcases List.mem_append.mp hx with hx | hx
    · rcases hinv.owed x hx with hdone | ⟨hahead, -⟩
      · exact Or.inl hdone
      by_cases hcurrent : x.2 = s.school.stellarAddress ∧ s.school.syncCursor < x.1
      · rcases hsafe.retired x hx hcurrent.1 hcurrent.2 with hdone | hentry
        · exact Or.inl hdone
        · exact Or.inr ⟨hahead.write hsafe.window fun _ _ => hentry, hingest⟩
      · exact Or.inr ⟨hahead.write hsafe.window fun ha hlt => absurd ⟨ha, hlt⟩ hcurrent, hingest⟩
    · rcases hsafe.history x hx with hdone | hlt
      · exact Or.inl hdone
      · refine Or.inr ⟨aheadOfSlot_iff.mpr (Or.inl ⟨?_, hlt⟩), hingest⟩
        exact (write_stellarAddress ..).trans (mem_backfilled hx).1.symm

/-! ### The clock and the ledger -/

/-- Time passes, and no drain window does. -/
theorem tick (hinv : WalletInv createdAt accounts kind schoolId s) {now : Nat}
    (hsafe : ∀ e ∈ s.school.walletHistory, s.now < e.drainUntil → now < e.drainUntil) :
    WalletInv createdAt accounts kind schoolId { s with now := now } := by
  have hgrows : s.Grows { s with now := now } := .of_eq rfl (List.Subset.refl _) rfl rfl
  refine ⟨hinv.current, hinv.retired, hinv.reached, fun x hx => ?_,
    fun w c hw => (hinv.cycles w c hw).mono hgrows,
    fun r call hr => (hinv.rotations r call hr).mono hgrows⟩
  rcases hinv.owed x hx with hdone | ⟨hahead, hingest⟩
  · exact Or.inl hdone
  · refine Or.inr ⟨aheadOfSlot_iff.mpr ?_, hingest⟩
    rcases aheadOfSlot_iff.mp hahead with h | ⟨hlean, e, he, hdrains, hslot⟩
    · exact Or.inl h
    · exact Or.inr ⟨hlean, e, he, hsafe e he hdrains, hslot⟩

/-- A slot whose address is watched lies before whatever comes next. -/
theorem ahead_of_arrival (hinv : WalletInv createdAt accounts kind schoolId s) {t : Nat}
    (h : s.ledger.position < t) {address : String}
    (hslot : address ∈ (handingSlots kind s.school s.now).map (·.address)) :
    AheadOfSlot kind s.school s.now (t, address) := by
  obtain ⟨slot, hmem, rfl⟩ := List.mem_map.mp hslot
  refine ⟨slot, hmem, rfl, lt_of_le_of_lt ?_ h⟩
  rcases List.mem_cons.mp hmem with rfl | hmem
  · exact hinv.current
  · cases kind with
    | hydrated => cases hmem
    | lean =>
      obtain ⟨e, he, -, rfl⟩ := mem_drainingWalletEntries.mp hmem
      exact hinv.retired e he

/-- A transaction arrives. -/
theorem arrive (hinv : WalletInv createdAt accounts kind schoolId s) {t : Nat}
    (h : s.ledger.position < t)
    (hsafe : ∀ x ∈ s.arrivals accounts t,
      x.2 ∈ (handingSlots kind s.school s.now).map (·.address) ∧
        isBeforeIngestStart createdAt t s.school = false)
    (hgrows : s.Grows { s with
      ledger := s.ledger.close t h, owed := s.owed ++ s.arrivals accounts t }) :
    WalletInv createdAt accounts kind schoolId { s with
      ledger := s.ledger.close t h, owed := s.owed ++ s.arrivals accounts t } where
  current := hinv.current.trans hgrows.position_le
  retired := fun e he => (hinv.retired e he).trans hgrows.position_le
  reached := by
    intro x hx
    rcases List.mem_append.mp hx with hx | hx
    · obtain ⟨new, hhistory, -⟩ := hgrows.history x.2
      rw [hhistory]
      exact List.mem_append_left _ (hinv.reached x hx)
    · obtain ⟨ht, ha⟩ := mem_arrivals hx
      rw [ht]
      exact mem_history.mpr ⟨by simp [Ledger.close], ha⟩
  owed := by
    intro x hx
    rcases List.mem_append.mp hx with hx | hx
    · exact hinv.owed x hx
    · obtain ⟨ht, -⟩ := mem_arrivals hx
      obtain ⟨hslot, hingest⟩ := hsafe x hx
      refine Or.inr ⟨?_, by rw [ht]; exact hingest⟩
      have hahead := hinv.ahead_of_arrival h hslot
      rw [← ht] at hahead
      exact hahead
  cycles := fun w c hw => (hinv.cycles w c hw).mono hgrows
  rotations := fun r call hr => (hinv.rotations r call hr).mono hgrows

end WalletInv

/-- **One safe step keeps the invariant.** -/
theorem WalletInv.step (hinv : WalletInv createdAt accounts kind schoolId s) {a : WalletAction}
    (hsafe : WalletSafe createdAt accounts kind schoolId s a)
    (h : WalletMove createdAt accounts kind schoolId maxPages s a s') :
    WalletInv createdAt accounts kind schoolId s' := by
  have hgrows := h.grows
  cases h with
  | tick => exact hinv.tick hsafe
  | arrive => exact hinv.arrive _ hsafe hgrows
  | begin => exact hinv.setCycle _ hinv.start
  | fetch hw hpc => exact hinv.setCycle _ ((hinv.cycles _ _ hw).fetch hpc)
  | skip hw hpc hskipped =>
    have hc := hinv.cycles _ _ hw
    have hp := hc.poll _ (by rw [hpc]; rfl)
    refine hinv.setCycle _ (hc.setPc ?_)
    rintro _ ⟨⟩
    exact hp.examine hpc rfl (List.Subset.refl _) (Or.inr hskipped)
  | hand hw hpc =>
    have hc := hinv.cycles _ _ hw
    have hp := hc.poll _ (by rw [hpc]; rfl)
    refine hinv.frame hgrows rfl rfl rfl (hinv.cycles_of_update hgrows rfl ?_)
      fun r call hr => (hinv.rotations r call hr).mono hgrows
    refine (hc.mono hgrows).setPc ?_
    rintro _ ⟨⟩
    exact hp.examine hpc rfl hgrows.handed (Or.inl (by simp))
  | store hw hpc => exact hinv.store hw hpc (hsafe _ hw _ (by rw [hpc]; rfl))
  | fail hw => exact hinv.setCycle _ ((hinv.cycles _ _ hw).ended false)
  | next hw hpc => exact hinv.setCycle _ ((hinv.cycles _ _ hw).next hpc)
  | leave =>
    exact hinv.frame hgrows rfl rfl rfl
      (fun w c hw => (hinv.cycles w c (update_none_iff.mp hw).2).mono hgrows)
      fun r call hr => (hinv.rotations r call hr).mono hgrows
  | read => exact hinv.setCall _ ⟨hinv.current, by rintro _ ⟨⟩⟩
  | build hr => exact hinv.setCall _ ((hinv.rotations _ _ hr).build s.now)
  | write hr hrotation => exact hinv.write hr hrotation (hsafe _ hr _ hrotation) hgrows
  | abandon =>
    exact hinv.frame hgrows rfl rfl rfl (fun w c hw => (hinv.cycles w c hw).mono hgrows)
      fun r call hr => (hinv.rotations r call (update_none_iff.mp hr).2).mono hgrows

end

end StellarEduPay

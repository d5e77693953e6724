import StellarEduPay.RotationPayments

/-! # A cycle that reads every wallet to the end

What a cycle has still to read, from the document it was given to the last draining address,
and what has been handed over when it is done.
-/
namespace StellarEduPay
open Function Runs Cursors

section
variable (createdAt : Nat → Nat) (accounts : Nat → List String) (kind : DocumentKind)
  (schoolId : String) (maxPages : Nat)

/-- The cycle has the transaction still to read: in the poll under way, whose page has it if it is
the last one, or in a poll to come. -/
def StillReads (now : Nat) (c : SchoolCycle) (x : Nat × String) : Prop :=
  (∃ poll, c.pc.poll = some poll ∧ poll.scope = ⟨some schoolId, x.2⟩ ∧ poll.cursor < x.1 ∧
    ∀ records size, c.pc = .page poll records size → size < baseTransactionsPerPoll →
      x.1 ∈ records) ∨
  (kind = .lean ∧ ∃ e ∈ c.remaining now, e.address = x.2 ∧ e.cursor < x.1)

/-- Unless a poll of the cycle ended early, each transaction owed has been handed over or is still to
be read, and not taken for one from before the ingest start. -/
def CycleServes (owed : List (Nat × String)) (s : WalletSystem) (c : SchoolCycle) : Prop :=
  c.complete = true → ∀ x ∈ owed, HandedOver schoolId s x ∨
    (StillReads kind schoolId s.now c x ∧ isBeforeIngestStart createdAt x.1 c.school = false)

variable {createdAt accounts kind schoolId maxPages} {s s' : WalletSystem} {c : SchoolCycle}
  {poll : WalletPoll} {x : Nat × String} {owed : List (Nat × String)}

/-! ## What is still to be read -/

namespace StillReads

/-- Between two polls only those to come are left. -/
theorem of_between {now : Nat} (hpc : c.pc = .between) (h : StillReads kind schoolId now c x) :
    kind = .lean ∧ ∃ e ∈ c.remaining now, e.address = x.2 ∧ e.cursor < x.1 := by
  rcases h with ⟨poll, hpoll, -⟩ | h
  · rw [hpc] at hpoll
    cases hpoll
  · exact h

/-- A fetch finds what the poll has still to read. -/
theorem fetch {now : Nat} {ledger : Ledger} (hpc : c.pc = .fetching poll)
    (hx : x.1 ∈ ledger.history accounts x.2) (h : StillReads kind schoolId now c x)
    (hcomplete : (c.fetch accounts ledger poll).complete = true) :
    StillReads kind schoolId now (c.fetch accounts ledger poll) x := by
  unfold SchoolCycle.fetch at hcomplete ⊢
  dsimp only at hcomplete ⊢
  by_cases hpages : poll.pagesLeft = 0
  · rw [if_pos hpages] at hcomplete
    simp [SchoolCycle.ended] at hcomplete
  rw [if_neg hpages]
  rcases h with ⟨poll', hpoll, hscope, hlt, -⟩ | h
  · rw [hpc] at hpoll
    obtain rfl : poll = poll' := Option.some.inj hpoll
    have hafter : x.1 ∈ after (ledger.history accounts poll.scope.stellarAddress) poll.cursor := by
      rw [hscope]
      exact List.mem_filter.mpr ⟨hx, by simpa using hlt⟩
    by_cases hempty : (nextRecords accounts ledger poll).isEmpty = true
    · -- an empty page would leave the poll nothing to read
      have hnil : after (ledger.history accounts poll.scope.stellarAddress) poll.cursor = [] := by
        rcases List.take_eq_nil_iff.mp (List.isEmpty_iff.mp hempty) with h | h
        · cases h
        · exact h
      rw [hnil] at hafter
      cases hafter
    · rw [if_neg hempty]
      refine Or.inl ⟨_, rfl, hscope, hlt, ?_⟩
      rintro _ _ ⟨⟩ hshort
      -- a short page holds all there is
      rw [nextRecords] at hshort ⊢
      rw [List.length_take] at hshort
      rw [List.take_of_length_le (by omega)]
      exact hafter
  · refine Or.inr ?_
    split
    · exact h
    · exact h

/-- A page that is done was not the last one, as long as something is still to be read. -/
theorem pageDone {now size : Nat} (hpc : c.pc = .page poll [] size)
    (h : StillReads kind schoolId now c x) :
    StillReads kind schoolId now (c.pageDone poll size) x := by
  unfold SchoolCycle.pageDone
  rcases h with ⟨poll', hpoll, hscope, hlt, hpage⟩ | h
  · rw [hpc] at hpoll hpage
    obtain rfl : poll = poll' := Option.some.inj hpoll
    by_cases hshort : size < baseTransactionsPerPoll
    · cases hpage [] size rfl hshort
    · rw [if_neg hshort]
      exact Or.inl ⟨poll, rfl, hscope, hlt, by rintro _ _ ⟨⟩⟩
  · refine Or.inr ?_
    split
    · exact h
    · exact h

/-- The next poll takes over the first address to come. -/
theorem next {now : Nat} (hpc : c.pc = .between) (h : StillReads kind schoolId now c x) :
    StillReads kind schoolId now (c.next kind schoolId maxPages now) x := by
  obtain ⟨rfl, e, he, haddr, hlt⟩ := h.of_between hpc
  unfold SchoolCycle.next
  split
  · rename_i heq
    rw [heq] at he
    cases he
  · rename_i entry rest heq
    rw [heq] at he
    rcases List.mem_cons.mp he with rfl | he
    · refine Or.inl ⟨_, rfl, ?_, hlt, by rintro _ _ ⟨⟩⟩
      rw [← haddr]
      rfl
    · exact Or.inr ⟨rfl, e, he, haddr, hlt⟩

/-- A record is examined: what was to be read is that record, or comes after it. -/
theorem examine {now t size : Nat} {records : List Nat} (hpc : c.pc = .page poll (t :: records) size)
    (hp : PollReads createdAt accounts kind schoolId s c poll)
    (hx : x.1 ∈ s.ledger.history accounts x.2) (h : StillReads kind schoolId now c x) :
    (poll.scope = ⟨some schoolId, x.2⟩ ∧ x.1 = t) ∨
      StillReads kind schoolId now
        { c with pc := .page { poll with cursor := t } records size } x := by
  rcases h with ⟨poll', hpoll, hscope, hlt, hpage⟩ | h
  · rw [hpc] at hpoll hpage
    obtain rfl : poll = poll' := Option.some.inj hpoll
    by_cases ht : x.1 = t
    · exact Or.inl ⟨hscope, ht⟩
    · obtain ⟨more, hmore⟩ := hp.page _ _ hpc
      obtain ⟨-, -, -, honly⟩ := after_of_cons (history_ascending ..) hmore
      rw [hscope] at honly
      refine Or.inr (Or.inl ⟨_, rfl, hscope, ?_, ?_⟩)
      · by_contra hle
        exact ht (honly x.1 hx hlt (not_lt.mp hle))
      · rintro _ _ ⟨⟩ hshort
        exact (List.mem_cons.mp (hpage _ _ rfl hshort)).resolve_left ht
  · exact Or.inr (Or.inr h)

/-- Time passes, and no drain window does. -/
theorem tick {now : Nat} (hc : SchoolCycleInv createdAt accounts kind schoolId s c)
    (hsafe : ∀ e ∈ s.school.walletHistory, s.now < e.drainUntil → now < e.drainUntil)
    (h : StillReads kind schoolId s.now c x) : StillReads kind schoolId now c x := by
  refine h.imp_right fun ⟨hlean, e, he, hslot⟩ => ⟨hlean, e, ?_, hslot⟩
  unfold SchoolCycle.remaining at he ⊢
  cases htodo : c.todo with
  | some entries =>
    rw [htodo] at he
    exact he
  | none =>
    rw [htodo] at he
    obtain ⟨entry, hentry, hdrains, heq⟩ := mem_drainingWalletEntries.mp he
    obtain ⟨entry', hentry', hwindow⟩ := hc.windows entry hentry
    refine mem_drainingWalletEntries.mpr ⟨entry, hentry, ?_, heq⟩
    rw [← hwindow]
    exact hsafe entry' hentry' (by rw [hwindow]; exact hdrains)

end StillReads

/-- A cycle that starts has everything ahead of a slot still to read. -/
theorem AheadOfSlot.stillReads {school : WalletDocument} {now : Nat}
    (h : AheadOfSlot kind school now x) :
    StillReads kind schoolId now (.start kind schoolId maxPages school) x := by
  rcases aheadOfSlot_iff.mp h with ⟨haddr, hlt⟩ | ⟨hlean, e, he, hdrains, haddr, hlt⟩
  · refine Or.inl ⟨_, rfl, ?_, hlt, by rintro _ _ ⟨⟩⟩
    rw [← haddr]
    rfl
  · exact Or.inr ⟨hlean, ⟨e.address, e.cursor⟩,
      mem_drainingWalletEntries.mpr ⟨e, he, hdrains, rfl⟩, haddr, hlt⟩

/-! ## A cycle from its start to its end -/

@[simp] theorem SchoolCycle.fetch_school (c : SchoolCycle) (ledger : Ledger) (poll : WalletPoll) :
    (c.fetch accounts ledger poll).school = c.school := by
  unfold SchoolCycle.fetch
  dsimp only
  split
  · rfl
  · split <;> rfl

@[simp] theorem SchoolCycle.pageDone_school (c : SchoolCycle) (poll : WalletPoll) (size : Nat) :
    (c.pageDone poll size).school = c.school := by
  unfold SchoolCycle.pageDone
  split <;> rfl

@[simp] theorem SchoolCycle.next_school (c : SchoolCycle) (now : Nat) :
    (c.next kind schoolId maxPages now).school = c.school := by
  unfold SchoolCycle.next
  split <;> rfl

@[simp] theorem SchoolCycle.next_complete (c : SchoolCycle) (now : Nat) :
    (c.next kind schoolId maxPages now).complete = c.complete := by
  unfold SchoolCycle.next
  split <;> rfl

theorem SchoolCycle.complete_of_ended {drained : Bool} (h : (c.ended drained).complete = true) :
    c.complete = true ∧ drained = true := by
  simpa [SchoolCycle.ended] using h

theorem SchoolCycle.complete_of_fetch {ledger : Ledger}
    (h : (c.fetch accounts ledger poll).complete = true) : c.complete = true := by
  unfold SchoolCycle.fetch at h
  dsimp only at h
  split at h
  · exact (complete_of_ended h).1
  · split at h
    · exact (complete_of_ended h).1
    · exact h

theorem SchoolCycle.complete_of_pageDone {size : Nat}
    (h : (c.pageDone poll size).complete = true) : c.complete = true := by
  unfold SchoolCycle.pageDone at h
  split at h
  · exact (complete_of_ended h).1
  · exact h

namespace CycleServes

/-- The others move. -/
theorem mono (h : CycleServes createdAt kind schoolId owed s c) (hgrows : s.Grows s')
    (hnow : s'.now = s.now) : CycleServes createdAt kind schoolId owed s' c := by
  intro hcomplete x hx
  rw [hnow]
  exact (h hcomplete x hx).imp_left fun hdone => hdone.mono hgrows

/-- The cycle moves: what it had still to read is handed over or still to be read. -/
theorem move {c' : SchoolCycle} (h : CycleServes createdAt kind schoolId owed s c)
    (hgrows : s.Grows s') (hnow : s'.now = s.now) (hschool : c'.school = c.school)
    (hcomplete : c'.complete = true → c.complete = true)
    (hreads : c'.complete = true → ∀ x ∈ owed, StillReads kind schoolId s.now c x →
      isBeforeIngestStart createdAt x.1 c.school = false →
      HandedOver schoolId s' x ∨ StillReads kind schoolId s.now c' x) :
    CycleServes createdAt kind schoolId owed s' c' := by
  intro hc' x hx
  rcases h (hcomplete hc') x hx with hdone | ⟨hreads', hingest⟩
  · exact Or.inl (hdone.mono hgrows)
  · rw [hnow, hschool]
    exact (hreads hc' x hx hreads' hingest).imp_right fun hnext => ⟨hnext, hingest⟩

/-- A new cycle serves everything owed. -/
theorem start (hinv : WalletInv createdAt accounts kind schoolId s) (howed : owed ⊆ s.owed) :
    CycleServes createdAt kind schoolId owed s (.start kind schoolId maxPages s.school) := by
  intro _ x hx
  exact (hinv.owed x (howed hx)).imp_right fun ⟨hahead, hingest⟩ => ⟨hahead.stillReads, hingest⟩

/-- **A safe step keeps a poller's cycle serving what is owed.** -/
theorem step (hinv : WalletInv createdAt accounts kind schoolId s) (howed : owed ⊆ s.owed) {w : Nat}
    {a : WalletAction} (hsafe : WalletSafe createdAt accounts kind schoolId s a)
    (h : WalletMove createdAt accounts kind schoolId maxPages s a s')
    (hserves : ∀ c, s.cycles w = some c → CycleServes createdAt kind schoolId owed s c) :
    ∀ c, s'.cycles w = some c → CycleServes createdAt kind schoolId owed s' c := by
  have hgrows := h.grows
  have hreached : ∀ x ∈ owed, x.1 ∈ s.ledger.history accounts x.2 :=
    fun x hx => hinv.reached x (howed hx)
  -- either another poller moved, or this one did
  have hmoved : ∀ {w' : Nat} {c' : SchoolCycle}, s'.cycles = update s.cycles w' (some c') →
      s'.now = s.now → (s.cycles w = s.cycles w' →
        CycleServes createdAt kind schoolId owed s' c') →
      ∀ c, s'.cycles w = some c → CycleServes createdAt kind schoolId owed s' c := by
    intro w' c' hcycles hnow hc' c hw
    rw [hcycles] at hw
    rcases update_some_iff.mp hw with ⟨rfl, rfl⟩ | ⟨-, hw⟩
    · exact hc' rfl
    · exact (hserves c hw).mono hgrows hnow
  cases h with
  | tick =>
    intro c hw hcomplete x hx
    refine (hserves c hw hcomplete x hx).imp_right fun ⟨hreads, hingest⟩ => ⟨?_, hingest⟩
    exact hreads.tick (hinv.cycles w c hw) hsafe
  | begin => exact hmoved rfl rfl fun _ => (start hinv howed).mono hgrows rfl
  | fetch hw hpc =>
    refine hmoved rfl rfl fun hsame => ?_
    refine (hserves _ (hsame.trans hw)).move hgrows rfl (by simp)
      SchoolCycle.complete_of_fetch fun hcomplete x hx hreads _ => Or.inr ?_
    exact hreads.fetch hpc (hreached x hx) hcomplete
  | @skip w' t size records c poll hw hpc hskipped =>
    refine hmoved rfl rfl fun hsame => ?_
    refine (hserves _ (hsame.trans hw)).move hgrows rfl rfl id fun _ x hx hreads hingest => ?_
    have hp := (hinv.cycles _ _ hw).poll _ (by rw [hpc]; rfl)
    rcases hreads.examine hpc hp (hreached x hx) with ⟨-, rfl⟩ | hreads
    · rw [hingest] at hskipped
      cases hskipped
    · exact Or.inr hreads
  | hand hw hpc =>
    refine hmoved rfl rfl fun hsame => ?_
    refine (hserves _ (hsame.trans hw)).move hgrows rfl rfl id fun _ x hx hreads _ => ?_
    have hp := (hinv.cycles _ _ hw).poll _ (by rw [hpc]; rfl)
    rcases hreads.examine hpc hp (hreached x hx) with ⟨hscope, ht⟩ | hreads
    · exact Or.inl (List.mem_append_right _ (by simp [hscope, ht]))
    · exact Or.inr hreads
  | store hw hpc =>
    refine hmoved rfl rfl fun hsame => ?_
    exact (hserves _ (hsame.trans hw)).move hgrows rfl (by simp)
      SchoolCycle.complete_of_pageDone fun _ x _ hreads _ => Or.inr (hreads.pageDone hpc)
  | fail hw =>
    refine hmoved rfl rfl fun hsame => ?_
    refine (hserves _ (hsame.trans hw)).move hgrows rfl rfl
      (fun h => (SchoolCycle.complete_of_ended h).1) fun hcomplete => ?_
    cases (SchoolCycle.complete_of_ended hcomplete).2
  | next hw hpc =>
    refine hmoved rfl rfl fun hsame => ?_
    exact (hserves _ (hsame.trans hw)).move hgrows rfl (by simp) (by simp)
      fun _ x _ hreads _ => Or.inr (hreads.next hpc)
  | leave => exact fun c hw => (hserves c (update_none_iff.mp hw).2).mono hgrows rfl
  | _ => exact fun c hw => (hserves c hw).mono hgrows rfl

/-- A cycle that has read to the end leaves nothing it served. -/
theorem handedOver (h : CycleServes createdAt kind schoolId owed s c) (hread : c.ReadToEnd) :
    ∀ x ∈ owed, HandedOver schoolId s x := by
  obtain ⟨hpc, htodo, hcomplete⟩ := hread
  intro x hx
  rcases h hcomplete x hx with hdone | ⟨hreads, -⟩
  · exact hdone
  · obtain ⟨-, e, he, -⟩ := hreads.of_between hpc
    rw [SchoolCycle.remaining, htodo] at he
    cases he

end CycleServes

/-! ## Whole runs -/

/-- What a run keeps, from the start of a poller's cycle on, of what was owed then. -/
structure Serving (createdAt : Nat → Nat) (accounts : Nat → List String) (kind : DocumentKind)
    (schoolId : String) (owed : List (Nat × String)) (w : Nat) (s : WalletSystem) : Prop where
  inv : WalletInv createdAt accounts kind schoolId s
  kept : owed ⊆ s.owed
  cycle : ∀ c, s.cycles w = some c → CycleServes createdAt kind schoolId owed s c

theorem Serving.step {w : Nat} (h : Serving createdAt accounts kind schoolId owed w s)
    {a : WalletAction} (hsafe : WalletSafe createdAt accounts kind schoolId s a)
    (hmove : WalletMove createdAt accounts kind schoolId maxPages s a s') :
    Serving createdAt accounts kind schoolId owed w s' where
  inv := h.inv.step hsafe hmove
  kept := List.Subset.trans h.kept hmove.grows.owed
  cycle := CycleServes.step h.inv h.kept hsafe hmove h.cycle

/-- A cycle starts, and serves what is owed by then. -/
theorem Serving.begin {w : Nat} (hinv : WalletInv createdAt accounts kind schoolId s)
    (hmove : WalletMove createdAt accounts kind schoolId maxPages s (.begin w) s') :
    Serving createdAt accounts kind schoolId s.owed w s' := by
  have hgrows := hmove.grows
  refine ⟨hinv.step (show WalletSafe createdAt accounts kind schoolId s (.begin w) from trivial)
    hmove, hgrows.owed, ?_⟩
  cases hmove with
  | begin =>
    intro c hc
    rcases update_some_iff.mp hc with ⟨-, rfl⟩ | ⟨hne, -⟩
    · exact (CycleServes.start hinv (List.Subset.refl _)).mono hgrows rfl
    · exact absurd rfl hne

/-- What a run of safe steps reaches. -/
theorem WalletInv.reach {s₀ : WalletSystem} (h₀ : WalletInv createdAt accounts kind schoolId s₀)
    (h : Reach (walletStep createdAt accounts kind schoolId maxPages)
      (WalletSafe createdAt accounts kind schoolId) s₀ s) :
    WalletInv createdAt accounts kind schoolId s :=
  h.invariant h₀ fun hinv hsafe hstep => hinv.step hsafe (walletStep_move hstep)

/-- **A rotation loses no payment in a run of safe steps**: once a cycle that started later has read
every wallet to the end, each transaction that reached an address while it was watched, and with
`backfill` the earlier history of the new one, was handed over with the school's id and the
address. -/
theorem rotation_loses_nothing {now : Nat} {ledger : Ledger} {school : WalletDocument}
    {s₀ s₁ : WalletSystem} {w : Nat}
    (hcurrent : school.syncCursor ≤ ledger.position)
    (hretired : ∀ e ∈ school.walletHistory, e.cursor ≤ ledger.position)
    (hrun : Reach (walletStep createdAt accounts kind schoolId maxPages)
      (WalletSafe createdAt accounts kind schoolId) (.init now ledger school) s₀)
    (hbegin : walletStep createdAt accounts kind schoolId maxPages s₀ (.begin w) = some s₁)
    (hcycle : Reach (walletStep createdAt accounts kind schoolId maxPages)
      (WalletSafe createdAt accounts kind schoolId) s₁ s)
    (hw : s.cycles w = some c) (hread : c.ReadToEnd) :
    ∀ x ∈ s₀.owed, HandedOver schoolId s x := by
  have hinv := (WalletInv.init hcurrent hretired).reach hrun
  have hstart : Serving createdAt accounts kind schoolId s₀.owed w s₁ :=
    .begin hinv (walletStep_move hbegin)
  have hend : Serving createdAt accounts kind schoolId s₀.owed w s :=
    hcycle.invariant hstart fun h hsafe hstep => h.step hsafe (walletStep_move hstep)
  exact (hend.cycle c hw).handedOver hread

end

/-- The steps of a school whose transactions are ten milliseconds apart. -/
abbrev schoolStep (accounts : Nat → List String) : WalletSystem → WalletAction → Option WalletSystem :=
  walletStep (10 * ·) accounts .hydrated "SCH-1" 50

/-- The school before its first transaction. -/
abbrev newSchool : WalletSystem := .init 5 ⟨[], .nil, by simp⟩ ⟨"GOLD", 0, [], some 5⟩

/-- A payment to the old wallet before a rotation with `backfill`, and one to the new wallet after
it. -/
theorem rotation_loses_nothing_backfill :
    ∃ s₀ s : WalletSystem, s₀.owed = [(1, "GOLD"), (2, "GNEW")] ∧
      s₀.school.walletHistory.map (·.address) = ["GOLD"] ∧
      ∀ x ∈ s₀.owed, HandedOver "SCH-1" s x := by
  have h : ((execOk (schoolStep fun t => if t = 1 then ["GOLD"] else ["GNEW"])
      (WalletSafe (10 * ·) (fun t => if t = 1 then ["GOLD"] else ["GNEW"]) .hydrated "SCH-1")
      newSchool [.arrive 1, .begin 0, .fetch 0, .examine 0, .store 0, .next 0, .leave 0,
        .read 0 (.rotateStellarAddress true) "GNEW", .build 0, .write 0 15, .arrive 2]).bind fun s₀ =>
      (schoolStep (fun t => if t = 1 then ["GOLD"] else ["GNEW"]) s₀ (.begin 0)).bind fun s₁ =>
      (execOk (schoolStep fun t => if t = 1 then ["GOLD"] else ["GNEW"])
        (WalletSafe (10 * ·) (fun t => if t = 1 then ["GOLD"] else ["GNEW"]) .hydrated "SCH-1")
        s₁ [.fetch 0, .examine 0, .store 0, .next 0, .fetch 0, .next 0]).bind fun s =>
      (s.cycles 0).map fun c => (s₀.owed, s₀.school.walletHistory.map (·.address),
        decide c.ReadToEnd)) =
      some ([(1, "GOLD"), (2, "GNEW")], ["GOLD"], true) := by decide +kernel
  obtain ⟨s₀, h₀, h⟩ := Option.bind_eq_some_iff.mp h
  obtain ⟨s₁, h₁, h⟩ := Option.bind_eq_some_iff.mp h
  obtain ⟨s, hs, h⟩ := Option.bind_eq_some_iff.mp h
  obtain ⟨c, hc, h⟩ := Option.map_eq_some_iff.mp h
  simp only [Prod.mk.injEq, decide_eq_true_eq] at h
  obtain ⟨howed, hhistory, hread⟩ := h
  exact ⟨s₀, s, howed, hhistory, rotation_loses_nothing (by decide) (by decide)
    (.of_execOk h₀) h₁ (.of_execOk hs) hc hread⟩

/-- A payment to the wallet a school has just retired: the cycle reads every wallet to the end, no
drain window passes, and what it hands over has no school. -/
theorem draining_payment_without_school :
    ∃ (s₀ s₁ s : WalletSystem) (c : SchoolCycle),
      Reach (schoolStep fun _ => ["GOLD"]) Free newSchool s₀ ∧
      schoolStep (fun _ => ["GOLD"]) s₀ (.begin 0) = some s₁ ∧
      Reach (schoolStep fun _ => ["GOLD"]) Free s₁ s ∧
      s.cycles 0 = some c ∧ c.ReadToEnd ∧ s.now = newSchool.now ∧
      (1, "GOLD") ∈ s₀.owed ∧ ¬ HandedOver "SCH-1" s (1, "GOLD") := by
  have h : ((exec (schoolStep fun _ => ["GOLD"]) newSchool
      [.read 0 (.rotateStellarAddress false) "GNEW", .build 0, .write 0 5, .arrive 1]).bind fun s₀ =>
      (schoolStep (fun _ => ["GOLD"]) s₀ (.begin 0)).bind fun s₁ =>
      (exec (schoolStep fun _ => ["GOLD"]) s₁
        [.fetch 0, .next 0, .fetch 0, .examine 0, .store 0, .next 0]).bind fun s =>
      (s.cycles 0).map fun c => (s₀.owed, s.handed, s.now, decide c.ReadToEnd)) =
      some ([(1, "GOLD")], [(⟨none, "GOLD"⟩, 1)], 5, true) := by decide +kernel
  obtain ⟨s₀, h₀, h⟩ := Option.bind_eq_some_iff.mp h
  obtain ⟨s₁, h₁, h⟩ := Option.bind_eq_some_iff.mp h
  obtain ⟨s, hs, h⟩ := Option.bind_eq_some_iff.mp h
  obtain ⟨c, hc, h⟩ := Option.map_eq_some_iff.mp h
  simp only [Prod.mk.injEq, decide_eq_true_eq] at h
  obtain ⟨howed, hhanded, hnow, hread⟩ := h
  refine ⟨s₀, s₁, s, c, reach_of_exec h₀, h₁, reach_of_exec hs, hc, hread, hnow, by simp [howed], ?_⟩
  rw [HandedOver, hhanded]
  decide

end StellarEduPay

import StellarEduPay.PollCursor

/-! # Progress of the polling

Without failures every cycle reads on where the last one of its address stopped, so
the examinations of an address are a prefix of its history, each once, as long as the
cycles allowed.  `OnceInv` is that statement in the middle of a cycle.  Enough cycles
with a page each then examine everything.
-/
namespace StellarEduPay
open Runs Cursors

section
variable {history : String → WalletHistory} {beforeIngestStart : String → Nat → Bool}
  {maxPages : Nat}

/-! ## Exactly once -/

/-- The tokens of an address that were examined, in order. -/
def examined (log : List Examination) (address : String) : List Nat :=
  (log.filter (·.address = address)).map (·.token)

namespace PollState

/-- How far the address of a slot has been read: the cursor of its cycle, or the stored one. -/
def reached (s : PollState) (e : WalletEntry) : Nat :=
  match s.worker with
  | some (c, _) => if c.address = e.address then c.cursor else e.cursor
  | none => e.cursor

/-- How many transactions of an address its cycle may still examine. -/
def left (s : PollState) (address : String) : Nat :=
  match s.worker with
  | some (c, .fetching) => if c.address = address then c.batchSize * c.pagesLeft else 0
  | some (c, .page records _) =>
    if c.address = address then records.length + c.batchSize * c.pagesLeft else 0
  | none => 0

end PollState

variable (history)

/-- Nothing fails, stalls or finds its lock taken over, and a fetch sees the whole history. -/
def FailureFree (s : PollState) : PollAction → Prop
  | .begin _ _ _ => True
  | .fetch visible => ∀ c pc, s.worker = some (c, pc) →
      (history c.address).tokens.length ≤ visible
  | .fetchFails => False
  | .examine result => result ≠ .threw ∧ result ≠ .skipped .staleLock
  | .persist succeeds => succeeds = true
  | .crash => False

/-- The examinations of an address are the first of what came after its cursor, as many as its
cycles allowed. -/
structure SlotOnce (s : PollState) (e₀ e : WalletEntry) : Prop where
  address : e.address = e₀.address
  split : after (history e.address).tokens e₀.cursor =
    examined s.log e.address ++ after (history e.address).tokens (s.reached e)
  allowed : (after (history e.address).tokens e₀.cursor).take (s.allowance e.address) =
    examined s.log e.address ++
      (after (history e.address).tokens (s.reached e)).take (s.left e.address)

/-- What holds of a cycle without failures. -/
structure CycleOnce (s : PollState) (c : PollCycle) (pc : PollPc) : Prop where
  address : c.address = (s.school.target c.retired).address
  listed : ∀ r ∈ c.retired, r.address ∈ s.school.walletHistory.map (·.address)
  batchSize : 0 < c.batchSize
  startCursor : c.startCursor ≤ c.cursor
  fetching : pc = .fetching → ∀ e ∈ s.school.slots, e.address = c.address → e.cursor = c.cursor
  page : ∀ records size, pc = .page records size →
    ∃ more, after (history c.address).tokens c.cursor = records ++ more ∧
      (size < c.batchSize → more = []) ∧ (records = [] → c.startCursor < c.cursor)

structure OnceInv (school : SchoolWallets) (s : PollState) : Prop where
  slots : List.Forall₂ (SlotOnce history s) school.slots s.school.slots
  worker : ∀ c pc, s.worker = some (c, pc) → CycleOnce history s c pc

variable {history}

theorem OnceInv.init (school : SchoolWallets) : OnceInv history school (.init school) where
  slots := by
    refine List.forall₂_same.mpr fun e _ => ⟨rfl, rfl, ?_⟩
    simp [PollState.init, PollState.left, examined]
  worker := by intro c pc h; cases h

theorem SchoolWallets.Distinct.unique {school : SchoolWallets} (hd : school.Distinct)
    {e e' : WalletEntry} (he : e ∈ school.slots) (he' : e' ∈ school.slots)
    (h : e.address = e'.address) : e = e' :=
  List.inj_on_of_nodup_map hd he he' h

theorem exists_right_of_forall₂ {R : WalletEntry → WalletEntry → Prop} {l₀ l : List WalletEntry}
    (h : List.Forall₂ R l₀ l) {e₀ : WalletEntry} (he₀ : e₀ ∈ l₀) : ∃ e ∈ l, R e₀ e :=
  exists_left_of_forall₂ h.flip he₀

/-- A relation survives the storing of a cursor if it does on every slot of the address
polled. -/
theorem forall₂_persist {R : WalletEntry → WalletEntry → Prop} {l₀ : List WalletEntry}
    {school : SchoolWallets} {retired : Option WalletEntry} {cursor : Nat}
    (h : List.Forall₂ R l₀ school.slots)
    (hset : ∀ e₀ ∈ l₀, ∀ e, R e₀ e → e.address = (school.target retired).address →
      R e₀ { e with cursor := cursor }) :
    List.Forall₂ R l₀ (school.persist retired cursor).slots := by
  cases retired with
  | none =>
    obtain ⟨e₀, l, hR, hl, rfl⟩ : ∃ e₀ l, R e₀ ⟨school.stellarAddress, school.syncCursor⟩ ∧
        List.Forall₂ R l school.walletHistory ∧ l₀ = e₀ :: l := by
      cases h with
      | cons hR hl => exact ⟨_, _, hR, hl, rfl⟩
    exact .cons (hset e₀ (List.mem_cons_self ..) _ hR rfl) hl
  | some entry =>
    cases h with
    | cons hR hl =>
      exact .cons hR (forall₂_setCursor hl fun e₀ he₀ => hset e₀ (List.mem_cons_of_mem _ he₀))

theorem forall₂_imp_mem {R S : WalletEntry → WalletEntry → Prop} {l₀ l : List WalletEntry}
    (h : List.Forall₂ R l₀ l) (himp : ∀ e₀, ∀ e ∈ l, R e₀ e → S e₀ e) : List.Forall₂ S l₀ l := by
  induction h with
  | nil => exact .nil
  | cons hR _ ih =>
    exact .cons (himp _ _ (List.mem_cons_self ..) hR)
      (ih fun e₀ e he => himp e₀ e (List.mem_cons_of_mem _ he))

theorem setCursor_addresses (address : String) (cursor : Nat) (l : List WalletEntry) :
    (setCursor address cursor l).map (·.address) = l.map (·.address) := by
  induction l with
  | nil => rfl
  | cons e l ih =>
    unfold setCursor
    split
    · rfl
    · rw [List.map_cons, List.map_cons, ih]

theorem cursor_setCursor {address : String} {cursor : Nat} {l : List WalletEntry}
    (hn : (l.map (·.address)).Nodup) {e : WalletEntry} (he : e ∈ setCursor address cursor l)
    (hea : e.address = address) : e.cursor = cursor := by
  induction l with
  | nil => cases he
  | cons x l ih =>
    obtain ⟨hx, hn⟩ := List.nodup_cons.mp hn
    unfold setCursor at he
    split at he
    · rename_i hxa
      rcases List.mem_cons.mp he with rfl | he
      · rfl
      · exact absurd (List.mem_map.mpr ⟨e, he, hea.trans hxa.symm⟩) hx
    · rename_i hxa
      rcases List.mem_cons.mp he with rfl | he
      · exact absurd hea hxa
      · exact ih hn he

/-- With distinct addresses, the stored cursor is the one of the address polled. -/
theorem cursor_persist {school : SchoolWallets} (hd : school.Distinct)
    {retired : Option WalletEntry} {cursor : Nat}
    (hlisted : ∀ r ∈ retired, r.address ∈ school.walletHistory.map (·.address)) {e : WalletEntry}
    (he : e ∈ (school.persist retired cursor).slots)
    (hea : e.address = (school.target retired).address) : e.cursor = cursor := by
  obtain ⟨hcurrent, hn⟩ := List.nodup_cons.mp hd
  cases retired with
  | none =>
    rcases List.mem_cons.mp he with rfl | he
    · rfl
    · exact absurd (List.mem_map.mpr ⟨e, he, hea⟩) hcurrent
  | some r =>
    rcases List.mem_cons.mp he with rfl | he
    · have hr : r.address = school.stellarAddress := hea.symm
      exact absurd (hr ▸ hlisted r rfl) hcurrent
    · exact cursor_setCursor hn he hea

theorem persist_addresses (school : SchoolWallets) (retired : Option WalletEntry) (cursor : Nat) :
    (school.persist retired cursor).walletHistory.map (·.address) =
      school.walletHistory.map (·.address) := by
  cases retired with
  | none => rfl
  | some r => exact setCursor_addresses ..

namespace PollState
variable {s : PollState} {c : PollCycle}

theorem reached_of_ne {pc : PollPc} (hw : s.worker = some (c, pc)) {e : WalletEntry}
    (hne : e.address ≠ c.address) : s.reached e = e.cursor := by
  simp [reached, hw, Ne.symm hne]

theorem reached_of_eq {pc : PollPc} (hw : s.worker = some (c, pc)) {e : WalletEntry}
    (heq : e.address = c.address) : s.reached e = c.cursor := by
  simp [reached, hw, heq]

theorem left_of_ne {pc : PollPc} (hw : s.worker = some (c, pc)) {address : String}
    (hne : address ≠ c.address) : s.left address = 0 := by
  cases pc <;> simp [left, hw, Ne.symm hne]

theorem left_fetching (hw : s.worker = some (c, .fetching)) :
    s.left c.address = c.batchSize * c.pagesLeft := by
  simp [left, hw]

theorem left_page {records : List Nat} {size : Nat} (hw : s.worker = some (c, .page records size)) :
    s.left c.address = records.length + c.batchSize * c.pagesLeft := by
  simp [left, hw]

end PollState

theorem examined_append (log : List Examination) (address : String) (t : Nat)
    (result : Option PollResult) :
    examined (log ++ [⟨address, t, result⟩]) address = examined log address ++ [t] := by
  simp [examined]

theorem examined_append_of_ne {address address' : String} (hne : address' ≠ address)
    (log : List Examination) (t : Nat) (result : Option PollResult) :
    examined (log ++ [⟨address, t, result⟩]) address' = examined log address' := by
  simp [examined, Ne.symm hne]

theorem take_add_of_append {l done rest : List Nat} {n : Nat} (hl : l = done ++ rest)
    (hn : l.take n = done) (m : Nat) : l.take (n + m) = done ++ rest.take m := by
  have hlen := congrArg List.length hn
  rw [List.length_take, hl, List.length_append] at hlen
  rw [hl]
  rcases Nat.lt_or_ge (done.length + rest.length) n with hlt | hge
  · obtain rfl : rest = [] := List.eq_nil_of_length_eq_zero (by omega)
    simp only [List.append_nil, List.take_nil, List.length_nil] at hlt ⊢
    exact List.take_of_length_le (by omega)
  · obtain rfl : n = done.length := by omega
    rw [List.take_length_add_append]

namespace OnceInv
variable {school : SchoolWallets} {s : PollState} {c : PollCycle}

theorem distinct (h : OnceInv history school s) (hd : school.Distinct) : s.school.Distinct := by
  have haddr : ∀ {l₀ l : List WalletEntry}, List.Forall₂ (SlotOnce history s) l₀ l →
      l.map (·.address) = l₀.map (·.address) := by
    intro l₀ l hall
    induction hall with
    | nil => rfl
    | cons hslot _ ih => rw [List.map_cons, List.map_cons, ih, hslot.address]
  unfold SchoolWallets.Distinct
  rw [haddr h.slots]
  exact hd

/-- A cycle that has stored its cursor and may examine nothing more is over. -/
theorem finish (h : OnceInv history school s) {pc : PollPc} (hw : s.worker = some (c, pc))
    (hstored : ∀ e ∈ s.school.slots, e.address = c.address → e.cursor = c.cursor)
    (hleft : (after (history c.address).tokens c.cursor).take (s.left c.address) = []) :
    OnceInv history school { s with worker := none } := by
  refine ⟨forall₂_imp_mem h.slots fun e₀ e he hslot => ?_, by intro c pc h; cases h⟩
  by_cases hea : e.address = c.address
  · have hreached := PollState.reached_of_eq hw hea
    have hcur := hstored e he hea
    refine ⟨hslot.address, ?_, ?_⟩
    · rw [hslot.split, hreached, ← hcur]; rfl
    · rw [hslot.allowed, hreached, hea, hleft]
      simp [PollState.left]
  · have hreached := PollState.reached_of_ne hw hea
    refine ⟨hslot.address, ?_, ?_⟩
    · rw [hslot.split, hreached]; rfl
    · rw [hslot.allowed, PollState.left_of_ne hw hea]
      simp [PollState.left]

/-- A cycle moves on within its page or to the next, with the same number of transactions still
to examine. -/
theorem moves (h : OnceInv history school s) {c' : PollCycle} {pc pc' : PollPc}
    (hw : s.worker = some (c, pc)) (haddr : c'.address = c.address) (hcursor : c'.cursor = c.cursor)
    (hleft : (after (history c.address).tokens c.cursor).take
        (PollState.left { s with worker := some (c', pc') } c.address) =
      (after (history c.address).tokens c.cursor).take (s.left c.address))
    (hcycle : CycleOnce history { s with worker := some (c', pc') } c' pc') :
    OnceInv history school { s with worker := some (c', pc') } := by
  refine ⟨forall₂_imp_mem h.slots fun e₀ e _ hslot => ?_, by rintro _ _ ⟨⟩; exact hcycle⟩
  have hw' : PollState.worker { s with worker := some (c', pc') } = some (c', pc') := rfl
  by_cases hea : e.address = c.address
  · have hreached := PollState.reached_of_eq hw hea
    have hreached' := PollState.reached_of_eq hw' (hea.trans haddr.symm)
    refine ⟨hslot.address, ?_, ?_⟩
    · rw [hslot.split, hreached, hreached', hcursor]
    · rw [hslot.allowed, hreached, hreached', hcursor, hea, hleft]
  · have hreached := PollState.reached_of_ne hw hea
    have hea' : e.address ≠ c'.address := haddr ▸ hea
    have hreached' := PollState.reached_of_ne hw' hea'
    refine ⟨hslot.address, ?_, ?_⟩
    · rw [hslot.split, hreached, hreached']
    · rw [hslot.allowed, hreached, hreached', PollState.left_of_ne hw hea,
        PollState.left_of_ne hw' hea']

/-- A cycle starts with room for as many transactions as its pages have. -/
theorem begins (h : OnceInv history school s) (hd : school.Distinct) (hw : s.worker = none)
    {retired : Option WalletEntry} {batchSize pages : Nat} (hb : 0 < batchSize)
    (hr : ∀ e ∈ retired, e ∈ s.school.walletHistory) :
    OnceInv history school { s with
      worker := some (⟨retired, (s.school.target retired).address, batchSize, pages,
        (s.school.target retired).cursor, (s.school.target retired).cursor, false⟩, .fetching)
      allowance := Function.update s.allowance (s.school.target retired).address
        (s.allowance (s.school.target retired).address + batchSize * pages) } := by
  have hslot : s.school.target retired ∈ s.school.slots := by
    cases retired with
    | none => exact List.mem_cons_self ..
    | some e => exact List.mem_cons_of_mem _ (hr e rfl)
  have hreached : ∀ e, s.reached e = e.cursor := fun e => by simp [PollState.reached, hw]
  have hleft : ∀ a, s.left a = 0 := fun a => by simp [PollState.left, hw]
  refine ⟨forall₂_imp_mem h.slots fun e₀ e he hone => ?_, ?_⟩
  · have hdone := hone.allowed
    rw [hleft, List.take_zero, List.append_nil] at hdone
    have hsplit := hone.split
    rw [hreached] at hsplit
    by_cases hea : e.address = (s.school.target retired).address
    · obtain rfl : e = s.school.target retired := (h.distinct hd).unique he hslot hea
      refine ⟨hone.address, ?_, ?_⟩
      · simpa [PollState.reached] using hsplit
      · simpa [PollState.reached, PollState.left] using
          take_add_of_append hsplit hdone (batchSize * pages)
    · refine ⟨hone.address, ?_, ?_⟩
      · simpa [PollState.reached, Ne.symm hea] using hsplit
      · simpa [PollState.left, Ne.symm hea, Function.update_of_ne hea] using hdone
  · rintro _ _ ⟨⟩
    refine ⟨rfl, ?_, hb, Nat.le_refl _, fun _ e he hea => ?_, by rintro _ _ ⟨⟩⟩
    · intro r hrr
      exact List.mem_map.mpr ⟨r, hr r hrr, rfl⟩
    · rw [(h.distinct hd).unique he hslot hea]

/-- A transaction is examined. -/
theorem examines (h : OnceInv history school s) {t size : Nat} {records : List Nat}
    (hw : s.worker = some (c, .page (t :: records) size)) (result : Option PollResult) (stale : Bool) :
    OnceInv history school { s with
      worker := some ({ c with cursor := t, stale := stale }, .page records size)
      log := s.log ++ [⟨c.address, t, result⟩] } := by
  have hcycle := h.worker _ _ hw
  obtain ⟨more, hmore, hshort, -⟩ := hcycle.page _ _ rfl
  obtain ⟨hafter, hlt, -, -⟩ := after_of_cons (history c.address).ascending hmore
  refine ⟨forall₂_imp_mem h.slots fun e₀ e _ hone => ?_, ?_⟩
  · by_cases hea : e.address = c.address
    · have hsplit := hone.split
      have hallowed := hone.allowed
      rw [PollState.reached_of_eq hw hea, hea, hmore] at hsplit hallowed
      rw [PollState.left_page hw] at hallowed
      refine ⟨hone.address, ?_, ?_⟩
      · simp only [PollState.reached, hea, if_true, examined_append, hafter]
        simpa using hsplit
      · simp only [PollState.reached, PollState.left, hea, if_true, examined_append, hafter]
        rw [hallowed, List.length_cons, Nat.add_right_comm, List.cons_append, List.take_succ_cons]
        simp
    · refine ⟨hone.address, ?_, ?_⟩
      · have hsplit := hone.split
        rw [PollState.reached_of_ne hw hea] at hsplit
        simpa [PollState.reached, Ne.symm hea, examined_append_of_ne hea] using hsplit
      · have hallowed := hone.allowed
        rw [PollState.left_of_ne hw hea] at hallowed
        simpa [PollState.left, Ne.symm hea, examined_append_of_ne hea] using hallowed
  · rintro _ _ ⟨⟩
    refine ⟨hcycle.address, hcycle.listed, hcycle.batchSize,
      Nat.le_of_lt (Nat.lt_of_le_of_lt hcycle.startCursor hlt), by rintro ⟨⟩, ?_⟩
    rintro _ _ ⟨⟩
    exact ⟨more, hafter, hshort, fun _ => Nat.lt_of_le_of_lt hcycle.startCursor hlt⟩

/-- The cursor of a cycle is stored. -/
theorem stores (h : OnceInv history school s) {records : List Nat} {size : Nat}
    (hw : s.worker = some (c, .page records size)) :
    OnceInv history school { s with school := s.school.persist c.retired c.cursor } := by
  have hcycle := h.worker _ _ hw
  have hslots : List.Forall₂ (SlotOnce history s) school.slots
      (s.school.persist c.retired c.cursor).slots := by
    refine forall₂_persist h.slots fun e₀ _ e hone hea => ?_
    -- while the cycle runs, the stored cursor does not say how far it has read
    have hec : e.address = c.address := hea.trans hcycle.address.symm
    have hreached : s.reached { e with cursor := c.cursor } = s.reached e :=
      (PollState.reached_of_eq (e := { e with cursor := c.cursor }) hw hec).trans
        (PollState.reached_of_eq hw hec).symm
    exact ⟨hone.address, by rw [hreached]; exact hone.split, by rw [hreached]; exact hone.allowed⟩
  refine ⟨hslots.imp fun _ _ hone => ⟨hone.address, hone.split, hone.allowed⟩, fun c' pc hw' => ?_⟩
  obtain ⟨rfl, rfl⟩ : c = c' ∧ PollPc.page records size = pc := by
    simpa [hw] using (hw' : s.worker = some (c', pc))
  refine ⟨hcycle.address.trans (target_persist ..).symm, ?_, hcycle.batchSize, hcycle.startCursor,
    by rintro ⟨⟩, hcycle.page⟩
  intro r hr
  exact (persist_addresses s.school c.retired c.cursor) ▸ hcycle.listed r hr

/-- A page has been fetched with the whole history in sight. -/
theorem fetches (h : OnceInv history school s) (hw : s.worker = some (c, .fetching))
    {visible : Nat} (hvisible : (history c.address).tokens.length ≤ visible)
    (hpages : c.pagesLeft ≠ 0) (hne : nextPage history c visible ≠ []) :
    OnceInv history school { s with worker := some ({ c with pagesLeft := c.pagesLeft - 1 },
      .page (nextPage history c visible) (nextPage history c visible).length) } := by
  have hcycle := h.worker _ _ hw
  have hpage : nextPage history c visible =
      (after (history c.address).tokens c.cursor).take c.batchSize := by
    rw [nextPage, List.take_of_length_le hvisible]
  refine h.moves hw rfl rfl ?_ ⟨hcycle.address, hcycle.listed, hcycle.batchSize, hcycle.startCursor,
    by rintro ⟨⟩, ?_⟩
  · rw [PollState.left_fetching hw]
    simp only [PollState.left, if_true, hpage, List.length_take]
    -- a full page takes up a batch, and a short one is all there is
    have hmul : c.batchSize * c.pagesLeft = c.batchSize + c.batchSize * (c.pagesLeft - 1) := by
      obtain ⟨n, hn⟩ := Nat.exists_eq_succ_of_ne_zero hpages
      rw [hn, Nat.succ_sub_one, Nat.mul_succ, Nat.add_comm]
    rcases Nat.lt_or_ge (after (history c.address).tokens c.cursor).length c.batchSize with hlt | hge
    · rw [Nat.min_eq_right (Nat.le_of_lt hlt), List.take_of_length_le (Nat.le_add_right ..),
        List.take_of_length_le (by omega)]
    · rw [Nat.min_eq_left hge, hmul]
  · rintro _ _ ⟨⟩
    refine ⟨(after (history c.address).tokens c.cursor).drop c.batchSize, ?_, fun hshort => ?_,
      fun hnil => absurd hnil hne⟩
    · rw [hpage]; exact (List.take_append_drop ..).symm
    · have hlen : (nextPage history c visible).length < c.batchSize := hshort
      rw [hpage, List.length_take] at hlen
      exact List.drop_eq_nil_of_le (by omega)

/-- A page ends and its cursor, which has moved, is stored. -/
theorem persist (h : OnceInv history school s) (hd : school.Distinct) {s' : PollState}
    (hstep : pollStep history beforeIngestStart maxPages s (.persist true) = some s') :
    OnceInv history school s' := by
  simp only [pollStep] at hstep
  split at hstep
  · rename_i c size hw
    have hcycle := h.worker _ _ hw
    obtain ⟨more, hmore, hshort, hmoved⟩ := hcycle.page _ _ rfl
    have hlt := hmoved rfl
    have hwrites : c.cursor ≠ 0 ∧ c.cursor ≠ c.startCursor := ⟨by omega, by omega⟩
    rw [if_neg (by simp), if_pos hwrites] at hstep
    cases hstep
    have hstores := h.stores hw
    have hcur : ∀ e ∈ (s.school.persist c.retired c.cursor).slots, e.address = c.address →
        e.cursor = c.cursor := fun e he hea =>
      cursor_persist (h.distinct hd) hcycle.listed he (hea.trans hcycle.address)
    split
    · rename_i hsize
      refine hstores.finish hw hcur ?_
      rw [hmore, hshort hsize]
      exact List.take_nil
    · refine hstores.moves hw rfl rfl ?_ ?_
      · rw [PollState.left_page (show PollState.worker { s with
          school := s.school.persist c.retired c.cursor } = _ from hw),
          PollState.left_fetching (show PollState.worker { s with
            school := s.school.persist c.retired c.cursor
            worker := some (c, .fetching) } = _ from rfl),
          List.length_nil, Nat.zero_add]
      · have hc := hstores.worker c _ hw
        exact ⟨hc.address, hc.listed, hc.batchSize, hc.startCursor, fun _ => hcur, by rintro _ _ ⟨⟩⟩
  · cases hstep

/-- **One step without failures keeps the invariant.** -/
theorem step (h : OnceInv history school s) (hd : school.Distinct) {a : PollAction} {s' : PollState}
    (hok : FailureFree history s a)
    (hstep : pollStep history beforeIngestStart maxPages s a = some s') :
    OnceInv history school s' := by
  cases a with
  | begin retired batchSize pages =>
    simp only [pollStep] at hstep
    split at hstep
    · cases hstep
    split at hstep <;> cases hstep
    rename_i hw hen
    exact h.begins hd hw hen.1 hen.2.2
  | fetch visible =>
    simp only [pollStep] at hstep
    split at hstep
    · rename_i c hw
      have hcycle := h.worker _ _ hw
      have hvisible := hok c _ hw
      split at hstep
      · rename_i hpages
        cases hstep
        refine h.finish hw (hcycle.fetching rfl) ?_
        rw [PollState.left_fetching hw, hpages, Nat.mul_zero, List.take_zero]
      split at hstep <;> cases hstep
      · rename_i hpages hempty
        refine h.finish hw (hcycle.fetching rfl) ?_
        have hnil : (after (history c.address).tokens c.cursor).take c.batchSize = [] := by
          simpa [nextPage, List.take_of_length_le hvisible] using hempty
        rcases List.take_eq_nil_iff.mp hnil with hzero | hnil
        · exact absurd hzero (Nat.ne_of_gt hcycle.batchSize)
        · rw [hnil, List.take_nil]
      · rename_i hpages hempty
        exact h.fetches hw hvisible hpages (by simpa using hempty)
    · cases hstep
  | fetchFails => exact hok.elim
  | examine result =>
    simp only [pollStep] at hstep
    split at hstep
    · rename_i c t records size hw
      split at hstep
      · cases hstep; exact h.examines hw none c.stale
      · split at hstep
        · rename_i hthrew; exact absurd hthrew hok.1
        · cases hstep; exact h.examines hw (some result) _
    · cases hstep
  | persist succeeds =>
    obtain rfl : succeeds = true := hok
    exact h.persist hd hstep
  | crash => exact hok.elim

end OnceInv

/-! ## Cycles complete -/

variable (history beforeIngestStart maxPages)

/-- The cycle under way, if any, can run to its end without failures. -/
def Completes (s : PollState) : Prop :=
  ∃ s', Reach (pollStep history beforeIngestStart maxPages) (FailureFree history) s s' ∧
    s'.worker = none ∧ s'.allowance = s.allowance

variable {history beforeIngestStart maxPages}

theorem Completes.idle {s : PollState} (hw : s.worker = none) :
    Completes history beforeIngestStart maxPages s :=
  ⟨s, .refl, hw, rfl⟩

theorem Completes.head {s u : PollState} {a : PollAction} (hok : FailureFree history s a)
    (hstep : pollStep history beforeIngestStart maxPages s a = some u)
    (hallow : u.allowance = s.allowance) (h : Completes history beforeIngestStart maxPages u) :
    Completes history beforeIngestStart maxPages s := by
  obtain ⟨s', hrun, hidle, hallow'⟩ := h
  exact ⟨s', .head hok hstep hrun, hidle, hallow'.trans hallow⟩

/-- From a page on, if the cycle completes from the next fetch on. -/
theorem completes_page {pages size : Nat} (hfetch : ∀ (u : PollState) (c : PollCycle),
      u.worker = some (c, .fetching) → c.pagesLeft = pages →
      Completes history beforeIngestStart maxPages u) {records : List Nat} :
    ∀ {s : PollState} {c : PollCycle}, s.worker = some (c, .page records size) →
      c.pagesLeft = pages → Completes history beforeIngestStart maxPages s := by
  induction records with
  | nil =>
    intro s c hw hpages
    have hstep : pollStep history beforeIngestStart maxPages s (.persist true) = some { s with
        school := if c.cursor ≠ 0 ∧ c.cursor ≠ c.startCursor
          then s.school.persist c.retired c.cursor else s.school
        worker := if size < c.batchSize then none else some (c, .fetching) } := by
      simp [pollStep, hw]
    have hok : FailureFree history s (.persist true) := rfl
    refine Completes.head hok hstep rfl ?_
    by_cases hsize : size < c.batchSize
    · exact Completes.idle (if_pos hsize)
    · exact hfetch _ c (if_neg hsize) hpages
  | cons t records ih =>
    intro s c hw hpages
    have hok : FailureFree history s (.examine (.skipped .duplicate)) := ⟨by simp, by simp⟩
    obtain ⟨u, d, hstep, hwu, hleft, hallow⟩ : ∃ u d,
        pollStep history beforeIngestStart maxPages s (.examine (.skipped .duplicate)) = some u ∧
        u.worker = some (d, .page records size) ∧ d.pagesLeft = c.pagesLeft ∧
        u.allowance = s.allowance := by
      simp only [pollStep, hw]
      split
      · exact ⟨_, _, rfl, rfl, rfl, rfl⟩
      · exact ⟨_, _, rfl, rfl, rfl, rfl⟩
    exact Completes.head hok hstep hallow (ih hwu (hleft.trans hpages))

theorem failureFree_fetch {s : PollState} {c : PollCycle} {pc : PollPc}
    (hw : s.worker = some (c, pc)) :
    FailureFree history s (.fetch (history c.address).tokens.length) := by
  intro c' pc' hw'
  cases hw.symm.trans hw'
  exact Nat.le_refl _

theorem completes_fetching (pages : Nat) : ∀ (s : PollState) (c : PollCycle),
    s.worker = some (c, .fetching) → c.pagesLeft = pages →
    Completes history beforeIngestStart maxPages s := by
  induction pages with
  | zero =>
    intro s c hw hpages
    have hstep : pollStep history beforeIngestStart maxPages s
        (.fetch (history c.address).tokens.length) = some { s with worker := none } := by
      simp only [pollStep, hw]
      exact if_pos hpages
    exact Completes.head (failureFree_fetch hw) hstep rfl (Completes.idle rfl)
  | succ pages ih =>
    intro s c hw hpages
    have hstep : pollStep history beforeIngestStart maxPages s
        (.fetch (history c.address).tokens.length) = some { s with
          worker := if (nextPage history c (history c.address).tokens.length).isEmpty then none
            else some ({ c with pagesLeft := c.pagesLeft - 1 },
              .page (nextPage history c (history c.address).tokens.length)
                (nextPage history c (history c.address).tokens.length).length) } := by
      simp only [pollStep, hw]
      rw [if_neg (by omega)]
      split <;> rfl
    refine Completes.head (failureFree_fetch hw) hstep rfl ?_
    by_cases hempty : (nextPage history c (history c.address).tokens.length).isEmpty = true
    · exact Completes.idle (if_pos hempty)
    · exact completes_page ih (if_neg hempty) (by simp [hpages])

/-- Every state can be brought to rest. -/
theorem completes (s : PollState) : Completes history beforeIngestStart maxPages s := by
  cases hw : s.worker with
  | none => exact Completes.idle hw
  | some worker =>
    obtain ⟨c, pc⟩ := worker
    cases pc with
    | fetching => exact completes_fetching _ s c hw rfl
    | page records size => exact completes_page (completes_fetching _) hw rfl

theorem exists_target {school : SchoolWallets} {e : WalletEntry} (he : e ∈ school.slots) :
    ∃ retired : Option WalletEntry,
      (∀ r ∈ retired, r ∈ school.walletHistory) ∧ school.target retired = e := by
  rcases List.mem_cons.mp he with rfl | he
  · exact ⟨none, by simp, rfl⟩
  · exact ⟨some e, by simpa using he, rfl⟩

/-- Cycles can be repeated until they have allowed any number of examinations. -/
theorem OnceInv.exists_allowance {school : SchoolWallets} (hd : school.Distinct)
    (hpages : 0 < maxPages) {e₀ : WalletEntry} (he₀ : e₀ ∈ school.slots) (n : Nat) {s : PollState}
    (h : OnceInv history school s) :
    ∃ s', Reach (pollStep history beforeIngestStart maxPages) (FailureFree history) s s' ∧
      s'.worker = none ∧ n ≤ s'.allowance e₀.address := by
  induction n with
  | zero =>
    obtain ⟨s', hrun, hidle, -⟩ : Completes history beforeIngestStart maxPages s := completes s
    exact ⟨s', hrun, hidle, Nat.zero_le _⟩
  | succ n ih =>
    obtain ⟨t, hrun, hidle, hn⟩ := ih
    have ht : OnceInv history school t :=
      hrun.invariant h fun hinv hok hstep => hinv.step hd hok hstep
    obtain ⟨e, he, hone⟩ := exists_right_of_forall₂ ht.slots he₀
    obtain ⟨retired, hr, htarget⟩ := exists_target he
    -- one more cycle, of one page with one transaction
    have hstep : pollStep history beforeIngestStart maxPages t (.begin retired 1 1) = some { t with
        worker := some (⟨retired, e.address, 1, 1, e.cursor, e.cursor, false⟩, .fetching)
        allowance := Function.update t.allowance e.address (t.allowance e.address + 1 * 1) } := by
      simp only [pollStep, hidle]
      rw [if_pos ⟨Nat.one_pos, hpages, hr⟩, htarget]
    obtain ⟨s', hrun', hidle', hallow⟩ : Completes history beforeIngestStart maxPages { t with
        worker := some (⟨retired, e.address, 1, 1, e.cursor, e.cursor, false⟩, .fetching)
        allowance := Function.update t.allowance e.address (t.allowance e.address + 1 * 1) } :=
      completes _
    have hok : FailureFree history t (.begin retired 1 1) := trivial
    refine ⟨s', (hrun.tail hok hstep).trans hrun', hidle', ?_⟩
    rw [← hone.address] at hn ⊢
    rw [hallow]
    dsimp only
    rw [Function.update_self]
    omega

variable (history)

/-- At rest, an address was examined from its first cursor on, in order and without repetition,
as far as its cycles allowed. -/
def ExaminedOnce (e₀ : WalletEntry) (s : PollState) : Prop :=
  (examined s.log e₀.address).Nodup ∧
    examined s.log e₀.address =
      (after (history e₀.address).tokens e₀.cursor).take (s.allowance e₀.address)

variable {history}

theorem OnceInv.examinedOnce {school : SchoolWallets} {s : PollState} (h : OnceInv history school s)
    (hidle : s.worker = none) {e₀ : WalletEntry} (he₀ : e₀ ∈ school.slots) :
    ExaminedOnce history e₀ s := by
  obtain ⟨e, -, hone⟩ := exists_right_of_forall₂ h.slots he₀
  have hallowed := hone.allowed
  rw [show s.left e.address = 0 by simp [PollState.left, hidle], List.take_zero, List.append_nil,
    hone.address] at hallowed
  refine ⟨?_, hallowed.symm⟩
  rw [← hallowed]
  have hasc : ((after (history e₀.address).tokens e₀.cursor).take
      (s.allowance e₀.address)).Pairwise (· < ·) :=
    ((history e₀.address).ascending.filter _).sublist (List.take_sublist ..)
  exact hasc.imp Nat.ne_of_lt

end

/-- **The poll cursors**: they have no gap in any run in which no cursor is stored after a stale
result, and without failures repeated cycles examine every transaction exactly once. -/
theorem poll_cursor_along_runs (history : String → WalletHistory)
    (beforeIngestStart : String → Nat → Bool) (maxPages : Nat) (school : SchoolWallets) :
    (school.RetiredOnce →
      ∀ s, Reach (pollStep history beforeIngestStart maxPages) PersistSafe (.init school) s →
      PollGapFree history school s) ∧
    (school.Distinct →
      ∀ s, Reach (pollStep history beforeIngestStart maxPages) (FailureFree history)
        (.init school) s →
      ∀ e₀ ∈ school.slots,
        (s.worker = none → ExaminedOnce history e₀ s) ∧
        (0 < maxPages → ∃ s', Reach (pollStep history beforeIngestStart maxPages)
          (FailureFree history) s s' ∧
          examined s'.log e₀.address = after (history e₀.address).tokens e₀.cursor)) := by
  constructor
  · intro hd s hrun
    exact (hrun.invariant (PollInv.init school) fun h hsafe hstep => h.step hd hsafe hstep).slots
  · intro hd s hrun e₀ he₀
    have h : OnceInv history school s :=
      hrun.invariant (OnceInv.init school) fun h hok hstep => h.step hd hok hstep
    refine ⟨fun hidle => h.examinedOnce hidle he₀, fun hpages => ?_⟩
    obtain ⟨s', hrun', hidle', hn⟩ := OnceInv.exists_allowance hd hpages he₀
      (after (history e₀.address).tokens e₀.cursor).length h
    have h' : OnceInv history school s' :=
      hrun'.invariant h fun hinv hok hstep => hinv.step hd hok hstep
    exact ⟨s', hrun', (h'.examinedOnce hidle' he₀).2.trans (List.take_of_length_le hn)⟩

/-- Every wallet has the two transactions 1 and 2. -/
def twoTransactions : String → WalletHistory := fun _ => ⟨[1, 2], by decide, by decide⟩

/-- A school that has changed its wallet once. -/
def rotatedSchool : SchoolWallets := ⟨"GSCHOOL", 0, [⟨"GOLD", 1⟩]⟩

theorem poll_cursor_along_runs_two : ∃ s : PollState,
    Reach (pollStep twoTransactions (fun _ _ => false) 50) PersistSafe (.init rotatedSchool) s ∧
      PollGapFree twoTransactions rotatedSchool s ∧ s.school = ⟨"GSCHOOL", 2, [⟨"GOLD", 1⟩]⟩ := by
  have hrun : Reach (pollStep twoTransactions (fun _ _ => false) 50) PersistSafe
      (.init rotatedSchool) _ :=
    .tail (.tail (.tail (.tail (.tail .refl
      (show PersistSafe _ (.begin none 20 1) from trivial) rfl)
      (show PersistSafe _ (.fetch 2) from trivial) rfl)
      (show PersistSafe _ (.examine (.skipped .studentNotFound)) from trivial) rfl)
      (show PersistSafe _ (.examine (.skipped .invalidPayment)) from trivial) rfl)
      (show PersistSafe _ (.persist true) from fun _ _ h => by cases h; rfl) rfl
  exact ⟨_, hrun, (poll_cursor_along_runs _ _ _ _).1 (by decide) _ hrun, rfl⟩

/-- A transaction comes back `stale_lock`, and the cursor is stored past it. -/
theorem poll_cursor_passes_stale_lock :
    ¬ ∀ (history : String → WalletHistory) (beforeIngestStart : String → Nat → Bool)
      (maxPages : Nat) (school : SchoolWallets), school.Distinct → ∀ s,
      Reach (pollStep history beforeIngestStart maxPages) Free (.init school) s →
      PollGapFree history school s := by
  intro h
  have hrun := reach_of_exec (show exec (pollStep twoTransactions (fun _ _ => false) 50)
    (.init rotatedSchool) [.begin none 20 1, .fetch 1, .examine (.skipped .staleLock),
      .persist true] = some _ from rfl)
  have hgap := h twoTransactions (fun _ _ => false) 50 rotatedSchool (by decide) _ hrun
  cases hgap with
  | cons hslot _ =>
    obtain ⟨e, he, -, -, hresult⟩ := hslot.covered 1 (by decide) (by decide) (by decide)
    obtain rfl : e = ⟨"GSCHOOL", 1, some (.skipped .staleLock)⟩ := List.mem_singleton.mp he
    exact hresult rfl

end StellarEduPay

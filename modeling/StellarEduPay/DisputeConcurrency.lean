import StellarEduPay.Disputes
import StellarEduPay.Runs

/-! # Concurrent disputes

Any number of `flagDispute` and `resolveDispute` calls run as processes, each a read that
checks and a write that follows later, interleaved in any way.  Two things stand between
them and a second active dispute: the look for an active dispute in `flagDispute`, which is
as old as the read, and the unique index, which MongoDB enforces at the write.  The index
has the status in its key, so it tells two open disputes apart from each other but does not
see that one is open and another under review; and the update of `resolveDispute` does not
ask for the status its check was about.

The hold and the payment are written in the same step as the dispute: no step of this
system reads them.
-/
namespace StellarEduPay
open Runs Function

/-! ## The system -/

/-- A transition that the status read allows. -/
abbrev CheckedTransition := { tr : DisputeTransition // tr.newStatus ∈ tr.source.transitions }

theorem checkResolveDispute_checked {s : DisputeStore} {disputeId schoolId : String} {user : Actor}
    {body : ResolveBody} {tr : DisputeTransition}
    (h : checkResolveDispute s disputeId schoolId user body = .ok tr) :
    tr.newStatus ∈ tr.source.transitions := by
  obtain ⟨current, -, hsource, hallowed, -⟩ := checkResolveDispute_ok h
  rw [hsource]
  exact hallowed

/-- Where a call is, with what its read half handed on. -/
inductive DisputePc
  | idle
  | flagging (dispute : Dispute)
  | resolving (tr : CheckedTransition)
  deriving DecidableEq, Repr

/-- The store, and where each process is. -/
structure DisputeRace (P : Type) where
  store : DisputeStore
  pc : P → DisputePc

inductive DisputeAct (P : Type)
  | flagRead (p : P) (newId schoolId : String) (flag : FlagBody)
  | flagWrite (p : P)
  | resolveRead (p : P) (disputeId schoolId : String) (user : Actor) (body : ResolveBody)
  | resolveWrite (p : P) (now : Nat)

section System
variable {P : Type} [DecidableEq P]

/-- A process goes on with what it read; a refused request is over. -/
def DisputeRace.goto (r : DisputeRace P) (p : P) (pc : DisputePc) : DisputeRace P :=
  { r with pc := update r.pc p pc }

/-- A process writes, or its write is refused; its call is over. -/
def DisputeRace.finish (r : DisputeRace P) (p : P)
    (result : Except DisputeError (Dispute × DisputeStore)) : DisputeRace P where
  store := match result with
    | .error _ => r.store
    | .ok (_, s) => s
  pc := update r.pc p .idle

def disputeRaceStep (r : DisputeRace P) : DisputeAct P → Option (DisputeRace P)
  | .flagRead p newId schoolId flag =>
      if r.pc p = .idle then
        match checkFlagDispute r.store newId schoolId flag with
        | .error _ => some r
        | .ok dispute => some (r.goto p (.flagging dispute))
      else none
  | .flagWrite p =>
      match r.pc p with
      | .flagging dispute => some (r.finish p (createDispute r.store dispute))
      | _ => none
  | .resolveRead p disputeId schoolId user body =>
      if r.pc p = .idle then
        match h : checkResolveDispute r.store disputeId schoolId user body with
        | .error _ => some r
        | .ok tr => some (r.goto p (.resolving ⟨tr, checkResolveDispute_checked h⟩))
      else none
  | .resolveWrite p now =>
      match r.pc p with
      | .resolving tr => some (r.finish p (applyTransition r.store tr.val now))
      | _ => none

/-! ## What is asked of it -/

/-- **One active dispute per payment.** -/
def OneActive (s : DisputeStore) : Prop :=
  ∀ d ∈ s.disputes.docs, ∀ e ∈ s.disputes.docs, d.payment = e.payment →
    d.status.active = true → e.status.active = true → d.id = e.id

/-- No dispute is lost, and where a status changes it follows the transition table. -/
def DisputesMove (s t : DisputeStore) : Prop :=
  ∀ d ∈ s.disputes.docs, ∃ e ∈ t.disputes.docs, e.id = d.id ∧
    (e.status = d.status ∨ e.status ∈ d.status.transitions)

instance (s : DisputeStore) : Decidable (OneActive s) :=
  inferInstanceAs (Decidable (∀ d ∈ s.disputes.docs, ∀ e ∈ s.disputes.docs, d.payment = e.payment →
    d.status.active = true → e.status.active = true → d.id = e.id))

instance (s t : DisputeStore) : Decidable (DisputesMove s t) :=
  inferInstanceAs (Decidable (∀ d ∈ s.disputes.docs, ∃ e ∈ t.disputes.docs, e.id = d.id ∧
    (e.status = d.status ∨ e.status ∈ d.status.transitions)))

/-- A step that keeps both. -/
def Orderly (r : DisputeRace P) (a : DisputeAct P) : Prop :=
  ∀ r', disputeRaceStep r a = some r' → OneActive r'.store ∧ DisputesMove r.store r'.store

instance (r : DisputeRace P) (a : DisputeAct P) : Decidable (Orderly r a) :=
  inferInstanceAs (Decidable (∀ r' ∈ disputeRaceStep r a,
    OneActive r'.store ∧ DisputesMove r.store r'.store))

/-- Another active dispute of the payment, in the other active status than `d` is to have:
the index does not compare the two. -/
def Unseen (s : DisputeStore) (d : Dispute) : Prop :=
  ∃ e ∈ s.disputes.docs, e.id ≠ d.id ∧ e.payment = d.payment ∧ e.status.active = true ∧
    d.status.active = true ∧ e.status ≠ d.status

instance (s : DisputeStore) (d : Dispute) : Decidable (Unseen s d) :=
  inferInstanceAs (Decidable (∃ e ∈ s.disputes.docs, e.id ≠ d.id ∧ e.payment = d.payment ∧
    e.status.active = true ∧ d.status.active = true ∧ e.status ≠ d.status))

/-- The condition on the state a write finds, if it gets through: there is no dispute that the index does
not see, and the dispute to be moved has the status that was read, so that no other write has moved it
since. -/
def RaceSafe (r : DisputeRace P) : DisputeAct P → Prop
  | .flagWrite p =>
      ∀ d, r.pc p = .flagging d → d.schemaValid = true →
        (r.store.disputes.create d).isSome = true → ¬ Unseen r.store d
  | .resolveWrite p now =>
      ∀ tr d, r.pc p = .resolving tr →
        r.store.findDispute tr.val.disputeId tr.val.schoolId = some d →
        ¬ r.store.disputes.Clashes (transitioned d tr.val now) →
        ¬ Unseen r.store (transitioned d tr.val now) ∧ d.status = tr.val.source
  | _ => True

/-- What a step needs exactly: where another write has moved the dispute, the status it has now leads to
the new one as well. -/
def RaceAllowed (r : DisputeRace P) : DisputeAct P → Prop
  | .flagWrite p => RaceSafe r (.flagWrite p)
  | .resolveWrite p now =>
      ∀ tr d, r.pc p = .resolving tr →
        r.store.findDispute tr.val.disputeId tr.val.schoolId = some d →
        ¬ r.store.disputes.Clashes (transitioned d tr.val now) →
        ¬ Unseen r.store (transitioned d tr.val now) ∧
          (tr.val.newStatus = d.status ∨ tr.val.newStatus ∈ d.status.transitions)
  | _ => True

end System

/-- The check was about the status that is still there. -/
theorem RaceSafe.allowed {P : Type} {r : DisputeRace P} {a : DisputeAct P} (h : RaceSafe r a) :
    RaceAllowed r a := by
  cases a with
  | flagRead | resolveRead => trivial
  | flagWrite p => exact h
  | resolveWrite p now =>
    intro tr d hpc hfind hclash
    obtain ⟨hseen, hsource⟩ := h tr d hpc hfind hclash
    exact ⟨hseen, .inr (hsource ▸ tr.property)⟩

/-! ## One write -/

section Write
variable {s t : DisputeStore} {d d' : Dispute} {c : DisputeCollection}

theorem DisputesMove.refl (s : DisputeStore) : DisputesMove s s :=
  fun d hd => ⟨d, hd, rfl, Or.inl rfl⟩

/-- Under the index, an active dispute of the payment that is not unseen is the same one. -/
theorem id_eq_of_seen {e : Dispute} (hclash : ¬ s.disputes.Clashes d) (hseen : ¬ Unseen s d)
    (he : e ∈ s.disputes.docs) (hpay : e.payment = d.payment) (hea : e.status.active = true)
    (hda : d.status.active = true) : e.id = d.id := by
  by_contra hne
  by_cases hst : e.status = d.status
  · refine hclash ⟨e, he, hne, (e.payment, e.status), ?_, ?_⟩
    · simp [Dispute.indexEntries, hea]
    · simp [Dispute.indexEntries, hda, hpay, hst]
  · exact hseen ⟨e, he, hne, hpay, hea, hda, hst⟩

theorem oneActive_create_iff (h : OneActive s) (hcreate : s.disputes.create d = some c)
    (hc : t.disputes = c) : OneActive t ↔ ¬ Unseen s d := by
  have hdocs : t.disputes.docs = s.disputes.docs ++ [d] := by rw [hc, s.disputes.create_docs hcreate]
  have hclash := s.disputes.not_clashes_of_create hcreate
  constructor
  · rintro hone ⟨e, he, hne, hpay, hea, hda, -⟩
    exact hne (hone e (by simp [hdocs, he]) d (by simp [hdocs]) hpay hea hda)
  · intro hseen x hx y hy hpay hxa hya
    rw [hdocs, List.mem_append, List.mem_singleton] at hx hy
    rcases hx with hx | rfl <;> rcases hy with hy | rfl
    · exact h x hx y hy hpay hxa hya
    · exact id_eq_of_seen hclash hseen hx hpay hxa hya
    · exact (id_eq_of_seen hclash hseen hy hpay.symm hya hxa).symm
    · rfl

theorem oneActive_update_iff (h : OneActive s) (hd : d ∈ s.disputes.docs) (hid : d.id = d'.id)
    (hup : s.disputes.update d' = some c) (hc : t.disputes = c) : OneActive t ↔ ¬ Unseen s d' := by
  have hmem : ∀ e, e ∈ t.disputes.docs ↔ e = d' ∨ (e ∈ s.disputes.docs ∧ e.id ≠ d'.id) := by
    intro e
    rw [hc, s.disputes.update_toCollection hup, s.disputes.mem_save]
    exact or_congr_left (and_iff_left ⟨d, hd, hid⟩)
  have hclash := s.disputes.not_clashes_of_update hup
  constructor
  · rintro hone ⟨e, he, hne, hpay, hea, hda, -⟩
    exact hne (hone e ((hmem e).mpr (Or.inr ⟨he, hne⟩)) d' ((hmem d').mpr (Or.inl rfl)) hpay hea hda)
  · intro hseen x hx y hy hpay hxa hya
    rcases (hmem x).mp hx with rfl | ⟨hx, -⟩ <;> rcases (hmem y).mp hy with rfl | ⟨hy, -⟩
    · rfl
    · exact (id_eq_of_seen hclash hseen hy hpay.symm hya hxa).symm
    · exact id_eq_of_seen hclash hseen hx hpay hxa hya
    · exact h x hx y hy hpay hxa hya

theorem disputesMove_create (hcreate : s.disputes.create d = some c) (hc : t.disputes = c) :
    DisputesMove s t := by
  intro e he
  refine ⟨e, ?_, rfl, Or.inl rfl⟩
  simp [hc, s.disputes.create_docs hcreate, he]

theorem disputesMove_update_iff (hd : d ∈ s.disputes.docs) (hid : d.id = d'.id)
    (hup : s.disputes.update d' = some c) (hc : t.disputes = c) :
    DisputesMove s t ↔ d'.status = d.status ∨ d'.status ∈ d.status.transitions := by
  unfold DisputesMove
  rw [hc, s.disputes.update_toCollection hup]
  constructor
  · intro h
    obtain ⟨e, he, heid, hst⟩ := h d hd
    rcases s.disputes.mem_save.mp he with ⟨rfl, -⟩ | ⟨-, hne⟩
    · exact hst
    · exact absurd (heid.trans hid) hne
  · intro hst e he
    by_cases hk : e.id = d'.id
    · obtain rfl := s.disputes.eq_of_key he hd (hk.trans hid.symm)
      exact ⟨d', s.disputes.mem_save.mpr (Or.inl ⟨rfl, e, he, hk⟩), hk.symm, hst⟩
    · exact ⟨e, s.disputes.mem_save.mpr (Or.inr ⟨he, hk⟩), rfl, Or.inl rfl⟩

end Write

/-! ## One step -/

section Step
variable {P : Type} [DecidableEq P] {r : DisputeRace P}

/-- A step that leaves the disputes alone. -/
theorem orderly_of_store_eq {a : DisputeAct P} (h : OneActive r.store)
    (hstore : ∀ r', disputeRaceStep r a = some r' → r'.store = r.store) : Orderly r a := by
  intro r' hr'
  rw [hstore r' hr']
  exact ⟨h, .refl _⟩

theorem flagRead_orderly (h : OneActive r.store) (p : P) (newId schoolId : String)
    (flag : FlagBody) : Orderly r (.flagRead p newId schoolId flag) := by
  refine orderly_of_store_eq h fun r' hr' => ?_
  simp only [disputeRaceStep] at hr'
  split at hr'
  · split at hr' <;> cases hr' <;> rfl
  · cases hr'

theorem resolveRead_orderly (h : OneActive r.store) (p : P) (disputeId schoolId : String)
    (user : Actor) (body : ResolveBody) :
    Orderly r (.resolveRead p disputeId schoolId user body) := by
  refine orderly_of_store_eq h fun r' hr' => ?_
  simp only [disputeRaceStep] at hr'
  split at hr'
  · split at hr' <;> cases hr' <;> rfl
  · cases hr'

theorem flagWrite_orderly_iff (h : OneActive r.store) (p : P) :
    Orderly r (.flagWrite p) ↔ RaceAllowed r (.flagWrite p) := by
  cases hpc : r.pc p with
  | idle =>
    refine iff_of_true (fun r' hr' => ?_) fun d hd => ?_
    · simp [disputeRaceStep, hpc] at hr'
    · rw [hpc] at hd; cases hd
  | resolving tr =>
    refine iff_of_true (fun r' hr' => ?_) fun d hd => ?_
    · simp [disputeRaceStep, hpc] at hr'
    · rw [hpc] at hd; cases hd
  | flagging d =>
    have hstep : disputeRaceStep r (.flagWrite p) =
        some (r.finish p (createDispute r.store d)) := by
      simp only [disputeRaceStep, hpc]
    have hsafe : RaceAllowed r (.flagWrite p) ↔ (d.schemaValid = true →
        (r.store.disputes.create d).isSome = true → ¬ Unseen r.store d) := by
      refine ⟨fun hsafe => hsafe d hpc, fun hsafe d' hd' => ?_⟩
      rw [hpc] at hd'
      cases hd'
      exact hsafe
    have horderly : Orderly r (.flagWrite p) ↔
        OneActive (r.finish p (createDispute r.store d)).store ∧
          DisputesMove r.store (r.finish p (createDispute r.store d)).store := by
      simp only [Orderly, hstep, Option.some.injEq, forall_eq']
    rw [horderly, hsafe]
    cases hrun : createDispute r.store d with
    | error e =>
      refine iff_of_true ⟨h, .refl _⟩ fun hvalid hcreate => ?_
      obtain ⟨disputes, hcreate⟩ := Option.isSome_iff_exists.mp hcreate
      have hok := createDispute_ok_iff.mpr ⟨disputes, hvalid, hcreate, rfl, rfl⟩
      exact absurd (hok.symm.trans hrun) (by simp)
    | ok result =>
      obtain ⟨disputes, hvalid, hcreate, -, ht⟩ := createDispute_ok_iff.mp hrun
      have hc : result.2.disputes = disputes := by rw [ht]
      dsimp only [DisputeRace.finish]
      rw [oneActive_create_iff h hcreate hc]
      constructor
      · exact fun hseen _ _ => hseen.1
      · exact fun hsafe => ⟨hsafe hvalid (by simp [hcreate]), disputesMove_create hcreate hc⟩

theorem resolveWrite_orderly_iff (h : OneActive r.store) (p : P) (now : Nat) :
    Orderly r (.resolveWrite p now) ↔ RaceAllowed r (.resolveWrite p now) := by
  cases hpc : r.pc p with
  | idle =>
    refine iff_of_true (fun r' hr' => ?_) fun tr d hd => ?_
    · simp [disputeRaceStep, hpc] at hr'
    · rw [hpc] at hd; cases hd
  | flagging d =>
    refine iff_of_true (fun r' hr' => ?_) fun tr d hd => ?_
    · simp [disputeRaceStep, hpc] at hr'
    · rw [hpc] at hd; cases hd
  | resolving tr =>
    have hstep : disputeRaceStep r (.resolveWrite p now) =
        some (r.finish p (applyTransition r.store tr.val now)) := by
      simp only [disputeRaceStep, hpc]
    have horderly : Orderly r (.resolveWrite p now) ↔
        OneActive (r.finish p (applyTransition r.store tr.val now)).store ∧
          DisputesMove r.store (r.finish p (applyTransition r.store tr.val now)).store := by
      simp only [Orderly, hstep, Option.some.injEq, forall_eq']
    rw [horderly]
    cases hrun : applyTransition r.store tr.val now with
    | error e =>
      refine iff_of_true ⟨h, .refl _⟩ fun tr' d hd hfind hclash => ?_
      rw [hpc] at hd
      cases hd
      obtain ⟨disputes, hup⟩ := r.store.disputes.update_isSome hclash
      have hok := applyTransition_ok_iff.mpr ⟨d, disputes, hfind, hup, rfl, rfl⟩
      exact absurd (hok.symm.trans hrun) (by simp)
    | ok result =>
      obtain ⟨d, disputes, hfind, hup, -, ht⟩ := applyTransition_ok_iff.mp hrun
      have hc : result.2.disputes = disputes := by rw [ht]
      have hd := (findDispute_mem hfind).1
      have hid : d.id = (transitioned d tr.val now).id := rfl
      dsimp only [DisputeRace.finish]
      rw [oneActive_update_iff h hd hid hup hc, disputesMove_update_iff hd hid hup hc]
      constructor
      · intro hboth tr' d' hd' hfind' _
        rw [hpc] at hd'
        cases hd'
        rw [hfind] at hfind'
        cases hfind'
        exact hboth
      · exact fun hsafe => hsafe tr d hpc hfind (r.store.disputes.not_clashes_of_update hup)

/-- **A step is orderly exactly when it is allowed**, in every state with one active dispute
per payment. -/
theorem orderly_iff (h : OneActive r.store) (a : DisputeAct P) : Orderly r a ↔ RaceAllowed r a := by
  cases a with
  | flagRead p newId schoolId flag =>
    exact iff_of_true (flagRead_orderly h p newId schoolId flag) trivial
  | flagWrite p => exact flagWrite_orderly_iff h p
  | resolveRead p disputeId schoolId user body =>
    exact iff_of_true (resolveRead_orderly h p disputeId schoolId user body) trivial
  | resolveWrite p now => exact resolveWrite_orderly_iff h p now

end Step

/-! ## Along a run -/

/-- **One active dispute per payment, along runs.**  Every interleaving of safe steps keeps
one active dispute per payment, and each of its steps moves disputes along the transition table
only; what the next step needs for that is known exactly. -/
theorem one_active_along_runs {P : Type} [DecidableEq P] {r₀ r : DisputeRace P}
    (h0 : OneActive r₀.store) (hrun : Reach disputeRaceStep RaceSafe r₀ r) :
    OneActive r.store ∧ Reach disputeRaceStep Orderly r₀ r ∧
      ∀ a, Orderly r a ↔ RaceAllowed r a := by
  have h : OneActive r.store ∧ Reach disputeRaceStep Orderly r₀ r := by
    induction hrun with
    | refl => exact ⟨h0, .refl⟩
    | tail _ hsafe hstep ih =>
      obtain ⟨hone, hreach⟩ := ih
      have horderly := (orderly_iff hone _).mpr hsafe.allowed
      exact ⟨(horderly _ hstep).1, hreach.tail horderly hstep⟩
  exact ⟨h.1, h.2, orderly_iff h.1⟩

/-- The system before any call. -/
def DisputeRace.start (s : DisputeStore) : DisputeRace Nat := ⟨s, fun _ => .idle⟩

/-- Both parents flag the payment at once: each has looked for an active dispute. -/
def twoFlags : DisputeRace Nat :=
  ((DisputeRace.start undisputed).goto 0 (.flagging openedDispute)).goto 1
    (.flagging { openedDispute with id := "d2" })

/-- One of them has written; the index will refuse the other. -/
theorem one_active_along_runs_twoFlags :
    Reach disputeRaceStep RaceSafe (.start undisputed)
        (twoFlags.finish 0 (createDispute undisputed openedDispute)) ∧
      RaceAllowed (twoFlags.finish 0 (createDispute undisputed openedDispute)) (.flagWrite 1) := by
  have h0 : OneActive undisputed := by decide +kernel
  have hreads : Reach disputeRaceStep RaceSafe (.start undisputed) twoFlags :=
    .tail (a := .flagRead 1 "d2" "SCH" (parentDisputes "tx1"))
      (.tail (a := .flagRead 0 "d1" "SCH" (parentDisputes "tx1")) .refl trivial rfl) trivial rfl
  have hwrite : RaceSafe twoFlags (.flagWrite 0) :=
    (orderly_iff (r := twoFlags) h0 (.flagWrite 0)).mp (by decide +kernel)
  have hrun : Reach disputeRaceStep RaceSafe (.start undisputed)
      (twoFlags.finish 0 (createDispute undisputed openedDispute)) := hreads.tail hwrite rfl
  exact ⟨hrun, ((one_active_along_runs h0 hrun).2.2 (.flagWrite 1)).mp (by decide +kernel)⟩

/-- Two ways out of order.  A denied dispute is opened again while a later one is under
review; and of two administrators who both read the dispute open, the second takes up for
review what the first has resolved. -/
theorem reopened_dispute_is_second :
    (¬ ∀ (r₀ r : DisputeRace Nat), OneActive r₀.store → Reach disputeRaceStep Free r₀ r →
        OneActive r.store) ∧
      ¬ ∀ (r₀ r : DisputeRace Nat) (a : DisputeAct Nat) (r' : DisputeRace Nat),
        OneActive r₀.store → Reach disputeRaceStep Free r₀ r → disputeRaceStep r a = some r' →
        DisputesMove r.store r'.store := by
  have h0 : OneActive (DisputeRace.start undisputed).store := by decide +kernel
  constructor
  · intro h
    have hrun := reach_get (show (exec disputeRaceStep (.start undisputed)
      [.flagRead 0 "d1" "SCH" (parentDisputes "tx1"), .flagWrite 0,
        .resolveRead 0 "d1" "SCH" administrator (decision "rejected"), .resolveWrite 0 1,
        .flagRead 0 "d2" "SCH" (parentDisputes "tx1"), .flagWrite 0,
        .resolveRead 0 "d2" "SCH" administrator (decision "under_review"), .resolveWrite 0 1,
        .resolveRead 0 "d1" "SCH" administrator (decision "open"),
        .resolveWrite 0 1]).isSome = true by decide +kernel)
    exact absurd (h _ _ h0 hrun) (by decide +kernel)
  · intro h
    have hrun := reach_get (show (exec disputeRaceStep (.start undisputed)
      [.flagRead 0 "d1" "SCH" (parentDisputes "tx1"), .flagWrite 0,
        .resolveRead 0 "d1" "SCH" administrator (decision "resolved"),
        .resolveRead 1 "d1" "SCH" administrator (decision "under_review"),
        .resolveWrite 0 1]).isSome = true by decide +kernel)
    exact absurd (h _ _ (.resolveWrite 1 2) _ h0 hrun rfl) (by decide +kernel)

end StellarEduPay

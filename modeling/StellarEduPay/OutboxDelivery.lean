import StellarEduPay.OutboxDispatcher

/-! # Delivery to every listener

Delivery is tracked by an identity derived from a listener's name or its position.
When every registration gives each listener the same identity, and different ones to
different listeners, an event is marked completed only after every registered listener
succeeded on it, through any failures and crashes; and without crashes no listener is
called again after a success.  Two listeners that share an identity break the first
part already.
-/
namespace StellarEduPay
open Runs Function

/-! ## Conditions on a run -/

/-- Each listener of a registration goes under its own identity, and is registered once. -/
def Registered (identity : Nat → String) (listeners : List Listener) : Prop :=
  listenerNames listeners = listeners.map (identity ·.fn) ∧ (listeners.map (·.fn)).Nodup

instance (identity : Nat → String) (listeners : List Listener) :
    Decidable (Registered identity listeners) :=
  inferInstanceAs (Decidable (_ ∧ _))

/-- A process registers its listeners under their identities whenever it starts. -/
def StableIdentities (identity : Nat → String) : OutboxAction → Prop
  | .restart _ registry => ∀ eventType, Registered identity (registry eventType)
  | _ => True

/-- No lease has run out while the dispatcher that holds it is alive. -/
def LeasesHold (s : OutboxSystem) : OutboxAction → Prop
  | .recover id now => ∀ pid d, s.dispatcher pid = some d → d.event.id = id →
      ∀ e ∈ s.events.docs, e.id = id → now ≤ e.lockedUntil
  | _ => True

/-- No process restarts in the middle of a dispatch. -/
def CrashFree (s : OutboxSystem) : OutboxAction → Prop
  | .restart pid _ => s.dispatcher pid = none
  | _ => True

def DeliverySafe (identity : Nat → String) (s : OutboxSystem) (a : OutboxAction) : Prop :=
  StableIdentities identity a ∧ LeasesHold s a

/-! ## The two properties -/

/-- A step marks an event completed only if every listener registered for it has succeeded
on it. -/
def MarksDelivered (s : OutboxSystem) (a : OutboxAction) (t : OutboxSystem) : Prop :=
  ∀ e ∈ s.events.docs, ∀ e' ∈ t.events.docs, e'.id = e.id → e.status ≠ .completed →
    e'.status = .completed → ∃ pid, a = .finish pid ∧
      ∀ l ∈ s.registry pid e.eventType, .succeeded e.id l.fn ∈ s.log

theorem MarksDelivered.finish {s t : OutboxSystem} {pid : Nat}
    (h : MarksDelivered s (.finish pid) t) : ∀ e ∈ s.events.docs, ∀ e' ∈ t.events.docs,
      e'.id = e.id → e.status ≠ .completed → e'.status = .completed →
      ∀ l ∈ s.registry pid e.eventType, .succeeded e.id l.fn ∈ s.log := by
  intro e he e' he' hid hopen hdone
  obtain ⟨pid', hpid, hall⟩ := h e he e' he' hid hopen hdone
  obtain rfl := OutboxAction.finish.inj hpid
  exact hall

/-- No listener is called on an event after it succeeded on it. -/
def NoRepeat (log : List Delivery) : Prop :=
  log.Pairwise fun newer older => ∀ id fn, newer = .invoked id fn → older ≠ .succeeded id fn

/-! ## What was delivered -/

/-- What a dispatch in progress knows: the listeners it has dealt with have succeeded, unless
one of them failed. -/
structure DispatchInv (identity : Nat → String) (log : List Delivery) (registered : List Listener)
    (d : Dispatch) : Prop where
  listeners : d.allListeners = registered
  names : ∀ p ∈ d.pendingListeners, p.2 = identity p.1.fn
  settled : d.failedListeners = [] → ∀ l ∈ d.allListeners,
    .succeeded d.event.id l.fn ∈ log ∨ ∃ name, (l, name) ∈ d.pendingListeners
  recording : d.phase = .recording → ∀ p ∈ d.pendingListeners.head?,
    .succeeded d.event.id p.1.fn ∈ log

/-- **The delivery invariant.**  `deliveredTo` holds identities of listeners that succeeded,
and a dispatcher is alone with its event. -/
structure DeliveryInv (identity : Nat → String) (s : OutboxSystem) : Prop where
  registered : ∀ pid eventType, Registered identity (s.registry pid eventType)
  held : ∀ pid d, s.dispatcher pid = some d → ∃ e ∈ s.events.docs,
    e.id = d.event.id ∧ e.eventType = d.event.eventType ∧ e.status = .processing
  alone : ∀ pid pid' d d', s.dispatcher pid = some d → s.dispatcher pid' = some d' →
    d.event.id = d'.event.id → pid = pid'
  delivered : ∀ e ∈ s.events.docs, ∀ name ∈ e.deliveredTo,
    ∃ fn, identity fn = name ∧ .succeeded e.id fn ∈ s.log
  work : ∀ pid d, s.dispatcher pid = some d →
    DispatchInv identity s.log (s.registry pid d.event.eventType) d

section Step
variable {cfg : OutboxConfig} {s t : OutboxSystem} {identity : Nat → String}

theorem DispatchInv.mono {log log' : List Delivery} {registered : List Listener} {d : Dispatch}
    (h : DispatchInv identity log registered d) (hlog : ∀ x ∈ log, x ∈ log') :
    DispatchInv identity log' registered d where
  listeners := h.listeners
  names := h.names
  settled hnone l hl := (h.settled hnone l hl).imp_left (hlog _)
  recording hphase p hp := hlog _ (h.recording hphase p hp)

theorem DeliveryInv.init {registry : Nat → String → List Listener}
    (h : ∀ pid eventType, Registered identity (registry pid eventType)) :
    DeliveryInv identity (.start registry) where
  registered := h
  held pid d hd := by cases hd
  alone pid pid' d d' hd := by cases hd
  delivered e he := by cases he
  work pid d hd := by cases hd

/-- Two versions of an event that a delivery tells apart at most by `deliveredTo`. -/
structure SameEvent (e e' : OutboxDoc) : Prop where
  id : e'.id = e.id
  eventType : e'.eventType = e.eventType
  status : e'.status = e.status

theorem SameEvent.refl (e : OutboxDoc) : SameEvent e e := ⟨rfl, rfl, rfl⟩

/-- One dispatcher moves on within its dispatch. -/
theorem DeliveryInv.moved (h : DeliveryInv identity s) {pid : Nat} {d d' : Dispatch}
    (hd : s.dispatcher pid = some d) (hdisp : t.dispatcher = update s.dispatcher pid (some d'))
    (hevent : d'.event = d.event) (hreg : t.registry = s.registry)
    (hlog : ∀ x ∈ s.log, x ∈ t.log)
    (hforward : ∀ e ∈ s.events.docs, ∃ e' ∈ t.events.docs, SameEvent e e')
    (hdelivered : ∀ e' ∈ t.events.docs, ∀ name ∈ e'.deliveredTo,
      ∃ fn, identity fn = name ∧ .succeeded e'.id fn ∈ t.log)
    (hwork : DispatchInv identity t.log (s.registry pid d.event.eventType) d') :
    DeliveryInv identity t := by
  have hcases : ∀ p x, t.dispatcher p = some x → (p = pid ∧ x = d') ∨
      (p ≠ pid ∧ s.dispatcher p = some x) := by
    rw [hdisp]
    exact fun p d hd => update_some_iff.mp hd
  -- the dispatch that stands behind a dispatcher, with its event
  have hback : ∀ p x, t.dispatcher p = some x →
      ∃ y, s.dispatcher p = some y ∧ y.event = x.event := by
    intro p x hx
    rcases hcases p x hx with ⟨rfl, rfl⟩ | ⟨-, hx⟩
    · exact ⟨d, hd, hevent.symm⟩
    · exact ⟨x, hx, rfl⟩
  refine ⟨fun p ty => hreg ▸ h.registered p ty, ?_, ?_, hdelivered, ?_⟩
  · intro p x hx
    obtain ⟨y, hy, hev⟩ := hback p x hx
    obtain ⟨e, he, hid, hty, hst⟩ := h.held p y hy
    obtain ⟨e', he', hsame⟩ := hforward e he
    exact ⟨e', he', by rw [hsame.id, hid, hev], by rw [hsame.eventType, hty, hev],
      hsame.status.trans hst⟩
  · intro p p' x x' hx hx' hid
    obtain ⟨y, hy, hev⟩ := hback p x hx
    obtain ⟨y', hy', hev'⟩ := hback p' x' hx'
    exact h.alone p p' y y' hy hy' (by rw [hev, hev', hid])
  · intro p x hx
    rw [hreg]
    rcases hcases p x hx with ⟨rfl, rfl⟩ | ⟨-, hx⟩
    · rw [hevent]
      exact hwork
    · exact (h.work p x hx).mono hlog

/-- The pending listeners of a new dispatch, under their identities. -/
theorem dispatch_pending {event : OutboxDoc} {claim : Nat} {listeners : List Listener}
    (h : Registered identity listeners) :
    (dispatch event claim listeners).pendingListeners =
      (listeners.filter fun l => !event.deliveredTo.contains (identity l.fn)).map
        fun l => (l, identity l.fn) := by
  have hzip : ∀ ls : List Listener,
      ls.zip (ls.map (identity ·.fn)) = ls.map fun l => (l, identity l.fn) := by
    intro ls
    induction ls with
    | nil => rfl
    | cons l ls ih => simp [ih]
  simp only [dispatch, h.1, hzip, List.filter_map]
  rfl

/-- A dispatch starts with the listeners that have not succeeded, by the record of those that
have. -/
theorem dispatchInv_start (hinj : Injective identity) {log : List Delivery} {event : OutboxDoc}
    {claim : Nat} {listeners : List Listener} (hreg : Registered identity listeners)
    (hdelivered : ∀ name ∈ event.deliveredTo,
      ∃ fn, identity fn = name ∧ .succeeded event.id fn ∈ log) :
    DispatchInv identity log listeners (dispatch event claim listeners) where
  listeners := rfl
  names p hp := by
    rw [dispatch_pending hreg] at hp
    obtain ⟨l, -, rfl⟩ := List.mem_map.mp hp
    rfl
  settled _ l hl := by
    by_cases hname : identity l.fn ∈ event.deliveredTo
    · obtain ⟨fn, heq, hsucc⟩ := hdelivered _ hname
      obtain rfl := hinj heq
      exact Or.inl hsucc
    · refine Or.inr ⟨identity l.fn, ?_⟩
      rw [dispatch_pending hreg]
      exact List.mem_map.mpr ⟨l, List.mem_filter.mpr ⟨hl, by simpa using hname⟩, rfl⟩
  recording hphase := by cases hphase

/-- A pending event is in nobody's hands. -/
theorem DeliveryInv.not_held (h : DeliveryInv identity s) {doc : OutboxDoc}
    (hdoc : doc ∈ s.events.docs) (hpending : doc.status = .pending) {pid : Nat} {d : Dispatch}
    (hd : s.dispatcher pid = some d) : d.event.id ≠ doc.id := by
  intro hid
  obtain ⟨e, he, heid, -, hst⟩ := h.held pid d hd
  obtain rfl := s.events.eq_of_key he hdoc (heid.trans hid)
  rw [hpending] at hst
  cases hst

theorem DeliveryInv.claim (hinj : Injective identity) (h : DeliveryInv identity s) {pid now : Nat}
    (hstep : outboxStep cfg s (.claim pid now) = some t) : DeliveryInv identity t := by
  obtain ⟨-, doc, hdoc, hpending, rfl⟩ := claim_inv hstep
  have hmem : ∀ {e : OutboxDoc},
      e ∈ (s.events.modify doc.id (claimed cfg pid now) (claimed_id cfg pid now)).docs ↔
        e = claimed cfg pid now doc ∨ (e ∈ s.events.docs ∧ e.id ≠ doc.id) :=
    s.events.mem_modify_key (claimed_id cfg pid now) hdoc
  have hnobody : ∀ p d, s.dispatcher p = some d → d.event.id ≠ doc.id :=
    fun p d hd => h.not_held hdoc hpending hd
  refine ⟨h.registered, ?_, ?_, ?_, ?_⟩
  · intro p d hd
    rcases update_some_iff.mp hd with ⟨-, rfl⟩ | ⟨-, hold⟩
    · exact ⟨_, hmem.mpr (Or.inl rfl), rfl, rfl, rfl⟩
    · obtain ⟨e, he, heid, hty, hst⟩ := h.held p d hold
      have hne : e.id ≠ doc.id := heid ▸ hnobody p d hold
      exact ⟨e, hmem.mpr (Or.inr ⟨he, hne⟩), heid, hty, hst⟩
  · intro p p' d d' hd hd' hid
    rcases update_some_iff.mp hd with ⟨hp, rfl⟩ | ⟨-, hold⟩ <;>
      rcases update_some_iff.mp hd' with ⟨hp', rfl⟩ | ⟨-, hold'⟩
    · rw [hp, hp']
    · exact absurd hid.symm (hnobody p' d' hold')
    · exact absurd hid (hnobody p d hold)
    · exact h.alone p p' d d' hold hold' hid
  · intro e he
    rcases hmem.mp he with rfl | ⟨he, -⟩
    · exact h.delivered doc hdoc
    · exact h.delivered e he
  · intro p d hd
    rcases update_some_iff.mp hd with ⟨rfl, rfl⟩ | ⟨-, hold⟩
    · exact dispatchInv_start hinj (h.registered p doc.eventType) (h.delivered doc hdoc)
    · exact h.work p d hold

theorem recover_kept (now : Nat) (doc : OutboxDoc) :
    (recoverStaleLease now doc).eventType = doc.eventType ∧
      (recoverStaleLease now doc).deliveredTo = doc.deliveredTo := by
  unfold recoverStaleLease
  split
  · exact ⟨rfl, rfl⟩
  · exact ⟨rfl, rfl⟩

/-- A recovery under leases that hold touches no event in a dispatcher's hands. -/
theorem recover_held {id : String} {now : Nat} (hleases : LeasesHold s (.recover id now))
    {pid : Nat} {d : Dispatch} (hd : s.dispatcher pid = some d) {e : OutboxDoc}
    (he : e ∈ s.events.docs) (hid : e.id = d.event.id) :
    (if e.id = id then recoverStaleLease now e else e) = e := by
  split
  · rename_i heid
    have hle := hleases pid d hd (hid.symm.trans heid) e he heid
    unfold recoverStaleLease
    exact if_neg fun hstale => absurd hstale.2 (by omega)
  · rfl

theorem DeliveryInv.recover (h : DeliveryInv identity s) {id : String} {now : Nat}
    (hleases : LeasesHold s (.recover id now))
    (hstep : outboxStep cfg s (.recover id now) = some t) : DeliveryInv identity t := by
  obtain rfl := recover_inv hstep
  refine ⟨h.registered, ?_, h.alone, ?_, h.work⟩
  · intro p d hd
    obtain ⟨e, he, heid, hty, hst⟩ := h.held p d hd
    have he' := (s.events.mem_modify (recoverStaleLease_id now)).mpr
      ⟨e, he, recover_held hleases hd he heid⟩
    exact ⟨e, he', heid, hty, hst⟩
  · intro e' he'
    obtain ⟨e, he, rfl⟩ := (s.events.mem_modify (recoverStaleLease_id now)).mp he'
    split
    · rw [(recover_kept now e).2, recoverStaleLease_id]
      exact h.delivered e he
    · exact h.delivered e he

theorem DeliveryInv.publish (h : DeliveryInv identity s) {id eventType : String}
    (hstep : outboxStep cfg s (.publish id eventType) = some t) : DeliveryInv identity t := by
  obtain ⟨events, hins, rfl⟩ := publish_inv hstep
  have hdocs := s.events.insert_docs hins
  refine ⟨h.registered, ?_, h.alone, ?_, h.work⟩
  · intro p d hd
    obtain ⟨e, he, hrest⟩ := h.held p d hd
    exact ⟨e, by rw [hdocs]; exact List.mem_append_left _ he, hrest⟩
  · intro e he
    rw [hdocs] at he
    rcases List.mem_append.mp he with he | he
    · exact h.delivered e he
    · obtain rfl := List.mem_singleton.mp he
      intro name hname
      cases hname

theorem DeliveryInv.invoke (h : DeliveryInv identity s) {pid : Nat}
    (hstep : outboxStep cfg s (.invoke pid) = some t) : DeliveryInv identity t := by
  obtain ⟨d, listener, name, rest, hd, -, -, rfl⟩ := invoke_inv hstep
  have hlog : ∀ x ∈ s.log, x ∈ Delivery.invoked d.event.id listener.fn :: s.log :=
    fun x hx => List.mem_cons_of_mem _ hx
  have hwork := (h.work pid d hd).mono hlog
  refine h.moved hd rfl rfl rfl hlog (fun e he => ⟨e, he, .refl e⟩) ?_
    ⟨hwork.listeners, hwork.names, hwork.settled, fun hphase => by cases hphase⟩
  intro e he nm hnm
  obtain ⟨fn, heq, hsucc⟩ := h.delivered e he nm hnm
  exact ⟨fn, heq, hlog _ hsucc⟩

theorem DeliveryInv.settle (h : DeliveryInv identity s) {pid : Nat} {error : Option String}
    (hstep : outboxStep cfg s (.settle pid error) = some t) : DeliveryInv identity t := by
  obtain ⟨d, listener, name, rest, hd, -, hpend, rfl | ⟨err, rfl⟩⟩ := settle_inv hstep
  · have hlog : ∀ x ∈ s.log, x ∈ Delivery.succeeded d.event.id listener.fn :: s.log :=
      fun x hx => List.mem_cons_of_mem _ hx
    have hwork := (h.work pid d hd).mono hlog
    refine h.moved hd rfl rfl rfl hlog (fun e he => ⟨e, he, .refl e⟩) ?_
      ⟨hwork.listeners, hwork.names, hwork.settled, fun _ p hp => ?_⟩
    · intro e he nm hnm
      obtain ⟨fn, heq, hsucc⟩ := h.delivered e he nm hnm
      exact ⟨fn, heq, hlog _ hsucc⟩
    · simp only [hpend, List.head?_cons, Option.mem_some_iff] at hp
      subst hp
      exact List.mem_cons_self
  · have hwork := h.work pid d hd
    refine h.moved hd rfl rfl rfl (fun _ hx => hx) (fun e he => ⟨e, he, .refl e⟩) h.delivered
      ⟨hwork.listeners, fun p hp => hwork.names p ?_, fun hnone => ?_, fun hphase => by cases hphase⟩
    · rw [hpend]
      exact List.mem_cons_of_mem _ hp
    · exact absurd hnone (by simp)

theorem mem_addToSet {names : List String} {name x : String} (h : x ∈ addToSet names name) :
    x ∈ names ∨ x = name := by
  unfold addToSet at h
  split at h
  · exact Or.inl h
  · simpa using h

theorem DeliveryInv.record (h : DeliveryInv identity s) {pid : Nat}
    (hstep : outboxStep cfg s (.record pid) = some t) : DeliveryInv identity t := by
  obtain ⟨d, listener, name, rest, hd, hphase, hpend, rfl⟩ := record_inv hstep
  have hwork := h.work pid d hd
  have hsucc : Delivery.succeeded d.event.id listener.fn ∈ s.log :=
    hwork.recording hphase (listener, name) (by simp [hpend])
  have hname : name = identity listener.fn := hwork.names (listener, name) (by simp [hpend])
  refine h.moved hd rfl rfl rfl (fun _ hx => hx) ?_ ?_
    ⟨hwork.listeners, fun p hp => hwork.names p ?_, fun hnone l hl => ?_, fun hp => by cases hp⟩
  · intro e he
    refine ⟨_, (s.events.mem_modify (recordDelivery_id name)).mpr ⟨e, he, rfl⟩, ?_⟩
    split
    · exact ⟨rfl, rfl, rfl⟩
    · exact .refl e
  · intro e' he' nm hnm
    obtain ⟨e, he, rfl⟩ := (s.events.mem_modify (recordDelivery_id name)).mp he'
    split at hnm
    · rename_i heid
      rw [if_pos heid]
      rcases mem_addToSet hnm with hold | rfl
      · exact h.delivered e he nm hold
      · exact ⟨listener.fn, hname.symm, heid ▸ hsucc⟩
    · rename_i heid
      rw [if_neg heid]
      exact h.delivered e he nm hnm
  · rw [hpend]
    exact List.mem_cons_of_mem _ hp
  · -- the listener just recorded leaves the pending ones as one that succeeded
    rcases hwork.settled hnone l hl with hold | ⟨nm, hnm⟩
    · exact Or.inl hold
    · rw [hpend] at hnm
      rcases List.mem_cons.mp hnm with heq | hnm
      · obtain ⟨rfl, -⟩ := Prod.mk.inj heq
        exact Or.inl hsucc
      · exact Or.inr ⟨nm, hnm⟩

theorem DeliveryInv.finish (h : DeliveryInv identity s) {pid : Nat}
    (hstep : outboxStep cfg s (.finish pid) = some t) : DeliveryInv identity t := by
  obtain ⟨d, hd, -, -, rfl⟩ := finish_inv hstep
  have hid := finalUpdate_id cfg s.clock d
  refine ⟨h.registered, ?_, ?_, ?_, fun p x hx => h.work p x (update_none_iff.mp hx).2⟩
  · intro p x hx
    obtain ⟨hne, hx⟩ := update_none_iff.mp hx
    obtain ⟨e, he, heid, hty, hst⟩ := h.held p x hx
    have hother : e.id ≠ d.event.id := fun hsame =>
      hne (h.alone p pid x d hx hd (heid.symm.trans hsame))
    exact ⟨e, (s.events.mem_modify hid).mpr ⟨e, he, if_neg hother⟩, heid, hty, hst⟩
  · intro p p' x x' hx hx'
    exact h.alone p p' x x' (update_none_iff.mp hx).2 (update_none_iff.mp hx').2
  · intro e' he'
    obtain ⟨e, he, rfl⟩ := (s.events.mem_modify hid).mp he'
    split
    · rw [hid, (finalUpdate_kept cfg s.clock d e).2]
      exact h.delivered e he
    · exact h.delivered e he

theorem DeliveryInv.restart (h : DeliveryInv identity s) {pid : Nat}
    {registry : String → List Listener} (hstable : StableIdentities identity (.restart pid registry))
    (hstep : outboxStep cfg s (.restart pid registry) = some t) : DeliveryInv identity t := by
  obtain rfl : _ = t := Option.some.inj hstep
  refine ⟨?_, fun p x hx => h.held p x (update_none_iff.mp hx).2, ?_, h.delivered, ?_⟩
  · intro p ty
    dsimp only
    by_cases hp : p = pid
    · subst hp
      rw [update_self]
      exact hstable ty
    · rw [update_of_ne hp]
      exact h.registered p ty
  · intro p p' x x' hx hx'
    exact h.alone p p' x x' (update_none_iff.mp hx).2 (update_none_iff.mp hx').2
  · intro p x hx
    obtain ⟨hne, hx⟩ := update_none_iff.mp hx
    dsimp only
    rw [update_of_ne hne]
    exact h.work p x hx

theorem DeliveryInv.step (hinj : Injective identity) {a : OutboxAction}
    (h : DeliveryInv identity s) (hsafe : DeliverySafe identity s a)
    (hstep : outboxStep cfg s a = some t) : DeliveryInv identity t := by
  cases a with
  | tick ms =>
    obtain rfl : _ = t := Option.some.inj hstep
    exact ⟨h.registered, h.held, h.alone, h.delivered, h.work⟩
  | publish id eventType => exact h.publish hstep
  | recover id now => exact h.recover hsafe.2 hstep
  | claim pid now => exact h.claim hinj hstep
  | invoke pid => exact h.invoke hstep
  | settle pid error => exact h.settle hstep
  | record pid => exact h.record hstep
  | finish pid => exact h.finish hstep
  | restart pid registry => exact h.restart hsafe.1 hstep

/-- Only a last update completes an event. -/
theorem completed_before {a : OutboxAction} (ha : ∀ pid, a ≠ .finish pid)
    (hstep : outboxStep cfg s a = some t) {e' : OutboxDoc} (he' : e' ∈ t.events.docs)
    (hst : e'.status = .completed) : ∃ e ∈ s.events.docs, e.id = e'.id ∧ e.status = .completed := by
  cases a with
  | tick ms =>
    obtain rfl : _ = t := Option.some.inj hstep
    exact ⟨e', he', rfl, hst⟩
  | publish id eventType =>
    obtain ⟨events, hins, rfl⟩ := publish_inv hstep
    rw [s.events.insert_docs hins] at he'
    rcases List.mem_append.mp he' with he' | he'
    · exact ⟨e', he', rfl, hst⟩
    · obtain rfl := List.mem_singleton.mp he'
      cases hst
  | recover id now =>
    obtain rfl := recover_inv hstep
    obtain ⟨e, he, rfl⟩ := (s.events.mem_modify (recoverStaleLease_id now)).mp he'
    by_cases hid : e.id = id
    · rw [if_pos hid] at hst ⊢
      unfold recoverStaleLease at hst ⊢
      split at hst
      · cases hst
      · rename_i hfresh
        rw [if_neg hfresh]
        exact ⟨e, he, rfl, hst⟩
    · rw [if_neg hid] at hst ⊢
      exact ⟨e, he, rfl, hst⟩
  | claim pid now =>
    obtain ⟨-, doc, hdoc, -, rfl⟩ := claim_inv hstep
    rcases (s.events.mem_modify_key (claimed_id cfg pid now) hdoc).mp he' with rfl | ⟨he, -⟩
    · cases hst
    · exact ⟨e', he, rfl, hst⟩
  | invoke pid =>
    obtain ⟨d, listener, name, rest, -, -, -, rfl⟩ := invoke_inv hstep
    exact ⟨e', he', rfl, hst⟩
  | settle pid error =>
    obtain ⟨d, listener, name, rest, -, -, -, rfl | ⟨err, rfl⟩⟩ := settle_inv hstep
    · exact ⟨e', he', rfl, hst⟩
    · exact ⟨e', he', rfl, hst⟩
  | record pid =>
    obtain ⟨d, listener, name, rest, -, -, -, rfl⟩ := record_inv hstep
    obtain ⟨e, he, rfl⟩ := (s.events.mem_modify (recordDelivery_id name)).mp he'
    split at hst
    · rename_i hid
      rw [if_pos hid]
      exact ⟨e, he, rfl, hst⟩
    · rename_i hid
      rw [if_neg hid]
      exact ⟨e, he, rfl, hst⟩
  | finish pid => exact absurd rfl (ha pid)
  | restart pid registry =>
    obtain rfl : _ = t := Option.some.inj hstep
    exact ⟨e', he', rfl, hst⟩

/-- **Completed means delivered.** -/
theorem DeliveryInv.marksDelivered {a : OutboxAction} (h : DeliveryInv identity s)
    (hstep : outboxStep cfg s a = some t) : MarksDelivered s a t := by
  intro e he e' he' hid hopen hst
  by_cases ha : ∃ pid, a = .finish pid
  · obtain ⟨pid, rfl⟩ := ha
    refine ⟨pid, rfl, ?_⟩
    obtain ⟨d, hd, -, hdone, rfl⟩ := finish_inv hstep
    have hkept := finalUpdate_id cfg s.clock d
    obtain ⟨e₀, he₀, rfl⟩ := (s.events.mem_modify hkept).mp he'
    by_cases hsame : e₀.id = d.event.id
    · rw [if_pos hsame] at hid hst
      obtain rfl := s.events.eq_of_key he₀ he ((hkept e₀).symm.trans hid)
      obtain ⟨e₁, he₁, hid₁, hty, -⟩ := h.held pid d hd
      obtain rfl := s.events.eq_of_key he₁ he₀ (hid₁.trans hsame.symm)
      have hwork := h.work pid d hd
      rcases finalUpdate_cases cfg s.clock d e₁ with ⟨-, hdead, -⟩ | ⟨-, hnone, -, -⟩ |
        ⟨-, -, ⟨hdead, -⟩ | ⟨hpend, -⟩⟩
      · rw [hdead] at hst
        cases hst
      · -- nobody failed and nobody is left
        intro l hl
        rw [hty, ← hwork.listeners] at hl
        rw [hid₁]
        refine (hwork.settled hnone l hl).resolve_right fun ⟨name, hname⟩ => ?_
        rw [hdone] at hname
        cases hname
      · rw [hdead] at hst
        cases hst
      · rw [hpend] at hst
        cases hst
    · rw [if_neg hsame] at hid hst
      obtain rfl := s.events.eq_of_key he₀ he hid
      exact absurd hst hopen
  · obtain ⟨e₀, he₀, hid₀, hst₀⟩ :=
      completed_before (fun pid hpid => ha ⟨pid, hpid⟩) hstep he' hst
    obtain rfl := s.events.eq_of_key he₀ he (hid₀.trans hid)
    exact absurd hst₀ hopen

end Step

/-! ## No second call after a success -/

/-- The listeners a dispatch has yet to hear from. -/
def Dispatch.awaited (d : Dispatch) : List (Listener × String) :=
  if d.phase = .recording then d.pendingListeners.tail else d.pendingListeners

/-- The dispatch knows that `fn` succeeded and has yet to record it. -/
def Dispatch.RecordsNext (d : Dispatch) (fn : Nat) : Prop :=
  d.phase = .recording ∧ ∃ p ∈ d.pendingListeners.head?, p.1.fn = fn

/-- **The invariant of crash-free runs**: every success is recorded or about to be, and no
listener is awaited that has succeeded. -/
structure NoRepeatInv (identity : Nat → String) (s : OutboxSystem) : Prop where
  stored : ∀ id fn, .succeeded id fn ∈ s.log → ∃ e ∈ s.events.docs, e.id = id
  recorded : ∀ id fn, .succeeded id fn ∈ s.log →
    (∀ e ∈ s.events.docs, e.id = id → identity fn ∈ e.deliveredTo) ∨
      ∃ pid d, s.dispatcher pid = some d ∧ d.event.id = id ∧ d.RecordsNext fn
  once : ∀ pid d, s.dispatcher pid = some d → (d.pendingListeners.map (·.1.fn)).Nodup
  fresh : ∀ pid d, s.dispatcher pid = some d → ∀ p ∈ d.awaited,
    .succeeded d.event.id p.1.fn ∉ s.log
  noRepeat : NoRepeat s.log

section Once
variable {cfg : OutboxConfig} {s t : OutboxSystem} {identity : Nat → String}

theorem NoRepeatInv.init (registry : Nat → String → List Listener) :
    NoRepeatInv identity (.start registry) where
  stored id fn h := by cases h
  recorded id fn h := by cases h
  once pid d hd := by cases hd
  fresh pid d hd := by cases hd
  noRepeat := List.Pairwise.nil

/-- The successes so far stay recorded, or about to be, while no delivery is forgotten and
nobody who has one to record is interrupted. -/
theorem NoRepeatInv.recorded_kept (h : NoRepeatInv identity s)
    (hforward : ∀ e ∈ s.events.docs, ∃ e' ∈ t.events.docs, e'.id = e.id)
    (hdocs : ∀ e' ∈ t.events.docs, (∀ e ∈ s.events.docs, e.id ≠ e'.id) ∨
      ∃ e ∈ s.events.docs, e.id = e'.id ∧ ∀ name ∈ e.deliveredTo, name ∈ e'.deliveredTo)
    (hrecords : ∀ pid d fn, s.dispatcher pid = some d → d.RecordsNext fn →
      t.dispatcher pid = some d) {id : String} {fn : Nat} (hsucc : .succeeded id fn ∈ s.log) :
    (∃ e ∈ t.events.docs, e.id = id) ∧
      ((∀ e ∈ t.events.docs, e.id = id → identity fn ∈ e.deliveredTo) ∨
        ∃ pid d, t.dispatcher pid = some d ∧ d.event.id = id ∧ d.RecordsNext fn) := by
  obtain ⟨e, he, heid⟩ := h.stored id fn hsucc
  constructor
  · obtain ⟨e', he', hid⟩ := hforward e he
    exact ⟨e', he', hid.trans heid⟩
  · rcases h.recorded id fn hsucc with hdel | ⟨pid, d, hd, hid, hrec⟩
    · refine Or.inl fun e' he' hid => ?_
      rcases hdocs e' he' with hnew | ⟨e₀, he₀, heid₀, hsub⟩
      · exact absurd (heid.trans hid.symm) (hnew e he)
      · exact hsub _ (hdel e₀ he₀ (heid₀.trans hid))
    · exact Or.inr ⟨pid, d, hrecords pid d fn hd hrec, hid, hrec⟩

/-- A step that adds no success and gives nobody more to do. -/
theorem NoRepeatInv.kept (h : NoRepeatInv identity s)
    (hlog : ∀ id fn, .succeeded id fn ∈ t.log → .succeeded id fn ∈ s.log)
    (hforward : ∀ e ∈ s.events.docs, ∃ e' ∈ t.events.docs, e'.id = e.id)
    (hdocs : ∀ e' ∈ t.events.docs, (∀ e ∈ s.events.docs, e.id ≠ e'.id) ∨
      ∃ e ∈ s.events.docs, e.id = e'.id ∧ ∀ name ∈ e.deliveredTo, name ∈ e'.deliveredTo)
    (hrecords : ∀ pid d fn, s.dispatcher pid = some d → d.RecordsNext fn →
      t.dispatcher pid = some d)
    (hdisp : ∀ pid d', t.dispatcher pid = some d' → ∃ d, s.dispatcher pid = some d ∧
      d'.event = d.event ∧ d'.pendingListeners.Sublist d.pendingListeners ∧
      ∀ p ∈ d'.awaited, p ∈ d.awaited)
    (hno : NoRepeat t.log) : NoRepeatInv identity t := by
  have hkept := fun {id fn} hsucc =>
    h.recorded_kept hforward hdocs hrecords (hlog id fn hsucc)
  refine ⟨fun id fn hsucc => (hkept hsucc).1, fun id fn hsucc => (hkept hsucc).2,
    fun pid d' hd' => ?_, fun pid d' hd' p hp hsucc => ?_, hno⟩
  · obtain ⟨d, hd, -, hsub, -⟩ := hdisp pid d' hd'
    exact (h.once pid d hd).sublist (hsub.map _)
  · obtain ⟨d, hd, hevent, -, hawaited⟩ := hdisp pid d' hd'
    rw [hevent] at hsucc
    exact h.fresh pid d hd p (hawaited p hp) (hlog _ _ hsucc)

/-- Whoever has a success to record is in the recording phase, so a dispatcher in another
phase is not the one. -/
theorem records_of_update {pid : Nat} {d : Dispatch} (hd : s.dispatcher pid = some d)
    (hphase : d.phase ≠ .recording) (d' : Option Dispatch) :
    ∀ p x fn, s.dispatcher p = some x → x.RecordsNext fn →
      update s.dispatcher pid d' p = some x := by
  intro p x fn hx hrec
  have hne : p ≠ pid := by
    rintro rfl
    obtain rfl := Option.some.inj (hd.symm.trans hx)
    exact hphase hrec.1
  rw [update_of_ne hne]
  exact hx

theorem awaited_of_phase {d : Dispatch} (h : d.phase ≠ .recording) :
    d.awaited = d.pendingListeners := if_neg h

/-- One dispatcher moves on to fewer listeners. -/
theorem disp_of_moved {pid : Nat} {d : Dispatch} (d' : Dispatch) (hd : s.dispatcher pid = some d)
    (hevent : d'.event = d.event) (hsub : d'.pendingListeners.Sublist d.pendingListeners)
    (hawaited : ∀ p ∈ d'.awaited, p ∈ d.awaited) :
    ∀ p x, update s.dispatcher pid (some d') p = some x → ∃ y, s.dispatcher p = some y ∧
      x.event = y.event ∧ x.pendingListeners.Sublist y.pendingListeners ∧
      ∀ q ∈ x.awaited, q ∈ y.awaited := by
  intro p x hx
  rcases update_some_iff.mp hx with ⟨rfl, rfl⟩ | ⟨-, hx⟩
  · exact ⟨d, hd, hevent, hsub, hawaited⟩
  · exact ⟨x, hx, rfl, List.Sublist.refl _, fun q hq => hq⟩

theorem disp_of_dropped {pid : Nat} :
    ∀ p x, update s.dispatcher pid none p = some x → ∃ y, s.dispatcher p = some y ∧
      x.event = y.event ∧ x.pendingListeners.Sublist y.pendingListeners ∧
      ∀ q ∈ x.awaited, q ∈ y.awaited :=
  fun _ x hx => ⟨x, (update_none_iff.mp hx).2, rfl, List.Sublist.refl _, fun _ hq => hq⟩

theorem docs_same (hevents : t.events = s.events) :
    (∀ e ∈ s.events.docs, ∃ e' ∈ t.events.docs, e'.id = e.id) ∧
      ∀ e' ∈ t.events.docs, (∀ e ∈ s.events.docs, e.id ≠ e'.id) ∨
        ∃ e ∈ s.events.docs, e.id = e'.id ∧ ∀ name ∈ e.deliveredTo, name ∈ e'.deliveredTo :=
  ⟨fun e he => ⟨e, hevents ▸ he, rfl⟩,
    fun e he => Or.inr ⟨e, hevents ▸ he, rfl, fun _ h => h⟩⟩

/-- An update in place that forgets no delivery. -/
theorem docs_modify (id : String) {f : OutboxDoc → OutboxDoc} (hf : ∀ d, (f d).id = d.id)
    (hdel : ∀ d, ∀ name ∈ d.deliveredTo, name ∈ (f d).deliveredTo) :
    (∀ e ∈ s.events.docs, ∃ e' ∈ (s.events.modify id f hf).docs, e'.id = e.id) ∧
      ∀ e' ∈ (s.events.modify id f hf).docs, (∀ e ∈ s.events.docs, e.id ≠ e'.id) ∨
        ∃ e ∈ s.events.docs, e.id = e'.id ∧ ∀ name ∈ e.deliveredTo, name ∈ e'.deliveredTo := by
  constructor
  · intro e he
    refine ⟨_, (s.events.mem_modify hf).mpr ⟨e, he, rfl⟩, ?_⟩
    split
    · exact hf e
    · rfl
  · intro e' he'
    obtain ⟨e, he, rfl⟩ := (s.events.mem_modify hf).mp he'
    refine Or.inr ⟨e, he, ?_, ?_⟩
    · split
      · exact (hf e).symm
      · rfl
    · split
      · exact hdel e
      · exact fun _ h => h

theorem NoRepeatInv.publish (h : NoRepeatInv identity s) {id eventType : String}
    (hstep : outboxStep cfg s (.publish id eventType) = some t) : NoRepeatInv identity t := by
  obtain ⟨events, hins, rfl⟩ := publish_inv hstep
  have hdocs := s.events.insert_docs hins
  refine h.kept (fun _ _ hx => hx) ?_ ?_ (fun _ _ _ hd _ => hd)
    (fun p x hx => ⟨x, hx, rfl, List.Sublist.refl _, fun _ hq => hq⟩) h.noRepeat
  · intro e he
    exact ⟨e, by rw [hdocs]; exact List.mem_append_left _ he, rfl⟩
  · intro e' he'
    rw [hdocs] at he'
    rcases List.mem_append.mp he' with he' | he'
    · exact Or.inr ⟨e', he', rfl, fun _ hn => hn⟩
    · obtain rfl := List.mem_singleton.mp he'
      exact Or.inl fun e he => s.events.insert_fresh hins e he

theorem NoRepeatInv.claim (hbase : DeliveryInv identity s) (h : NoRepeatInv identity s) {pid now : Nat}
    (hstep : outboxStep cfg s (.claim pid now) = some t) : NoRepeatInv identity t := by
  obtain ⟨hidle, doc, hdoc, hpending, rfl⟩ := claim_inv hstep
  obtain ⟨hforward, hback⟩ := docs_modify (s := s) doc.id (claimed_id cfg pid now)
    fun _ _ hn => hn
  have hreg := hbase.registered pid doc.eventType
  have hrecords : ∀ p d fn, s.dispatcher p = some d → d.RecordsNext fn →
      update s.dispatcher pid (some (dispatch (claimed cfg pid now doc) (s.claims doc.id + 1)
        (s.registry pid doc.eventType))) p = some d := by
    intro p d fn hd _
    have hne : p ≠ pid := by
      rintro rfl
      rw [hidle] at hd
      cases hd
    rw [update_of_ne hne]
    exact hd
  refine ⟨fun id fn hsucc => (h.recorded_kept hforward hback hrecords hsucc).1,
    fun id fn hsucc => (h.recorded_kept hforward hback hrecords hsucc).2, ?_, ?_, h.noRepeat⟩
  · intro p d hd
    rcases update_some_iff.mp hd with ⟨-, rfl⟩ | ⟨-, hold⟩
    · rw [dispatch_pending hreg, List.map_map]
      exact hreg.2.sublist (List.filter_sublist.map _)
    · exact h.once p d hold
  · intro p d hd q hq hsucc
    rcases update_some_iff.mp hd with ⟨-, rfl⟩ | ⟨-, hold⟩
    · rw [awaited_of_phase (by simp [dispatch]), dispatch_pending hreg] at hq
      obtain ⟨l, hl, rfl⟩ := List.mem_map.mp hq
      have hnot : identity l.fn ∉ doc.deliveredTo := by
        simpa [claimed] using (List.mem_filter.mp hl).2
      -- a success on a pending event is recorded: nobody holds the event
      rcases h.recorded doc.id l.fn hsucc with hdel | ⟨p', d', hd', hid, -⟩
      · exact hnot (hdel doc hdoc rfl)
      · exact hbase.not_held hdoc hpending hd' hid
    · exact h.fresh p d hold q hq hsucc

theorem NoRepeatInv.invoke (h : NoRepeatInv identity s) {pid : Nat}
    (hstep : outboxStep cfg s (.invoke pid) = some t) : NoRepeatInv identity t := by
  obtain ⟨d, listener, name, rest, hd, hphase, hpend, rfl⟩ := invoke_inv hstep
  have hcalling : d.phase ≠ .recording := by simp [hphase]
  obtain ⟨hforward, hback⟩ := docs_same (s := s) rfl
  refine h.kept ?_ hforward hback (records_of_update hd hcalling _)
    (disp_of_moved _ hd rfl (List.Sublist.refl _) ?_) ?_
  · intro id fn hsucc
    simpa using hsucc
  · intro p hp
    rw [awaited_of_phase hcalling]
    exact hp
  · -- the listener called is still awaited, so it has not succeeded
    refine List.pairwise_cons.mpr ⟨fun older holder id fn hnew hold => ?_, h.noRepeat⟩
    obtain ⟨rfl, rfl⟩ := Delivery.invoked.inj hnew
    refine h.fresh pid d hd (listener, name) ?_ (hold ▸ holder)
    rw [awaited_of_phase hcalling, hpend]
    exact List.mem_cons_self

/-- A listener succeeds: it is recorded next, and none of the others is it. -/
theorem NoRepeatInv.succeed (hbase : DeliveryInv identity s) (h : NoRepeatInv identity s) {pid : Nat}
    {d : Dispatch} {listener : Listener} {name : String} {rest : List (Listener × String)}
    (hd : s.dispatcher pid = some d) (hphase : d.phase = .awaiting)
    (hpend : d.pendingListeners = (listener, name) :: rest) :
    NoRepeatInv identity { s with
      dispatcher := update s.dispatcher pid (some { d with phase := .recording })
      log := .succeeded d.event.id listener.fn :: s.log } := by
  have hawaiting : d.phase ≠ .recording := by simp [hphase]
  obtain ⟨hforward, hback⟩ := docs_same (s := s) rfl
  have honce := h.once pid d hd
  rw [hpend, List.map_cons, List.nodup_cons] at honce
  refine ⟨?_, ?_, ?_, ?_, ?_⟩
  · intro id fn hsucc
    rcases List.mem_cons.mp hsucc with heq | hold
    · obtain ⟨rfl, rfl⟩ := Delivery.succeeded.inj heq
      obtain ⟨e, he, heid, -⟩ := hbase.held pid d hd
      exact ⟨e, he, heid⟩
    · exact h.stored id fn hold
  · intro id fn hsucc
    rcases List.mem_cons.mp hsucc with heq | hold
    · obtain ⟨rfl, rfl⟩ := Delivery.succeeded.inj heq
      exact Or.inr ⟨pid, _, update_self .., rfl, rfl, (listener, name), by simp [hpend], rfl⟩
    · rcases h.recorded id fn hold with hdel | ⟨p, x, hx, hid, hrec⟩
      · exact Or.inl hdel
      · exact Or.inr ⟨p, x, records_of_update hd hawaiting _ p x fn hx hrec, hid, hrec⟩
  · intro p x hx
    rcases update_some_iff.mp hx with ⟨-, rfl⟩ | ⟨-, hx⟩
    · exact h.once pid d hd
    · exact h.once p x hx
  · intro p x hx q hq hsucc
    rcases update_some_iff.mp hx with ⟨-, rfl⟩ | ⟨hne, hx⟩
    · have hrest : q ∈ rest := by simpa [Dispatch.awaited, hpend] using hq
      rcases List.mem_cons.mp hsucc with heq | hold
      · have hfn : q.1.fn = listener.fn := (Delivery.succeeded.inj heq).2
        exact honce.1 (List.mem_map.mpr ⟨q, hrest, hfn⟩)
      · refine h.fresh pid d hd q ?_ hold
        rw [awaited_of_phase hawaiting, hpend]
        exact List.mem_cons_of_mem _ hrest
    · rcases List.mem_cons.mp hsucc with heq | hold
      · exact hne (hbase.alone p pid x d hx hd (Delivery.succeeded.inj heq).1)
      · exact h.fresh p x hx q hq hold
  · refine List.pairwise_cons.mpr ⟨fun older _ id fn hnew => ?_, h.noRepeat⟩
    cases hnew

theorem NoRepeatInv.settle (hbase : DeliveryInv identity s) (h : NoRepeatInv identity s) {pid : Nat}
    {error : Option String} (hstep : outboxStep cfg s (.settle pid error) = some t) :
    NoRepeatInv identity t := by
  obtain ⟨d, listener, name, rest, hd, hphase, hpend, rfl | ⟨err, rfl⟩⟩ := settle_inv hstep
  · exact h.succeed hbase hd hphase hpend
  · have hawaiting : d.phase ≠ .recording := by simp [hphase]
    obtain ⟨hforward, hback⟩ := docs_same (s := s) rfl
    refine h.kept (fun _ _ hx => hx) hforward hback (records_of_update hd hawaiting _)
      (disp_of_moved _ hd rfl ?_ ?_) h.noRepeat
    · rw [hpend]
      exact List.sublist_cons_self _ _
    · intro p hp
      rw [awaited_of_phase hawaiting, hpend]
      exact List.mem_cons_of_mem _ hp

theorem subset_addToSet (names : List String) (name : String) :
    name ∈ addToSet names name ∧ ∀ x ∈ names, x ∈ addToSet names name := by
  unfold addToSet
  split
  · rename_i h
    exact ⟨h, fun _ hx => hx⟩
  · exact ⟨by simp, fun x hx => List.mem_append_left _ hx⟩

theorem NoRepeatInv.record (hbase : DeliveryInv identity s) (h : NoRepeatInv identity s) {pid : Nat}
    (hstep : outboxStep cfg s (.record pid) = some t) : NoRepeatInv identity t := by
  obtain ⟨d, listener, name, rest, hd, hphase, hpend, rfl⟩ := record_inv hstep
  have hname : name = identity listener.fn :=
    (hbase.work pid d hd).names (listener, name) (by simp [hpend])
  obtain ⟨hforward, hback⟩ := docs_modify (s := s) d.event.id (recordDelivery_id name)
    fun doc => (subset_addToSet doc.deliveredTo name).2
  have hdisp := disp_of_moved { d with phase := .calling, pendingListeners := rest } hd rfl
    (by rw [hpend]; exact List.sublist_cons_self _ _)
    (by simp [Dispatch.awaited, hphase, hpend])
  refine ⟨?_, ?_, ?_, ?_, h.noRepeat⟩
  · intro id fn hsucc
    obtain ⟨e, he, heid⟩ := h.stored id fn hsucc
    obtain ⟨e', he', hid⟩ := hforward e he
    exact ⟨e', he', hid.trans heid⟩
  · intro id fn hsucc
    rcases h.recorded id fn hsucc with hdel | ⟨p, x, hx, hid, hrec⟩
    · refine Or.inl fun e' he' hid => ?_
      obtain ⟨e, he, rfl⟩ := (s.events.mem_modify (recordDelivery_id name)).mp he'
      split at hid
      · rename_i heid
        rw [if_pos heid]
        exact (subset_addToSet e.deliveredTo name).2 _ (hdel e he hid)
      · rename_i heid
        rw [if_neg heid]
        exact hdel e he hid
    by_cases hp : p = pid
    · -- the success this step records
      subst hp
      obtain rfl := Option.some.inj (hd.symm.trans hx)
      obtain ⟨-, q, hq, rfl⟩ := hrec
      rw [hpend, List.head?_cons, Option.mem_some_iff] at hq
      subst hq
      refine Or.inl fun e' he' hide' => ?_
      obtain ⟨e, he, rfl⟩ := (s.events.mem_modify (recordDelivery_id name)).mp he'
      have heid : e.id = d.event.id := by
        split at hide'
        · assumption
        · exact hide'.trans hid.symm
      rw [if_pos heid, ← hname]
      exact (subset_addToSet e.deliveredTo name).1
    · exact Or.inr ⟨p, x, (update_of_ne hp _ _).trans hx, hid, hrec⟩
  · intro p x hx
    obtain ⟨y, hy, -, hsub, -⟩ := hdisp p x hx
    exact (h.once p y hy).sublist (hsub.map _)
  · intro p x hx q hq hsucc
    obtain ⟨y, hy, hevent, -, hawaited⟩ := hdisp p x hx
    rw [hevent] at hsucc
    exact h.fresh p y hy q (hawaited q hq) hsucc

theorem NoRepeatInv.step {a : OutboxAction} (hbase : DeliveryInv identity s) (h : NoRepeatInv identity s)
    (hcrash : CrashFree s a) (hstep : outboxStep cfg s a = some t) : NoRepeatInv identity t := by
  cases a with
  | tick ms =>
    obtain rfl : _ = t := Option.some.inj hstep
    exact ⟨h.stored, h.recorded, h.once, h.fresh, h.noRepeat⟩
  | publish id eventType => exact h.publish hstep
  | recover id now =>
    obtain rfl := recover_inv hstep
    obtain ⟨hforward, hback⟩ := docs_modify (s := s) id (recoverStaleLease_id now)
      fun doc name hname => (recover_kept now doc).2 ▸ hname
    exact h.kept (fun _ _ hx => hx) hforward hback (fun _ _ _ hd _ => hd)
      (fun p x hx => ⟨x, hx, rfl, List.Sublist.refl _, fun _ hq => hq⟩) h.noRepeat
  | claim pid now => exact h.claim hbase hstep
  | invoke pid => exact h.invoke hstep
  | settle pid error => exact h.settle hbase hstep
  | record pid => exact h.record hbase hstep
  | finish pid =>
    obtain ⟨d, hd, hphase, -, rfl⟩ := finish_inv hstep
    obtain ⟨hforward, hback⟩ := docs_modify (s := s) d.event.id (finalUpdate_id cfg s.clock d)
      fun doc name hname => (finalUpdate_kept cfg s.clock d doc).2 ▸ hname
    exact h.kept (fun _ _ hx => hx) hforward hback
      (records_of_update hd (by simp [hphase]) none) disp_of_dropped h.noRepeat
  | restart pid registry =>
    obtain rfl : _ = t := Option.some.inj hstep
    obtain ⟨hforward, hback⟩ := docs_same (s := s) rfl
    refine h.kept (fun _ _ hx => hx) hforward hback (fun p d fn hd _ => ?_) disp_of_dropped
      h.noRepeat
    have hne : p ≠ pid := by
      rintro rfl
      rw [show s.dispatcher p = none from hcrash] at hd
      cases hd
    exact (update_of_ne hne _ _).trans hd

end Once

/-- **Delivery to every listener.**  Where listeners keep distinct identities across
registrations and leases hold, an event is marked completed only if every registered
listener has succeeded on it; and without crashes no listener is called on an event it has
succeeded on. -/
theorem delivery_along_runs {cfg : OutboxConfig} {identity : Nat → String}
    (hinj : Injective identity) {registry : Nat → String → List Listener}
    (hreg : ∀ pid eventType, Registered identity (registry pid eventType)) :
    (∀ s, Reach (outboxStep cfg) (DeliverySafe identity) (.start registry) s →
      ∀ a t, outboxStep cfg s a = some t → MarksDelivered s a t) ∧
    (∀ s, Reach (outboxStep cfg) (fun s a => DeliverySafe identity s a ∧ CrashFree s a)
        (.start registry) s → NoRepeat s.log) := by
  constructor
  · intro s hrun a t hstep
    have hinv : DeliveryInv identity s :=
      hrun.invariant (.init hreg) fun h hsafe hs => h.step hinj hsafe hs
    exact hinv.marksDelivered hstep
  · intro s hrun
    have hinv : DeliveryInv identity s ∧ NoRepeatInv identity s := by
      induction hrun with
      | refl => exact ⟨.init hreg, .init registry⟩
      | tail _ hsafe hstep ih =>
        exact ⟨ih.1.step hinj hsafe.1 hstep, ih.2.step ih.1 hsafe.2 hstep⟩
    exact hinv.2.noRepeat

/-! ## The subscribers of the application -/

/-- `registerPaymentSavedSubscribers`, by event type; the two arrow functions are anonymous. -/
def registerPaymentSavedSubscribers (eventType : String) : List Listener :=
  if eventType = "payment.saved" then
    [⟨0, "onPaymentSavedWebhook"⟩, ⟨1, "onPaymentSavedReceipt"⟩,
      ⟨2, "onPaymentSavedCancelReminder"⟩, ⟨3, "onPaymentSavedRecordDuration"⟩, ⟨4, ""⟩, ⟨5, ""⟩]
  else if eventType = "refund.status_changed" then [⟨6, "onRefundStatusChanged"⟩]
  else []

/-- The identity each subscriber goes under. -/
def subscriberIdentity : Nat → String
  | 0 => "onPaymentSavedWebhook"
  | 1 => "onPaymentSavedReceipt"
  | 2 => "onPaymentSavedCancelReminder"
  | 3 => "onPaymentSavedRecordDuration"
  | 6 => "onRefundStatusChanged"
  | fn => "listener_" ++ toString fn

theorem positional_injective {a b : Nat}
    (h : "listener_" ++ toString a = "listener_" ++ toString b) : a = b := by
  have hlist := congrArg String.toList h
  rw [String.toList_append, String.toList_append] at hlist
  have hdigits : Nat.toDigits 10 a = Nat.toDigits 10 b := by
    simpa [Nat.repr, toString] using List.append_cancel_left hlist
  rw [← Nat.ofDigitChars_ten_toDigits (n := a), hdigits, Nat.ofDigitChars_ten_toDigits]

theorem subscriberIdentity_injective : Injective subscriberIdentity := by
  -- a name starts with another letter than a position does
  have hletter : ∀ (name : String) (n : Nat), name.toList.head? = some 'o' →
      name ≠ "listener_" ++ toString n := by
    rintro name n ho rfl
    rw [String.toList_append] at ho
    cases ho
  intro a b h
  unfold subscriberIdentity at h
  split at h <;> split at h <;> first
    | rfl
    | exact absurd h (by decide)
    | exact absurd h (hletter _ _ (by decide))
    | exact absurd h.symm (hletter _ _ (by decide))
    | exact positional_injective h

/-- The application registers its subscribers under distinct, stable identities. -/
theorem registered_subscribers (eventType : String) :
    Registered subscriberIdentity (registerPaymentSavedSubscribers eventType) := by
  unfold registerPaymentSavedSubscribers
  split
  · decide
  split
  · decide
  · decide

/-- The refund subscriber fails once and then succeeds, on another replica. -/
def refundDelivery : Option OutboxSystem :=
  exec (outboxStep replicas) (.start fun _ => registerPaymentSavedSubscribers)
    [.publish "e1" "refund.status_changed", .tick 1, .claim 1 1, .invoke 1,
      .settle 1 (some "timeout"), .finish 1, .tick 5000, .claim 2 5000, .invoke 2, .settle 2 none,
      .record 2]

theorem delivery_along_runs_subscribers : ∃ s t : OutboxSystem, refundDelivery = some s ∧
    outboxStep replicas s (.finish 2) = some t ∧ MarksDelivered s (.finish 2) t ∧
    NoRepeat s.log := by
  obtain ⟨t, hboth⟩ : ∃ t, (refundDelivery.bind fun s => outboxStep replicas s (.finish 2)) = some t :=
    Option.isSome_iff_exists.mp (by decide +kernel)
  obtain ⟨s, hs, hstep⟩ := Option.bind_eq_some_iff.mp hboth
  have hrun : Reach (outboxStep replicas)
      (fun s a => DeliverySafe subscriberIdentity s a ∧ CrashFree s a)
      (.start fun _ => registerPaymentSavedSubscribers) s :=
    .of_exec (by simp [DeliverySafe, StableIdentities, LeasesHold, CrashFree]) hs
  obtain ⟨hmarks, hno⟩ := @delivery_along_runs replicas _ subscriberIdentity_injective _
    fun _ => registered_subscribers
  exact ⟨s, t, hs, hstep, hmarks s (hrun.mono fun _ _ h => h.1) _ t hstep, hno s hrun⟩

/-- Two listeners of one name: the second fails, and is skipped when the event is retried. -/
theorem shared_name_skips_listener :
    ¬ ∀ registry s, Reach (outboxStep replicas) LeasesHold (.start registry) s →
      ∀ a t, outboxStep replicas s a = some t → MarksDelivered s a t := by
  intro h
  have hrun : Reach (outboxStep replicas) LeasesHold
      (.start fun _ _ => [⟨0, "notify"⟩, ⟨1, "notify"⟩]) _ :=
    @Reach.get _ _ _ _ [.publish "e1" "payment.saved", .tick 1, .claim 1 1, .invoke 1,
      .settle 1 none, .record 1, .invoke 1, .settle 1 (some "timeout"), .finish 1, .tick 5000,
      .claim 1 5000] _ (by simp [LeasesHold]) (by decide +kernel)
  exact absurd (h _ _ hrun (.finish 1) _ rfl).finish (by decide +kernel)

end StellarEduPay

import StellarEduPay.OutboxDelivery

/-! # A dispatch without failures

As long as no listener fails, no process restarts and no lease runs out, every subscriber of an
event's type is called once on it, and an event whose type has no subscriber is dead-lettered.
Such a dispatch can always be brought to its end.
-/
namespace StellarEduPay
open Runs Function

/-- No listener fails, no process restarts, and no lease runs out. -/
def DispatchFailureFree (s : OutboxSystem) : OutboxAction → Prop
  | .settle _ error => error = none
  | .restart .. => False
  | action => LeasesHold s action

/-! ## What the dispatcher called -/

/-- The listeners a dispatch has yet to call. -/
def Dispatch.toCall (d : Dispatch) : List Listener :=
  match d.phase with
  | .calling => d.pendingListeners.map Prod.fst
  | .awaiting | .recording => d.pendingListeners.tail.map Prod.fst

/-- How often a subscriber is registered for a type. -/
def registrations (eventType : String) (fn : Nat) : Nat :=
  (registerPaymentSavedSubscribers eventType).countP (·.fn = fn)

/-- **The calls of a dispatch without failures.**  None of a pending event, the outstanding ones of
an event under way, and all of a settled one, which is dead only if it has no subscriber. -/
structure CallsInv (s : OutboxSystem) : Prop where
  delivery : DeliveryInv subscriberIdentity s
  registry : ∀ pid, s.registry pid = registerPaymentSavedSubscribers
  unfailed : ∀ pid d, s.dispatcher pid = some d → d.failedListeners = []
  engaged : ∀ pid d, s.dispatcher pid = some d → d.phase ≠ .calling → d.pendingListeners ≠ []
  busy : ∀ e ∈ s.events.docs, e.status = .processing →
    ∃ pid d, s.dispatcher pid = some d ∧ d.event.id = e.id
  stored : ∀ id fn, .invoked id fn ∈ s.log → ∃ e ∈ s.events.docs, e.id = id
  untouched : ∀ e ∈ s.events.docs, e.status = .pending →
    e.deliveredTo = [] ∧ ∀ fn, s.log.count (.invoked e.id fn) = 0
  owed : ∀ pid d, s.dispatcher pid = some d → ∀ fn,
    s.log.count (.invoked d.event.id fn) + d.toCall.countP (·.fn = fn) =
      registrations d.event.eventType fn
  settled : ∀ e ∈ s.events.docs, e.status.terminal = true →
    (∀ fn, s.log.count (.invoked e.id fn) = registrations e.eventType fn) ∧
      (e.status = .completed ↔ registerPaymentSavedSubscribers e.eventType ≠ [])

section Step
variable {cfg : OutboxConfig} {s t : OutboxSystem} {pid : Nat} {d d' : Dispatch}

/-- An event stays in the outbox, under its type. -/
theorem event_stays {a : OutboxAction} (hstep : outboxStep cfg s a = some t) :
    ∀ e ∈ s.events.docs, ∃ e' ∈ t.events.docs, e'.id = e.id ∧ e'.eventType = e.eventType := by
  intro e he
  have hmodify : ∀ (id : String) (f : OutboxDoc → OutboxDoc) (hf : ∀ x, (f x).id = x.id),
      (∀ x, (f x).eventType = x.eventType) →
      ∃ e' ∈ (s.events.modify id f hf).docs, e'.id = e.id ∧ e'.eventType = e.eventType := by
    intro id f hf htype
    refine ⟨_, (s.events.mem_modify hf).mpr ⟨e, he, rfl⟩, ?_⟩
    split
    · exact ⟨hf e, htype e⟩
    · exact ⟨rfl, rfl⟩
  cases a with
  | tick ms =>
    obtain rfl : _ = t := Option.some.inj hstep
    exact ⟨e, he, rfl, rfl⟩
  | publish id eventType =>
    obtain ⟨events, hins, rfl⟩ := publish_inv hstep
    refine ⟨e, ?_, rfl, rfl⟩
    rw [s.events.insert_docs hins]
    exact List.mem_append_left _ he
  | recover id now =>
    obtain rfl := recover_inv hstep
    exact hmodify id _ (recoverStaleLease_id now) fun x => (recover_kept now x).1
  | claim pid now =>
    obtain ⟨-, doc, -, -, rfl⟩ := claim_inv hstep
    exact hmodify doc.id _ (claimed_id cfg pid now) fun _ => rfl
  | invoke pid =>
    obtain ⟨d, listener, name, rest, -, -, -, rfl⟩ := invoke_inv hstep
    exact ⟨e, he, rfl, rfl⟩
  | settle pid error =>
    obtain ⟨d, listener, name, rest, -, -, -, rfl | ⟨err, rfl⟩⟩ := settle_inv hstep
    · exact ⟨e, he, rfl, rfl⟩
    · exact ⟨e, he, rfl, rfl⟩
  | record pid =>
    obtain ⟨d, listener, name, rest, -, -, -, rfl⟩ := record_inv hstep
    exact hmodify d.event.id _ (recordDelivery_id name) fun _ => rfl
  | finish pid =>
    obtain ⟨d, -, -, -, rfl⟩ := finish_inv hstep
    exact hmodify d.event.id _ (finalUpdate_id cfg s.clock d) (finalUpdate_eventType cfg s.clock d)
  | restart pid registry =>
    obtain rfl : _ = t := Option.some.inj hstep
    exact ⟨e, he, rfl, rfl⟩

/-- An event in a dispatcher's hands is being processed, under the type it was claimed with. -/
theorem CallsInv.in_hand (h : CallsInv s) (hd : s.dispatcher pid = some d) {e : OutboxDoc}
    (he : e ∈ s.events.docs) (hid : e.id = d.event.id) :
    e.status = .processing ∧ e.eventType = d.event.eventType := by
  obtain ⟨e', he', hid', htype, hstatus⟩ := h.delivery.held pid d hd
  obtain rfl := s.events.eq_of_key he he' (hid.trans hid'.symm)
  exact ⟨hstatus, htype⟩

theorem CallsInv.stored_stays (h : CallsInv s)
    (hstays : ∀ e ∈ s.events.docs, ∃ e' ∈ t.events.docs, e'.id = e.id ∧ e'.eventType = e.eventType)
    {id : String} {fn : Nat} (hin : .invoked id fn ∈ s.log) : ∃ e ∈ t.events.docs, e.id = id := by
  obtain ⟨e, he, hid⟩ := h.stored id fn hin
  obtain ⟨e', he', hid', -⟩ := hstays e he
  exact ⟨e', he', hid'.trans hid⟩

/-- One dispatcher moves on within its dispatch, and calls at most listeners of its event. -/
theorem CallsInv.moved (h : CallsInv s) (hdelivery : DeliveryInv subscriberIdentity t)
    (hd : s.dispatcher pid = some d) (hdisp : t.dispatcher = update s.dispatcher pid (some d'))
    (hevent : d'.event = d.event) (hunfailed : d'.failedListeners = [])
    (hengaged : d'.phase ≠ .calling → d'.pendingListeners ≠ [])
    (hregistry : t.registry = s.registry)
    (hstays : ∀ e ∈ s.events.docs, ∃ e' ∈ t.events.docs, e'.id = e.id ∧ e'.eventType = e.eventType)
    (hback : ∀ e' ∈ t.events.docs, ∃ e ∈ s.events.docs, SameEvent e e' ∧
      (e.id ≠ d.event.id → e' = e))
    (hlog : ∀ id fn, .invoked id fn ∈ t.log → .invoked id fn ∈ s.log ∨ id = d.event.id)
    (hother : ∀ id fn, id ≠ d.event.id → t.log.count (.invoked id fn) = s.log.count (.invoked id fn))
    (howed : ∀ fn, t.log.count (.invoked d.event.id fn) + d'.toCall.countP (·.fn = fn) =
      registrations d.event.eventType fn) : CallsInv t := by
  -- an event that is pending or settled is another one, and as it was
  have hfree : ∀ e' ∈ t.events.docs, e'.status ≠ .processing →
      e' ∈ s.events.docs ∧ e'.id ≠ d.event.id := by
    intro e' he' hstatus
    obtain ⟨e, he, hsame, hkept⟩ := hback e' he'
    have hne : e.id ≠ d.event.id := fun hid =>
      hstatus (hsame.status.trans (h.in_hand hd he hid).1)
    obtain rfl := hkept hne
    exact ⟨he, hne⟩
  refine ⟨hdelivery, fun p => hregistry ▸ h.registry p, ?_, ?_, ?_, ?_, ?_, ?_, ?_⟩
  · intro p x hx
    rw [hdisp] at hx
    rcases update_some_iff.mp hx with ⟨-, rfl⟩ | ⟨-, hx⟩
    · exact hunfailed
    · exact h.unfailed p x hx
  · intro p x hx
    rw [hdisp] at hx
    rcases update_some_iff.mp hx with ⟨-, rfl⟩ | ⟨-, hx⟩
    · exact hengaged
    · exact h.engaged p x hx
  · intro e' he' hstatus
    obtain ⟨e, he, hsame, -⟩ := hback e' he'
    obtain ⟨p, x, hx, hid⟩ := h.busy e he (hsame.status ▸ hstatus)
    rw [hdisp]
    by_cases hp : p = pid
    · subst hp
      obtain rfl := Option.some.inj (hd.symm.trans hx)
      exact ⟨p, d', update_self .., by rw [hevent, hid, hsame.id]⟩
    · exact ⟨p, x, (update_of_ne hp _ _).trans hx, hid.trans hsame.id.symm⟩
  · intro id fn hin
    obtain ⟨e, he, hid⟩ : ∃ e ∈ s.events.docs, e.id = id := by
      rcases hlog id fn hin with hold | rfl
      · exact h.stored id fn hold
      · obtain ⟨e, he, hid, -⟩ := h.delivery.held pid d hd
        exact ⟨e, he, hid⟩
    obtain ⟨e', he', hid', -⟩ := hstays e he
    exact ⟨e', he', hid'.trans hid⟩
  · intro e' he' hstatus
    obtain ⟨he, hne⟩ := hfree e' he' (by simp [hstatus])
    obtain ⟨hdelivered, hnone⟩ := h.untouched e' he hstatus
    exact ⟨hdelivered, fun fn => (hother _ fn hne).trans (hnone fn)⟩
  · intro p x hx fn
    rw [hdisp] at hx
    rcases update_some_iff.mp hx with ⟨-, rfl⟩ | ⟨hp, hx⟩
    · rw [hevent]
      exact howed fn
    · have hne : x.event.id ≠ d.event.id := fun hid => hp (h.delivery.alone p pid x d hx hd hid)
      rw [hother _ fn hne]
      exact h.owed p x hx fn
  · intro e' he' hterminal
    obtain ⟨he, hne⟩ := hfree e' he' fun hstatus => by
      simp [hstatus, OutboxStatus.terminal] at hterminal
    obtain ⟨hcalls, hdead⟩ := h.settled e' he hterminal
    exact ⟨fun fn => (hother _ fn hne).trans (hcalls fn), hdead⟩

theorem CallsInv.publish (h : CallsInv s) {id eventType : String}
    (hdelivery : DeliveryInv subscriberIdentity t)
    (hstep : outboxStep cfg s (.publish id eventType) = some t) : CallsInv t := by
  obtain ⟨events, hins, rfl⟩ := publish_inv hstep
  have hdocs := s.events.insert_docs hins
  have hfresh := s.events.insert_fresh hins
  have hcases : ∀ e ∈ events.docs, e ∈ s.events.docs ∨
      e = { id, eventType, nextAttemptAt := s.clock, createdAt := s.clock } := by
    intro e he
    rw [hdocs] at he
    simpa using he
  refine ⟨hdelivery, h.registry, h.unfailed, h.engaged, ?_, ?_, ?_, h.owed, ?_⟩
  · intro e he hstatus
    rcases hcases e he with he | rfl
    · exact h.busy e he hstatus
    · cases hstatus
  · exact fun _ _ hin => h.stored_stays (event_stays hstep) hin
  · intro e he hstatus
    rcases hcases e he with he | rfl
    · exact h.untouched e he hstatus
    · refine ⟨rfl, fun fn => List.count_eq_zero.mpr fun hin => ?_⟩
      obtain ⟨e, he, hid⟩ := h.stored _ _ hin
      exact hfresh e he hid
  · intro e he hterminal
    rcases hcases e he with he | rfl
    · exact h.settled e he hterminal
    · cases hterminal

/-- Every event being processed is in somebody's hands, so a recovery under leases that hold
changes nothing. -/
theorem CallsInv.recover (h : CallsInv s) {id : String} {now : Nat}
    (hleases : LeasesHold s (.recover id now))
    (hdelivery : DeliveryInv subscriberIdentity t)
    (hstep : outboxStep cfg s (.recover id now) = some t) : CallsInv t := by
  obtain rfl := recover_inv hstep
  have hkept : ∀ {e : OutboxDoc},
      e ∈ (s.events.modify id (recoverStaleLease now) (recoverStaleLease_id now)).docs →
        e ∈ s.events.docs := by
    intro e he
    obtain ⟨x, hx, rfl⟩ := (s.events.mem_modify (recoverStaleLease_id now)).mp he
    have hsame : (if x.id = id then recoverStaleLease now x else x) = x := by
      by_cases hstatus : x.status = .processing
      · obtain ⟨p, d, hd, hid⟩ := h.busy x hx hstatus
        exact recover_held hleases hd hx hid.symm
      · unfold recoverStaleLease
        simp [hstatus]
    rwa [hsame]
  exact ⟨hdelivery, h.registry, h.unfailed, h.engaged, fun e he => h.busy e (hkept he),
    fun _ _ hin => h.stored_stays (event_stays hstep) hin, fun e he => h.untouched e (hkept he),
    h.owed, fun e he => h.settled e (hkept he)⟩

theorem CallsInv.claim (h : CallsInv s) {now : Nat} (hdelivery : DeliveryInv subscriberIdentity t)
    (hstep : outboxStep cfg s (.claim pid now) = some t) : CallsInv t := by
  obtain ⟨hidle, doc, hdoc, hpending, rfl⟩ := claim_inv hstep
  have hmem : ∀ {e : OutboxDoc},
      e ∈ (s.events.modify doc.id (claimed cfg pid now) (claimed_id cfg pid now)).docs ↔
        e = claimed cfg pid now doc ∨ (e ∈ s.events.docs ∧ e.id ≠ doc.id) :=
    s.events.mem_modify_key (claimed_id cfg pid now) hdoc
  obtain ⟨hundelivered, huncalled⟩ := h.untouched doc hdoc hpending
  refine ⟨hdelivery, h.registry, ?_, ?_, ?_, ?_, ?_, ?_, ?_⟩
  · intro p d hd
    rcases update_some_iff.mp hd with ⟨-, rfl⟩ | ⟨-, hold⟩
    · rfl
    · exact h.unfailed p d hold
  · intro p d hd hphase
    rcases update_some_iff.mp hd with ⟨-, rfl⟩ | ⟨-, hold⟩
    · exact absurd rfl hphase
    · exact h.engaged p d hold hphase
  · intro e he hstatus
    rcases hmem.mp he with rfl | ⟨he, hne⟩
    · exact ⟨pid, _, update_self .., rfl⟩
    · obtain ⟨p, d, hd, hid⟩ := h.busy e he hstatus
      have hp : p ≠ pid := by
        rintro rfl
        rw [hidle] at hd
        cases hd
      exact ⟨p, d, (update_of_ne hp _ _).trans hd, hid⟩
  · exact fun _ _ hin => h.stored_stays (event_stays hstep) hin
  · intro e he hstatus
    rcases hmem.mp he with rfl | ⟨he, -⟩
    · cases hstatus
    · exact h.untouched e he hstatus
  · intro p d hd fn
    rcases update_some_iff.mp hd with ⟨-, rfl⟩ | ⟨-, hold⟩
    · -- nothing was delivered before, so every subscriber is still to be called
      have hreg := registered_subscribers doc.eventType
      have hcalls : (dispatch (claimed cfg pid now doc) (s.claims doc.id + 1)
          (s.registry pid doc.eventType)).toCall = registerPaymentSavedSubscribers doc.eventType := by
        rw [h.registry pid]
        simp only [Dispatch.toCall, dispatch_pending hreg, List.map_map]
        simp [dispatch, claimed, hundelivered, comp_def]
      have hzero : s.log.count (.invoked doc.id fn) = 0 := huncalled fn
      rw [hcalls]
      show s.log.count (.invoked doc.id fn) + _ = registrations doc.eventType fn
      rw [hzero, Nat.zero_add]
      rfl
    · exact h.owed p d hold fn
  · intro e he hterminal
    rcases hmem.mp he with rfl | ⟨he, -⟩
    · cases hterminal
    · exact h.settled e he hterminal

theorem CallsInv.invoke (h : CallsInv s) (hdelivery : DeliveryInv subscriberIdentity t)
    (hstep : outboxStep cfg s (.invoke pid) = some t) : CallsInv t := by
  obtain ⟨d, listener, name, rest, hd, hphase, hpend, rfl⟩ := invoke_inv hstep
  have howed := h.owed pid d hd
  refine h.moved hdelivery hd rfl rfl (h.unfailed pid d hd) (fun _ => by simp [hpend]) rfl
    (event_stays hstep) (fun e he => ⟨e, he, .refl e, fun _ => rfl⟩) ?_ ?_ ?_
  · intro id fn hin
    rcases List.mem_cons.mp hin with heq | hin
    · obtain ⟨rfl, -⟩ := Delivery.invoked.inj heq
      exact Or.inr rfl
    · exact Or.inl hin
  · intro id fn hne
    exact List.count_cons_of_ne (fun heq => hne (Delivery.invoked.inj heq).1.symm)
  · intro fn
    have hfn := howed fn
    simp only [Dispatch.toCall, hphase, hpend, List.map_cons, List.countP_cons] at hfn
    simp only [Dispatch.toCall, hpend, List.tail_cons, List.count_cons]
    by_cases hfn' : listener.fn = fn
    · simp [hfn'] at hfn ⊢
      omega
    · simp [hfn'] at hfn ⊢
      omega

theorem CallsInv.settle (h : CallsInv s) (hdelivery : DeliveryInv subscriberIdentity t)
    (hstep : outboxStep cfg s (.settle pid none) = some t) : CallsInv t := by
  obtain ⟨d, listener, name, rest, hd, hphase, hpend, rfl | ⟨err, rfl⟩⟩ := settle_inv hstep
  · refine h.moved hdelivery hd rfl rfl (h.unfailed pid d hd) (fun _ => by simp [hpend]) rfl
      (event_stays hstep) (fun e he => ⟨e, he, .refl e, fun _ => rfl⟩) ?_ ?_ ?_
    · intro id fn hin
      rcases List.mem_cons.mp hin with heq | hin
      · cases heq
      · exact Or.inl hin
    · intro id fn _
      exact List.count_cons_of_ne (by simp)
    · intro fn
      have hfn := h.owed pid d hd fn
      simp only [Dispatch.toCall, hphase] at hfn
      rw [List.count_cons_of_ne (by simp)]
      exact hfn
  · simp [outboxStep, hd, hphase, hpend] at hstep

theorem CallsInv.record (h : CallsInv s) (hdelivery : DeliveryInv subscriberIdentity t)
    (hstep : outboxStep cfg s (.record pid) = some t) : CallsInv t := by
  obtain ⟨d, listener, name, rest, hd, hphase, hpend, rfl⟩ := record_inv hstep
  refine h.moved hdelivery hd rfl rfl (h.unfailed pid d hd) (fun hphase => absurd rfl hphase) rfl
    (event_stays hstep) ?_ (fun _ _ hin => Or.inl hin) (fun _ _ _ => rfl) ?_
  · intro e' he'
    obtain ⟨e, he, rfl⟩ := (s.events.mem_modify (recordDelivery_id name)).mp he'
    refine ⟨e, he, ?_, fun hne => if_neg hne⟩
    split
    · exact ⟨rfl, rfl, rfl⟩
    · exact .refl e
  · intro fn
    have hfn := h.owed pid d hd fn
    simp only [Dispatch.toCall, hphase, hpend, List.tail_cons] at hfn
    exact hfn

theorem CallsInv.finish (h : CallsInv s) (hdelivery : DeliveryInv subscriberIdentity t)
    (hstep : outboxStep cfg s (.finish pid) = some t) : CallsInv t := by
  obtain ⟨d, hd, hphase, hpend, rfl⟩ := finish_inv hstep
  have hid := finalUpdate_id cfg s.clock d
  obtain ⟨doc, hdoc, hdocid, htype, -⟩ := h.delivery.held pid d hd
  have hlisteners : d.allListeners = registerPaymentSavedSubscribers d.event.eventType := by
    rw [(h.delivery.work pid d hd).listeners, h.registry pid]
  have hmem : ∀ {e : OutboxDoc},
      e ∈ (s.events.modify d.event.id (finalUpdate cfg s.clock d) hid).docs ↔
        e = finalUpdate cfg s.clock d doc ∨ (e ∈ s.events.docs ∧ e.id ≠ doc.id) := by
    rw [← hdocid]
    exact s.events.mem_modify_key hid hdoc
  have hsame : (finalUpdate cfg s.clock d doc).eventType = doc.eventType :=
    finalUpdate_eventType cfg s.clock d doc
  -- without failures the event is settled, one way or the other
  have hsettled : (finalUpdate cfg s.clock d doc).status.terminal = true ∧
      ((finalUpdate cfg s.clock d doc).status = .completed ↔
        registerPaymentSavedSubscribers doc.eventType ≠ []) := by
    rw [htype, ← hlisteners]
    rcases finalUpdate_cases cfg s.clock d doc with
      ⟨hnone, hdead, -⟩ | ⟨hsome, -, hdone, -⟩ | ⟨hfail, -⟩
    · simp [hnone, hdead, OutboxStatus.terminal]
    · simp [hsome, hdone, OutboxStatus.terminal]
    · exact absurd (h.unfailed pid d hd) hfail
  have hothers : ∀ p x, update s.dispatcher pid none p = some x → s.dispatcher p = some x :=
    fun p x hx => (update_none_iff.mp hx).2
  refine ⟨hdelivery, h.registry, fun p x hx => h.unfailed p x (hothers p x hx),
    fun p x hx => h.engaged p x (hothers p x hx), ?_, ?_, ?_,
    fun p x hx => h.owed p x (hothers p x hx), ?_⟩
  · intro e he hstatus
    rcases hmem.mp he with rfl | ⟨he, hne⟩
    · simp [hstatus, OutboxStatus.terminal] at hsettled
    · obtain ⟨p, x, hx, hxid⟩ := h.busy e he hstatus
      refine ⟨p, x, update_none_iff.mpr ⟨?_, hx⟩, hxid⟩
      rintro rfl
      obtain rfl := Option.some.inj (hd.symm.trans hx)
      exact hne (hxid.symm.trans hdocid.symm)
  · exact fun _ _ hin => h.stored_stays (event_stays hstep) hin
  · intro e he hstatus
    rcases hmem.mp he with rfl | ⟨he, -⟩
    · simp [hstatus, OutboxStatus.terminal] at hsettled
    · exact h.untouched e he hstatus
  · intro e he hterminal
    rcases hmem.mp he with rfl | ⟨he, -⟩
    · refine ⟨fun fn => ?_, hsame ▸ hsettled.2⟩
      have hfn := h.owed pid d hd fn
      simp only [Dispatch.toCall, hphase, hpend, List.map_nil, List.countP_nil, Nat.add_zero] at hfn
      rw [hid doc, hdocid, hsame, htype]
      exact hfn
    · exact h.settled e he hterminal

/-- A step without failures meets the conditions of `DeliveryInv`. -/
theorem DispatchFailureFree.safe {a : OutboxAction} (h : DispatchFailureFree s a) :
    DeliverySafe subscriberIdentity s a := by
  cases a with
  | restart pid registry => exact h.elim
  | recover id now => exact ⟨trivial, h⟩
  | tick | publish | claim | invoke | settle | record | finish => exact ⟨trivial, trivial⟩

theorem CallsInv.step {a : OutboxAction} (h : CallsInv s) (hfree : DispatchFailureFree s a)
    (hstep : outboxStep cfg s a = some t) : CallsInv t := by
  have hdelivery : DeliveryInv subscriberIdentity t :=
    h.delivery.step subscriberIdentity_injective hfree.safe hstep
  cases a with
  | tick ms =>
    obtain rfl : _ = t := Option.some.inj hstep
    exact ⟨hdelivery, h.registry, h.unfailed, h.engaged, h.busy, h.stored, h.untouched, h.owed,
      h.settled⟩
  | publish id eventType => exact h.publish hdelivery hstep
  | recover id now => exact h.recover hfree hdelivery hstep
  | claim pid now => exact h.claim hdelivery hstep
  | invoke pid => exact h.invoke hdelivery hstep
  | settle pid error =>
    obtain rfl : error = none := hfree
    exact h.settle hdelivery hstep
  | record pid => exact h.record hdelivery hstep
  | finish pid => exact h.finish hdelivery hstep
  | restart pid registry => exact hfree.elim

end Step

/-! ## The end of a dispatch -/

/-- The dispatch has come to its end. -/
def OutboxSystem.Drained (s : OutboxSystem) : Prop :=
  ∀ e ∈ s.events.docs, e.status.terminal = true

/-- The number of events that are not settled. -/
def OutboxSystem.openEvents (s : OutboxSystem) : Nat :=
  s.events.docs.countP fun e => !e.status.terminal

/-- Changing the documents such that none is counted that was not, and one less is. -/
theorem countP_map_lt {α : Type} {p : α → Bool} {g : α → α} {l : List α} {a : α} (ha : a ∈ l)
    (hp : p a = true) (hg : p (g a) = false) (hmono : ∀ b ∈ l, p (g b) = true → p b = true) :
    (l.map g).countP p < l.countP p := by
  rw [List.countP_map]
  induction l with
  | nil => cases ha
  | cons b l ih =>
    have hle : l.countP (p ∘ g) ≤ l.countP p :=
      List.countP_mono_left fun c hc => hmono c (List.mem_cons_of_mem _ hc)
    rw [List.countP_cons, List.countP_cons]
    rcases List.mem_cons.mp ha with rfl | ha
    · simp only [comp_apply, hg, hp]
      simpa using Nat.lt_succ_of_le hle
    · have hlt := ih ha fun c hc => hmono c (List.mem_cons_of_mem _ hc)
      have hb := hmono b List.mem_cons_self
      by_cases hpb : p b = true
      · simp only [hpb, comp_apply]
        split <;> simp <;> omega
      · have hgb : p (g b) = false := by
          simpa using fun h => hpb (hb h)
        simpa [hpb, hgb] using hlt

section Drain
variable {cfg : OutboxConfig} {s t : OutboxSystem} {pid : Nat} {d : Dispatch}

theorem CallsInv.along (h : CallsInv s) (hrun : Reach (outboxStep cfg) DispatchFailureFree s t) :
    CallsInv t :=
  hrun.invariant h fun h hfree hstep => h.step hfree hstep

/-- A delivery that is recorded settles no event. -/
theorem openEvents_record (s : OutboxSystem) (id name : String) :
    (s.events.modify id (recordDelivery name) (recordDelivery_id name)).docs.countP
      (fun e => !e.status.terminal) = s.openEvents := by
  simp only [OutboxSystem.openEvents, Collection.modify, List.countP_map]
  refine List.countP_congr fun e _ => ?_
  simp only [comp_apply]
  split <;> rfl

/-- A dispatcher that waits for a listener, or records its success, gets to the next one. -/
theorem reaches_next (hd : s.dispatcher pid = some d) (hphase : d.phase ≠ .calling)
    (hpend : d.pendingListeners ≠ []) :
    ∃ t, Reach (outboxStep cfg) DispatchFailureFree s t ∧ t.openEvents = s.openEvents ∧
      ∃ d', t.dispatcher pid = some d' ∧ d'.phase = .calling ∧
        d'.pendingListeners = d.pendingListeners.tail := by
  obtain ⟨⟨listener, name⟩, rest, hpend⟩ := List.exists_cons_of_ne_nil hpend
  have hrecord : ∀ {s : OutboxSystem} {d : Dispatch}, s.dispatcher pid = some d →
      d.phase = .recording → d.pendingListeners = (listener, name) :: rest →
      ∃ t, outboxStep cfg s (.record pid) = some t ∧ t.openEvents = s.openEvents ∧
        ∃ d', t.dispatcher pid = some d' ∧ d'.phase = .calling ∧ d'.pendingListeners = rest := by
    intro s d hd hphase hpend
    exact ⟨{ s with
        events := s.events.modify d.event.id (recordDelivery name) (recordDelivery_id name)
        dispatcher := update s.dispatcher pid (some { d with
          phase := .calling
          pendingListeners := rest }) },
      by simp only [outboxStep, hd, hphase, hpend], openEvents_record s d.event.id name, _,
      update_self .., rfl, rfl⟩
  rw [hpend, List.tail_cons]
  cases h : d.phase with
  | calling => exact absurd h hphase
  | recording =>
    obtain ⟨t, hstep, hrest⟩ := hrecord hd h hpend
    exact ⟨t, .tail (a := .record pid) .refl trivial hstep, hrest⟩
  | awaiting =>
    obtain ⟨t, hstep, hopen, hd'⟩ : ∃ t, outboxStep cfg s (.settle pid none) = some t ∧
        t.openEvents = s.openEvents ∧ t.dispatcher pid = some { d with phase := .recording } :=
      ⟨{ s with
          dispatcher := update s.dispatcher pid (some { d with phase := .recording })
          log := .succeeded d.event.id listener.fn :: s.log },
        by simp only [outboxStep, hd, h, hpend], rfl, update_self ..⟩
    obtain ⟨u, hstep', hopen', hrest⟩ := hrecord hd' rfl hpend
    have hsettled : Reach (outboxStep cfg) DispatchFailureFree s t :=
      .tail (a := .settle pid none) .refl rfl hstep
    exact ⟨u, hsettled.tail (a := .record pid) trivial hstep', hopen'.trans hopen, hrest⟩

/-- The dispatcher calls the listeners that are left, one after the other. -/
theorem delivers (rest : List (Listener × String)) : ∀ {s : OutboxSystem} {d : Dispatch},
    s.dispatcher pid = some d → d.phase = .calling → d.pendingListeners = rest →
    ∃ t, Reach (outboxStep cfg) DispatchFailureFree s t ∧ t.openEvents = s.openEvents ∧
      ∃ d', t.dispatcher pid = some d' ∧ d'.phase = .calling ∧ d'.pendingListeners = [] := by
  induction rest with
  | nil => exact fun hd hphase hpend => ⟨_, .refl, rfl, _, hd, hphase, hpend⟩
  | cons p rest ih =>
    intro s d hd hphase hpend
    obtain ⟨t, hstep, hopen, hd'⟩ : ∃ t, outboxStep cfg s (.invoke pid) = some t ∧
        t.openEvents = s.openEvents ∧ t.dispatcher pid = some { d with phase := .awaiting } :=
      ⟨{ s with
          dispatcher := update s.dispatcher pid (some { d with phase := .awaiting })
          log := .invoked d.event.id p.1.fn :: s.log },
        by simp only [outboxStep, hd, hphase, hpend], rfl, update_self ..⟩
    obtain ⟨u, hnext, hopen', d', hd', hcalling, htail⟩ :=
      reaches_next hd' (by simp) (by simp [hpend])
    obtain ⟨v, hrun, hopen'', hdone⟩ := ih hd' hcalling (by rw [htail, hpend]; rfl)
    have hfirst : Reach (outboxStep cfg) DispatchFailureFree s u :=
      .head (a := .invoke pid) trivial hstep hnext
    exact ⟨v, hfirst.trans hrun, hopen''.trans (hopen'.trans hopen), hdone⟩

/-- A dispatch that is under way settles its event. -/
theorem CallsInv.settles (h : CallsInv s) (hd : s.dispatcher pid = some d) :
    ∃ t, Reach (outboxStep cfg) DispatchFailureFree s t ∧ t.openEvents < s.openEvents := by
  -- first it gets through its listeners
  obtain ⟨t, hrun, hopen, d', hd', hphase, hpend⟩ : ∃ t,
      Reach (outboxStep cfg) DispatchFailureFree s t ∧
      t.openEvents = s.openEvents ∧
      ∃ d', t.dispatcher pid = some d' ∧ d'.phase = .calling ∧ d'.pendingListeners = [] := by
    by_cases hcalling : d.phase = .calling
    · exact delivers _ hd hcalling rfl
    · obtain ⟨t, hrun, hopen, d', hd', hcalling', -⟩ :=
        reaches_next hd hcalling (h.engaged pid d hd hcalling)
      obtain ⟨u, hrun', hopen', hdone⟩ := delivers _ hd' hcalling' rfl
      exact ⟨u, hrun.trans hrun', hopen'.trans hopen, hdone⟩
  have ht := h.along hrun
  have hfinish : outboxStep cfg t (.finish pid) = some { t with
      events := t.events.modify d'.event.id (finalUpdate cfg t.clock d') (finalUpdate_id cfg t.clock d')
      dispatcher := update t.dispatcher pid none } := by
    simp only [outboxStep, hd', hphase, hpend, and_self, if_true]
  refine ⟨_, hrun.tail (a := .finish pid) trivial hfinish, ?_⟩
  -- then the last update settles the event
  have hterminal : ∀ e, (finalUpdate cfg t.clock d' e).status.terminal = true := by
    intro e
    rcases finalUpdate_cases cfg t.clock d' e with ⟨-, hdead, -⟩ | ⟨-, -, hdone, -⟩ | ⟨hfail, -⟩
    · rw [hdead]
      rfl
    · rw [hdone]
      rfl
    · exact absurd (ht.unfailed pid d' hd') hfail
  obtain ⟨e, he, hid, -, hstatus⟩ := ht.delivery.held pid d' hd'
  rw [← hopen]
  refine countP_map_lt he (by simp [hstatus, OutboxStatus.terminal]) (by simp [hid, hterminal]) ?_
  intro x hx hp
  split at hp
  · simp [hterminal] at hp
  · exact hp

/-- Where no event is in anybody's hands, an open event can be claimed in time. -/
theorem CallsInv.claims (h : CallsInv s) (hidle : ∀ e ∈ s.events.docs, e.status ≠ .processing)
    {e : OutboxDoc} (he : e ∈ s.events.docs) (hopen : e.status.terminal = false) :
    ∃ t, Reach (outboxStep cfg) DispatchFailureFree s t ∧ t.openEvents = s.openEvents ∧
      ∃ d, t.dispatcher 0 = some d := by
  have hpending : e.status = .pending := by
    revert hopen
    have hstatus := hidle e he
    cases h : e.status <;> simp_all [OutboxStatus.terminal]
  have hfree : s.dispatcher 0 = none := by
    refine Option.eq_none_iff_forall_ne_some.mpr fun d hd => ?_
    obtain ⟨x, hx, -, -, hbusy⟩ := h.delivery.held 0 d hd
    exact hidle x hx hbusy
  -- wait until the event is due
  obtain ⟨now, hnow, hclaimable⟩ : ∃ now, s.clock ≤ now ∧ claimable now e = true := by
    refine ⟨s.clock + e.nextAttemptAt + e.lockedUntil + 1, by omega, ?_⟩
    simp only [claimable, hpending, true_and, decide_eq_true_eq]
    omega
  have htick : outboxStep cfg s (.tick (now - s.clock)) = some { s with clock := now } := by
    simp only [outboxStep, Nat.add_sub_cancel' hnow]
  obtain ⟨doc, hnext⟩ : ∃ doc, nextEvent now s.events = some doc := by
    refine Option.ne_none_iff_exists'.mp fun hnone => ?_
    have hempty := List.argmin_eq_none.mp hnone
    exact List.not_mem_nil (hempty ▸ List.mem_filter.mpr ⟨he, hclaimable⟩)
  obtain ⟨hdoc, hdocPending⟩ := nextEvent_some hnext
  have hclaim : outboxStep cfg { s with clock := now } (.claim 0 now) = some { s with
      clock := now
      events := s.events.modify doc.id (claimed cfg 0 now) (claimed_id cfg 0 now)
      claims := update s.claims doc.id (s.claims doc.id + 1)
      dispatcher := update s.dispatcher 0 (some (dispatch (claimed cfg 0 now doc)
        (s.claims doc.id + 1) (s.registry 0 doc.eventType))) } := by
    simp only [outboxStep, hfree, Nat.le_refl, and_self, if_true, hnext, Option.map_some]
    rfl
  have hwaited : Reach (outboxStep cfg) DispatchFailureFree s { s with clock := now } :=
    .tail (a := .tick _) .refl trivial htick
  refine ⟨_, hwaited.tail (a := .claim 0 now) trivial hclaim, ?_,
    dispatch (claimed cfg 0 now doc) (s.claims doc.id + 1) (s.registry 0 doc.eventType),
    by simp only [update_self]⟩
  simp only [OutboxSystem.openEvents, Collection.modify, List.countP_map]
  refine List.countP_congr fun x hx => ?_
  simp only [comp_apply]
  split
  · rename_i hid
    obtain rfl := s.events.eq_of_key hx hdoc hid
    simp [claimed, hdocPending, OutboxStatus.terminal]
  · rfl

/-- **A dispatch comes to its end**: from every state there is a run without failures that settles
every event. -/
theorem CallsInv.drains (h : CallsInv s) :
    ∃ t, Reach (outboxStep cfg) DispatchFailureFree s t ∧ t.Drained := by
  generalize hopen : s.openEvents = n
  induction n using Nat.strongRecOn generalizing s with
  | ind n ih =>
    by_cases hdrained : s.Drained
    · exact ⟨s, .refl, hdrained⟩
    obtain ⟨t, hrun, hlt⟩ : ∃ t, Reach (outboxStep cfg) DispatchFailureFree s t ∧
        t.openEvents < s.openEvents := by
      by_cases hidle : ∀ e ∈ s.events.docs, e.status ≠ .processing
      · obtain ⟨e, he, hopen⟩ : ∃ e ∈ s.events.docs, e.status.terminal = false := by
          simpa [OutboxSystem.Drained] using hdrained
        obtain ⟨t, hrun, hsame, d, hd⟩ := h.claims hidle he hopen
        obtain ⟨u, hrun', hlt⟩ := (h.along hrun).settles hd
        exact ⟨u, hrun.trans hrun', hsame ▸ hlt⟩
      · obtain ⟨e, he, hbusy⟩ : ∃ e ∈ s.events.docs, e.status = .processing := by
          simpa using hidle
        obtain ⟨p, d, hd, -⟩ := h.busy e he hbusy
        exact h.settles hd
    obtain ⟨u, hrun', hdone⟩ := ih _ (hopen ▸ hlt) (h.along hrun) rfl
    exact ⟨u, hrun.trans hrun', hdone⟩

end Drain

end StellarEduPay

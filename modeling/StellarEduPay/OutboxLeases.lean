import StellarEduPay.OutboxDispatcher

/-! # Terminal states of the outbox

A dispatcher that overran its lease still writes its outcome, from the document it
claimed.  As long as every last update is written before anybody else claimed the
event, `completed` and `dead_letter` are final and the retry count only grows, up to
`maxRetries`.  The invariant ties the latest claim of an event to the stored document;
it says nothing about the claims before it, whose updates are the ones excluded.
-/
namespace StellarEduPay
open Runs Function

/-- A last update is written only if nobody has claimed the event since the dispatcher
did. -/
def OwnClaim (s : OutboxSystem) : OutboxAction → Prop
  | .finish pid => ∀ d, s.dispatcher pid = some d → d.claim = s.claims d.event.id
  | _ => True

/-- What a later state may have made of the events of an earlier one. -/
def OutboxProgress (s t : OutboxSystem) : Prop :=
  ∀ e ∈ s.events.docs, ∃ e' ∈ t.events.docs, e'.id = e.id ∧
    (e.status.terminal = true → e'.status = e.status) ∧ e.retryCount ≤ e'.retryCount

instance (s t : OutboxSystem) : Decidable (OutboxProgress s t) :=
  inferInstanceAs (Decidable (∀ e ∈ s.events.docs, ∃ e' ∈ t.events.docs, e'.id = e.id ∧
    (e.status.terminal = true → e'.status = e.status) ∧ e.retryCount ≤ e'.retryCount))

theorem OutboxProgress.refl (s : OutboxSystem) : OutboxProgress s s :=
  fun e he => ⟨e, he, rfl, fun _ => rfl, Nat.le_refl _⟩

theorem OutboxProgress.trans {s t u : OutboxSystem} (h : OutboxProgress s t)
    (h' : OutboxProgress t u) : OutboxProgress s u := by
  intro e he
  obtain ⟨e', he', hid, hstatus, hle⟩ := h e he
  obtain ⟨e'', he'', hid', hstatus', hle'⟩ := h' e' he'
  refine ⟨e'', he'', hid'.trans hid, fun hterm => ?_, Nat.le_trans hle hle'⟩
  have heq := hstatus hterm
  exact (hstatus' (heq ▸ hterm)).trans heq

/-- **The lease invariant of the outbox.** -/
structure OutboxInv (maxRetries : Nat) (s : OutboxSystem) : Prop where
  bound : ∀ e ∈ s.events.docs, e.retryCount ≤ maxRetries ∧
    (e.status.terminal = false → e.retryCount < maxRetries)
  stored : ∀ pid d, s.dispatcher pid = some d → ∃ e ∈ s.events.docs, e.id = d.event.id
  counted : ∀ pid d, s.dispatcher pid = some d → d.claim ≤ s.claims d.event.id
  latest : ∀ pid d, s.dispatcher pid = some d → d.claim = s.claims d.event.id →
    ∀ e ∈ s.events.docs, e.id = d.event.id →
      e.status.terminal = false ∧ e.retryCount = d.event.retryCount
  distinct : ∀ pid pid' d d', s.dispatcher pid = some d → s.dispatcher pid' = some d' →
    d.event.id = d'.event.id → d.claim = d'.claim → pid = pid'

section Step
variable {cfg : OutboxConfig} {s t : OutboxSystem}

/-- Two versions of an event that differ neither in retries nor in being settled. -/
structure SameLife (e e' : OutboxDoc) : Prop where
  id : e'.id = e.id
  retryCount : e'.retryCount = e.retryCount
  terminal : e'.status.terminal = e.status.terminal
  status : e.status.terminal = true → e'.status = e.status

theorem SameLife.refl (e : OutboxDoc) : SameLife e e := ⟨rfl, rfl, rfl, fun _ => rfl⟩

/-- A step that settles nothing, claims nothing and adds no event. -/
structure QuietStep (s t : OutboxSystem) : Prop where
  forward : ∀ e ∈ s.events.docs, ∃ e' ∈ t.events.docs, SameLife e e'
  backward : ∀ e' ∈ t.events.docs, ∃ e ∈ s.events.docs, SameLife e e'
  claims : t.claims = s.claims
  dispatcher : ∀ pid d', t.dispatcher pid = some d' →
    ∃ d, s.dispatcher pid = some d ∧ d.event = d'.event ∧ d.claim = d'.claim

theorem QuietStep.of_events (hevents : t.events = s.events) (hclaims : t.claims = s.claims)
    (hdispatcher : ∀ pid d', t.dispatcher pid = some d' →
      ∃ d, s.dispatcher pid = some d ∧ d.event = d'.event ∧ d.claim = d'.claim) :
    QuietStep s t where
  forward e he := ⟨e, hevents ▸ he, .refl e⟩
  backward e he := ⟨e, hevents ▸ he, .refl e⟩
  claims := hclaims
  dispatcher := hdispatcher

theorem QuietStep.progress (h : QuietStep s t) : OutboxProgress s t := by
  intro e he
  obtain ⟨e', he', hlife⟩ := h.forward e he
  exact ⟨e', he', hlife.id, hlife.status, Nat.le_of_eq hlife.retryCount.symm⟩

theorem QuietStep.inv {maxRetries : Nat} (h : QuietStep s t) (hinv : OutboxInv maxRetries s) :
    OutboxInv maxRetries t := by
  constructor
  · intro e' he'
    obtain ⟨e, he, hlife⟩ := h.backward e' he'
    rw [hlife.retryCount, hlife.terminal]
    exact hinv.bound e he
  · intro pid d' hd'
    obtain ⟨d, hd, hevent, -⟩ := h.dispatcher pid d' hd'
    obtain ⟨e, he, hid⟩ := hinv.stored pid d hd
    obtain ⟨e', he', hlife⟩ := h.forward e he
    exact ⟨e', he', by rw [hlife.id, hid, hevent]⟩
  · intro pid d' hd'
    obtain ⟨d, hd, hevent, hclaim⟩ := h.dispatcher pid d' hd'
    rw [h.claims, ← hevent, ← hclaim]
    exact hinv.counted pid d hd
  · intro pid d' hd' hlatest e' he' hid
    obtain ⟨d, hd, hevent, hclaim⟩ := h.dispatcher pid d' hd'
    obtain ⟨e, he, hlife⟩ := h.backward e' he'
    rw [h.claims, ← hevent, ← hclaim] at hlatest
    rw [hlife.terminal, hlife.retryCount, ← hevent]
    exact hinv.latest pid d hd hlatest e he (by rw [← hlife.id, hid, hevent])
  · intro pid pid' d d' hd hd' hid hclaim
    obtain ⟨d₀, hd₀, hevent, hc⟩ := h.dispatcher pid d hd
    obtain ⟨d₁, hd₁, hevent', hc'⟩ := h.dispatcher pid' d' hd'
    exact hinv.distinct pid pid' d₀ d₁ hd₀ hd₁ (by rw [hevent, hevent', hid])
      (by rw [hc, hc', hclaim])

/-- An update that keeps the life of the event it is applied to is quiet. -/
theorem modify_sameLife (id : String) (f : OutboxDoc → OutboxDoc) (hf : ∀ d, (f d).id = d.id)
    (hlife : ∀ e, SameLife e (f e)) :
    (∀ e ∈ s.events.docs, ∃ e' ∈ (s.events.modify id f hf).docs, SameLife e e') ∧
      ∀ e' ∈ (s.events.modify id f hf).docs, ∃ e ∈ s.events.docs, SameLife e e' := by
  have himage : ∀ e : OutboxDoc, SameLife e (if e.id = id then f e else e) := by
    intro e
    split
    · exact hlife e
    · exact .refl e
  constructor
  · intro e he
    exact ⟨_, (s.events.mem_modify hf).mpr ⟨e, he, rfl⟩, himage e⟩
  · intro e' he'
    obtain ⟨e, he, rfl⟩ := (s.events.mem_modify hf).mp he'
    exact ⟨e, he, himage e⟩

theorem sameLife_recover (now : Nat) (e : OutboxDoc) : SameLife e (recoverStaleLease now e) := by
  unfold recoverStaleLease
  split
  · rename_i h
    exact ⟨rfl, rfl, by simp [h.1, OutboxStatus.terminal], by simp [h.1, OutboxStatus.terminal]⟩
  · exact .refl e

/-- Moving one dispatcher on, with its event and claim. -/
theorem dispatcher_moved {pid : Nat} {d d' : Dispatch} (hd : s.dispatcher pid = some d)
    (hevent : d.event = d'.event) (hclaim : d.claim = d'.claim) :
    ∀ p x, update s.dispatcher pid (some d') p = some x →
      ∃ y, s.dispatcher p = some y ∧ y.event = x.event ∧ y.claim = x.claim := by
  intro p x hx
  rcases update_some_iff.mp hx with ⟨rfl, rfl⟩ | ⟨-, hx⟩
  · exact ⟨d, hd, hevent, hclaim⟩
  · exact ⟨x, hx, rfl, rfl⟩

theorem publish_step {id eventType : String} (hmax : 0 < cfg.maxRetries)
    (hinv : OutboxInv cfg.maxRetries s)
    (hstep : outboxStep cfg s (.publish id eventType) = some t) :
    OutboxInv cfg.maxRetries t ∧ OutboxProgress s t := by
  obtain ⟨events, hins, rfl⟩ := publish_inv hstep
  have hdocs := s.events.insert_docs hins
  have hfresh := s.events.insert_fresh hins
  have hkeep : ∀ e ∈ s.events.docs, e ∈ events.docs := by
    intro e he
    rw [hdocs]
    exact List.mem_append_left _ he
  refine ⟨⟨?_, ?_, hinv.counted, ?_, hinv.distinct⟩,
    fun e he => ⟨e, hkeep e he, rfl, fun _ => rfl, Nat.le_refl _⟩⟩
  · intro e he
    rw [hdocs] at he
    rcases List.mem_append.mp he with he | he
    · exact hinv.bound e he
    · obtain rfl := List.mem_singleton.mp he
      exact ⟨Nat.zero_le _, fun _ => hmax⟩
  · intro pid d hd
    obtain ⟨e, he, hid⟩ := hinv.stored pid d hd
    exact ⟨e, hkeep e he, hid⟩
  · intro pid d hd hlatest e he hid
    rw [hdocs] at he
    rcases List.mem_append.mp he with he | he
    · exact hinv.latest pid d hd hlatest e he hid
    · -- a dispatcher's event is already stored, so it is not the new one
      obtain ⟨e₀, he₀, hid₀⟩ := hinv.stored pid d hd
      obtain rfl := List.mem_singleton.mp he
      exact absurd (hid₀.trans hid.symm) (hfresh e₀ he₀)

theorem claim_step {pid now : Nat} (hinv : OutboxInv cfg.maxRetries s)
    (hstep : outboxStep cfg s (.claim pid now) = some t) :
    OutboxInv cfg.maxRetries t ∧ OutboxProgress s t := by
  obtain ⟨-, doc, hdoc, hpending, rfl⟩ := claim_inv hstep
  have hnonterm : doc.status.terminal = false := by rw [hpending]; rfl
  have hmem : ∀ {e : OutboxDoc},
      e ∈ (s.events.modify doc.id (claimed cfg pid now) (claimed_id cfg pid now)).docs ↔
        e = claimed cfg pid now doc ∨ (e ∈ s.events.docs ∧ e.id ≠ doc.id) :=
    s.events.mem_modify_key _ hdoc
  refine ⟨⟨?_, ?_, ?_, ?_, ?_⟩, ?_⟩
  · intro e he
    rcases hmem.mp he with rfl | ⟨he, -⟩
    · have hlt := (hinv.bound doc hdoc).2 hnonterm
      exact ⟨Nat.le_of_lt hlt, fun _ => hlt⟩
    · exact hinv.bound e he
  · intro p d hd
    rcases update_some_iff.mp hd with ⟨-, rfl⟩ | ⟨-, hold⟩
    · exact ⟨_, hmem.mpr (Or.inl rfl), rfl⟩
    · obtain ⟨e, he, hid⟩ := hinv.stored p d hold
      by_cases hsame : e.id = doc.id
      · exact ⟨_, hmem.mpr (Or.inl rfl), hsame.symm.trans hid⟩
      · exact ⟨e, hmem.mpr (Or.inr ⟨he, hsame⟩), hid⟩
  · intro p d hd
    rcases update_some_iff.mp hd with ⟨-, rfl⟩ | ⟨-, hold⟩
    · simp [dispatch, claimed]
    · have hle := hinv.counted p d hold
      by_cases hsame : d.event.id = doc.id
      · simp only [hsame, update_self] at hle ⊢
        omega
      · simpa [hsame] using hle
  · intro p d hd hlatest e he hid
    rcases update_some_iff.mp hd with ⟨-, rfl⟩ | ⟨-, hold⟩
    · rcases hmem.mp he with rfl | ⟨-, hne⟩
      · exact ⟨rfl, rfl⟩
      · exact absurd hid hne
    · by_cases hsame : d.event.id = doc.id
      · -- an earlier claim of the same event is no longer the latest
        have hle := hinv.counted p d hold
        simp only [hsame, update_self] at hle hlatest
        omega
      · rcases hmem.mp he with rfl | ⟨he, -⟩
        · exact absurd hid.symm hsame
        · exact hinv.latest p d hold (by simpa [hsame] using hlatest) e he hid
  · intro p p' d d' hd hd' hid hclaim
    rcases update_some_iff.mp hd with ⟨hp, rfl⟩ | ⟨-, hold⟩ <;>
      rcases update_some_iff.mp hd' with ⟨hp', rfl⟩ | ⟨-, hold'⟩
    · rw [hp, hp']
    · have hle := hinv.counted p' d' hold'
      rw [← hid, ← hclaim] at hle
      exact absurd hle (Nat.not_succ_le_self _)
    · have hle := hinv.counted p d hold
      rw [hid, hclaim] at hle
      exact absurd hle (Nat.not_succ_le_self _)
    · exact hinv.distinct p p' d d' hold hold' hid hclaim
  · intro e he
    by_cases hid : e.id = doc.id
    · obtain rfl := s.events.eq_of_key he hdoc hid
      refine ⟨_, hmem.mpr (Or.inl rfl), rfl, fun hterm => ?_, Nat.le_refl _⟩
      rw [hnonterm] at hterm
      cases hterm
    · exact ⟨e, hmem.mpr (Or.inr ⟨he, hid⟩), rfl, fun _ => rfl, Nat.le_refl _⟩

/-- The last update of an event that was not out of retries neither takes a retry back nor
goes past the maximum. -/
theorem finalUpdate_bound {d : Dispatch} {e : OutboxDoc} (now : Nat)
    (hretry : e.retryCount = d.event.retryCount) (hlt : e.retryCount < cfg.maxRetries) :
    e.retryCount ≤ (finalUpdate cfg now d e).retryCount ∧
      (finalUpdate cfg now d e).retryCount ≤ cfg.maxRetries ∧
      ((finalUpdate cfg now d e).status.terminal = false →
        (finalUpdate cfg now d e).retryCount < cfg.maxRetries) := by
  rcases finalUpdate_cases cfg now d e with ⟨-, hst, hr⟩ | ⟨-, -, hst, hr⟩ |
    ⟨-, hr, ⟨hst, -⟩ | ⟨hst, hless⟩⟩
  · rw [hr, hst]
    exact ⟨Nat.le_refl _, Nat.le_of_lt hlt, fun h => by cases h⟩
  · rw [hr, hst]
    exact ⟨Nat.le_refl _, Nat.le_of_lt hlt, fun h => by cases h⟩
  · rw [hr, hst]
    exact ⟨by omega, by omega, fun h => by cases h⟩
  · rw [hr]
    exact ⟨by omega, by omega, fun _ => hless⟩

theorem finish_step {pid : Nat} (hinv : OutboxInv cfg.maxRetries s)
    (hown : OwnClaim s (.finish pid)) (hstep : outboxStep cfg s (.finish pid) = some t) :
    OutboxInv cfg.maxRetries t ∧ OutboxProgress s t := by
  obtain ⟨d, hd, -, -, rfl⟩ := finish_inv hstep
  have hlatest := hown d hd
  have hid := finalUpdate_id cfg s.clock d
  have hstored : ∀ e ∈ s.events.docs, e.id = d.event.id →
      e.retryCount < cfg.maxRetries ∧ e.status.terminal = false ∧ e.retryCount = d.event.retryCount := by
    intro e he hide
    obtain ⟨hnonterm, hretry⟩ := hinv.latest pid d hd hlatest e he hide
    exact ⟨(hinv.bound e he).2 hnonterm, hnonterm, hretry⟩
  have hmem : ∀ e', e' ∈ (s.events.modify d.event.id (finalUpdate cfg s.clock d) hid).docs ↔
      ∃ e ∈ s.events.docs, (if e.id = d.event.id then finalUpdate cfg s.clock d e else e) = e' :=
    fun _ => s.events.mem_modify hid
  refine ⟨⟨?_, ?_, ?_, ?_, ?_⟩, ?_⟩
  · intro e' he'
    obtain ⟨e, he, rfl⟩ := (hmem e').mp he'
    split
    · rename_i hide
      obtain ⟨hlt, -, hretry⟩ := hstored e he hide
      exact (finalUpdate_bound s.clock hretry hlt).2
    · exact hinv.bound e he
  · intro p x hx
    obtain ⟨e, he, hide⟩ := hinv.stored p x (update_none_iff.mp hx).2
    refine ⟨_, (hmem _).mpr ⟨e, he, rfl⟩, ?_⟩
    split
    · rw [hid, hide]
    · exact hide
  · intro p x hx
    exact hinv.counted p x (update_none_iff.mp hx).2
  · intro p x hx hlat e' he' hide'
    obtain ⟨hne, hx⟩ := update_none_iff.mp hx
    obtain ⟨e, he, rfl⟩ := (hmem e').mp he'
    by_cases hide : e.id = d.event.id
    · -- nobody else can hold the latest claim of the event just settled
      rw [if_pos hide, hid] at hide'
      have hsame : x.event.id = d.event.id := hide'.symm.trans hide
      have hclaim : x.claim = d.claim := by
        rw [hlatest, ← hsame]
        exact hlat
      exact absurd (hinv.distinct p pid x d hx hd hsame hclaim) hne
    · rw [if_neg hide] at hide' ⊢
      exact hinv.latest p x hx hlat e he hide'
  · intro p p' x x' hx hx'
    exact hinv.distinct p p' x x' (update_none_iff.mp hx).2 (update_none_iff.mp hx').2
  · intro e he
    refine ⟨_, (hmem _).mpr ⟨e, he, rfl⟩, ?_⟩
    by_cases hide : e.id = d.event.id
    · obtain ⟨hlt, hnonterm, hretry⟩ := hstored e he hide
      rw [if_pos hide]
      refine ⟨hid e, fun hterm => ?_, (finalUpdate_bound s.clock hretry hlt).1⟩
      rw [hnonterm] at hterm
      cases hterm
    · rw [if_neg hide]
      exact ⟨rfl, fun _ => rfl, Nat.le_refl _⟩

/-- **One step** keeps the invariant and moves no settled event. -/
theorem OutboxInv.step {a : OutboxAction} (hmax : 0 < cfg.maxRetries)
    (hinv : OutboxInv cfg.maxRetries s) (hown : OwnClaim s a) (hstep : outboxStep cfg s a = some t) :
    OutboxInv cfg.maxRetries t ∧ OutboxProgress s t := by
  have hquiet : QuietStep s t → OutboxInv cfg.maxRetries t ∧ OutboxProgress s t :=
    fun h => ⟨h.inv hinv, h.progress⟩
  cases a with
  | tick ms =>
    obtain rfl : _ = t := Option.some.inj hstep
    exact hquiet (.of_events rfl rfl fun p d hd => ⟨d, hd, rfl, rfl⟩)
  | publish id eventType => exact publish_step hmax hinv hstep
  | recover id now =>
    obtain rfl := recover_inv hstep
    obtain ⟨hforward, hbackward⟩ := modify_sameLife (s := s) id _
      (recoverStaleLease_id now) (sameLife_recover now)
    exact hquiet ⟨hforward, hbackward, rfl, fun p d hd => ⟨d, hd, rfl, rfl⟩⟩
  | claim pid now => exact claim_step hinv hstep
  | invoke pid =>
    obtain ⟨d, listener, name, rest, hd, -, -, rfl⟩ := invoke_inv hstep
    exact hquiet (.of_events rfl rfl (dispatcher_moved hd rfl rfl))
  | settle pid error =>
    obtain ⟨d, listener, name, rest, hd, -, -, rfl | ⟨err, rfl⟩⟩ := settle_inv hstep
    · exact hquiet (.of_events rfl rfl (dispatcher_moved hd rfl rfl))
    · exact hquiet (.of_events rfl rfl (dispatcher_moved hd rfl rfl))
  | record pid =>
    obtain ⟨d, listener, name, rest, hd, -, -, rfl⟩ := record_inv hstep
    obtain ⟨hforward, hbackward⟩ := modify_sameLife (s := s) d.event.id
      (recordDelivery name) (fun _ => rfl) fun e => ⟨rfl, rfl, rfl, fun _ => rfl⟩
    exact hquiet ⟨hforward, hbackward, rfl, dispatcher_moved hd rfl rfl⟩
  | finish pid => exact finish_step hinv hown hstep
  | restart pid registry =>
    obtain rfl : _ = t := Option.some.inj hstep
    exact hquiet (.of_events rfl rfl
      fun p d hd => ⟨d, (update_none_iff.mp hd).2, rfl, rfl⟩)

theorem OutboxInv.init (maxRetries : Nat) (registry : Nat → String → List Listener) :
    OutboxInv maxRetries (.start registry) where
  bound e he := by cases he
  stored pid d hd := by cases hd
  counted pid d hd := by cases hd
  latest pid d hd := by cases hd
  distinct pid pid' d d' hd := by cases hd

end Step

/-- **Settled events stay settled** along every run in which last updates are written under
the latest claim: from any state of it to any later one no status leaves `completed` or
`dead_letter`, no retry count decreases, and none exceeds `maxRetries`. -/
theorem outbox_terminal_along_runs {cfg : OutboxConfig} (hmax : 0 < cfg.maxRetries)
    {registry : Nat → String → List Listener} {s t : OutboxSystem}
    (hs : Reach (outboxStep cfg) OwnClaim (.start registry) s)
    (ht : Reach (outboxStep cfg) OwnClaim s t) :
    OutboxProgress s t ∧ ∀ e ∈ t.events.docs, e.retryCount ≤ cfg.maxRetries := by
  have hinv : OutboxInv cfg.maxRetries s :=
    hs.invariant (.init _ registry) fun h hown hstep => (h.step hmax hown hstep).1
  -- the later part of the run carries the invariant and the comparison with `s` along
  have hboth : OutboxInv cfg.maxRetries t ∧ OutboxProgress s t :=
    ht.progress hinv (.refl s) OutboxProgress.trans fun h hown hstep => h.step hmax hown hstep
  exact ⟨hboth.2, fun e he => (hboth.1.bound e he).1⟩

/-- One listener, whatever the event. -/
def receiptListener : Nat → String → List Listener := fun _ _ => [⟨0, "onPaymentSavedReceipt"⟩]

/-- A first replica's listener times out; a second replica completes the event later. -/
theorem outbox_terminal_along_runs_retried : ∃ s t : OutboxSystem,
    (OutboxProgress s t ∧ ∀ e ∈ t.events.docs, e.retryCount ≤ replicas.maxRetries) ∧
    s.events.docs.map (fun e => (e.status, e.retryCount)) = [(.pending, 1)] ∧
    t.events.docs.map (fun e => (e.status, e.retryCount)) = [(.completed, 1)] := by
  have hs : Reach (outboxStep replicas) OwnClaim (.start receiptListener) _ :=
    .tail (.tail (.tail (.tail (.tail (.tail .refl
      (show OwnClaim _ (.publish "e1" "payment.saved") from trivial) rfl)
      (show OwnClaim _ (.tick 1) from trivial) rfl)
      (show OwnClaim _ (.claim 1 1) from trivial) rfl)
      (show OwnClaim _ (.invoke 1) from trivial) rfl)
      (show OwnClaim _ (.settle 1 (some "timeout")) from trivial) rfl)
      (show OwnClaim _ (.finish 1) from fun d hd => by cases hd; rfl) rfl
  refine ⟨_, _, outbox_terminal_along_runs (by decide) hs
    (.tail (.tail (.tail (.tail (.tail (.tail .refl
      (show OwnClaim _ (.tick 5000) from trivial) rfl)
      (show OwnClaim _ (.claim 2 5000) from trivial) rfl)
      (show OwnClaim _ (.invoke 2) from trivial) rfl)
      (show OwnClaim _ (.settle 2 none) from trivial) rfl)
      (show OwnClaim _ (.record 2) from trivial) rfl)
      (show OwnClaim _ (.finish 2) from fun d hd => by cases hd; rfl) rfl), rfl, rfl⟩

/-- The first replica overruns its lease; the second completes the event, and the first then
reschedules it. -/
theorem late_update_reopens_completed :
    ¬ ∀ s t, Reach (outboxStep replicas) Free (.start receiptListener) s →
      Reach (outboxStep replicas) Free s t → OutboxProgress s t := by
  intro h
  have hs := reach_get (show (exec (outboxStep replicas) (.start receiptListener)
    [.publish "e1" "payment.saved", .tick 1, .claim 1 1, .invoke 1, .tick 40000,
      .recover "e1" 40001, .claim 2 40001, .invoke 2, .settle 2 none, .record 2,
      .finish 2]).isSome = true by decide +kernel)
  have hprogress := h _ _ hs
    (@reach_get _ _ _ [.settle 1 (some "timeout"), .finish 1] _ (by decide +kernel))
  exact absurd hprogress (by decide +kernel)

end StellarEduPay

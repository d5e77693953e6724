import StellarEduPay.WebhookRetries

/-! # Terminal states and attempts of a webhook retry

A worker that outlived its lease still writes its outcome, computed from the document it
claimed, and what it posted before it crashed is counted nowhere.  As long as every last
update is written by the worker that claimed the delivery last, and a worker posts only
when the posts before its own are in the attempt count it claimed, `succeeded` and `failed`
are final, the attempt count only grows, and no delivery is posted more than `maxAttempts`
times.
-/
namespace StellarEduPay
open Runs Function

section Definitions
variable {π : Type}

/-- The posts of a delivery by the retry workers. -/
def WebhookSystem.sends (s : WebhookSystem π) (deliveryId : String) : Nat :=
  s.posts.countP fun post => post.worker.isSome && post.deliveryId == deliveryId

/-- The worker with the last claim of the delivery writes the last update, and a request
leaves only if every earlier post of the delivery was counted when it was claimed. -/
def UnderLease (s : WebhookSystem π) : WebhookAction π → Prop
  | .block worker | .finish worker =>
    ∀ job ∈ s.worker worker, s.claimant job.retry.deliveryId = some worker
  | .send worker answer =>
    answer = .blocked ∨
      ∀ job ∈ s.worker worker, s.sends job.retry.deliveryId ≤ job.retry.attemptCount
  | _ => True

instance (s : WebhookSystem π) (a : WebhookAction π) : Decidable (UnderLease s a) := by
  cases a <;> unfold UnderLease <;> infer_instance

/-- What a later state may have made of the retries of an earlier one. -/
def WebhookProgress (s t : WebhookSystem π) : Prop :=
  ∀ retry ∈ s.retries.docs, ∃ retry' ∈ t.retries.docs, retry'.deliveryId = retry.deliveryId ∧
    (retry.status.terminal = true → retry'.status = retry.status) ∧
    retry.attemptCount ≤ retry'.attemptCount

instance (s t : WebhookSystem π) : Decidable (WebhookProgress s t) :=
  inferInstanceAs (Decidable (∀ retry ∈ s.retries.docs, ∃ retry' ∈ t.retries.docs,
    retry'.deliveryId = retry.deliveryId ∧
    (retry.status.terminal = true → retry'.status = retry.status) ∧
    retry.attemptCount ≤ retry'.attemptCount))

/-- No delivery was posted by the workers more often than its `maxAttempts`. -/
def SendsBounded (s : WebhookSystem π) : Prop :=
  ∀ retry ∈ s.retries.docs, s.sends retry.deliveryId ≤ retry.maxAttempts

instance (s : WebhookSystem π) : Decidable (SendsBounded s) :=
  inferInstanceAs (Decidable (∀ retry ∈ s.retries.docs,
    s.sends retry.deliveryId ≤ retry.maxAttempts))

theorem WebhookProgress.refl (s : WebhookSystem π) : WebhookProgress s s :=
  fun retry h => ⟨retry, h, rfl, fun _ => rfl, Nat.le_refl _⟩

theorem WebhookProgress.trans {s t u : WebhookSystem π} (h : WebhookProgress s t)
    (h' : WebhookProgress t u) : WebhookProgress s u := by
  intro retry hretry
  obtain ⟨retry', hretry', hid, hstatus, hle⟩ := h retry hretry
  obtain ⟨retry'', hretry'', hid', hstatus', hle'⟩ := h' retry' hretry'
  refine ⟨retry'', hretry'', hid'.trans hid, fun hterm => ?_, Nat.le_trans hle hle'⟩
  have heq := hstatus hterm
  exact (hstatus' (heq ▸ hterm)).trans heq

/-- **The lease invariant of the retry queue.** -/
structure WebhookInv (s : WebhookSystem π) : Prop where
  bound : ∀ retry ∈ s.retries.docs, retry.attemptCount ≤ retry.maxAttempts ∧
    (retry.status.terminal = false → retry.attemptCount < retry.maxAttempts)
  sends : SendsBounded s
  posted : ∀ post ∈ s.posts, post.worker.isSome = true →
    ∃ retry ∈ s.retries.docs, retry.deliveryId = post.deliveryId
  stored : ∀ worker job, s.worker worker = some job →
    ∃ retry ∈ s.retries.docs, retry.deliveryId = job.retry.deliveryId ∧
      retry.maxAttempts = job.retry.maxAttempts ∧ job.retry.attemptCount < retry.maxAttempts
  latest : ∀ worker job, s.worker worker = some job →
    s.claimant job.retry.deliveryId = some worker →
    ∀ retry ∈ s.retries.docs, retry.deliveryId = job.retry.deliveryId →
      retry.status.terminal = false ∧ retry.attemptCount = job.retry.attemptCount

/-- Two versions of a retry that differ neither in attempts nor in being settled. -/
structure SameAttempts (retry retry' : WebhookRetry π) : Prop where
  deliveryId : retry'.deliveryId = retry.deliveryId
  attemptCount : retry'.attemptCount = retry.attemptCount
  maxAttempts : retry'.maxAttempts = retry.maxAttempts
  terminal : retry'.status.terminal = retry.status.terminal
  status : retry.status.terminal = true → retry'.status = retry.status

theorem SameAttempts.refl (retry : WebhookRetry π) : SameAttempts retry retry :=
  ⟨rfl, rfl, rfl, rfl, fun _ => rfl⟩

end Definitions

section Step
variable {π : Type} {cfg : WebhookConfig} {s t : WebhookSystem π} {worker now : Nat}

/-- Each retry has a version later, with its delivery and its maximum. -/
def KeepsRetries (s t : WebhookSystem π) : Prop :=
  ∀ retry ∈ s.retries.docs, ∃ retry' ∈ t.retries.docs,
    retry'.deliveryId = retry.deliveryId ∧ retry'.maxAttempts = retry.maxAttempts

theorem KeepsRetries.posted (h : KeepsRetries s t) (hinv : WebhookInv s) {post : WebhookPost π}
    (hpost : post ∈ s.posts) (hworker : post.worker.isSome = true) :
    ∃ retry ∈ t.retries.docs, retry.deliveryId = post.deliveryId := by
  obtain ⟨retry, hretry, hid⟩ := hinv.posted post hpost hworker
  obtain ⟨retry', hretry', hid', -⟩ := h retry hretry
  exact ⟨retry', hretry', hid'.trans hid⟩

theorem KeepsRetries.stored (h : KeepsRetries s t) (hinv : WebhookInv s) {w : Nat}
    {job : WebhookJob π} (hjob : s.worker w = some job) :
    ∃ retry ∈ t.retries.docs, retry.deliveryId = job.retry.deliveryId ∧
      retry.maxAttempts = job.retry.maxAttempts ∧ job.retry.attemptCount < retry.maxAttempts := by
  obtain ⟨retry, hretry, hid, hmax, hlt⟩ := hinv.stored w job hjob
  obtain ⟨retry', hretry', hid', hmax'⟩ := h retry hretry
  refine ⟨retry', hretry', hid'.trans hid, hmax'.trans hmax, ?_⟩
  rw [hmax']
  exact hlt

/-- An update of one document by its delivery keeps the retries. -/
theorem KeepsRetries.modify {f : WebhookRetry π → WebhookRetry π} {deliveryId : String}
    (hf : ∀ retry, (f retry).deliveryId = retry.deliveryId)
    (hmax : ∀ retry, (f retry).maxAttempts = retry.maxAttempts)
    (ht : t.retries = s.retries.modify deliveryId f hf) : KeepsRetries s t := by
  intro retry hretry
  rw [ht]
  refine ⟨_, (s.retries.mem_modify hf).mpr ⟨retry, hretry, rfl⟩, ?_⟩
  split
  · exact ⟨hf retry, hmax retry⟩
  · exact ⟨rfl, rfl⟩

/-- A step that settles and posts nothing, claims nothing and adds no retry. -/
structure QuietRetries (s t : WebhookSystem π) : Prop where
  forward : ∀ retry ∈ s.retries.docs, ∃ retry' ∈ t.retries.docs, SameAttempts retry retry'
  backward : ∀ retry' ∈ t.retries.docs, ∃ retry ∈ s.retries.docs, SameAttempts retry retry'
  claimant : t.claimant = s.claimant
  posts : t.posts = s.posts
  worker : ∀ w job, t.worker w = some job → s.worker w = some job

theorem QuietRetries.keeps (h : QuietRetries s t) : KeepsRetries s t := by
  intro retry hretry
  obtain ⟨retry', hretry', hsame⟩ := h.forward retry hretry
  exact ⟨retry', hretry', hsame.deliveryId, hsame.maxAttempts⟩

theorem QuietRetries.progress (h : QuietRetries s t) : WebhookProgress s t := by
  intro retry hretry
  obtain ⟨retry', hretry', hsame⟩ := h.forward retry hretry
  exact ⟨retry', hretry', hsame.deliveryId, hsame.status, Nat.le_of_eq hsame.attemptCount.symm⟩

theorem QuietRetries.inv (h : QuietRetries s t) (hinv : WebhookInv s) : WebhookInv t := by
  constructor
  · intro retry' hretry'
    obtain ⟨retry, hretry, hsame⟩ := h.backward retry' hretry'
    rw [hsame.attemptCount, hsame.maxAttempts, hsame.terminal]
    exact hinv.bound retry hretry
  · intro retry' hretry'
    obtain ⟨retry, hretry, hsame⟩ := h.backward retry' hretry'
    rw [hsame.deliveryId, hsame.maxAttempts, WebhookSystem.sends, h.posts]
    exact hinv.sends retry hretry
  · intro post hpost hworker
    rw [h.posts] at hpost
    exact h.keeps.posted hinv hpost hworker
  · intro w job hjob
    exact h.keeps.stored hinv (h.worker w job hjob)
  · intro w job hjob hlatest retry' hretry' hid
    obtain ⟨retry, hretry, hsame⟩ := h.backward retry' hretry'
    rw [h.claimant] at hlatest
    rw [hsame.terminal, hsame.attemptCount]
    exact hinv.latest w job (h.worker w job hjob) hlatest retry hretry
      (hsame.deliveryId.symm.trans hid)

/-- A step that leaves the retries and the posts alone. -/
theorem QuietRetries.of_retries (hretries : t.retries = s.retries)
    (hclaimant : t.claimant = s.claimant) (hposts : t.posts = s.posts)
    (hworker : ∀ w job, t.worker w = some job → s.worker w = some job) : QuietRetries s t where
  forward retry h := ⟨retry, hretries ▸ h, .refl retry⟩
  backward retry h := ⟨retry, hretries ▸ h, .refl retry⟩
  claimant := hclaimant
  posts := hposts
  worker := hworker

theorem recoverStuckLease_same (now : Nat) (retry : WebhookRetry π) :
    SameAttempts retry (recoverStuckLease cfg now retry) := by
  unfold recoverStuckLease
  split
  · rename_i h
    have hopen : retry.status.terminal = false := by
      rw [h.1]
      rfl
    exact ⟨rfl, rfl, rfl, hopen.symm, fun hterm => by simp [hopen] at hterm⟩
  · exact .refl retry

theorem QuietRetries.recover (deliveryId : String) (now : Nat) :
    QuietRetries s { s with
      retries := s.retries.modify deliveryId (recoverStuckLease cfg now)
        (recoverStuckLease_deliveryId cfg now) } := by
  have himage : ∀ retry : WebhookRetry π, SameAttempts retry
      (if retry.deliveryId = deliveryId then recoverStuckLease cfg now retry else retry) := by
    intro retry
    split
    · exact recoverStuckLease_same now retry
    · exact .refl retry
  refine ⟨?_, ?_, rfl, rfl, fun _ _ h => h⟩
  · intro retry hretry
    exact ⟨_, (s.retries.mem_modify (recoverStuckLease_deliveryId cfg now)).mpr
      ⟨retry, hretry, rfl⟩, himage retry⟩
  · intro retry' hretry'
    obtain ⟨retry, hretry, rfl⟩ :=
      (s.retries.mem_modify (recoverStuckLease_deliveryId cfg now)).mp hretry'
    exact ⟨retry, hretry, himage retry⟩

theorem queue_retry_step {request : WebhookQueueRequest π} (hinv : WebhookInv s)
    (hstep : webhookStep cfg s (.queue request) = some t) :
    WebhookInv t ∧ WebhookProgress s t := by
  obtain ⟨hmax, retries, hins, rfl⟩ := queue_inv hstep
  have hdocs := s.retries.insert_docs hins
  have hfresh := s.retries.insert_fresh hins
  have hkeep : ∀ retry ∈ s.retries.docs, retry ∈ retries.docs := by
    intro retry hretry
    rw [hdocs]
    exact List.mem_append_left _ hretry
  have hkeeps : KeepsRetries s { s with retries := retries } :=
    fun retry hretry => ⟨retry, hkeep retry hretry, rfl, rfl⟩
  have hmem : ∀ retry ∈ retries.docs,
      retry ∈ s.retries.docs ∨ retry = request.retry cfg s.clock := by
    intro retry hretry
    rw [hdocs] at hretry
    exact (List.mem_append.mp hretry).imp id List.mem_singleton.mp
  refine ⟨⟨?_, ?_, ?_, ?_, ?_⟩, fun retry hretry =>
    ⟨retry, hkeep retry hretry, rfl, fun _ => rfl, Nat.le_refl _⟩⟩
  · intro retry hretry
    rcases hmem retry hretry with hold | rfl
    · exact hinv.bound retry hold
    · exact ⟨Nat.zero_le _, fun _ => hmax⟩
  · intro retry hretry
    rcases hmem retry hretry with hold | rfl
    · exact hinv.sends retry hold
    · -- a delivery that is not stored yet was never posted by a worker
      have hnone : s.sends request.deliveryId = 0 := by
        refine List.countP_eq_zero.mpr fun post hpost hcounted => ?_
        simp only [Bool.and_eq_true, beq_iff_eq] at hcounted
        obtain ⟨old, hold, hid⟩ := hinv.posted post hpost hcounted.1
        exact hfresh old hold (hid.trans hcounted.2)
      exact Nat.le_trans (Nat.le_of_eq hnone) (Nat.zero_le _)
  · intro post hpost hworker
    exact hkeeps.posted hinv hpost hworker
  · intro w job hjob
    exact hkeeps.stored hinv hjob
  · intro w job hjob hlatest retry hretry hid
    rcases hmem retry hretry with hold | rfl
    · exact hinv.latest w job hjob hlatest retry hold hid
    · obtain ⟨old, hold, hid', -⟩ := hinv.stored w job hjob
      exact absurd (hid'.trans hid.symm) (hfresh old hold)

theorem claim_retry_step (hinv : WebhookInv s)
    (hstep : webhookStep cfg s (.claim worker now) = some t) :
    WebhookInv t ∧ WebhookProgress s t := by
  obtain ⟨-, retry₀, hretry₀, hpending, rfl⟩ := claim_retry_inv hstep
  have hopen : retry₀.status.terminal = false := by
    rw [hpending]
    rfl
  have hlt₀ := (hinv.bound retry₀ hretry₀).2 hopen
  have hmem : ∀ {retry : WebhookRetry π},
      retry ∈ (s.retries.modify retry₀.deliveryId (leaseRetry cfg worker s.clock)
        (leaseRetry_deliveryId cfg worker s.clock)).docs ↔
        retry = leaseRetry cfg worker s.clock retry₀ ∨
          (retry ∈ s.retries.docs ∧ retry.deliveryId ≠ retry₀.deliveryId) :=
    s.retries.mem_modify_key _ hretry₀
  have hkeeps : KeepsRetries s { s with
      retries := s.retries.modify retry₀.deliveryId (leaseRetry cfg worker s.clock)
        (leaseRetry_deliveryId cfg worker s.clock) } :=
    .modify (leaseRetry_deliveryId cfg worker s.clock) (fun _ => rfl) rfl
  refine ⟨⟨?_, ?_, ?_, ?_, ?_⟩, ?_⟩
  · intro retry hretry
    rcases hmem.mp hretry with rfl | ⟨hold, -⟩
    · exact ⟨Nat.le_of_lt hlt₀, fun _ => hlt₀⟩
    · exact hinv.bound retry hold
  · intro retry hretry
    rcases hmem.mp hretry with rfl | ⟨hold, -⟩
    · exact hinv.sends retry₀ hretry₀
    · exact hinv.sends retry hold
  · intro post hpost hworker
    exact hkeeps.posted hinv hpost hworker
  · intro w job hjob
    rcases update_some_iff.mp hjob with ⟨-, rfl⟩ | ⟨-, hold⟩
    · exact ⟨_, hmem.mpr (Or.inl rfl), rfl, rfl, hlt₀⟩
    · exact hkeeps.stored hinv hold
  · intro w job hjob hlatest retry hretry hid
    rcases update_some_iff.mp hjob with ⟨-, rfl⟩ | ⟨hne, hold⟩
    · rcases hmem.mp hretry with rfl | ⟨-, hother⟩
      · exact ⟨rfl, rfl⟩
      · exact absurd hid hother
    · rcases hmem.mp hretry with rfl | ⟨hretry, hother⟩
      · -- whoever held this delivery before is no longer the last to have claimed it
        have hsame : job.retry.deliveryId = retry₀.deliveryId := hid.symm
        simp only [hsame, update_self, Option.some.injEq] at hlatest
        exact absurd hlatest.symm hne
      · have hsame : job.retry.deliveryId ≠ retry₀.deliveryId := hid ▸ hother
        exact hinv.latest w job hold (by simpa [hsame] using hlatest) retry hretry hid
  · intro retry hretry
    by_cases hid : retry.deliveryId = retry₀.deliveryId
    · obtain rfl := s.retries.eq_of_key hretry hretry₀ hid
      refine ⟨_, hmem.mpr (Or.inl rfl), rfl, fun hterm => ?_, Nat.le_refl _⟩
      rw [hopen] at hterm
      cases hterm
    · exact ⟨retry, hmem.mpr (Or.inr ⟨hretry, hid⟩), rfl, fun _ => rfl, Nat.le_refl _⟩

theorem sends_after (posts : List (WebhookPost π)) (deliveryId : String) :
    WebhookSystem.sends { s with posts := posts ++ s.posts } deliveryId =
      (posts.countP fun post => post.worker.isSome && post.deliveryId == deliveryId) +
        s.sends deliveryId :=
  List.countP_append

theorem send_retry_step {answer : WebhookAnswer} (hinv : WebhookInv s)
    (hlease : UnderLease s (.send worker answer))
    (hstep : webhookStep cfg s (.send worker answer) = some t) :
    WebhookInv t ∧ WebhookProgress s t := by
  obtain ⟨retry₀, hjob₀, rfl⟩ := send_inv hstep
  have hjobs : ∀ w job, update s.worker worker (some ⟨retry₀, some answer⟩) w = some job →
      ∃ job₀, s.worker w = some job₀ ∧ job₀.retry = job.retry := by
    intro w job hjob
    rcases update_some_iff.mp hjob with ⟨rfl, rfl⟩ | ⟨-, hold⟩
    · exact ⟨_, hjob₀, rfl⟩
    · exact ⟨job, hold, rfl⟩
  obtain ⟨stored, hstored, hid₀, hmax₀, hlt₀⟩ := hinv.stored worker _ hjob₀
  refine ⟨⟨hinv.bound, ?_, ?_, ?_, ?_⟩, .refl s⟩
  · intro retry hretry
    have hold := hinv.sends retry hretry
    have hsends := sends_after (s := s)
      (sendToUrl (retry₀.post worker s.clock) answer) retry.deliveryId
    change s.sends retry.deliveryId ≤ retry.maxAttempts at hold
    change WebhookSystem.sends { s with
      posts := sendToUrl (retry₀.post worker s.clock) answer ++ s.posts } retry.deliveryId ≤ _
    rw [hsends]
    by_cases hid : retry₀.deliveryId = retry.deliveryId
    · -- the posts so far were counted, and the claimed count is below the maximum
      obtain rfl := s.retries.eq_of_key hstored hretry (hid₀.trans hid)
      rcases hlease with rfl | hcounted
      · simpa [sendToUrl] using hold
      · have hle := hcounted _ hjob₀
        have hone : (sendToUrl (retry₀.post worker s.clock) answer).countP
            (fun post => post.worker.isSome && post.deliveryId == stored.deliveryId) ≤ 1 :=
          Nat.le_trans List.countP_le_length (length_sendToUrl _ _)
        rw [hid₀] at hone ⊢
        omega
    · have hnone : (sendToUrl (retry₀.post worker s.clock) answer).countP
          (fun post => post.worker.isSome && post.deliveryId == retry.deliveryId) = 0 := by
        refine List.countP_eq_zero.mpr fun post hpost => ?_
        simp [mem_sendToUrl hpost, WebhookRetry.post, hid]
      omega
  · intro post hpost hworker
    rcases List.mem_append.mp hpost with hnew | hold
    · obtain rfl := mem_sendToUrl hnew
      exact ⟨stored, hstored, hid₀⟩
    · exact hinv.posted post hold hworker
  · intro w job hjob
    obtain ⟨job₀, hold, hsame⟩ := hjobs w job hjob
    rw [← hsame]
    exact hinv.stored w job₀ hold
  · intro w job hjob hlatest
    obtain ⟨job₀, hold, hsame⟩ := hjobs w job hjob
    rw [← hsame] at hlatest ⊢
    exact hinv.latest w job₀ hold hlatest

/-- **The update of the worker that claimed the delivery last**, whichever of the updates
of `retryWebhook` it is: the document it finds is the one it claimed. -/
theorem settle_retry_step {job₀ : WebhookJob π} {f : WebhookRetry π → WebhookRetry π}
    (hf : ∀ retry, (f retry).deliveryId = retry.deliveryId) (hinv : WebhookInv s)
    (hjob₀ : s.worker worker = some job₀)
    (hlease : s.claimant job₀.retry.deliveryId = some worker)
    (hmax : ∀ retry, (f retry).maxAttempts = retry.maxAttempts)
    (hcount : ∀ retry : WebhookRetry π, retry.attemptCount = job₀.retry.attemptCount →
      retry.maxAttempts = job₀.retry.maxAttempts → retry.attemptCount < retry.maxAttempts →
      retry.attemptCount ≤ (f retry).attemptCount ∧ (f retry).attemptCount ≤ retry.maxAttempts ∧
        ((f retry).status.terminal = false → (f retry).attemptCount < retry.maxAttempts)) :
    let t : WebhookSystem π := { s with
      retries := s.retries.modify job₀.retry.deliveryId f hf
      worker := update s.worker worker none }
    WebhookInv t ∧ WebhookProgress s t := by
  obtain ⟨stored, hstored, hid₀, hmax₀, hlt₀⟩ := hinv.stored worker job₀ hjob₀
  obtain ⟨hopen, hattempts⟩ := hinv.latest worker job₀ hjob₀ hlease stored hstored hid₀
  obtain ⟨hle, hbound⟩ := hcount stored hattempts hmax₀ ((hinv.bound stored hstored).2 hopen)
  have hmem : ∀ {retry : WebhookRetry π}, retry ∈ (s.retries.modify job₀.retry.deliveryId f hf).docs ↔
      retry = f stored ∨ (retry ∈ s.retries.docs ∧ retry.deliveryId ≠ stored.deliveryId) := by
    intro retry
    rw [← hid₀]
    exact s.retries.mem_modify_key hf hstored
  have hkeeps : KeepsRetries s { s with
      retries := s.retries.modify job₀.retry.deliveryId f hf } := .modify hf hmax rfl
  refine ⟨⟨?_, ?_, ?_, ?_, ?_⟩, ?_⟩
  · intro retry hretry
    rcases hmem.mp hretry with rfl | ⟨hold, -⟩
    · rw [hmax]
      exact hbound
    · exact hinv.bound retry hold
  · intro retry hretry
    rcases hmem.mp hretry with rfl | ⟨hold, -⟩
    · rw [hf, hmax]
      exact hinv.sends stored hstored
    · exact hinv.sends retry hold
  · intro post hpost hworker
    exact hkeeps.posted hinv hpost hworker
  · intro w job hjob
    exact hkeeps.stored hinv (update_none_iff.mp hjob).2
  · intro w job hjob hlatest retry hretry hid
    obtain ⟨hne, hold⟩ := update_none_iff.mp hjob
    rcases hmem.mp hretry with rfl | ⟨hretry, -⟩
    · -- the delivery was last claimed by the worker that is now done
      rw [hf, hid₀] at hid
      rw [← hid, hlease] at hlatest
      exact absurd (Option.some.inj hlatest).symm hne
    · exact hinv.latest w job hold hlatest retry hretry hid
  · intro retry hretry
    by_cases hid : retry.deliveryId = stored.deliveryId
    · obtain rfl := s.retries.eq_of_key hretry hstored hid
      refine ⟨_, hmem.mpr (Or.inl rfl), hf _, fun hterm => ?_, hle⟩
      rw [hopen] at hterm
      cases hterm
    · exact ⟨retry, hmem.mpr (Or.inr ⟨hretry, hid⟩), rfl, fun _ => rfl, Nat.le_refl _⟩

theorem block_retry_step (hinv : WebhookInv s) (hlease : UnderLease s (.block worker))
    (hstep : webhookStep cfg s (.block worker) = some t) :
    WebhookInv t ∧ WebhookProgress s t := by
  obtain ⟨retry₀, hjob₀, rfl⟩ := block_inv hstep
  refine settle_retry_step (blockRetry_deliveryId s.clock) hinv hjob₀ (hlease _ hjob₀)
    (fun _ => rfl) fun retry _ _ hlt => ⟨Nat.le_refl _, Nat.le_of_lt hlt, fun hopen => ?_⟩
  cases hopen

theorem finish_retry_step (hinv : WebhookInv s) (hlease : UnderLease s (.finish worker))
    (hstep : webhookStep cfg s (.finish worker) = some t) :
    WebhookInv t ∧ WebhookProgress s t := by
  obtain ⟨retry₀, answer, hjob₀, rfl⟩ := finish_retry_inv hstep
  refine settle_retry_step (settleRetry_deliveryId s.clock retry₀ answer) hinv hjob₀
    (hlease _ hjob₀) (fun retry => (settleRetry_kept s.clock retry₀ answer retry).2) ?_
  intro retry hcount hmax hlt
  dsimp only at hcount hmax
  rcases settleRetry_cases s.clock retry₀ answer retry with ⟨-, hstatus, hattempts⟩ |
    ⟨-, hattempts, ⟨-, hmore⟩ | ⟨hstatus, -⟩⟩
  · rw [hattempts, hstatus]
    exact ⟨Nat.le_refl _, Nat.le_of_lt hlt, fun hopen => by cases hopen⟩
  · rw [hattempts]
    exact ⟨by omega, by omega, fun _ => by omega⟩
  · rw [hattempts, hstatus]
    exact ⟨by omega, by omega, fun hopen => by cases hopen⟩

/-- **One step** keeps the invariant and moves no settled retry. -/
theorem WebhookInv.step {a : WebhookAction π} (hinv : WebhookInv s) (hlease : UnderLease s a)
    (hstep : webhookStep cfg s a = some t) : WebhookInv t ∧ WebhookProgress s t := by
  have hquiet : QuietRetries s t → WebhookInv t ∧ WebhookProgress s t :=
    fun h => ⟨h.inv hinv, h.progress⟩
  cases a with
  | tick ms =>
    obtain rfl : _ = t := Option.some.inj hstep
    exact hquiet (.of_retries rfl rfl rfl fun _ _ h => h)
  | queue request => exact queue_retry_step hinv hstep
  | recover deliveryId now =>
    obtain rfl := recover_lease_inv hstep
    exact hquiet (.recover deliveryId now)
  | claim worker now => exact claim_retry_step hinv hstep
  | block worker => exact block_retry_step hinv hlease hstep
  | send worker answer => exact send_retry_step hinv hlease hstep
  | finish worker => exact finish_retry_step hinv hlease hstep
  | crash worker =>
    obtain rfl : _ = t := Option.some.inj hstep
    exact hquiet (.of_retries rfl rfl rfl fun _ _ h => (update_none_iff.mp h).2)

theorem WebhookInv.init (eventSequence : String → Option Nat) :
    WebhookInv (.start eventSequence : WebhookSystem π) where
  bound retry h := by cases h
  sends retry h := by cases h
  posted post h := by cases h
  stored w job h := by cases h
  latest w job h := by cases h

end Step

/-- **Retry states are final and bounded** along every run that keeps to the leases: from any
state of it to any later one no status leaves `succeeded` or `failed` and no attempt count
decreases, and no delivery was posted by the workers more than `maxAttempts` times. -/
theorem webhook_retries_final_and_bounded {π : Type} {cfg : WebhookConfig}
    {eventSequence : String → Option Nat} {s t : WebhookSystem π}
    (hs : Reach (webhookStep cfg) UnderLease (.start eventSequence) s)
    (ht : Reach (webhookStep cfg) UnderLease s t) : WebhookProgress s t ∧ SendsBounded t := by
  have hinv : WebhookInv s :=
    hs.invariant (.init eventSequence) fun h hlease hstep => (h.step hlease hstep).1
  -- the later part of the run carries the invariant and the comparison with `s` along
  have hboth : WebhookInv t ∧ WebhookProgress s t :=
    ht.progress hinv (.refl s) WebhookProgress.trans fun h hlease hstep => h.step hlease hstep
  exact ⟨hboth.2, hboth.1.sends⟩

/-- The defaults, on replicas of one process each. -/
def webhookReplicas : WebhookConfig := { workerId := fun worker => "host:" ++ toString worker }

/-- A delivery that failed when its event was fired. -/
def queuedWebhook : WebhookQueueRequest Unit where
  url := "https://school.example/hooks"
  event := "payment.confirmed"
  payload := ()
  error := "Connection timeout"
  deliveryId := "d1"
  endpointId := some "e1"
  sequence := some 1

/-- A first retry is rejected, the second accepted. -/
theorem webhook_retries_final_and_bounded_retried : ∃ s t : WebhookSystem Unit,
    (WebhookProgress s t ∧ SendsBounded t) ∧
    s.retries.docs.map (fun r => (r.status, r.attemptCount)) = [(.pending, 1)] ∧
    t.retries.docs.map (fun r => (r.status, r.attemptCount)) = [(.succeeded, 1)] ∧
    t.sends "d1" = 2 := by
  have hs := Reach.getOk (show (execOk (webhookStep webhookReplicas) UnderLease
    (.start fun _ => some 0) [.queue queuedWebhook, .tick 60000, .claim 1 60000,
      .send 1 (.rejected "HTTP 500"), .finish 1]).isSome = true by decide +kernel)
  refine ⟨_, _, webhook_retries_final_and_bounded hs (@Reach.getOk _ _ _ _ _
    [.tick 300000, .claim 2 360000, .send 2 .accepted, .finish 2] _ (by decide +kernel)), ?_⟩
  decide +kernel

/-- The first worker outlives its lease; the second delivers the event, and the first then
puts it back to pending. -/
theorem late_update_reopens_succeeded :
    ¬ ∀ s t : WebhookSystem Unit, Reach (webhookStep webhookReplicas) Free
        (.start fun _ => some 0) s →
      Reach (webhookStep webhookReplicas) Free s t → WebhookProgress s t ∧ SendsBounded t := by
  intro h
  have hs := reach_get (show (exec (webhookStep webhookReplicas) (.start fun _ => some 0)
    [.queue queuedWebhook, .tick 60000, .claim 1 60000, .send 1 (.rejected "timeout"),
      .tick 40000, .recover "d1" 100000, .claim 2 100000, .send 2 .accepted,
      .finish 2]).isSome = true by decide +kernel)
  have hprogress := h _ _ hs (@reach_get _ _ _ [.finish 1] _ (by decide +kernel))
  exact absurd hprogress.1 (by decide +kernel)

end StellarEduPay

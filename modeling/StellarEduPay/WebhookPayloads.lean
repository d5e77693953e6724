import StellarEduPay.WebhookRetries

/-! # What the payload of an event lets out

An event is posted with the fields the school allows, and queued for retry with all of
them.  No step of the retry system looks into a payload, so it commutes with any change of
payloads (`webhookStep_map`).  One run in which the queued payload is left open therefore
stands for all of them, and what two payloads that agree on the allowed fields let out
differs exactly where a queued one was posted again.
-/
namespace StellarEduPay
open Runs Function

/-! ## Payloads -/

/-- A JSON object: named fields in order, no name twice. -/
abbrev WebhookPayload (V : Type) := Collection (String × V) String Prod.fst

section Payload
variable {V : Type}

/-- `result[key] = value` -/
def setField (payload : WebhookPayload V) (field : String × V) : WebhookPayload V :=
  match payload.insert field with
  | some payload' => payload'
  | none => payload.save field

def DEFAULT_ALLOWED_FIELDS : List String :=
  ["event", "txHash", "transactionHash", "amount", "asset", "assetCode", "status", "schoolId",
    "ts", "timestamp", "correlationId", "referenceCode", "finalFee", "feeValidationStatus",
    "confirmedAt", "ledgerSequence", "reason", "isSuspicious", "originalTxHash", "refundTxHash",
    "refundedAt"]

/-- The allowed fields of `rawPayload`; no list, or an empty one, means the default. -/
def buildWebhookPayload (rawPayload : WebhookPayload V) (allowedFields : Option (List String)) :
    WebhookPayload V :=
  let fields :=
    match allowedFields with
    | some (field :: rest) => field :: rest
    | _ => DEFAULT_ALLOWED_FIELDS
  fields.foldl (fun result key =>
    match rawPayload.findOne fun field => field.1 == key with
    | some field => setField result field
    | none => result) .empty

/-- What the store keeps of a payload: `minimize` drops empty objects, inside the payload and
the payload itself. -/
def storedPayload (minimize : V → Option V) (payload : WebhookPayload V) :
    Option (WebhookPayload V) :=
  let kept : WebhookPayload V :=
    ⟨payload.docs.filterMap fun field => (minimize field.2).map fun value => (field.1, value), by
      refine payload.nodup.sublist ?_
      induction payload.docs with
      | nil => exact .slnil
      | cons field fields ih =>
        rw [List.filterMap_cons]
        cases minimize field.2 with
        | none => exact ih.cons _
        | some value => exact ih.cons_cons _⟩
  if kept.docs = [] then none else some kept

end Payload

/-! ## Firing an event -/

/-- One endpoint subscribed to the event, and how its delivery went: whether the URL passed
validation, whether the delivery was taken for a replay, the answer, and the time it took. -/
structure EndpointDelivery where
  endpointId : String
  url : String
  deliveryId : String
  urlValid : Bool := true
  replay : Bool := false
  answer : WebhookAnswer
  elapsed : Nat := 0
  deriving DecidableEq, Repr

section Fire
variable {π : Type}

/-- The counter after `_nextEndpointSequence`, which also is the number it hands out. -/
def nextEndpointSequence (s : WebhookSystem π) (endpointId : String) : Option Nat :=
  (s.eventSequence endpointId).map (· + 1)

/-- The first attempt at one endpoint, under the next number of its sequence. -/
def postToEndpoint (event : String) (data : π) (s : WebhookSystem π) (d : EndpointDelivery) :
    WebhookSystem π :=
  let sequence := nextEndpointSequence s d.endpointId
  let post : WebhookPost π := {
    worker := none
    url := d.url
    endpointId := some d.endpointId
    deliveryId := d.deliveryId
    attemptCount := 1
    body := buildEventBody event (s.clock / 1000) data sequence }
  { s with
    clock := s.clock + d.elapsed
    eventSequence := update s.eventSequence d.endpointId sequence
    posts := sendToUrl post d.answer ++ s.posts }

/-- The body of the loop of `fireWebhookToEndpoints`: post `data`, and on a failure queue
`queued`.  A failure to queue is only logged. -/
def deliverToEndpoint (cfg : WebhookConfig) (event : String) (data queued : π)
    (s : WebhookSystem π) (d : EndpointDelivery) : WebhookSystem π :=
  if d.urlValid = false ∨ d.replay = true then s
  else
    let posted := postToEndpoint event data s d
    match d.answer.error with
    | none => posted
    | some error => (queueWebhookRetry cfg posted {
        url := d.url
        event := event
        payload := queued
        error := error
        deliveryId := d.deliveryId
        endpointId := some d.endpointId
        sequence := nextEndpointSequence s d.endpointId }).getD posted

def deliverToEndpoints (cfg : WebhookConfig) (event : String) (data queued : π)
    (deliveries : List EndpointDelivery) (s : WebhookSystem π) : WebhookSystem π :=
  deliveries.foldl (deliverToEndpoint cfg event data queued) s

end Fire

/-- The first post carries the allowed fields, the retry is queued with `rawPayload`.  What a
worker sends later is the stored payload; one that was not stored is left out of the body. -/
def fireWebhookToEndpoints {V : Type} (cfg : WebhookConfig) (minimize : V → Option V)
    (event : String) (rawPayload : WebhookPayload V) (allowedFields : Option (List String))
    (deliveries : List EndpointDelivery) (s : WebhookSystem (Option (WebhookPayload V))) :
    WebhookSystem (Option (WebhookPayload V)) :=
  deliverToEndpoints cfg event (some (buildWebhookPayload rawPayload allowedFields))
    (storedPayload minimize rawPayload) deliveries s

/-! ## Changing the payloads of a system -/

section Map
variable {π ρ : Type} (f : π → ρ)

def WebhookBody.map (body : WebhookBody π) : WebhookBody ρ := { body with data := f body.data }

def WebhookPost.map (post : WebhookPost π) : WebhookPost ρ := { post with body := post.body.map f }

def WebhookRetry.map (retry : WebhookRetry π) : WebhookRetry ρ :=
  { retry with payload := f retry.payload }

theorem WebhookRetry.map_deliveryId (retry : WebhookRetry π) :
    (retry.map f).deliveryId = retry.deliveryId := rfl

def WebhookJob.map (job : WebhookJob π) : WebhookJob ρ := { job with retry := job.retry.map f }

def WebhookQueueRequest.map (request : WebhookQueueRequest π) : WebhookQueueRequest ρ :=
  { request with payload := f request.payload }

def WebhookAction.map : WebhookAction π → WebhookAction ρ
  | .tick ms => .tick ms
  | .queue request => .queue (request.map f)
  | .recover deliveryId now => .recover deliveryId now
  | .claim worker now => .claim worker now
  | .block worker => .block worker
  | .send worker answer => .send worker answer
  | .finish worker => .finish worker
  | .crash worker => .crash worker

def WebhookSystem.map (s : WebhookSystem π) : WebhookSystem ρ where
  clock := s.clock
  eventSequence := s.eventSequence
  retries := s.retries.map (WebhookRetry.map f) (WebhookRetry.map_deliveryId f)
  worker := Option.map (WebhookJob.map f) ∘ s.worker
  claimant := s.claimant
  posts := s.posts.map (WebhookPost.map f)

theorem queueWebhookRetry_map (cfg : WebhookConfig) (s : WebhookSystem π)
    (request : WebhookQueueRequest π) :
    queueWebhookRetry cfg (s.map f) (request.map f) =
      (queueWebhookRetry cfg s request).map (WebhookSystem.map f) := by
  have hevent : (request.map f).event = request.event := rfl
  unfold queueWebhookRetry
  rw [hevent]
  by_cases hvalid : request.event ∈ webhookRetryEvents ∧ 1 ≤ cfg.maxAttempts
  · have hins := s.retries.insert_map (WebhookRetry.map_deliveryId f) (request.retry cfg s.clock)
    change (s.map f).retries.insert ((request.map f).retry cfg (s.map f).clock) = _ at hins
    rw [if_pos hvalid, if_pos hvalid, hins, Option.map_map, Option.map_map]
    rfl
  · rw [if_neg hvalid, if_neg hvalid]
    rfl

theorem argmin_map {α β : Type} (g : α → β) (key : β → Nat) (l : List α) :
    (l.map g).argmin key = (l.argmin (key ∘ g)).map g := by
  induction l with
  | nil => rfl
  | cons x l ih =>
    rw [List.map_cons, List.argmin_cons, List.argmin_cons, ih]
    cases l.argmin (key ∘ g) with
    | none => rfl
    | some y =>
      by_cases h : key (g y) < key (g x)
      · simp [h]
      · simp [h]

theorem nextRetry_map (now : Nat) (s : WebhookSystem π) :
    nextRetry now (s.map f).retries = (nextRetry now s.retries).map (WebhookRetry.map f) := by
  have hdue : retryDue now ∘ WebhookRetry.map f = retryDue now := rfl
  simp only [nextRetry, WebhookSystem.map, Collection.map, List.filter_map, hdue, argmin_map]
  rfl

theorem worker_map (s : WebhookSystem π) (worker : Nat) :
    (s.map f).worker worker = (s.worker worker).map (WebhookJob.map f) := rfl

theorem sendToUrl_map (post : WebhookPost π) (answer : WebhookAnswer) :
    sendToUrl (post.map f) answer = (sendToUrl post answer).map (WebhookPost.map f) := by
  cases answer <;> rfl

theorem recoverStuckLease_map (cfg : WebhookConfig) (now : Nat) (retry : WebhookRetry π) :
    recoverStuckLease cfg now (retry.map f) = (recoverStuckLease cfg now retry).map f := by
  unfold recoverStuckLease
  rw [apply_ite (WebhookRetry.map f)]
  rfl

theorem settleRetry_map (clock : Nat) (claimed : WebhookRetry π) (answer : WebhookAnswer)
    (retry : WebhookRetry π) :
    settleRetry clock (claimed.map f) answer (retry.map f) =
      (settleRetry clock claimed answer retry).map f := by
  unfold settleRetry
  cases answer.error with
  | none => rfl
  | some error =>
    dsimp only
    rw [apply_ite (WebhookRetry.map f)]
    rfl

/-- Ending or moving on a call, and changing a retry, commute with the change of payloads. -/
theorem system_map (s : WebhookSystem π) (deliveryId : String) (worker : Nat)
    (job : Option (WebhookJob π)) {g : WebhookRetry π → WebhookRetry π}
    {g' : WebhookRetry ρ → WebhookRetry ρ} (hg : ∀ d, (g d).deliveryId = d.deliveryId)
    (hg' : ∀ d, (g' d).deliveryId = d.deliveryId) (hcomm : ∀ d, g' (d.map f) = (g d).map f) :
    { s.map f with
        retries := (s.map f).retries.modify deliveryId g' hg'
        worker := update (s.map f).worker worker (job.map (WebhookJob.map f)) } =
      WebhookSystem.map f { s with
        retries := s.retries.modify deliveryId g hg
        worker := update s.worker worker job } := by
  have hretries := s.retries.modify_map (WebhookRetry.map_deliveryId f) (k := deliveryId) hg hg' hcomm
  have hworker := comp_update (Option.map (WebhookJob.map f)) s.worker worker job
  simp only [WebhookSystem.map, hretries, hworker]

/-- **No step looks into a payload.** -/
theorem webhookStep_map (cfg : WebhookConfig) (s : WebhookSystem π) (a : WebhookAction π) :
    webhookStep cfg (s.map f) (a.map f) = (webhookStep cfg s a).map (WebhookSystem.map f) := by
  cases a with
  | tick ms => rfl
  | queue request => exact queueWebhookRetry_map f cfg s request
  | recover deliveryId now =>
    have hretries := s.retries.modify_map (WebhookRetry.map_deliveryId f) (k := deliveryId)
      (recoverStuckLease_deliveryId cfg now) (recoverStuckLease_deliveryId cfg now)
      (recoverStuckLease_map f cfg now)
    simp only [WebhookAction.map, webhookStep]
    rw [apply_ite (Option.map (WebhookSystem.map f))]
    refine ite_congr rfl (fun _ => ?_) fun _ => rfl
    exact congrArg (fun retries => some { s.map f with retries := retries }) hretries
  | claim worker now =>
    have hidle : (s.map f).worker worker = none ↔ s.worker worker = none :=
      Option.map_eq_none_iff
    simp only [WebhookAction.map, webhookStep]
    rw [apply_ite (Option.map (WebhookSystem.map f))]
    refine ite_congr (by rw [hidle]; rfl) (fun _ => ?_) fun _ => rfl
    rw [nextRetry_map, Option.map_map, Option.map_map]
    refine congrArg (fun g => (nextRetry now s.retries).map g) (funext fun retry => ?_)
    have hsame := system_map f s retry.deliveryId worker
      (some { retry := leaseRetry cfg worker s.clock retry })
      (leaseRetry_deliveryId cfg worker s.clock) (leaseRetry_deliveryId cfg worker s.clock)
      fun _ => rfl
    exact congrArg (fun t : WebhookSystem ρ => { t with
      claimant := update s.claimant retry.deliveryId (some worker) }) hsame
  | block worker =>
    simp only [WebhookAction.map, webhookStep, worker_map]
    rcases s.worker worker with - | ⟨retry, - | answer⟩
    · rfl
    · exact congrArg some (system_map f s retry.deliveryId worker none
        (blockRetry_deliveryId s.clock) (blockRetry_deliveryId s.clock) fun _ => rfl)
    · rfl
  | send worker answer =>
    simp only [WebhookAction.map, webhookStep, worker_map]
    rcases s.worker worker with - | ⟨retry, - | earlier⟩
    · rfl
    · have hposts := sendToUrl_map f (retry.post worker s.clock) answer
      have hworker := comp_update (Option.map (WebhookJob.map f)) s.worker worker
        (some ⟨retry, some answer⟩)
      simp only [Option.map_some, WebhookSystem.map, List.map_append, hworker, ← hposts]
      rfl
    · rfl
  | finish worker =>
    simp only [WebhookAction.map, webhookStep, worker_map]
    rcases s.worker worker with - | ⟨retry, - | answer⟩
    · rfl
    · rfl
    · exact congrArg some (system_map f s retry.deliveryId worker none
        (settleRetry_deliveryId s.clock retry answer)
        (settleRetry_deliveryId s.clock (retry.map f) answer)
        (settleRetry_map f s.clock retry answer))
  | crash worker =>
    have hworker := comp_update (Option.map (WebhookJob.map f)) s.worker worker none
    simp only [WebhookAction.map, webhookStep, WebhookSystem.map, hworker, Option.map_some,
      Option.map_none]

theorem postToEndpoint_map (event : String) (data : π) (s : WebhookSystem π)
    (d : EndpointDelivery) :
    postToEndpoint event (f data) (s.map f) d = (postToEndpoint event data s d).map f := by
  simp only [postToEndpoint, WebhookSystem.map, List.map_append, ← sendToUrl_map]
  rfl

theorem deliverToEndpoint_map (cfg : WebhookConfig) (event : String) (data queued : π)
    (s : WebhookSystem π) (d : EndpointDelivery) :
    deliverToEndpoint cfg event (f data) (f queued) (s.map f) d =
      (deliverToEndpoint cfg event data queued s d).map f := by
  unfold deliverToEndpoint
  rw [apply_ite (WebhookSystem.map f), postToEndpoint_map]
  refine ite_congr rfl (fun _ => rfl) fun _ => ?_
  dsimp only
  cases d.answer.error with
  | none => rfl
  | some error =>
    have hqueue := queueWebhookRetry_map f cfg (postToEndpoint event data s d) {
      url := d.url
      event := event
      payload := queued
      error := error
      deliveryId := d.deliveryId
      endpointId := some d.endpointId
      sequence := nextEndpointSequence s d.endpointId }
    dsimp only
    rw [← Option.getD_map (WebhookSystem.map f), ← hqueue]
    rfl

theorem deliverToEndpoints_map (cfg : WebhookConfig) (event : String) (data queued : π)
    (deliveries : List EndpointDelivery) (s : WebhookSystem π) :
    deliverToEndpoints cfg event (f data) (f queued) deliveries (s.map f) =
      (deliverToEndpoints cfg event data queued deliveries s).map f := by
  induction deliveries generalizing s with
  | nil => rfl
  | cons d deliveries ih =>
    unfold deliverToEndpoints at ih ⊢
    rw [List.foldl_cons, List.foldl_cons, deliverToEndpoint_map, ih]

end Map

/-! ## What an endpoint receives -/

/-- The bodies posted to an endpoint, most recent first. -/
def WebhookSystem.bodiesTo {π : Type} (s : WebhookSystem π) (endpointId : String) :
    List (WebhookBody π) :=
  (s.posts.filter fun post => post.endpointId == some endpointId).map WebhookPost.body

theorem bodiesTo_map {π ρ : Type} (f : π → ρ) (s : WebhookSystem π) (endpointId : String) :
    (s.map f).bodiesTo endpointId = (s.bodiesTo endpointId).map (WebhookBody.map f) := by
  simp only [WebhookSystem.bodiesTo, WebhookSystem.map, List.filter_map, List.map_map]
  rfl

/-- What an endpoint receives when the event fires and anything the retry system can do
follows. -/
def bodiesSent {V : Type} (cfg : WebhookConfig) (minimize : V → Option V) (event : String)
    (allowedFields : Option (List String)) (deliveries : List EndpointDelivery)
    (s : WebhookSystem (Option (WebhookPayload V)))
    (as : List (WebhookAction (Option (WebhookPayload V)))) (endpointId : String)
    (rawPayload : WebhookPayload V) : Option (List (WebhookBody (Option (WebhookPayload V)))) :=
  (exec (webhookStep cfg)
    (fireWebhookToEndpoints cfg minimize event rawPayload allowedFields deliveries s) as).map
    (·.bodiesTo endpointId)

/-- In this schedule a worker posts to the endpoint what the event queued.  The run is of
the system that keeps of a payload only whether this event queued it. -/
def Reposted {π : Type} (cfg : WebhookConfig) (event : String) (deliveries : List EndpointDelivery)
    (s : WebhookSystem π) (as : List (WebhookAction π)) (endpointId : String) : Prop :=
  ∃ t ∈ exec (webhookStep cfg)
      (deliverToEndpoints cfg event false true deliveries (s.map fun _ => false))
      (as.map (WebhookAction.map fun _ => false)),
    ∃ body ∈ t.bodiesTo endpointId, body.data = true

instance {π : Type} (cfg : WebhookConfig) (event : String) (deliveries : List EndpointDelivery)
    (s : WebhookSystem π) (as : List (WebhookAction π)) (endpointId : String) :
    Decidable (Reposted cfg event deliveries s as endpointId) := by
  unfold Reposted
  infer_instance

section Symbolic
variable {D : Type}

/-- A payload that is open (`none`) or known, once the open one is settled. -/
def settled (queued : D) (payload : Option D) : D := payload.getD queued

/-- The run in which the queued payload is left open. -/
def openRun (cfg : WebhookConfig) (event : String) (data : D) (deliveries : List EndpointDelivery)
    (s : WebhookSystem D) (as : List (WebhookAction D)) : Option (WebhookSystem (Option D)) :=
  exec (webhookStep cfg) (deliverToEndpoints cfg event (some data) none deliveries (s.map some))
    (as.map (WebhookAction.map some))

theorem map_map_system {π ρ τ : Type} (f : π → ρ) (g : ρ → τ) (s : WebhookSystem π) :
    (s.map f).map g = s.map (g ∘ f) := by
  have hworker : Option.map (WebhookJob.map g) ∘ Option.map (WebhookJob.map f) ∘ s.worker =
      Option.map (WebhookJob.map (g ∘ f)) ∘ s.worker := by
    funext w
    simp only [comp_apply, Option.map_map]
    rfl
  simp only [WebhookSystem.map, Collection.map, List.map_map, hworker]
  rfl

theorem map_map_action {π ρ τ : Type} (f : π → ρ) (g : ρ → τ) (a : WebhookAction π) :
    (a.map f).map g = a.map (g ∘ f) := by
  cases a <;> rfl

/-- A run for any choice of payloads is the open run with its payloads replaced. -/
theorem openRun_map {ρ : Type} (g : Option D → ρ) (cfg : WebhookConfig) (event : String) (data : D)
    (deliveries : List EndpointDelivery) (s : WebhookSystem D) (as : List (WebhookAction D)) :
    exec (webhookStep cfg)
        (deliverToEndpoints cfg event (g (some data)) (g none) deliveries (s.map (g ∘ some)))
        (as.map (WebhookAction.map (g ∘ some))) =
      (openRun cfg event data deliveries s as).map (WebhookSystem.map g) := by
  have hacts : as.map (WebhookAction.map (g ∘ some)) =
      (as.map (WebhookAction.map some)).map (WebhookAction.map g) := by
    rw [List.map_map]
    exact List.map_congr_left fun a _ => (map_map_action some g a).symm
  rw [hacts, ← map_map_system, deliverToEndpoints_map]
  exact exec_map (WebhookSystem.map g) (WebhookAction.map g) (webhookStep_map g cfg) _ _

theorem map_id_system (s : WebhookSystem D) : s.map id = s := by
  have hworker : Option.map (WebhookJob.map id) ∘ s.worker = s.worker := by
    funext w
    exact congrFun Option.map_id (s.worker w)
  have hretries : s.retries.map (WebhookRetry.map id) (WebhookRetry.map_deliveryId id) = s.retries :=
    Collection.ext (List.map_id _)
  have hposts : s.posts.map (WebhookPost.map id) = s.posts := List.map_id _
  simp only [WebhookSystem.map, hworker, hretries, hposts]

theorem map_id_action (a : WebhookAction D) : a.map id = a := by
  cases a <;> rfl

/-- The run in which `queued` was queued. -/
theorem openRun_settled (queued : D) (cfg : WebhookConfig) (event : String) (data : D)
    (deliveries : List EndpointDelivery) (s : WebhookSystem D) (as : List (WebhookAction D)) :
    exec (webhookStep cfg) (deliverToEndpoints cfg event data queued deliveries s) as =
      (openRun cfg event data deliveries s as).map (WebhookSystem.map (settled queued)) := by
  have hrun := openRun_map (settled queued) cfg event data deliveries s as
  rw [show settled queued ∘ some = id from rfl, map_id_system] at hrun
  rwa [List.map_congr_left fun a _ => map_id_action a, List.map_id'] at hrun

/-- The run of the system that only marks what was queued. -/
theorem reposted_iff (cfg : WebhookConfig) (event : String) (data : D)
    (deliveries : List EndpointDelivery) (s : WebhookSystem D) (as : List (WebhookAction D))
    (endpointId : String) :
    Reposted cfg event deliveries s as endpointId ↔
      ∃ t ∈ openRun cfg event data deliveries s as, ∃ body ∈ t.bodiesTo endpointId,
        body.data = none := by
  have hrun := openRun_map Option.isNone cfg event data deliveries s as
  rw [show (Option.isNone ∘ some : D → Bool) = fun _ => false from rfl] at hrun
  simp only [Option.isNone_some, Option.isNone_none] at hrun
  unfold Reposted
  rw [hrun]
  constructor
  · rintro ⟨t', ht', body', hbody', hdata⟩
    obtain ⟨t, ht, rfl⟩ := Option.map_eq_some_iff.mp ht'
    rw [bodiesTo_map] at hbody'
    obtain ⟨body, hbody, rfl⟩ := List.mem_map.mp hbody'
    exact ⟨t, ht, body, hbody, Option.isNone_iff_eq_none.mp hdata⟩
  · rintro ⟨t, ht, body, hbody, hdata⟩
    refine ⟨_, Option.map_eq_some_iff.mpr ⟨t, ht, rfl⟩, body.map Option.isNone, ?_, ?_⟩
    · rw [bodiesTo_map]
      exact List.mem_map_of_mem hbody
    · exact Option.isNone_iff_eq_none.mpr hdata

/-- Two choices of the open payload show exactly in the bodies that carry it. -/
theorem bodies_settled_iff (queued queued' : D) (t : WebhookSystem (Option D))
    (endpointId : String) :
    (t.map (settled queued)).bodiesTo endpointId = (t.map (settled queued')).bodiesTo endpointId ↔
      queued = queued' ∨ ∀ body ∈ t.bodiesTo endpointId, body.data ≠ none := by
  rw [bodiesTo_map, bodiesTo_map, List.map_inj_left]
  constructor
  · intro hbodies
    by_cases hopen : ∃ body ∈ t.bodiesTo endpointId, body.data = none
    · obtain ⟨body, hbody, hdata⟩ := hopen
      have hsame := congrArg WebhookBody.data (hbodies body hbody)
      simp only [WebhookBody.map, settled, hdata, Option.getD_none] at hsame
      exact Or.inl hsame
    · exact Or.inr fun body hbody hdata => hopen ⟨body, hbody, hdata⟩
  · rintro (rfl | hknown)
    · exact fun _ _ => rfl
    · intro body hbody
      obtain ⟨known, hdata⟩ := Option.ne_none_iff_exists'.mp (hknown body hbody)
      simp only [WebhookBody.map, settled, hdata, Option.getD_some]

end Symbolic

/-- **What a payload lets out.**  Two payloads with the same allowed fields make an endpoint
receive the same bodies exactly if they are stored alike or no worker posts the queued one
to it. -/
theorem webhook_bodies_agree_iff {V : Type} (cfg : WebhookConfig) (minimize : V → Option V)
    (event : String) (allowedFields : Option (List String)) (deliveries : List EndpointDelivery)
    (s : WebhookSystem (Option (WebhookPayload V)))
    (as : List (WebhookAction (Option (WebhookPayload V)))) (endpointId : String)
    {raw raw' : WebhookPayload V}
    (hallowed : buildWebhookPayload raw allowedFields = buildWebhookPayload raw' allowedFields) :
    bodiesSent cfg minimize event allowedFields deliveries s as endpointId raw =
        bodiesSent cfg minimize event allowedFields deliveries s as endpointId raw' ↔
      storedPayload minimize raw = storedPayload minimize raw' ∨
        ¬ Reposted cfg event deliveries s as endpointId := by
  unfold bodiesSent fireWebhookToEndpoints
  rw [reposted_iff cfg event (some (buildWebhookPayload raw' allowedFields)), hallowed,
    openRun_settled, openRun_settled]
  generalize openRun cfg event (some (buildWebhookPayload raw' allowedFields)) deliveries s as = run
  cases run with
  | none => simp
  | some t =>
    have hiff := bodies_settled_iff (storedPayload minimize raw) (storedPayload minimize raw') t
      endpointId
    simpa using hiff

/-! ## A confirmed payment of two students -/

/-- A payload of `payment.confirmed` that names the student. -/
def confirmedPayload (studentId : String) : WebhookPayload String :=
  ⟨[("txHash", "ab12"), ("amount", "100.0000000"), ("studentId", studentId)],
    (by decide : ["txHash", "amount", "studentId"].Nodup)⟩

theorem confirmedPayload_allowed :
    buildWebhookPayload (confirmedPayload "STU-1") none =
      buildWebhookPayload (confirmedPayload "STU-2") none :=
  Collection.ext (by decide +kernel)

/-- One endpoint, whose receiver is down when the event fires. -/
def receiverDown : List EndpointDelivery :=
  [{ endpointId := "e1", url := "https://school.example/hooks", deliveryId := "d1",
     answer := .rejected "HTTP 503" }]

def oneWorker : WebhookConfig := { workerId := fun _ => "host:1" }

/-- No deliveries yet. -/
def freshWebhooks : WebhookSystem (Option (WebhookPayload String)) := .start fun _ => some 0

/-- Without a retry the endpoint cannot tell the students apart. -/
theorem webhook_bodies_agree_iff_first_attempt :
    bodiesSent oneWorker some "payment.confirmed" none receiverDown freshWebhooks [.tick 60000]
        "e1" (confirmedPayload "STU-1") =
      bodiesSent oneWorker some "payment.confirmed" none receiverDown freshWebhooks [.tick 60000]
        "e1" (confirmedPayload "STU-2") :=
  (webhook_bodies_agree_iff oneWorker some "payment.confirmed" none receiverDown freshWebhooks
    [.tick 60000] "e1" confirmedPayload_allowed).mpr (Or.inr (by decide +kernel))

/-- The first retry names the student. -/
theorem retry_leaks_student :
    ¬ ∀ (event : String) (allowedFields : Option (List String)) (deliveries : List EndpointDelivery)
        (as : List (WebhookAction (Option (WebhookPayload String)))) (endpointId : String)
        (raw raw' : WebhookPayload String),
      buildWebhookPayload raw allowedFields = buildWebhookPayload raw' allowedFields →
      bodiesSent oneWorker some event allowedFields deliveries freshWebhooks as endpointId raw =
        bodiesSent oneWorker some event allowedFields deliveries freshWebhooks as endpointId raw' := by
  intro h
  have hsame := h "payment.confirmed" none receiverDown
    [.tick 60000, .claim 1 60000, .send 1 .accepted, .finish 1] "e1" _ _ confirmedPayload_allowed
  have hdata := congrArg (Option.map (List.map fun body => body.data.map Collection.docs)) hsame
  exact absurd hdata (by decide +kernel)

end StellarEduPay

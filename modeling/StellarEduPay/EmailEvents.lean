import StellarEduPay.SuppressionList

/-! # Events of the e-mail providers (`services/email/providerEvents.js`,
`services/emailDeliveryService.js`)

The events of a webhook are applied one after the other: a bounce or a complaint goes to the
suppression list, and an event that names a message goes to the record of its delivery.  An event of SES
or SendGrid says nothing from which a record could be made, so where there is none it throws, after its
address was suppressed and before the events behind it (`processWebhook_eq`).  The nonce of the webhook
is stored by then, and what is left is not tried again.
-/
namespace StellarEduPay
open Function

/-! ## The store -/

structure EmailDelivery where
  schoolId : String
  studentId : String
  type : String
  provider : String
  providerMessageId : Option String
  status : String
  reason : Option String
  sentAt : Option Nat
  deliveredAt : Option Nat
  openedAt : Option Nat
  bouncedAt : Option Nat
  complaintAt : Option Nat
  deriving DecidableEq, Repr

/-- What the e-mails to the parents of a student came to. -/
structure StudentEmail where
  parentEmailSuppressed : Bool
  parentEmailSuppressionReason : Option String
  parentEmailSuppressedAt : Option Nat
  lastEmailDeliveryStatus : Option String
  lastEmailDeliveryAt : Option Nat
  deriving DecidableEq, Repr

structure EmailStore where
  suppressions : SuppressionList
  deliveries : List EmailDelivery
  students : String × String → Option StudentEmail

/-- What a generic callback says beside the event. -/
structure RawEvent where
  provider : Option String := none
  type : Option String := none
  schoolId : Option String := none
  studentId : Option String := none
  reason : Option String := none
  deriving DecidableEq, Repr

inductive EmailEventKind
  | delivered
  | opened
  | bounce
  | complaint
  | failed
  deriving DecidableEq, Repr

/-- `DELIVERY_EVENT_TYPES` -/
def EmailEventKind.eventType : EmailEventKind → String
  | delivered => "delivered"
  | opened => "opened"
  | bounce => "bounced"
  | complaint => "complaint"
  | failed => "failed"

/-- An event of `parseEvents`. -/
structure ProviderEvent where
  kind : EmailEventKind
  email : Option String
  bounceType : Option String
  detail : Option String
  providerMessageId : Option String
  timestamp : Option Nat
  raw : RawEvent := {}
  deriving DecidableEq, Repr

/-! ## `parseEvents` -/

structure SesRecipient where
  emailAddress : Option String
  diagnosticCode : Option String
  deriving DecidableEq, Repr

/-- The part of an SES notification that goes with its type; `other` has none that is read. -/
inductive SesEvent
  | bounce (bounceType : Option String) (bouncedRecipients : List SesRecipient) (timestamp : Option Nat)
  | complaint (complaintFeedbackType : Option String) (complainedRecipients : List SesRecipient)
      (timestamp : Option Nat)
  | delivery (smtpResponse : Option String) (recipients : List String) (timestamp : Option Nat)
  | opened (timestamp : Option Nat)
  | other
  deriving DecidableEq, Repr

structure SesNotification where
  messageId : Option String
  destination : List String
  event : SesEvent
  deriving DecidableEq, Repr

/-- `_parseSes` -/
def parseSes (msg : SesNotification) : List ProviderEvent :=
  match msg.event with
  | .bounce bounceType recipients timestamp => recipients.map fun r =>
    { kind := .bounce
      email := r.emailAddress
      bounceType := some (if bounceType = some "Permanent" then "hard" else "soft")
      detail := r.diagnosticCode
      providerMessageId := msg.messageId
      timestamp := timestamp }
  | .complaint feedbackType recipients timestamp => recipients.map fun r =>
    { kind := .complaint
      email := r.emailAddress
      bounceType := none
      detail := feedbackType
      providerMessageId := msg.messageId
      timestamp := timestamp }
  | .delivery smtpResponse recipients timestamp => recipients.map fun email =>
    { kind := .delivered
      email := some email
      bounceType := none
      detail := smtpResponse
      providerMessageId := msg.messageId
      timestamp := timestamp }
  | .opened timestamp =>
    [{ kind := .opened
       email := msg.destination.head?
       bounceType := none
       detail := none
       providerMessageId := msg.messageId
       timestamp := timestamp }]
  | .other => []

structure SendGridEvent where
  email : Option String
  event : Option String
  type : Option String
  reason : Option String
  response : Option String
  sgMessageId : Option String
  timestamp : Option Nat
  deriving DecidableEq, Repr

/-- The id that the send API returned is what stands before the first dot. -/
def sendId (sgMessageId : String) : String :=
  String.ofList (sgMessageId.toList.takeWhile (· ≠ '.'))

/-- One turn of the loop of `_parseSendGrid`. -/
def parseSendGridEvent (ev : SendGridEvent) : Option ProviderEvent :=
  let base (kind : EmailEventKind) (bounceType detail : Option String) : ProviderEvent :=
    { kind := kind
      email := ev.email
      bounceType := bounceType
      detail := detail
      providerMessageId := ev.sgMessageId.map sendId
      timestamp := ev.timestamp }
  if (truthy ev.email).isNone then none
  else if ev.event = some "bounce" ∨ ev.event = some "dropped" then
    let hard := ev.type = some "bounce" ∨ ev.event = some "bounce"
    some (base .bounce (some (if hard then "hard" else "soft")) ev.reason)
  else if ev.event = some "spamreport" then some (base .complaint none (some "spamreport"))
  else if ev.event = some "delivered" then some (base .delivered none (truthy ev.response))
  else if ev.event = some "open" then some (base .opened none none)
  else none

/-- The body of a webhook of SES or SendGrid. -/
inductive ProviderBody
  | ses (msg : SesNotification)
  | sendgrid (events : List SendGridEvent)
  deriving DecidableEq, Repr

namespace ProviderBody

def provider : ProviderBody → String
  | ses _ => "ses"
  | sendgrid _ => "sendgrid"

def parseEvents : ProviderBody → List ProviderEvent
  | ses msg => parseSes msg
  | sendgrid events => events.filterMap parseSendGridEvent

/-- Neither provider says which student an e-mail was about. -/
theorem parseEvents_raw (body : ProviderBody) : ∀ ev ∈ body.parseEvents, ev.raw = {} := by
  intro ev hev
  cases body with
  | ses msg =>
    rw [parseEvents, parseSes] at hev
    split at hev
    iterate 3 (obtain ⟨r, -, rfl⟩ := List.mem_map.mp hev; rfl)
    · rw [List.mem_singleton.mp hev]
    · cases hev
  | sendgrid events =>
    obtain ⟨raw, -, hraw⟩ := List.mem_filterMap.mp hev
    unfold parseSendGridEvent at hraw
    split_ifs at hraw <;> (obtain rfl := Option.some.inj hraw; rfl)

end ProviderBody

/-! ## Deliveries -/

/-- The argument of `handleEmailProviderEvent`. -/
structure DeliveryEvent where
  provider : String
  providerMessageId : String
  type : Option String
  schoolId : Option String
  studentId : Option String
  status : String
  timestamp : Option Nat
  reason : Option String

namespace DeliveryEvent

/-- The date of a status, where the event is of that status. -/
def dateOf (ev : DeliveryEvent) (status : String) (date : Option Nat) : Option Nat :=
  if ev.status = status then date else none

/-- `findOneAndUpdate` of a record that there is; an event without a date leaves the dates. -/
def update (ev : DeliveryEvent) (now : Nat) (record : EmailDelivery) : EmailDelivery :=
  { record with
    status := ev.status
    reason := truthy ev.reason
    sentAt := record.sentAt.or (ev.dateOf "delivered" (some now))
    deliveredAt := (ev.dateOf "delivered" ev.timestamp).or record.deliveredAt
    openedAt := (ev.dateOf "opened" ev.timestamp).or record.openedAt
    bouncedAt := (ev.dateOf "bounced" ev.timestamp).or record.bouncedAt
    complaintAt := (ev.dateOf "complaint" ev.timestamp).or record.complaintAt }

/-- The record that is created where there is none, if it passes the validation of the model. -/
def create (ev : DeliveryEvent) (now : Nat) : Option EmailDelivery :=
  match truthy ev.schoolId, truthy ev.studentId, (truthy ev.type).getD "unknown" with
  | some schoolId, some studentId, type =>
    let date := some (ev.timestamp.getD now)
    if type = "reminder" ∨ type = "receipt" then
      some
        { schoolId := schoolId
          studentId := studentId
          type := type
          provider := ev.provider
          providerMessageId := some ev.providerMessageId
          status := ev.status
          reason := truthy ev.reason
          sentAt := ev.dateOf "sent" date
          deliveredAt := ev.dateOf "delivered" date
          openedAt := ev.dateOf "opened" date
          bouncedAt := ev.dateOf "bounced" date
          complaintAt := ev.dateOf "complaint" date }
    else none
  | _, _, _ => none

end DeliveryEvent

def shouldSuppress (status : String) : Bool := status = "bounced" || status = "complaint"

def suppressStudentEmail (store : EmailStore) (now : Nat) (schoolId studentId status : String)
    (reason : Option String) : EmailStore :=
  let suppressed : StudentEmail :=
    { parentEmailSuppressed := true
      parentEmailSuppressionReason := some ((truthy reason).getD status)
      parentEmailSuppressedAt := some now
      lastEmailDeliveryStatus := some status
      lastEmailDeliveryAt := some now }
  let key := (schoolId, studentId)
  { store with students := update store.students key ((store.students key).map fun _ => suppressed) }

def EmailDelivery.isOf (provider providerMessageId : String) (d : EmailDelivery) : Bool :=
  d.provider = provider && d.providerMessageId = some providerMessageId

def suppressIfBounced (store : EmailStore) (now : Nat) (ev : DeliveryEvent) (d : EmailDelivery) :
    EmailStore :=
  if shouldSuppress ev.status then
    suppressStudentEmail store now d.schoolId d.studentId ev.status ev.reason
  else store

/-- `none` where the record cannot be created. -/
def handleEmailProviderEvent (store : EmailStore) (now : Nat) (ev : DeliveryEvent) :
    Option EmailStore :=
  let isOf := EmailDelivery.isOf ev.provider ev.providerMessageId
  match store.deliveries.find? isOf with
  | some record =>
    let deliveries := store.deliveries.map fun d => if isOf d then ev.update now d else d
    some (suppressIfBounced { store with deliveries := deliveries } now ev record)
  | none => (ev.create now).map fun created =>
    suppressIfBounced { store with deliveries := store.deliveries ++ [created] } now ev created

/-! ## `processEvents` -/

section
variable (toLowerCase : String → String)

/-- The part of an event that is for the suppression list. -/
def suppressEvent (provider : String) (now : Nat) (list : SuppressionList) (ev : ProviderEvent) :
    SuppressionList :=
  match truthy ev.email, ev.kind with
  | some email, .bounce =>
    (recordBounce toLowerCase list now (some email) (some ev.bounceType) (some provider) ev.detail).2
  | some email, .complaint =>
    (recordComplaint toLowerCase list now (some email) (some provider) ev.detail).2
  | _, _ => list

/-- What an event says of the delivery of its message. -/
def ProviderEvent.delivery (ev : ProviderEvent) (provider providerMessageId : String) :
    DeliveryEvent where
  provider := (truthy ev.raw.provider).getD provider
  providerMessageId := providerMessageId
  type := ev.raw.type
  schoolId := ev.raw.schoolId
  studentId := ev.raw.studentId
  status := ev.kind.eventType
  timestamp := ev.timestamp
  reason := (truthy ev.detail).or (truthy ev.raw.reason)

/-- What one event leaves, and whether it did not throw. -/
def applyEvent (provider : String) (now : Nat) (store : EmailStore) (ev : ProviderEvent) :
    EmailStore × Bool :=
  let suppressions := suppressEvent toLowerCase provider now store.suppressions ev
  let store := { store with suppressions := suppressions }
  match truthy ev.providerMessageId with
  | none => (store, true)
  | some id =>
    match handleEmailProviderEvent store now (ev.delivery provider id) with
    | none => (store, false)
    | some store => (store, true)

/-- What the events leave, and whether none threw. -/
def processEvents (provider : String) (now : Nat) :
    EmailStore → List ProviderEvent → EmailStore × Bool
  | store, [] => (store, true)
  | store, ev :: events =>
    match applyEvent toLowerCase provider now store ev with
    | (store, true) => processEvents provider now store events
    | (store, false) => (store, false)

/-! ## How far a webhook of SES or SendGrid is applied -/

/-- There is a record for the message of an event, if it names one. -/
def HasDelivery (provider : String) (deliveries : List EmailDelivery) (ev : ProviderEvent) : Bool :=
  (truthy ev.providerMessageId).all fun id => deliveries.any (EmailDelivery.isOf provider id)

/-- The records after an event with one. -/
def updateDeliveries (provider : String) (now : Nat) (deliveries : List EmailDelivery)
    (ev : ProviderEvent) : List EmailDelivery :=
  match truthy ev.providerMessageId with
  | none => deliveries
  | some id => deliveries.map fun d =>
    if d.isOf provider id then (ev.delivery provider id).update now d else d

end

section
variable {toLowerCase : String → String} {provider : String} {now : Nat} {store : EmailStore}
  {ev : ProviderEvent}

theorem suppressIfBounced_other (d : EmailDelivery) (dev : DeliveryEvent) :
    (suppressIfBounced store now dev d).suppressions = store.suppressions ∧
      (suppressIfBounced store now dev d).deliveries = store.deliveries := by
  unfold suppressIfBounced
  split
  · exact ⟨rfl, rfl⟩
  · exact ⟨rfl, rfl⟩

/-- No update changes which messages there are records for. -/
theorem known_updateDeliveries (deliveries : List EmailDelivery) (ev ev' : ProviderEvent) :
    HasDelivery provider (updateDeliveries provider now deliveries ev) ev' =
      HasDelivery provider deliveries ev' := by
  unfold HasDelivery updateDeliveries
  refine congrArg (fun p => (truthy ev'.providerMessageId).all p) (funext fun id' => ?_)
  cases truthy ev.providerMessageId with
  | none => rfl
  | some id =>
    rw [List.any_map]
    refine congrArg deliveries.any (funext fun d => ?_)
    simp only [Function.comp_apply]
    split <;> rfl

/-- An event that says nothing of a student throws exactly if there is no record. -/
theorem applyEvent_eq (hraw : ev.raw = {}) :
    (applyEvent toLowerCase provider now store ev).1.suppressions =
        suppressEvent toLowerCase provider now store.suppressions ev ∧
      (applyEvent toLowerCase provider now store ev).2 = HasDelivery provider store.deliveries ev ∧
      (applyEvent toLowerCase provider now store ev).1.deliveries =
        if HasDelivery provider store.deliveries ev then updateDeliveries provider now store.deliveries ev
        else store.deliveries := by
  unfold applyEvent HasDelivery updateDeliveries
  cases hid : truthy ev.providerMessageId with
  | none => exact ⟨rfl, rfl, rfl⟩
  | some id =>
    have hprovider : (ev.delivery provider id).provider = provider := by
      rw [ProviderEvent.delivery, hraw]
      rfl
    have hcreate : (ev.delivery provider id).create now = none := by
      rw [DeliveryEvent.create, ProviderEvent.delivery, hraw]
      rfl
    have hmessage : (ev.delivery provider id).providerMessageId = id := rfl
    cases hfound : store.deliveries.find? (EmailDelivery.isOf provider id) with
    | none =>
      have hunknown : store.deliveries.any (EmailDelivery.isOf provider id) = false := by
        rw [List.any_eq_false]
        exact List.find?_eq_none.mp hfound
      simp only [handleEmailProviderEvent, hprovider, hmessage, hfound, hcreate, Option.map_none,
        Option.all_some, hunknown, Bool.false_eq_true, if_false, and_self]
    | some record =>
      have hknown : store.deliveries.any (EmailDelivery.isOf provider id) = true :=
        List.any_eq_true.mpr ⟨record, List.mem_of_find?_eq_some hfound, List.find?_some hfound⟩
      simp only [handleEmailProviderEvent, hprovider, hmessage, hfound, Option.all_some, hknown,
        if_true, true_and]
      exact suppressIfBounced_other record _

theorem processEvents_eq {events : List ProviderEvent} (hraw : ∀ ev ∈ events, ev.raw = {}) :
    let known := HasDelivery provider store.deliveries
    let result := processEvents toLowerCase provider now store events
    result.2 = events.all known ∧
      result.1.deliveries =
        (events.takeWhile known).foldl (updateDeliveries provider now) store.deliveries ∧
      result.1.suppressions = (events.takeWhile known ++ (events.dropWhile known).take 1).foldl
        (suppressEvent toLowerCase provider now) store.suppressions := by
  dsimp only
  induction events generalizing store with
  | nil => exact ⟨rfl, rfl, rfl⟩
  | cons ev events ih =>
    obtain ⟨hempty, hraw⟩ := List.forall_mem_cons.mp hraw
    obtain ⟨hsuppressions, hok, hdeliveries⟩ := @applyEvent_eq toLowerCase provider now store ev hempty
    rw [processEvents]
    cases hknown : HasDelivery provider store.deliveries ev with
    | true =>
      rw [hknown, if_pos rfl] at hdeliveries
      have hsame : HasDelivery provider (applyEvent toLowerCase provider now store ev).1.deliveries =
          HasDelivery provider store.deliveries := by
        rw [hdeliveries]
        exact funext fun ev' => known_updateDeliveries _ ev ev'
      have hrest := @ih (applyEvent toLowerCase provider now store ev).1 hraw
      rw [hsame, hsuppressions, hdeliveries] at hrest
      split
      · rename_i store' happly
        rw [happly] at hrest
        simpa [List.takeWhile_cons, List.dropWhile_cons, hknown] using hrest
      · rename_i store' happly
        rw [happly, hknown] at hok
        cases hok
    | false =>
      rw [hknown, if_neg Bool.false_ne_true] at hdeliveries
      split
      · rename_i store' happly
        rw [happly, hknown] at hok
        cases hok
      · rename_i store' happly
        rw [happly] at hsuppressions hdeliveries
        simpa [hknown] using And.intro hdeliveries hsuppressions

/-- A webhook of SES or SendGrid is applied up to the first event whose message has no record: of that
one the address is still suppressed, and nothing is done of those behind it. -/
theorem processWebhook_eq (toLowerCase : String → String) (body : ProviderBody) (now : Nat)
    (store : EmailStore) :
    let events := body.parseEvents
    let known := HasDelivery body.provider store.deliveries
    let result := processEvents toLowerCase body.provider now store events
    result.2 = events.all known ∧
      result.1.deliveries =
        (events.takeWhile known).foldl (updateDeliveries body.provider now) store.deliveries ∧
      result.1.suppressions = (events.takeWhile known ++ (events.dropWhile known).take 1).foldl
        (suppressEvent toLowerCase body.provider now) store.suppressions :=
  processEvents_eq body.parseEvents_raw

end

/-- Of two addresses that bounced, where their message has no record, the first is suppressed. -/
example :
    let bounce := SesEvent.bounce (some "Permanent")
      [⟨some "ada@example.org", none⟩, ⟨some "bob@example.org", none⟩] none
    let result := processEvents id "ses" 0 ⟨fun _ => none, [], fun _ => none⟩
      (parseSes ⟨some "m-1", [], bounce⟩)
    isSuppressed id result.1.suppressions (some "ada@example.org") = true ∧
      isSuppressed id result.1.suppressions (some "bob@example.org") = false := by decide +kernel

end StellarEduPay

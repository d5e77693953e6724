import Mathlib.Data.List.Perm.Subperm
import StellarEduPay.InboundWebhooks
import StellarEduPay.SnsEnvelopes

/-! # Webhooks of the e-mail providers (`controllers/emailWebhookController.js`)

Anybody can send a request.  In production one that is handed over for processing carries what a
provider signed, or the shared secret (`processed_authentic`).  The nonces are those of all inbound
webhooks.  They are kept for the texts of headers and fields and not for what is signed, so one signed
message is processed again for each other way to read it, but no more often than that while its nonces
last (`replayed_le`).

Cryptography, the certificates and the reading of URLs are parameters; that nobody else can sign is a
condition on runs.
-/
namespace StellarEduPay
open Runs Checks Function

/-! ## `services/email/webhookVerification.js` -/

structure SnsUrl where
  protocol : List Char
  username : List Char
  password : List Char
  hostname : List Char
  port : List Char
  pathname : List Char

inductive SnsAlgorithm
  | rsaSha1
  | rsaSha256
  deriving DecidableEq, Repr

/-- `new URL`, the SHA-256 digest and the two verifiers: with the algorithm, the certificate, the string
and the text of the signature, and with the key, the data and the signature. -/
structure EmailWebhookEnv where
  parseUrl : List Char → Option SnsUrl
  sha256 : String → List UInt8
  verifySns : SnsAlgorithm → List Char → List Char → List Char → Bool
  verifySendGrid : String → List UInt8 → List UInt8 → Bool

structure EmailWebhookConfig where
  production : Bool
  secret : Option String
  snsTopicArns : List (List Char)
  sendgridPublicKey : Option String
  toleranceSeconds : Int := 300
  nonceTtlSeconds : Nat := 86400

/-- `SNS_HOST_RE` -/
def isSnsHost (host : List Char) : Bool :=
  match host.dropPrefix? "sns.".toList with
  | none => false
  | some rest =>
    let isRegionChar (c : Char) : Bool := c.isLower || c.isDigit || c = '-'
    rest.takeWhile isRegionChar ≠ [] &&
      rest.dropWhile isRegionChar ∈ [".amazonaws.com".toList, ".amazonaws.com.cn".toList]

section
variable (env : EmailWebhookEnv) (cfg : EmailWebhookConfig)

/-- Both are hashed first. -/
def safeEqualSecret (provided : Option String) (expected : String) : Bool :=
  match provided with
  | none => false
  | some provided => expected ≠ "" && env.sha256 provided == env.sha256 expected

def isAllowedSnsUrl (rawUrl : Option SnsField) (requirePem : Bool) : Bool :=
  match rawUrl.bind fun v => env.parseUrl v.text with
  | none => false
  | some u =>
    u.protocol = "https:".toList && u.username = [] && u.password = [] &&
      (u.port = [] || u.port = "443".toList) && isSnsHost (u.hostname.map Char.toLower) &&
      (!requirePem || ".pem".toList.isSuffixOf u.pathname)

/-- The algorithm of a signature version. -/
def snsAlgorithm (msg : SnsMessage) : Option SnsAlgorithm :=
  let version := msg.signatureVersion.map SnsField.text
  if version = some ['1'] then some .rsaSha1
  else if version = some ['2'] then some .rsaSha256
  else none

/-- `cert` is what fetching the certificate, or the cache, gives. -/
def verifySnsMessage (msg : SnsMessage) (cert : Option (List Char)) : Except String Unit := do
  require (msg.signature.any SnsField.truthy && msg.signingCertURL.any SnsField.truthy)
    "UNSIGNED_SNS_MESSAGE"
  let algorithm ← orThrow (snsAlgorithm msg) "UNSUPPORTED_SNS_SIGNATURE_VERSION"
  require (isAllowedSnsUrl env msg.signingCertURL true) "INVALID_SNS_CERT_URL"
  let stringToSign ← orThrow msg.buildSnsStringToSign "MALFORMED_SNS_MESSAGE"
  let certPem ← orThrow cert "SNS_CERT_FETCH_FAILED"
  require (env.verifySns algorithm certPem stringToSign ((msg.signature.map SnsField.text).getD []))
    "INVALID_SNS_SIGNATURE"

/-- What SendGrid signs: the text of the timestamp and the body. -/
def sendGridData (timestamp : String) (rawBody : List UInt8) : List UInt8 :=
  utf8Buffer timestamp ++ rawBody

def verifySendGridSignature (publicKey : String) (signature timestamp : Option String)
    (rawBody : Option (List UInt8)) : Except String Unit := do
  let signature ← orThrow (truthy signature) "MISSING_SENDGRID_SIGNATURE"
  let timestamp ← orThrow (truthy timestamp) "MISSING_SENDGRID_SIGNATURE"
  let bodyBytes ← orThrow rawBody "MISSING_RAW_BODY"
  require (env.verifySendGrid publicKey (sendGridData timestamp bodyBytes)
    (base64Buffer signature.toList)) "INVALID_SENDGRID_SIGNATURE"

/-! ## The controller -/

inductive EmailProvider
  | ses
  | sendgrid
  | generic
  deriving DecidableEq, Repr

/-- `SUPPORTED_PROVIDERS` -/
def EmailProvider.ofParam : String → Option EmailProvider
  | "ses" => some .ses
  | "sendgrid" => some .sendgrid
  | "generic" => some .generic
  | _ => none

/-- A request; the body is the parsed one, `none` where it is no JSON. -/
structure EmailWebhookRequest where
  provider : String
  queryToken : Bool
  inboundWebhookVerified : Bool
  webhookToken : Option String
  sendgridSignature : Option String
  sendgridTimestamp : Option String
  rawBody : Option (List UInt8)
  body : Option SnsMessage
  deriving DecidableEq, Repr

/-- A response that ends a request before its events are processed. -/
inductive EmailWebhookResponse
  | failed (status : Nat) (error code : String) (reason : Option String)
  | confirmed
  | unsubscribed
  | duplicate
  deriving DecidableEq, Repr

/-- The status and the reason of `_reject`. -/
abbrev EmailRejection := Nat × String

def isWebhookAuthConfigured : Bool :=
  cfg.secret.isSome || !cfg.snsTopicArns.isEmpty || cfg.sendgridPublicKey.isSome

def withReason (status : Nat) (check : Except String Unit) : Except EmailRejection Unit :=
  check.mapError fun reason => (status, reason)

def isSnsEnvelope (body : SnsMessage) : Bool := (body.type.bind SnsField.asString).isSome

/-- The branch of `ses`; it gives the SNS message that was verified. -/
def authenticateSes (body : SnsMessage) (cert : Option (List Char)) (sharedSecretOk : Bool) :
    Except EmailRejection (Option SnsMessage) :=
  if isSnsEnvelope body &&
      (body.signature.any SnsField.truthy || cfg.production || !cfg.snsTopicArns.isEmpty) then do
    withReason 401 (verifySnsMessage env body cert)
    require (!(cfg.snsTopicArns.isEmpty && cfg.production)) (403, "SNS_TOPIC_ALLOWLIST_NOT_CONFIGURED")
    let allowed := cfg.snsTopicArns.any fun arn => body.topicArn = some (.string arn)
    require (cfg.snsTopicArns.isEmpty || allowed) (403, "SNS_TOPIC_NOT_ALLOWED")
    return some body
  else do
    require (!cfg.production) (401, "UNSIGNED_SNS_MESSAGE")
    require (sharedSecretOk || !isWebhookAuthConfigured cfg) (401, "UNAUTHENTICATED")
    return none

def authenticateSendGrid (req : EmailWebhookRequest) (sharedSecretOk : Bool) :
    Except EmailRejection Unit :=
  match cfg.sendgridPublicKey with
  | some publicKey => withReason 401
      (verifySendGridSignature env publicKey req.sendgridSignature req.sendgridTimestamp req.rawBody)
  | none => require (sharedSecretOk || (!cfg.production && !isWebhookAuthConfigured cfg))
      (401, if cfg.secret.isSome then "INVALID_SHARED_SECRET" else "UNAUTHENTICATED")

/-- A shared secret in the header, when sent, must be right. -/
def checkSharedSecret (req : EmailWebhookRequest) : Except EmailRejection Bool := do
  require (!cfg.production || isWebhookAuthConfigured cfg) (503, "EMAIL_WEBHOOK_NOT_CONFIGURED")
  let sharedSecretOk := cfg.secret.any fun secret => safeEqualSecret env req.webhookToken secret
  require (req.webhookToken.isNone || cfg.secret.isNone || sharedSecretOk) (401, "INVALID_SHARED_SECRET")
  return sharedSecretOk

def authenticateWebhook (req : EmailWebhookRequest) (provider : EmailProvider) (body : SnsMessage)
    (cert : Option (List Char)) : Except EmailRejection (Option SnsMessage) := do
  require (!req.queryToken) (400, "SECRET_IN_QUERY_STRING")
  match provider with
  | .generic => do
    require req.inboundWebhookVerified (401, "UNAUTHENTICATED")
    return none
  | .ses => do
    let sharedSecretOk ← checkSharedSecret env cfg req
    authenticateSes env cfg body cert sharedSecretOk
  | .sendgrid => do
    let sharedSecretOk ← checkSharedSecret env cfg req
    authenticateSendGrid env cfg req sharedSecretOk
    return none

def sesNonce (messageId : List Char) : String := "email:ses:" ++ String.ofList messageId

def sendgridNonce (timestamp signature : String) : String :=
  "email:sendgrid:" ++ hexText (env.sha256 (timestamp ++ "." ++ signature))

def signedRecently (now : Nat) (timestamp : String) : Bool :=
  (jsParseInt timestamp).any fun ts => (nowSeconds now - ts).natAbs ≤ cfg.toleranceSeconds

/-- The nonce that `checkReplay` stores, if the request has one. -/
def replayNonce (now : Nat) (req : EmailWebhookRequest) (provider : EmailProvider) (body : SnsMessage) :
    Except EmailRejection (Option String) :=
  match provider with
  | .ses => pure ((body.messageId.bind SnsField.asString).map sesNonce)
  | .generic => pure none
  | .sendgrid =>
    match truthy req.sendgridSignature, truthy req.sendgridTimestamp with
    | some signature, some timestamp => do
      require (signedRecently cfg now timestamp) (400, "TIMESTAMP_SKEW")
      return some (sendgridNonce env timestamp signature)
    | _, _ => pure none

/-- What a request that is handed over leaves in the collection, and whether its nonce was stored. -/
structure EmailAdmission where
  nonce : Option String
  nonces : InboundNonces
  recorded : Bool

/-- `InboundWebhookNonce.create`; where the store fails the request goes on. -/
def storeNonce (now : Nat) (nonces : InboundNonces) (storeUp : Bool) (nonce : Option String) :
    Except EmailWebhookResponse EmailAdmission :=
  match nonce with
  | none => pure ⟨none, nonces, false⟩
  | some n =>
    if !storeUp then pure ⟨some n, nonces, false⟩
    else if (nonces n).isSome then .error .duplicate
    else pure ⟨some n, update nonces n (some now), true⟩

/-- The messages by which SNS sets up and ends a subscription are answered at once. -/
def snsControl (sns : Option SnsMessage) (subscribed : Bool) : Except EmailWebhookResponse Unit :=
  match sns with
  | none => pure ()
  | some sns =>
    if sns.type = some (.string subscriptionConfirmation) then
      if !isAllowedSnsUrl env sns.subscribeURL false then
        .error (.failed 400 "Invalid SubscribeURL" "UNAUTHORIZED" (some "INVALID_SNS_SUBSCRIBE_URL"))
      else if subscribed then .error .confirmed
      else .error (.failed 502 "Subscription confirmation failed" "SNS_CONFIRMATION_FAILED" none)
    else if sns.type = some (.string unsubscribeConfirmation) then .error .unsubscribed
    else pure ()

/-- What the network and the database do for a request. -/
structure EmailWebhookWeather where
  cert : Option (List Char)
  subscribed : Bool
  storeUp : Bool
  deriving DecidableEq, Repr

/-- `handleWebhook` up to where the events are processed. -/
def admitWebhook (now : Nat) (nonces : InboundNonces) (weather : EmailWebhookWeather)
    (req : EmailWebhookRequest) : Except EmailWebhookResponse EmailAdmission := do
  let provider ← orThrow (EmailProvider.ofParam req.provider)
    (.failed 400 "Unsupported provider" "UNSUPPORTED_PROVIDER" none)
  let body ← orThrow req.body (.failed 400 "Invalid JSON payload" "INVALID_PAYLOAD" none)
  let sns ← (authenticateWebhook env cfg req provider body weather.cert).mapError fun r =>
    .failed r.1 "Webhook authentication failed"
      (if r.1 = 503 then "EMAIL_WEBHOOK_NOT_CONFIGURED" else "UNAUTHORIZED") (some r.2)
  snsControl env sns weather.subscribed
  let nonce ← (replayNonce env cfg now req provider body).mapError fun r =>
    .failed r.1 "Webhook replay check failed" "UNAUTHORIZED" (some r.2)
  storeNonce now nonces weather.storeUp nonce

end

/-! ## Requests that get through -/

section
variable {env : EmailWebhookEnv} {cfg : EmailWebhookConfig} {ε δ α : Type}

theorem mapError_ok_iff {f : ε → δ} {x : Except ε α} {r : α} :
    x.mapError f = .ok r ↔ x = .ok r := by
  cases x <;> simp [Except.mapError]

theorem verifySnsMessage_ok {msg : SnsMessage} {cert : Option (List Char)} {u : Unit}
    (h : verifySnsMessage env msg cert = .ok u) :
    isAllowedSnsUrl env msg.signingCertURL true = true ∧ ∃ algorithm stringToSign certPem,
      msg.buildSnsStringToSign = some stringToSign ∧ cert = some certPem ∧
      env.verifySns algorithm certPem stringToSign ((msg.signature.map SnsField.text).getD []) := by
  obtain ⟨-, h⟩ := require_bind_ok_iff.mp h
  obtain ⟨algorithm, -, h⟩ := orThrow_bind_ok_iff.mp h
  obtain ⟨hurl, h⟩ := require_bind_ok_iff.mp h
  obtain ⟨stringToSign, hstring, h⟩ := orThrow_bind_ok_iff.mp h
  obtain ⟨certPem, hcert, h⟩ := orThrow_bind_ok_iff.mp h
  exact ⟨hurl, algorithm, stringToSign, certPem, hstring, hcert, require_ok_iff.mp h⟩

theorem verifySendGridSignature_ok {publicKey : String} {signature timestamp : Option String}
    {rawBody : Option (List UInt8)} {u : Unit}
    (h : verifySendGridSignature env publicKey signature timestamp rawBody = .ok u) :
    ∃ sig ts bytes, truthy signature = some sig ∧ truthy timestamp = some ts ∧
      rawBody = some bytes ∧
      env.verifySendGrid publicKey (sendGridData ts bytes) (base64Buffer sig.toList) := by
  obtain ⟨sig, hsig, h⟩ := orThrow_bind_ok_iff.mp h
  obtain ⟨ts, hts, h⟩ := orThrow_bind_ok_iff.mp h
  obtain ⟨bytes, hbytes, h⟩ := orThrow_bind_ok_iff.mp h
  exact ⟨sig, ts, bytes, hsig, hts, hbytes, require_ok_iff.mp h⟩

/-- What the nonce of a request that got through is, and what became of it. -/
theorem storeNonce_ok {now : Nat} {nonces : InboundNonces} {storeUp : Bool} {nonce : Option String}
    {a : EmailAdmission} (h : storeNonce now nonces storeUp nonce = .ok a) :
    a.nonce = nonce ∧ (a.recorded = false ∧ a.nonces = nonces ∨
      ∃ n, nonce = some n ∧ nonces n = none ∧ a.recorded = true ∧
        a.nonces = update nonces n (some now)) := by
  unfold storeNonce at h
  split at h
  · obtain rfl := pure_ok_iff.mp h
    exact ⟨rfl, .inl ⟨rfl, rfl⟩⟩
  · rename_i n
    split_ifs at h with hdown hseen
    · obtain rfl := pure_ok_iff.mp h
      exact ⟨rfl, .inl ⟨rfl, rfl⟩⟩
    · obtain rfl := pure_ok_iff.mp h
      exact ⟨rfl, .inr ⟨n, rfl, by simpa using hseen, rfl, rfl⟩⟩

theorem admitWebhook_ok {now : Nat} {nonces : InboundNonces} {weather : EmailWebhookWeather}
    {req : EmailWebhookRequest} {a : EmailAdmission}
    (h : admitWebhook env cfg now nonces weather req = .ok a) :
    ∃ provider body sns nonce, EmailProvider.ofParam req.provider = some provider ∧
      req.body = some body ∧
      authenticateWebhook env cfg req provider body weather.cert = .ok sns ∧
      snsControl env sns weather.subscribed = .ok () ∧
      replayNonce env cfg now req provider body = .ok nonce ∧
      storeNonce now nonces weather.storeUp nonce = .ok a := by
  obtain ⟨provider, hprovider, h⟩ := orThrow_bind_ok_iff.mp h
  obtain ⟨body, hbody, h⟩ := orThrow_bind_ok_iff.mp h
  obtain ⟨sns, hsns, h⟩ := bind_ok_iff.mp h
  obtain ⟨⟨⟩, hcontrol, h⟩ := bind_ok_iff.mp h
  obtain ⟨nonce, hnonce, h⟩ := bind_ok_iff.mp h
  exact ⟨provider, body, sns, nonce, hprovider, hbody, mapError_ok_iff.mp hsns, hcontrol,
    mapError_ok_iff.mp hnonce, h⟩

/-- A message that goes past the control messages, of a type that is signed, is a notification. -/
theorem snsControl_ok {body : SnsMessage} {subscribed : Bool} {u : Unit}
    (h : snsControl env (some body) subscribed = .ok u) {out : List Char}
    (hout : body.buildSnsStringToSign = some out) : body.type = some (.string notification) := by
  obtain ⟨type, keys, htype, hkeys, -⟩ := SnsMessage.build_some hout
  by_contra hother
  have hne : type ≠ notification := fun heq => hother (heq ▸ htype)
  rw [snsKeys, if_neg hne] at hkeys
  obtain ⟨hcontrol, -⟩ := Option.ite_none_right_eq_some.mp hkeys
  simp only [snsControl, htype, Option.some.injEq, SnsField.string.injEq] at h
  split_ifs at h
  simp_all

/-- In production an SES event is an SNS message that was verified, of a topic that is allowed. -/
theorem authenticateSes_ok (hproduction : cfg.production = true) {body : SnsMessage}
    {cert : Option (List Char)} {sharedSecretOk : Bool} {sns : Option SnsMessage}
    (h : authenticateSes env cfg body cert sharedSecretOk = .ok sns) :
    sns = some body ∧ verifySnsMessage env body cert = .ok () ∧
      ∃ arn ∈ cfg.snsTopicArns, body.topicArn = some (.string arn) := by
  unfold authenticateSes at h
  split at h
  · obtain ⟨⟨⟩, hvalid, h⟩ := bind_ok_iff.mp h
    obtain ⟨hlisted, h⟩ := require_bind_ok_iff.mp h
    obtain ⟨hallowed, h⟩ := require_bind_ok_iff.mp h
    rw [hproduction, Bool.and_true, Bool.not_eq_true'] at hlisted
    rw [hlisted, Bool.false_or, List.any_eq_true] at hallowed
    obtain ⟨arn, harn, htopic⟩ := hallowed
    exact ⟨(pure_ok_iff.mp h).symm, mapError_ok_iff.mp hvalid, arn, harn, of_decide_eq_true htopic⟩
  · obtain ⟨hlocal, -⟩ := require_bind_ok_iff.mp h
    rw [hproduction] at hlocal
    cases hlocal

theorem authenticateSendGrid_ok (hproduction : cfg.production = true) {req : EmailWebhookRequest}
    {sharedSecretOk : Bool} {u : Unit}
    (h : authenticateSendGrid env cfg req sharedSecretOk = .ok u) :
    match cfg.sendgridPublicKey with
    | some publicKey => verifySendGridSignature env publicKey req.sendgridSignature
        req.sendgridTimestamp req.rawBody = .ok ()
    | none => sharedSecretOk = true := by
  unfold authenticateSendGrid at h
  split at h
  · exact mapError_ok_iff.mp h
  · simpa [hproduction] using require_ok_iff.mp h

theorem checkSharedSecret_ok {req : EmailWebhookRequest} {sharedSecretOk : Bool}
    (h : checkSharedSecret env cfg req = .ok sharedSecretOk) :
    sharedSecretOk = cfg.secret.any fun secret => safeEqualSecret env req.webhookToken secret := by
  obtain ⟨-, h⟩ := require_bind_ok_iff.mp h
  obtain ⟨-, h⟩ := require_bind_ok_iff.mp h
  exact (pure_ok_iff.mp h).symm

end

/-! ## Runs -/

/-- A request whose events were processed. -/
structure ProcessedEmail where
  provider : EmailProvider
  body : SnsMessage
  req : EmailWebhookRequest
  nonce : Option String
  recorded : Bool
  date : Nat

structure EmailWebhookSystem where
  clock : Nat
  nonces : InboundNonces
  snsSigned : List SnsMessage
  sendgridSigned : List (List UInt8)
  processed : List ProcessedEmail

/-- `signSns` is Amazon, for the topic of anybody; `inbound` stores the nonce of another webhook in the
same collection; `expire` is the TTL index at work. -/
inductive EmailWebhookAction
  | tick (ms : Nat)
  | signSns (msg : SnsMessage)
  | signSendGrid (timestamp : String) (rawBody : List UInt8)
  | request (req : EmailWebhookRequest) (weather : EmailWebhookWeather)
  | inbound (deliveryId : String)
  | expire (deliveryId : String)

/-- What Amazon signs has all the fields to sign, and the name of a topic has no line break. -/
def SnsMessage.signable (msg : SnsMessage) : Bool :=
  msg.buildSnsStringToSign.isSome && msg.topicArn.all fun v => '\n' ∉ v.text

/-- The data of a SendGrid signature, as the headers and the body of a request give it. -/
def EmailWebhookRequest.sendGridData (req : EmailWebhookRequest) : List UInt8 :=
  StellarEduPay.sendGridData (req.sendgridTimestamp.getD "") (req.rawBody.getD [])

namespace EmailWebhookSystem

def start : EmailWebhookSystem where
  clock := 0
  nonces := fun _ => none
  snsSigned := []
  sendgridSigned := []
  processed := []

section
variable (env : EmailWebhookEnv) (cfg : EmailWebhookConfig)

def step (s : EmailWebhookSystem) : EmailWebhookAction → Option EmailWebhookSystem
  | .tick ms => some { s with clock := s.clock + ms }
  | .signSns msg =>
    if msg.signable then some { s with snsSigned := msg :: s.snsSigned } else none
  | .signSendGrid timestamp rawBody =>
    some { s with sendgridSigned := sendGridData timestamp rawBody :: s.sendgridSigned }
  | .request req weather =>
    match EmailProvider.ofParam req.provider, req.body,
      admitWebhook env cfg s.clock s.nonces weather req with
    | some provider, some body, .ok a => some { s with
        nonces := a.nonces
        processed := ⟨provider, body, req, a.nonce, a.recorded, s.clock⟩ :: s.processed }
    | _, _, _ => some s
  | .inbound deliveryId =>
    match s.nonces deliveryId with
    | some _ => none
    | none => some { s with nonces := update s.nonces deliveryId (some s.clock) }
  | .expire deliveryId =>
    match s.nonces deliveryId with
    | none => none
    | some receivedAt =>
      if receivedAt + cfg.nonceTtlSeconds * 1000 ≤ s.clock then
        some { s with nonces := update s.nonces deliveryId none }
      else none

/-- Nobody but the providers can sign. -/
def ProvidersSign (s : EmailWebhookSystem) : EmailWebhookAction → Prop
  | .request req weather =>
    (∀ body ∈ req.body, verifySnsMessage env body weather.cert = .ok () →
      ∃ m ∈ s.snsSigned, m.buildSnsStringToSign = body.buildSnsStringToSign) ∧
    ∀ key ∈ cfg.sendgridPublicKey, verifySendGridSignature env key req.sendgridSignature
      req.sendgridTimestamp req.rawBody = .ok () → req.sendGridData ∈ s.sendgridSigned
  | _ => True

instance (s : EmailWebhookSystem) : ∀ action, Decidable (ProvidersSign env cfg s action)
  | .request .. => inferInstanceAs (Decidable (_ ∧ _))
  | .tick _ | .signSns _ | .signSendGrid .. | .inbound _ | .expire _ =>
    inferInstanceAs (Decidable True)

/-- What a processed request carries. -/
def Authentic (s : EmailWebhookSystem) (p : ProcessedEmail) : Prop :=
  match p.provider with
  | .ses => p.body.type = some (.string notification) ∧
    ∃ arn ∈ cfg.snsTopicArns, p.body.topicArn = some (.string arn) ∧
    ∃ m ∈ s.snsSigned, m.buildSnsStringToSign = p.body.buildSnsStringToSign ∧
      m.type = some (.string notification) ∧ m.topicArn.map SnsField.text = some arn
  | .sendgrid =>
    match cfg.sendgridPublicKey with
    | some _ => p.req.sendGridData ∈ s.sendgridSigned ∧
      signedRecently cfg p.date (p.req.sendgridTimestamp.getD "")
    | none => cfg.secret.any fun secret => safeEqualSecret env p.req.webhookToken secret
  | .generic => p.req.inboundWebhookVerified

end

variable {env : EmailWebhookEnv} {cfg : EmailWebhookConfig} {s t : EmailWebhookSystem}
  {req : EmailWebhookRequest} {weather : EmailWebhookWeather} {action : EmailWebhookAction}

/-- The one way in which the processed requests grow. -/
theorem step_request (h : step env cfg s (.request req weather) = some t) : t = s ∨
    ∃ provider body a, EmailProvider.ofParam req.provider = some provider ∧ req.body = some body ∧
      admitWebhook env cfg s.clock s.nonces weather req = .ok a ∧
      t = { s with
        nonces := a.nonces
        processed := ⟨provider, body, req, a.nonce, a.recorded, s.clock⟩ :: s.processed } := by
  rw [step] at h
  split at h
  · rename_i provider body a hprovider hbody haccept
    exact .inr ⟨provider, body, a, hprovider, hbody, haccept, (Option.some.inj h).symm⟩
  · exact .inl (Option.some.inj h).symm

/-! ## What is processed is authentic -/

theorem Authentic.mono {p : ProcessedEmail} (h : Authentic env cfg s p)
    (hsns : s.snsSigned ⊆ t.snsSigned) (hsendgrid : s.sendgridSigned ⊆ t.sendgridSigned) :
    Authentic env cfg t p := by
  unfold Authentic at h ⊢
  split at h
  · obtain ⟨htype, arn, harn, htopic, m, hm, hrest⟩ := h
    exact ⟨htype, arn, harn, htopic, m, hsns hm, hrest⟩
  · split at h
    · exact ⟨hsendgrid h.1, h.2⟩
    · exact h
  · exact h

/-- What a request has to carry to be processed in production. -/
theorem admitWebhook_authentic (hproduction : cfg.production = true)
    (htopics : ∀ arn ∈ cfg.snsTopicArns, '\n' ∉ arn)
    (hsigned : ∀ m ∈ s.snsSigned, m.signable = true)
    (hsign : ProvidersSign env cfg s (.request req weather)) {provider : EmailProvider}
    {body : SnsMessage} (hprovider : EmailProvider.ofParam req.provider = some provider)
    (hbody : req.body = some body) {a : EmailAdmission}
    (h : admitWebhook env cfg s.clock s.nonces weather req = .ok a) :
    Authentic env cfg s ⟨provider, body, req, a.nonce, a.recorded, s.clock⟩ := by
  obtain ⟨provider', body', sns, nonce, hprovider', hbody', hauth, hcontrol, hnonce, -⟩ :=
    admitWebhook_ok h
  obtain rfl := Option.some.inj (hprovider.symm.trans hprovider')
  obtain rfl := Option.some.inj (hbody.symm.trans hbody')
  obtain ⟨-, hauth⟩ := require_bind_ok_iff.mp hauth
  cases provider with
  | generic => exact (require_bind_ok_iff.mp hauth).1
  | ses =>
    obtain ⟨ok, -, hauth⟩ := bind_ok_iff.mp hauth
    obtain ⟨rfl, hvalid, arn, harn, htopic⟩ := authenticateSes_ok hproduction hauth
    obtain ⟨m, hm, hsame⟩ := hsign.1 body hbody hvalid
    obtain ⟨-, algorithm, out, certPem, hout, -⟩ := verifySnsMessage_ok hvalid
    have htype := snsControl_ok hcontrol hout
    rw [hout] at hsame
    obtain ⟨type, topic, -, -, hmtopic, -⟩ := SnsMessage.lines_tail hsame
    -- Neither topic has a line break, so both stand in one place of the string.
    have hmplain : '\n' ∉ topic.text := by
      have hm' := hsigned m hm
      rw [SnsMessage.signable, hmtopic, Bool.and_eq_true] at hm'
      simpa using hm'.2
    obtain ⟨htopics', htypes⟩ :=
      SnsMessage.buildSnsStringToSign_topic hmtopic htopic hmplain (htopics arn harn) hsame hout
    exact ⟨htype, arn, harn, htopic, m, hm, hsame.trans hout.symm, htypes.trans htype,
      by rw [hmtopic]; exact congrArg some htopics'⟩
  | sendgrid =>
    obtain ⟨ok, hok, hauth⟩ := bind_ok_iff.mp hauth
    obtain ⟨⟨⟩, hauth, -⟩ := bind_ok_iff.mp hauth
    have hvalid := authenticateSendGrid_ok hproduction hauth
    unfold Authentic
    cases hkey : cfg.sendgridPublicKey with
    | none =>
      rw [hkey] at hvalid
      exact (checkSharedSecret_ok hok).symm.trans hvalid
    | some key =>
      rw [hkey] at hvalid
      refine ⟨hsign.2 key hkey hvalid, ?_⟩
      obtain ⟨sig, ts, -, hsig, hts, -⟩ := verifySendGridSignature_ok hvalid
      rw [replayNonce, hsig, hts] at hnonce
      have hts' : req.sendgridTimestamp = some ts := (Option.filter_eq_some_iff.mp hts).1
      rw [hts']
      exact (require_bind_ok_iff.mp hnonce).1

structure AuthenticInv (env : EmailWebhookEnv) (cfg : EmailWebhookConfig) (s : EmailWebhookSystem) :
    Prop where
  signed : ∀ m ∈ s.snsSigned, m.signable = true
  processed : ∀ p ∈ s.processed, Authentic env cfg s p

theorem AuthenticInv.step_inv (hproduction : cfg.production = true)
    (htopics : ∀ arn ∈ cfg.snsTopicArns, '\n' ∉ arn) (hinv : AuthenticInv env cfg s)
    (hsign : ProvidersSign env cfg s action) (h : step env cfg s action = some t) :
    AuthenticInv env cfg t := by
  cases action with
  | tick ms =>
    obtain rfl := Option.some.inj h
    exact ⟨hinv.signed, hinv.processed⟩
  | signSns msg =>
    obtain ⟨hsignable, h⟩ := Option.ite_none_right_eq_some.mp h
    obtain rfl := Option.some.inj h
    exact ⟨List.forall_mem_cons.mpr ⟨hsignable, hinv.signed⟩, fun p hp =>
      (hinv.processed p hp).mono (List.subset_cons_self ..) (List.Subset.refl _)⟩
  | signSendGrid timestamp rawBody =>
    obtain rfl := Option.some.inj h
    exact ⟨hinv.signed, fun p hp =>
      (hinv.processed p hp).mono (List.Subset.refl _) (List.subset_cons_self ..)⟩
  | request req weather =>
    rcases step_request h with rfl | ⟨provider, body, a, hprovider, hbody, haccept, rfl⟩
    · exact hinv
    · exact ⟨hinv.signed, List.forall_mem_cons.mpr
        ⟨admitWebhook_authentic hproduction htopics hinv.signed hsign hprovider hbody haccept,
          hinv.processed⟩⟩
  | inbound deliveryId =>
    rw [step] at h
    split at h
    · cases h
    · obtain rfl := Option.some.inj h
      exact ⟨hinv.signed, hinv.processed⟩
  | expire deliveryId =>
    rw [step] at h
    split at h
    · cases h
    · obtain ⟨-, h⟩ := Option.ite_none_right_eq_some.mp h
      obtain rfl := Option.some.inj h
      exact ⟨hinv.signed, hinv.processed⟩

/-- In production every request that is processed carries what a provider signed for this
application, or the shared secret. -/
theorem processed_authentic (hproduction : cfg.production = true)
    (htopics : ∀ arn ∈ cfg.snsTopicArns, '\n' ∉ arn)
    (hreach : Reach (step env cfg) (ProvidersSign env cfg) start s) :
    ∀ p ∈ s.processed, Authentic env cfg s p := by
  have hinv : AuthenticInv env cfg s := hreach.invariant ⟨by simp [start], by simp [start]⟩
    fun hinv hsign h => hinv.step_inv hproduction htopics hsign h
  exact hinv.processed

/-! ## How often a message is processed -/

/-- The nonce of a request that got through. -/
theorem admitWebhook_nonce {provider : EmailProvider} {body : SnsMessage} {a : EmailAdmission}
    (hprovider : EmailProvider.ofParam req.provider = some provider) (hbody : req.body = some body)
    (h : admitWebhook env cfg s.clock s.nonces weather req = .ok a) :
    (provider = .ses → a.nonce = (body.messageId.bind SnsField.asString).map sesNonce) ∧
      (a.recorded = false ∧ a.nonces = s.nonces ∨
        ∃ n, a.nonce = some n ∧ s.nonces n = none ∧ a.recorded = true ∧
          a.nonces = update s.nonces n (some s.clock)) := by
  obtain ⟨provider', body', sns, nonce, hprovider', hbody', -, -, hnonce, hstore⟩ := admitWebhook_ok h
  obtain rfl := Option.some.inj (hprovider.symm.trans hprovider')
  obtain rfl := Option.some.inj (hbody.symm.trans hbody')
  obtain ⟨hsame, hkept⟩ := storeNonce_ok hstore
  rw [hsame]
  refine ⟨fun hses => ?_, hkept⟩
  rw [hses] at hnonce
  exact (pure_ok_iff.mp hnonce).symm

/-- One processing is told from another of the same nonce by the time the nonce was kept. -/
structure NonceInv (cfg : EmailWebhookConfig) (s : EmailWebhookSystem) : Prop where
  past : ∀ p ∈ s.processed, p.date ≤ s.clock
  kept : ∀ p ∈ s.processed, p.recorded = true → ∀ n, p.nonce = some n →
    match s.nonces n with
    | some receivedAt => p.date ≤ receivedAt
    | none => p.date + cfg.nonceTtlSeconds * 1000 ≤ s.clock
  spaced : s.processed.Pairwise fun later earlier => later.recorded = true → earlier.recorded = true →
    ∀ n, later.nonce = some n → earlier.nonce = some n →
      earlier.date + cfg.nonceTtlSeconds * 1000 ≤ later.date
  ses : ∀ p ∈ s.processed, p.provider = .ses → p.recorded = true →
    ∃ id, p.body.messageId = some (.string id) ∧ p.nonce = some (sesNonce id)

theorem NonceInv.request_inv (hinv : NonceInv cfg s) {provider : EmailProvider} {body : SnsMessage}
    {a : EmailAdmission} (hprovider : EmailProvider.ofParam req.provider = some provider)
    (hbody : req.body = some body)
    (haccept : admitWebhook env cfg s.clock s.nonces weather req = .ok a) :
    NonceInv cfg { s with
      nonces := a.nonces
      processed := ⟨provider, body, req, a.nonce, a.recorded, s.clock⟩ :: s.processed } := by
  obtain ⟨hses, hkept⟩ := admitWebhook_nonce hprovider hbody haccept
  have hpast : ∀ p ∈ (⟨provider, body, req, a.nonce, a.recorded, s.clock⟩ : ProcessedEmail) ::
      s.processed, p.date ≤ s.clock := List.forall_mem_cons.mpr ⟨Nat.le_refl _, hinv.past⟩
  rcases hkept with ⟨hunrecorded, hnonces⟩ | ⟨n, hn, hnew, hrecorded, hnonces⟩
  · rw [hunrecorded] at hpast ⊢
    rw [hnonces]
    exact ⟨hpast, List.forall_mem_cons.mpr ⟨fun h => (nomatch h), hinv.kept⟩,
      List.pairwise_cons.mpr ⟨fun _ _ h => (nomatch h), hinv.spaced⟩,
      List.forall_mem_cons.mpr ⟨fun _ h => (nomatch h), hinv.ses⟩⟩
  · rw [hnonces]
    refine ⟨hpast, List.forall_mem_cons.mpr ⟨fun _ n' hn' => ?_, fun p hp hp' n' hn' => ?_⟩,
      List.pairwise_cons.mpr ⟨fun p hp _ hp' n' hn' hpn => ?_, hinv.spaced⟩,
      List.forall_mem_cons.mpr ⟨fun hprov _ => ?_, hinv.ses⟩⟩
    · obtain rfl := Option.some.inj (hn.symm.trans hn')
      simp
    · by_cases hsame : n' = n
      · subst hsame
        simpa using hinv.past p hp
      · simpa [update_of_ne hsame] using hinv.kept p hp hp' n' hn'
    · -- The earlier one's nonce is gone, so it has expired.
      obtain rfl := Option.some.inj (hn.symm.trans hn')
      have hexpired := hinv.kept p hp hp' n hpn
      rw [hnew] at hexpired
      exact hexpired
    · rw [hses hprov] at hn
      obtain ⟨id, hid, -⟩ := Option.map_eq_some_iff.mp hn
      obtain ⟨field, hfield, hstring⟩ := Option.bind_eq_some_iff.mp hid
      cases field with
      | other _ _ => cases hstring
      | string text =>
        refine ⟨text, hfield, ?_⟩
        rw [hses hprov, hfield]
        rfl

theorem NonceInv.step_inv (hinv : NonceInv cfg s) (h : step env cfg s action = some t) :
    NonceInv cfg t := by
  cases action with
  | tick ms =>
    obtain rfl := Option.some.inj h
    refine ⟨fun p hp => Nat.le_add_right_of_le (hinv.past p hp), fun p hp hrecorded n hn => ?_,
      hinv.spaced, hinv.ses⟩
    have hkept := hinv.kept p hp hrecorded n hn
    dsimp only
    split at hkept
    · exact hkept
    · omega
  | signSns msg =>
    obtain ⟨-, h⟩ := Option.ite_none_right_eq_some.mp h
    obtain rfl := Option.some.inj h
    exact ⟨hinv.past, hinv.kept, hinv.spaced, hinv.ses⟩
  | signSendGrid timestamp rawBody =>
    obtain rfl := Option.some.inj h
    exact ⟨hinv.past, hinv.kept, hinv.spaced, hinv.ses⟩
  | request req weather =>
    rcases step_request h with rfl | ⟨provider, body, a, hprovider, hbody, haccept, rfl⟩
    · exact hinv
    · exact hinv.request_inv hprovider hbody haccept
  | inbound deliveryId =>
    rw [step] at h
    split at h
    · cases h
    · obtain rfl := Option.some.inj h
      refine ⟨hinv.past, fun p hp hrecorded n hn => ?_, hinv.spaced, hinv.ses⟩
      by_cases hsame : n = deliveryId
      · subst hsame
        simpa using hinv.past p hp
      · simpa [update_of_ne hsame] using hinv.kept p hp hrecorded n hn
  | expire deliveryId =>
    rw [step] at h
    split at h
    · cases h
    · rename_i receivedAt hreceived
      obtain ⟨hexpired, h⟩ := Option.ite_none_right_eq_some.mp h
      obtain rfl := Option.some.inj h
      refine ⟨hinv.past, fun p hp hrecorded n hn => ?_, hinv.spaced, hinv.ses⟩
      have hkept := hinv.kept p hp hrecorded n hn
      by_cases hsame : n = deliveryId
      · subst hsame
        rw [hreceived] at hkept
        simp only [update_self]
        omega
      · simpa [update_of_ne hsame] using hkept

theorem nonceInv_of_reach (hreach : Reach (step env cfg) Free start s) : NonceInv cfg s :=
  hreach.invariant
    ⟨by simp [start], by simp [start], by simp [start], by simp [start]⟩
    fun hinv _ h => hinv.step_inv h

/-- The id of a message that shares the string of a plain one. -/
theorem id_mem_readings {msg msg' : SnsMessage} (hmsg : msg.Plain)
    (hcomplete : msg.buildSnsStringToSign.isSome)
    (hsame : msg'.buildSnsStringToSign = msg.buildSnsStringToSign) {id : List Char}
    (hid : msg'.messageId = some (.string id)) : id ∈ msg.idReadings := by
  obtain ⟨-, hsame | ⟨id₀, subject, hid₀, hsubject, hsame⟩⟩ :=
    (SnsMessage.buildSnsStringToSign_eq_iff hmsg hcomplete msg').mp hsame
  · have htexts := hsame.messageId
    rw [hid] at htexts
    exact SnsMessage.mem_idReadings (.string id) (.inl htexts.symm)
  · have htexts := hsame.messageId
    rw [hid] at htexts
    exact SnsMessage.mem_idReadings (.string id)
      (.inr ⟨id₀, subject, hid₀, hsubject, Option.some.inj htexts⟩)

/-- A processing of what `msg` was signed with, whose nonce was stored, in the time that a nonce of the
date `first` lasts. -/
def Replays (cfg : EmailWebhookConfig) (msg : SnsMessage) (first : Nat) (p : ProcessedEmail) : Bool :=
  p.provider = .ses && p.recorded && p.body.buildSnsStringToSign = msg.buildSnsStringToSign &&
    first ≤ p.date && p.date < first + cfg.nonceTtlSeconds * 1000

/-- A message of plain fields that was signed once is processed at most once while its nonce lasts, or
twice if it has a subject. -/
theorem replayed_le (hreach : Reach (step env cfg) Free start s) {msg : SnsMessage} (hmsg : msg.Plain)
    (hcomplete : msg.buildSnsStringToSign.isSome) (first : Nat) :
    s.processed.countP (Replays cfg msg first) ≤ if msg.subject.isSome then 2 else 1 := by
  have hinv := nonceInv_of_reach hreach
  have hreplay {p : ProcessedEmail} (hp : p ∈ s.processed.filter (Replays cfg msg first)) :
      p.recorded = true ∧ first ≤ p.date ∧ p.date < first + cfg.nonceTtlSeconds * 1000 ∧
        ∃ id ∈ msg.idReadings, p.nonce = some (sesNonce id) := by
    obtain ⟨hmem, hp⟩ := List.mem_filter.mp hp
    simp only [Replays, Bool.and_eq_true, decide_eq_true_eq] at hp
    obtain ⟨⟨⟨⟨hses, hrecorded⟩, hsame⟩, hfirst⟩, hlast⟩ := hp
    obtain ⟨id, hid, hnonce⟩ := hinv.ses p hmem hses hrecorded
    exact ⟨hrecorded, hfirst, hlast, id, id_mem_readings hmsg hcomplete hsame hid, hnonce⟩
  -- In so short a time no nonce comes twice.
  have hdistinct : ((s.processed.filter (Replays cfg msg first)).map ProcessedEmail.nonce).Nodup := by
    refine List.pairwise_map.mpr ((hinv.spaced.filter _).imp_of_mem ?_)
    intro later earlier hlater hearlier hspaced heq
    obtain ⟨hrecorded, -, hbefore, id, -, hid⟩ := hreplay hlater
    obtain ⟨hrecorded', hafter, -⟩ := hreplay hearlier
    have hgap := hspaced hrecorded hrecorded' _ hid (heq ▸ hid)
    omega
  have hreadings : (s.processed.filter (Replays cfg msg first)).map ProcessedEmail.nonce ⊆
      msg.idReadings.map fun id => some (sesNonce id) := by
    intro nonce hnonce
    obtain ⟨p, hp, rfl⟩ := List.mem_map.mp hnonce
    obtain ⟨-, -, -, id, hid, hpid⟩ := hreplay hp
    exact List.mem_map.mpr ⟨id, hid, hpid.symm⟩
  have hle := (hdistinct.subperm hreadings).length_le
  rw [List.length_map, List.length_map, ← List.countP_eq_length_filter] at hle
  exact hle.trans msg.idReadings_length_le

/-! ## A bounce sent twice -/

/-- Signatures are the text of what is signed, and every URL is one of Amazon. -/
def bounceEnv : EmailWebhookEnv where
  parseUrl _ :=
    some ⟨"https:".toList, [], [], "sns.eu-west-1.amazonaws.com".toList, [], "/cert.pem".toList⟩
  sha256 := utf8Buffer
  verifySns _ _ stringToSign signature := stringToSign == signature
  verifySendGrid _ data signature := data == signature

def bounceConfig : EmailWebhookConfig where
  production := true
  secret := none
  snsTopicArns := ["arn:aws:sns:mail".toList]
  sendgridPublicKey := none

def signedBounce : SnsMessage :=
  { SnsMessage.bounce with
    signature := (SnsMessage.bounce.buildSnsStringToSign).map .string
    signatureVersion := some (.string ['1'])
    signingCertURL := some (.string "cert".toList) }

/-- The same with the subject in the id. -/
def foldedBounce : SnsMessage :=
  signedBounce.foldSubject (.string "m-1".toList) (.string "Email".toList)

def bounceRequest (msg : SnsMessage) : EmailWebhookAction :=
  .request ⟨"ses", false, false, none, none, none, none, some msg⟩ ⟨some [], true, true⟩

def bounceRun : List EmailWebhookAction :=
  [.signSns SnsMessage.bounce, bounceRequest signedBounce, .tick 1000, bounceRequest signedBounce,
    bounceRequest foldedBounce]

theorem replayed_le_bounce :
    let s := (exec (step bounceEnv bounceConfig) start bounceRun).get (by decide +kernel)
    s.processed.length = 2 ∧
      s.processed.countP (Replays bounceConfig SnsMessage.bounce 0) ≤
        if SnsMessage.bounce.subject.isSome then 2 else 1 :=
  ⟨by decide +kernel,
    replayed_le (reach_get (by decide +kernel)) SnsMessage.bounce_plain (by decide) 0⟩

theorem processed_authentic_bounce :
    let s := (execOk (step bounceEnv bounceConfig) (ProvidersSign bounceEnv bounceConfig) start
      bounceRun).get (by decide +kernel)
    s.processed ≠ [] ∧ ∀ p ∈ s.processed, Authentic bounceEnv bounceConfig s p :=
  ⟨by decide +kernel, processed_authentic rfl (by decide) (.getOk (by decide +kernel))⟩

end EmailWebhookSystem

end StellarEduPay

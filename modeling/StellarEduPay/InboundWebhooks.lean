import Mathlib.Logic.Function.Basic
import StellarEduPay.BufferText
import StellarEduPay.Checks
import StellarEduPay.Runs

/-! # Inbound webhooks (`middleware/validateInboundWebhook.js`)

A request passes three checks: its timestamp header is near the clock, its signature is the
HMAC of the body, and its delivery id, if it has one, was not seen before.  The signature
covers the body and neither header, so whoever observed a delivery may send the body again
under any timestamp and any delivery id.

The hash function is a parameter; that nobody but the sender can compute it is a condition on
runs.
-/
namespace StellarEduPay
open Runs Checks Function

/-! ## The middleware -/

/-- The environment of the middleware and of the nonce model. -/
structure InboundConfig where
  secret : String
  toleranceSeconds : Int := 300
  nonceTtlSeconds : Nat := 86400
  hmac : String → List UInt8 → List UInt8

/-- The headers the middleware reads, and the raw body. -/
structure InboundRequest where
  signature : Option String
  timestamp : Option String
  deliveryId : Option String
  rawBody : List UInt8
  deriving DecidableEq, Repr

/-- The response that ends a request. -/
structure InboundRejection where
  status : Nat
  error : String
  code : String
  deriving DecidableEq, Repr

/-- The nonce collection: when each delivery id was received, in milliseconds. -/
abbrev InboundNonces := String → Option Nat

def verifySignature (hmac : String → List UInt8 → List UInt8) (rawBody : List UInt8)
    (signatureHeader : Option String) (secret : String) : Bool :=
  match truthy signatureHeader with
  | none => false
  | some header =>
    let hex := if header.startsWith "sha256=" then (header.toList.drop 7) else header.toList
    secret ≠ "" && hexBuffer hex == hmac secret rawBody

/-- The clock of the middleware, in seconds. -/
def nowSeconds (ms : Nat) : Int := (ms / 1000 : Nat)

/-- The timestamp skew check; a timestamp that is not a number fails it. -/
def timely (cfg : InboundConfig) (ms : Nat) (timestampHeader : String) : Bool :=
  match jsParseInt timestampHeader with
  | none => false
  | some ts => (nowSeconds ms - ts).natAbs ≤ cfg.toleranceSeconds

/-- `validateInboundWebhook`: the nonces stored when the request goes on to its handler. -/
def validateInboundWebhook (cfg : InboundConfig) (ms : Nat) (nonces : InboundNonces)
    (req : InboundRequest) : Except InboundRejection InboundNonces := do
  let timestampHeader ← orThrow (truthy req.timestamp)
    ⟨400, "Missing X-StellarEduPay-Timestamp", "MISSING_TIMESTAMP"⟩
  require (timely cfg ms timestampHeader)
    ⟨400, "Timestamp outside acceptable window", "TIMESTAMP_SKEW"⟩
  require (cfg.secret == "" || verifySignature cfg.hmac req.rawBody req.signature cfg.secret)
    ⟨401, "Invalid webhook signature", "INVALID_SIGNATURE"⟩
  match truthy req.deliveryId with
  | none => pure nonces
  | some deliveryId =>
    require (nonces deliveryId).isNone
      ⟨409, "Duplicate delivery — already processed", "DUPLICATE_DELIVERY"⟩
    pure (update nonces deliveryId (some ms))

/-- What a request that got through had to show. -/
theorem validateInboundWebhook_ok {cfg : InboundConfig} {ms : Nat} {nonces nonces' : InboundNonces}
    {req : InboundRequest} (h : validateInboundWebhook cfg ms nonces req = .ok nonces') :
    (∃ header, req.timestamp = some header ∧ timely cfg ms header = true) ∧
    (cfg.secret ≠ "" → verifySignature cfg.hmac req.rawBody req.signature cfg.secret = true) ∧
    (truthy req.deliveryId = none ∧ nonces' = nonces ∨
      ∃ id, truthy req.deliveryId = some id ∧ nonces id = none ∧
        nonces' = update nonces id (some ms)) := by
  unfold validateInboundWebhook at h
  obtain ⟨header, hheader, h⟩ := orThrow_bind_ok_iff.mp h
  obtain ⟨htimely, h⟩ := require_bind_ok_iff.mp h
  obtain ⟨hsigned, h⟩ := require_bind_ok_iff.mp h
  refine ⟨⟨header, (Option.filter_eq_some_iff.mp hheader).1, htimely⟩, fun hsecret => ?_, ?_⟩
  · simpa [hsecret] using hsigned
  · cases hid : truthy req.deliveryId with
    | none =>
      rw [hid] at h
      exact Or.inl ⟨rfl, (pure_ok_iff.mp h).symm⟩
    | some id =>
      rw [hid] at h
      obtain ⟨hnew, h⟩ := require_bind_ok_iff.mp h
      exact Or.inr ⟨id, rfl, by simpa using hnew, (pure_ok_iff.mp h).symm⟩

/-! ## Senders and attackers -/

/-- A delivery as the sender made it: it signs the body and sends the second it did so, and an
id of its own, in the headers. -/
structure SignedDelivery where
  rawBody : List UInt8
  timestamp : Int
  deliveryId : String
  deriving DecidableEq, Repr

/-- A body the middleware let through, and when. -/
structure PassedWebhook where
  rawBody : List UInt8
  second : Int
  deriving DecidableEq, Repr

structure InboundSystem where
  clock : Nat
  nonces : InboundNonces
  signed : List SignedDelivery
  passed : List PassedWebhook

/-- `request` is anybody's, the sender's own transmission included; `expire` is the TTL index
at work. -/
inductive InboundAction
  | tick (ms : Nat)
  | sign (rawBody : List UInt8) (deliveryId : String)
  | request (req : InboundRequest)
  | expire (deliveryId : String)
  deriving DecidableEq, Repr

def InboundSystem.start : InboundSystem where
  clock := 0
  nonces := fun _ => none
  signed := []
  passed := []

/-- A delivery has a body of its own and a fresh random id. -/
def newDelivery (s : InboundSystem) (rawBody : List UInt8) (deliveryId : String) : Prop :=
  (∀ d ∈ s.signed, d.rawBody ≠ rawBody) ∧ deliveryId ≠ "" ∧ s.nonces deliveryId = none

instance (s : InboundSystem) (rawBody : List UInt8) (deliveryId : String) :
    Decidable (newDelivery s rawBody deliveryId) :=
  inferInstanceAs (Decidable (_ ∧ _ ∧ _))

def inboundStep (cfg : InboundConfig) (s : InboundSystem) : InboundAction → Option InboundSystem
  | .tick ms => some { s with clock := s.clock + ms }
  | .sign rawBody deliveryId =>
    if newDelivery s rawBody deliveryId then
      some { s with signed := ⟨rawBody, nowSeconds s.clock, deliveryId⟩ :: s.signed }
    else none
  | .request req =>
    match validateInboundWebhook cfg s.clock s.nonces req with
    | .error _ => some s
    | .ok nonces => some { s with
        nonces := nonces
        passed := ⟨req.rawBody, nowSeconds s.clock⟩ :: s.passed }
  | .expire deliveryId =>
    match s.nonces deliveryId with
    | none => none
    | some receivedAt =>
      if receivedAt + cfg.nonceTtlSeconds * 1000 ≤ s.clock then
        some { s with nonces := update s.nonces deliveryId none }
      else none

/-- Nobody but the sender can sign: a signature that verifies is on a body it has signed. -/
def Unforgeable (cfg : InboundConfig) (s : InboundSystem) : InboundAction → Prop
  | .request req =>
    verifySignature cfg.hmac req.rawBody req.signature cfg.secret = true →
      ∃ d ∈ s.signed, d.rawBody = req.rawBody
  | _ => True

/-- The first two checks. -/
def InboundRequest.authentic (cfg : InboundConfig) (ms : Nat) (req : InboundRequest) : Bool :=
  req.timestamp.any (timely cfg ms) &&
    verifySignature cfg.hmac req.rawBody req.signature cfg.secret

/-- A request that passes the first two checks carries the timestamp and the delivery id the
sender sent with the body. -/
def HeadersBound (cfg : InboundConfig) (s : InboundSystem) : InboundAction → Prop
  | .request req =>
    req.authentic cfg s.clock = true → ∀ d ∈ s.signed, d.rawBody = req.rawBody →
      req.timestamp.bind jsParseInt = some d.timestamp ∧ req.deliveryId = some d.deliveryId
  | _ => True

instance (cfg : InboundConfig) (s : InboundSystem) :
    ∀ a, Decidable (Unforgeable cfg s a)
  | .request _ => inferInstanceAs (Decidable (_ → _))
  | .tick _ | .sign .. | .expire _ => inferInstanceAs (Decidable True)

instance (cfg : InboundConfig) (s : InboundSystem) :
    ∀ a, Decidable (HeadersBound cfg s a)
  | .request _ => inferInstanceAs (Decidable (_ → _))
  | .tick _ | .sign .. | .expire _ => inferInstanceAs (Decidable True)

/-- **Replay protection**: every signed body got through at most once, and only within the
tolerance of the second it was signed in. -/
def ReplaySafe (cfg : InboundConfig) (s : InboundSystem) : Prop :=
  ∀ d ∈ s.signed, s.passed.countP (·.rawBody = d.rawBody) ≤ 1 ∧
    ∀ p ∈ s.passed, p.rawBody = d.rawBody →
      (p.second - d.timestamp).natAbs ≤ cfg.toleranceSeconds

instance (cfg : InboundConfig) (s : InboundSystem) : Decidable (ReplaySafe cfg s) :=
  inferInstanceAs (Decidable (∀ d ∈ s.signed, _))

/-! ## Runs in which the headers are bound -/

/-- What keeps a second copy out: a body that got through has its nonce, or its window is
over; and a nonce is no older than the delivery it belongs to. -/
structure InboundInv (cfg : InboundConfig) (s : InboundSystem) : Prop where
  safe : ReplaySafe cfg s
  known : ∀ p ∈ s.passed, ∃ d ∈ s.signed, d.rawBody = p.rawBody
  recorded : ∀ d ∈ s.signed, ∀ p ∈ s.passed, p.rawBody = d.rawBody →
    s.nonces d.deliveryId ≠ none ∨ d.timestamp + cfg.toleranceSeconds < nowSeconds s.clock
  received : ∀ d ∈ s.signed, ∀ ms, s.nonces d.deliveryId = some ms → d.timestamp ≤ nowSeconds ms
  past : ∀ d ∈ s.signed, d.timestamp ≤ nowSeconds s.clock
  named : ∀ d ∈ s.signed, d.deliveryId ≠ ""

section Step
variable {cfg : InboundConfig} {s t : InboundSystem}

theorem nowSeconds_mono {a b : Nat} (h : a ≤ b) : nowSeconds a ≤ nowSeconds b := by
  unfold nowSeconds
  omega

theorem InboundInv.tick_step (h : InboundInv cfg s) (ms : Nat) :
    InboundInv cfg { s with clock := s.clock + ms } := by
  have hclock : nowSeconds s.clock ≤ nowSeconds (s.clock + ms) := nowSeconds_mono (by omega)
  refine ⟨h.safe, h.known, fun d hd p hp hbody => ?_, h.received, fun d hd => ?_, h.named⟩
  · rcases h.recorded d hd p hp hbody with hnonce | hover
    · exact Or.inl hnonce
    · exact Or.inr (by dsimp only; omega)
  · have hpast := h.past d hd
    dsimp only
    omega

theorem InboundInv.sign_step (h : InboundInv cfg s) {rawBody : List UInt8} {deliveryId : String}
    (hnew : newDelivery s rawBody deliveryId) :
    InboundInv cfg { s with signed := ⟨rawBody, nowSeconds s.clock, deliveryId⟩ :: s.signed } := by
  obtain ⟨hbody, hid, hnonce⟩ := hnew
  -- nothing with this body can have got through before it was signed
  have hunseen : ∀ p ∈ s.passed, p.rawBody ≠ rawBody := by
    rintro p hp rfl
    obtain ⟨d, hd, hsame⟩ := h.known p hp
    exact hbody d hd hsame
  refine ⟨?_, fun p hp => ?_, ?_, ?_, ?_, ?_⟩
  · refine List.forall_mem_cons.mpr ⟨⟨?_, fun p hp hsame => absurd hsame (hunseen p hp)⟩, h.safe⟩
    rw [List.countP_eq_zero.mpr fun p hp => by simpa using hunseen p hp]
    omega
  · obtain ⟨d, hd, hsame⟩ := h.known p hp
    exact ⟨d, List.mem_cons_of_mem _ hd, hsame⟩
  · exact List.forall_mem_cons.mpr ⟨fun p hp hsame => absurd hsame (hunseen p hp), h.recorded⟩
  · refine List.forall_mem_cons.mpr ⟨fun ms hms => ?_, h.received⟩
    rw [hnonce] at hms
    cases hms
  · exact List.forall_mem_cons.mpr ⟨Int.le_refl _, h.past⟩
  · exact List.forall_mem_cons.mpr ⟨hid, h.named⟩

/-- A nonce that expires belongs to a delivery whose window is over. -/
theorem InboundInv.expire_step (h : InboundInv cfg s)
    (httl : cfg.toleranceSeconds < cfg.nonceTtlSeconds) {deliveryId : String} {receivedAt : Nat}
    (hnonce : s.nonces deliveryId = some receivedAt)
    (hexpired : receivedAt + cfg.nonceTtlSeconds * 1000 ≤ s.clock) :
    InboundInv cfg { s with nonces := update s.nonces deliveryId none } := by
  refine ⟨h.safe, h.known, fun d hd p hp hbody => ?_, fun d hd ms hms => ?_, h.past, h.named⟩
  · by_cases hid : d.deliveryId = deliveryId
    · have hreceived := h.received d hd receivedAt (hid ▸ hnonce)
      refine Or.inr ?_
      simp only [nowSeconds] at hreceived ⊢
      omega
    · dsimp only
      rw [update_of_ne hid]
      exact h.recorded d hd p hp hbody
  · exact h.received d hd ms (update_none_iff.mp hms).2

/-- The request that gets through is the first with its body. -/
theorem InboundInv.request_step (h : InboundInv cfg s) (hsecret : cfg.secret ≠ "")
    {req : InboundRequest} (hforge : Unforgeable cfg s (.request req))
    (hbound : HeadersBound cfg s (.request req)) {nonces : InboundNonces}
    (hok : validateInboundWebhook cfg s.clock s.nonces req = .ok nonces) :
    InboundInv cfg { s with
      nonces := nonces
      passed := ⟨req.rawBody, nowSeconds s.clock⟩ :: s.passed } := by
  obtain ⟨⟨header, hheader, htimely⟩, hverified, hnonce⟩ := validateInboundWebhook_ok hok
  have hauthentic : req.authentic cfg s.clock = true := by
    simp [InboundRequest.authentic, hheader, htimely, hverified hsecret]
  obtain ⟨d₀, hd₀, hbody₀⟩ := hforge (hverified hsecret)
  obtain ⟨-, hid₀⟩ := hbound hauthentic d₀ hd₀ hbody₀
  have hid : truthy req.deliveryId = some d₀.deliveryId := by
    simp [truthy, hid₀, Option.filter, h.named d₀ hd₀]
  obtain ⟨hfresh, rfl⟩ : s.nonces d₀.deliveryId = none ∧
      nonces = update s.nonces d₀.deliveryId (some s.clock) := by
    rcases hnonce with ⟨hnone, -⟩ | ⟨id, hsome, hfresh, rfl⟩
    · rw [hid] at hnone
      cases hnone
    · obtain rfl := Option.some.inj (hid.symm.trans hsome)
      exact ⟨hfresh, rfl⟩
  have htime : ∀ d ∈ s.signed, d.rawBody = req.rawBody →
      (nowSeconds s.clock - d.timestamp).natAbs ≤ cfg.toleranceSeconds := by
    intro d hd hbody
    obtain ⟨hts, -⟩ := hbound hauthentic d hd hbody
    rw [hheader, Option.bind_some] at hts
    simpa [timely, hts] using htimely
  have hfirst : ∀ d ∈ s.signed, d.rawBody = req.rawBody → ∀ p ∈ s.passed, p.rawBody ≠ d.rawBody := by
    intro d hd hbody p hp hsame
    have hidd : some d.deliveryId = some d₀.deliveryId :=
      (hbound hauthentic d hd hbody).2.symm.trans hid₀
    have hclose := htime d hd hbody
    rcases h.recorded d hd p hp hsame with hstored | hover
    · rw [Option.some.inj hidd] at hstored
      exact hstored hfresh
    · omega
  refine ⟨fun d hd => ?_, ?_, fun d hd p hp hbody => ?_, fun d hd ms hms => ?_, h.past, h.named⟩
  · obtain ⟨honce, hontime⟩ := h.safe d hd
    by_cases hbody : d.rawBody = req.rawBody
    · refine ⟨?_, List.forall_mem_cons.mpr ⟨fun _ => htime d hd hbody, hontime⟩⟩
      rw [List.countP_cons, List.countP_eq_zero.mpr fun p hp => by simpa using hfirst d hd hbody p hp]
      split <;> omega
    · refine ⟨?_, List.forall_mem_cons.mpr ⟨fun hsame => absurd hsame.symm hbody, hontime⟩⟩
      rw [List.countP_cons_of_neg (by simpa using fun h => hbody h.symm)]
      exact honce
  · refine List.forall_mem_cons.mpr ⟨⟨d₀, hd₀, hbody₀⟩, h.known⟩
  · by_cases hid : d.deliveryId = d₀.deliveryId
    · exact Or.inl (by simp [hid])
    · dsimp only
      rw [update_of_ne hid]
      rcases List.mem_cons.mp hp with rfl | hp
      · exact absurd (Option.some.inj ((hbound hauthentic d hd hbody.symm).2.symm.trans hid₀)) hid
      · exact h.recorded d hd p hp hbody
  · rcases update_some_iff.mp hms with ⟨-, rfl⟩ | ⟨-, hms⟩
    · exact h.past d hd
    · exact h.received d hd ms hms

theorem InboundInv.step {a : InboundAction} (h : InboundInv cfg s) (hsecret : cfg.secret ≠ "")
    (httl : cfg.toleranceSeconds < cfg.nonceTtlSeconds) (hforge : Unforgeable cfg s a)
    (hbound : HeadersBound cfg s a) (hstep : inboundStep cfg s a = some t) : InboundInv cfg t := by
  cases a with
  | tick ms =>
    obtain rfl := Option.some.inj hstep
    exact h.tick_step ms
  | sign rawBody deliveryId =>
    simp only [inboundStep] at hstep
    split at hstep
    · rename_i hnew
      obtain rfl := Option.some.inj hstep
      exact h.sign_step hnew
    · cases hstep
  | request req =>
    simp only [inboundStep] at hstep
    split at hstep
    · exact Option.some.inj hstep ▸ h
    · rename_i hok
      obtain rfl := Option.some.inj hstep
      exact h.request_step hsecret hforge hbound hok
  | expire deliveryId =>
    simp only [inboundStep] at hstep
    split at hstep
    · cases hstep
    split at hstep
    · rename_i hnonce hexpired
      obtain rfl := Option.some.inj hstep
      exact h.expire_step httl hnonce hexpired
    · cases hstep

end Step

/-- **Replay protection** in every run in which no request changes the headers of a delivery,
where nonces are kept for longer than the tolerance. -/
theorem replays_blocked {cfg : InboundConfig} {s : InboundSystem} (hsecret : cfg.secret ≠ "")
    (httl : cfg.toleranceSeconds < cfg.nonceTtlSeconds)
    (hrun : Reach (inboundStep cfg) (fun s a => Unforgeable cfg s a ∧ HeadersBound cfg s a)
      .start s) : ReplaySafe cfg s := by
  have hstart : InboundInv cfg .start := by
    constructor <;> simp [ReplaySafe, InboundSystem.start]
  have hinv : InboundInv cfg s :=
    hrun.invariant hstart fun h hok hstep => h.step hsecret httl hok.1 hok.2 hstep
  exact hinv.safe

/-- A stand-in for the hash: the digest of a body is the body. -/
def plainDigest : InboundConfig where
  secret := "s3cret"
  hmac := fun _ rawBody => rawBody

/-- A delivery signed at the hour, as its sender transmits it. -/
def transmission : InboundRequest where
  signature := some "sha256=2a"
  timestamp := some "3600"
  deliveryId := some "d-1"
  rawBody := [42]

/-- It arrives, and is sent again unchanged. -/
def sentTwice : List InboundAction :=
  [.tick 3600000, .sign [42] "d-1", .tick 2000, .request transmission, .tick 1000,
    .request transmission]

theorem replays_blocked_sentTwice : ∃ s, execOk (inboundStep plainDigest)
      (fun s a => Unforgeable plainDigest s a ∧ HeadersBound plainDigest s a) .start sentTwice =
        some s ∧ s.passed = [⟨[42], 3602⟩] ∧ ReplaySafe plainDigest s := by
  have hpassed : (execOk (inboundStep plainDigest)
      (fun s a => Unforgeable plainDigest s a ∧ HeadersBound plainDigest s a) .start
        sentTwice).map (·.passed) = some [⟨[42], 3602⟩] := by decide +kernel
  obtain ⟨s, hrun, hpassed⟩ := Option.map_eq_some_iff.mp hpassed
  exact ⟨s, hrun, hpassed, replays_blocked (by decide) (by decide) (.of_execOk hrun)⟩

/-- A day later the observed delivery is sent again under a new timestamp and without an id. -/
def replayed : List InboundAction :=
  sentTwice ++ [.tick 86400000,
    .request { transmission with timestamp := some "90003", deliveryId := none }]

theorem replay_passes : ¬ ∀ (cfg : InboundConfig) (s : InboundSystem), cfg.secret ≠ "" →
    cfg.toleranceSeconds < cfg.nonceTtlSeconds →
    Reach (inboundStep cfg) (Unforgeable cfg) .start s → ReplaySafe cfg s := by
  intro h
  have hunsafe : ((execOk (inboundStep plainDigest) (Unforgeable plainDigest) .start replayed).map
      fun s => decide (ReplaySafe plainDigest s)) = some false := by decide +kernel
  obtain ⟨s, hrun, hunsafe⟩ := Option.map_eq_some_iff.mp hunsafe
  exact of_decide_eq_false hunsafe (h plainDigest s (by decide) (by decide) (.of_execOk hrun))

end StellarEduPay

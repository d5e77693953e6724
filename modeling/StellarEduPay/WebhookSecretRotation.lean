import Mathlib.Data.List.Dedup
import Mathlib.Data.List.Sort
import StellarEduPay.Runs
import StellarEduPay.SignatureHeaders

/-! # Rotating a webhook's signing secret

`services/webhookEndpointService.js`, `utils/webhookSignaturePolicy.js` and the signing part of
`services/webhookService.js`.

A rotation reads the endpoint, keeps its secret as the previous one for an overlap, and saves; a delivery
reads the endpoint, works out which secrets to sign with, and sends; the scheduler purges previous
secrets whose overlap is over.  Each of these is a step of its own, so they interleave.  A save writes
the fields that were changed: setting a field to `null` that was read as `null` writes nothing.

Completed rotations are remembered, with the secret that each read and replaced.
-/
namespace StellarEduPay
namespace SecretRotation
open Runs Function SignatureV2

/-! ## Policies -/

def MAX_ROTATION_OVERLAP_S : Nat := 7 * 24 * 60 * 60

/-- `overlapSeconds` of a request: missing, `null` or `''`; or something that `Number` makes a finite
number of, or not. -/
inductive OverlapInput
  | absent
  | value (number : Option Rat)
  deriving DecidableEq, Repr

/-- `parseOverlapSeconds` -/
def parseOverlapSeconds (defaultOverlap : Int) : OverlapInput → Except String Int
  | .absent => .ok defaultOverlap
  | .value number =>
    match number.filter fun n => n.isInt ∧ 0 ≤ n.num ∧ n.num ≤ (MAX_ROTATION_OVERLAP_S : Int) with
    | some n => .ok n.num
    | none => .error s!"overlapSeconds must be an integer between 0 and {MAX_ROTATION_OVERLAP_S}"

def SIGNATURE_VERSIONS : List String := ["v1", "v2"]

def LEGACY_SIGNATURE_VERSIONS : List String := ["v1", "v2"]

/-- `_validateSignatureVersions` -/
def validateSignatureVersions (versions : List String) : Option String :=
  if versions.isEmpty then some "signatureVersions must be a non-empty array"
  else
    let invalid := versions.filter fun v => v ∉ SIGNATURE_VERSIONS
    if 0 < invalid.length then
      some ("Unknown signature versions: " ++ ", ".intercalate invalid ++ ". Valid versions: " ++
        ", ".intercalate SIGNATURE_VERSIONS)
    else if "v2" ∉ versions then some "signatureVersions must include 'v2'"
    else none

/-- The versions asked for, or the legacy ones, less V1 from the first instant at which it is no longer
emitted. -/
def requestedVersions (v1Sunset : Nat) (requested : Option (List String)) (now : Nat) : List String :=
  let base := (requested.filter fun l => 0 < l.length).getD LEGACY_SIGNATURE_VERSIONS
  let versions := (base.filter fun v => v = "v1" ∨ v = "v2").dedup
  if v1Sunset ≤ now then versions.filter (· ≠ "v1") else versions

/-- `resolveSignatureVersions` -/
def resolveSignatureVersions (v1Sunset : Nat) (requested : Option (List String)) (now : Nat) :
    List String :=
  let versions := requestedVersions v1Sunset requested now
  (if versions.length = 0 then ["v2"] else versions).insertionSort (· ≤ ·)

/-! ## The endpoint -/

/-- The fields of an endpoint that deliveries are signed by; times in ms. -/
structure SigningEndpoint where
  secret : String
  previousSecret : Option String
  previousSecretExpiresAt : Option Nat
  secretRotatedAt : Option Nat
  signatureVersions : List String
  deriving DecidableEq, Repr

/-- `applySecretRotation` -/
def applySecretRotation (endpoint : SigningEndpoint) (newSecret : String) (overlapSeconds : Int)
    (now : Nat) : SigningEndpoint :=
  if overlapSeconds > 0 ∧ endpoint.secret ≠ "" then
    { endpoint with
      previousSecret := some endpoint.secret
      previousSecretExpiresAt := some (now + overlapSeconds.toNat * 1000)
      secret := newSecret
      secretRotatedAt := some now }
  else
    { endpoint with
      previousSecret := none
      previousSecretExpiresAt := none
      secret := newSecret
      secretRotatedAt := some now }

/-- `save`, of a document read as `loaded` and changed to `changed`: the changed fields are written. -/
def saveChanged (loaded changed stored : SigningEndpoint) : SigningEndpoint where
  secret := if changed.secret = loaded.secret then stored.secret else changed.secret
  previousSecret :=
    if changed.previousSecret = loaded.previousSecret then stored.previousSecret
    else changed.previousSecret
  previousSecretExpiresAt :=
    if changed.previousSecretExpiresAt = loaded.previousSecretExpiresAt then
      stored.previousSecretExpiresAt
    else changed.previousSecretExpiresAt
  secretRotatedAt :=
    if changed.secretRotatedAt = loaded.secretRotatedAt then stored.secretRotatedAt
    else changed.secretRotatedAt
  signatureVersions :=
    if changed.signatureVersions = loaded.signatureVersions then stored.signatureVersions
    else changed.signatureVersions

/-- `purgeExpiredPreviousSecrets`, on one endpoint. -/
def purgeExpiredPreviousSecrets (endpoint : SigningEndpoint) (now : Nat) : SigningEndpoint :=
  if endpoint.previousSecretExpiresAt.any (· ≤ now) then
    { endpoint with previousSecret := none, previousSecretExpiresAt := none }
  else endpoint

/-- `_activePreviousSecret` -/
def activePreviousSecret (ep : SigningEndpoint) (now : Nat) : Option String :=
  match truthy ep.previousSecret, ep.previousSecretExpiresAt with
  | some previous, some expiresAt => if expiresAt > now then some previous else none
  | _, _ => none

/-! ## Signing -/

/-- What a delivery is signed with. -/
structure SigningContext where
  secret : Option String
  previousSecret : Option String
  signatureVersions : Option (List String)
  deriving DecidableEq, Repr

/-- `_resolveSigningContext`; the endpoint is missing when it could not be loaded. -/
def resolveSigningContext (ep : Option SigningEndpoint) (secret : Option String) (now : Nat) :
    SigningContext :=
  match ep with
  | some ep => ⟨(truthy (some ep.secret)).or (truthy secret), activePreviousSecret ep now,
      some ep.signatureVersions⟩
  | none => ⟨truthy secret, none, none⟩

/-- The signature headers of a delivery. -/
structure SignatureHeaders where
  v1 : Option String
  v2 : Option String
  v2Previous : Option String

/-- The signing part of `_sendToUrl`. -/
def signatureHeaders (hmac : List UInt8 → List UInt8 → List UInt8) (v1Sunset : Nat)
    (ctx : SigningContext) (now : Nat) (deliveryId rawBody : String) : SignatureHeaders :=
  let timestamp := toString (now / 1000)
  let versions := resolveSignatureVersions v1Sunset ctx.signatureVersions now
  match ctx.secret with
  | none => ⟨none, none, none⟩
  | some secret =>
    { v1 := if "v1" ∈ versions then
        some ("sha256=" ++ hexText (hmac (utf8Buffer secret) (utf8Buffer rawBody))) else none
      v2 := if "v2" ∈ versions then
        some (buildSignatureV2Header hmac timestamp deliveryId rawBody [some secret, ctx.previousSecret])
        else none
      v2Previous := if "v2" ∈ versions then
        ctx.previousSecret.map fun previous =>
          "sha256=" ++ generateSignatureV2 hmac timestamp deliveryId rawBody previous
        else none }

/-! ## The system -/

/-- A completed rotation: when, the secret it read, its own, and the overlap. -/
structure Rotation where
  time : Nat
  replaced : String
  secret : String
  overlapSeconds : Int
  deriving DecidableEq, Repr

/-- A delivery: the endpoint it read last, and the rotations completed then; and what it is signed
with, once resolved: when, and whether the endpoint could be loaded. -/
structure Delivery where
  endpoint : SigningEndpoint
  seen : List Rotation
  resolved : Option (SigningContext × Nat × Bool)
  deriving DecidableEq, Repr

structure System where
  now : Nat
  endpoint : SigningEndpoint
  rotating : Nat → Option SigningEndpoint
  deliveries : Nat → Option Delivery
  log : List Rotation

inductive Action
  | tick (ms : Nat)
  | loadRotation (c : Nat)
  | saveRotation (c : Nat) (newSecret : String) (overlap : OverlapInput)
  | purge
  | updateVersions (versions : List String)
  | load (d : Nat)
  | resolve (d : Nat)
  | resolveUnloaded (d : Nat)
  deriving DecidableEq, Repr

/-- `retry.secret`: `queueWebhookRetry` hands a secret to `create`, and the schema of `WebhookRetry`
has no such path. -/
def storedRetrySecret : Option String := none

/-- One step.  A new secret is generated, or was checked to be long enough. -/
def step (defaultOverlap : Int) (s : System) : Action → Option System
  | .tick ms => some { s with now := s.now + ms }
  | .loadRotation c => some { s with rotating := update s.rotating c (some s.endpoint) }
  | .saveRotation c newSecret overlap => do
    let loaded ← s.rotating c
    if newSecret = "" then none
    else
      match parseOverlapSeconds defaultOverlap overlap with
      | .error _ => some { s with rotating := update s.rotating c none }
      | .ok overlapSeconds =>
        some { s with
          endpoint :=
            saveChanged loaded (applySecretRotation loaded newSecret overlapSeconds s.now) s.endpoint
          rotating := update s.rotating c none
          log := ⟨s.now, loaded.secret, newSecret, overlapSeconds⟩ :: s.log }
  | .purge => some { s with endpoint := purgeExpiredPreviousSecrets s.endpoint s.now }
  | .updateVersions versions =>
    if validateSignatureVersions versions = none then
      some { s with endpoint := { s.endpoint with signatureVersions := versions.dedup } }
    else none
  | .load d => some { s with deliveries := update s.deliveries d (some ⟨s.endpoint, s.log, none⟩) }
  | .resolve d => do
    let x ← s.deliveries d
    let ctx := resolveSigningContext (some x.endpoint) storedRetrySecret s.now
    some { s with
      deliveries := update s.deliveries d (some { x with resolved := some (ctx, s.now, true) }) }
  | .resolveUnloaded d => do
    let x ← s.deliveries d
    let ctx := resolveSigningContext none storedRetrySecret s.now
    some { s with
      deliveries := update s.deliveries d (some { x with resolved := some (ctx, s.now, false) }) }

/-- A new endpoint. -/
def init (now : Nat) (first : String) (versions : List String) : System :=
  ⟨now, ⟨first, none, none, none, versions⟩, fun _ => none, fun _ => none, []⟩

/-! ## Policies kept -/

theorem mem_requestedVersions {v1Sunset now : Nat} {requested : Option (List String)}
    (h : ∀ l ∈ requested, "v2" ∈ l) : "v2" ∈ requestedVersions v1Sunset requested now := by
  have hbase : "v2" ∈ (requested.filter fun l => 0 < l.length).getD LEGACY_SIGNATURE_VERSIONS := by
    cases hfound : requested.filter fun l => 0 < l.length with
    | none => decide
    | some l => exact h l (Option.eq_some_of_filter_eq_some hfound)
  unfold requestedVersions
  dsimp only
  split
  · simp [hbase]
  · simp [hbase]

/-- A delivery carries V2 whenever its endpoint asks for V2, or for nothing. -/
theorem mem_resolveSignatureVersions {v1Sunset now : Nat} {requested : Option (List String)}
    (h : ∀ l ∈ requested, "v2" ∈ l) : "v2" ∈ resolveSignatureVersions v1Sunset requested now := by
  have hmem : "v2" ∈ requestedVersions v1Sunset requested now := mem_requestedVersions h
  rw [resolveSignatureVersions, List.mem_insertionSort,
    if_neg fun hempty => List.ne_nil_of_mem hmem (List.length_eq_zero_iff.mp hempty)]
  exact hmem

theorem mem_of_validateSignatureVersions {versions : List String}
    (h : validateSignatureVersions versions = none) : "v2" ∈ versions.dedup := by
  unfold validateSignatureVersions at h
  split at h
  · cases h
  · dsimp only at h
    split at h
    · cases h
    · split at h
      · cases h
      · exact List.mem_dedup.mpr (Decidable.not_not.mp ‹_›)

/-! ## What a log of rotations means -/

section Log
variable (first : String)

/-- The secret that the last completed rotation brought. -/
def currentSecret : List Rotation → String
  | [] => first
  | r :: _ => r.secret

def Rotation.endsAt (r : Rotation) : Nat := r.time + r.overlapSeconds.toNat * 1000

/-- A secret that is still signed with beside the current one: the last completed rotation replaced it,
and its overlap is not over. -/
def Overlaps (log : List Rotation) (time : Nat) (secret : String) : Prop :=
  ∃ r rest, log = r :: rest ∧ 0 < r.overlapSeconds ∧ time < r.endsAt ∧
    secret = currentSecret first rest

/-- The previous secret and its expiry are what the last completed rotation made them, unless they were
purged when its overlap was over. -/
def Keeps (since : Nat) (ep : SigningEndpoint) : List Rotation → Prop
  | [] => ep.previousSecret = none ∧ ep.previousSecretExpiresAt = none
  | r :: rest =>
    (0 < r.overlapSeconds ∧ ep.previousSecret = some (currentSecret first rest) ∧
        ep.previousSecretExpiresAt = some r.endsAt) ∨
      (ep.previousSecret = none ∧ ep.previousSecretExpiresAt = none ∧
        (0 < r.overlapSeconds → r.endsAt ≤ since))

/-- An endpoint as the completed rotations left it. -/
structure Follows (log : List Rotation) (since : Nat) (ep : SigningEndpoint) : Prop where
  secret : ep.secret = currentSecret first log
  keeps : Keeps first since ep log
  versions : "v2" ∈ ep.signatureVersions

variable {first} {log : List Rotation} {since time now : Nat} {ep stored : SigningEndpoint}

theorem Keeps.mono (h : Keeps first since ep log) (hle : since ≤ time) : Keeps first time ep log := by
  cases log with
  | nil => exact h
  | cons r rest =>
    refine Or.imp_right (fun h' => ?_) h
    exact ⟨h'.1, h'.2.1, fun hpos => (h'.2.2 hpos).trans hle⟩

theorem Follows.mono (h : Follows first log since ep) (hle : since ≤ time) :
    Follows first log time ep := ⟨h.secret, h.keeps.mono hle, h.versions⟩

/-- The previous secret is active while the overlap lasts, purged or not. -/
theorem activePreviousSecret_iff (h : Keeps first since ep log) (hsince : since ≤ time)
    (hlog : ∀ r ∈ log, r.secret ≠ "") (hfirst : first ≠ "") {secret : String} :
    activePreviousSecret ep time = some secret ↔ Overlaps first log time secret := by
  have hcurrent {rest : List Rotation} (hrest : ∀ r ∈ rest, r.secret ≠ "") :
      currentSecret first rest ≠ "" := by
    cases rest with
    | nil => exact hfirst
    | cons r rest => exact hrest r List.mem_cons_self
  cases log with
  | nil =>
    obtain ⟨hnone, -⟩ := h
    refine iff_of_false ?_ fun ⟨r, rest, heq, _⟩ => (nomatch heq)
    simp [activePreviousSecret, hnone, truthy]
  | cons r rest =>
    rcases h with ⟨hpos, hprevious, hexpires⟩ | ⟨hnone, -, hover⟩
    · have htruthy := truthy_of_ne (hcurrent fun r' hr' => hlog r' (List.mem_cons_of_mem r hr'))
      rw [activePreviousSecret, hprevious, hexpires, htruthy]
      dsimp only
      constructor
      · intro hactive
        obtain ⟨hlt, heq⟩ := Option.ite_none_right_eq_some.mp hactive
        exact ⟨r, rest, rfl, hpos, hlt, (Option.some.inj heq).symm⟩
      · rintro ⟨r', rest', heq, -, hlt, rfl⟩
        obtain ⟨rfl, rfl⟩ := List.cons.inj heq
        exact if_pos hlt
    · refine iff_of_false (by simp [activePreviousSecret, hnone, truthy]) ?_
      rintro ⟨r', rest', heq, hpos, hlt, -⟩
      obtain ⟨rfl, rfl⟩ := List.cons.inj heq
      exact absurd (hlt.trans_le (hover hpos)) (Nat.not_lt.mpr hsince)

theorem Follows.purge (h : Follows first log since ep) (hsince : since ≤ now) :
    Follows first log now (purgeExpiredPreviousSecrets ep now) := by
  unfold purgeExpiredPreviousSecrets
  split
  · rename_i hexpired
    refine ⟨h.secret, ?_, h.versions⟩
    cases log with
    | nil => exact ⟨rfl, rfl⟩
    | cons r rest =>
      rcases h.keeps with ⟨-, -, hexpires⟩ | ⟨-, hnone, -⟩
      · rw [hexpires] at hexpired
        exact .inr ⟨rfl, rfl, fun _ => of_decide_eq_true hexpired⟩
      · rw [hnone] at hexpired
        cases hexpired
  · exact h.mono hsince

/-- What is stored is what was read, but for a purge and other signature versions. -/
structure Unrotated (now : Nat) (loaded stored : SigningEndpoint) : Prop where
  secret : stored.secret = loaded.secret
  previous : (stored.previousSecret = loaded.previousSecret ∧
      stored.previousSecretExpiresAt = loaded.previousSecretExpiresAt) ∨
    (stored.previousSecret = none ∧ stored.previousSecretExpiresAt = none ∧
      ∀ expiresAt ∈ loaded.previousSecretExpiresAt, expiresAt ≤ now)

theorem currentSecret_mem : currentSecret first log ∈ log.map Rotation.secret ++ [first] := by
  cases log with
  | nil => exact List.mem_singleton.mpr rfl
  | cons r rest => exact List.mem_cons_self

/-- The secret that was read is not the previous one that was read with it. -/
theorem Follows.previous_ne (h : Follows first log since ep)
    (hdistinct : (log.map Rotation.secret ++ [first]).Nodup) : some ep.secret ≠ ep.previousSecret := by
  cases log with
  | nil =>
    rw [h.keeps.1]
    exact Option.some_ne_none _
  | cons r rest =>
    rcases h.keeps with ⟨-, hprevious, -⟩ | ⟨hnone, -, -⟩
    · rw [hprevious, h.secret]
      intro heq
      have hsame : r.secret = currentSecret first rest := Option.some.inj heq
      exact (List.nodup_cons.mp hdistinct).1 (hsame ▸ currentSecret_mem)
    · rw [hnone]
      exact Option.some_ne_none _

/-- What `applySecretRotation` sets is saved, whatever was purged since the endpoint was read. -/
theorem saveChanged_overlap {loaded : SigningEndpoint} (newSecret : String)
    (hloaded : Unrotated now loaded stored) (hprevious : some loaded.secret ≠ loaded.previousSecret)
    {overlapSeconds : Int} (hne : loaded.secret ≠ "") (hpos : 0 < overlapSeconds) :
    (saveChanged loaded (applySecretRotation loaded newSecret overlapSeconds now) stored).previousSecret =
        some loaded.secret ∧
      (saveChanged loaded (applySecretRotation loaded newSecret overlapSeconds
        now) stored).previousSecretExpiresAt = some (now + overlapSeconds.toNat * 1000) := by
  rw [applySecretRotation, if_pos ⟨hpos, hne⟩]
  refine ⟨if_neg hprevious, ?_⟩
  dsimp only [saveChanged]
  split
  · rename_i heq
    rcases hloaded.previous with ⟨-, hsame⟩ | ⟨-, -, hover⟩
    · exact hsame.trans heq.symm
    · have hle := hover _ heq.symm
      omega
  · rfl

/-- Without an overlap no previous secret is left. -/
theorem saveChanged_immediate {loaded : SigningEndpoint} (newSecret : String)
    (hloaded : Unrotated now loaded stored) {overlapSeconds : Int} (hzero : ¬ 0 < overlapSeconds) :
    (saveChanged loaded (applySecretRotation loaded newSecret overlapSeconds now) stored).previousSecret =
        none ∧
      (saveChanged loaded (applySecretRotation loaded newSecret overlapSeconds
        now) stored).previousSecretExpiresAt = none := by
  rw [applySecretRotation, if_neg fun h => hzero h.1]
  dsimp only [saveChanged]
  rcases hloaded.previous with ⟨hprevious, hexpires⟩ | ⟨hprevious, hexpires, -⟩
  · rw [hprevious, hexpires]
    constructor
    · split
      · exact Eq.symm ‹_›
      · rfl
    · split
      · exact Eq.symm ‹_›
      · rfl
  · rw [hprevious, hexpires, ite_self, ite_self]
    exact ⟨rfl, rfl⟩

/-- **A save.** Where no other rotation came between, saving a rotation to a secret not used before
leaves the endpoint as the rotation says. -/
theorem Follows.rotate {loaded : SigningEndpoint} (h : Follows first log now loaded)
    (hloaded : Unrotated now loaded stored) (hversions : "v2" ∈ stored.signatureVersions)
    {newSecret : String} {overlapSeconds : Int}
    (hfresh : newSecret ∉ log.map Rotation.secret ++ [first])
    (hdistinct : (log.map Rotation.secret ++ [first]).Nodup) (hne : loaded.secret ≠ "") :
    Follows first (⟨now, loaded.secret, newSecret, overlapSeconds⟩ :: log) now
      (saveChanged loaded (applySecretRotation loaded newSecret overlapSeconds now) stored) := by
  have hnew : newSecret ≠ loaded.secret := fun heq => hfresh (heq ▸ h.secret ▸ currentSecret_mem)
  constructor
  case secret =>
    have hchanged : (applySecretRotation loaded newSecret overlapSeconds now).secret = newSecret := by
      unfold applySecretRotation
      split <;> rfl
    rw [saveChanged, hchanged, if_neg hnew]
    rfl
  case keeps =>
    by_cases hpos : 0 < overlapSeconds
    · obtain ⟨hprevious, hexpires⟩ := saveChanged_overlap newSecret hloaded
        (h.previous_ne hdistinct) hne hpos
      exact .inl ⟨hpos, hprevious.trans (congrArg some h.secret), hexpires⟩
    · obtain ⟨hprevious, hexpires⟩ := saveChanged_immediate newSecret hloaded hpos
      exact .inr ⟨hprevious, hexpires, fun hcontra => absurd hcontra hpos⟩
  case versions =>
    unfold applySecretRotation saveChanged
    split <;> simpa using hversions

end Log

/-! ## Signing -/

section Signing
variable {hmac : List UInt8 → List UInt8 → List UInt8}

/-- A receiver accepts the V2 header with the secrets of the context, and no other that the HMAC tells
apart from them. -/
theorem accepts_signatureHeaders_iff {v1Sunset sent : Nat} {ctx : SigningContext}
    {id body secret current : String} (hcurrent : ctx.secret = some current) (hne : current ≠ "")
    (hprevious : ∀ previous ∈ ctx.previousSecret, previous ≠ "")
    (hversions : ∀ l ∈ ctx.signatureVersions, "v2" ∈ l) (hsecret : secret ≠ "")
    (hideal : ∀ s, s = current ∨ ctx.previousSecret = some s →
      digestV2 hmac (toString (sent / 1000)) id body secret =
        digestV2 hmac (toString (sent / 1000)) id body s → s = secret) :
    ((signatureHeaders hmac v1Sunset ctx sent id body).v2.any fun header =>
        verifySignatureV2Header hmac (toString (sent / 1000)) id body header secret) = true ↔
      secret = current ∨ ctx.previousSecret = some secret := by
  have hsecrets : [some current, ctx.previousSecret].filterMap truthy =
      current :: ctx.previousSecret.toList := by
    rw [List.filterMap_cons_some (truthy_of_ne hne)]
    cases hp : ctx.previousSecret with
    | none => rfl
    | some previous =>
      rw [List.filterMap_cons_some (truthy_of_ne (hprevious previous hp))]
      rfl
  have hheader : buildSignatureV2Header hmac (toString (sent / 1000)) id body
      [some current, ctx.previousSecret] =
        ",".intercalate (((current :: ctx.previousSecret.toList).map
          (digestV2 hmac (toString (sent / 1000)) id body)).map schemeText) := by
    rw [buildSignatureV2Header, hsecrets, List.map_map]
    rfl
  rw [signatureHeaders, hcurrent]
  dsimp only
  rw [if_pos (mem_resolveSignatureVersions hversions), Option.any_some, hheader,
    verifySignatureV2Header_iff _ hsecret, List.mem_map]
  constructor
  · rintro ⟨s, hs, hdigest⟩
    have hmem : s = current ∨ ctx.previousSecret = some s := by simpa using hs
    obtain rfl := hideal s hmem hdigest.symm
    exact hmem
  · intro h
    exact ⟨secret, by simpa using h, rfl⟩

end Signing

/-! ## Rotations one at a time -/

section Serial
variable {first : String} {defaultOverlap : Int} {s t : System} {a : Action}

/-- A rotation starts when no other is under way, and brings a secret that was not used before. -/
def Serial (first : String) (s : System) : Action → Prop
  | .loadRotation _ => ∀ c, s.rotating c = none
  | .saveRotation _ newSecret _ => newSecret ∉ s.log.map Rotation.secret ++ [first]
  | _ => True

def Nonempty (first : String) (log : List Rotation) : Prop := first ≠ "" ∧ ∀ r ∈ log, r.secret ≠ ""

theorem Nonempty.currentSecret {log : List Rotation} (h : Nonempty first log) :
    currentSecret first log ≠ "" := by
  cases log with
  | nil => exact h.1
  | cons r rest => exact h.2 r List.mem_cons_self

/-- A delivery signs as the rotations completed when it read the endpoint say. -/
structure Signs (first : String) (now : Nat) (x : Delivery) : Prop where
  nonempty : Nonempty first x.seen
  read : Follows first x.seen now x.endpoint
  resolved : ∀ ctx time loaded, x.resolved = some (ctx, time, loaded) →
    ctx.secret = (if loaded then some (currentSecret first x.seen) else none) ∧
      (∀ secret, ctx.previousSecret = some secret ↔
        loaded = true ∧ Overlaps first x.seen time secret) ∧
      ∀ l ∈ ctx.signatureVersions, "v2" ∈ l

theorem Signs.mono {now time : Nat} {x : Delivery} (h : Signs first now x) (hle : now ≤ time) :
    Signs first time x :=
  ⟨h.nonempty, h.read.mono hle, h.resolved⟩

/-- The endpoint, what each rotation under way read, and each delivery are as the completed rotations
say. -/
structure Tracked (first : String) (s : System) : Prop where
  distinct : (s.log.map Rotation.secret ++ [first]).Nodup
  nonempty : Nonempty first s.log
  endpoint : Follows first s.log s.now s.endpoint
  alone : ∀ c c', (s.rotating c).isSome → (s.rotating c').isSome → c = c'
  rotating : ∀ c loaded, s.rotating c = some loaded →
    Follows first s.log s.now loaded ∧ Unrotated s.now loaded s.endpoint
  deliveries : ∀ d x, s.deliveries d = some x → Signs first s.now x

theorem Tracked.init {now : Nat} {versions : List String} (hfirst : first ≠ "")
    (hversions : "v2" ∈ versions) : Tracked first (init now first versions) where
  distinct := List.nodup_singleton first
  nonempty := ⟨hfirst, fun _ h => (nomatch h)⟩
  endpoint := ⟨rfl, ⟨rfl, rfl⟩, hversions⟩
  alone _ _ h := absurd h (by simp [SecretRotation.init])
  rotating _ _ h := (nomatch h)
  deliveries _ _ h := (nomatch h)

theorem Unrotated.mono {now time : Nat} {loaded stored : SigningEndpoint}
    (h : Unrotated now loaded stored) (hle : now ≤ time) : Unrotated time loaded stored :=
  ⟨h.secret, h.previous.imp_right fun h' =>
    ⟨h'.1, h'.2.1, fun expiresAt hexp => (h'.2.2 expiresAt hexp).trans hle⟩⟩

theorem Unrotated.purge {now : Nat} {loaded stored : SigningEndpoint} (h : Unrotated now loaded stored) :
    Unrotated now loaded (purgeExpiredPreviousSecrets stored now) := by
  unfold purgeExpiredPreviousSecrets
  split
  · rename_i hexpired
    refine ⟨h.secret, .inr ⟨rfl, rfl, fun expiresAt hexp => ?_⟩⟩
    rcases h.previous with ⟨-, hsame⟩ | ⟨-, -, hover⟩
    · rw [hsame, Option.mem_def.mp hexp] at hexpired
      exact of_decide_eq_true hexpired
    · exact hover expiresAt hexp
  · exact h

/-- What is worked out from the endpoint that was read. -/
theorem Signs.resolve {now : Nat} {x : Delivery} (h : Signs first now x) :
    Signs first now { x with
      resolved := some (resolveSigningContext (some x.endpoint) storedRetrySecret now, now, true) } := by
  refine ⟨h.nonempty, h.read, fun ctx time loaded hr => ?_⟩
  cases hr
  refine ⟨?_, fun secret => ?_, fun l hl => ?_⟩
  · rw [resolveSigningContext, truthy_of_ne (h.read.secret ▸ h.nonempty.currentSecret), h.read.secret]
    rfl
  · rw [resolveSigningContext, activePreviousSecret_iff h.read.keeps (Nat.le_refl _) h.nonempty.2
      h.nonempty.1]
    simp
  · cases hl
    exact h.read.versions

/-- Without the endpoint there is nothing to sign with. -/
theorem Signs.resolveUnloaded {now : Nat} {x : Delivery} (h : Signs first now x) :
    Signs first now { x with
      resolved := some (resolveSigningContext none storedRetrySecret now, now, false) } := by
  refine ⟨h.nonempty, h.read, fun ctx time loaded hr => ?_⟩
  cases hr
  exact ⟨rfl, fun secret => by simp [resolveSigningContext], fun l hl => (nomatch hl)⟩

theorem tracked_step (h : Tracked first s) (hok : Serial first s a)
    (hs : step defaultOverlap s a = some t) : Tracked first t := by
  cases a with
  | tick ms =>
    obtain rfl := Option.some.inj hs
    have hle : s.now ≤ s.now + ms := Nat.le_add_right _ _
    exact ⟨h.distinct, h.nonempty, h.endpoint.mono hle, h.alone,
      fun c loaded hc => (h.rotating c loaded hc).imp (·.mono hle) (·.mono hle),
      fun d x hx => (h.deliveries d x hx).mono hle⟩
  | loadRotation c =>
    obtain rfl := Option.some.inj hs
    refine ⟨h.distinct, h.nonempty, h.endpoint, fun c₁ c₂ h₁ h₂ => ?_, fun c' loaded hc => ?_,
      h.deliveries⟩
    · have hfree {c' : Nat} (hc' : (update s.rotating c (some s.endpoint) c').isSome) : c' = c := by
        by_contra hne
        rw [update_of_ne hne, hok c'] at hc'
        cases hc'
      exact (hfree h₁).trans (hfree h₂).symm
    · rcases update_some_iff.mp hc with ⟨-, rfl⟩ | ⟨-, hold⟩
      · exact ⟨h.endpoint, rfl, .inl ⟨rfl, rfl⟩⟩
      · rw [hok c'] at hold
        cases hold
  | saveRotation c newSecret overlap =>
    obtain ⟨loaded, hloaded, hs⟩ := Option.bind_eq_some_iff.mp hs
    obtain ⟨hne, hs⟩ := Option.ite_none_left_eq_some.mp hs
    obtain ⟨hread, hunrotated⟩ := h.rotating c loaded hloaded
    have hnone (c' : Nat) : update s.rotating c none c' = none := by
      by_cases hc' : c' = c
      · rw [hc', update_self]
      · rw [update_of_ne hc']
        by_contra hsome
        exact hc' (h.alone c' c (Option.isSome_iff_ne_none.mpr hsome) (by rw [hloaded]; rfl))
    have hidle {c' : Nat} (hc' : (update s.rotating c none c').isSome) : False := by
      rw [hnone c'] at hc'
      cases hc'
    split at hs
    · obtain rfl := Option.some.inj hs
      exact ⟨h.distinct, h.nonempty, h.endpoint, fun _ _ h₁ => (hidle h₁).elim,
        fun _ _ hc' => (hidle (Option.isSome_of_eq_some hc')).elim, h.deliveries⟩
    · rename_i overlapSeconds hoverlap
      obtain rfl := Option.some.inj hs
      have hsecret : loaded.secret ≠ "" := hread.secret ▸ h.nonempty.currentSecret
      refine ⟨List.nodup_cons.mpr ⟨hok, h.distinct⟩, ⟨h.nonempty.1, fun r hr => ?_⟩,
        hread.rotate hunrotated h.endpoint.versions hok h.distinct hsecret,
        fun _ _ h₁ => (hidle h₁).elim,
        fun _ _ hc' => (hidle (Option.isSome_of_eq_some hc')).elim, h.deliveries⟩
      rcases List.mem_cons.mp hr with rfl | hold
      · exact hne
      · exact h.nonempty.2 r hold
  | purge =>
    obtain rfl := Option.some.inj hs
    exact ⟨h.distinct, h.nonempty, h.endpoint.purge (Nat.le_refl _), h.alone,
      fun c loaded hc => (h.rotating c loaded hc).imp_right Unrotated.purge, h.deliveries⟩
  | updateVersions versions =>
    obtain ⟨hvalid, hs⟩ := Option.ite_none_right_eq_some.mp hs
    obtain rfl := Option.some.inj hs
    exact ⟨h.distinct, h.nonempty, ⟨h.endpoint.secret, h.endpoint.keeps,
      mem_of_validateSignatureVersions hvalid⟩, h.alone,
      fun c loaded hc => (h.rotating c loaded hc).imp_right fun hu => ⟨hu.secret, hu.previous⟩,
      h.deliveries⟩
  | load d =>
    obtain rfl := Option.some.inj hs
    refine ⟨h.distinct, h.nonempty, h.endpoint, h.alone, h.rotating, fun d' x hx => ?_⟩
    rcases update_some_iff.mp hx with ⟨-, rfl⟩ | ⟨-, hold⟩
    · exact ⟨h.nonempty, h.endpoint, fun _ _ _ hr => (nomatch hr)⟩
    · exact h.deliveries d' x hold
  | resolve d =>
    obtain ⟨x, hx, hs⟩ := Option.bind_eq_some_iff.mp hs
    obtain rfl := Option.some.inj hs
    refine ⟨h.distinct, h.nonempty, h.endpoint, h.alone, h.rotating, fun d' y hy => ?_⟩
    rcases update_some_iff.mp hy with ⟨-, rfl⟩ | ⟨-, hold⟩
    · exact (h.deliveries d x hx).resolve
    · exact h.deliveries d' y hold
  | resolveUnloaded d =>
    obtain ⟨x, hx, hs⟩ := Option.bind_eq_some_iff.mp hs
    obtain rfl := Option.some.inj hs
    refine ⟨h.distinct, h.nonempty, h.endpoint, h.alone, h.rotating, fun d' y hy => ?_⟩
    rcases update_some_iff.mp hy with ⟨-, rfl⟩ | ⟨-, hold⟩
    · exact (h.deliveries d x hx).resolveUnloaded
    · exact h.deliveries d' y hold

theorem Overlaps.ne {log : List Rotation} {time : Nat} {secret : String} (h : Nonempty first log)
    (ho : Overlaps first log time secret) : secret ≠ "" := by
  obtain ⟨r, rest, rfl, -, -, rfl⟩ := ho
  exact Nonempty.currentSecret ⟨h.1, fun r' hr' => h.2 r' (List.mem_cons_of_mem r hr')⟩

end Serial

/-! ## Any interleaving -/

section Interleaved
variable {defaultOverlap : Int} {s t : System} {a : Action}

/-- A completed rotation replaced the previous secret, and the expiry is the end of a completed
rotation's overlap. -/
structure Traced (log : List Rotation) (ep : SigningEndpoint) : Prop where
  previous : ∀ previous, ep.previousSecret = some previous → ∃ r ∈ log, r.replaced = previous
  expires : ∀ expiresAt, ep.previousSecretExpiresAt = some expiresAt →
    ∃ r ∈ log, 0 < r.overlapSeconds ∧ expiresAt = r.endsAt

/-- A delivery signs with the secret it read, or with one that was replaced, while an overlap lasts. -/
structure TracedDelivery (x : Delivery) : Prop where
  read : Traced x.seen x.endpoint
  resolved : ∀ ctx time loaded, x.resolved = some (ctx, time, loaded) →
    (∀ secret ∈ ctx.secret, secret = x.endpoint.secret) ∧
      ∀ previous ∈ ctx.previousSecret, previous ≠ "" ∧ (∃ r ∈ x.seen, r.replaced = previous) ∧
        ∃ r ∈ x.seen, 0 < r.overlapSeconds ∧ time < r.endsAt

structure TracedSystem (s : System) : Prop where
  endpoint : Traced s.log s.endpoint
  rotating : ∀ c loaded, s.rotating c = some loaded → Traced s.log loaded
  deliveries : ∀ d x, s.deliveries d = some x → TracedDelivery x

variable {log log' : List Rotation} {ep : SigningEndpoint}

theorem Traced.mono (h : Traced log ep) (hsub : log ⊆ log') : Traced log' ep where
  previous p hp := (h.previous p hp).imp fun _ => And.imp_left (hsub ·)
  expires e he := (h.expires e he).imp fun _ => And.imp_left (hsub ·)

theorem Traced.purge {now : Nat} (h : Traced log ep) :
    Traced log (purgeExpiredPreviousSecrets ep now) := by
  unfold purgeExpiredPreviousSecrets
  split
  · exact ⟨fun _ hp => (nomatch hp), fun _ he => (nomatch he)⟩
  · exact h

/-- A save writes the secret it read as the previous one, and its own overlap, or leaves what others
wrote. -/
theorem Traced.save {loaded : SigningEndpoint} (h : Traced log ep) {newSecret : String}
    {overlapSeconds : Int} {now : Nat} :
    Traced (⟨now, loaded.secret, newSecret, overlapSeconds⟩ :: log)
      (saveChanged loaded (applySecretRotation loaded newSecret overlapSeconds now) ep) := by
  have hold := h.mono (List.subset_cons_self ⟨now, loaded.secret, newSecret, overlapSeconds⟩ log)
  unfold applySecretRotation saveChanged
  split
  · rename_i hpos
    refine ⟨fun previous hp => ?_, fun expiresAt he => ?_⟩
    · dsimp only at hp
      split at hp
      · exact hold.previous previous hp
      · exact ⟨_, List.mem_cons_self, Option.some.inj hp⟩
    · dsimp only at he
      split at he
      · exact hold.expires expiresAt he
      · exact ⟨_, List.mem_cons_self, hpos.1, (Option.some.inj he).symm⟩
  · refine ⟨fun previous hp => ?_, fun expiresAt he => ?_⟩
    · dsimp only at hp
      split at hp
      · exact hold.previous previous hp
      · cases hp
    · dsimp only at he
      split at he
      · exact hold.expires expiresAt he
      · cases he

theorem TracedDelivery.resolve {x : Delivery} (h : TracedDelivery x) {found : Option SigningEndpoint}
    (hfound : found = some x.endpoint ∨ found = none) (now : Nat) (loaded : Bool) :
    TracedDelivery { x with
      resolved := some (resolveSigningContext found storedRetrySecret now, now, loaded) } := by
  refine ⟨h.read, fun ctx time loaded hr => ?_⟩
  cases hr
  rcases hfound with rfl | rfl
  · refine ⟨fun secret hs => ?_, fun previous hp => ?_⟩
    · rcases Option.or_eq_some_iff.mp hs with hs | ⟨-, hs⟩
      · exact (Option.some.inj (Option.eq_some_of_filter_eq_some hs)).symm
      · cases hs
    · change activePreviousSecret x.endpoint now = some previous at hp
      unfold activePreviousSecret at hp
      split at hp
      · rename_i previous' expiresAt hprevious hexpires
        obtain ⟨hlt, heq⟩ := Option.ite_none_right_eq_some.mp hp
        obtain rfl := Option.some.inj heq
        obtain ⟨hstored, hne⟩ := Option.filter_eq_some_iff.mp hprevious
        obtain ⟨r, hr, hpos, rfl⟩ := h.read.expires _ hexpires
        exact ⟨of_decide_eq_true hne, h.read.previous _ hstored, r, hr, hpos, hlt⟩
      · cases hp
  · exact ⟨fun secret hs => (nomatch hs), fun previous hp => (nomatch hp)⟩

theorem traced_step (h : TracedSystem s) (hs : step defaultOverlap s a = some t) : TracedSystem t := by
  cases a with
  | tick ms =>
    obtain rfl := Option.some.inj hs
    exact ⟨h.endpoint, h.rotating, h.deliveries⟩
  | loadRotation c =>
    obtain rfl := Option.some.inj hs
    refine ⟨h.endpoint, fun c' loaded hc => ?_, h.deliveries⟩
    rcases update_some_iff.mp hc with ⟨-, rfl⟩ | ⟨-, hold⟩
    · exact h.endpoint
    · exact h.rotating c' loaded hold
  | saveRotation c newSecret overlap =>
    obtain ⟨loaded, -, hs⟩ := Option.bind_eq_some_iff.mp hs
    obtain ⟨-, hs⟩ := Option.ite_none_left_eq_some.mp hs
    split at hs
    · obtain rfl := Option.some.inj hs
      exact ⟨h.endpoint, fun c' loaded hc => h.rotating c' loaded (update_none_iff.mp hc).2, h.deliveries⟩
    · obtain rfl := Option.some.inj hs
      exact ⟨h.endpoint.save, fun c' loaded hc =>
        (h.rotating c' loaded (update_none_iff.mp hc).2).mono (List.subset_cons_self _ _), h.deliveries⟩
  | purge =>
    obtain rfl := Option.some.inj hs
    exact ⟨h.endpoint.purge, h.rotating, h.deliveries⟩
  | updateVersions versions =>
    obtain ⟨-, hs⟩ := Option.ite_none_right_eq_some.mp hs
    obtain rfl := Option.some.inj hs
    exact ⟨⟨h.endpoint.previous, h.endpoint.expires⟩, h.rotating, h.deliveries⟩
  | load d =>
    obtain rfl := Option.some.inj hs
    refine ⟨h.endpoint, h.rotating, fun d' x hx => ?_⟩
    rcases update_some_iff.mp hx with ⟨-, rfl⟩ | ⟨-, hold⟩
    · exact ⟨h.endpoint, fun _ _ _ hr => (nomatch hr)⟩
    · exact h.deliveries d' x hold
  | resolve d =>
    obtain ⟨x, hx, hs⟩ := Option.bind_eq_some_iff.mp hs
    obtain rfl := Option.some.inj hs
    refine ⟨h.endpoint, h.rotating, fun d' y hy => ?_⟩
    rcases update_some_iff.mp hy with ⟨-, rfl⟩ | ⟨-, hold⟩
    · exact (h.deliveries d x hx).resolve (.inl rfl) _ _
    · exact h.deliveries d' y hold
  | resolveUnloaded d =>
    obtain ⟨x, hx, hs⟩ := Option.bind_eq_some_iff.mp hs
    obtain rfl := Option.some.inj hs
    refine ⟨h.endpoint, h.rotating, fun d' y hy => ?_⟩
    rcases update_some_iff.mp hy with ⟨-, rfl⟩ | ⟨-, hold⟩
    · exact (h.deliveries d x hx).resolve (.inr rfl) _ _
    · exact h.deliveries d' y hold

/-- **No secret outlives the overlaps.** However rotations, deliveries, retries and purges interleave, a
delivery is signed only with the secret it read, or with one that a completed rotation replaced, and the
last only while the overlap of some completed rotation lasts. -/
theorem signed_with {now : Nat} {first : String} {versions : List String}
    (h : Reach (step defaultOverlap) Free (init now first versions) s) {d : Nat} {x : Delivery}
    (hx : s.deliveries d = some x) {ctx : SigningContext} {time : Nat} {loaded : Bool}
    (hr : x.resolved = some (ctx, time, loaded)) :
    (∀ secret ∈ ctx.secret, secret = x.endpoint.secret) ∧
      ∀ previous ∈ ctx.previousSecret, previous ≠ "" ∧ (∃ r ∈ x.seen, r.replaced = previous) ∧
        ∃ r ∈ x.seen, 0 < r.overlapSeconds ∧ time < r.endsAt := by
  have htraced : TracedSystem s := h.invariant
    ⟨⟨fun _ hp => (nomatch hp), fun _ he => (nomatch he)⟩, fun _ _ hc => (nomatch hc),
      fun _ _ hd => (nomatch hd)⟩ fun hinv _ hs => traced_step hinv hs
  exact (htraced.deliveries d x hx).resolved ctx time loaded hr

/-- Two rotations that read the same secret, and a delivery after both. -/
theorem signed_with_overlapping :
    let s := (exec (step 1) (init 0 "a" ["v2"]) [.loadRotation 0, .loadRotation 1,
      .saveRotation 0 "b" .absent, .saveRotation 1 "c" .absent, .load 7, .resolve 7]).get (by decide)
    let x := (s.deliveries 7).get (by decide)
    let r := x.resolved.get (by decide)
    (∀ secret ∈ r.1.secret, secret = x.endpoint.secret) ∧
      ∀ previous ∈ r.1.previousSecret, previous ≠ "" ∧ (∃ q ∈ x.seen, q.replaced = previous) ∧
        ∃ q ∈ x.seen, 0 < q.overlapSeconds ∧ r.2.1 < q.endsAt := by
  intro s x r
  have hr : x.resolved = some r := (Option.some_get _).symm
  exact signed_with (reach_get (by decide)) (Option.some_get _).symm hr

end Interleaved

end SecretRotation

end StellarEduPay

import StellarEduPay.AuthenticatedCipher
import StellarEduPay.BufferText

/-! # Values encrypted at rest (`services/studentPiiEncryption.js`, `services/webhookSecretEncryption.js`)

Contact data of parents and webhook secrets are stored as `enc:` with the nonce, the ciphertext and the
tag as text, in hexadecimal the ones and in base64url the others. What cannot be decrypted is returned
as it is. Under the key of the encryption a value decrypts to the plaintext, also after that key has
become the previous one; the lower-casing of stored emails leaves it alone.

The cipher is a parameter, ideal on the keys in play; so is `toLowerCase`, known on ASCII.
-/
namespace StellarEduPay
open AuthenticatedCipher

def ivLength : Nat := 12

def tagLength : Nat := 16

def encPrefix : String := "enc:"

/-- `value.startsWith(ENC_PREFIX)` -/
def startsWithEnc (value : String) : Bool := encPrefix.toList.isPrefixOf value.toList

/-- `value.slice(ENC_PREFIX.length)` -/
def sliceEnc (value : String) : List Char := value.toList.drop encPrefix.length

/-- `/^[0-9a-fA-F]{64}$/.test(hex)` -/
def isKeyHex (hex : String) : Bool :=
  hex.toList.length == 64 && hex.toList.all fun c => (hexDigit c).isSome

/-- The AES-256-GCM of `crypto`, of bytes and with its tag of sixteen. -/
abbrev Gcm := Cipher (List UInt8) UInt8 tagLength

/-- What `crypto.randomBytes(IV_LENGTH)` drew. -/
abbrev Iv := { iv : List UInt8 // iv.length = ivLength }

def keyHint : String :=
  "node -e \"console.log(require('crypto').randomBytes(32).toString('hex'))\""

/-! ## The contact data of parents -/

namespace StudentPii

/-- The variables of the environment. -/
structure Env where
  key : Option String
  keyPrevious : Option String
  nodeEnv : Option String
  allowPlaintextPii : Option String

/-- `_parseKey` -/
def parseKey (hex : Option String) (name : String) : Except String (Option (List UInt8)) :=
  match truthy hex with
  | none => .ok none
  | some hex =>
    if isKeyHex hex then .ok (some (hexBuffer hex.toList))
    else
      .error ("[studentPiiEncryption] " ++ name ++ " must be a 64-character " ++
        "hex string (32 bytes). Generate one with: " ++ keyHint)

/-- `_getKey` -/
def getKey (env : Env) : Except String (Option (List UInt8)) :=
  parseKey env.key "STUDENT_PII_ENCRYPTION_KEY"

/-- `_getPreviousKey` -/
def getPreviousKey (env : Env) : Except String (Option (List UInt8)) :=
  parseKey env.keyPrevious "STUDENT_PII_ENCRYPTION_KEY_PREVIOUS"

def isEncryptionEnabled (env : Env) : Except String Bool := do
  match ← getKey env with
  | some _ => return true
  | none =>
    if env.nodeEnv = some "production" ∧ env.allowPlaintextPii ≠ some "true" then
      throw ("[studentPiiEncryption] STUDENT_PII_ENCRYPTION_KEY is required in production. " ++
        "Set ALLOW_PLAINTEXT_PII=true only for non-production use.")
    else return false

def encryptStudentPii (cipher : Gcm) (env : Env) (iv : Iv) (plaintext : String) :
    Except String String := do
  if plaintext = "" then return plaintext
  if startsWithEnc plaintext then return plaintext
  match ← getKey env with
  | none =>
    -- throws in production
    let _ ← isEncryptionEnabled env
    return plaintext
  | some key =>
    let payload := hexText (cipher.sealBytes key iv (utf8Buffer plaintext))
    return encPrefix ++ payload

def decryptStudentPii (cipher : Gcm) (env : Env) (value : String) : Except String String := do
  if value = "" then return value
  if !startsWithEnc value then return value
  match ← getKey env with
  | none =>
    let _ ← isEncryptionEnabled env
    return value
  | some key =>
    let buf := hexBuffer (sliceEnc value)
    if buf.length < ivLength + 1 + tagLength then return value
    let previousKey ← getPreviousKey env
    let keys := [key] ++ previousKey.toList
    match keys.findSome? fun candidate => cipher.openBytes ivLength candidate buf with
    | some bytes => return utf8Text bytes
    | none => return value

/-- The setter of `parentEmail`: trimmed and in lower case. -/
def setParentEmail (toLowerCase : String → String) (value : String) : String :=
  toLowerCase (jsTrim value)

end StudentPii

/-! ## The webhook secrets -/

namespace WebhookSecret

/-- The variables of the environment. -/
structure Env where
  key : Option String
  keyOld : Option String
  keyPrevious : Option String
  nodeEnv : Option String
  allowPlaintextPii : Option String

/-- `_assertKeyConfiguredInProduction` -/
def assertKeyConfiguredInProduction (env : Env) : Except String Unit := do
  if env.nodeEnv ≠ some "production" then return
  if (truthy env.key).isSome then return
  if env.allowPlaintextPii = some "true" then return
  throw ("[webhookSecretEncryption] WEBHOOK_SECRET_ENCRYPTION_KEY is required when " ++
    "NODE_ENV=production. Refusing to start with webhook secret encryption " ++
    "disabled. Generate one with: " ++ keyHint ++
    " (or set ALLOW_PLAINTEXT_PII=true for development only).")

/-- `_getKey` -/
def getKey (env : Env) : Except String (Option (List UInt8)) := do
  match truthy env.key with
  | none =>
    assertKeyConfiguredInProduction env
    return none
  | some hex =>
    if isKeyHex hex then return some (hexBuffer hex.toList)
    else
      throw ("[webhookSecretEncryption] WEBHOOK_SECRET_ENCRYPTION_KEY must be a " ++
        "64-character hex string (32 bytes). Generate one with: " ++ keyHint)

/-- `_getPreviousKey` -/
def getPreviousKey (env : Env) : Except String (Option (List UInt8)) :=
  match (truthy env.keyOld).or (truthy env.keyPrevious) with
  | none => .ok none
  | some hex =>
    if isKeyHex hex then .ok (some (hexBuffer hex.toList))
    else
      .error ("[webhookSecretEncryption] WEBHOOK_SECRET_ENCRYPTION_KEY_OLD / " ++
        "WEBHOOK_SECRET_ENCRYPTION_KEY_PREVIOUS must be a " ++
        "64-character hex string (32 bytes), same format as WEBHOOK_SECRET_ENCRYPTION_KEY.")

/-- `_decryptWithKey`; `none` is a throw. -/
def decryptWithKey (cipher : Gcm) (buf key : List UInt8) : Option String :=
  (cipher.openBytes ivLength key buf).map utf8Text

def encryptWebhookSecret (cipher : Gcm) (env : Env) (iv : Iv) (plaintext : String) :
    Except String String := do
  if plaintext = "" then return plaintext
  if startsWithEnc plaintext then return plaintext
  match ← getKey env with
  | none => return plaintext
  | some key =>
    let payload := base64urlText (cipher.sealBytes key iv (utf8Buffer plaintext))
    return encPrefix ++ payload

def decryptWebhookSecret (cipher : Gcm) (env : Env) (value : String) : Except String String := do
  if value = "" then return value
  if !startsWithEnc value then return value
  match ← getKey env with
  | none => return value
  | some key =>
    let buf := base64Buffer (sliceEnc value)
    if buf.length < ivLength + 1 + tagLength then return value
    match decryptWithKey cipher buf key with
    | some plaintext => return plaintext
    | none =>
      match ← getPreviousKey env with
      | none => return value
      | some previousKey =>
        match decryptWithKey cipher buf previousKey with
        | some plaintext => return plaintext
        | none => return value

end WebhookSecret

/-! ## Keys and prefixes -/

section
variable {cipher : Gcm} {hex p : String} {iv : Iv}

/-- Not set, or a key. -/
def AbsentOrKey (hex : Option String) : Prop := ∀ h, truthy hex = some h → isKeyHex h = true

theorem truthy_of_isKeyHex (h : isKeyHex hex = true) : truthy (some hex) = some hex := by
  refine truthy_of_ne ?_
  rintro rfl
  exact absurd h (by decide)

theorem startsWithEnc_append (text : String) : startsWithEnc (encPrefix ++ text) = true := by
  simp [startsWithEnc]

theorem sliceEnc_append (text : String) : sliceEnc (encPrefix ++ text) = text.toList := by
  rw [sliceEnc, String.toList_append]
  exact List.drop_left

theorem encPrefix_append_ne (text : String) : encPrefix ++ text ≠ "" := by
  intro h
  have hlength := congrArg (·.toList.length) h
  simp [encPrefix] at hlength

/-- What is sealed is never shorter than the least that is opened. -/
theorem sealed_length {key : List UInt8} (hp : p ≠ "") :
    ¬(cipher.sealBytes key iv (utf8Buffer p)).length < ivLength + 1 + tagLength := by
  have hplain : 0 < (utf8Buffer p).length := List.length_pos_iff.mpr (utf8Buffer_ne_nil hp)
  rw [Cipher.length_sealBytes, iv.property]
  omega

end

/-! ## Contact data of parents come back -/

namespace StudentPii
variable {cipher : Gcm} {env : Env} {key p : String} {iv : Iv}

theorem parseKey_of_isKeyHex (h : isKeyHex key = true) (name : String) :
    parseKey (some key) name = .ok (some (hexBuffer key.toList)) := by
  simp [parseKey, truthy_of_isKeyHex h, h]

theorem getKey_eq (hkey : env.key = some key) (h : isKeyHex key = true) :
    getKey env = .ok (some (hexBuffer key.toList)) := by
  rw [getKey, hkey, parseKey_of_isKeyHex h]

/-- A previous key that is fit for one is read, or there is none. -/
theorem getPreviousKey_ok (h : AbsentOrKey env.keyPrevious) :
    ∃ previousKey, getPreviousKey env = .ok previousKey := by
  unfold getPreviousKey parseKey
  split
  · exact ⟨_, rfl⟩
  · rename_i hex hhex
    exact ⟨_, if_pos (h hex hhex)⟩

theorem encrypt_enc {value : String} (h : startsWithEnc value = true) :
    encryptStudentPii cipher env iv value = .ok value := by
  by_cases hempty : value = "" <;> simp [encryptStudentPii, hempty, h] <;> rfl

theorem encrypt_plain (hkey : env.key = some key) (h : isKeyHex key = true) (hne : p ≠ "")
    (hp : startsWithEnc p = false) :
    encryptStudentPii cipher env iv p =
      .ok (encPrefix ++ hexText (cipher.sealBytes (hexBuffer key.toList) iv (utf8Buffer p))) := by
  simp [encryptStudentPii, hne, hp, getKey_eq hkey h]
  rfl

variable (iv) in
/-- What is sealed is decrypted with the current key, or else with the previous one. -/
theorem decrypt_sealed {K : Set (List UInt8)} (hideal : cipher.IdealOn K) {current : String}
    {previousKey : Option (List UInt8)} (hcurrent : env.key = some current)
    (h : isKeyHex current = true) (hprevious : getPreviousKey env = .ok previousKey)
    (hcurrentK : hexBuffer current.toList ∈ K) (hkeyK : hexBuffer key.toList ∈ K)
    (hkey : hexBuffer key.toList = hexBuffer current.toList ∨
      previousKey = some (hexBuffer key.toList)) (hne : p ≠ "") :
    decryptStudentPii cipher env
        (encPrefix ++ hexText (cipher.sealBytes (hexBuffer key.toList) iv (utf8Buffer p))) =
      .ok p := by
  have hopened : ([hexBuffer current.toList] ++ previousKey.toList).findSome? (fun candidate =>
      cipher.openBytes ivLength candidate
        (cipher.sealBytes (hexBuffer key.toList) iv (utf8Buffer p))) = some (utf8Buffer p) := by
    rcases hkey with heq | rfl
    · rw [← heq, List.findSome?_append, List.findSome?_singleton,
        hideal.openBytes_self iv.property hkeyK, Option.some_or]
    · exact hideal.findSome?_openBytes iv.property (by simp [hcurrentK, hkeyK]) (by simp) _
  simp only [decryptStudentPii, encPrefix_append_ne, startsWithEnc_append, sliceEnc_append,
    getKey_eq hcurrent h, hexBuffer_hexText, sealed_length hne, hprevious, bind, Except.bind,
    hopened, utf8Text_utf8Buffer]
  rfl

/-- Trimming and lower-casing leave an encrypted value as it is. -/
theorem setParentEmail_enc {toLowerCase : String → String}
    (hlower : ∀ text : String, (∀ c ∈ text.toList, c.toNat < 128) →
      toLowerCase text = String.ofList (text.toList.map Char.toLower)) (bytes : List UInt8) :
    setParentEmail toLowerCase (encPrefix ++ hexText bytes) = encPrefix ++ hexText bytes := by
  have hstart : ∀ c ∈ encPrefix.toList,
      c.toLower = c ∧ c.toNat < 128 ∧ isJsSpace c = false ∧ c ≠ ',' := by
    have hfour : encPrefix.toList = ['e', 'n', 'c', ':'] := rfl
    rw [hfour]
    simp only [List.forall_mem_cons]
    exact ⟨by decide, by decide, by decide, by decide, by simp⟩
  have hall : ∀ c ∈ (encPrefix ++ hexText bytes).toList,
      c.toLower = c ∧ c.toNat < 128 ∧ isJsSpace c = false ∧ c ≠ ',' := by
    intro c hc
    rw [String.toList_append, List.mem_append] at hc
    exact hc.elim (hstart c) (hexText_lower bytes c)
  rw [setParentEmail, jsTrim_of_no_space fun c hc => (hall c hc).2.2.1,
    hlower _ fun c hc => (hall c hc).2.1, List.map_congr_left fun c hc => (hall c hc).1, List.map_id',
    String.ofList_toList]

end StudentPii

/-! ## Webhook secrets come back -/

namespace WebhookSecret
variable {cipher : Gcm} {env : Env} {key p : String} {iv : Iv}

theorem getKey_eq (hkey : env.key = some key) (h : isKeyHex key = true) :
    getKey env = .ok (some (hexBuffer key.toList)) := by
  simp [getKey, hkey, truthy_of_isKeyHex h, h]
  rfl

theorem getPreviousKey_eq (hkey : (truthy env.keyOld).or (truthy env.keyPrevious) = some key)
    (h : isKeyHex key = true) : getPreviousKey env = .ok (some (hexBuffer key.toList)) := by
  simp [getPreviousKey, hkey, h]

theorem encrypt_enc {value : String} (h : startsWithEnc value = true) :
    encryptWebhookSecret cipher env iv value = .ok value := by
  by_cases hempty : value = "" <;> simp [encryptWebhookSecret, hempty, h] <;> rfl

theorem encrypt_plain (hkey : env.key = some key) (h : isKeyHex key = true) (hne : p ≠ "")
    (hp : startsWithEnc p = false) :
    encryptWebhookSecret cipher env iv p =
      .ok (encPrefix ++ base64urlText (cipher.sealBytes (hexBuffer key.toList) iv (utf8Buffer p))) := by
  simp [encryptWebhookSecret, hne, hp, getKey_eq hkey h]
  rfl

variable (iv) in
/-- What is sealed is decrypted with the current key, or else with the previous one. -/
theorem decrypt_sealed {K : Set (List UInt8)} (hideal : cipher.IdealOn K) {current : String}
    (hcurrent : env.key = some current) (h : isKeyHex current = true)
    (hcurrentK : hexBuffer current.toList ∈ K) (hkeyK : hexBuffer key.toList ∈ K)
    (hkey : hexBuffer key.toList = hexBuffer current.toList ∨
      getPreviousKey env = .ok (some (hexBuffer key.toList))) (hne : p ≠ "") :
    decryptWebhookSecret cipher env
        (encPrefix ++ base64urlText (cipher.sealBytes (hexBuffer key.toList) iv (utf8Buffer p))) =
      .ok p := by
  have hself : decryptWithKey cipher (cipher.sealBytes (hexBuffer key.toList) iv (utf8Buffer p))
      (hexBuffer key.toList) = some p := by
    rw [decryptWithKey, hideal.openBytes_self iv.property hkeyK, Option.map_some,
      utf8Text_utf8Buffer]
  simp only [decryptWebhookSecret, encPrefix_append_ne, startsWithEnc_append, sliceEnc_append,
    getKey_eq hcurrent h, base64Buffer_base64urlText, sealed_length hne, bind, Except.bind]
  by_cases heq : hexBuffer key.toList = hexBuffer current.toList
  · rw [heq] at hself ⊢
    rw [hself]
    rfl
  · have hother : decryptWithKey cipher (cipher.sealBytes (hexBuffer key.toList) iv (utf8Buffer p))
        (hexBuffer current.toList) = none := by
      rw [decryptWithKey, hideal.openBytes_other iv.property hkeyK hcurrentK heq]
      rfl
    simp only [hother, hkey.resolve_left heq, hself]
    rfl

end WebhookSecret

/-! ## At rest -/

/-- A plaintext stays what it is at rest: if it is not empty, it is stored encrypted; what it is encrypted
to is not encrypted again, and decrypts to it, also after the setter of the field, and also once the keys
are rotated. -/
def KeptAtRest {Env : Type} (encrypt : Env → Iv → String → Except String String)
    (decrypt : Env → String → Except String String) (setter : String → String)
    (current rotated : Env → Prop) (p : String) : Prop :=
  ∀ env iv, current env → ∃ v, encrypt env iv p = .ok v ∧ (p ≠ "" → startsWithEnc v = true) ∧
    (∀ iv', encrypt env iv' v = .ok v) ∧ decrypt env v = .ok p ∧ decrypt env (setter v) = .ok p ∧
    ∀ env', rotated env' → decrypt env' v = .ok p ∧ decrypt env' (setter v) = .ok p

section
variable {cipher : Gcm} {toLowerCase : String → String} {key newKey p : String}

theorem StudentPii.keptAtRest
    (hlower : ∀ text : String, (∀ c ∈ text.toList, c.toNat < 128) →
      toLowerCase text = String.ofList (text.toList.map Char.toLower))
    (hkey : isKeyHex key = true) (hnewKey : isKeyHex newKey = true)
    (hideal : cipher.IdealOn {hexBuffer key.toList, hexBuffer newKey.toList})
    (hp : startsWithEnc p = false) :
    KeptAtRest (StudentPii.encryptStudentPii cipher) (StudentPii.decryptStudentPii cipher)
      (StudentPii.setParentEmail toLowerCase)
      (fun env => env.key = some key ∧ AbsentOrKey env.keyPrevious)
      (fun env => env.key = some newKey ∧ env.keyPrevious = some key) p := by
  rintro env iv ⟨hcurrent, hprevious⟩
  by_cases hne : p = ""
  · -- nothing is encrypted, and the setter has nothing to change
    subst hne
    have hset : StudentPii.setParentEmail toLowerCase "" = "" := hlower "" (by simp)
    refine ⟨"", rfl, fun h => absurd rfl h, fun _ => rfl, rfl, ?_, fun env' _ => ⟨rfl, ?_⟩⟩
    · rw [hset]
      rfl
    · rw [hset]
      rfl
  · refine ⟨_, StudentPii.encrypt_plain hcurrent hkey hne hp, fun _ => startsWithEnc_append _,
      fun _ => StudentPii.encrypt_enc (startsWithEnc_append _), ?_⟩
    rw [StudentPii.setParentEmail_enc hlower]
    obtain ⟨previousKey, hpreviousKey⟩ := StudentPii.getPreviousKey_ok hprevious
    have hnow := StudentPii.decrypt_sealed iv hideal hcurrent hkey hpreviousKey (by simp)
      (by simp) (.inl rfl) hne
    refine ⟨hnow, hnow, ?_⟩
    rintro env' ⟨hrotated, hmoved⟩
    have hmovedKey : StudentPii.getPreviousKey env' = .ok (some (hexBuffer key.toList)) := by
      rw [StudentPii.getPreviousKey, hmoved, StudentPii.parseKey_of_isKeyHex hkey]
    have hlater := StudentPii.decrypt_sealed iv hideal hrotated hnewKey hmovedKey (by simp)
      (by simp) (.inr rfl) hne
    exact ⟨hlater, hlater⟩

theorem WebhookSecret.keptAtRest (hkey : isKeyHex key = true) (hnewKey : isKeyHex newKey = true)
    (hideal : cipher.IdealOn {hexBuffer key.toList, hexBuffer newKey.toList})
    (hp : startsWithEnc p = false) :
    KeptAtRest (WebhookSecret.encryptWebhookSecret cipher) (WebhookSecret.decryptWebhookSecret cipher)
      id
      (fun env => env.key = some key ∧
        AbsentOrKey ((truthy env.keyOld).or (truthy env.keyPrevious)))
      (fun env => env.key = some newKey ∧
        (truthy env.keyOld).or (truthy env.keyPrevious) = some key) p := by
  rintro env iv ⟨hcurrent, -⟩
  by_cases hne : p = ""
  · subst hne
    exact ⟨"", rfl, fun h => absurd rfl h, fun _ => rfl, rfl, rfl, fun _ _ => ⟨rfl, rfl⟩⟩
  · have hnow := WebhookSecret.decrypt_sealed iv hideal hcurrent hkey (by simp) (by simp)
      (.inl rfl) hne
    refine ⟨_, WebhookSecret.encrypt_plain hcurrent hkey hne hp, fun _ => startsWithEnc_append _,
      fun _ => WebhookSecret.encrypt_enc (startsWithEnc_append _), hnow, hnow, ?_⟩
    rintro env' ⟨hrotated, hmoved⟩
    have hlater := WebhookSecret.decrypt_sealed iv hideal hrotated hnewKey (by simp) (by simp)
      (.inr (WebhookSecret.getPreviousKey_eq hmoved hkey)) hne
    exact ⟨hlater, hlater⟩

/-- **Values at rest come back.** Contact data of parents and webhook secrets decrypt to what was
encrypted, under the key of the encryption and after it has become the previous one; the setter of
stored emails changes no encrypted value, and none is encrypted twice. -/
theorem at_rest_codecs (cipher : Gcm) (toLowerCase : String → String)
    (hlower : ∀ text : String, (∀ c ∈ text.toList, c.toNat < 128) →
      toLowerCase text = String.ofList (text.toList.map Char.toLower)) (key newKey : String)
    (hkey : isKeyHex key = true) (hnewKey : isKeyHex newKey = true)
    (hideal : cipher.IdealOn {hexBuffer key.toList, hexBuffer newKey.toList}) (p : String)
    (hp : startsWithEnc p = false) :
    KeptAtRest (StudentPii.encryptStudentPii cipher) (StudentPii.decryptStudentPii cipher)
        (StudentPii.setParentEmail toLowerCase)
        (fun env => env.key = some key ∧ AbsentOrKey env.keyPrevious)
        (fun env => env.key = some newKey ∧ env.keyPrevious = some key) p ∧
      KeptAtRest (WebhookSecret.encryptWebhookSecret cipher)
        (WebhookSecret.decryptWebhookSecret cipher) id
        (fun env => env.key = some key ∧
          AbsentOrKey ((truthy env.keyOld).or (truthy env.keyPrevious)))
        (fun env => env.key = some newKey ∧
          (truthy env.keyOld).or (truthy env.keyPrevious) = some key) p ∧
      ∀ value, startsWithEnc value = true →
        (∀ env iv, StudentPii.encryptStudentPii cipher env iv value = .ok value) ∧
        ∀ env iv, WebhookSecret.encryptWebhookSecret cipher env iv value = .ok value :=
  ⟨StudentPii.keptAtRest hlower hkey hnewKey hideal hp,
    WebhookSecret.keptAtRest hkey hnewKey hideal hp,
    fun _ henc => ⟨fun _ _ => StudentPii.encrypt_enc henc, fun _ _ => WebhookSecret.encrypt_enc henc⟩⟩

end

/-- A cipher whose tag is the front of its key. -/
def frontCipher : Gcm :=
  Cipher.ofTags (fun key => (key ++ List.replicate tagLength 0).take tagLength) fun key => by
    simp

theorem frontCipher_idealOn {K : Set (List UInt8)} (hK : ∀ key ∈ K, tagLength ≤ key.length)
    (hfront : Set.InjOn (List.take tagLength) K) : frontCipher.IdealOn K := by
  refine Cipher.ofTags_idealOn fun key hkey other hother heq => hfront hkey hother ?_
  simpa [List.take_append_of_le_length, hK key hkey, hK other hother] using heq

def zeroKey : String := String.ofList (List.replicate 64 '0')

def oneKey : String := String.ofList (List.replicate 64 '1')

theorem frontCipher_idealOn_keys :
    frontCipher.IdealOn {hexBuffer zeroKey.toList, hexBuffer oneKey.toList} := by
  refine frontCipher_idealOn ?_ ?_
  · rintro key (rfl | rfl) <;> decide
  · rintro key (rfl | rfl) other (rfl | rfl) <;> decide

/-- An email and a webhook secret, encrypted under one key and read under the next. -/
theorem at_rest_codecs_rotated :
    (∃ v, StudentPii.encryptStudentPii frontCipher ⟨some zeroKey, none, some "production", none⟩
          ⟨List.replicate 12 7, rfl⟩ "amaka@example.com" = .ok v ∧ startsWithEnc v = true ∧
      StudentPii.decryptStudentPii frontCipher ⟨some oneKey, some zeroKey, some "production", none⟩
          (StudentPii.setParentEmail (fun s => String.ofList (s.toList.map Char.toLower)) v) =
        .ok "amaka@example.com") ∧
    ∃ v, WebhookSecret.encryptWebhookSecret frontCipher
          ⟨some zeroKey, none, none, some "production", none⟩ ⟨List.replicate 12 7, rfl⟩
          "amaka@example.com" = .ok v ∧ startsWithEnc v = true ∧
      WebhookSecret.decryptWebhookSecret frontCipher
          ⟨some oneKey, some zeroKey, none, some "production", none⟩ v = .ok "amaka@example.com" := by
  obtain ⟨hstudent, hwebhook, -⟩ := at_rest_codecs frontCipher
    (fun s => String.ofList (s.toList.map Char.toLower)) (fun _ _ => rfl) zeroKey oneKey (by decide)
    (by decide) frontCipher_idealOn_keys "amaka@example.com" (by decide)
  obtain ⟨v, hv, henc, -, -, -, hrotated⟩ := hstudent
    ⟨some zeroKey, none, some "production", none⟩ ⟨List.replicate 12 7, rfl⟩
    ⟨rfl, fun _ h => by cases h⟩
  obtain ⟨w, hw, hwenc, -, -, -, hwrotated⟩ := hwebhook
    ⟨some zeroKey, none, none, some "production", none⟩ ⟨List.replicate 12 7, rfl⟩
    ⟨rfl, fun _ h => by cases h⟩
  exact ⟨⟨v, hv, henc (by decide),
      (hrotated ⟨some oneKey, some zeroKey, some "production", none⟩ ⟨rfl, rfl⟩).2⟩,
    ⟨w, hw, hwenc (by decide),
      (hwrotated ⟨some oneKey, some zeroKey, none, some "production", none⟩ ⟨rfl, by decide⟩).1⟩⟩

end StellarEduPay

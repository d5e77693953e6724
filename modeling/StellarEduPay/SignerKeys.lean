import StellarEduPay.AtRestCodecs

/-! # Signing keys (`utils/signerKeyManager.js`)

The secret keys of schools are stored encrypted under a master key, which is a variable of the
environment or, from a secrets provider, held in memory. The rotation decrypts with the old key by
putting it into the variable for a moment. A variable that was not set comes back as the text
`undefined`: assigning to the environment makes a string of everything.

The cipher is a parameter, ideal on the keys in play, and so is the check of a Stellar secret seed.
-/
namespace StellarEduPay
open AuthenticatedCipher

/-- The two variables of the environment, and `_cachedMasterKeyHex`. -/
structure SignerKeys where
  masterKey : Option String
  masterKeyOld : Option String
  cachedMasterKeyHex : Option String
  deriving DecidableEq, Repr

namespace SignerKeys

/-- `_validateHex` -/
def validateHex (hex label : String) : Except String Unit :=
  if isKeyHex hex then .ok ()
  else .error ("[signerKeyManager] " ++ label ++ " must be a 64-character hex string (32 bytes).")

def getMasterKey (s : SignerKeys) : Except String (List UInt8) := do
  match (truthy s.cachedMasterKeyHex).or (truthy s.masterKey) with
  | none =>
    throw ("[signerKeyManager] No signing master key available. Set SIGNER_MASTER_KEY directly, " ++
      "or configure SIGNER_KEY_SOURCE + call initializeMasterKey() at startup. " ++
      "Generate a key with: " ++ keyHint)
  | some hex =>
    validateHex hex
      (if (truthy s.cachedMasterKeyHex).isSome then "The resolved signing master key"
        else "SIGNER_MASTER_KEY")
    return hexBuffer hex.toList

section
variable (isValidEd25519SecretSeed : String → Bool) (cipher : Gcm)

def encryptSecretKey (s : SignerKeys) (iv : Iv) (secretKey : String) : Except String String := do
  if !isValidEd25519SecretSeed secretKey then
    throw "[signerKeyManager] Provided value is not a valid Stellar secret key."
  let key ← getMasterKey s
  return base64Text (cipher.sealBytes key iv (utf8Buffer secretKey))

def decryptSecretKey (s : SignerKeys) (encryptedBlob : Option String) : Except String String := do
  match truthy encryptedBlob with
  | none => throw "[signerKeyManager] encryptedBlob must be a non-empty string."
  | some blob =>
    let buf := base64Buffer blob.toList
    let minLength := ivLength + 1 + tagLength
    if buf.length < minLength then
      throw ("[signerKeyManager] encryptedBlob is too short (" ++ toString buf.length ++
        " bytes, expected ≥ " ++ toString minLength ++ ").")
    let key ← getMasterKey s
    match cipher.openBytes ivLength key buf with
    | none =>
      throw "[signerKeyManager] Decryption failed — wrong master key or tampered ciphertext."
    | some bytes =>
      let secretKey := utf8Text bytes
      if !isValidEd25519SecretSeed secretKey then
        throw ("[signerKeyManager] Decrypted value is not a valid Stellar secret key. " ++
          "The master key may be wrong or the blob may be corrupted.")
      return secretKey

/-- What a variable of the environment holds once a value is assigned to it. -/
def envText : Option String → String
  | some value => value
  | none => "undefined"

/-- The blob under the current key, or the error, and the keys as they are left. -/
def reEncryptSecretKey (s : SignerKeys) (iv : Iv) (oldEncryptedBlob : Option String) :
    Except String String × SignerKeys :=
  match truthy s.masterKeyOld with
  | none =>
    (.error ("[signerKeyManager] SIGNER_MASTER_KEY_OLD must be set for key rotation. " ++
      "Set it to the previous SIGNER_MASTER_KEY value."), s)
  | some oldKeyHex =>
    if !isKeyHex oldKeyHex then
      (.error "[signerKeyManager] SIGNER_MASTER_KEY_OLD must be a 64-character hex string.", s)
    else
      let originalEnv := s.masterKey
      let originalCache := s.cachedMasterKeyHex
      let overridden := { s with masterKey := some oldKeyHex, cachedMasterKeyHex := none }
      let secretKey := decryptSecretKey isValidEd25519SecretSeed cipher overridden oldEncryptedBlob
      -- the `finally`, after a decryption that returned and after one that threw
      let restored :=
        { overridden with masterKey := some (envText originalEnv), cachedMasterKeyHex := originalCache }
      (secretKey.bind (encryptSecretKey isValidEd25519SecretSeed cipher restored iv), restored)

end

/-! ## Keys and blobs -/

section
variable {isValidEd25519SecretSeed : String → Bool} {cipher : Gcm} {s : SignerKeys} {iv : Iv}
  {blob secretKey old : String} {key : List UInt8}

/-- The master key is read from the cache, or else from the environment. -/
theorem getMasterKey_eq_ok_iff :
    getMasterKey s = .ok key ↔ ∃ hex, (truthy s.cachedMasterKeyHex).or (truthy s.masterKey) = some hex ∧
      isKeyHex hex = true ∧ hexBuffer hex.toList = key := by
  unfold getMasterKey validateHex
  cases hhex : (truthy s.cachedMasterKeyHex).or (truthy s.masterKey) with
  | none => exact iff_of_false (fun h => by cases h) fun ⟨_, h, _⟩ => by cases h
  | some hex =>
    by_cases hvalid : isKeyHex hex = true <;> simp [hvalid, bind, Except.bind, pure, Except.pure]

theorem encryptSecretKey_eq (hvalid : isValidEd25519SecretSeed secretKey = true)
    (hkey : getMasterKey s = .ok key) :
    encryptSecretKey isValidEd25519SecretSeed cipher s iv secretKey =
      .ok (base64Text (cipher.sealBytes key iv (utf8Buffer secretKey))) := by
  simp [encryptSecretKey, hvalid, hkey, bind, Except.bind, pure, Except.pure]

theorem valid_of_encryptSecretKey
    (h : encryptSecretKey isValidEd25519SecretSeed cipher s iv secretKey = .ok blob) :
    isValidEd25519SecretSeed secretKey = true := by
  by_contra hvalid
  rw [Bool.not_eq_true] at hvalid
  simp [encryptSecretKey, hvalid, bind, Except.bind, throw, throwThe, MonadExceptOf.throw] at h

/-- Under the key of its encryption a blob decrypts to the secret key. -/
theorem decryptSecretKey_eq {K : Set (List UInt8)} (hideal : cipher.IdealOn K) (hkeyK : key ∈ K)
    (hvalid : isValidEd25519SecretSeed secretKey = true) (hne : secretKey ≠ "")
    (hkey : getMasterKey s = .ok key) :
    decryptSecretKey isValidEd25519SecretSeed cipher s
        (some (base64Text (cipher.sealBytes key iv (utf8Buffer secretKey)))) = .ok secretKey := by
  have hlength : ¬(cipher.sealBytes key iv (utf8Buffer secretKey)).length <
      ivLength + 1 + tagLength := sealed_length hne
  have htext : base64Text (cipher.sealBytes key iv (utf8Buffer secretKey)) ≠ "" := by
    intro hempty
    have hread := base64Buffer_base64Text (cipher.sealBytes key iv (utf8Buffer secretKey))
    rw [hempty] at hread
    rw [← hread] at hlength
    exact hlength (by decide)
  simp only [decryptSecretKey, truthy_of_ne htext, base64Buffer_base64Text, hlength, hkey,
    hideal.openBytes_self iv.property hkeyK, utf8Text_utf8Buffer, hvalid, bind, Except.bind]
  rfl

/-! ## The rotation -/

/-- The keys after the moment with the old key: all as before, but that the variable is set. -/
def afterOverride (s : SignerKeys) : SignerKeys := { s with masterKey := some (envText s.masterKey) }

/-- What the rotation does: without a fit old key it throws at once, otherwise it overrides. -/
theorem reEncryptSecretKey_cases (isValidEd25519SecretSeed : String → Bool) (cipher : Gcm)
    (s : SignerKeys) (iv : Iv) (oldBlob : Option String) :
    ((∀ old, truthy s.masterKeyOld = some old → isKeyHex old = false) ∧
        (reEncryptSecretKey isValidEd25519SecretSeed cipher s iv oldBlob).2 = s) ∨
      ∃ old, truthy s.masterKeyOld = some old ∧ isKeyHex old = true ∧
        reEncryptSecretKey isValidEd25519SecretSeed cipher s iv oldBlob =
          ((decryptSecretKey isValidEd25519SecretSeed cipher
              { s with masterKey := some old, cachedMasterKeyHex := none } oldBlob).bind
            (encryptSecretKey isValidEd25519SecretSeed cipher s.afterOverride iv),
            s.afterOverride) := by
  unfold reEncryptSecretKey
  cases hold : truthy s.masterKeyOld with
  | none => exact .inl ⟨by simp, rfl⟩
  | some old =>
    cases hvalid : isKeyHex old with
    | false => exact .inl ⟨by simp [hvalid], by simp [hvalid]⟩
    | true => exact .inr ⟨old, rfl, hvalid, by simp [hvalid, afterOverride]⟩

theorem afterOverride_eq_iff : s.afterOverride = s ↔ s.masterKey.isSome = true := by
  cases s with
  | mk masterKey masterKeyOld cached =>
    cases masterKey <;> simp [afterOverride, envText]

/-- A master key that is configured is the same afterwards. -/
theorem getMasterKey_afterOverride (hkey : getMasterKey s = .ok key) :
    getMasterKey s.afterOverride = .ok key := by
  obtain ⟨hex, hhex, hvalid, hbytes⟩ := getMasterKey_eq_ok_iff.mp hkey
  refine getMasterKey_eq_ok_iff.mpr ⟨hex, ?_, hvalid, hbytes⟩
  cases hmaster : s.masterKey with
  | some masterKey => rwa [afterOverride_eq_iff.mpr (by simp [hmaster])]
  | none =>
    -- the key is the cached one, which comes first
    have hcached : truthy s.cachedMasterKeyHex = some hex := by
      simpa [hmaster, truthy] using hhex
    simp [afterOverride, hcached]

end

/-! ## What the rotation keeps -/

section
variable {isValidEd25519SecretSeed : String → Bool} {cipher : Gcm}

/-- **The secret is kept**, under whatever the current key is read from. -/
theorem reEncryptSecretKey_secret (hempty : isValidEd25519SecretSeed "" = false) {s made : SignerKeys}
    {iv madeIv : Iv} {old secretKey blob : String} {current : List UInt8}
    (hold : truthy s.masterKeyOld = some old) (hcurrent : getMasterKey s = .ok current)
    (hmade : getMasterKey made = .ok (hexBuffer old.toList)) (hvalidOld : isKeyHex old = true)
    (hideal : cipher.IdealOn {hexBuffer old.toList, current})
    (hblob : encryptSecretKey isValidEd25519SecretSeed cipher made madeIv secretKey = .ok blob) :
    ∃ newBlob,
      (reEncryptSecretKey isValidEd25519SecretSeed cipher s iv (some blob)).1 = .ok newBlob ∧
      decryptSecretKey isValidEd25519SecretSeed cipher s (some newBlob) = .ok secretKey ∧
      decryptSecretKey isValidEd25519SecretSeed cipher
        (reEncryptSecretKey isValidEd25519SecretSeed cipher s iv (some blob)).2
        (some newBlob) = .ok secretKey := by
  have hvalid := valid_of_encryptSecretKey hblob
  have hne : secretKey ≠ "" := by
    rintro rfl
    rw [hempty] at hvalid
    cases hvalid
  rw [encryptSecretKey_eq hvalid hmade, Except.ok.injEq] at hblob
  subst hblob
  obtain ⟨hnone, -⟩ | ⟨old', hold', -, hcall⟩ := reEncryptSecretKey_cases isValidEd25519SecretSeed
    cipher s iv (some (base64Text (cipher.sealBytes (hexBuffer old.toList) madeIv
      (utf8Buffer secretKey))))
  · exact absurd (hnone old hold) (by simp [hvalidOld])
  obtain rfl : old = old' := Option.some.inj (hold.symm.trans hold')
  have hoverridden : getMasterKey { s with masterKey := some old, cachedMasterKeyHex := none } =
      .ok (hexBuffer old.toList) :=
    getMasterKey_eq_ok_iff.mpr ⟨old, truthy_of_isKeyHex hvalidOld, hvalidOld, rfl⟩
  have hafter := getMasterKey_afterOverride hcurrent
  rw [hcall, decryptSecretKey_eq hideal (by simp) hvalid hne hoverridden]
  exact ⟨_, encryptSecretKey_eq hvalid hafter,
    decryptSecretKey_eq hideal (by simp) hvalid hne hcurrent,
    decryptSecretKey_eq hideal (by simp) hvalid hne hafter⟩

end

/-- **The secret is kept, and the configuration where the variable is set.** A blob made under the old
key comes back under the current one, from wherever that is read. The environment and the cache are as
before the call, whether it returns or throws, exactly where `SIGNER_MASTER_KEY` is set or the call
ends before it is overridden. -/
theorem reEncryptSecretKey_keeps_iff (isValidEd25519SecretSeed : String → Bool)
    (hempty : isValidEd25519SecretSeed "" = false) (cipher : Gcm) (s : SignerKeys) (iv : Iv)
    (oldBlob : Option String) :
    (∀ old current secretKey blob made madeIv, truthy s.masterKeyOld = some old →
        getMasterKey s = .ok current → getMasterKey made = .ok (hexBuffer old.toList) →
        isKeyHex old = true → cipher.IdealOn {hexBuffer old.toList, current} →
        encryptSecretKey isValidEd25519SecretSeed cipher made madeIv secretKey = .ok blob →
        ∃ newBlob,
          (reEncryptSecretKey isValidEd25519SecretSeed cipher s iv (some blob)).1 = .ok newBlob ∧
          decryptSecretKey isValidEd25519SecretSeed cipher s (some newBlob) = .ok secretKey ∧
          decryptSecretKey isValidEd25519SecretSeed cipher
            (reEncryptSecretKey isValidEd25519SecretSeed cipher s iv (some blob)).2
            (some newBlob) = .ok secretKey) ∧
      ((reEncryptSecretKey isValidEd25519SecretSeed cipher s iv oldBlob).2 = s ↔
        s.masterKey.isSome = true ∨
          ∀ old, truthy s.masterKeyOld = some old → isKeyHex old = false) := by
  constructor
  · intro old current secretKey blob made madeIv hold hcurrent hmade hvalidOld hideal hblob
    exact reEncryptSecretKey_secret hempty hold hcurrent hmade hvalidOld hideal hblob
  · obtain ⟨hnone, hsame⟩ | ⟨old, hold, hvalidOld, hcall⟩ :=
      reEncryptSecretKey_cases isValidEd25519SecretSeed cipher s iv oldBlob
    · exact iff_of_true hsame (.inr hnone)
    · rw [hcall, afterOverride_eq_iff]
      refine ⟨.inl, fun h => h.resolve_right fun hnone => ?_⟩
      rw [hnone old hold] at hvalidOld
      cases hvalidOld

/-- A stand-in for the check of a secret seed: of its form only the length. -/
def hasSeedLength (seed : String) : Bool := seed.toList.length == 56

/-- The seed of 32 zero bytes. -/
def sampleSeed : String := String.ofList ('S' :: List.replicate 51 'A' ++ ['B', 'S', 'U', '2'])

def sampleIv : Iv := ⟨List.replicate ivLength 7, rfl⟩

/-- The blob of a seed under the key of ones. -/
def sampleBlob : String :=
  base64Text (frontCipher.sealBytes (hexBuffer oneKey.toList) sampleIv (utf8Buffer sampleSeed))

/-- The rotation from the key of ones to the key of zeros, both set as variables. -/
theorem reEncryptSecretKey_keeps_set :
    (∃ newBlob,
        (reEncryptSecretKey hasSeedLength frontCipher ⟨some zeroKey, some oneKey, none⟩ sampleIv
          (some sampleBlob)).1 = .ok newBlob ∧
        decryptSecretKey hasSeedLength frontCipher ⟨some zeroKey, some oneKey, none⟩
          (some newBlob) = .ok sampleSeed) ∧
      (reEncryptSecretKey hasSeedLength frontCipher ⟨some zeroKey, some oneKey, none⟩ sampleIv
        (some sampleBlob)).2 = ⟨some zeroKey, some oneKey, none⟩ := by
  obtain ⟨hsecret, hstate⟩ := reEncryptSecretKey_keeps_iff hasSeedLength (by decide) frontCipher
    ⟨some zeroKey, some oneKey, none⟩ sampleIv (some sampleBlob)
  have hcurrent : getMasterKey ⟨some zeroKey, some oneKey, none⟩ = .ok (hexBuffer zeroKey.toList) :=
    getMasterKey_eq_ok_iff.mpr ⟨zeroKey, by decide, by decide, rfl⟩
  have hmade : getMasterKey ⟨some oneKey, none, none⟩ = .ok (hexBuffer oneKey.toList) :=
    getMasterKey_eq_ok_iff.mpr ⟨oneKey, by decide, by decide, rfl⟩
  obtain ⟨newBlob, hnew, hdecrypted, -⟩ := hsecret oneKey _ sampleSeed sampleBlob _ sampleIv (by decide)
    hcurrent hmade (by decide) (Set.pair_comm _ _ ▸ frontCipher_idealOn_keys)
    (encryptSecretKey_eq (by decide) hmade)
  exact ⟨⟨newBlob, hnew, hdecrypted⟩, hstate.mpr (.inl rfl)⟩

/-- With the master key from a secrets provider and the variable not set, it is set to a text
afterwards. -/
theorem reEncryptSecretKey_not_restored :
    (reEncryptSecretKey hasSeedLength frontCipher ⟨none, some oneKey, some zeroKey⟩ sampleIv
        (some sampleBlob)).2 = ⟨some "undefined", some oneKey, some zeroKey⟩ ∧
      (reEncryptSecretKey hasSeedLength frontCipher ⟨none, some oneKey, some zeroKey⟩ sampleIv
        (some sampleBlob)).2 ≠ ⟨none, some oneKey, some zeroKey⟩ := by
  obtain ⟨hnone, -⟩ | ⟨old, -, -, hcall⟩ := reEncryptSecretKey_cases hasSeedLength frontCipher
    ⟨none, some oneKey, some zeroKey⟩ sampleIv (some sampleBlob)
  · exact absurd (hnone oneKey (by decide)) (by decide)
  · rw [hcall]
    exact ⟨rfl, fun h => by cases h⟩

end SignerKeys

end StellarEduPay

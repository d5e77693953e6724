import StellarEduPay.BufferText
import StellarEduPay.JsonContent

/-! # Fingerprints of requests (`utils/idempotencyKey.js`)

An idempotency key that comes again has to come with the same request, and a request is known by the
hash of its canonical text: its JSON with the keys of every object in order. Two values have one
canonical text exactly if they have the same content, so the fingerprints differ exactly if the contents
do, as far as the hash takes no two texts to one value.
-/
namespace StellarEduPay
open JsonText

namespace IdempotencyKey

/-- A value that was parsed: an object has no key twice. -/
structure Body where
  value : Json
  distinctKeys : DistinctKeys value

/-! ## The canonical text -/

/-- `JSON.stringify` -/
def stringify (value : Json) : String := String.ofList (text value)

mutual

/-- The keys, sorted by their code units, are looked up again in the object: the members are taken by
sorted keys. -/
def canonicalize : Json → String
  | .scalar s => stringify (.scalar s)
  | .string s => stringify (.string s)
  | .array items => "[" ++ ",".intercalate (canonicalizeItems items) ++ "]"
  | .object members =>
    let entries := (canonicalizeMembers members).insertionSort fun m n => utf16 m.1 ≤ utf16 n.1
    "\x7b" ++ ",".intercalate (entries.map fun (k, t) => stringify (.string k) ++ ":" ++ t) ++ "\x7d"

def canonicalizeItems : List Json → List String
  | [] => []
  | item :: rest => canonicalize item :: canonicalizeItems rest

/-- The members, each with the canonical text of its value. -/
def canonicalizeMembers : List (String × Json) → List (String × String)
  | [] => []
  | (key, value) :: rest => (key, canonicalize value) :: canonicalizeMembers rest

end

/-- The body is `none` where the request has none. -/
def fingerprintRequest (sha256 : List UInt8 → List UInt8) (body : Option Body) : String :=
  let canonical :=
    match body with
    | none => "null"
    | some body => canonicalize body.value
  hexText (sha256 (utf8Buffer canonical))

/-! ## The text of the sorted value -/

theorem itemsText_eq : ∀ items : List Json,
    itemsText true items = [','].intercalate (items.map text) ++ [']']
  | [] => rfl
  | [x] => by simp [itemsText]
  | x :: y :: rest => by
    have hrest : itemsText false (y :: rest) = ',' :: itemsText true (y :: rest) := by
      simp [itemsText]
    rw [itemsText, hrest, itemsText_eq (y :: rest)]
    simp

/-- A member as it is written. -/
def memberText (m : String × Json) : List Char := '"' :: quoted m.1.toList ++ ':' :: text m.2

theorem membersText_eq : ∀ members : List (String × Json),
    membersText true members = [','].intercalate (members.map memberText) ++ ['}']
  | [] => rfl
  | [m] => by simp [membersText, memberText]
  | m :: n :: rest => by
    have hrest : membersText false (n :: rest) = ',' :: membersText true (n :: rest) := by
      simp [membersText]
    rw [membersText, hrest, membersText_eq (n :: rest)]
    simp [memberText]

theorem stringify_array (items : List Json) :
    stringify (.array items) = "[" ++ ",".intercalate (items.map stringify) ++ "]" := by
  rw [← String.toList_inj, stringify, text, itemsText_eq]
  simp [String.toList_append, String.toList_intercalate, stringify, Function.comp_def]

theorem stringify_object (members : List (String × Json)) :
    stringify (.object members) = "\x7b" ++ ",".intercalate
      (members.map fun m => stringify (.string m.1) ++ ":" ++ stringify m.2) ++ "\x7d" := by
  rw [← String.toList_inj, stringify, text, membersText_eq]
  simp [String.toList_append, String.toList_intercalate, stringify, Function.comp_def, text]
  rfl

/-- The members are sorted by their keys, whatever becomes of their values. -/
theorem map_insertionSort_values (f : Json → String) (members : List (String × Json)) :
    (members.insertionSort (KeyLE utf16)).map (fun m => (m.1, f m.2)) =
      (members.map fun m => (m.1, f m.2)).insertionSort fun m n => utf16 m.1 ≤ utf16 n.1 :=
  List.map_insertionSort _ _ _ _ fun _ _ _ _ => Iff.rfl

mutual

/-- **The canonical text is that of the sorted value.** -/
theorem canonicalize_eq : ∀ v : Json, canonicalize v = stringify (sortKeys utf16 v)
  | .scalar s => rfl
  | .string s => rfl
  | .array items => by
    rw [canonicalize, sortKeys, stringify_array, canonicalizeItems_eq items]
  | .object members => by
    rw [canonicalize, sortKeys, stringify_object, canonicalizeMembers_eq members]
    rw [← map_insertionSort_values, List.map_map]
    rfl

theorem canonicalizeItems_eq : ∀ items : List Json,
    canonicalizeItems items = (sortKeysItems utf16 items).map stringify
  | [] => rfl
  | item :: rest => by
    rw [canonicalizeItems, sortKeysItems, List.map_cons, canonicalize_eq item,
      canonicalizeItems_eq rest]

theorem canonicalizeMembers_eq : ∀ members : List (String × Json),
    canonicalizeMembers members =
      (sortKeysMembers utf16 members).map fun m => (m.1, stringify m.2)
  | [] => rfl
  | (key, value) :: rest => by
    rw [canonicalizeMembers, sortKeysMembers, List.map_cons, canonicalize_eq value,
      canonicalizeMembers_eq rest]

end

/-! ## Canonical for the content -/

theorem canonicalize_eq_iff (a b : Body) :
    canonicalize a.value = canonicalize b.value ↔ SameContent a.value b.value := by
  rw [canonicalize_eq, canonicalize_eq, stringify, stringify, String.ofList_inj,
    text_injective.eq_iff, sortKeys_eq_iff utf16_injective _ _ a.distinctKeys b.distinctKeys]

/-- **Request fingerprints are canonical.** Two values have the same canonical text exactly if they are
the same up to the order of keys at every depth, and two requests have different fingerprints exactly if
their bodies are not, where the hash does not take their two texts to one value. -/
theorem fingerprints_canonical (sha256 : List UInt8 → List UInt8) (a b : Body) :
    (canonicalize a.value = canonicalize b.value ↔ SameContent a.value b.value) ∧
      ((sha256 (utf8Buffer (canonicalize a.value)) = sha256 (utf8Buffer (canonicalize b.value)) →
          utf8Buffer (canonicalize a.value) = utf8Buffer (canonicalize b.value)) →
        (fingerprintRequest sha256 (some a) ≠ fingerprintRequest sha256 (some b) ↔
          ¬SameContent a.value b.value)) := by
  refine ⟨canonicalize_eq_iff a b, fun hfree => not_congr ?_⟩
  rw [fingerprintRequest, fingerprintRequest, hexText_inj, ← canonicalize_eq_iff,
    ← utf8Buffer_inj (a := canonicalize a.value)]
  exact ⟨hfree, fun h => by rw [h]⟩

/-- A sum and its currency, and the same with the keys in the other order. -/
def amountFirst : Body where
  value := .object [("amount", .string "5"), ("currency", .string "XLM")]
  distinctKeys := by simp [DistinctKeys, DistinctKeysMembers]

def currencyFirst : Body where
  value := .object [("currency", .string "XLM"), ("amount", .string "5")]
  distinctKeys := by simp [DistinctKeys, DistinctKeysMembers]

/-- The hash that keeps everything is free of collisions, and does not tell the two apart. -/
theorem fingerprints_canonical_reordered :
    canonicalize amountFirst.value = canonicalize currencyFirst.value ∧
      ¬fingerprintRequest id (some amountFirst) ≠ fingerprintRequest id (some currencyFirst) := by
  have hsame : SameContent amountFirst.value currencyFirst.value :=
    .object (.cons (.string _) (.cons (.string _) .nil)) (List.Perm.swap _ _ _)
  obtain ⟨htext, hhash⟩ := fingerprints_canonical id amountFirst currencyFirst
  exact ⟨htext.mpr hsame, fun hne => (hhash id).mp hne hsame⟩

end IdempotencyKey

end StellarEduPay

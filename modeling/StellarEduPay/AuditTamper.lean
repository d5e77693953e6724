import Mathlib.Data.List.Induction
import Mathlib.Data.List.Sort
import StellarEduPay.JsString
import StellarEduPay.JsonText

/-! # What the audit chain holds fast (`services/auditService.js`)

`_computeEntryHash` takes the HMAC of the JSON of an entry's fields, nested details and all, with
the hash of the entry before it among them; `verifyAuditChain` recomputes the hashes and follows the
links. Here an entry has whatever values are stored in its fields, of any type, or none.

The JSON of the fields can be read back, and the first entry that passes links to nothing, so two
logs that pass and end with the same hash are the same, up to what `_canonicalize` identifies. -/

namespace StellarEduPay
open JsonText

/-! ## Values and their canonical JSON -/

/-- A value of a stored document: `undefined` of a field that is absent, a number or none for one
that is not finite, an `ObjectId` by its hex digits, and for an object its own enumerable members. -/
inductive StoredValue where
  | undefined
  | null
  | bool (b : Bool)
  | number (n : Option Number)
  | string (s : String)
  | date (ms : Int)
  | objectId (hex : String)
  | array (items : List StoredValue)
  | object (members : List (String × StoredValue))

/-- A key that is an array index. -/
def isArrayIndex (key : String) : Bool :=
  key = toString (decimalValue key) && decimalValue key < 4294967295

/-- The members of `out` in the order they are listed in: they are assigned by sorted keys, and an
object lists array indices first. An assignment to `__proto__` makes no member. -/
def listedMembers (members : List (String × Json)) : List (String × Json) :=
  let sorted := (members.filter (·.1 ≠ "__proto__")).insertionSort (utf16 ·.1 ≤ utf16 ·.1)
  let (indices, names) := sorted.partition (isArrayIndex ·.1)
  indices.insertionSort (decimalValue ·.1 ≤ decimalValue ·.1) ++ names

mutual

/-- `_canonicalize`, as `JSON.stringify` reads what it returns. -/
def canonicalize : StoredValue → Json
  | .undefined => .scalar .null
  | .null => .scalar .null
  | .bool b => .scalar (.bool b)
  | .number n => .scalar (n.elim .null .number)
  | .string s => .string s
  | .date ms => .object [("$date", .string (toISOString ms))]
  | .objectId hex => .object [("$oid", .string hex)]
  | .array items => .array (canonicalizeItems items)
  | .object members => .object (listedMembers (canonicalizeMembers members))

def canonicalizeItems : List StoredValue → List Json
  | [] => []
  | item :: rest => canonicalize item :: canonicalizeItems rest

def canonicalizeMembers : List (String × StoredValue) → List (String × Json)
  | [] => []
  | (key, value) :: rest => (key, canonicalize value) :: canonicalizeMembers rest

end

/-- `_canonicalStringify` -/
def canonicalStringify (value : StoredValue) : String := String.ofList (text (canonicalize value))

namespace StoredValue

/-- `?? null` -/
def orNull : StoredValue → StoredValue
  | .undefined => .null
  | value => value

/-- A date by its text; anything else is as it was. -/
def isoDate : StoredValue → StoredValue
  | .date ms => .string (toISOString ms)
  | value => value

def isDate : StoredValue → Bool
  | .date _ => true
  | _ => false

/-- `===`; two objects read from the store are never the same one. -/
def strictEq : StoredValue → StoredValue → Bool
  | .undefined, .undefined => true
  | .null, .null => true
  | .bool a, .bool b => a == b
  | .number (some a), .number (some b) => a.text == b.text
  | .string s, .string t => s == t
  | _, _ => false

end StoredValue

/-! ## The log -/

/-- An entry as it is read from the store. -/
structure StoredEntry where
  _id : StoredValue
  schoolId : StoredValue
  action : StoredValue
  performedBy : StoredValue
  targetId : StoredValue
  targetType : StoredValue
  details : StoredValue
  result : StoredValue
  errorMessage : StoredValue
  ipAddress : StoredValue
  prevHash : StoredValue
  createdAt : StoredValue
  entryHash : StoredValue

namespace StoredEntry

/-- The fields `_computeEntryHash` writes out. -/
def hashedFields (entry : StoredEntry) : List (String × StoredValue) :=
  [("schoolId", entry.schoolId), ("action", entry.action), ("performedBy", entry.performedBy),
    ("targetId", entry.targetId), ("targetType", entry.targetType), ("details", entry.details),
    ("result", entry.result), ("errorMessage", entry.errorMessage.orNull),
    ("ipAddress", entry.ipAddress.orNull), ("prevHash", entry.prevHash.orNull),
    ("createdAt", entry.createdAt.isoDate)]

/-- The text that is hashed. -/
def canonical (entry : StoredEntry) : String := canonicalStringify (.object entry.hashedFields)

end StoredEntry

namespace StoredLog
variable (hmac : String → String)

/-- `_computeEntryHash` -/
def computeEntryHash (entry : StoredEntry) : String := hmac entry.canonical

/-- The loop of `verifyAuditChain`: the entries that are reported, with the reason. -/
def verifyEntries : StoredValue → List StoredEntry → List (StoredValue × String)
  | _, [] => []
  | prevHash, entry :: rest =>
    let recomputed := computeEntryHash hmac entry
    let broken := verifyEntries entry.entryHash rest
    if !(StoredValue.string recomputed).strictEq entry.entryHash then
      (entry._id, "entryHash_mismatch") :: broken
    else if !entry.prevHash.strictEq prevHash then (entry._id, "chain_link_broken") :: broken
    else broken

/-- What `verifyAuditChain` returns. -/
structure ChainReport where
  ok : Bool
  scanned : Nat
  broken : List (StoredValue × String)

/-- `verifyAuditChain`, of the entries of the school in order of `seq`. -/
def verifyAuditChain (limit : Nat) (log : List StoredEntry) : ChainReport :=
  let entries := log.take limit
  let broken := verifyEntries hmac .null entries
  ⟨broken.isEmpty, entries.length, broken⟩

end StoredLog

/-! ## What the canonical form keeps -/

section
variable {fs gs : List (String × StoredValue)} {ms : List (String × Json)}
  {x y : StoredValue} {key : String}

theorem mem_listedMembers {m : String × Json} (h : m.1 ≠ "__proto__") :
    m ∈ listedMembers ms ↔ m ∈ ms := by
  simp only [listedMembers, List.partition_eq_filter_filter, List.mem_append,
    List.mem_insertionSort, List.mem_filter]
  cases hindex : isArrayIndex m.1 <;> simp [h, hindex]

theorem canonicalizeMembers_eq_map :
    canonicalizeMembers fs = fs.map fun m => (m.1, canonicalize m.2) := by
  induction fs with
  | nil => rfl
  | cons m rest ih => rw [canonicalizeMembers, ih, List.map_cons]

theorem mem_canonicalizeMembers (h : (key, x) ∈ fs) :
    (key, canonicalize x) ∈ canonicalizeMembers fs := by
  rw [canonicalizeMembers_eq_map]
  exact List.mem_map_of_mem h

/-- Objects with one canonical form have one canonical form under each key. -/
theorem canonicalize_member (hkeys : (gs.map Prod.fst).Nodup)
    (h : canonicalize (.object fs) = canonicalize (.object gs)) (hkey : key ≠ "__proto__")
    (hx : (key, x) ∈ fs) (hy : (key, y) ∈ gs) : canonicalize x = canonicalize y := by
  simp only [canonicalize, Json.object.injEq] at h
  have hmem : (key, canonicalize x) ∈ listedMembers (canonicalizeMembers gs) :=
    h ▸ (mem_listedMembers hkey).mpr (mem_canonicalizeMembers hx)
  rw [mem_listedMembers hkey, canonicalizeMembers_eq_map, List.mem_map] at hmem
  obtain ⟨⟨key', y'⟩, hy', heq⟩ := hmem
  obtain ⟨rfl, hsame⟩ := Prod.mk.inj heq
  rw [← hsame, List.inj_on_of_nodup_map hkeys hy' hy rfl]

/-- Objects with the same keys and one canonical form have the same canonical values. -/
theorem canonicalize_values (hsame : fs.map Prod.fst = gs.map Prod.fst)
    (hkeys : (gs.map Prod.fst).Nodup) (hproto : "__proto__" ∉ gs.map Prod.fst)
    (h : canonicalize (.object fs) = canonicalize (.object gs)) :
    fs.map (canonicalize ·.2) = gs.map (canonicalize ·.2) := by
  have hlength : fs.length = gs.length := by simpa using congrArg List.length hsame
  refine List.ext_getElem (by simpa using hlength) fun i hi hi' => ?_
  rw [List.length_map] at hi hi'
  rw [List.getElem_map, List.getElem_map]
  have hkey : fs[i].1 = gs[i].1 := by
    rw [← List.getElem_map Prod.fst (h := by simpa), ← List.getElem_map Prod.fst (h := by simpa)]
    simp only [hsame]
  have hmem : (gs[i].1, fs[i].2) ∈ fs := hkey ▸ List.getElem_mem hi
  have hne : gs[i].1 ≠ "__proto__" := fun heq =>
    hproto (heq ▸ List.mem_map_of_mem (List.getElem_mem hi'))
  exact canonicalize_member hkeys h hne hmem (List.getElem_mem hi')

theorem canonicalStringify_inj (h : canonicalStringify x = canonicalStringify y) :
    canonicalize x = canonicalize y :=
  text_injective (String.ofList_inj.mp h)

theorem canonicalize_orNull (x : StoredValue) : canonicalize x.orNull = canonicalize x := by
  cases x <;> rfl

theorem canonicalize_of_isoDate (h : canonicalize x.isoDate = canonicalize y.isoDate)
    (hdate : x.isDate = y.isDate) : canonicalize x = canonicalize y := by
  -- Two dates are all that is left.
  cases x <;> cases y <;> first | exact h | cases hdate
  simp only [StoredValue.isoDate, canonicalize, Json.string.injEq] at h
  rw [canonicalize, canonicalize, h]

end

/-! ## The chain -/

/-- Two entries agree on everything that is hashed, up to `_canonicalStringify`. A date is hashed as
its text is, so of the time of an entry the text agrees, and the value where both or neither is a
date, as the time stamps of the schema are. -/
structure StoredEntry.Agree (e f : StoredEntry) : Prop where
  schoolId : canonicalStringify e.schoolId = canonicalStringify f.schoolId
  action : canonicalStringify e.action = canonicalStringify f.action
  performedBy : canonicalStringify e.performedBy = canonicalStringify f.performedBy
  targetId : canonicalStringify e.targetId = canonicalStringify f.targetId
  targetType : canonicalStringify e.targetType = canonicalStringify f.targetType
  details : canonicalStringify e.details = canonicalStringify f.details
  result : canonicalStringify e.result = canonicalStringify f.result
  errorMessage : canonicalStringify e.errorMessage = canonicalStringify f.errorMessage
  ipAddress : canonicalStringify e.ipAddress = canonicalStringify f.ipAddress
  prevHash : canonicalStringify e.prevHash = canonicalStringify f.prevHash
  createdAt : canonicalStringify e.createdAt.isoDate = canonicalStringify f.createdAt.isoDate
  createdAt_value : e.createdAt.isDate = f.createdAt.isDate →
    canonicalStringify e.createdAt = canonicalStringify f.createdAt

/-- The HMAC does not take two texts of the logs to one hash. -/
def CollisionFree (hmac : String → String) (log₁ log₂ : List StoredEntry) : Prop :=
  ∀ e ∈ log₁, ∀ f ∈ log₂, hmac e.canonical = hmac f.canonical → e.canonical = f.canonical

theorem StoredEntry.hashedFields_keys (e : StoredEntry) :
    e.hashedFields.map Prod.fst = ["schoolId", "action", "performedBy", "targetId", "targetType",
      "details", "result", "errorMessage", "ipAddress", "prevHash", "createdAt"] :=
  rfl

/-- Entries whose hashed texts are the same agree. -/
theorem StoredEntry.agree_of_canonical {e f : StoredEntry} (h : e.canonical = f.canonical) :
    e.Agree f := by
  have hvalues := canonicalize_values
    (show e.hashedFields.map Prod.fst = f.hashedFields.map Prod.fst from rfl)
    (by rw [hashedFields_keys]; decide) (by rw [hashedFields_keys]; decide)
    (canonicalStringify_inj h)
  simp only [hashedFields, List.map_cons, List.map_nil, List.cons.injEq, canonicalize_orNull,
    and_true] at hvalues
  obtain ⟨hschool, haction, hby, htarget, htype, hdetails, hresult, herror, hip, hprev, hcreated⟩ :=
    hvalues
  have htext : ∀ {x y : StoredValue}, canonicalize x = canonicalize y →
      canonicalStringify x = canonicalStringify y := fun hxy => by
    rw [canonicalStringify, canonicalStringify, hxy]
  exact ⟨htext hschool, htext haction, htext hby, htext htarget, htext htype, htext hdetails,
    htext hresult, htext herror, htext hip, htext hprev, htext hcreated,
    fun hdate => htext (canonicalize_of_isoDate hcreated hdate)⟩

namespace StoredValue
variable {v : StoredValue} {s : String}

theorem string_strictEq : (string s).strictEq v = true ↔ v = .string s := by
  cases v with
  | string t =>
    rw [strictEq, beq_iff_eq, string.injEq]
    exact eq_comm
  | _ => simp [strictEq]

theorem strictEq_string : v.strictEq (.string s) = true ↔ v = .string s := by
  cases v with
  | number n => cases n <;> simp [strictEq]
  | _ => simp [strictEq]

theorem strictEq_null : v.strictEq .null = true ↔ v = .null := by
  cases v with
  | number n => cases n <;> simp [strictEq]
  | _ => simp [strictEq]

end StoredValue

namespace StoredLog
variable {hmac : String → String} {prevHash : StoredValue} {e f : StoredEntry}
  {log log₁ log₂ : List StoredEntry}

/-- What the entry after a log has to link to. -/
def lastHash (prevHash : StoredValue) (log : List StoredEntry) : StoredValue :=
  log.getLast?.elim prevHash StoredEntry.entryHash

theorem lastHash_concat : lastHash prevHash (log ++ [e]) = e.entryHash := by
  rw [lastHash, List.getLast?_concat]
  rfl

theorem verifyEntries_cons : verifyEntries hmac prevHash (e :: log) = [] ↔
    e.entryHash = .string (computeEntryHash hmac e) ∧ e.prevHash.strictEq prevHash = true ∧
      verifyEntries hmac e.entryHash log = [] := by
  rw [verifyEntries, ← StoredValue.string_strictEq]
  cases (StoredValue.string (computeEntryHash hmac e)).strictEq e.entryHash <;>
    cases e.prevHash.strictEq prevHash <;> simp

/-- A log passes with one more entry if it passes, and the entry has its hash and links back. -/
theorem verifyEntries_concat : verifyEntries hmac prevHash (log ++ [e]) = [] ↔
    verifyEntries hmac prevHash log = [] ∧ e.entryHash = .string (computeEntryHash hmac e) ∧
      e.prevHash.strictEq (lastHash prevHash log) = true := by
  induction log generalizing prevHash with
  | nil =>
    rw [List.nil_append, verifyEntries_cons]
    simp [verifyEntries, lastHash]
  | cons d log ih =>
    have hlast : lastHash prevHash (d :: log) = lastHash d.entryHash log := by
      rw [lastHash, lastHash, List.getLast?_cons]
      cases log.getLast? <;> rfl
    rw [List.cons_append, verifyEntries_cons, ih, verifyEntries_cons, hlast]
    tauto

/-- A log that passes ends with a hash, or is empty. -/
theorem lastHash_cases (h : verifyEntries hmac .null log = []) :
    lastHash .null log = .null ∧ log = [] ∨ ∃ s, lastHash .null log = .string s := by
  rcases List.eq_nil_or_concat' log with rfl | ⟨log, e, rfl⟩
  · exact .inl ⟨rfl, rfl⟩
  · exact .inr ⟨_, lastHash_concat.trans (verifyEntries_concat.mp h).2.1⟩

/-- An entry of a log that passes has the value it has to link to. -/
theorem prevHash_eq (h : verifyEntries hmac .null log = [])
    (hlink : e.prevHash.strictEq (lastHash .null log) = true) :
    e.prevHash = lastHash .null log := by
  rcases lastHash_cases h with ⟨hnull, -⟩ | ⟨s, hs⟩
  · rw [hnull] at hlink ⊢
    exact StoredValue.strictEq_null.mp hlink
  · rw [hs] at hlink ⊢
    exact StoredValue.strictEq_string.mp hlink

/-- Of the values to link to, the canonical form tells which it is. -/
theorem lastHash_inj (h₁ : verifyEntries hmac .null log₁ = [])
    (h₂ : verifyEntries hmac .null log₂ = [])
    (h : canonicalize (lastHash .null log₁) = canonicalize (lastHash .null log₂)) :
    lastHash .null log₁ = lastHash .null log₂ := by
  rcases lastHash_cases h₁ with ⟨hl, -⟩ | ⟨s, hl⟩ <;>
    rcases lastHash_cases h₂ with ⟨hr, -⟩ | ⟨t, hr⟩ <;>
    rw [hl, hr] at h ⊢ <;> simp only [canonicalize] at h <;> cases h
  rfl

/-- Logs that pass and end with one hash agree, from the last entry back to the first. -/
theorem agree_of_lastHash (hfree : CollisionFree hmac log₁ log₂)
    (h₁ : verifyEntries hmac .null log₁ = []) (h₂ : verifyEntries hmac .null log₂ = [])
    (hlast : lastHash .null log₁ = lastHash .null log₂) :
    List.Forall₂ StoredEntry.Agree log₁ log₂ := by
  induction log₁ using List.reverseRecOn generalizing log₂ with
  | nil =>
    rcases lastHash_cases h₂ with ⟨-, rfl⟩ | ⟨s, hs⟩
    · exact .nil
    · rw [hs] at hlast
      cases hlast
  | append_singleton log₁ e ih =>
    rcases List.eq_nil_or_concat' log₂ with rfl | ⟨log₂, f, rfl⟩
    · rw [lastHash_concat, (verifyEntries_concat.mp h₁).2.1] at hlast
      cases hlast
    rw [verifyEntries_concat] at h₁ h₂
    obtain ⟨hinit₁, hhash₁, hlink₁⟩ := h₁
    obtain ⟨hinit₂, hhash₂, hlink₂⟩ := h₂
    rw [lastHash_concat, lastHash_concat, hhash₁, hhash₂] at hlast
    have hagree : e.Agree f := StoredEntry.agree_of_canonical
      (hfree e (by simp) f (by simp) (StoredValue.string.inj hlast))
    have hprev := canonicalStringify_inj hagree.prevHash
    rw [prevHash_eq hinit₁ hlink₁, prevHash_eq hinit₂ hlink₂] at hprev
    have hrest := ih (fun e he f hf => hfree e (List.mem_append_left _ he) f
      (List.mem_append_left _ hf)) hinit₁ hinit₂ (lastHash_inj hinit₁ hinit₂ hprev)
    exact List.rel_append hrest (.cons hagree .nil)

end StoredLog

/-- **The chain is tamper evident**: two logs that pass and end with the same hash are as long as
each other and agree entry by entry. -/
theorem audit_chain_tamper_evident (hmac : String → String) (limit₁ limit₂ : Nat)
    (log₁ log₂ : List StoredEntry) (hne₁ : log₁ ≠ []) (hne₂ : log₂ ≠ [])
    (hlimit₁ : log₁.length ≤ limit₁) (hlimit₂ : log₂.length ≤ limit₂)
    (hok₁ : (StoredLog.verifyAuditChain hmac limit₁ log₁).ok = true)
    (hok₂ : (StoredLog.verifyAuditChain hmac limit₂ log₂).ok = true)
    (hfree : CollisionFree hmac log₁ log₂)
    (hlast : (log₁.getLast hne₁).entryHash = (log₂.getLast hne₂).entryHash) :
    log₁.length = log₂.length ∧ List.Forall₂ StoredEntry.Agree log₁ log₂ := by
  simp only [StoredLog.verifyAuditChain, List.take_of_length_le hlimit₁,
    List.take_of_length_le hlimit₂, List.isEmpty_iff] at hok₁ hok₂
  have hsame : StoredLog.lastHash .null log₁ = StoredLog.lastHash .null log₂ := by
    rw [StoredLog.lastHash, StoredLog.lastHash, List.getLast?_eq_some_getLast hne₁,
      List.getLast?_eq_some_getLast hne₂]
    exact hlast
  have hagree := StoredLog.agree_of_lastHash hfree hok₁ hok₂ hsame
  exact ⟨hagree.length_eq, hagree⟩

/-- `250` -/
def refundAmount : Number where
  text := ['2', '5', '0']
  ne_nil := by decide
  chars := by simp

/-- A refund of a payment, and its removal. -/
def refundEntry : StoredEntry where
  _id := .objectId "65ed3d50f1a2b3c4d5e6f701"
  schoolId := .string "S1"
  action := .string "payment_refund"
  performedBy := .string "admin"
  targetId := .string "T1"
  targetType := .string "payment"
  details := .object [("amount", .number (some refundAmount)), ("asset", .string "XLM")]
  result := .string "success"
  errorMessage := .null
  ipAddress := .null
  prevHash := .null
  createdAt := .date 1710046800000
  entryHash := .string "e87ea456eb79c32712be2fa6f14dda8f1067c9a4b746b56d5b20c3a362a2e23a"

def removalEntry : StoredEntry :=
  { refundEntry with
    action := .string "payment_delete"
    details := .object []
    prevHash := refundEntry.entryHash
    createdAt := .date 1710050400000
    entryHash := .string "b74d96111b2bbdc27e3e5f5449c44a2e87e45f5574c3699bd85f9ebd56e5dae9" }

/-- The refund with its details in another order, and a field absent that was `null`. -/
def refundEntryReordered : StoredEntry :=
  { refundEntry with
    details := .object [("asset", .string "XLM"), ("amount", .number (some refundAmount))]
    errorMessage := .undefined }

/-- The HMAC of the two texts. -/
def entryHmac (text : String) : String :=
  if text = refundEntry.canonical then
    "e87ea456eb79c32712be2fa6f14dda8f1067c9a4b746b56d5b20c3a362a2e23a"
  else "b74d96111b2bbdc27e3e5f5449c44a2e87e45f5574c3699bd85f9ebd56e5dae9"

theorem canonical_reordered : refundEntryReordered.canonical = refundEntry.canonical := by
  have hdetails : canonicalize refundEntryReordered.details = canonicalize refundEntry.details :=
    text_injective (by decide +kernel)
  have hmembers : canonicalizeMembers refundEntryReordered.hashedFields =
      canonicalizeMembers refundEntry.hashedFields := by
    simp only [StoredEntry.hashedFields, canonicalizeMembers, hdetails]
    rfl
  rw [StoredEntry.canonical, StoredEntry.canonical, canonicalStringify, canonicalStringify,
    canonicalize, canonicalize, hmembers]

theorem canonical_removal : removalEntry.canonical ≠ refundEntry.canonical := fun h =>
  absurd (canonicalStringify_inj (StoredEntry.agree_of_canonical h).action) (by
    simp [removalEntry, refundEntry, canonicalize])

theorem refund_log_unchanged :
    List.Forall₂ StoredEntry.Agree [refundEntry, removalEntry] [refundEntryReordered, removalEntry] :=
  (audit_chain_tamper_evident entryHmac 1000 1000 [refundEntry, removalEntry]
    [refundEntryReordered, removalEntry] (by simp) (by simp) (by decide) (by decide)
    (by
      simp only [StoredLog.verifyAuditChain, List.take, List.isEmpty_iff,
        StoredLog.verifyEntries_cons, StoredLog.computeEntryHash, entryHmac, canonical_removal]
      simp [refundEntry, removalEntry, StoredLog.verifyEntries, StoredValue.strictEq])
    (by
      simp only [StoredLog.verifyAuditChain, List.take, List.isEmpty_iff,
        StoredLog.verifyEntries_cons, StoredLog.computeEntryHash, entryHmac, canonical_removal,
        canonical_reordered]
      simp [refundEntryReordered, refundEntry, removalEntry, StoredLog.verifyEntries,
        StoredValue.strictEq])
    (by simp [CollisionFree, canonical_reordered, entryHmac, canonical_removal,
      canonical_removal.symm])
    rfl).2

end StellarEduPay

import StellarEduPay.BufferText
import StellarEduPay.JsonText
import StellarEduPay.ReceiptAmounts
import StellarEduPay.Runs

/-! # Signed receipts (`services/receiptService.js`)

A receipt is built and signed in memory and inserted unless there is one for the operation already.  Its
signature covers the canonical payload.  Whatever is done to the collection by somebody without the
secret, a receipt that verifies has the payload of a payment that a receipt was made for
(`valid_issued`); and as long as nobody touches it, the receipt of an operation is the first one that was
made and verifies (`first_receipt`).

The MAC is a parameter; that nobody else can compute it is a condition on runs.
-/
namespace StellarEduPay
open JsonText Runs Function

/-! ## The signed text -/

/-- An integer as `JSON.stringify` writes it below 10²¹. -/
def intNumber (n : Int) : Number where
  text := Decimals.intText n
  ne_nil := by simp [Decimals.intText, Nat.toDigits_ne_nil]
  chars c hc := by
    rcases Decimals.mem_intText hc with rfl | hdigit
    · exact .inr (by decide)
    · exact .inl hdigit

theorem intNumber_injective : Injective intNumber := fun _ _ h =>
  Decimals.intText_injective (congrArg Number.text h)

/-- The payload with its keys in order. -/
def ReceiptPayload.json (p : ReceiptPayload) : Json :=
  .object [("amount", .string p.amount), ("assetCode", .string p.assetCode),
    ("confirmedAt", .string p.confirmedAt), ("opIndex", .scalar (.number (intNumber p.opIndex))),
    ("schoolId", .string p.schoolId), ("studentId", .string p.studentId),
    ("txHash", .string p.txHash)]

def ReceiptPayload.bytes (p : ReceiptPayload) : List UInt8 := utf8Buffer (String.ofList (text p.json))

/-- What is signed tells the payload. -/
theorem ReceiptPayload.bytes_injective : Injective ReceiptPayload.bytes := by
  intro p q h
  have htext := text_injective (String.ofList_injective (utf8Buffer_inj.mp h))
  simp only [json, Json.object.injEq, List.cons.injEq, Prod.mk.injEq, Json.string.injEq,
    Json.scalar.injEq, Scalar.number.injEq, true_and, and_true] at htext
  obtain ⟨hamount, hasset, hdate, hop, hschool, hstudent, htx⟩ := htext
  cases p
  cases q
  simp_all [intNumber_injective.eq_iff]

/-! ## Receipts -/

/-- `RECEIPT_SIGNATURE_SECRET`, the MAC, and `Number(str).toFixed(7)`. -/
structure ReceiptEnv where
  secret : String
  hmac : String → List UInt8 → List UInt8
  fixed7 : String → Option AmountMatch

structure StoredReceipt extends Receipt where
  studentName : Option String
  schoolName : Option String
  feeAmount : Option String
  feeValidationStatus : String
  memo : Option String
  signature : Option String

/-- The unique index. -/
abbrev ReceiptKey := String × String × Int

def Receipt.key (r : Receipt) : ReceiptKey := (r.schoolId, r.txHash, r.opIndex.getD 0)

abbrev Receipts := ReceiptKey → Option StoredReceipt

/-- A payment that a receipt is made for. -/
structure ReceiptPayment where
  schoolId : String
  studentId : String
  txHash : String
  opIndex : Option Int
  amount : Option String
  assetCode : Option String
  feeAmount : Option String
  feeValidationStatus : Option String
  memo : Option String
  confirmedAt : Option Int

/-- The signed fields of the receipt of a payment. -/
def ReceiptPayment.receipt (payment : ReceiptPayment) (now : Int) : Receipt where
  amount := payment.amount
  assetCode := some ((truthy payment.assetCode).getD "XLM")
  confirmedAt := payment.confirmedAt.getD now
  opIndex := some (payment.opIndex.getD 0)
  schoolId := payment.schoolId
  studentId := payment.studentId
  txHash := payment.txHash

section
variable (env : ReceiptEnv)

def generateReceiptSignature (receipt : Receipt) : String :=
  hexText (env.hmac env.secret (buildCanonicalPayload env.fixed7 receipt).bytes)

/-- The two texts are compared as bytes. -/
def verifyReceiptSignature (receipt : StoredReceipt) : Bool :=
  match truthy receipt.signature with
  | none => false
  | some signature =>
    utf8Buffer signature == utf8Buffer (generateReceiptSignature env receipt.toReceipt)

/-- The document that is inserted unless there is one; the names are those of the lookups before. -/
def ReceiptPayment.doc (payment : ReceiptPayment) (now : Int) (studentName schoolName : Option String) :
    StoredReceipt where
  toReceipt := payment.receipt now
  studentName := studentName
  schoolName := schoolName
  feeAmount := payment.feeAmount
  feeValidationStatus := (truthy payment.feeValidationStatus).getD "unknown"
  memo := truthy payment.memo
  signature := some (generateReceiptSignature env (payment.receipt now))

/-- The upsert of `createReceipt`: what it returns, and the receipts after it. -/
def createReceipt (receipts : Receipts) (doc : StoredReceipt) : StoredReceipt × Receipts :=
  match receipts doc.key with
  | some receipt => (receipt, receipts)
  | none => (doc, update receipts doc.key (some doc))

/-- A signature that was made for the fields of a receipt verifies. -/
theorem verifyReceiptSignature_iff {receipt : StoredReceipt} :
    verifyReceiptSignature env receipt = true ↔
      receipt.signature = some (generateReceiptSignature env receipt.toReceipt) ∧
        generateReceiptSignature env receipt.toReceipt ≠ "" := by
  unfold verifyReceiptSignature
  cases hsignature : truthy receipt.signature with
  | none =>
    refine iff_of_false Bool.false_ne_true fun ⟨heq, hne⟩ => ?_
    rw [heq, truthy_of_ne hne] at hsignature
    cases hsignature
  | some signature =>
    obtain ⟨heq, hne⟩ := Option.filter_eq_some_iff.mp hsignature
    rw [beq_iff_eq, utf8Buffer_inj, heq, Option.some.injEq]
    refine ⟨?_, fun h => h.1⟩
    rintro rfl
    exact ⟨rfl, of_decide_eq_true hne⟩

/-! ## Runs -/

/-- The receipts, and the documents that `createReceipt` made and signed, oldest first. -/
structure ReceiptSystem where
  receipts : Receipts
  made : List StoredReceipt

/-- `write` and `delete` are somebody with access to the collection and without the secret. -/
inductive ReceiptAction
  | create (payment : ReceiptPayment) (now : Int) (studentName schoolName : Option String)
  | write (receipt : StoredReceipt)
  | delete (key : ReceiptKey)

namespace ReceiptSystem

def start : ReceiptSystem where
  receipts := fun _ => none
  made := []

def step (s : ReceiptSystem) : ReceiptAction → Option ReceiptSystem
  | .create payment now studentName schoolName =>
    let doc := payment.doc env now studentName schoolName
    some ⟨(createReceipt s.receipts doc).2, s.made ++ [doc]⟩
  | .write receipt => some { s with receipts := update s.receipts receipt.key (some receipt) }
  | .delete key => some { s with receipts := update s.receipts key none }

/-- Nobody without the secret can sign: what verifies has the bytes of something that was signed. -/
def Unforgeable (s : ReceiptSystem) : ReceiptAction → Prop
  | .write receipt => verifyReceiptSignature env receipt = true →
    ∃ doc ∈ s.made, (buildCanonicalPayload env.fixed7 doc.toReceipt).bytes =
      (buildCanonicalPayload env.fixed7 receipt.toReceipt).bytes
  | _ => True

/-- Nobody touches the receipt of a key. -/
def Untouched (key : ReceiptKey) (_ : ReceiptSystem) : ReceiptAction → Prop
  | .create .. => True
  | .write receipt => receipt.key ≠ key
  | .delete deleted => deleted ≠ key

variable {env} {s t : ReceiptSystem} {action : ReceiptAction} {key : ReceiptKey}

/-- What a call of `createReceipt` leaves of a key. -/
theorem createReceipt_receipts (receipts : Receipts) (doc : StoredReceipt) (key : ReceiptKey) :
    (createReceipt receipts doc).2 key =
      if doc.key = key then (receipts key).or (some doc) else receipts key := by
  unfold createReceipt
  by_cases hkey : doc.key = key
  · subst hkey
    rw [if_pos rfl]
    cases hfound : receipts doc.key with
    | none => simp
    | some receipt => simpa using hfound
  · rw [if_neg hkey]
    split
    · rfl
    · exact update_of_ne (Ne.symm hkey) ..

/-- What verifies has the payload of something that was signed. -/
def Issued (env : ReceiptEnv) (s : ReceiptSystem) : Prop :=
  ∀ key receipt, s.receipts key = some receipt → verifyReceiptSignature env receipt = true →
    ∃ doc ∈ s.made, buildCanonicalPayload env.fixed7 receipt.toReceipt =
      buildCanonicalPayload env.fixed7 doc.toReceipt

theorem issued_step (hinv : Issued env s) (hforge : Unforgeable env s action)
    (h : step env s action = some t) : Issued env t := by
  cases action with
  | create payment now studentName schoolName =>
    obtain rfl := Option.some.inj h
    intro key receipt hreceipt hvalid
    dsimp only at hreceipt
    rw [createReceipt_receipts] at hreceipt
    have hold (hfound : s.receipts key = some receipt) :
        ∃ doc ∈ s.made ++ [payment.doc env now studentName schoolName],
          buildCanonicalPayload env.fixed7 receipt.toReceipt =
            buildCanonicalPayload env.fixed7 doc.toReceipt :=
      have ⟨doc, hdoc, hsame⟩ := hinv key receipt hfound hvalid
      ⟨doc, List.mem_append_left _ hdoc, hsame⟩
    split at hreceipt
    · cases hfound : s.receipts key with
      | some receipt' =>
        rw [hfound] at hreceipt
        exact hold (hfound.trans hreceipt)
      | none =>
        rw [hfound] at hreceipt
        obtain rfl := Option.some.inj hreceipt
        exact ⟨_, List.mem_append_right _ (List.mem_singleton_self _), rfl⟩
    · exact hold hreceipt
  | write written =>
    obtain rfl := Option.some.inj h
    intro key receipt hreceipt hvalid
    by_cases hkey : key = written.key
    · subst hkey
      obtain rfl : written = receipt := by simpa using hreceipt
      obtain ⟨doc, hdoc, hbytes⟩ := hforge hvalid
      exact ⟨doc, hdoc, (ReceiptPayload.bytes_injective hbytes).symm⟩
    · exact hinv key receipt (by simpa [update_of_ne hkey] using hreceipt) hvalid
  | delete deleted =>
    obtain rfl := Option.some.inj h
    intro key receipt hreceipt hvalid
    by_cases hkey : key = deleted
    · subst hkey
      simp at hreceipt
    · exact hinv key receipt (by simpa [update_of_ne hkey] using hreceipt) hvalid

/-- Whatever is written to the collection without the secret, a receipt that verifies has the signed
fields of one that `createReceipt` made. -/
theorem valid_issued (hreach : Reach (step env) (Unforgeable env) start s) (key : ReceiptKey)
    {receipt : StoredReceipt} (hstored : s.receipts key = some receipt)
    (hvalid : verifyReceiptSignature env receipt = true) :
    ∃ doc ∈ s.made, buildCanonicalPayload env.fixed7 receipt.toReceipt =
      buildCanonicalPayload env.fixed7 doc.toReceipt := by
  have hissued : Issued env s := hreach.invariant (by simp [Issued, start]) issued_step
  exact hissued key receipt hstored hvalid

/-- A receipt that nobody touches is the first one made for its key. -/
theorem first_step (hinv : s.receipts key = s.made.find? fun doc => doc.key = key)
    (huntouched : Untouched key s action) (h : step env s action = some t) :
    t.receipts key = t.made.find? fun doc => doc.key = key := by
  cases action with
  | create payment now studentName schoolName =>
    obtain rfl := Option.some.inj h
    dsimp only
    rw [createReceipt_receipts, List.find?_append, ← hinv]
    by_cases hkey : (payment.doc env now studentName schoolName).key = key
    · simp [hkey]
    · simp [hkey]
  | write written =>
    obtain rfl := Option.some.inj h
    exact (update_of_ne (Ne.symm huntouched) ..).trans hinv
  | delete deleted =>
    obtain rfl := Option.some.inj h
    exact (update_of_ne (Ne.symm huntouched) ..).trans hinv

/-- What `createReceipt` made is signed for its own fields. -/
theorem signed_step
    (hinv : ∀ doc ∈ s.made, doc.signature = some (generateReceiptSignature env doc.toReceipt))
    (h : step env s action = some t) :
    ∀ doc ∈ t.made, doc.signature = some (generateReceiptSignature env doc.toReceipt) := by
  cases action with
  | create payment now studentName schoolName =>
    obtain rfl := Option.some.inj h
    exact List.forall_mem_append.mpr ⟨hinv, List.forall_mem_singleton.mpr rfl⟩
  | write _ | delete _ =>
    obtain rfl := Option.some.inj h
    exact hinv

/-- However often `createReceipt` is called for an operation, its receipt is the first that was made, and
verifies, unless somebody touches it. -/
theorem first_receipt (hmac : ∀ key bytes, env.hmac key bytes ≠ [])
    (hreach : Reach (step env) (Untouched key) start s) :
    (s.receipts key = s.made.find? fun doc => doc.key = key) ∧
      ∀ receipt, s.receipts key = some receipt → verifyReceiptSignature env receipt = true := by
  have hfirst : s.receipts key = s.made.find? fun doc => doc.key = key :=
    hreach.invariant (by simp [start]) first_step
  have hsigned : ∀ doc ∈ s.made, doc.signature = some (generateReceiptSignature env doc.toReceipt) :=
    hreach.invariant (by simp [start]) fun hinv _ h => signed_step hinv h
  refine ⟨hfirst, fun receipt hreceipt => ?_⟩
  have hmade := List.mem_of_find?_eq_some (hfirst.symm.trans hreceipt)
  refine (verifyReceiptSignature_iff env).mpr ⟨hsigned receipt hmade, fun hempty => ?_⟩
  have hbytes := congrArg (fun text : String => hexBuffer text.toList) hempty
  simp only [generateReceiptSignature, hexBuffer_hexText] at hbytes
  exact hmac _ _ hbytes

/-- Where the MAC has no collisions, a signature verifies for no other signed fields. -/
theorem verify_other_fields (hmac : Injective (env.hmac env.secret)) {receipt : StoredReceipt}
    {signed : Receipt} (hsignature : receipt.signature = some (generateReceiptSignature env signed))
    (hother : buildCanonicalPayload env.fixed7 receipt.toReceipt ≠
      buildCanonicalPayload env.fixed7 signed) : verifyReceiptSignature env receipt = false := by
  refine Bool.eq_false_iff.mpr fun hvalid => hother ?_
  have heq := ((verifyReceiptSignature_iff env).mp hvalid).1
  rw [hsignature, Option.some.injEq, generateReceiptSignature, generateReceiptSignature,
    hexText_inj] at heq
  exact (ReceiptPayload.bytes_injective (hmac heq)).symm

/-! ## A receipt and a copy of it for another student -/

def exampleEnv : ReceiptEnv where
  secret := "k"
  hmac key bytes := 0 :: (utf8Buffer key ++ bytes)
  fixed7 _ := none

def examplePayment (amount : String) : ReceiptPayment :=
  { schoolId := "S"
    studentId := "T"
    txHash := "h"
    opIndex := none
    amount := some amount
    assetCode := none
    feeAmount := none
    feeValidationStatus := none
    memo := none
    confirmedAt := some 0 }

def exampleKey : ReceiptKey := ("S", "h", 0)

/-- The receipt of a payment of 5. -/
def exampleDoc : StoredReceipt := (examplePayment "5").doc exampleEnv 0 none none

def forgedDoc : StoredReceipt := { exampleDoc with studentId := "U" }

theorem exampleMac (key : String) (bytes : List UInt8) : exampleEnv.hmac key bytes ≠ [] :=
  List.cons_ne_nil 0 (utf8Buffer key ++ bytes)

theorem exampleDoc_valid : verifyReceiptSignature exampleEnv exampleDoc = true := by
  refine (verifyReceiptSignature_iff exampleEnv).mpr ⟨rfl, fun hempty => ?_⟩
  have hbytes := congrArg (fun text : String => hexBuffer text.toList) hempty
  simp only [generateReceiptSignature, hexBuffer_hexText] at hbytes
  exact exampleMac _ _ hbytes

theorem forgedDoc_invalid : verifyReceiptSignature exampleEnv forgedDoc = false := by
  refine verify_other_fields (fun a b h => ?_) (rfl : forgedDoc.signature = exampleDoc.signature)
    fun h => absurd (congrArg ReceiptPayload.studentId h) (by decide)
  exact List.append_cancel_left (List.cons.inj h).2

/-- A run that makes the receipt, forges it, and puts the original back. -/
theorem valid_issued_forged :
    ∃ s, Reach (step exampleEnv) (Unforgeable exampleEnv) start s ∧
      s.receipts exampleKey = some exampleDoc ∧
      ∃ doc ∈ s.made, buildCanonicalPayload exampleEnv.fixed7 exampleDoc.toReceipt =
        buildCanonicalPayload exampleEnv.fixed7 doc.toReceipt := by
  let receipts := update (createReceipt start.receipts exampleDoc).2 exampleKey (some forgedDoc)
  have hforged : Reach (step exampleEnv) (Unforgeable exampleEnv) start ⟨receipts, [exampleDoc]⟩ :=
    .tail (a := .write forgedDoc)
      (.tail (a := .create (examplePayment "5") 0 none none) .refl trivial rfl)
      (fun h => absurd h (by rw [forgedDoc_invalid]; decide)) rfl
  have hback : Reach (step exampleEnv) (Unforgeable exampleEnv) start
      ⟨update receipts exampleKey (some exampleDoc), [exampleDoc]⟩ :=
    .tail (a := .write exampleDoc) hforged
      (fun _ => ⟨exampleDoc, List.mem_singleton_self _, rfl⟩) rfl
  have hstored : update receipts exampleKey (some exampleDoc) exampleKey = some exampleDoc :=
    update_self ..
  exact ⟨_, hback, hstored, valid_issued hback exampleKey hstored exampleDoc_valid⟩

theorem first_receipt_twice :
    let second := (examplePayment "7").doc exampleEnv 0 none none
    let s := ReceiptSystem.mk (createReceipt (createReceipt (fun _ => none) exampleDoc).2 second).2
      [exampleDoc, second]
    (s.receipts exampleKey = s.made.find? fun doc => doc.key = exampleKey) ∧
      ∀ receipt, s.receipts exampleKey = some receipt →
        verifyReceiptSignature exampleEnv receipt = true := by
  intro second s
  have hreach : Reach (step exampleEnv) (Untouched exampleKey) start s :=
    .tail (a := .create (examplePayment "7") 0 none none)
      (.tail (a := .create (examplePayment "5") 0 none none) .refl trivial rfl) trivial rfl
  exact first_receipt exampleMac hreach

end ReceiptSystem

end

end StellarEduPay

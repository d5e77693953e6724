import StellarEduPay.PaymentLimits
import StellarEduPay.PaymentRecording
import StellarEduPay.StellarMemo

/-! # Transactions on the ledger (`services/stellarService.js`)

A Horizon transaction record, and the two functions that decide what in it is a
payment to a school: `extractValidPayment`, which the poller and the manual sync
call, and `verifyTransaction`, which `verifyPayment` calls.  They filter the same
operations in different orders and answer in different shapes.

Amounts on operations are Horizon's decimal strings with seven places, so here
they are stroops; reading a field that an operation lacks gives `NaN`, here `none`.
-/
namespace StellarEduPay

/-! ## Records -/

/-- The `type` of an operation. -/
inductive OpType
  | payment
  | pathPaymentStrictReceive
  | pathPaymentStrictSend
  | other (name : String)
  deriving DecidableEq, Repr

/-- `asset_type`. -/
inductive AssetType
  | native
  | creditAlphanum4
  | creditAlphanum12
  deriving DecidableEq, Repr

/-- An operation record.  Fields an operation of its type lacks are `none`. -/
structure Operation where
  type : OpType
  fromAddress : Option String
  toAddress : Option String
  assetType : Option AssetType
  assetCode : Option String
  assetIssuer : Option String
  amount : Option Int
  destinationAssetType : Option AssetType
  destinationAssetCode : Option String
  destinationAssetIssuer : Option String
  destinationAmount : Option Int
  deriving DecidableEq, Repr

/-- A transaction record.  A fee-bump transaction carries the hash of the inner one;
its memo and operations are on the top level like any other's. -/
structure Transaction where
  hash : String
  successful : Option Bool
  memoType : Option String
  memo : Option String
  innerHash : Option String
  ledger : Option Nat
  operations : List Operation
  deriving DecidableEq, Repr

/-- The hashes Horizon finds the transaction under. -/
def Transaction.hashes (tx : Transaction) : List String := tx.hash :: tx.innerHash.toList

/-- `tx.memo_type || 'none'`. -/
def Transaction.memoTypeOrNone (tx : Transaction) : String :=
  (tx.memoType.filter (· ≠ "")).getD "none"

/-! ## Operations -/

/-- `CREDITABLE_OP_TYPES`. -/
def isCreditableOpType : OpType → Bool
  | .payment | .pathPaymentStrictReceive | .pathPaymentStrictSend => true
  | .other _ => false

def isPathPayment : OpType → Bool
  | .pathPaymentStrictReceive | .pathPaymentStrictSend => true
  | _ => false

/-- What `detectAsset` returns; it has no `code`. -/
structure Asset where
  assetCode : String
  assetType : AssetType
  assetIssuer : Option String
  deriving DecidableEq, Repr

/-- The asset an operation delivers, with its fields as they stand on the record. -/
def resolveDeliveredAsset (op : Operation) :
    Option AssetType × Option String × Option String :=
  let pick (type : Option AssetType) (code issuer : Option String) :=
    if type = some .native then (type, some "XLM", none) else (type, code, issuer)
  if isPathPayment op.type then
    pick op.destinationAssetType op.destinationAssetCode op.destinationAssetIssuer
  else pick op.assetType op.assetCode op.assetIssuer

/-- The amount an operation credits. -/
def resolveCreditedAmount (op : Operation) : Option Int :=
  if isPathPayment op.type then op.destinationAmount else op.amount

/-- `ACCEPTED_ASSETS`: the one asset a deployment is configured for. -/
inductive AcceptedAsset
  | xlm
  | usdc (issuer : Option String)
  deriving DecidableEq, Repr

/-- Check an asset by code, type and issuer. -/
def isAcceptedAsset (accepted : AcceptedAsset) (code : Option String) (type : Option AssetType)
    (issuer : Option String) : Bool :=
  match accepted with
  | .xlm => code = some "XLM" && type = some .native && (issuer.filter (· ≠ "")).isNone
  | .usdc pinned => code = some "USDC" && type = some .creditAlphanum4 &&
      (pinned.filter (· ≠ "")).isSome && issuer = pinned

/-- The delivered asset, if it is accepted. -/
def detectAsset (accepted : AcceptedAsset) (op : Operation) : Option Asset :=
  match resolveDeliveredAsset op with
  | (some type, some code, issuer) =>
    if isAcceptedAsset accepted (some code) (some type) issuer then some ⟨code, type, issuer⟩
    else none
  | _ => none

/-- An operation that is credited, with its position in the transaction. -/
structure CreditableOperation where
  payOp : Operation
  opIndex : Nat
  amount : Option Int
  asset : Asset
  deriving DecidableEq, Repr

/-- The operations that pay into a wallet, with their positions. -/
def operationsTo (tx : Transaction) (walletAddress : String) : List (Operation × Nat) :=
  tx.operations.zipIdx.filter fun (op, _) =>
    isCreditableOpType op.type && op.toAddress == some walletAddress

/-- Those of them whose asset is accepted, with the amounts on the ledger. -/
def creditable (accepted : AcceptedAsset) (ops : List (Operation × Nat)) :
    List CreditableOperation :=
  ops.filterMap fun (op, opIndex) =>
    (detectAsset accepted op).map fun asset => ⟨op, opIndex, resolveCreditedAmount op, asset⟩

/-! ## normalizeAmount -/

/-- What the code uses of the Stellar SDK: `Operation._fromXDRAmount`, from stroops to an amount,
which is in stroops again here.  It is private to the SDK, and version 17 has no such function. -/
structure StellarSdk where
  fromXDRAmount : Option (Int → Int)

/-- An SDK with the function as `normalizeAmount` expects it, exact as far as doubles are. -/
def StellarSdk.Documented (sdk : StellarSdk) : Prop :=
  ∃ fromXDRAmount, sdk.fromXDRAmount = some fromXDRAmount ∧
    ∀ stroops, 0 ≤ stroops → stroops < 2 ^ 53 → fromXDRAmount stroops = stroops

/-- The `TypeError` of a call that the SDK does not have. -/
def fromXDRAmountMissing : String := "Operation._fromXDRAmount is not a function"

/-- Normalize an amount through the SDK. -/
def normalizeAmount (sdk : StellarSdk) (rawAmount : Option Int) : Except String (Option Int) :=
  match sdk.fromXDRAmount with
  | none => .error fromXDRAmountMissing
  | some fromXDRAmount => .ok (rawAmount.map fromXDRAmount)

/-- The operation with its amount normalized. -/
def CreditableOperation.normalize (sdk : StellarSdk) (o : CreditableOperation) :
    Except String CreditableOperation :=
  (normalizeAmount sdk o.amount).map fun amount => { o with amount := amount }

/-- The operations with the amounts that are credited. -/
def normalized (sdk : StellarSdk) (operations : List CreditableOperation) :
    List CreditableOperation :=
  operations.filterMap fun o => (o.normalize sdk).toOption

/-! ## extractValidPayment -/

/-- What `extractValidPayment` returns.  Its callers also read `payOp` and `asset`, which the
returned object does not have. -/
structure ValidPayment where
  operations : List CreditableOperation
  memo : String
  memoType : String
  innerHash : Option String
  payOp : Option Operation
  asset : Option Asset
  deriving DecidableEq, Repr

/-- The memo of a transaction in canonical form, if it can identify a payment. -/
def canonicalMemo (tx : Transaction) : Option String :=
  if tx.memoTypeOrNone = "none" then none else decodeMemoToCanonical tx.memo tx.memoTypeOrNone

/-- The memo and the creditable operations of a successful transaction that has both. -/
def validOperations (accepted : AcceptedAsset) (tx : Transaction) (walletAddress : String) :
    Option (String × List CreditableOperation) :=
  if tx.successful ≠ some true then none
  else if tx.memoTypeOrNone = "none" then none
  else if (normalizeMemoType tx.memoTypeOrNone).isNone then none
  else match decodeMemoToCanonical tx.memo tx.memoTypeOrNone with
  | none => none
  | some memo =>
    let operations := creditable accepted (operationsTo tx walletAddress)
    if operations.isEmpty then none else some (memo, operations)

/-- Extract the creditable operations of a successful transaction with a memo. -/
def extractValidPayment (sdk : StellarSdk) (accepted : AcceptedAsset) (tx : Transaction)
    (walletAddress : String) : Except String (Option ValidPayment) :=
  match validOperations accepted tx walletAddress with
  | none => .ok none
  | some (memo, operations) =>
    (operations.mapM (CreditableOperation.normalize sdk)).map fun operations => some
      { operations := operations, memo := memo, memoType := tx.memoTypeOrNone
        innerHash := tx.innerHash, payOp := none, asset := none }

theorem extractValidPayment_payOp {sdk : StellarSdk} {accepted : AcceptedAsset} {tx : Transaction}
    {walletAddress : String} {valid : ValidPayment}
    (h : extractValidPayment sdk accepted tx walletAddress = .ok (some valid)) :
    valid.payOp = none := by
  unfold extractValidPayment at h
  split at h
  · cases h
  · cases hops : List.mapM (CreditableOperation.normalize sdk) _ with
    | error e => rw [hops] at h; cases h
    | ok operations => rw [hops] at h; cases h; rfl

/-! ## verifyTransaction -/

/-- An error `verifyTransaction` throws. -/
structure VerifyError where
  code : VerifyErrorCode
  message : String
  deriving DecidableEq, Repr

def LimitCode.verifyErrorCode : LimitCode → VerifyErrorCode
  | .invalidAmount => .invalidAmount
  | .amountTooLow => .amountTooLow
  | .amountTooHigh => .amountTooHigh

def AssetType.name : AssetType → String
  | .native => "native"
  | .creditAlphanum4 => "credit_alphanum4"
  | .creditAlphanum12 => "credit_alphanum12"

/-- `UNSUPPORTED_ASSET`, naming the asset. -/
def unsupportedAsset (op : Operation) : VerifyError :=
  let (type, code, _) := resolveDeliveredAsset op
  let assetCode := if type = some .native then "XLM"
    else (code.filter (· ≠ "")).getD ((type.map AssetType.name).getD "undefined")
  ⟨.unsupportedAsset, "Unsupported asset: " ++ assetCode⟩

/-- The credited operations, unless the asset of one is not accepted or the SDK throws. -/
def creditOperations (sdk : StellarSdk) (accepted : AcceptedAsset) :
    List (Operation × Nat) → Except VerifyError (List CreditableOperation)
  | [] => .ok []
  | (op, opIndex) :: ops =>
    match detectAsset accepted op with
    | none => .error (unsupportedAsset op)
    | some asset =>
      match normalizeAmount sdk (resolveCreditedAmount op) with
      | .error message => .error ⟨.uncoded, message⟩
      | .ok amount => (creditOperations sdk accepted ops).map (⟨op, opIndex, amount, asset⟩ :: ·)

/-- The memo checks of `verifyTransaction`, which come after those on the operations. -/
def verifyMemo (tx : Transaction) : Except VerifyError String :=
  let missing : VerifyError :=
    ⟨.missingMemo, "Transaction memo is missing or empty — cannot identify student"⟩
  if tx.memoTypeOrNone = "none" then .error missing
  else match normalizeMemoType tx.memoTypeOrNone with
  | none => .error ⟨.unsupportedMemoType, "Transaction memo type '" ++ tx.memoTypeOrNone ++
      "' is not supported. Accepted types: MEMO_TEXT, MEMO_ID, MEMO_HASH."⟩
  | some type =>
    match decodeMemoToCanonical tx.memo tx.memoTypeOrNone with
    | some memo => .ok memo
    | none =>
      if type ≠ .text then
        .error ⟨.unsupportedMemoType, "Transaction memo of type '" ++ tx.memoTypeOrNone ++
          "' could not be decoded to a payment reference."⟩
      else .error missing

/-- The first operation outside the limits of its own asset. -/
def firstViolation (limits : LimitsStore) (schoolId : String) :
    List CreditableOperation → Option LimitViolation
  | [] => none
  | o :: os =>
    match validatePaymentAmount limits o.amount schoolId (some o.asset.assetCode) with
    | some violation => some violation
    | none => firstViolation limits schoolId os

/-- The sum of the credited amounts; the limits have ruled `NaN` out when it is used. -/
def creditedTotal (operations : List CreditableOperation) : Int :=
  (operations.map fun o => o.amount.getD 0).sum

/-- What the school and the deployment contribute to a verification. -/
structure IngestConfig where
  accepted : AcceptedAsset
  limits : LimitsStore
  sdk : StellarSdk

/-- Verify a transaction against a school wallet. -/
def verifyTransaction (config : IngestConfig) (db : Db) (tx : Transaction)
    (walletAddress schoolId : String) : Except VerifyError VerifiedTransaction :=
  if tx.successful = some false then
    .error ⟨.txFailed, "Transaction was not successful on the Stellar network"⟩
  else if (operationsTo tx walletAddress).isEmpty then
    .error ⟨.invalidDestination, "No payment operation found targeting the school wallet (" ++
      walletAddress ++ ")"⟩
  else match creditOperations config.sdk config.accepted (operationsTo tx walletAddress) with
  | .error e => .error e
  | .ok operations =>
    match verifyMemo tx with
    | .error e => .error e
    | .ok memo =>
      match firstViolation config.limits schoolId operations with
      | some violation => .error ⟨violation.code.verifyErrorCode, violation.error⟩
      | none => .ok
          { hash := tx.hash
            memo := memo
            studentId := memo
            amount := creditedTotal operations
            feeAmount := (db.findStudent schoolId memo).map (·.feeAmount)
            senderAddress := operations.head?.bind (·.payOp.fromAddress.filter (· ≠ ""))
            ledger := tx.ledger }

/-! ## When a transaction verifies -/

section
variable {sdk : StellarSdk} {accepted : AcceptedAsset} {config : IngestConfig} {db : Db}
  {tx : Transaction}

theorem normalizeAmount_of_isSome (hsdk : sdk.fromXDRAmount.isSome) (rawAmount : Option Int) :
    ∃ amount, normalizeAmount sdk rawAmount = .ok amount := by
  obtain ⟨fromXDRAmount, h⟩ := Option.isSome_iff_exists.mp hsdk
  exact ⟨rawAmount.map fromXDRAmount, by rw [normalizeAmount, h]⟩

theorem isSome_of_normalizeAmount {rawAmount amount : Option Int}
    (h : normalizeAmount sdk rawAmount = .ok amount) : sdk.fromXDRAmount.isSome := by
  unfold normalizeAmount at h
  split at h
  · cases h
  · rename_i hsome
    rw [hsome]
    rfl

theorem creditOperations_ok {ops : List (Operation × Nat)} (hsdk : sdk.fromXDRAmount.isSome)
    (h : ∀ o ∈ ops, (detectAsset accepted o.1).isSome) :
    creditOperations sdk accepted ops = .ok (normalized sdk (creditable accepted ops)) := by
  induction ops with
  | nil => rfl
  | cons o ops ih =>
    obtain ⟨asset, ha⟩ := Option.isSome_iff_exists.mp (h o (List.mem_cons_self ..))
    obtain ⟨amount, hamount⟩ := normalizeAmount_of_isSome hsdk (resolveCreditedAmount o.1)
    have htail := ih fun o' ho' => h o' (List.mem_cons_of_mem _ ho')
    have hnormal : (⟨o.1, o.2, resolveCreditedAmount o.1, asset⟩ : CreditableOperation).normalize sdk =
        .ok ⟨o.1, o.2, amount, asset⟩ := by
      rw [CreditableOperation.normalize, hamount]
      rfl
    simp only [creditOperations, creditable, normalized, ha, hamount, htail, List.filterMap_cons,
      Except.map, Option.map_some, hnormal, Except.toOption]

/-- An operation in an asset that is not accepted stops the verification, and so does the first
call of a function that the SDK lacks. -/
theorem creditOperations_ok_all {ops : List (Operation × Nat)} {os : List CreditableOperation}
    (h : creditOperations sdk accepted ops = .ok os) :
    ∀ o ∈ ops, (detectAsset accepted o.1).isSome ∧ sdk.fromXDRAmount.isSome := by
  induction ops generalizing os with
  | nil => simp
  | cons o ops ih =>
    unfold creditOperations at h
    split at h
    · cases h
    rename_i asset ha
    split at h
    · cases h
    rename_i amount hamount
    cases hops : creditOperations sdk accepted ops with
    | error e => rw [hops] at h; cases h
    | ok os' =>
      intro o' ho'
      rcases List.mem_cons.mp ho' with rfl | ho'
      · exact ⟨by rw [ha]; rfl, isSome_of_normalizeAmount hamount⟩
      · exact ih hops o' ho'

theorem verifyMemo_ok_iff {memo : String} :
    verifyMemo tx = .ok memo ↔ canonicalMemo tx = some memo := by
  unfold verifyMemo canonicalMemo
  dsimp only
  split
  · simp
  split
  · rename_i hn
    simp [decodeMemoToCanonical_unsupported hn]
  split
  · rename_i h; simp [h]
  · rename_i h
    split <;> simp [h]

theorem firstViolation_eq_none {limits : LimitsStore} {schoolId : String}
    {os : List CreditableOperation} :
    firstViolation limits schoolId os = none ↔
      ∀ o ∈ os, validatePaymentAmount limits o.amount schoolId (some o.asset.assetCode) = none := by
  induction os with
  | nil => simp [firstViolation]
  | cons o os ih =>
    simp only [firstViolation, List.forall_mem_cons]
    split
    · rename_i h; simp [h]
    · rename_i h; simp [h, ih]

/-- What `verifyTransaction` asks of a transaction. -/
structure Verifiable (config : IngestConfig) (tx : Transaction) (walletAddress schoolId : String) :
    Prop where
  notFailed : tx.successful ≠ some false
  pays : operationsTo tx walletAddress ≠ []
  accepted : ∀ o ∈ operationsTo tx walletAddress, (detectAsset config.accepted o.1).isSome
  /-- The SDK has the function that `normalizeAmount` calls. -/
  normalizes : config.sdk.fromXDRAmount.isSome
  memo : (canonicalMemo tx).isSome
  /-- Each amount is within the limits of its own asset. -/
  limits : ∀ o ∈ normalized config.sdk (creditable config.accepted (operationsTo tx walletAddress)),
    validatePaymentAmount config.limits o.amount schoolId (some o.asset.assetCode) = none

/-- `verifyTransaction` succeeds on exactly these transactions, and attributes the sum of
the operations to the student of the memo. -/
theorem verifyTransaction_ok_iff {walletAddress schoolId : String} {r : VerifiedTransaction} :
    verifyTransaction config db tx walletAddress schoolId = .ok r ↔
      Verifiable config tx walletAddress schoolId ∧ ∃ memo, canonicalMemo tx = some memo ∧
        r =
          { hash := tx.hash
            memo := memo
            studentId := memo
            amount := creditedTotal
              (normalized config.sdk (creditable config.accepted (operationsTo tx walletAddress)))
            feeAmount := (db.findStudent schoolId memo).map (·.feeAmount)
            senderAddress := (normalized config.sdk
              (creditable config.accepted (operationsTo tx walletAddress))).head?.bind
                (·.payOp.fromAddress.filter (· ≠ ""))
            ledger := tx.ledger } := by
  unfold verifyTransaction
  constructor
  · intro h
    split at h
    · cases h
    rename_i hfailed
    split at h
    · cases h
    rename_i hpays
    split at h
    · cases h
    rename_i operations hops
    have hall := creditOperations_ok_all hops
    have hsome : operationsTo tx walletAddress ≠ [] := fun hnil => hpays (by rw [hnil]; rfl)
    obtain ⟨o, ho⟩ := List.exists_mem_of_ne_nil _ hsome
    have hsdk := (hall o ho).2
    rw [creditOperations_ok hsdk fun o ho => (hall o ho).1] at hops
    cases hops
    split at h
    · cases h
    rename_i memo hmemo
    replace hmemo := verifyMemo_ok_iff.mp hmemo
    split at h
    · cases h
    rename_i hlimits
    cases h
    exact ⟨⟨hfailed, hsome, fun o ho => (hall o ho).1, hsdk, by rw [hmemo]; rfl,
      firstViolation_eq_none.mp hlimits⟩, memo, hmemo, rfl⟩
  · rintro ⟨hv, memo, hmemo, rfl⟩
    rw [if_neg hv.notFailed, if_neg (by simpa using hv.pays),
      creditOperations_ok hv.normalizes hv.accepted]
    simp only [verifyMemo_ok_iff.mpr hmemo, firstViolation_eq_none.mpr hv.limits]

end

end StellarEduPay

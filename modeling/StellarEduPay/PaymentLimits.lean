import StellarEduPay.JsString
import StellarEduPay.Money

/-! # Payment limits (`services/paymentLimitsService.js`, `utils/paymentLimits.js`)

The limits of an amount are looked up for a school and an asset, most specific
first: the school's for the asset, the school's default, the system's for the
asset, the system's default and last the environment's.
An amount that is no number (`NaN`) is an absent one here.
-/
namespace StellarEduPay

/-- A `{ min, max }` pair. -/
structure LimitPair where
  min : Int
  max : Int
  deriving DecidableEq, Repr

/-- `validateLimitPair`, on finite numbers: the error, if any. -/
def limitPairError (p : LimitPair) : Option String :=
  if p.min < 0 then some "min must not be negative"
  else if p.max ≤ p.min then some "max must be greater than min"
  else none

def LimitPair.valid (p : LimitPair) : Bool := (limitPairError p).isNone

/-- A stored limits document.  Assets are keyed by upper-case code. -/
structure LimitsDoc where
  default : Option LimitPair
  assets : List (String × LimitPair)
  deriving DecidableEq, Repr

/-- The documents the limits are resolved from, and the environment's limits. -/
structure LimitsStore where
  school : String → Option LimitsDoc
  system : Option LimitsDoc
  env : LimitPair

/-- Limits with where they come from. -/
structure ResolvedLimits where
  pair : LimitPair
  source : String
  deriving DecidableEq, Repr

/-- `_pick`: a stored pair that is not valid is passed over. -/
def LimitsDoc.pickFrom (doc : LimitsDoc) (assetKey source : String) : Option ResolvedLimits :=
  match (doc.assets.lookup assetKey).filter LimitPair.valid with
  | some pair => some ⟨pair, source ++ ":asset:" ++ assetKey⟩
  | none => (doc.default.filter LimitPair.valid).map fun pair => ⟨pair, source ++ ":default"⟩

/-- `(asset || DEFAULT_ASSET).toUpperCase()` -/
def limitsAssetKey (asset : Option String) : String := jsUpper ((asset.filter (· ≠ "")).getD "XLM")

/-- The two documents a resolution goes through. -/
structure LimitsDocs where
  school : Option LimitsDoc
  system : Option LimitsDoc
  deriving DecidableEq, Repr

def ENV_LIMITS (env : LimitPair) : ResolvedLimits := ⟨env, "env"⟩

/-- The end of `resolveLimits`, for cached documents and for documents just read. -/
def LimitsDocs.resolve (docs : LimitsDocs) (env : LimitPair) (assetKey : String) : ResolvedLimits :=
  match docs.school.bind (·.pickFrom assetKey "school") with
  | some limits => limits
  | none => (docs.system.bind (·.pickFrom assetKey "system")).getD (ENV_LIMITS env)

/-- The documents stored for a school, or for none. -/
def LimitsStore.docs (store : LimitsStore) (schoolId : Option String) : LimitsDocs :=
  ⟨schoolId.bind store.school, store.system⟩

/-- The effective limits for a school and an asset code. -/
def resolveLimits (store : LimitsStore) (schoolId : String) (asset : Option String) : LimitPair :=
  ((store.docs (some schoolId)).resolve store.env (limitsAssetKey asset)).pair

/-- The `code` of a refused amount. -/
inductive LimitCode
  | invalidAmount
  | amountTooLow
  | amountTooHigh
  deriving DecidableEq, Repr

/-- Why an amount was refused. -/
structure LimitViolation where
  error : String
  code : LimitCode
  deriving DecidableEq, Repr

/-- Compare an amount with limits.  `none` is `{ valid: true }`. -/
def compareAgainstLimits (amount : Option Int) (limits : LimitPair) : Option LimitViolation :=
  match amount with
  | none => some ⟨"Payment amount must be a valid positive number", .invalidAmount⟩
  | some amount =>
    if amount ≤ 0 then some ⟨"Payment amount must be a valid positive number", .invalidAmount⟩
    else if amount < limits.min then
      some ⟨"Payment amount " ++ jsNumber amount ++ " is below the minimum of " ++
        jsNumber limits.min, .amountTooLow⟩
    else if limits.max < amount then
      some ⟨"Payment amount " ++ jsNumber amount ++ " exceeds the maximum of " ++
        jsNumber limits.max, .amountTooHigh⟩
    else none

/-- Validate an amount against the effective limits for a school and an asset. -/
def validatePaymentAmount (store : LimitsStore) (amount : Option Int) (schoolId : String)
    (asset : Option String) : Option LimitViolation :=
  compareAgainstLimits amount (resolveLimits store schoolId asset)

end StellarEduPay

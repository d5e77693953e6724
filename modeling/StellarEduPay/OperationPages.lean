import StellarEduPay.StellarTransaction

/-! # Pages of operations (`services/paymentService.js`, `services/stellarService.js`)

Horizon serves the operations of a transaction in pages, and every page of it links onward, the empty
one behind the last too.  Two functions follow the links: one until a page comes without a link, the
other until a page comes without operations.
-/
namespace StellarEduPay

/-- A page, with the request that its `next` makes; `none` where it has no such function. -/
structure OperationPage (Op : Type) where
  records : List Op
  next : Option Nat
  deriving DecidableEq, Repr

section
variable {Op : Type} (serve : Nat → Option (OperationPage Op))

/-! ## The two readers -/

namespace PaymentService

/-- The loop of `fetchAllOperations`; `none` where it is still going on after so many pages. -/
def readPages : Nat → Option (OperationPage Op) → List Op → Option (List Op)
  | 0, _, _ => none
  | _ + 1, none, operations => some operations
  | fuel + 1, some page, operations =>
    let operations := operations ++ page.records
    match page.next with
    | none => some operations
    | some next => readPages fuel (serve next) operations

/-- `fetchAllOperations` -/
def fetchAllOperations (fuel : Nat) : Option (List Op) := readPages serve fuel (serve 0) []

end PaymentService

namespace StellarService

/-- The loop of `fetchAllOperations`. -/
def readPages : Nat → OperationPage Op → List Op → Option (List Op)
  | 0, _, _ => none
  | fuel + 1, page, records =>
    match page.next with
    | none => some records
    | some next =>
      if page.records.isEmpty then some records
      else match serve next with
      | none => some records
      | some page =>
        if page.records.isEmpty then some records
        else readPages fuel page (records ++ page.records)

/-- `fetchAllOperations`, which throws if it gets no first page. -/
def fetchAllOperations (fuel : Nat) : Option (List Op) :=
  (serve 0).bind fun page => readPages serve fuel page page.records

end StellarService

end

/-- `PAYMENT_TYPES` -/
def paymentTypes : List OpType := [.payment, .pathPaymentStrictSend, .pathPaymentStrictReceive]

/-- `extractCreditableOperations` -/
def PaymentService.extractCreditableOperations (serve : Nat → Option (OperationPage Operation))
    (walletAddress : String) (fuel : Nat) : Option (List (Operation × Nat)) :=
  (fetchAllOperations serve fuel).map fun records =>
    records.zipIdx.filter fun (op, _) =>
      op.type ∈ paymentTypes && op.toAddress == some walletAddress

/-! ## Listings -/

/-- A listing as Horizon serves it. -/
structure OperationListing (Op : Type) where
  pages : List (List Op)
  filled : ∀ records ∈ pages, records ≠ []

namespace OperationListing
variable {Op : Type}

def operations (listing : OperationListing Op) : List Op := listing.pages.flatten

/-- Behind the last page there are empty ones, and each page links to the next. -/
def serve (listing : OperationListing Op) (i : Nat) : Option (OperationPage Op) :=
  some ⟨listing.pages.getD i [], some (i + 1)⟩

end OperationListing

/-- A reader returns this from so many pages on. -/
def Returns {β : Type} (reader : Nat → Option β) (result : β) : Prop :=
  ∃ pages, ∀ fuel, pages ≤ fuel → reader fuel = some result

/-- Both readers return the operations of the listing in order, and each that pays the wallet gets its
place in it. -/
structure ReadByBoth (listing : OperationListing Operation) (walletAddress : String) : Prop where
  payment : Returns (PaymentService.fetchAllOperations listing.serve) listing.operations
  stellar : Returns (StellarService.fetchAllOperations listing.serve) listing.operations
  indices : ∃ found,
    Returns (PaymentService.extractCreditableOperations listing.serve walletAddress) found ∧
      ∀ op i, (op, i) ∈ found ↔ listing.operations[i]? = some op ∧
        op.type ∈ paymentTypes ∧ op.toAddress = some walletAddress

section
variable {Op : Type} (listing : OperationListing Op)

/-! ## A reader that stops at the first page without a link -/

/-- **Each page links to the next**: however many are read, there is another, by induction on them. -/
theorem PaymentService.readPages_eq_none (fuel i : Nat) (operations : List Op) :
    PaymentService.readPages listing.serve fuel (listing.serve i) operations = none := by
  induction fuel generalizing i operations with
  | zero => rfl
  | succ fuel ih => exact ih (i + 1) (operations ++ listing.pages.getD i [])

theorem PaymentService.not_returns (result : List Op) :
    ¬ Returns (PaymentService.fetchAllOperations listing.serve) result := by
  rintro ⟨pages, hreturns⟩
  have hresult := hreturns pages le_rfl
  rw [PaymentService.fetchAllOperations, PaymentService.readPages_eq_none] at hresult
  cases hresult

/-! ## A reader that stops at the first empty page -/

/-- **The pages behind one that has been read** are read to the end, by induction on them. -/
theorem StellarService.readPages_eq (before : List (List Op)) (records : List Op)
    (rest : List (List Op)) (hpages : listing.pages = before ++ records :: rest) (read : List Op)
    {fuel : Nat} (hfuel : rest.length < fuel) :
    StellarService.readPages listing.serve fuel ⟨records, some (before.length + 1)⟩ read =
      some (read ++ rest.flatten) := by
  induction rest generalizing before records read fuel with
  | nil =>
    obtain ⟨fuel, rfl⟩ := Nat.exists_eq_add_of_lt hfuel
    have hrecords : records ≠ [] := listing.filled records (by simp [hpages])
    have hlast : listing.serve (before.length + 1) = some ⟨[], some (before.length + 2)⟩ := by
      simp [OperationListing.serve, hpages]
    simp only [List.length_nil, Nat.zero_add]
    rw [StellarService.readPages]
    simp [hrecords, hlast]
  | cons next rest ih =>
    obtain ⟨fuel, rfl⟩ := Nat.exists_eq_add_of_lt hfuel
    have hrecords : records ≠ [] := listing.filled records (by simp [hpages])
    have hnext : next ≠ [] := listing.filled next (by simp [hpages])
    have hserve : listing.serve (before.length + 1) = some ⟨next, some (before.length + 2)⟩ := by
      simp [OperationListing.serve, hpages]
    have hrest := ih (before ++ [records]) next (by simp [hpages]) (read ++ next)
      (show rest.length < rest.length + 1 + fuel by omega)
    rw [List.length_append, List.length_singleton] at hrest
    rw [List.length_cons, StellarService.readPages]
    simp only [List.isEmpty_iff, hrecords, if_false, hserve, hnext]
    rw [hrest, List.flatten_cons, List.append_assoc]

theorem StellarService.returns :
    Returns (StellarService.fetchAllOperations listing.serve) listing.operations := by
  refine ⟨listing.pages.length + 1, fun fuel hfuel => ?_⟩
  cases hpages : listing.pages with
  | nil =>
    have hserve : listing.serve 0 = some ⟨[], some 1⟩ := by simp [OperationListing.serve, hpages]
    obtain ⟨fuel, rfl⟩ : ∃ less, fuel = less + 1 := ⟨fuel - 1, by omega⟩
    rw [StellarService.fetchAllOperations, hserve, OperationListing.operations, hpages]
    rfl
  | cons records rest =>
    have hserve : listing.serve 0 = some ⟨records, some 1⟩ := by
      simp [OperationListing.serve, hpages]
    rw [hpages, List.length_cons] at hfuel
    rw [StellarService.fetchAllOperations, hserve, OperationListing.operations, hpages]
    exact StellarService.readPages_eq listing [] records rest hpages records (by omega)

end

/-- **No listing is read by both**: one reader returns the operations of each of them, the other never
returns. -/
theorem operations_never_read_by_both (listing : OperationListing Operation)
    (walletAddress : String) :
    ¬ ReadByBoth listing walletAddress ∧
      Returns (StellarService.fetchAllOperations listing.serve) listing.operations :=
  ⟨fun h => PaymentService.not_returns listing _ h.payment, StellarService.returns listing⟩

/-- A transaction with a single payment. -/
def onePaymentListing : OperationListing Operation where
  pages := [[⟨.payment, some "GPAYER", some "GSCHOOL", some .native, none, none, some 10000000, none,
    none, none, none⟩]]
  filled := by simp

/-- The reader goes on through the empty pages behind the payment. -/
theorem one_payment_never_read : ¬ ∀ (listing : OperationListing Operation) (walletAddress : String),
    ReadByBoth listing walletAddress := by
  intro hread
  obtain ⟨pages, hreturns⟩ := (hread onePaymentListing "GSCHOOL").payment
  have hresult := hreturns pages le_rfl
  rw [PaymentService.fetchAllOperations, PaymentService.readPages_eq_none] at hresult
  cases hresult

end StellarEduPay

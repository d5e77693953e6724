import StellarEduPay.CsvOutput
import StellarEduPay.JsString

/-! # The accounting export (`services/reportService.js`)

A payment is one line of eighteen cells. The row escapes its text fields, and the line escapes the row
once more. A field that the first escape has put between quotes is put between quotes again by the
second, and reads with the quotes of the first as part of it; any other field comes through. The
buffered and the streaming export hold the same lines.
-/
namespace StellarEduPay

/-! ## The rows -/

def accountingSchemaVersion : Nat := 1

def accountingHeadersV1 : List String :=
  ["schema_version", "exported_at", "school_id", "tx_hash", "student_id", "class",
    "confirmed_at", "asset_code", "asset_type", "crypto_amount", "fee_amount",
    "fee_validation_status", "excess_amount",
    "fiat_amount_at_payment", "fiat_currency_at_payment", "fiat_rate_at_payment",
    "reference_code", "status"]

/-- The `fiatSnapshot` of a payment. -/
structure AccountingSnapshot where
  fiatAmount : Option String
  fiatCurrency : Option String
  fiatRate : Option String

/-- A row of the aggregation. The values are as `String` turns them into text, a number too; `none` is
`null` or `undefined`. -/
structure AccountingRow where
  schoolId : Option String
  txHash : Option String
  studentId : Option String
  /-- `_student`, the students joined, each with its `class`. -/
  joinedStudents : Option (List (Option String))
  confirmedAt : Option Int
  assetCode : Option String
  assetType : Option String
  amount : Option String
  feeAmount : Option String
  feeValidationStatus : Option String
  excessAmount : Option String
  fiatSnapshot : Option AccountingSnapshot
  referenceCode : Option String
  status : Option String

namespace AccountingRow
variable (r : AccountingRow) (exportedAt : String)

/-- `r._student?.[0]?.class ?? ''` -/
def studentClass : String := (r.joinedStudents.bind fun students => students[0]?.join).getD ""

def fiatAmount : String := (r.fiatSnapshot.bind (·.fiatAmount)).getD ""

def fiatCurrency : String := (r.fiatSnapshot.bind (·.fiatCurrency)).getD ""

def fiatRate : String := (r.fiatSnapshot.bind (·.fiatRate)).getD ""

/-- `r.confirmedAt ? new Date(r.confirmedAt).toISOString() : ''` -/
def confirmedAtText : String := (r.confirmedAt.map toISOString).getD ""

/-- The array of `formatAccountingRow`, before its `map`. -/
def accountingFields : List (Option String) :=
  [some (toString accountingSchemaVersion),
    some exportedAt,
    some (csvEscape r.schoolId),
    some (csvEscape r.txHash),
    some (csvEscape r.studentId),
    some (csvEscape (some r.studentClass)),
    some r.confirmedAtText,
    some (csvEscape (some (r.assetCode.getD "XLM"))),
    some (csvEscape (some (r.assetType.getD "crypto"))),
    r.amount,
    some (r.feeAmount.getD ""),
    some (csvEscape (some (r.feeValidationStatus.getD ""))),
    some (r.excessAmount.getD "0"),
    some r.fiatAmount,
    some (csvEscape (some r.fiatCurrency)),
    some r.fiatRate,
    some (csvEscape (some (r.referenceCode.getD ""))),
    some (csvEscape r.status)]

def formatAccountingRow : String :=
  ",".intercalate ((r.accountingFields exportedAt).map csvEscape)

end AccountingRow

/-- The `csv` of `generateAccountingCsv`, from the rows of the aggregation. -/
def generateAccountingCsv (rows : List AccountingRow) (exportedAt : String) : String :=
  let lines := [",".intercalate ((accountingHeadersV1.map some).map csvEscape)]
  "\n".intercalate
    (rows.foldl (fun lines r => lines ++ [r.formatAccountingRow exportedAt]) lines)

/-- What `generateAccountingCsvStream` writes into the response. -/
def generateAccountingCsvStream (rows : List AccountingRow) (exportedAt : String) : String :=
  let header := ",".intercalate ((accountingHeadersV1.map some).map csvEscape) ++ "\n"
  rows.foldl (fun text r => text ++ (r.formatAccountingRow exportedAt ++ "\n")) header

/-! ## What the columns are for -/

/-- The value of a payment under a header. -/
def AccountingRow.accountingValue (r : AccountingRow) (exportedAt : String) : String → Option String
  | "schema_version" => some (toString accountingSchemaVersion)
  | "exported_at" => some exportedAt
  | "school_id" => r.schoolId
  | "tx_hash" => r.txHash
  | "student_id" => r.studentId
  | "class" => some r.studentClass
  | "confirmed_at" => some r.confirmedAtText
  | "asset_code" => some (r.assetCode.getD "XLM")
  | "asset_type" => some (r.assetType.getD "crypto")
  | "crypto_amount" => r.amount
  | "fee_amount" => r.feeAmount
  | "fee_validation_status" => r.feeValidationStatus
  | "excess_amount" => some (r.excessAmount.getD "0")
  | "fiat_amount_at_payment" => some r.fiatAmount
  | "fiat_currency_at_payment" => some r.fiatCurrency
  | "fiat_rate_at_payment" => some r.fiatRate
  | "reference_code" => r.referenceCode
  | "status" => r.status
  | _ => none

/-- The text fields of a payment, which the row escapes by themselves. -/
def AccountingRow.textFields (r : AccountingRow) : List (Option String) :=
  [r.schoolId, r.txHash, r.studentId, some r.studentClass, some (r.assetCode.getD "XLM"),
    some (r.assetType.getD "crypto"), r.feeValidationStatus, some r.fiatCurrency, r.referenceCode,
    r.status]

/-! ## What a second escape does -/

/-- `value ?? ''` is the text of the value anyway. -/
theorem inertCell_getD (value : Option String) : inertCell (some (value.getD "")) = inertCell value := rfl

theorem csvEscape_getD (value : Option String) : csvEscape (some (value.getD "")) = csvEscape value := rfl

theorem length_doubleQuotes (str : String) : str.toList.length ≤ (doubleQuotes str).toList.length := by
  rw [doubleQuotes, String.toList_ofList]
  induction str.toList with
  | nil => rfl
  | cons c cs ih =>
    have hhead : 1 ≤ (if c = '"' then ['"', '"'] else [c]).length := by split <;> simp
    rw [List.flatMap_cons, List.length_append, List.length_cons]
    omega

/-- An escaped field is read as the field exactly where nothing in it needs quotes: the quotes put
around it by the first escape are text for the second. -/
theorem inertCell_csvEscape_iff (value : Option String) :
    inertCell (some (csvEscape value)) = inertCell value ↔ PlainText value := by
  by_cases h : PlainText value
  · have hinert : inertCell (some (inertCell value)) = inertCell value := by
      rw [inertCell, Option.getD_some, formulaTrigger_inertCell]
      rfl
    rw [csvEscape_of_plain h]
    exact iff_of_true hinert h
  · refine iff_of_false (fun heq => ?_) h
    have hquoted : inertCell (some (csvEscape value)) = csvEscape value := by
      rw [inertCell, Option.getD_some, csvEscape_of_not_plain h]
      simp [formulaTrigger, String.toList_append]
    rw [hquoted, csvEscape_of_not_plain h] at heq
    have hlength := congrArg (·.toList.length) heq
    simp only [String.toList_append, List.length_append] at hlength
    have hdoubled := length_doubleQuotes (inertCell value)
    have hquote : "\"".toList.length = 1 := rfl
    omega

namespace AccountingRow
variable (r : AccountingRow) (exportedAt : String)

theorem formatAccountingRow_eq :
    r.formatAccountingRow exportedAt = csvRow (r.accountingFields exportedAt) := rfl

theorem length_accountingFields : (r.accountingFields exportedAt).length = 18 := rfl

/-- The cells are read as the values exactly where the row's own escapes change nothing. -/
theorem cells_iff :
    (r.accountingFields exportedAt).map inertCell =
        (accountingHeadersV1.map (r.accountingValue exportedAt)).map inertCell ↔
      ∀ value ∈ r.textFields, PlainText value := by
  have hvalues : accountingHeadersV1.map (r.accountingValue exportedAt) =
      [some (toString accountingSchemaVersion), some exportedAt, r.schoolId, r.txHash, r.studentId,
        some r.studentClass, some r.confirmedAtText, some (r.assetCode.getD "XLM"),
        some (r.assetType.getD "crypto"), r.amount, r.feeAmount, r.feeValidationStatus,
        some (r.excessAmount.getD "0"), some r.fiatAmount, some r.fiatCurrency, some r.fiatRate,
        r.referenceCode, r.status] := rfl
  simp only [← inertCell_csvEscape_iff, hvalues]
  simp [accountingFields, textFields, inertCell_getD, csvEscape_getD]

/-- The line of a row, which has no line break, is read as one record. -/
theorem readCsv_formatAccountingRow :
    readCsv (r.formatAccountingRow exportedAt) =
      some [(r.accountingFields exportedAt).map inertCell] := by
  have hread := readCsv_lines_unended (show ∀ row ∈ ([] : List (List (Option String))), row ≠ [] by simp)
    (show 1 < (r.accountingFields exportedAt).length by simp [length_accountingFields])
  rwa [List.map_nil, String.join_nil, String.empty_append] at hread

end AccountingRow

/-! ## The two exports -/

section
variable (rows : List AccountingRow) (exportedAt : String)

/-- The rows of the table, the header first. -/
def accountingTable : List (List (Option String)) :=
  accountingHeadersV1.map some :: rows.map (·.accountingFields exportedAt)

theorem many_accountingTable : ∀ row ∈ accountingTable rows exportedAt, 1 < row.length := by
  rw [accountingTable, List.forall_mem_cons, List.forall_mem_map]
  exact ⟨by decide, fun r _ => by simp [AccountingRow.length_accountingFields]⟩

theorem accountingTable_ne_nil : ∀ row ∈ accountingTable rows exportedAt, row ≠ [] := by
  rintro row hrow rfl
  exact absurd (many_accountingTable rows exportedAt _ hrow) (by decide)

theorem generateAccountingCsv_eq :
    generateAccountingCsv rows exportedAt =
      "\n".intercalate ((accountingTable rows exportedAt).map csvRow) := by
  have hfold : ∀ lines : List String,
      rows.foldl (fun lines r => lines ++ [r.formatAccountingRow exportedAt]) lines =
        lines ++ rows.map fun r => csvRow (r.accountingFields exportedAt) := by
    induction rows with
    | nil => simp
    | cons r rows ih =>
      intro lines
      rw [List.foldl_cons, ih, AccountingRow.formatAccountingRow_eq]
      simp
  rw [generateAccountingCsv, hfold]
  simp [accountingTable, csvRow, Function.comp_def]

theorem generateAccountingCsvStream_eq :
    generateAccountingCsvStream rows exportedAt =
      String.join ((accountingTable rows exportedAt).map csvLine) := by
  have hfold : ∀ text : String,
      rows.foldl (fun text r => text ++ (r.formatAccountingRow exportedAt ++ "\n")) text =
        text ++ String.join (rows.map fun r => csvLine (r.accountingFields exportedAt)) := by
    induction rows with
    | nil => simp
    | cons r rows ih =>
      intro text
      rw [List.foldl_cons, ih, AccountingRow.formatAccountingRow_eq]
      simp [csvLine, String.append_assoc]
  rw [generateAccountingCsvStream, hfold]
  simp [accountingTable, csvRow, csvLine, Function.comp_def]

/-- Lines with breaks between them are lines with breaks behind them, the last one without. -/
theorem intercalate_csvRow (front : List (List (Option String))) (last : List (Option String)) :
    "\n".intercalate ((front ++ [last]).map csvRow) =
      String.join (front.map csvLine) ++ csvRow last := by
  induction front with
  | nil => simp
  | cons row front ih =>
    cases front with
    | nil => simp [csvLine]
    | cons next front =>
      simp only [List.cons_append, List.map_cons, String.intercalate_cons_cons] at ih ⊢
      rw [ih]
      simp [csvLine, String.append_assoc]

theorem readCsv_generateAccountingCsv :
    readCsv (generateAccountingCsv rows exportedAt) =
      some ((accountingTable rows exportedAt).map (·.map inertCell)) := by
  obtain ⟨front, last, htable⟩ :=
    List.eq_nil_or_concat' (accountingTable rows exportedAt) |>.resolve_left (List.cons_ne_nil _ _)
  have hne := accountingTable_ne_nil rows exportedAt
  have hmany := many_accountingTable rows exportedAt
  rw [htable] at hne hmany
  rw [generateAccountingCsv_eq, htable, intercalate_csvRow]
  exact readCsv_lines_unended (fun row hrow => hne row (List.mem_append_left _ hrow))
    (hmany last (List.mem_append_right _ List.mem_cons_self))

theorem readCsv_generateAccountingCsvStream :
    readCsv (generateAccountingCsvStream rows exportedAt) =
      some ((accountingTable rows exportedAt).map (·.map inertCell)) := by
  rw [generateAccountingCsvStream_eq]
  exact readCsv_lines (accountingTable_ne_nil rows exportedAt)

end

/-! ## Where the export is faithful -/

/-- **A row reads as its values exactly where no text field needs quotes.** The buffered and the
streaming export read as the same table in any case. -/
theorem accounting_export_faithful_iff (r : AccountingRow) (exportedAt : String)
    (rows : List AccountingRow) :
    (readCsv (r.formatAccountingRow exportedAt) =
          some [(accountingHeadersV1.map (r.accountingValue exportedAt)).map inertCell] ↔
        ∀ value ∈ r.textFields, PlainText value) ∧
      ∃ table, table.length = rows.length + 1 ∧
        readCsv (generateAccountingCsv rows exportedAt) = some table ∧
        readCsv (generateAccountingCsvStream rows exportedAt) = some table := by
  refine ⟨?_, _, ?_, readCsv_generateAccountingCsv rows exportedAt,
    readCsv_generateAccountingCsvStream rows exportedAt⟩
  · rw [r.readCsv_formatAccountingRow, ← r.cells_iff exportedAt, Option.some_inj,
      List.singleton_inj]
  · simp [accountingTable]

/-- A payment of a student of the class `Grade 5, A`. -/
def gradeWithComma : AccountingRow where
  schoolId := some "SCH1"
  txHash := some "ab12"
  studentId := some "STU001"
  joinedStudents := some [some "Grade 5, A"]
  confirmedAt := some 1710046800000
  assetCode := some "XLM"
  assetType := some "native"
  amount := some "250"
  feeAmount := some "250"
  feeValidationStatus := some "valid"
  excessAmount := some "0"
  fiatSnapshot := none
  referenceCode := none
  status := some "SUCCESS"

/-- Its class is read with the quotes that the first escape put around it. -/
theorem gradeWithComma_read :
    (readCsv (gradeWithComma.formatAccountingRow "2024-03-11T00:00:00.000Z")).map
          (·.map fun record => record[5]?) = some [some "\"Grade 5, A\""] ∧
      readCsv (gradeWithComma.formatAccountingRow "2024-03-11T00:00:00.000Z") ≠
        some [(accountingHeadersV1.map
          (gradeWithComma.accountingValue "2024-03-11T00:00:00.000Z")).map inertCell] := by
  rw [AccountingRow.readCsv_formatAccountingRow, Ne, Option.some_inj, List.singleton_inj,
    AccountingRow.cells_iff]
  refine ⟨by decide, fun hplain => ?_⟩
  have hclass : some "Grade 5, A" ∈ gradeWithComma.textFields := by
    simp [AccountingRow.textFields, gradeWithComma, AccountingRow.studentClass]
  exact hplain _ hclass ',' (by decide) (by decide)

end StellarEduPay

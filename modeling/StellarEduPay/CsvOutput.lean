import StellarEduPay.DelimitedText

/-! # CSV output (`utils/csv.js`)

A cell that a spreadsheet would take for a formula gets a single quote in front, and a cell with a
comma, a quote or a line break is put between quotes. A reader finds each cell again, a formula with
the quote in front of it and so no longer as one.
-/
namespace StellarEduPay
open DelimitedText

/-! ## Cells and rows -/

/-- `FORMULA_TRIGGER`. The pattern looks at the first character of the string, of the first line. -/
def formulaTrigger (str : String) : Bool :=
  match str.toList with
  | [] => false
  | c :: _ => ['=', '+', '-', '@', '\t', '\r'].contains c

/-- `str.replace(/"/g, '""')` -/
def doubleQuotes (str : String) : String :=
  String.ofList (str.toList.flatMap fun c => if c = '"' then ['"', '"'] else [c])

/-- A field value, as `String` turns it into text; `none` is `null` or `undefined`. -/
def csvEscape (value : Option String) : String :=
  let str := value.getD ""
  -- before the test for quotes, so that the prefix is read as part of the cell
  let str := if formulaTrigger str then "'" ++ str else str
  if str.toList.contains ',' || str.toList.contains '"' || str.toList.contains '\n' ||
      str.toList.contains '\r' then
    "\"" ++ doubleQuotes str ++ "\""
  else str

def csvRow (values : List (Option String)) : String := ",".intercalate (values.map csvEscape)

/-- A row, with the line break behind it. -/
def csvLine (values : List (Option String)) : String := csvRow values ++ "\n"

/-! ## The transform -/

/-- The stream that `csvTransform` returns: the chunks it has passed on, and the error it was
destroyed with. -/
structure CsvStream (ε : Type) where
  wroteHeader : Bool := false
  chunks : List String := []
  error : Option ε := none

/-- What has gone into the response. -/
def CsvStream.text {ε : Type} (s : CsvStream ε) : String := String.join s.chunks

section
variable {Doc ε : Type} (toRow : Doc → Except ε (List (Option String))) (header : Option (List String))

/-- The transform of one document. A document whose `toRow` throws destroys the stream, which
transforms no further one. -/
def CsvStream.transform (s : CsvStream ε) (doc : Doc) : CsvStream ε :=
  if s.error.isSome then s
  else
    let (wroteHeader, line) :=
      match s.wroteHeader, header with
      | false, some header => (true, csvLine (header.map some))
      | wroteHeader, _ => (wroteHeader, "")
    match toRow doc with
    | .ok row =>
      { s with wroteHeader := wroteHeader, chunks := s.chunks ++ [line ++ csvLine row] }
    | .error err => { s with wroteHeader := wroteHeader, error := some err }

def csvTransform (docs : List Doc) : CsvStream ε := docs.foldl (CsvStream.transform toRow header) {}

end

/-! ## Reading -/

/-- Commas, quotes and line breaks, as RFC 4180 has them. -/
def rfc4180 : Delimiters Char where
  separator := ','
  quote := '"'
  newline := '\n'
  carriage := '\r'
  separator_ne_quote := by decide
  separator_ne_carriage := by decide
  newline_ne_quote := by decide
  newline_ne_separator := by decide
  newline_ne_carriage := by decide

def readCsv (text : String) : Option (List (List String)) :=
  (rfc4180.read text.toList).map (List.map (List.map String.ofList))

/-- The text of a value, and with a single quote in front where it starts like a formula. -/
def inertCell (value : Option String) : String :=
  if formulaTrigger (value.getD "") then "'" ++ value.getD "" else value.getD ""

/-- Without a comma, a quote or a line break. -/
def PlainText (value : Option String) : Prop :=
  ∀ c ∈ (value.getD "").toList, c ∉ rfc4180.specials

/-- The rows are read from the text, each cell as it is or made inert, and no cell is a formula. -/
def ReadsAs (text : String) (rows : List (List (Option String))) : Prop :=
  ∃ records, readCsv text = some records ∧ records = rows.map (·.map inertCell) ∧
    ∀ record ∈ records, ∀ cell ∈ record, formulaTrigger cell = false

section
variable {Doc ε : Type} (toRow : Doc → Except ε (List (Option String))) (header : Option (List String))

/-- The rows of the documents, up to the first whose `toRow` throws. -/
def docRows : List Doc → List (List (Option String))
  | [] => []
  | doc :: docs =>
    match toRow doc with
    | .ok row => row :: docRows docs
    | .error _ => []

/-- The header stands before the first document that has a row. -/
def emittedRows (docs : List Doc) : List (List (Option String)) :=
  match docRows toRow docs with
  | [] => []
  | rows => (header.map (·.map some)).toList ++ rows

end

/-! ## A cell is written and inert -/

theorem formulaTrigger_inertCell (value : Option String) :
    formulaTrigger (inertCell value) = false := by
  unfold inertCell
  split
  · simp [formulaTrigger]
  · rename_i h
    simpa using h

theorem toList_doubleQuotes (str : String) :
    (doubleQuotes str).toList = rfc4180.doubled str.toList := by
  rw [doubleQuotes, String.toList_ofList]
  rfl

/-- The quote in front of a formula is no special character. -/
theorem plainText_iff (value : Option String) :
    PlainText value ↔ ∀ c ∈ (inertCell value).toList, c ∉ rfc4180.specials := by
  unfold inertCell
  split
  · have hfront : '\'' ∉ rfc4180.specials := by decide
    simp [PlainText, hfront]
  · rfl

/-- The four tests of `csvEscape` are about the special characters. -/
theorem csvEscape_eq (value : Option String) :
    csvEscape value =
      if (inertCell value).toList.any (rfc4180.specials.contains ·) then
        "\"" ++ doubleQuotes (inertCell value) ++ "\""
      else inertCell value := by
  have htests : ∀ str : String,
      (str.toList.contains ',' || str.toList.contains '"' || str.toList.contains '\n' ||
        str.toList.contains '\r') = str.toList.any (rfc4180.specials.contains ·) := by
    intro str
    rw [Bool.eq_iff_iff]
    simp only [Bool.or_eq_true, List.contains_iff_mem, List.any_eq_true, Delimiters.specials, rfc4180,
      List.mem_cons, List.not_mem_nil, or_false]
    aesop
  rw [← htests]
  rfl

theorem csvEscape_of_plain {value : Option String} (h : PlainText value) :
    csvEscape value = inertCell value := by
  rw [csvEscape_eq, if_neg]
  simpa using (plainText_iff value).mp h

theorem csvEscape_of_not_plain {value : Option String} (h : ¬PlainText value) :
    csvEscape value = "\"" ++ doubleQuotes (inertCell value) ++ "\"" := by
  rw [csvEscape_eq, if_pos]
  simpa using mt (plainText_iff value).mpr h

/-- A cell without quotes holds no special character; in a quoted one each quote is doubled. -/
theorem csvEscape_writes (value : Option String) :
    rfc4180.Writes (csvEscape value).toList (inertCell value).toList := by
  by_cases h : PlainText value
  · rw [csvEscape_of_plain h]
    exact .plain ((plainText_iff value).mp h)
  · rw [csvEscape_of_not_plain h, String.toList_append, String.toList_append, toList_doubleQuotes]
    exact .quoted _

theorem csvCells_writes (row : List (Option String)) :
    List.Forall₂ rfc4180.Writes (row.map fun value => (csvEscape value).toList)
      (row.map fun value => (inertCell value).toList) := by
  rw [List.forall₂_map_left_iff, List.forall₂_map_right_iff, List.forall₂_same]
  exact fun value _ => csvEscape_writes value

theorem toList_csvRow (row : List (Option String)) :
    (csvRow row).toList =
      [rfc4180.separator].intercalate (row.map fun value => (csvEscape value).toList) := by
  rw [csvRow, String.toList_intercalate, List.map_map]
  rfl

theorem csvLine_writes {row : List (Option String)} (hne : row ≠ []) :
    rfc4180.WritesRecord (csvLine row).toList (row.map fun value => (inertCell value).toList) := by
  refine ⟨row.map fun value => (csvEscape value).toList, by simpa using hne, csvCells_writes row, ?_⟩
  rw [csvLine, String.toList_append, toList_csvRow]
  rfl

theorem csvLines_writes {rows : List (List (Option String))} (hne : ∀ row ∈ rows, row ≠ []) :
    List.Forall₂ rfc4180.WritesRecord (rows.map fun row => (csvLine row).toList)
      (rows.map fun row => row.map fun value => (inertCell value).toList) := by
  rw [List.forall₂_map_left_iff, List.forall₂_map_right_iff, List.forall₂_same]
  exact fun row hrow => csvLine_writes (hne row hrow)

theorem toList_csvLines (rows : List (List (Option String))) :
    (String.join (rows.map csvLine)).toList =
      (rows.map fun row => (csvLine row).toList).flatten := by
  rw [String.toList_join, List.flatMap_map, List.flatMap_def]

theorem readCsv_lines {rows : List (List (Option String))} (hne : ∀ row ∈ rows, row ≠ []) :
    readCsv (String.join (rows.map csvLine)) = some (rows.map (·.map inertCell)) := by
  rw [readCsv, toList_csvLines, Delimiters.read_lines (csvLines_writes hne)]
  simp [Function.comp_def]

/-- The same where the last row stands without its line break. -/
theorem readCsv_lines_unended {rows : List (List (Option String))} (hne : ∀ row ∈ rows, row ≠ [])
    {last : List (Option String)} (hmany : 1 < last.length) :
    readCsv (String.join (rows.map csvLine) ++ csvRow last) =
      some ((rows ++ [last]).map (·.map inertCell)) := by
  rw [readCsv, String.toList_append, toList_csvLines, toList_csvRow,
    Delimiters.read_lines_unended (csvLines_writes hne) (csvCells_writes last) (by simpa using hmany)]
  simp [Function.comp_def]

/-- **The lines of rows read as the rows.** -/
theorem readsAs_lines {rows : List (List (Option String))} (hne : ∀ row ∈ rows, row ≠ []) :
    ReadsAs (String.join (rows.map csvLine)) rows := by
  refine ⟨_, readCsv_lines hne, rfl, fun record hrecord cell hcell => ?_⟩
  obtain ⟨row, -, rfl⟩ := List.mem_map.mp hrecord
  obtain ⟨value, -, rfl⟩ := List.mem_map.mp hcell
  exact formulaTrigger_inertCell value

/-! ## What the transform emits -/

section
variable {Doc ε : Type} {toRow : Doc → Except ε (List (Option String))} {header : Option (List String)}
  {s : CsvStream ε} {doc : Doc} {docs : List Doc}

/-- The header row, while it is still to be written. -/
def headerRow (header : Option (List String)) (s : CsvStream ε) : List (List (Option String)) :=
  if s.wroteHeader then [] else (header.map (·.map some)).toList

theorem foldl_destroyed (h : s.error.isSome) :
    docs.foldl (CsvStream.transform toRow header) s = s :=
  List.foldl_fixed' (fun _ => by simp [CsvStream.transform, h]) docs

/-- A document with a row adds the header row, if that is still to be written, and the row. -/
theorem transform_ok (header : Option (List String)) {row : List (Option String)}
    (hlive : s.error = none) (hrow : toRow doc = .ok row) :
    (s.transform toRow header doc).text =
        s.text ++ String.join ((headerRow header s ++ [row]).map csvLine) ∧
      (s.transform toRow header doc).error = none ∧
      headerRow header (s.transform toRow header doc) = [] := by
  cases hwrote : s.wroteHeader <;> cases header <;>
    simp [CsvStream.transform, CsvStream.text, headerRow, hlive, hrow, hwrote, String.join_append]

/-- A document whose `toRow` throws adds nothing. -/
theorem transform_error (header : Option (List String)) {err : ε} (hlive : s.error = none)
    (herr : toRow doc = .error err) :
    (s.transform toRow header doc).text = s.text ∧
      (s.transform toRow header doc).error = some err := by
  cases hwrote : s.wroteHeader <;> cases header <;>
    simp [CsvStream.transform, CsvStream.text, hlive, herr, hwrote]

/-- Once the header is written, what the stream adds is the rows of the documents. -/
theorem foldl_text (hlive : s.error = none) (hheader : headerRow header s = []) :
    (docs.foldl (CsvStream.transform toRow header) s).text =
      s.text ++ String.join ((docRows toRow docs).map csvLine) := by
  induction docs generalizing s with
  | nil => simp [docRows]
  | cons doc docs ih =>
    rw [List.foldl_cons, docRows]
    cases hrow : toRow doc with
    | ok row =>
      obtain ⟨htext, hlive', hheader'⟩ := transform_ok header hlive hrow
      rw [ih hlive' hheader', htext, hheader]
      simp [String.append_assoc]
    | error err =>
      obtain ⟨htext, herror⟩ := transform_error header hlive hrow
      rw [foldl_destroyed (by simp [herror]), htext]
      simp

/-- **The transform emits the lines of the header and the rows.** -/
theorem csvTransform_text :
    (csvTransform toRow header docs).text =
      String.join ((emittedRows toRow header docs).map csvLine) := by
  cases docs with
  | nil => rfl
  | cons doc docs =>
    rw [csvTransform, List.foldl_cons, emittedRows, docRows]
    cases hrow : toRow doc with
    | ok row =>
      obtain ⟨htext, hlive, hheader⟩ := transform_ok (s := {}) header rfl hrow
      rw [foldl_text hlive hheader, htext]
      simp [CsvStream.text, headerRow, String.join_append, String.append_assoc]
    | error err =>
      obtain ⟨htext, herror⟩ := transform_error (s := {}) header rfl hrow
      rw [foldl_destroyed (by simp [herror]), htext]
      rfl

theorem docRows_ne_nil (htoRow : ∀ doc ∈ docs, ∀ row, toRow doc = .ok row → row ≠ []) :
    ∀ row ∈ docRows toRow docs, row ≠ [] := by
  induction docs with
  | nil => simp [docRows]
  | cons doc docs ih =>
    rw [docRows]
    cases hrow : toRow doc with
    | ok row =>
      rw [List.forall_mem_cons]
      exact ⟨htoRow doc List.mem_cons_self row hrow,
        ih fun d hd => htoRow d (List.mem_cons_of_mem _ hd)⟩
    | error err => simp

theorem emittedRows_ne_nil (hheader : header ≠ some [])
    (htoRow : ∀ doc ∈ docs, ∀ row, toRow doc = .ok row → row ≠ []) :
    ∀ row ∈ emittedRows toRow header docs, row ≠ [] := by
  intro row hrow
  have hrows := docRows_ne_nil htoRow
  unfold emittedRows at hrow
  split at hrow
  · cases hrow
  · rcases List.mem_append.mp hrow with hrow | hrow
    · obtain ⟨cells, hcells, rfl⟩ := Option.map_eq_some_iff.mp (Option.mem_toList.mp hrow)
      rintro hempty
      rw [List.map_eq_nil_iff.mp hempty] at hcells
      exact hheader hcells
    · exact hrows row hrow

end

/-! ## Faithful and inert -/

/-- **What is emitted reads as what was given.** The lines of rows read as the rows, and what the
transform passes on as the header and the rows of the documents; a formula is read with a single quote
in front, so that no cell is one. -/
theorem csv_readsAs {Doc ε : Type} (toRow : Doc → Except ε (List (Option String)))
    (header : Option (List String)) (docs : List Doc) (rows : List (List (Option String)))
    (hrows : ∀ row ∈ rows, row ≠ []) (hheader : header ≠ some [])
    (htoRow : ∀ doc ∈ docs, ∀ row, toRow doc = .ok row → row ≠ []) :
    ReadsAs (String.join (rows.map csvLine)) rows ∧
      ReadsAs (csvTransform toRow header docs).text (emittedRows toRow header docs) := by
  refine ⟨readsAs_lines hrows, ?_⟩
  rw [csvTransform_text]
  exact readsAs_lines (emittedRows_ne_nil hheader htoRow)

/-- A formula, a cell with a comma and quotes, one with a line break, and a missing one. -/
theorem csv_readsAs_mixed :
    ReadsAs (String.join ([[some "=1+1", some "a,\"b\""], [none]].map csvLine))
        [[some "=1+1", some "a,\"b\""], [none]] ∧
      ReadsAs
        (csvTransform (fun doc : String => (.ok [some doc, none] : Except Unit _)) (some ["note", "-"])
          ["\r@x", "two\nlines"]).text
        [[some "note", some "-"], [some "\r@x", none], [some "two\nlines", none]] :=
  csv_readsAs (fun doc : String => (.ok [some doc, none] : Except Unit _)) (some ["note", "-"])
    ["\r@x", "two\nlines"] [[some "=1+1", some "a,\"b\""], [none]] (by decide) (by decide)
    (by rintro doc - row ⟨⟩; exact List.cons_ne_nil _ _)

/-- A row without cells is read as a row with one. -/
example : readCsv (csvLine []) = some [[""]] := by decide

end StellarEduPay

import Mathlib.Data.List.Forall2
import Mathlib.Tactic.Common

/-! # Texts of records and cells

A text of records has each record on a line and a separator between the cells of a record. A cell that
holds one of the characters this takes is written between quotes, each quote within it doubled. The
reader goes through the text character by character. What it reads from cells so written, plain or
quoted, is the cells (`read_lines`), also where the writer chose to quote a cell that needs no quotes.
-/
namespace DelimitedText

structure Delimiters (α : Type*) where
  separator : α
  quote : α
  newline : α
  /-- The character that some writers end a line with, before the newline. It is no text of a cell
  without quotes. -/
  carriage : α
  separator_ne_quote : separator ≠ quote
  separator_ne_carriage : separator ≠ carriage
  newline_ne_quote : newline ≠ quote
  newline_ne_separator : newline ≠ separator
  newline_ne_carriage : newline ≠ carriage

/-- Where the reader stands in a cell. -/
inductive Mode where
  | start
  | plain
  | quoted
  /-- After a quote within quotes: the cell ends here, or the quote is the first of a doubled one. -/
  | closed
  deriving DecidableEq, Repr

/-- The records read, the cells read of the record begun, and what is read of the next cell. -/
structure Reader (α : Type*) where
  mode : Mode
  cell : List α
  record : List (List α)
  records : List (List (List α))

variable {α : Type*}

namespace Reader

/-- Before a cell. -/
def before (records : List (List (List α))) (record : List (List α)) : Reader α :=
  ⟨.start, [], record, records⟩

def push (r : Reader α) (mode : Mode) (c : α) : Reader α :=
  { r with mode := mode, cell := r.cell ++ [c] }

def endCell (r : Reader α) : Reader α := before r.records (r.record ++ [r.cell])

def endRecord (r : Reader α) : Reader α := before (r.records ++ [r.record ++ [r.cell]]) []

/-- The records of a text that ends here. The last one may lack its newline. -/
def finish (r : Reader α) : Option (List (List (List α))) :=
  match r.mode, r.record with
  | .quoted, _ => none
  | .start, [] => some r.records
  | _, record => some (r.records ++ [record ++ [r.cell]])

end Reader

variable [DecidableEq α]

namespace Delimiters
variable (d : Delimiters α)

/-- A cell ends only at a separator or a newline. -/
def stepEnd (r : Reader α) (c : α) : Option (Reader α) :=
  if c = d.separator then some r.endCell
  else if c = d.newline then some r.endRecord
  else none

def stepPlain (r : Reader α) (c : α) : Option (Reader α) :=
  if c = d.carriage then none
  else (d.stepEnd r c).or (some (r.push .plain c))

/-- One character read; `none` where the text is not one of records and cells. -/
def step (r : Reader α) (c : α) : Option (Reader α) :=
  match r.mode with
  | .start => if c = d.quote then some { r with mode := .quoted } else d.stepPlain r c
  | .plain => if c = d.quote then none else d.stepPlain r c
  | .quoted => some (if c = d.quote then { r with mode := .closed } else r.push .quoted c)
  | .closed => if c = d.quote then some (r.push .quoted c) else d.stepEnd r c

def feed (r : Reader α) (text : List α) : Option (Reader α) := text.foldlM d.step r

def read (text : List α) : Option (List (List (List α))) :=
  (d.feed (.before [] []) text).bind Reader.finish

/-- The characters that a cell without quotes cannot hold. -/
def specials : List α := [d.separator, d.quote, d.newline, d.carriage]

/-- A cell's characters between its quotes. -/
def doubled (cell : List α) : List α :=
  cell.flatMap fun c => if c = d.quote then [d.quote, d.quote] else [c]

/-- `text` is a way to write `cell`. -/
inductive Writes : List α → List α → Prop
  | plain {cell : List α} (h : ∀ c ∈ cell, c ∉ d.specials) : Writes cell cell
  | quoted (cell : List α) : Writes (d.quote :: d.doubled cell ++ [d.quote]) cell

/-- `line` is a way to write `record`, with the newline that ends it. -/
def WritesRecord (line : List α) (record : List (List α)) : Prop :=
  ∃ texts, texts ≠ [] ∧ List.Forall₂ d.Writes texts record ∧
    line = [d.separator].intercalate texts ++ [d.newline]

/-! ## Reading a cell -/

variable {d} {r : Reader α} {c : α}

@[simp] theorem feed_nil : d.feed r [] = some r := rfl

theorem feed_cons {text : List α} : d.feed r (c :: text) = (d.step r c).bind (d.feed · text) := rfl

theorem feed_append {text rest : List α} :
    d.feed r (text ++ rest) = (d.feed r text).bind (d.feed · rest) :=
  List.foldlM_append

/-- Outside quotes a separator ends the cell. -/
theorem step_separator (h : r.mode ≠ .quoted) : d.step r d.separator = some r.endCell := by
  unfold step
  cases hmode : r.mode with
  | quoted => exact absurd hmode h
  | closed => simp [stepEnd, d.separator_ne_quote]
  | start => simp [stepPlain, stepEnd, d.separator_ne_quote, d.separator_ne_carriage]
  | plain => simp [stepPlain, stepEnd, d.separator_ne_quote, d.separator_ne_carriage]

/-- Outside quotes a newline ends the record. -/
theorem step_newline (h : r.mode ≠ .quoted) : d.step r d.newline = some r.endRecord := by
  have hends : d.stepEnd r d.newline = some r.endRecord := by
    simp [stepEnd, d.newline_ne_separator]
  unfold step
  cases hmode : r.mode with
  | quoted => exact absurd hmode h
  | closed => simp [hends, d.newline_ne_quote]
  | start => simp [stepPlain, hends, d.newline_ne_quote, d.newline_ne_carriage]
  | plain => simp [stepPlain, hends, d.newline_ne_quote, d.newline_ne_carriage]

/-- A character that is none of the special ones is read as text. -/
theorem step_text (h : c ∉ d.specials) (hmode : r.mode = .start ∨ r.mode = .plain) :
    d.step r c = some (r.push .plain c) := by
  simp only [specials, List.mem_cons, List.not_mem_nil, or_false, not_or] at h
  obtain ⟨hseparator, hquote, hnewline, hcarriage⟩ := h
  unfold step
  rcases hmode with hmode | hmode <;>
    simp [hmode, stepPlain, stepEnd, hseparator, hquote, hnewline, hcarriage]

theorem feed_plain {cell : List α} (h : ∀ c ∈ cell, c ∉ d.specials)
    (hmode : r.mode = .start ∨ r.mode = .plain) :
    ∃ mode, mode ≠ .quoted ∧ d.feed r cell = some { r with mode := mode, cell := r.cell ++ cell } := by
  induction cell generalizing r with
  | nil =>
    refine ⟨r.mode, ?_, by simp⟩
    rcases hmode with hmode | hmode <;> simp [hmode]
  | cons c cell ih =>
    obtain ⟨mode, hne, hfeed⟩ := ih (r := r.push .plain c)
      (fun x hx => h x (List.mem_cons_of_mem _ hx)) (.inr rfl)
    refine ⟨mode, hne, ?_⟩
    rw [feed_cons, step_text (h c List.mem_cons_self) hmode, Option.bind_some, hfeed]
    simp [Reader.push]

/-- A doubled quote is read as one, any other character between quotes as itself. -/
theorem feed_doubled {cell : List α} (hmode : r.mode = .quoted) :
    d.feed r (d.doubled cell) = some { r with cell := r.cell ++ cell } := by
  induction cell generalizing r with
  | nil => simp [doubled]
  | cons c cell ih =>
    have hhead : d.feed r (if c = d.quote then [d.quote, d.quote] else [c]) =
        some (r.push .quoted c) := by
      split
      · rename_i hquote
        simp [feed_cons, step, hmode, hquote, Reader.push]
      · rename_i hquote
        simp [feed_cons, step, hmode, hquote]
    have hsplit : d.doubled (c :: cell) =
        (if c = d.quote then [d.quote, d.quote] else [c]) ++ d.doubled cell := rfl
    rw [hsplit, feed_append, hhead, Option.bind_some, ih rfl]
    simp [Reader.push, hmode]

/-- Of a cell's text the reader holds the cell, and stands where the cell may end. -/
theorem feed_writes {text cell : List α} (h : d.Writes text cell)
    (records : List (List (List α))) (record : List (List α)) :
    ∃ mode, mode ≠ .quoted ∧
      d.feed (.before records record) text = some ⟨mode, cell, record, records⟩ := by
  cases h with
  | plain h => exact feed_plain h (.inl rfl)
  | quoted cell =>
    refine ⟨.closed, by decide, ?_⟩
    have hopen : d.step (.before records record) d.quote =
        some ⟨.quoted, [], record, records⟩ := by
      simp [step, Reader.before]
    rw [List.cons_append, feed_cons, hopen, Option.bind_some, feed_append, feed_doubled rfl,
      Option.bind_some]
    simp [feed_cons, step]

/-! ## Reading records -/

/-- Of cells in a row the reader holds the last one, the others are in the record. -/
theorem feed_texts {texts record : List (List α)} (h : List.Forall₂ d.Writes texts record)
    (hne : texts ≠ []) (records : List (List (List α))) (begun : List (List α)) :
    ∃ r, d.feed (.before records begun) ([d.separator].intercalate texts) = some r ∧
      r.mode ≠ .quoted ∧ r.record ++ [r.cell] = begun ++ record ∧ r.records = records := by
  induction h generalizing begun with
  | nil => exact absurd rfl hne
  | @cons text cell texts record hcell hrest ih =>
    obtain ⟨mode, hmode, hfeed⟩ := feed_writes hcell records begun
    -- a separator ends the cell unless it is the last one
    cases hrest with
    | nil => exact ⟨_, by rw [List.intercalate_singleton, hfeed], hmode, rfl, rfl⟩
    | cons hcell' hrest' =>
      obtain ⟨r, hr, hend, hcells, hrecords⟩ := ih (List.cons_ne_nil _ _) (begun ++ [cell])
      refine ⟨r, ?_, hend, by simpa using hcells, hrecords⟩
      rw [List.intercalate_cons_cons, List.append_assoc, feed_append, hfeed, Option.bind_some,
        List.singleton_append, feed_cons, step_separator hmode, Option.bind_some]
      exact hr

/-- The cells of a line are added to the record begun, and the newline ends it. -/
theorem feed_cells {texts record : List (List α)} (h : List.Forall₂ d.Writes texts record)
    (hne : texts ≠ []) (records : List (List (List α))) (begun : List (List α)) :
    d.feed (.before records begun) ([d.separator].intercalate texts ++ [d.newline]) =
      some (.before (records ++ [begun ++ record]) []) := by
  obtain ⟨r, hr, hend, hcells, hrecords⟩ := feed_texts h hne records begun
  rw [feed_append, hr, Option.bind_some, feed_cons, step_newline hend]
  simp [Reader.endRecord, hcells, hrecords]

theorem feed_lines {lines : List (List α)} {rest : List (List (List α))}
    (h : List.Forall₂ d.WritesRecord lines rest) (records : List (List (List α))) :
    d.feed (.before records []) lines.flatten = some (.before (records ++ rest) []) := by
  induction h generalizing records with
  | nil => simp
  | @cons line record lines rest hline _ ih =>
    obtain ⟨texts, hne, hcells, rfl⟩ := hline
    rw [List.flatten_cons, feed_append, feed_cells hcells hne, Option.bind_some, ih]
    simp

/-- **Written records are read back.** -/
theorem read_lines {lines : List (List α)} {records : List (List (List α))}
    (h : List.Forall₂ d.WritesRecord lines records) : d.read lines.flatten = some records := by
  rw [read, feed_lines h, Option.bind_some]
  rfl

/-- **The last record may lack its newline.** One of a single cell would read as no record where the
cell is empty. -/
theorem read_lines_unended {lines : List (List α)} {records : List (List (List α))}
    (h : List.Forall₂ d.WritesRecord lines records) {texts record : List (List α)}
    (hlast : List.Forall₂ d.Writes texts record) (hmany : 1 < texts.length) :
    d.read (lines.flatten ++ [d.separator].intercalate texts) = some (records ++ [record]) := by
  have hne : texts ≠ [] := by
    rintro rfl
    simp at hmany
  obtain ⟨r, hr, hend, hcells, hrecords⟩ := feed_texts hlast hne records []
  have hbegun : r.record ≠ [] := by
    intro hempty
    have hlength := congrArg List.length hcells
    simp only [hempty, List.nil_append, List.length_singleton, ← hlast.length_eq] at hlength
    omega
  have hfinish : r.finish = some (records ++ [record]) := by
    unfold Reader.finish
    split
    · exact absurd ‹_› hend
    · exact absurd ‹_› hbegun
    · rw [hrecords, hcells, List.nil_append]
  rw [read, feed_append, feed_lines h, Option.bind_some, List.nil_append, hr, Option.bind_some,
    hfinish]

end Delimiters

end DelimitedText

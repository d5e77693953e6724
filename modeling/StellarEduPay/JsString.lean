import Mathlib.Data.List.Lex
import Mathlib.Data.List.Sort

/-! # JavaScript strings

The operations on strings the sources use, where JavaScript's differ from
Lean's, and the slices of an array.
-/
namespace StellarEduPay

/-- JavaScript's white space and line terminators, as `String.prototype.trim`
removes them. -/
def isJsSpace (c : Char) : Bool :=
  c.val ∈ [0x09, 0x0A, 0x0B, 0x0C, 0x0D, 0x20, 0xA0, 0x1680, 0x2028, 0x2029, 0x202F, 0x205F,
    0x3000, 0xFEFF] || (0x2000 ≤ c.val && c.val ≤ 0x200A)

/-- A string that is present and not empty, as `if (s)` asks for. -/
def truthy (s : Option String) : Option String := s.filter (· ≠ "")

theorem truthy_of_ne {s : String} (h : s ≠ "") : truthy (some s) = some s :=
  Option.filter_eq_some_iff.mpr ⟨rfl, by simpa using h⟩

/-- `String.prototype.trim`. -/
def jsTrim (s : String) : String :=
  String.ofList ((s.toList.dropWhile isJsSpace).reverse.dropWhile isJsSpace).reverse

theorem jsTrim_of_no_space {s : String} (h : ∀ c ∈ s.toList, isJsSpace c = false) : jsTrim s = s := by
  have hnone : ∀ cs : List Char, (∀ c ∈ cs, isJsSpace c = false) → cs.dropWhile isJsSpace = cs := by
    intro cs hcs
    cases cs with
    | nil => rfl
    | cons c cs => exact List.dropWhile_cons_of_neg (by simp [hcs c List.mem_cons_self])
  rw [jsTrim, hnone _ h, hnone _ fun c hc => h c (List.mem_reverse.mp hc), List.reverse_reverse,
    String.ofList_toList]

theorem isJsSpace_of_isDigit {c : Char} (h : c.isDigit = true) : isJsSpace c = false := by
  have hlow : 48 ≤ c.toNat := (Char.isDigit_iff_toNat.mp h).1
  have hhigh : c.toNat ≤ 57 := (Char.isDigit_iff_toNat.mp h).2
  simp only [isJsSpace, List.mem_cons, List.not_mem_nil, ← UInt32.toNat_inj, UInt32.le_iff_toNat_le]
  simp
  omega

/-- `String.prototype.toUpperCase` on one character, as far as a comparison with ASCII
text can tell: besides the lower-case ASCII letters only the dotless `ı` and the long
`ſ` have an ASCII letter for their upper case. -/
def jsUpperChar (c : Char) : Char :=
  if c.val = 0x131 then 'I' else if c.val = 0x17F then 'S' else c.toUpper

/-- `String.prototype.toUpperCase`, compared with ASCII text. -/
def jsUpper (s : String) : String := String.ofList (s.toList.map jsUpperChar)

/-- The ASCII characters of the upper case of a character; some characters have several. -/
def jsUpperAscii (c : Char) : List Char :=
  match c.val with
  | 0xDF => ['S', 'S']
  | 0x149 => ['N']
  | 0x1F0 => ['J']
  | 0x1E96 => ['H']
  | 0x1E97 => ['T']
  | 0x1E98 => ['W']
  | 0x1E99 => ['Y']
  | 0x1E9A => ['A']
  | 0xFB00 => ['F', 'F']
  | 0xFB01 => ['F', 'I']
  | 0xFB02 => ['F', 'L']
  | 0xFB03 => ['F', 'F', 'I']
  | 0xFB04 => ['F', 'F', 'L']
  | 0xFB05 | 0xFB06 => ['S', 'T']
  | _ => [jsUpperChar c].filter fun d => d.val < 128

/-- `/^\d+$/.test(s)`. -/
def isDecimalDigits (s : String) : Bool := !s.toList.isEmpty && s.toList.all Char.isDigit

/-- The value of a string of decimal digits. -/
def decimalValue (s : String) : Nat :=
  s.toList.foldl (fun n c => 10 * n + (c.toNat - '0'.toNat)) 0

/-- `parseInt(s, 10)`: leading white space, a sign, and as many digits as follow; `none` is
`NaN`. -/
def jsParseInt (s : String) : Option Int :=
  let value (cs : List Char) : Option Int :=
    let digits := String.ofList (cs.takeWhile Char.isDigit)
    if isDecimalDigits digits then some (decimalValue digits) else none
  match s.toList.dropWhile isJsSpace with
  | '-' :: cs => (value cs).map fun n => -n
  | '+' :: cs => value cs
  | cs => value cs

/-- `String.prototype.localeCompare`, which depends on the locale: all that is documented of
it is that it orders. -/
structure LocaleCompare where
  compare : String → String → Int
  total : ∀ a b, compare a b ≤ 0 ∨ compare b a ≤ 0
  trans : ∀ {a b c}, compare a b ≤ 0 → compare b c ≤ 0 → compare a c ≤ 0

/-- Strings in the order of their code points. -/
def codePointOrder : LocaleCompare where
  compare a b :=
    if a.toList.map Char.toNat ≤ b.toList.map Char.toNat then
      if b.toList.map Char.toNat ≤ a.toList.map Char.toNat then 0 else -1
    else 1
  total a b := by
    rcases le_total (a.toList.map Char.toNat) (b.toList.map Char.toNat) with h | h
    · left
      rw [if_pos h]
      split <;> decide
    · right
      rw [if_pos h]
      split <;> decide
  trans := by
    intro a b c hab hbc
    split at hab
    case isFalse => exact absurd hab (by decide)
    split at hbc
    case isFalse => exact absurd hbc (by decide)
    rename_i hle hle'
    rw [if_pos (le_trans hle hle')]
    split <;> decide

namespace LocaleCompare
variable {α κ : Type} [LinearOrder κ] {key : α → κ} {name : α → String} {collate : LocaleCompare}

/-- The comparison of a sort by key, and by name where the keys are equal. -/
def Before (collate : LocaleCompare) (key : α → κ) (name : α → String) (a b : α) : Prop :=
  key a < key b ∨ key a = key b ∧ collate.compare (name a) (name b) ≤ 0

instance : DecidableRel (collate.Before key name) :=
  fun _ _ => inferInstanceAs (Decidable (_ ∨ _ ∧ _))

theorem before_total (a b : α) : collate.Before key name a b ∨ collate.Before key name b a := by
  rcases lt_trichotomy (key a) (key b) with hlt | heq | hgt
  · exact Or.inl (Or.inl hlt)
  · exact (collate.total (name a) (name b)).imp
      (fun h => Or.inr ⟨heq, h⟩) fun h => Or.inr ⟨heq.symm, h⟩
  · exact Or.inr (Or.inl hgt)

theorem before_trans {a b c : α} (hab : collate.Before key name a b)
    (hbc : collate.Before key name b c) : collate.Before key name a c := by
  rcases hab with hab | ⟨hab, habName⟩ <;> rcases hbc with hbc | ⟨hbc, hbcName⟩
  · exact Or.inl (hab.trans hbc)
  · exact Or.inl (hab.trans_eq hbc)
  · exact Or.inl (hab.trans_lt hbc)
  · exact Or.inr ⟨hab.trans hbc, collate.trans habName hbcName⟩

/-- The order tells distinct strings apart. -/
def Separates (collate : LocaleCompare) : Prop :=
  ∀ {a b : String}, collate.compare a b ≤ 0 → collate.compare b a ≤ 0 → a = b

theorem before_antisymm (hseparates : collate.Separates) {a b : α}
    (hab : collate.Before key name a b) (hba : collate.Before key name b a) : name a = name b := by
  rcases hab with hab | ⟨hab, habName⟩ <;> rcases hba with hba | ⟨hba, hbaName⟩
  · exact absurd (hab.trans hba) (lt_irrefl _)
  · exact absurd hab hba.not_gt
  · exact absurd hba hab.not_gt
  · exact hseparates habName hbaName

/-- **One order**: however a list comes, sorting it gives one result if the names are distinct. -/
theorem insertionSort_eq_of_perm (hseparates : collate.Separates) {l l' : List α} (hperm : l.Perm l')
    (hnames : ∀ a ∈ l, ∀ b ∈ l, name a = name b → a = b) :
    l.insertionSort (collate.Before key name) = l'.insertionSort (collate.Before key name) := by
  have : Std.Total (collate.Before key name) := ⟨before_total⟩
  have : IsTrans α (collate.Before key name) := ⟨fun _ _ _ => before_trans⟩
  have hsorted := (List.perm_insertionSort (collate.Before key name) l).trans
    (hperm.trans (List.perm_insertionSort (collate.Before key name) l').symm)
  refine hsorted.eq_of_pairwise (fun a b ha hb hab hba => ?_)
    (List.pairwise_insertionSort _ l) (List.pairwise_insertionSort _ l')
  rw [List.mem_insertionSort] at ha hb
  exact hnames a ha b (hperm.mem_iff.mpr hb) (before_antisymm hseparates hab hba)

end LocaleCompare

theorem codePointOrder_separates : codePointOrder.Separates := by
  have hle : ∀ {a b}, codePointOrder.compare a b ≤ 0 →
      a.toList.map Char.toNat ≤ b.toList.map Char.toNat := by
    intro a b h
    by_contra hlt
    have hcompare : codePointOrder.compare a b = 1 := if_neg hlt
    omega
  intro a b hab hba
  have hchars := le_antisymm (hle hab) (hle hba)
  exact String.ext (List.map_injective_iff.mpr (fun _ _ h => Char.toNat_inj.mp h) hchars)

/-- The code units of a string, which `sort` compares. -/
def utf16 (s : String) : List Nat :=
  s.toList.flatMap fun c =>
    if c.toNat < 65536 then [c.toNat]
    else [55296 + (c.toNat - 65536) / 1024, 56320 + (c.toNat - 65536) % 1024]

theorem utf16_cons (c : Char) (cs : List Char) : utf16 (String.ofList (c :: cs)) =
    (if c.toNat < 65536 then [c.toNat]
      else [55296 + (c.toNat - 65536) / 1024, 56320 + (c.toNat - 65536) % 1024]) ++
      utf16 (String.ofList cs) := by
  simp [utf16]

theorem utf16_cons_ne_nil (c : Char) (cs : List Char) : utf16 (String.ofList (c :: cs)) ≠ [] := by
  rw [utf16_cons]
  split <;> simp

/-- The code units tell what the characters are: a first unit of two is none of one. -/
theorem utf16_ofList_inj : ∀ {cs ds : List Char},
    utf16 (String.ofList cs) = utf16 (String.ofList ds) → cs = ds
  | [], [], _ => rfl
  | [], d :: ds, h => absurd h.symm (utf16_cons_ne_nil d ds)
  | c :: cs, [], h => absurd h (utf16_cons_ne_nil c cs)
  | c :: cs, d :: ds, h => by
    have hc : c.toNat < 55296 ∨ 57343 < c.toNat ∧ c.toNat < 1114112 := c.valid
    have hd : d.toNat < 55296 ∨ 57343 < d.toNat ∧ d.toNat < 1114112 := d.valid
    rw [utf16_cons, utf16_cons] at h
    split at h <;> split at h <;>
      simp only [List.cons_append, List.nil_append, List.cons.injEq] at h
    · rw [Char.toNat_inj.mp h.1, utf16_ofList_inj h.2]
    -- no character is one of the units of a pair
    · omega
    · omega
    · have hcd : c.toNat = d.toNat := by omega
      rw [Char.toNat_inj.mp hcd, utf16_ofList_inj h.2.2]

theorem utf16_injective : Function.Injective utf16 := by
  intro s t h
  rw [← String.ofList_toList (s := s), ← String.ofList_toList (s := t)] at h
  exact String.toList_inj.mp (utf16_ofList_inj h)

/-- The value of a hexadecimal digit. -/
def hexDigit (c : Char) : Option Nat :=
  if c.isDigit then some (c.toNat - '0'.toNat)
  else if 'a' ≤ c ∧ c ≤ 'f' then some (c.toNat - 'a'.toNat + 10)
  else if 'A' ≤ c ∧ c ≤ 'F' then some (c.toNat - 'A'.toNat + 10)
  else none

/-- `n.toString(16).toUpperCase().padStart(width, '0')`. -/
def upperHex (width n : Nat) : String :=
  let digits := (Nat.toDigits 16 n).map Char.toUpper
  String.ofList (List.replicate (width - digits.length) '0' ++ digits)

/-! ## Dates -/

/-- `padStart(width, '0')` of a number. -/
def zeroPadded (width n : Nat) : String :=
  String.ofList (List.replicate (width - (toString n).length) '0') ++ toString n

/-- The year, the month and the day of a day since the start of 1970. -/
def civilOfDays (days : Int) : Int × Int × Int :=
  let z := days + 719468
  let era := z / 146097
  let dayOfEra := z % 146097
  let yearOfEra := (dayOfEra - dayOfEra / 1460 + dayOfEra / 36524 - dayOfEra / 146096) / 365
  let dayOfYear := dayOfEra - (365 * yearOfEra + yearOfEra / 4 - yearOfEra / 100)
  let march := (5 * dayOfYear + 2) / 153
  let month := if march < 10 then march + 3 else march - 9
  let year := yearOfEra + era * 400
  (if month ≤ 2 then year + 1 else year, month, dayOfYear - (153 * march + 2) / 5 + 1)

/-- `Date.prototype.toISOString` -/
def toISOString (ms : Int) : String :=
  let (year, month, day) := civilOfDays (ms / 86400000)
  let time := (ms % 86400000).toNat
  let yearText :=
    if 0 ≤ year ∧ year ≤ 9999 then zeroPadded 4 year.toNat
    else (if year < 0 then "-" else "+") ++ zeroPadded 6 year.natAbs
  yearText ++ "-" ++ zeroPadded 2 month.toNat ++ "-" ++ zeroPadded 2 day.toNat ++ "T" ++
    zeroPadded 2 (time / 3600000) ++ ":" ++ zeroPadded 2 (time % 3600000 / 60000) ++ ":" ++
    zeroPadded 2 (time % 60000 / 1000) ++ "." ++ zeroPadded 3 (time % 1000) ++ "Z"

example : toISOString 1710046800000 = "2024-03-10T05:00:00.000Z" := by decide

/-! ## Slices -/

/-- `slice(i, i + n)` for `i = 0, n, 2 n, …`. -/
def slices {α : Type} (n : Nat) (l : List α) : List (List α) :=
  (List.range ((l.length + n - 1) / n)).map fun i => (l.drop (n * i)).take n

theorem flatten_slices {α : Type} {n : Nat} (hn : 0 < n) (l : List α) : (slices n l).flatten = l := by
  have htake : ∀ k, ((List.range k).map fun i => (l.drop (n * i)).take n).flatten = l.take (n * k) := by
    intro k
    induction k with
    | zero => simp
    | succ k ih => simp [List.range_succ, ih, Nat.mul_succ, List.take_add]
  refine (htake _).trans (List.take_of_length_le ?_)
  have hround := Nat.div_add_mod (l.length + n - 1) n
  have hmod := Nat.mod_lt (l.length + n - 1) hn
  omega

end StellarEduPay

import StellarEduPay.Decimals

/-! # Addresses as texts

An IPv4 address is written as four decimal numbers between dots.  An IPv6 address is written as eight
groups of hexadecimal digits between colons; a double colon may stand for one or more groups of zeros,
the last two groups may be written as an IPv4 address, and a zone may follow behind a percent sign.
An address so has many spellings.  Reading and writing a spelling undo each other.
-/
namespace IpText
open Decimals

/-! ## IPv4 -/

/-- A decimal number below 256, without zeros in front. -/
def octet (cs : List Char) : Option (Fin 256) :=
  if h : digitsValue cs < 256 ∧ cs = Nat.toDigits 10 (digitsValue cs) then some ⟨_, h.1⟩ else none

theorem octet_eq_some {cs : List Char} {n : Fin 256} :
    octet cs = some n ↔ Nat.toDigits 10 n = cs := by
  unfold octet
  constructor
  · intro h
    split at h
    · rename_i hcs
      cases h
      exact hcs.2.symm
    · cases h
  · rintro rfl
    rw [dif_pos ⟨by simp, by simp⟩]
    simp

structure Quad where
  a : Fin 256
  b : Fin 256
  c : Fin 256
  d : Fin 256
  deriving DecidableEq, Repr

namespace Quad

def octets (q : Quad) : List (List Char) :=
  [Nat.toDigits 10 q.a, Nat.toDigits 10 q.b, Nat.toDigits 10 q.c, Nat.toDigits 10 q.d]

def chars (q : Quad) : List Char := ['.'].intercalate q.octets

def text (q : Quad) : String := String.ofList q.chars

/-- The address as a number of 32 bits. -/
def value (q : Quad) : Nat := ((q.a * 256 + q.b) * 256 + q.c) * 256 + q.d

def ofChars (cs : List Char) : Option Quad :=
  match cs.splitOn '.' with
  | [a, b, c, d] => do return ⟨← octet a, ← octet b, ← octet c, ← octet d⟩
  | _ => none

variable {q : Quad} {cs : List Char}

theorem octets_isDigits : ∀ cs ∈ q.octets, IsDigits cs := by
  intro cs hcs
  simp only [octets, List.mem_cons, List.not_mem_nil, or_false] at hcs
  rcases hcs with rfl | rfl | rfl | rfl <;> exact isDigits_toDigits _

theorem splitOn_chars : q.chars.splitOn '.' = q.octets :=
  List.splitOn_intercalate _ (fun cs hcs hdot => absurd (octets_isDigits cs hcs '.' hdot) (by decide))
    (List.cons_ne_nil _ _)

theorem ofChars_eq_some : ofChars cs = some q ↔ q.chars = cs := by
  constructor
  · intro h
    unfold ofChars at h
    split at h
    · rename_i a b c d hsplit
      simp only [Option.pure_def, Option.bind_eq_bind, Option.bind_eq_some_iff, Option.some.injEq] at h
      obtain ⟨na, ha, nb, hb, nc, hc, nd, hd, rfl⟩ := h
      have hjoin : ['.'].intercalate (cs.splitOn '.') = cs := List.intercalate_splitOn '.'
      rw [← hjoin, hsplit, chars, octets, octet_eq_some.mp ha, octet_eq_some.mp hb,
        octet_eq_some.mp hc, octet_eq_some.mp hd]
    · cases h
  · rintro rfl
    have hoctet : ∀ n : Fin 256, octet (Nat.toDigits 10 n) = some n := fun n => octet_eq_some.mpr rfl
    rw [ofChars, splitOn_chars, octets]
    simp [hoctet]

theorem value_lt : q.value < 2 ^ 32 := by
  have ha := q.a.isLt
  have hb := q.b.isLt
  have hc := q.c.isLt
  have hd := q.d.isLt
  rw [value]
  omega

/-- The characters of an address are digits and dots, and one is a dot. -/
theorem mem_chars {c : Char} (h : c ∈ q.chars) : c.isDigit = true ∨ c = '.' := by
  simp only [chars, octets, List.intercalate_cons_cons, List.intercalate_singleton,
    List.mem_append, List.mem_singleton] at h
  have hdigit : ∀ n : Fin 256, c ∈ Nat.toDigits 10 (n : Nat) → c.isDigit = true :=
    fun n => isDigits_toDigits n c
  tauto

theorem dot_mem_chars : '.' ∈ q.chars := by
  simp [chars, octets, List.intercalate_cons_cons]

end Quad

/-! ## Letters in lower case -/

/-- Only a letter changes its case. -/
theorem toLower_eq_or_isAlpha (c : Char) :
    c.toLower = c ∨ c.isAlpha = true ∧ c.toLower.isAlpha = true := by
  have hascii : ∀ k < 128, (Char.ofNat k).toLower = Char.ofNat k ∨
      (Char.ofNat k).isAlpha = true ∧ (Char.ofNat k).toLower.isAlpha = true := by
    decide +kernel
  by_cases hupper : c.val ≥ 'A'.val ∧ c.val ≤ 'Z'.val
  · have hsmall : c.toNat < 128 := Nat.lt_of_le_of_lt (UInt32.le_iff_toNat_le.mp hupper.2) (by decide)
    have h := hascii c.toNat hsmall
    rwa [Char.ofNat_toNat] at h
  · exact .inl (dif_neg hupper)

theorem toLower_eq_iff {c x : Char} (hx : x.isAlpha = false) : c.toLower = x ↔ c = x := by
  constructor
  · rintro rfl
    rcases toLower_eq_or_isAlpha c with hsame | ⟨-, halpha⟩
    · exact hsame.symm
    · rw [halpha] at hx
      cases hx
  · rintro rfl
    rcases toLower_eq_or_isAlpha c with hsame | ⟨halpha, -⟩
    · exact hsame
    · rw [halpha] at hx
      cases hx

theorem not_isAlpha_of_isDigit {c : Char} (h : c.isDigit = true) : c.isAlpha = false := by
  have hdigits : ∀ k < 58, (Char.ofNat k).isDigit = true → (Char.ofNat k).isAlpha = false := by decide
  obtain ⟨-, hle⟩ := Char.isDigit_iff_toNat.mp h
  have halpha := hdigits c.toNat (Nat.lt_succ_of_le hle)
  rw [Char.ofNat_toNat] at halpha
  exact halpha h

/-- A text without letters is its own lower case and no other text's. -/
theorem map_toLower_eq_iff {cs xs : List Char} (hxs : ∀ x ∈ xs, x.isAlpha = false) :
    cs.map Char.toLower = xs ↔ cs = xs := by
  induction cs generalizing xs with
  | nil => simp [eq_comm]
  | cons c cs ih =>
    cases xs with
    | nil => simp
    | cons x xs =>
      rw [List.map_cons, List.cons.injEq, List.cons.injEq, toLower_eq_iff (hxs x List.mem_cons_self),
        ih fun y hy => hxs y (List.mem_cons_of_mem _ hy)]

theorem mem_map_toLower {cs : List Char} {x : Char} (hx : x.isAlpha = false) :
    x ∈ cs.map Char.toLower ↔ x ∈ cs := by
  rw [List.mem_map]
  constructor
  · rintro ⟨c, hc, h⟩
    rwa [← (toLower_eq_iff hx).mp h]
  · intro h
    exact ⟨x, h, (toLower_eq_iff hx).mpr rfl⟩

/-! ## The groups of an IPv6 address -/

def hexChars : List Char := "0123456789abcdef".toList

/-- The value of a hexadecimal digit of either case. -/
def hexDigitValue (c : Char) : Option Nat := hexChars.idxOf? c.toLower

def isHex (c : Char) : Bool := (hexDigitValue c).isSome

theorem hexChars_of_isHex {c : Char} (h : isHex c = true) :
    ∃ d < 16, hexDigitValue c = some d ∧ hexChars[d]? = some c.toLower := by
  obtain ⟨d, hd⟩ := Option.isSome_iff_exists.mp h
  have hchar : hexChars[d]? = some c.toLower := by
    obtain ⟨hlt, hget, -⟩ := List.idxOf?_eq_some_iff.mp hd
    rw [List.getElem?_eq_getElem hlt, hget]
  exact ⟨d, (List.getElem?_eq_some_iff.mp hchar).1, hd, hchar⟩

/-- The number that hexadecimal digits spell. -/
def hexNumber (cs : List Char) : Nat := cs.foldl (fun n c => n * 16 + (hexDigitValue c).getD 0) 0

/-- One to four hexadecimal digits. -/
structure HexGroup where
  digits : List Char
  allHex : digits.all isHex = true
  length : digits.length ∈ [1, 2, 3, 4]
  deriving DecidableEq

namespace HexGroup

def ofChars (cs : List Char) : Option HexGroup :=
  if h : cs.all isHex = true ∧ cs.length ∈ [1, 2, 3, 4] then some ⟨cs, h.1, h.2⟩ else none

variable {g : HexGroup} {cs : List Char}

theorem hex (g : HexGroup) : ∀ c ∈ g.digits, isHex c = true := List.all_eq_true.mp g.allHex

theorem ofChars_eq_some : ofChars cs = some g ↔ g.digits = cs := by
  unfold ofChars
  constructor
  · intro h
    split at h
    · cases h
      rfl
    · cases h
  · rintro rfl
    exact dif_pos ⟨g.allHex, g.length⟩

def value (g : HexGroup) : Nat := hexNumber g.digits

end HexGroup

/-! ## Spellings of an IPv6 address -/

def isZoneChar (c : Char) : Bool := c.isAlphanum || c == '-' || c == '.' || c == ':'

def isZone (z : List Char) : Bool := z ≠ [] && z.all isZoneChar

/-- An IPv4 address takes the place of two groups, and a double colon that of one at least. -/
def Fits (front : List HexGroup) (back : Option (List HexGroup)) (dotted : Option Quad) : Prop :=
  front.length + (back.getD []).length + (if dotted.isSome then 2 else 0) ∈
    if back.isSome then List.range 8 else [8]

instance (front : List HexGroup) (back : Option (List HexGroup)) (dotted : Option Quad) :
    Decidable (Fits front back dotted) :=
  inferInstanceAs (Decidable (_ ∈ _))

/-- A spelling: the groups in front of the double colon and those behind it, or all groups where there
is none; the IPv4 address at the end, and the zone. -/
structure Spelling where
  front : List HexGroup
  back : Option (List HexGroup)
  dotted : Option Quad
  zone : Option (List Char)
  fits : Fits front back dotted
  zoned : zone.all isZone = true
  deriving DecidableEq

/-- Groups with what follows them at the end. -/
def tailParts (gs : List HexGroup) (dotted : Option Quad) : List (List Char) :=
  gs.map HexGroup.digits ++ (dotted.map Quad.chars).toList

/-- A double colon at an end of the text is next to an empty part. -/
def orEmpty (parts : List (List Char)) : List (List Char) := if parts = [] then [[]] else parts

/-- What stands between the colons. -/
def partsOf (front : List HexGroup) (back : Option (List HexGroup)) (dotted : Option Quad) :
    List (List Char) :=
  match back with
  | none => tailParts front dotted
  | some back => orEmpty (front.map HexGroup.digits) ++ [] :: orEmpty (tailParts back dotted)

namespace Spelling

def parts (t : Spelling) : List (List Char) := partsOf t.front t.back t.dotted

def zoneText (t : Spelling) : List Char := t.zone.elim [] ('%' :: ·)

def chars (t : Spelling) : List Char := [':'].intercalate t.parts ++ t.zoneText

def text (t : Spelling) : String := String.ofList t.chars

/-- The groups behind the double colon, as numbers. -/
def backGroups (t : Spelling) : List Nat :=
  (t.back.getD []).map HexGroup.value ++
    (t.dotted.map fun q => [q.value / 65536, q.value % 65536]).getD []

/-- The eight groups, as numbers. -/
def groups (t : Spelling) : List Nat :=
  t.front.map HexGroup.value ++ List.replicate (8 - t.front.length - t.backGroups.length) 0 ++
    t.backGroups

/-- The address as a number of 128 bits. -/
def value (t : Spelling) : Nat := t.groups.foldl (fun n g => n * 65536 + g) 0

end Spelling

/-! ## Reading -/

def readTail : List (List Char) → Option (List HexGroup × Option Quad)
  | [] => some ([], none)
  | part :: parts =>
    match HexGroup.ofChars part with
    | some g => (readTail parts).map fun (gs, dotted) => (g :: gs, dotted)
    | none => if parts = [] then (Quad.ofChars part).map fun q => ([], some q) else none

/-- What stands behind a double colon. -/
def readBack (parts : List (List Char)) : Option (List HexGroup × Option Quad) :=
  if parts = [] then none else if parts = [[]] then some ([], none) else readTail parts

/-- The groups in front of a double colon. -/
def readFront (parts : List (List Char)) : Option (List HexGroup) := parts.mapM HexGroup.ofChars

def readParts (parts : List (List Char)) :
    Option (List HexGroup × Option (List HexGroup) × Option Quad) :=
  match parts with
  | [] :: [] :: parts => (readBack parts).map fun (back, dotted) => ([], some back, dotted)
  | parts =>
    match parts.dropWhile (· ≠ []) with
    | [] => (readTail parts).map fun (front, dotted) => (front, none, dotted)
    | _ :: rest =>
      if parts.takeWhile (· ≠ []) = [] then none
      else do
        let front ← readFront (parts.takeWhile (· ≠ []))
        let (back, dotted) ← readBack rest
        return (front, some back, dotted)

def readZone : List Char → Option (Option (List Char))
  | [] => some none
  | _ :: zone => if isZone zone then some (some zone) else none

/-- Reading a spelling. -/
def read (cs : List Char) : Option Spelling := do
  let zone ← readZone (cs.dropWhile (· ≠ '%'))
  let (front, back, dotted) ← readParts ((cs.takeWhile (· ≠ '%')).splitOn ':')
  if h : Fits front back dotted ∧ zone.all isZone = true then
    some ⟨front, back, dotted, zone, h.1, h.2⟩
  else none

/-! ## Reading and writing -/

theorem HexGroup.digits_ne_nil (g : HexGroup) : g.digits ≠ [] := by
  intro h
  have hlength := g.length
  rw [h] at hlength
  exact absurd hlength (by decide)

theorem ofChars_quad (q : Quad) : HexGroup.ofChars q.chars = none := by
  refine dif_neg fun h => ?_
  exact absurd (List.all_eq_true.mp h.1 '.' Quad.dot_mem_chars) (by decide)

theorem ne_nil_of_mem_tailParts {gs : List HexGroup} {dotted : Option Quad} :
    ∀ part ∈ tailParts gs dotted, part ≠ [] := by
  intro part hpart
  rcases List.mem_append.mp hpart with hgroup | hquad
  · obtain ⟨g, -, rfl⟩ := List.mem_map.mp hgroup
    exact g.digits_ne_nil
  · obtain ⟨q, -, rfl⟩ := Option.map_eq_some_iff.mp (Option.mem_toList.mp hquad)
    exact List.ne_nil_of_mem Quad.dot_mem_chars

theorem readTail_eq_some {parts : List (List Char)} {gs : List HexGroup} {dotted : Option Quad} :
    readTail parts = some (gs, dotted) ↔ tailParts gs dotted = parts := by
  constructor
  · intro h
    induction parts generalizing gs with
    | nil =>
      cases h
      rfl
    | cons part parts ih =>
      unfold readTail at h
      split at h
      · rename_i g hg
        obtain ⟨⟨gs', dotted'⟩, hrest, hpair⟩ := Option.map_eq_some_iff.mp h
        cases hpair
        rw [← ih hrest, ← HexGroup.ofChars_eq_some.mp hg]
        rfl
      · split at h
        · rename_i hlast
          obtain ⟨q, hq, hpair⟩ := Option.map_eq_some_iff.mp h
          cases hpair
          rw [hlast, ← Quad.ofChars_eq_some.mp hq]
          rfl
        · cases h
  · rintro rfl
    induction gs with
    | nil =>
      cases dotted with
      | none => rfl
      | some q =>
        have hquad : Quad.ofChars q.chars = some q := Quad.ofChars_eq_some.mpr rfl
        simp [tailParts, readTail, ofChars_quad, hquad]
    | cons g gs ih =>
      have hgroup : HexGroup.ofChars g.digits = some g := HexGroup.ofChars_eq_some.mpr rfl
      have hparts : tailParts (g :: gs) dotted = g.digits :: tailParts gs dotted := rfl
      rw [hparts, readTail, hgroup]
      simp only [ih, Option.map_some]

theorem readBack_eq_some {parts : List (List Char)} {gs : List HexGroup} {dotted : Option Quad} :
    readBack parts = some (gs, dotted) ↔ orEmpty (tailParts gs dotted) = parts := by
  unfold readBack orEmpty
  by_cases hnil : parts = []
  · subst hnil
    rw [if_pos rfl]
    constructor
    · intro h
      cases h
    · intro h
      split at h
      · cases h
      · contradiction
  rw [if_neg hnil]
  by_cases hempty : parts = [[]]
  · subst hempty
    rw [if_pos rfl]
    constructor
    · intro h
      cases h
      rfl
    · intro h
      have htail : tailParts gs dotted = [] := by
        by_contra hne
        rw [if_neg hne] at h
        exact ne_nil_of_mem_tailParts [] (h ▸ List.mem_singleton_self _) rfl
      obtain ⟨hgs, hdotted⟩ := List.append_eq_nil_iff.mp htail
      rw [List.map_eq_nil_iff] at hgs
      cases dotted with
      | none => rw [hgs]
      | some q => cases hdotted
  · rw [if_neg hempty, readTail_eq_some]
    constructor
    · intro h
      rw [h, if_neg hnil]
    · intro h
      split at h
      · exact absurd h.symm hempty
      · exact h

theorem readFront_eq_some {parts : List (List Char)} {gs : List HexGroup} :
    readFront parts = some gs ↔ gs.map HexGroup.digits = parts := by
  unfold readFront
  induction parts generalizing gs with
  | nil => cases gs <;> simp
  | cons part parts ih =>
    rw [List.mapM_cons]
    simp only [Option.bind_eq_bind, Option.pure_def, Option.bind_eq_some_iff, Option.some.injEq, ih]
    cases gs with
    | nil => simp
    | cons g gs => simp [HexGroup.ofChars_eq_some]

/-- What was read are the parts of a spelling. -/
theorem partsOf_of_readParts {parts : List (List Char)} {front : List HexGroup}
    {back : Option (List HexGroup)} {dotted : Option Quad}
    (h : readParts parts = some (front, back, dotted)) : partsOf front back dotted = parts := by
  unfold readParts at h
  split at h
  · obtain ⟨⟨b, q⟩, hback, hpair⟩ := Option.map_eq_some_iff.mp h
    cases hpair
    rw [partsOf, ← readBack_eq_some.mp hback]
    rfl
  · split at h
    · obtain ⟨⟨gs, q⟩, htail, hpair⟩ := Option.map_eq_some_iff.mp h
      cases hpair
      exact readTail_eq_some.mp htail
    · rename_i x rest hdrop
      split at h
      · cases h
      rename_i hfront
      simp only [Option.bind_eq_bind, Option.pure_def, Option.bind_eq_some_iff,
        Option.some.injEq] at h
      obtain ⟨gs, hgs, ⟨b, q⟩, hback, hpair⟩ := h
      cases hpair
      have hempty : x = [] := by
        have hhead := List.head?_dropWhile_not (fun part => decide (part ≠ [])) parts
        rw [hdrop] at hhead
        simpa using hhead
      have hgroups := readFront_eq_some.mp hgs
      have hsplit := List.takeWhile_append_dropWhile (p := fun part => part ≠ []) (l := parts)
      rw [partsOf, readBack_eq_some.mp hback, hgroups, orEmpty, if_neg hfront]
      rw [hdrop, hempty] at hsplit
      exact hsplit

/-- The parts of a spelling are read back. -/
theorem readParts_partsOf (front : List HexGroup) (back : Option (List HexGroup))
    (dotted : Option Quad) : readParts (partsOf front back dotted) = some (front, back, dotted) := by
  cases back with
  | none =>
    have hne : ∀ part ∈ tailParts front dotted, part ≠ [] := ne_nil_of_mem_tailParts
    have htail : readTail (tailParts front dotted) = some (front, dotted) :=
      readTail_eq_some.mpr rfl
    rw [partsOf]
    unfold readParts
    split
    · rename_i rest hparts
      exact absurd rfl (hne [] (by rw [hparts]; exact List.mem_cons_self))
    · have hdrop : (tailParts front dotted).dropWhile (· ≠ []) = [] :=
        List.dropWhile_eq_nil_iff.mpr fun part hpart => by simpa using hne part hpart
      rw [hdrop, htail]
      rfl
  | some b =>
    have hback : readBack (orEmpty (tailParts b dotted)) = some (b, dotted) :=
      readBack_eq_some.mpr rfl
    cases front with
    | nil =>
      change (readBack (orEmpty (tailParts b dotted))).map _ = _
      rw [hback]
      rfl
    | cons g gs =>
      have hne : ∀ part ∈ (g :: gs).map HexGroup.digits, part ≠ [] := by
        intro part hpart
        obtain ⟨g', -, rfl⟩ := List.mem_map.mp hpart
        exact g'.digits_ne_nil
      have hne' : ∀ part ∈ (g :: gs).map HexGroup.digits, decide (part ≠ []) = true :=
        fun part hpart => decide_eq_true (hne part hpart)
      have hfront : readFront ((g :: gs).map HexGroup.digits) = some (g :: gs) :=
        readFront_eq_some.mpr rfl
      have hfrontParts : (g :: gs).map HexGroup.digits ≠ [] := List.cons_ne_nil _ _
      rw [partsOf, orEmpty, if_neg hfrontParts]
      unfold readParts
      split
      · rename_i rest hparts
        exact absurd (List.cons.inj hparts).1 g.digits_ne_nil
      · rw [List.dropWhile_append_of_pos hne', List.takeWhile_append_of_pos hne',
          List.dropWhile_cons_of_neg (by simp), List.takeWhile_cons_of_neg (by simp),
          List.append_nil]
        dsimp only
        rw [if_neg hfrontParts, hfront, hback]
        rfl

/-! ### The whole text -/

theorem isHex_ne {c : Char} (h : isHex c = true) : c ≠ ':' ∧ c ≠ '%' := by
  constructor <;> rintro rfl <;> exact absurd h (by decide)

theorem isHex_of_isDigit {c : Char} (h : c.isDigit = true) : isHex c = true := by
  have hdigits : ∀ k < 58, (Char.ofNat k).isDigit = true → isHex (Char.ofNat k) = true := by decide
  obtain ⟨-, hle⟩ := Char.isDigit_iff_toNat.mp h
  have hhex := hdigits c.toNat (Nat.lt_succ_of_le hle)
  rw [Char.ofNat_toNat] at hhex
  exact hhex h

namespace Spelling
variable (t : Spelling)

theorem mem_tailParts {gs : List HexGroup} {dotted : Option Quad} :
    ∀ part ∈ tailParts gs dotted, ∀ c ∈ part, isHex c = true ∨ c = '.' := by
  intro part hpart c hc
  rcases List.mem_append.mp hpart with hgroup | hquad
  · obtain ⟨g, -, rfl⟩ := List.mem_map.mp hgroup
    exact .inl (g.hex c hc)
  · obtain ⟨q, -, rfl⟩ := Option.map_eq_some_iff.mp (Option.mem_toList.mp hquad)
    exact (Quad.mem_chars hc).imp isHex_of_isDigit id

theorem mem_orEmpty {parts : List (List Char)} {part : List Char} (h : part ∈ orEmpty parts) :
    part ∈ parts ∨ part = [] := by
  unfold orEmpty at h
  split at h
  · exact .inr (List.mem_singleton.mp h)
  · exact .inl h

theorem mem_parts : ∀ part ∈ t.parts, ∀ c ∈ part, isHex c = true ∨ c = '.' := by
  intro part hpart c hc
  unfold parts partsOf at hpart
  split at hpart
  · exact mem_tailParts part hpart c hc
  · rcases List.mem_append.mp hpart with hfront | hback
    · rcases mem_orEmpty hfront with hgroup | rfl
      · obtain ⟨g, -, rfl⟩ := List.mem_map.mp hgroup
        exact .inl (g.hex c hc)
      · cases hc
    · rcases List.mem_cons.mp hback with rfl | hback
      · cases hc
      · rcases mem_orEmpty hback with htail | rfl
        · exact mem_tailParts part htail c hc
        · cases hc

/-- No part has a colon or a percent sign. -/
theorem mem_parts_ne : ∀ part ∈ t.parts, ∀ c ∈ part, c ≠ ':' ∧ c ≠ '%' := by
  intro part hpart c hc
  rcases t.mem_parts part hpart c hc with hhex | rfl
  · exact isHex_ne hhex
  · decide

theorem parts_ne_nil : t.parts ≠ [] := by
  intro h
  unfold parts partsOf at h
  split at h
  · rename_i hback
    obtain ⟨hfront, hdotted⟩ := List.append_eq_nil_iff.mp h
    have hfits := t.fits
    have hnone : t.dotted = none := by
      cases hd : t.dotted with
      | none => rfl
      | some q => rw [hd] at hdotted; cases hdotted
    rw [List.map_eq_nil_iff] at hfront
    rw [hfront, hback, hnone] at hfits
    exact absurd hfits (by decide)
  · exact absurd (List.append_eq_nil_iff.mp h).2 (List.cons_ne_nil _ _)

theorem mem_intercalate {x c : Char} {parts : List (List Char)}
    (h : c ∈ [x].intercalate parts) : c = x ∨ ∃ part ∈ parts, c ∈ part := by
  induction parts with
  | nil => cases h
  | cons part parts ih =>
    cases parts with
    | nil => exact .inr ⟨part, List.mem_cons_self, by simpa using h⟩
    | cons part' parts =>
      rw [List.intercalate_cons_cons, List.mem_append, List.mem_append, List.mem_singleton] at h
      rcases h with (hpart | rfl) | hrest
      · exact .inr ⟨part, List.mem_cons_self, hpart⟩
      · exact .inl rfl
      · rcases ih hrest with hcolon | ⟨p, hp, hc⟩
        · exact .inl hcolon
        · exact .inr ⟨p, List.mem_cons_of_mem _ hp, hc⟩

/-- The text up to the zone. -/
theorem takeWhile_chars : t.chars.takeWhile (· ≠ '%') = [':'].intercalate t.parts ∧
    t.chars.dropWhile (· ≠ '%') = t.zoneText := by
  have haddress : ∀ c ∈ [':'].intercalate t.parts, decide (c ≠ '%') = true := by
    intro c hc
    rcases mem_intercalate hc with rfl | ⟨part, hpart, hc⟩
    · decide
    · exact decide_eq_true (t.mem_parts_ne part hpart c hc).2
  rw [chars, List.takeWhile_append_of_pos haddress, List.dropWhile_append_of_pos haddress, zoneText]
  cases t.zone <;> simp

end Spelling

/-- **Reading and writing** a spelling undo each other. -/
theorem read_eq_some {cs : List Char} {t : Spelling} : read cs = some t ↔ t.chars = cs := by
  constructor
  · intro h
    unfold read at h
    simp only [Option.bind_eq_bind, Option.bind_eq_some_iff] at h
    obtain ⟨zone, hzone, ⟨front, back, dotted⟩, hparts, h⟩ := h
    dsimp only at h
    split at h
    · cases h
      have haddress : [':'].intercalate (partsOf front back dotted) = cs.takeWhile (· ≠ '%') := by
        rw [partsOf_of_readParts hparts, List.intercalate_splitOn]
      have hrest : zone.elim [] ('%' :: ·) = cs.dropWhile (· ≠ '%') := by
        unfold readZone at hzone
        split at hzone
        · rename_i hnone
          cases hzone
          exact hnone.symm
        · rename_i c zone' hdrop
          split at hzone
          · cases hzone
            have hhead := List.head?_dropWhile_not (fun c => decide (c ≠ '%')) cs
            rw [hdrop] at hhead ⊢
            simp only [List.head?_cons, decide_eq_false_iff_not, not_not] at hhead
            rw [hhead]
            rfl
          · cases hzone
      have hsplit := List.takeWhile_append_dropWhile (p := fun c => decide (c ≠ '%')) (l := cs)
      rw [← haddress, ← hrest] at hsplit
      exact hsplit
    · cases h
  · rintro rfl
    have hsplit : ([':'].intercalate t.parts).splitOn ':' = t.parts :=
      List.splitOn_intercalate _ (fun part hpart hcolon => (t.mem_parts_ne part hpart _ hcolon).1 rfl)
        t.parts_ne_nil
    have hparts : readParts t.parts = some (t.front, t.back, t.dotted) := readParts_partsOf ..
    have hzone : readZone t.zoneText = some t.zone := by
      have hzoned := t.zoned
      rw [Spelling.zoneText]
      cases hz : t.zone with
      | none => rfl
      | some z =>
        rw [hz, Option.all_some] at hzoned
        exact if_pos hzoned
    unfold read
    rw [t.takeWhile_chars.1, t.takeWhile_chars.2, hsplit, hparts, hzone]
    exact dif_pos ⟨t.fits, t.zoned⟩

/-! ## Values -/

/-- A hexadecimal digit in lower case. -/
def lowerDigit (d : Nat) : Char := hexChars.getD d ' '

/-- The digits of a group in lower case, and its value, by the values of the digits. -/
theorem HexGroup.digit_values (g : HexGroup) :
    ∃ ds : List Nat, ds.length ∈ [1, 2, 3, 4] ∧ (∀ d ∈ ds, d < 16) ∧
      g.digits.map Char.toLower = ds.map lowerDigit ∧
      g.value = ds.foldl (fun n d => n * 16 + d) 0 := by
  refine ⟨g.digits.map fun c => (hexDigitValue c).getD 0, by simpa using g.length, ?_, ?_, ?_⟩
  · intro d hd
    obtain ⟨c, hc, rfl⟩ := List.mem_map.mp hd
    obtain ⟨d, hlt, hvalue, -⟩ := hexChars_of_isHex (g.hex c hc)
    rwa [hvalue]
  · rw [List.map_map]
    refine List.map_congr_left fun c hc => ?_
    obtain ⟨d, -, hvalue, hchar⟩ := hexChars_of_isHex (g.hex c hc)
    rw [Function.comp_apply, hvalue, Option.getD_some, lowerDigit, List.getD_eq_getElem?_getD, hchar,
      Option.getD_some]
  · rw [HexGroup.value, hexNumber, List.foldl_map]

/-- The digits in lower case decide the value. -/
theorem HexGroup.value_of_lower {g : HexGroup} {cs : List Char} (h : g.digits.map Char.toLower = cs) :
    g.value = hexNumber cs := by
  obtain ⟨ds, -, hlt, hlower, hvalue⟩ := g.digit_values
  have hdigit : ∀ d < 16, (hexDigitValue (lowerDigit d)).getD 0 = d := by decide
  rw [hvalue, ← h, hlower, hexNumber, List.foldl_map]
  refine List.foldl_ext _ _ 0 fun n d hd => ?_
  rw [hdigit d (hlt d hd)]

/-- A number of these digits is small. -/
theorem foldl_lt {b : Nat} {ds : List Nat} (hlt : ∀ d ∈ ds, d < b) :
    ds.foldl (fun n d => n * b + d) 0 < b ^ ds.length := by
  induction ds using List.reverseRecOn with
  | nil => simp
  | append_singleton ds d ih =>
    have hd := hlt d (by simp)
    have hrest := ih fun d' hd' => hlt d' (by simp [hd'])
    rw [List.foldl_append, List.foldl_cons, List.foldl_nil, List.length_append, List.length_singleton,
      pow_succ]
    nlinarith

theorem foldl_from (b n : Nat) (ds : List Nat) :
    ds.foldl (fun n d => n * b + d) n = n * b ^ ds.length + ds.foldl (fun n d => n * b + d) 0 := by
  induction ds using List.reverseRecOn with
  | nil => simp
  | append_singleton ds d ih =>
    simp only [List.foldl_append, List.foldl_cons, List.foldl_nil, List.length_append,
      List.length_singleton, pow_succ, ih]
    ring

theorem le_foldl {b : Nat} (hb : 0 < b) {ds : List Nat} {d : Nat} (h : d ∈ ds) :
    d ≤ ds.foldl (fun n d => n * b + d) 0 := by
  induction ds using List.reverseRecOn with
  | nil => cases h
  | append_singleton ds d' ih =>
    rw [List.foldl_append, List.foldl_cons, List.foldl_nil]
    rcases List.mem_append.mp h with hrest | hlast
    · have hle := ih hrest
      nlinarith
    · rw [List.mem_singleton.mp hlast]
      exact Nat.le_add_left ..

theorem HexGroup.value_lt (g : HexGroup) : g.value < 65536 := by
  obtain ⟨ds, hlength, hlt, -, hvalue⟩ := g.digit_values
  have hle : ds.length ≤ 4 := by
    simp only [List.mem_cons, List.not_mem_nil, or_false] at hlength
    omega
  calc g.value = ds.foldl (fun n d => n * 16 + d) 0 := hvalue
    _ < 16 ^ ds.length := foldl_lt hlt
    _ ≤ 16 ^ 4 := Nat.pow_le_pow_right (by decide) hle

namespace Spelling
variable (t : Spelling)

theorem backGroups_length :
    t.backGroups.length = (t.back.getD []).length + if t.dotted.isSome then 2 else 0 := by
  cases hd : t.dotted <;> simp [backGroups, hd]

theorem groups_length : t.groups.length = 8 := by
  have hfits := t.fits
  have hback := t.backGroups_length
  have hle : t.front.length + t.backGroups.length ≤ 8 := by
    unfold Fits at hfits
    split at hfits
    · rw [List.mem_range] at hfits
      omega
    · rw [List.mem_singleton] at hfits
      omega
  simp only [groups, List.length_append, List.length_map, List.length_replicate]
  omega

theorem groups_lt : ∀ g ∈ t.groups, g < 65536 := by
  intro g hg
  simp only [groups, backGroups, List.mem_append, List.mem_map, List.mem_replicate] at hg
  rcases hg with (⟨g, -, rfl⟩ | ⟨-, rfl⟩) | ⟨g, -, rfl⟩ | hdotted
  · exact g.value_lt
  · decide
  · exact g.value_lt
  · cases hd : t.dotted with
    | none => rw [hd] at hdotted; cases hdotted
    | some q =>
      have hq := q.value_lt
      simp only [hd, Option.map_some, Option.getD_some, List.mem_cons, List.not_mem_nil,
        or_false] at hdotted
      rcases hdotted with rfl | rfl <;> omega

/-- The first group is the highest part of the value. -/
theorem value_div {g : Nat} {l : List Nat} (h : t.groups = g :: l) : t.value / 2 ^ 112 = g := by
  have hlength : l.length = 7 := by simpa [h] using t.groups_length
  have hrest : l.foldl (fun n g => n * 65536 + g) 0 < 65536 ^ 7 := by
    rw [← hlength]
    exact foldl_lt fun g hg => t.groups_lt g (by simp [h, hg])
  rw [value, h, List.foldl_cons, foldl_from, hlength]
  omega

end Spelling

/-! ## How a spelling begins -/

/-- What stands before the first character that `p` refuses. -/
theorem eq_of_begins {p : Char → Bool} {start part rest : List Char} {x : Char}
    (h : start ++ [x] <+: part ++ rest) (hx : p x = false) (hstart : ∀ c ∈ start, p c = true)
    (hpart : ∀ c ∈ part, p c = true) (hrest : ∀ c ∈ rest.head?, p c = false) :
    part = start ∧ rest.head? = some x := by
  obtain ⟨tail, htail⟩ := h
  rw [List.append_assoc, List.singleton_append] at htail
  have htake := congrArg (List.takeWhile p) htail
  have hend : rest.takeWhile p = [] := by
    cases rest with
    | nil => rfl
    | cons c cs => exact List.takeWhile_cons_of_neg (by simp [hrest c rfl])
  rw [List.takeWhile_append_of_pos hstart, List.takeWhile_append_of_pos hpart,
    List.takeWhile_cons_of_neg (by simp [hx]), hend, List.append_nil, List.append_nil] at htake
  rw [htake] at htail
  exact ⟨htake.symm, by rw [← List.append_cancel_left htail]; rfl⟩

namespace Spelling
variable (t : Spelling)

theorem intercalate_colon_cons (part : List Char) {ps : List (List Char)} (h : ps ≠ []) :
    [':'].intercalate (part :: ps) = part ++ ':' :: [':'].intercalate ps := by
  rw [List.intercalate_cons_of_ne_nil h, List.append_assoc, List.singleton_append]

/-- A spelling begins with a double colon, or with a group and a colon. -/
theorem chars_cases :
    (∃ back, t.front = [] ∧ t.back = some back ∧
      t.chars = ':' :: ':' :: ([':'].intercalate (orEmpty (tailParts back t.dotted)) ++ t.zoneText)) ∨
    ∃ g gs rest, t.front = g :: gs ∧ t.chars = g.digits ++ ':' :: rest := by
  have hfits := t.fits
  cases hfront : t.front with
  | nil =>
    cases hback : t.back with
    | none =>
      rw [hfront, hback] at hfits
      cases hd : t.dotted <;> rw [hd] at hfits <;> exact absurd hfits (by simp [Fits])
    | some back =>
      refine .inl ⟨back, rfl, rfl, ?_⟩
      have hrest : orEmpty (tailParts back t.dotted) ≠ [] := by
        unfold orEmpty
        split
        · exact List.cons_ne_nil _ _
        · assumption
      rw [chars, parts, hfront, hback]
      change [':'].intercalate ([] :: [] :: orEmpty (tailParts back t.dotted)) ++ _ = _
      rw [intercalate_colon_cons _ (List.cons_ne_nil _ _), intercalate_colon_cons _ hrest]
      rfl
  | cons g gs =>
    have hparts : ∃ ps, t.parts = g.digits :: ps ∧ ps ≠ [] := by
      cases hback : t.back with
      | some back =>
        refine ⟨gs.map HexGroup.digits ++ [] :: orEmpty (tailParts back t.dotted), ?_, by simp⟩
        rw [parts, hfront, hback]
        rfl
      | none =>
        refine ⟨tailParts gs t.dotted, ?_, ?_⟩
        · rw [parts, hfront, hback]
          rfl
        · intro hnil
          obtain ⟨hgs, hd⟩ := List.append_eq_nil_iff.mp hnil
          rw [List.map_eq_nil_iff] at hgs
          cases hdotted : t.dotted with
          | none =>
            rw [hfront, hback, hgs, hdotted] at hfits
            exact absurd hfits (by simp [Fits])
          | some q => rw [hdotted] at hd; cases hd
    obtain ⟨ps, hps, hne⟩ := hparts
    refine .inr ⟨g, gs, [':'].intercalate ps ++ t.zoneText, rfl, ?_⟩
    rw [chars, hps, intercalate_colon_cons _ hne, List.append_assoc, List.cons_append]

theorem colon_mem_chars : ':' ∈ t.chars := by
  rcases t.chars_cases with ⟨back, -, -, h⟩ | ⟨g, gs, rest, -, h⟩ <;> simp [h]

theorem value_div_of_front {g : HexGroup} {gs : List HexGroup} (h : t.front = g :: gs) :
    t.value / 2 ^ 112 = g.value := by
  refine t.value_div (l := t.groups.tail) ?_
  simp [groups, h]

theorem value_div_of_nil (h : t.front = []) : t.value / 2 ^ 112 = 0 := by
  have hsmall : t.backGroups.length < 8 := by
    have hfits := t.fits
    rcases t.chars_cases with ⟨back, -, hback, -⟩ | ⟨g, gs, -, hfront, -⟩
    · unfold Fits at hfits
      rw [hback, if_pos (by rfl), List.mem_range] at hfits
      rw [backGroups_length, hback]
      omega
    · rw [h] at hfront
      cases hfront
  have hzeros : 8 - t.backGroups.length = 8 - t.backGroups.length - 1 + 1 := by omega
  refine t.value_div (l := t.groups.tail) ?_
  rw [groups, h, List.map_nil, List.length_nil, Nat.sub_zero, List.nil_append, hzeros,
    List.replicate_succ]
  rfl

/-! ### In lower case -/

/-- The spelling in lower case. -/
def lowered : List Char := t.chars.map Char.toLower

theorem lowered_cases :
    (∃ back, t.front = [] ∧ t.back = some back ∧ t.lowered = ':' :: ':' ::
      ([':'].intercalate (orEmpty (tailParts back t.dotted)) ++ t.zoneText).map Char.toLower) ∨
    ∃ g gs rest, t.front = g :: gs ∧ t.lowered = g.digits.map Char.toLower ++ ':' :: rest := by
  have hcolon : Char.toLower ':' = ':' := by decide
  rcases t.chars_cases with ⟨back, hfront, hback, hchars⟩ | ⟨g, gs, rest, hfront, hchars⟩
  · exact .inl ⟨back, hfront, hback, by rw [lowered, hchars, List.map_cons, List.map_cons, hcolon]⟩
  · exact .inr ⟨g, gs, _, hfront, by rw [lowered, hchars, List.map_append, List.map_cons, hcolon]⟩

theorem part_lower_ne {part : List Char} (h : ∀ c ∈ part, isHex c = true ∨ c = '.') :
    ∀ c ∈ part.map Char.toLower, decide (c ≠ ':' ∧ c ≠ '%') = true := by
  have hmem : ∀ x ∈ part, x ≠ ':' ∧ x ≠ '%' := fun x hx =>
    (h x hx).elim isHex_ne (by rintro rfl; decide)
  intro c hc
  rw [decide_eq_true_iff]
  constructor <;> rintro rfl
  · exact (hmem _ ((mem_map_toLower (by decide)).mp hc)).1 rfl
  · exact (hmem _ ((mem_map_toLower (by decide)).mp hc)).2 rfl

/-- A text before the first colon is the first group. -/
theorem value_div_of_starts {start : List Char} (h : start ++ [':'] <+: t.lowered)
    (hne : start ≠ []) (hstart : ∀ c ∈ start, isHex c = true) :
    t.value / 2 ^ 112 = hexNumber start := by
  rcases t.lowered_cases with ⟨back, -, -, hlower⟩ | ⟨g, gs, rest, hfront, hlower⟩
  · obtain ⟨c, start, rfl⟩ := List.exists_cons_of_ne_nil hne
    rw [hlower, List.cons_append, List.cons_prefix_cons] at h
    exact absurd h.1 (isHex_ne (hstart c List.mem_cons_self)).1
  · rw [hlower] at h
    have hdigits := (eq_of_begins h (by decide) (fun c hc => decide_eq_true (isHex_ne (hstart c hc)))
      (part_lower_ne fun c hc => .inl (g.hex c hc)) (by simp)).1
    rw [t.value_div_of_front hfront, g.value_of_lower hdigits]

/-- The first part behind a double colon. -/
theorem exists_first_part (back : List HexGroup) (dotted : Option Quad) :
    ∃ part ps, orEmpty (tailParts back dotted) = part :: ps ∧
      ∀ c ∈ part, isHex c = true ∨ c = '.' := by
  obtain ⟨part, ps, hparts⟩ : ∃ part ps, orEmpty (tailParts back dotted) = part :: ps := by
    unfold orEmpty
    split
    · exact ⟨[], [], rfl⟩
    · exact List.exists_cons_of_ne_nil ‹_›
  refine ⟨part, ps, hparts, ?_⟩
  rcases mem_orEmpty (hparts ▸ List.mem_cons_self) with htail | rfl
  · exact mem_tailParts part htail
  · exact fun c hc => by cases hc

/-- A text before the first colon of some parts is the first of them. -/
theorem part_of_starts {start part : List Char} {ps : List (List Char)}
    (h : start ++ [':'] <+: ([':'].intercalate (part :: ps) ++ t.zoneText).map Char.toLower)
    (hstart : ∀ c ∈ start, isHex c = true) (hpart : ∀ c ∈ part, isHex c = true ∨ c = '.') :
    part.map Char.toLower = start ∧ ps ≠ [] := by
  have hcolon : Char.toLower ':' = ':' := by decide
  have hpercent : Char.toLower '%' = '%' := by decide
  have hstart' : ∀ c ∈ start, decide (c ≠ ':' ∧ c ≠ '%') = true :=
    fun c hc => decide_eq_true (isHex_ne (hstart c hc))
  by_cases hps : ps = []
  · have hzone : ∀ c ∈ (t.zoneText.map Char.toLower).head?, c = '%' := by
      rw [zoneText]
      cases t.zone <;> simp [hpercent]
    rw [hps, List.intercalate_singleton, List.map_append] at h
    have hnext := (eq_of_begins h (by decide) hstart' (part_lower_ne hpart)
      fun c hc => by rw [hzone c hc]; decide).2
    exact absurd (hzone _ hnext) (by decide)
  · rw [intercalate_colon_cons _ hps, List.append_assoc, List.map_append, List.cons_append,
      List.map_cons, hcolon] at h
    exact ⟨(eq_of_begins h (by decide) hstart' (part_lower_ne hpart) (by simp)).1, hps⟩

/-- A text behind a double colon and before the next colon is the first group behind it. -/
theorem back_of_starts {start : List Char} (h : ':' :: ':' :: (start ++ [':']) <+: t.lowered)
    (hstart : ∀ c ∈ start, isHex c = true) :
    ∃ g gs, t.front = [] ∧ t.back = some (g :: gs) ∧ g.value = hexNumber start ∧
      tailParts gs t.dotted ≠ [] ∧ t.lowered = ':' :: ':' :: (start ++ ':' ::
        ([':'].intercalate (tailParts gs t.dotted) ++ t.zoneText).map Char.toLower) := by
  have hcolon : Char.toLower ':' = ':' := by decide
  rcases t.lowered_cases with ⟨back, hfront, hback, hlower⟩ | ⟨g, gs, rest, hfront, hlower⟩
  · obtain ⟨part, ps, hparts, hpart⟩ := exists_first_part back t.dotted
    rw [hlower, List.cons_prefix_cons, List.cons_prefix_cons, hparts] at h
    obtain ⟨hdigits, hps⟩ := t.part_of_starts h.2.2 hstart hpart
    have htail : tailParts back t.dotted = part :: ps := by
      unfold orEmpty at hparts
      split at hparts
      · cases hparts
        exact absurd rfl hps
      · exact hparts
    rw [hparts, intercalate_colon_cons _ hps, List.append_assoc, List.map_append, hdigits,
      List.cons_append, List.map_cons, hcolon] at hlower
    cases back with
    | nil =>
      have hquad : ∃ q : Quad, q.chars = part := by
        cases hd : t.dotted with
        | none => rw [hd] at htail; cases htail
        | some q =>
          rw [hd] at htail
          exact ⟨q, (List.cons.inj htail).1⟩
      obtain ⟨q, rfl⟩ := hquad
      have hdot : '.' ∈ start := by
        rw [← hdigits, mem_map_toLower (by decide)]
        exact Quad.dot_mem_chars
      exact absurd (hstart _ hdot) (by decide)
    | cons g gs =>
      obtain ⟨hg, rfl⟩ := List.cons.inj htail
      subst hg
      exact ⟨g, gs, hfront, hback, g.value_of_lower hdigits, hps, hlower⟩
  · obtain ⟨c, cs, hcs⟩ := List.exists_cons_of_ne_nil g.digits_ne_nil
    rw [hlower, hcs, List.map_cons, List.cons_append, List.cons_prefix_cons] at h
    have hchar : c = ':' := (toLower_eq_iff (by decide)).mp h.1.symm
    exact absurd hchar (isHex_ne (g.hex c (hcs ▸ List.mem_cons_self))).1

end Spelling

end IpText

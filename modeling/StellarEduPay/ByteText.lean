import Mathlib.Data.Char
import Mathlib.Data.List.Basic

/-! # Bytes as text

Hexadecimal and base64 between bytes and the values of digits, and the alphabet of base64.
-/
namespace StellarEduPay

/-! ## Digits and bytes -/

/-- `Buffer.from(value, 'hex')` on the values of an even number of digits. -/
def hexBytes : List Nat → List Nat
  | h :: l :: rest => (16 * h + l) :: hexBytes rest
  | _ => []

/-- The value of a base64 character. -/
def base64Digit (c : Char) : Option Nat :=
  if 'A' ≤ c ∧ c ≤ 'Z' then some (c.toNat - 'A'.toNat)
  else if 'a' ≤ c ∧ c ≤ 'z' then some (c.toNat - 'a'.toNat + 26)
  else if c.isDigit then some (c.toNat - '0'.toNat + 52)
  else if c = '+' then some 62
  else if c = '/' then some 63
  else none

/-- `Buffer.from(value, 'base64')` on the values of the characters before the padding:
bits that fill no byte are dropped. -/
def base64Bytes : List Nat → List Nat
  | a :: b :: c :: d :: rest =>
    (4 * a + b / 16) :: (16 * (b % 16) + c / 4) :: (64 * (c % 4) + d) :: base64Bytes rest
  | [a, b, c] => [4 * a + b / 16, 16 * (b % 16) + c / 4]
  | [a, b] => [4 * a + b / 16]
  | _ => []

/-- `buf.toString('base64')` without its padding, as character values. -/
def base64Digits : List Nat → List Nat
  | x :: y :: z :: rest =>
    (x / 4) :: (16 * (x % 4) + y / 16) :: (4 * (y % 16) + z / 64) :: (z % 64) :: base64Digits rest
  | [x, y] => [x / 4, 16 * (x % 4) + y / 16, 4 * (y % 16)]
  | [x] => [x / 4, 16 * (x % 4)]
  | [] => []

/-- The character of a base64 value. -/
def base64Char (n : Nat) : Char :=
  if n < 26 then Char.ofNat ('A'.toNat + n)
  else if n < 52 then Char.ofNat ('a'.toNat + (n - 26))
  else if n < 62 then Char.ofNat ('0'.toNat + (n - 52))
  else if n = 62 then '+'
  else '/'

/-- The padding behind this many base64 characters. -/
def base64Padding (length : Nat) : List Char := List.replicate ((4 - length % 4) % 4) '='

/-- The digits of bytes: two of four bits each. -/
def hexNibbles (bytes : List Nat) : List Nat := bytes.flatMap fun b => [b / 16, b % 16]

/-- A text spells bytes in base64; the padding may be left out. -/
def Base64Spells (cs : List Char) (bytes : List Nat) : Prop :=
  let digits := base64Digits bytes
  cs = digits.map base64Char ∨ cs = digits.map base64Char ++ base64Padding digits.length

/-! ## Bytes through hexadecimal -/

theorem hexBytes_nibbles (bytes : List Nat) : hexBytes (hexNibbles bytes) = bytes := by
  induction bytes with
  | nil => rfl
  | cons b bytes ih =>
    have hb : 16 * (b / 16) + b % 16 = b := Nat.div_add_mod b 16
    change (16 * (b / 16) + b % 16) :: hexBytes (hexNibbles bytes) = b :: bytes
    rw [ih, hb]

theorem hexNibbles_bytes {digits : List Nat} (h : ∀ d ∈ digits, d < 16)
    (heven : digits.length % 2 = 0) : hexNibbles (hexBytes digits) = digits := by
  induction digits using hexBytes.induct with
  | case1 x y rest ih =>
    simp only [List.forall_mem_cons] at h
    obtain ⟨hx, hy, hrest⟩ := h
    have hhigh : (16 * x + y) / 16 = x := by omega
    have hlow : (16 * x + y) % 16 = y := by omega
    have heven' : rest.length % 2 = 0 := by
      simp only [List.length_cons] at heven
      omega
    change (16 * x + y) / 16 :: (16 * x + y) % 16 :: hexNibbles (hexBytes rest) = x :: y :: rest
    rw [hhigh, hlow, ih hrest heven']
  | case2 digits htwo =>
    obtain _ | ⟨x, _ | ⟨y, rest⟩⟩ := digits
    · rfl
    · simp at heven
    · exact (htwo x y rest rfl).elim

theorem length_hexBytes (digits : List Nat) : (hexBytes digits).length = digits.length / 2 := by
  induction digits using hexBytes.induct with
  | case1 x y rest ih =>
    simp only [hexBytes, List.length_cons, ih]
    omega
  | case2 digits htwo =>
    obtain _ | ⟨x, _ | ⟨y, rest⟩⟩ := digits
    · rfl
    · simp [hexBytes]
    · exact (htwo x y rest rfl).elim

theorem hexBytes_lt {digits : List Nat} (h : ∀ d ∈ digits, d < 16) :
    ∀ b ∈ hexBytes digits, b < 256 := by
  induction digits using hexBytes.induct with
  | case1 x y rest ih =>
    simp only [List.forall_mem_cons] at h
    obtain ⟨hx, hy, hrest⟩ := h
    simp only [hexBytes, List.forall_mem_cons]
    exact ⟨by omega, ih hrest⟩
  | case2 digits htwo => simp [hexBytes]

theorem length_hexNibbles (bytes : List Nat) : (hexNibbles bytes).length = 2 * bytes.length := by
  induction bytes with
  | nil => rfl
  | cons b bytes ih =>
    have hlength : (hexNibbles (b :: bytes)).length = (hexNibbles bytes).length + 2 := rfl
    rw [hlength, ih, List.length_cons]
    rfl

/-! ## Bytes through base64 -/

section
variable {bytes digits : List Nat}

/-- **Bytes survive base64**, by induction on the groups of three. -/
theorem base64Bytes_digits (h : ∀ b ∈ bytes, b < 256) : base64Bytes (base64Digits bytes) = bytes := by
  induction bytes using base64Digits.induct with
  | case1 x y z rest ih =>
    simp only [List.forall_mem_cons] at h
    obtain ⟨hx, hy, hz, hrest⟩ := h
    rw [base64Digits, base64Bytes, ih hrest]
    congr 1
    · omega
    · congr 1
      · omega
      · congr 1
        omega
  | case2 x y =>
    simp only [List.forall_mem_cons] at h
    rw [base64Digits, base64Bytes]
    congr 1
    · omega
    · congr 1
      omega
  | case3 x =>
    simp only [List.forall_mem_cons] at h
    rw [base64Digits, base64Bytes]
    congr 1
    omega
  | case4 => rfl

theorem base64Digits_lt (h : ∀ b ∈ bytes, b < 256) : ∀ d ∈ base64Digits bytes, d < 64 := by
  induction bytes using base64Digits.induct with
  | case1 x y z rest ih =>
    simp only [List.forall_mem_cons] at h
    obtain ⟨hx, hy, hz, hrest⟩ := h
    simp only [base64Digits, List.forall_mem_cons]
    exact ⟨by omega, by omega, by omega, by omega, ih hrest⟩
  | case2 x y =>
    simp only [List.forall_mem_cons] at h
    simp only [base64Digits, List.forall_mem_cons]
    exact ⟨by omega, by omega, by omega, by simp⟩
  | case3 x =>
    simp only [List.forall_mem_cons] at h
    simp only [base64Digits, List.forall_mem_cons]
    exact ⟨by omega, by omega, by simp⟩
  | case4 => simp [base64Digits]

theorem base64Bytes_lt (h : ∀ d ∈ digits, d < 64) : ∀ b ∈ base64Bytes digits, b < 256 := by
  induction digits using base64Bytes.induct with
  | case1 a b c d rest ih =>
    simp only [List.forall_mem_cons] at h
    obtain ⟨ha, hb, hc, hd, hrest⟩ := h
    simp only [base64Bytes, List.forall_mem_cons]
    exact ⟨by omega, by omega, by omega, ih hrest⟩
  | case2 a b c =>
    simp only [List.forall_mem_cons] at h
    simp only [base64Bytes, List.forall_mem_cons]
    exact ⟨by omega, by omega, by simp⟩
  | case3 a b =>
    simp only [List.forall_mem_cons] at h
    simp only [base64Bytes, List.forall_mem_cons]
    exact ⟨by omega, by simp⟩
  | case4 digits h₁ h₂ h₃ => simp [base64Bytes]

/-- Eight bits a byte, six bits a digit. -/
theorem length_base64Bytes (digits : List Nat) :
    (base64Bytes digits).length = digits.length * 3 / 4 := by
  induction digits using base64Bytes.induct with
  | case1 a b c d rest ih =>
    simp only [base64Bytes, List.length_cons, ih]
    omega
  | case2 a b c => simp [base64Bytes]
  | case3 a b => simp [base64Bytes]
  | case4 digits hfour hthree htwo =>
    obtain _ | ⟨a, _ | ⟨b, _ | ⟨c, _ | ⟨d, rest⟩⟩⟩⟩ := digits
    · rfl
    · simp [base64Bytes]
    · exact (htwo a b rfl).elim
    · exact (hthree a b c rfl).elim
    · exact (hfour a b c d rest rfl).elim

theorem length_base64Digits (bytes : List Nat) :
    (base64Digits bytes).length = (bytes.length * 4 + 2) / 3 := by
  induction bytes using base64Digits.induct with
  | case1 x y z rest ih =>
    simp only [base64Digits, List.length_cons, ih]
    omega
  | case2 x y => simp [base64Digits]
  | case3 x => simp [base64Digits]
  | case4 => rfl

/-- Three digits and two bytes in the last group: they are spelled by what they were read from as
long as the two bits left over are zero. -/
theorem base64Digits_bytes (h : ∀ d ∈ digits, d < 64) (hlength : digits.length % 4 = 3) :
    base64Digits (base64Bytes digits) = digits ↔ digits.getLastD 0 % 4 = 0 := by
  induction digits using base64Bytes.induct with
  | case1 a b c d rest ih =>
    simp only [List.forall_mem_cons] at h
    obtain ⟨ha, hb, hc, hd, hrest⟩ := h
    have hrest' : rest ≠ [] := by
      rintro rfl
      simp at hlength
    have hlast : (a :: b :: c :: d :: rest).getLastD 0 = rest.getLastD 0 := by
      cases rest with
      | nil => exact absurd rfl hrest'
      | cons e rest => simp
    have hgroup : [(4 * a + b / 16) / 4, 16 * ((4 * a + b / 16) % 4) + (16 * (b % 16) + c / 4) / 16,
        4 * ((16 * (b % 16) + c / 4) % 16) + (64 * (c % 4) + d) / 64, (64 * (c % 4) + d) % 64] =
        [a, b, c, d] := by
      congr 1
      · omega
      congr 1
      · omega
      congr 1
      · omega
      congr 1
      omega
    simp only [List.cons.injEq, and_true] at hgroup
    obtain ⟨ha', hb', hc', hd'⟩ := hgroup
    simp only [List.length_cons] at hlength
    rw [base64Bytes, base64Digits, ha', hb', hc', hd', hlast, ← ih hrest (by omega)]
    simp only [List.cons.injEq, true_and]
  | case2 a b c =>
    simp only [List.forall_mem_cons] at h
    obtain ⟨ha, hb, hc, -⟩ := h
    have hlast : [a, b, c].getLastD 0 = c := rfl
    rw [hlast]
    simp only [base64Bytes, base64Digits, List.cons.injEq, and_true]
    omega
  | case3 a b => simp at hlength
  | case4 digits hfour hthree htwo =>
    obtain _ | ⟨a, _ | ⟨b, _ | ⟨c, _ | ⟨d, rest⟩⟩⟩⟩ := digits
    · simp at hlength
    · simp at hlength
    · exact (htwo a b rfl).elim
    · exact (hthree a b c rfl).elim
    · exact (hfour a b c d rest rfl).elim

end

/-! ## Reading digits -/

/-- Each character spells, in its folded form, the digit that is read from it: then the digits of a
text are those it is written with. -/
theorem mapM_eq_some_iff {α β γ : Type} {read : α → Option β} {write : β → γ} {fold : α → γ}
    {P : β → Prop} (hread : ∀ a b, read a = some b ↔ P b ∧ fold a = write b) {text : List α}
    {digits : List β} :
    text.mapM read = some digits ↔ (∀ d ∈ digits, P d) ∧ text.map fold = digits.map write := by
  induction text generalizing digits with
  | nil =>
    constructor
    · intro h
      obtain rfl := Option.some.inj h
      simp
    · rintro ⟨-, hmap⟩
      rw [List.map_eq_nil_iff.mp hmap.symm]
      rfl
  | cons a text ih =>
    simp only [List.mapM_cons, Option.bind_eq_bind, Option.bind_eq_some_iff, Option.pure_def,
      Option.some.injEq, ih, hread, List.map_cons]
    constructor
    · rintro ⟨d, ⟨hd, hfold⟩, rest, ⟨hrest, hmap⟩, rfl⟩
      exact ⟨List.forall_mem_cons.mpr ⟨hd, hrest⟩, by rw [hfold, hmap, List.map_cons]⟩
    · rintro ⟨hall, hmap⟩
      obtain ⟨d, rest, rfl, hfold, hrest⟩ := List.map_eq_cons_iff.mp hmap.symm
      obtain ⟨hd, hall⟩ := List.forall_mem_cons.mp hall
      exact ⟨d, ⟨hd, hfold.symm⟩, rest, ⟨hall, hrest.symm⟩, rfl⟩

/-- A text of digits is the writing of a list of them. -/
theorem exists_digits {β γ : Type} {write : β → γ} {P : β → Prop} {text : List γ}
    (h : ∀ c ∈ text, ∃ d, P d ∧ write d = c) :
    ∃ digits : List β, (∀ d ∈ digits, P d) ∧ text = digits.map write := by
  induction text with
  | nil => exact ⟨[], by simp, rfl⟩
  | cons c text ih =>
    obtain ⟨hc, hrest⟩ := List.forall_mem_cons.mp h
    obtain ⟨d, hd, rfl⟩ := hc
    obtain ⟨digits, hdigits, rfl⟩ := ih hrest
    exact ⟨d :: digits, List.forall_mem_cons.mpr ⟨hd, hdigits⟩, rfl⟩

/-! ## The alphabet -/

section
variable {b c : Char} {n : Nat}

theorem toNat_le_of_le (h : b ≤ c) : b.toNat ≤ c.toNat := h

/-- Behind the first 128 characters there is none of them. -/
theorem not_le_of_toNat (hc : 128 ≤ c.toNat) (hb : b.toNat < 128) : ¬ c ≤ b := fun h => by
  have := toNat_le_of_le h
  omega

theorem not_isDigit_of_toNat (hc : 128 ≤ c.toNat) : ¬ c.isDigit = true := fun h => by
  have : c.toNat ≤ 57 := (Char.isDigit_iff_toNat.mp h).2
  omega

theorem base64Digit_char : ∀ n < 64, base64Digit (base64Char n) = some n := by decide

theorem base64Char_ne_pad : ∀ n < 64, base64Char n ≠ '=' := by decide

/-- The characters of the alphabet are among the first 128. -/
theorem toNat_lt_of_base64Digit (h : (base64Digit c).isSome) : c.toNat < 128 := by
  by_contra hlarge
  have hlarge : 128 ≤ c.toNat := Nat.le_of_not_lt hlarge
  have hupper : ¬ c ≤ 'Z' := not_le_of_toNat hlarge (by decide)
  have hlower : ¬ c ≤ 'z' := not_le_of_toNat hlarge (by decide)
  have hdigit : ¬ c.isDigit = true := not_isDigit_of_toNat hlarge
  have hplus : c ≠ '+' := by
    rintro rfl
    exact absurd hlarge (by decide)
  have hslash : c ≠ '/' := by
    rintro rfl
    exact absurd hlarge (by decide)
  simp [base64Digit, hupper, hlower, hdigit, hplus, hslash] at h

theorem base64Char_digit (h : base64Digit c = some n) : base64Char n = c ∧ n < 64 := by
  have hall : ∀ k < 128, (base64Digit (Char.ofNat k)).all fun n =>
      base64Char n = Char.ofNat k ∧ n < 64 := by decide
  have hc := hall c.toNat (toNat_lt_of_base64Digit (by simp [h]))
  rw [Char.ofNat_toNat, h] at hc
  simpa using hc

theorem base64Digit_eq_some_iff : base64Digit c = some n ↔ n < 64 ∧ c = base64Char n := by
  constructor
  · intro h
    obtain ⟨hchar, hlt⟩ := base64Char_digit h
    exact ⟨hlt, hchar.symm⟩
  · rintro ⟨hlt, rfl⟩
    exact base64Digit_char n hlt

/-- The digits of a text are those it is written with. -/
theorem mapM_base64Digit {cs : List Char} {digits : List Nat} :
    cs.mapM base64Digit = some digits ↔ cs = digits.map base64Char ∧ ∀ d ∈ digits, d < 64 := by
  have hread : ∀ c n, base64Digit c = some n ↔ n < 64 ∧ id c = base64Char n :=
    fun _ _ => base64Digit_eq_some_iff
  rw [mapM_eq_some_iff hread, List.map_id, and_comm]

theorem exists_base64Digits {cs : List Char} (h : ∀ c ∈ cs, (base64Digit c).isSome = true) :
    ∃ digits : List Nat, cs = digits.map base64Char ∧ ∀ d ∈ digits, d < 64 := by
  have hwritten : ∀ c ∈ cs, ∃ d, d < 64 ∧ base64Char d = c := fun c hc => by
    obtain ⟨d, hd⟩ := Option.isSome_iff_exists.mp (h c hc)
    obtain ⟨hchar, hlt⟩ := base64Char_digit hd
    exact ⟨d, hlt, hchar⟩
  obtain ⟨digits, hlt, hcs⟩ := exists_digits hwritten
  exact ⟨digits, hcs, hlt⟩

end
end StellarEduPay

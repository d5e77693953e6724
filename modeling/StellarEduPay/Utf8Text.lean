import Mathlib.Data.List.Basic
import Mathlib.Tactic.Common

/-! # Texts as UTF-8

The encoding of characters is Lean's own. The decoder reads byte by byte and never fails: where the
bytes are no UTF-8, it writes a replacement character for as many of them as may begin a character, and
begins anew. On what was encoded it gives the text (`decode_encode`).
-/
namespace Utf8Text

def encode (text : List Char) : List UInt8 := text.flatMap String.utf8EncodeChar

def replacement : Char := Char.ofNat 0xFFFD

/-- A character begun: how many bytes are still to come, the bits read so far, and the bounds of the
next byte. -/
structure Pending where
  needed : Nat
  codePoint : Nat
  lower : Nat := 0x80
  upper : Nat := 0xBF

/-- The first byte of a character of several bytes. The bounds of the second leave out encodings that
are too long, the surrogates, and what is beyond Unicode. -/
def lead (b : Nat) : Option Pending :=
  if 0xC2 ≤ b ∧ b ≤ 0xDF then some { needed := 1, codePoint := b - 0xC0 }
  else if 0xE0 ≤ b ∧ b ≤ 0xEF then
    some
      { needed := 2
        codePoint := b - 0xE0
        lower := if b = 0xE0 then 0xA0 else 0x80
        upper := if b = 0xED then 0x9F else 0xBF }
  else if 0xF0 ≤ b ∧ b ≤ 0xF4 then
    some
      { needed := 3
        codePoint := b - 0xF0
        lower := if b = 0xF0 then 0x90 else 0x80
        upper := if b = 0xF4 then 0x8F else 0xBF }
  else none

/-- A byte where no character is begun: what is written, and the character it begins. -/
def start (b : Nat) : List Char × Option Pending :=
  if b ≤ 0x7F then ([Char.ofNat b], none)
  else
    match lead b with
    | some p => ([], some p)
    | none => ([replacement], none)

/-- A byte where a character is begun. One that does not continue it is read again from the start. -/
def Pending.step (p : Pending) (b : Nat) : List Char × Option Pending :=
  if p.lower ≤ b ∧ b ≤ p.upper then
    let codePoint := 64 * p.codePoint + (b - 0x80)
    if p.needed = 1 then ([Char.ofNat codePoint], none)
    else ([], some { needed := p.needed - 1, codePoint := codePoint })
  else (replacement :: (start b).1, (start b).2)

def decodeFrom : Option Pending → List UInt8 → List Char
  | none, [] => []
  | some _, [] => [replacement]
  | none, b :: bytes => (start b.toNat).1 ++ decodeFrom (start b.toNat).2 bytes
  | some p, b :: bytes => (p.step b.toNat).1 ++ decodeFrom (p.step b.toNat).2 bytes

def decode (bytes : List UInt8) : List Char := decodeFrom none bytes

/-! ## Reading one character -/

section
variable {a b c d : UInt8} {rest : List UInt8}

theorem decode_one (ha : a.toNat ≤ 0x7F) : decode (a :: rest) = Char.ofNat a.toNat :: decode rest := by
  simp [decode, decodeFrom, start, ha]

/-- A byte within the bounds, with more to come. -/
theorem step_more {p : Pending} {n : Nat} (hn : p.lower ≤ n ∧ n ≤ p.upper) (hmore : p.needed ≠ 1) :
    p.step n = ([], some { needed := p.needed - 1, codePoint := 64 * p.codePoint + (n - 0x80) }) := by
  rw [Pending.step, if_pos hn, if_neg hmore]

/-- The last byte of a character. -/
theorem step_last {p : Pending} {n : Nat} (hn : p.lower ≤ n ∧ n ≤ p.upper) (hlast : p.needed = 1) :
    p.step n = ([Char.ofNat (64 * p.codePoint + (n - 0x80))], none) := by
  rw [Pending.step, if_pos hn, if_pos hlast]

theorem decode_lead {p : Pending} (ha : 0x7F < a.toNat) (hlead : lead a.toNat = some p) :
    decode (a :: rest) = decodeFrom (some p) rest := by
  simp [decode, decodeFrom, start, Nat.not_le.mpr ha, hlead]

theorem decode_two (ha : 0xC2 ≤ a.toNat ∧ a.toNat ≤ 0xDF) (hb : 0x80 ≤ b.toNat ∧ b.toNat ≤ 0xBF) :
    decode (a :: b :: rest) =
      Char.ofNat (64 * (a.toNat - 0xC0) + (b.toNat - 0x80)) :: decode rest := by
  rw [decode_lead (by omega) (if_pos ha), decodeFrom, step_last hb rfl]
  rfl

theorem decode_three (ha : 0xE0 ≤ a.toNat ∧ a.toNat ≤ 0xEF)
    (hb : (if a.toNat = 0xE0 then 0xA0 else 0x80) ≤ b.toNat ∧
      b.toNat ≤ if a.toNat = 0xED then 0x9F else 0xBF)
    (hc : 0x80 ≤ c.toNat ∧ c.toNat ≤ 0xBF) :
    decode (a :: b :: c :: rest) =
      Char.ofNat (64 * (64 * (a.toNat - 0xE0) + (b.toNat - 0x80)) + (c.toNat - 0x80)) ::
        decode rest := by
  have hlead : lead a.toNat = some ⟨2, a.toNat - 0xE0, if a.toNat = 0xE0 then 0xA0 else 0x80,
      if a.toNat = 0xED then 0x9F else 0xBF⟩ := by
    rw [lead, if_neg (by omega), if_pos ha]
  rw [decode_lead (by omega) hlead, decodeFrom, step_more hb (by simp), decodeFrom, step_last hc rfl]
  rfl

theorem decode_four (ha : 0xF0 ≤ a.toNat ∧ a.toNat ≤ 0xF4)
    (hb : (if a.toNat = 0xF0 then 0x90 else 0x80) ≤ b.toNat ∧
      b.toNat ≤ if a.toNat = 0xF4 then 0x8F else 0xBF)
    (hc : 0x80 ≤ c.toNat ∧ c.toNat ≤ 0xBF) (hd : 0x80 ≤ d.toNat ∧ d.toNat ≤ 0xBF) :
    decode (a :: b :: c :: d :: rest) =
      Char.ofNat (64 * (64 * (64 * (a.toNat - 0xF0) + (b.toNat - 0x80)) + (c.toNat - 0x80)) +
        (d.toNat - 0x80)) :: decode rest := by
  have hlead : lead a.toNat = some ⟨3, a.toNat - 0xF0, if a.toNat = 0xF0 then 0x90 else 0x80,
      if a.toNat = 0xF4 then 0x8F else 0xBF⟩ := by
    rw [lead, if_neg (by omega), if_neg (by omega), if_pos ha]
  rw [decode_lead (by omega) hlead, decodeFrom, step_more hb (by simp), decodeFrom,
    step_more hc (by simp), decodeFrom, step_last hd rfl]
  rfl

end

/-! ## Texts survive -/

theorem decode_utf8EncodeChar (c : Char) (rest : List UInt8) :
    decode (String.utf8EncodeChar c ++ rest) = c :: decode rest := by
  have hvalid : c.toNat < 0xD800 ∨ 0xDFFF < c.toNat ∧ c.toNat < 0x110000 := c.valid
  have hchar : ∀ n, n = c.toNat → Char.ofNat n = c := by
    rintro n rfl
    exact Char.ofNat_toNat c
  have hbyte : ∀ n < 256, (UInt8.ofNat n).toNat = n := fun n hn => by
    rw [UInt8.toNat_ofNat', Nat.mod_eq_of_lt hn]
  have hval : c.val.toNat = c.toNat := rfl
  unfold String.utf8EncodeChar
  simp only [hval]
  split
  · rw [List.singleton_append, decode_one (by rw [hbyte _ (by omega)]; omega), hbyte _ (by omega),
      hchar _ rfl]
  split
  · rw [List.cons_append, List.singleton_append,
      decode_two (by rw [hbyte _ (by omega)]; omega) (by rw [hbyte _ (by omega)]; omega),
      hbyte _ (by omega), hbyte _ (by omega), hchar _ (by omega)]
  split
  · rw [List.cons_append, List.cons_append, List.singleton_append,
      decode_three (by rw [hbyte _ (by omega)]; omega)
        (by rw [hbyte _ (by omega), hbyte _ (by omega)]; split <;> split <;> omega)
        (by rw [hbyte _ (by omega)]; omega),
      hbyte _ (by omega), hbyte _ (by omega), hbyte _ (by omega), hchar _ (by omega)]
  · rw [List.cons_append, List.cons_append, List.cons_append, List.singleton_append,
      decode_four (by rw [hbyte _ (by omega)]; omega)
        (by rw [hbyte _ (by omega), hbyte _ (by omega)]; split <;> split <;> omega)
        (by rw [hbyte _ (by omega)]; omega) (by rw [hbyte _ (by omega)]; omega),
      hbyte _ (by omega), hbyte _ (by omega), hbyte _ (by omega), hbyte _ (by omega),
      hchar _ (by omega)]

/-- **What was encoded is decoded to the text.** -/
theorem decode_encode (text : List Char) : decode (encode text) = text := by
  induction text with
  | nil => rfl
  | cons c text ih =>
    have hcons : encode (c :: text) = String.utf8EncodeChar c ++ encode text := rfl
    rw [hcons, decode_utf8EncodeChar, ih]

theorem encode_ne_nil {text : List Char} (h : text ≠ []) : encode text ≠ [] := by
  obtain ⟨c, text, rfl⟩ := List.exists_cons_of_ne_nil h
  have hsize : 0 < (String.utf8EncodeChar c).length := by
    rw [String.length_utf8EncodeChar]
    exact Char.utf8Size_pos c
  rw [encode, List.flatMap_cons]
  exact List.append_ne_nil_of_left_ne_nil (List.length_pos_iff.mp hsize) _

/-- A stray byte, a character broken off, and a surrogate, of whose bytes none begins a character. -/
example : decode [0x41, 0x80, 0xE2, 0x82, 0x42, 0xED, 0xA0, 0x80] =
    ['A', replacement, replacement, 'B', replacement, replacement, replacement] := by decide

end Utf8Text

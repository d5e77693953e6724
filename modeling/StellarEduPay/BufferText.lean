import StellarEduPay.ByteText
import StellarEduPay.JsString
import StellarEduPay.Utf8Text

/-! # Texts of a `Buffer`

A `Buffer` is written as hexadecimal, base64 or base64url, and read again; the reader leaves out what it
does not know, and never fails. As UTF-8 it is read as the text it was made from.
-/
namespace StellarEduPay

/-! ## Hexadecimal -/

/-- `Buffer.from(hex, 'hex')`, which stops at the first pair that is not two hex digits. -/
def hexBuffer : List Char → List UInt8
  | a :: b :: rest =>
    match hexDigit a, hexDigit b with
    | some x, some y => UInt8.ofNat (16 * x + y) :: hexBuffer rest
    | _, _ => []
  | _ => []

def lowerHexChar (n : Nat) : Char :=
  if n < 10 then Char.ofNat ('0'.toNat + n) else Char.ofNat ('a'.toNat + (n - 10))

/-- `buf.toString('hex')` -/
def hexText (bytes : List UInt8) : String :=
  String.ofList (bytes.flatMap fun b => [lowerHexChar (b.toNat / 16), lowerHexChar (b.toNat % 16)])

/-! ## Base64 -/

/-- `buf.toString('base64')` -/
def base64Text (bytes : List UInt8) : String :=
  let digits := base64Digits (bytes.map UInt8.toNat)
  String.ofList (digits.map base64Char ++ base64Padding digits.length)

/-- The URL-safe alphabet differs in the last two characters. -/
def base64urlChar (n : Nat) : Char :=
  if n = 62 then '-' else if n = 63 then '_' else base64Char n

/-- `buf.toString('base64url')`, which has no padding. -/
def base64urlText (bytes : List UInt8) : String :=
  String.ofList ((base64Digits (bytes.map UInt8.toNat)).map base64urlChar)

/-- The value of a character of either alphabet. -/
def base64Value (c : Char) : Option Nat :=
  if c = '-' then some 62 else if c = '_' then some 63 else base64Digit c

/-- `Buffer.from(text, 'base64')`, and with `'base64url'`: either reads both alphabets, up to the
padding, and skips what is in neither. -/
def base64Buffer (text : List Char) : List UInt8 :=
  (base64Bytes ((text.takeWhile (· ≠ '=')).filterMap base64Value)).map UInt8.ofNat

/-! ## UTF-8 -/

/-- `Buffer.from(text, 'utf8')` -/
def utf8Buffer (text : String) : List UInt8 := Utf8Text.encode text.toList

/-- `buf.toString('utf8')` -/
def utf8Text (bytes : List UInt8) : String := String.ofList (Utf8Text.decode bytes)

/-! ## What is written is read -/

theorem hexDigit_lowerHexChar : ∀ n < 16, hexDigit (lowerHexChar n) = some n := by decide

theorem hexBuffer_hexText (bytes : List UInt8) : hexBuffer (hexText bytes).toList = bytes := by
  rw [hexText, String.toList_ofList]
  induction bytes with
  | nil => rfl
  | cons b bytes ih =>
    have hb : b.toNat < 256 := b.toNat_lt
    have hvalue : UInt8.ofNat (16 * (b.toNat / 16) + b.toNat % 16) = b := by
      rw [Nat.div_add_mod, UInt8.ofNat_toNat]
    rw [List.flatMap_cons, List.cons_append, List.singleton_append, hexBuffer,
      hexDigit_lowerHexChar _ (by omega), hexDigit_lowerHexChar _ (by omega)]
    simp only [hvalue, ih]

theorem hexText_inj {a b : List UInt8} : hexText a = hexText b ↔ a = b := by
  constructor
  · intro h
    rw [← hexBuffer_hexText a, h, hexBuffer_hexText]
  · rintro rfl
    rfl

theorem base64Value_char : ∀ n < 64, base64Value (base64Char n) = some n := by decide

theorem base64Value_urlChar : ∀ n < 64, base64Value (base64urlChar n) = some n := by decide

theorem base64urlChar_ne_pad : ∀ n < 64, base64urlChar n ≠ '=' := by decide

/-- Digits written in an alphabet that is read, with padding behind them or not. -/
theorem base64Buffer_digits {write : Nat → Char} (hpad : ∀ n < 64, write n ≠ '=')
    (hread : ∀ n < 64, base64Value (write n) = some n) (bytes : List UInt8) (padding : Nat) :
    base64Buffer ((base64Digits (bytes.map UInt8.toNat)).map write ++ List.replicate padding '=') =
      bytes := by
  have hbytes : ∀ b ∈ bytes.map UInt8.toNat, b < 256 := by
    rw [List.forall_mem_map]
    exact fun b _ => b.toNat_lt
  have hlt := base64Digits_lt hbytes
  have hfront : ∀ c ∈ (base64Digits (bytes.map UInt8.toNat)).map write, decide (c ≠ '=') = true := by
    rw [List.forall_mem_map]
    exact fun d hd => decide_eq_true (hpad d (hlt d hd))
  have hdigits : ((base64Digits (bytes.map UInt8.toNat)).map write).filterMap base64Value =
      base64Digits (bytes.map UInt8.toNat) := by
    rw [List.filterMap_map]
    exact (List.filterMap_congr fun d hd => hread d (hlt d hd)).trans List.filterMap_some
  rw [base64Buffer, List.takeWhile_append_of_pos hfront]
  have hback : (List.replicate padding '=').takeWhile (fun c => decide (c ≠ '=')) = [] := by
    cases padding <;> rfl
  rw [hback, List.append_nil, hdigits, base64Bytes_digits hbytes, List.map_map]
  simp [Function.comp_def]

theorem base64Buffer_base64Text (bytes : List UInt8) :
    base64Buffer (base64Text bytes).toList = bytes := by
  rw [base64Text, String.toList_ofList]
  exact base64Buffer_digits base64Char_ne_pad base64Value_char bytes _

theorem base64Buffer_base64urlText (bytes : List UInt8) :
    base64Buffer (base64urlText bytes).toList = bytes := by
  rw [base64urlText, String.toList_ofList]
  simpa using base64Buffer_digits base64urlChar_ne_pad base64Value_urlChar bytes 0

theorem utf8Text_utf8Buffer (text : String) : utf8Text (utf8Buffer text) = text := by
  rw [utf8Text, utf8Buffer, Utf8Text.decode_encode, String.ofList_toList]

theorem utf8Buffer_inj {a b : String} : utf8Buffer a = utf8Buffer b ↔ a = b := by
  constructor
  · intro h
    rw [← utf8Text_utf8Buffer a, h, utf8Text_utf8Buffer]
  · rintro rfl
    rfl

theorem utf8Buffer_ne_nil {text : String} (h : text ≠ "") : utf8Buffer text ≠ [] :=
  Utf8Text.encode_ne_nil fun hnil => h (String.toList_inj.mp hnil)

theorem mem_hexText {bytes : List UInt8} {c : Char} (h : c ∈ (hexText bytes).toList) :
    ∃ n < 16, lowerHexChar n = c := by
  rw [hexText, String.toList_ofList, List.mem_flatMap] at h
  obtain ⟨b, -, hc⟩ := h
  have hb : b.toNat < 256 := b.toNat_lt
  simp only [List.mem_cons, List.not_mem_nil, or_false] at hc
  rcases hc with rfl | rfl
  · exact ⟨_, by omega, rfl⟩
  · exact ⟨_, by omega, rfl⟩

/-- Lower-case hexadecimal stays what it is when it is lowered, and has neither a space nor a comma. -/
theorem hexText_lower (bytes : List UInt8) :
    ∀ c ∈ (hexText bytes).toList,
      c.toLower = c ∧ c.toNat < 128 ∧ isJsSpace c = false ∧ c ≠ ',' := by
  have hchar : ∀ n < 16, (lowerHexChar n).toLower = lowerHexChar n ∧ (lowerHexChar n).toNat < 128 ∧
      isJsSpace (lowerHexChar n) = false ∧ lowerHexChar n ≠ ',' := by decide
  intro c hc
  obtain ⟨n, hn, rfl⟩ := mem_hexText hc
  exact hchar n hn

/-- The other alphabet, a space and a line break. -/
example : base64Buffer "_-8=".toList = [0xFF, 0xEF] ∧ base64Buffer "A Q\nI".toList = [1, 2] := by
  decide

end StellarEduPay

import StellarEduPay.ByteText
import StellarEduPay.JsString

/-! # Transaction memos (`utils/stellarMemo.js`)

A payment intent's memo is eight upper-case hexadecimal digits, and a wallet may
send it as a text, as the number it spells or right-aligned in a 32-byte hash.
`decodeMemoToCanonical` brings all three back to the text; a text memo that is no
intent memo passes through, because it may be a student identifier.
-/
namespace StellarEduPay

/-- `SUPPORTED_MEMO_TYPES`. -/
inductive MemoType
  | text
  | id
  | hash
  deriving DecidableEq, Repr

/-- Read Horizon's spelling of a memo type or SEP-0007's. -/
def normalizeMemoType (memoType : String) : Option MemoType :=
  let upper := (jsUpper memoType).toList
  let memo := "MEMO_".toList
  let full := if memo.isPrefixOf upper then upper else memo ++ upper
  if full = "MEMO_TEXT".toList then some .text
  else if full = "MEMO_ID".toList then some .id
  else if full = "MEMO_HASH".toList then some .hash
  else none

/-! ## Hash memos -/

/-- Split `={0,2}` off the end. -/
def dropPadding (cs : List Char) : Option (List Char) :=
  let body := (cs.reverse.dropWhile (· = '=')).reverse
  if cs.length - body.length ≤ 2 then some body else none

/-- The bytes of a hash memo, in hexadecimal or in base64.  A text that does not encode
back to itself is malformed. -/
def decodeHashBytes (value : String) : Option (List Nat) :=
  let cs := value.toList
  match (if cs.length = 64 then cs.mapM hexDigit else none) with
  | some digits => some (hexBytes digits)
  | none =>
    match (dropPadding cs).bind (·.mapM base64Digit) with
    | some (d :: digits) =>
      let bytes := base64Bytes (d :: digits)
      if base64Digits bytes = d :: digits then some bytes else none
    | _ => none

/-! ## Decoding -/

/-- `CANONICAL_MEMO_RE`. -/
def isCanonical (memo : String) : Bool :=
  memo.toList.length == 8 && memo.toList.all fun c => c.isDigit || ('A' ≤ c && c ≤ 'F')

/-- Decode a memo of any supported type to its canonical text. -/
def decodeMemoToCanonical (value : Option String) (memoType : String) : Option String :=
  match value.filter (· ≠ ""), normalizeMemoType memoType with
  | none, _ | _, none => none
  | some value, some .text =>
    let text := jsTrim value
    if text = "" then none else some text
  | some value, some .id =>
    let raw := jsTrim value
    if !isDecimalDigits raw then none
    else if decimalValue raw > 0xffffffff then none
    else some (upperHex 8 (decimalValue raw))
  | some value, some .hash =>
    match decodeHashBytes (jsTrim value) with
    | none => none
    | some bytes =>
      if bytes.length ≠ 32 ∨ (bytes.take 28).any (· ≠ 0) then none
      else
        let tail := String.join ((bytes.drop 28).map (upperHex 2))
        if isCanonical tail then some tail else none

/-- A memo of an unsupported type identifies nothing. -/
theorem decodeMemoToCanonical_unsupported {memoType : String}
    (h : normalizeMemoType memoType = none) (value : Option String) :
    decodeMemoToCanonical value memoType = none := by
  unfold decodeMemoToCanonical
  rw [h]
  cases value.filter (· ≠ "") <;> rfl

end StellarEduPay

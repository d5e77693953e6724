import Mathlib.Data.List.TakeWhile
import StellarEduPay.Checks
import StellarEduPay.Decimals
import StellarEduPay.StellarMemo

/-! # The memo codec (`utils/stellarMemo.js`, in the frontend and in the backend)

The frontend encodes the memo of an intent for a wallet, the backend decodes what the wallet sent.  What
it decodes spells the memo, as a decimal numeral or as 32 bytes in hexadecimal or base64, except that
padding is taken off before the check that should find a malformed text.
-/
namespace StellarEduPay
open Checks

/-! ## Hexadecimal digits -/

/-- The upper-case character of a hexadecimal digit. -/
def upperHexChar (d : Nat) : Char := d.digitChar.toUpper

/-- The last `k` hexadecimal digits of a number. -/
def lastHexDigits : Nat → Nat → List Nat
  | 0, _ => []
  | k + 1, n => lastHexDigits k (n / 16) ++ [n % 16]

/-- `parseInt(value, 16)`, on digits. -/
def hexValue (digits : List Nat) : Nat := digits.foldl (fun n d => 16 * n + d) 0

theorem hexDigit_upperHexChar : ∀ d < 16, hexDigit (upperHexChar d) = some d := by decide

/-- A digit is read in either case. -/
theorem hexDigit_eq_some_iff {c : Char} {d : Nat} :
    hexDigit c = some d ↔ d < 16 ∧ c.toUpper = upperHexChar d := by
  have hascii : ∀ k < 128, ∀ e < 16, hexDigit (Char.ofNat k) = some e ↔
      (Char.ofNat k).toUpper = upperHexChar e := by decide +kernel
  have hdigits : ∀ k < 128, ∀ e ∈ hexDigit (Char.ofNat k), e < 16 := by decide +kernel
  rcases Nat.lt_or_ge c.toNat 128 with hsmall | hlarge
  · have hall := hascii c.toNat hsmall
    have hlt := hdigits c.toNat hsmall
    rw [Char.ofNat_toNat] at hall hlt
    exact ⟨fun h => ⟨hlt d h, (hall d (hlt d h)).mp h⟩, fun ⟨hd, h⟩ => (hall d hd).mpr h⟩
  · -- behind the first 128 characters there is no digit, and none becomes one
    have hlower : ¬ c ≤ 'f' := not_le_of_toNat hlarge (by decide)
    have hupper : ¬ c ≤ 'F' := not_le_of_toNat hlarge (by decide)
    have hnone : hexDigit c = none := by
      simp [hexDigit, not_isDigit_of_toNat hlarge, hlower, hupper]
    have hsame : c.toUpper = c := dif_neg fun h => not_le_of_toNat hlarge (by decide) h.2
    have hchars : ∀ e < 16, (upperHexChar e).toNat < 128 := by decide
    rw [hnone, hsame]
    refine iff_of_false nofun fun ⟨hd, h⟩ => ?_
    have := hchars d hd
    rw [← h] at this
    omega

theorem length_lastHexDigits (k n : Nat) : (lastHexDigits k n).length = k := by
  induction k generalizing n with
  | zero => rfl
  | succ k ih => simp [lastHexDigits, ih]

theorem lastHexDigits_lt (k n : Nat) : ∀ d ∈ lastHexDigits k n, d < 16 := by
  induction k generalizing n with
  | zero => simp [lastHexDigits]
  | succ k ih =>
    intro d hd
    rcases List.mem_append.mp hd with hd | hd
    · exact ih _ d hd
    · rw [List.mem_singleton.mp hd]
      exact Nat.mod_lt n (by decide)

@[simp] theorem hexValue_append_singleton (digits : List Nat) (d : Nat) :
    hexValue (digits ++ [d]) = 16 * hexValue digits + d := by
  simp [hexValue]

theorem hexValue_lastHexDigits {k n : Nat} (h : n < 16 ^ k) : hexValue (lastHexDigits k n) = n := by
  induction k generalizing n with
  | zero =>
    have hzero : n = 0 := by simpa using h
    rw [hzero]
    rfl
  | succ k ih =>
    have hquotient : n / 16 < 16 ^ k := Nat.div_lt_of_lt_mul (by rwa [pow_succ'] at h)
    rw [lastHexDigits, hexValue_append_singleton, ih hquotient, Nat.div_add_mod]

theorem lastHexDigits_hexValue {digits : List Nat} (h : ∀ d ∈ digits, d < 16) :
    lastHexDigits digits.length (hexValue digits) = digits := by
  induction digits using List.reverseRecOn with
  | nil => rfl
  | append_singleton digits d ih =>
    have hd : d < 16 := h d (by simp)
    have hquotient : (16 * hexValue digits + d) / 16 = hexValue digits := by omega
    have hrest : (16 * hexValue digits + d) % 16 = d := by omega
    rw [List.length_append, List.length_singleton, lastHexDigits, hexValue_append_singleton,
      hquotient, hrest, ih fun x hx => h x (List.mem_append_left _ hx)]

theorem hexValue_lt {digits : List Nat} (h : ∀ d ∈ digits, d < 16) :
    hexValue digits < 16 ^ digits.length := by
  induction digits using List.reverseRecOn with
  | nil => decide
  | append_singleton digits d ih =>
    have hd : d < 16 := h d (by simp)
    have hrest := ih fun x hx => h x (List.mem_append_left _ hx)
    rw [hexValue_append_singleton, List.length_append, List.length_singleton, pow_succ]
    omega

theorem lastHexDigits_zero (k : Nat) : lastHexDigits k 0 = List.replicate k 0 := by
  induction k with
  | zero => rfl
  | succ k ih => rw [lastHexDigits, Nat.zero_div, ih, List.replicate_succ']

/-- **A padded number** is its last digits, by induction on their number. -/
theorem upperHex_toList {k n : Nat} (hk : 0 < k) (h : n < 16 ^ k) :
    (upperHex k n).toList = (lastHexDigits k n).map upperHexChar := by
  have hpadded : (upperHex k n).toList =
      List.replicate (k - (Nat.toDigits 16 n).length) '0' ++ (Nat.toDigits 16 n).map Char.toUpper := by
    simp [upperHex]
  rw [hpadded]
  clear hpadded
  induction k generalizing n with
  | zero => exact absurd hk (lt_irrefl 0)
  | succ k ih =>
    rcases Nat.lt_or_ge n 16 with hsmall | hlarge
    · rw [Nat.toDigits_of_lt_base hsmall, lastHexDigits, Nat.div_eq_of_lt hsmall,
        lastHexDigits_zero, Nat.mod_eq_of_lt hsmall, List.length_singleton, Nat.add_sub_cancel,
        List.map_append, List.map_replicate]
      rfl
    · have hquotient : n / 16 < 16 ^ k := Nat.div_lt_of_lt_mul (by rwa [pow_succ'] at h)
      have hk : 0 < k := by
        by_contra hzero
        obtain rfl : k = 0 := by omega
        omega
      have hlength : (Nat.toDigits 16 (n / 16) ++ [(n % 16).digitChar]).length =
          (Nat.toDigits 16 (n / 16)).length + 1 := List.length_append
      rw [Nat.toDigits_of_base_le (by decide) hlarge, hlength, Nat.add_sub_add_right,
        List.map_append, ← List.append_assoc, ih hk hquotient, lastHexDigits, List.map_append]
      rfl

/-! ## Canonical memos -/

/-- The digits of a memo. -/
def memoDigits (memo : String) : List Nat := memo.toList.filterMap hexDigit

/-- The 32-bit value of a memo. -/
def memoValue (memo : String) : Nat := hexValue (memoDigits memo)

/-- A memo as a hash: its four bytes behind 28 zero bytes. -/
def hashBytes (memo : String) : List Nat := List.replicate 28 0 ++ hexBytes (memoDigits memo)

/-- The characters of `CANONICAL_MEMO_RE`. -/
def isCanonicalChar (c : Char) : Bool := c.isDigit || ('A' ≤ c && c ≤ 'F')

theorem hexDigit_of_canonical {c : Char} (h : isCanonicalChar c = true) :
    ∃ d < 16, hexDigit c = some d ∧ upperHexChar d = c := by
  have hsome : ∃ d, hexDigit c = some d := by
    unfold hexDigit
    split
    · exact ⟨_, rfl⟩
    split
    · exact ⟨_, rfl⟩
    rename_i hdigit _
    have hletter : 'A' ≤ c ∧ c ≤ 'F' := by simpa [isCanonicalChar, hdigit] using h
    exact ⟨_, if_pos hletter⟩
  have hupper : c.toUpper = c := by
    refine dif_neg fun hlower => ?_
    have hlower : 97 ≤ c.toNat := toNat_le_of_le hlower.1
    simp only [isCanonicalChar, Bool.or_eq_true, Bool.and_eq_true, decide_eq_true_eq] at h
    rcases h with h | ⟨-, h⟩
    · have : c.toNat ≤ 57 := (Char.isDigit_iff_toNat.mp h).2
      omega
    · have : c.toNat ≤ 70 := toNat_le_of_le h
      omega
  obtain ⟨d, hd⟩ := hsome
  obtain ⟨hlt, hchar⟩ := hexDigit_eq_some_iff.mp hd
  exact ⟨d, hlt, hd, hchar.symm.trans hupper⟩

theorem isCanonicalChar_upperHexChar : ∀ d < 16, isCanonicalChar (upperHexChar d) = true := by decide

theorem filterMap_upperHexChar {digits : List Nat} (h : ∀ d ∈ digits, d < 16) :
    (digits.map upperHexChar).filterMap hexDigit = digits := by
  induction digits with
  | nil => rfl
  | cons d digits ih =>
    obtain ⟨hd, hrest⟩ := List.forall_mem_cons.mp h
    rw [List.map_cons, List.filterMap_cons_some (hexDigit_upperHexChar d hd), ih hrest]

/-- **A canonical memo** is its eight digits. -/
theorem isCanonical_iff {memo : String} : isCanonical memo = true ↔
    ∃ digits : List Nat, digits.length = 8 ∧ (∀ d ∈ digits, d < 16) ∧
      memo.toList = digits.map upperHexChar := by
  have hcanonical : isCanonical memo = true ↔
      memo.toList.length = 8 ∧ ∀ c ∈ memo.toList, isCanonicalChar c = true := by
    simp [isCanonical, isCanonicalChar]
  rw [hcanonical]
  generalize memo.toList = cs
  constructor
  · rintro ⟨hlength, hall⟩
    have hwritten : ∀ c ∈ cs, ∃ d, d < 16 ∧ upperHexChar d = c := fun c hc => by
      obtain ⟨d, hd, -, hchar⟩ := hexDigit_of_canonical (hall c hc)
      exact ⟨d, hd, hchar⟩
    obtain ⟨digits, hlt, rfl⟩ := exists_digits hwritten
    exact ⟨digits, by simpa using hlength, hlt, rfl⟩
  · rintro ⟨digits, hlength, hlt, rfl⟩
    refine ⟨by simpa using hlength, fun c hc => ?_⟩
    obtain ⟨d, hd, rfl⟩ := List.mem_map.mp hc
    exact isCanonicalChar_upperHexChar d (hlt d hd)

section Canonical
variable {memo : String} {digits : List Nat}

theorem memoDigits_of_toList (hlt : ∀ d ∈ digits, d < 16) (h : memo.toList = digits.map upperHexChar) :
    memoDigits memo = digits := by
  rw [memoDigits, h, filterMap_upperHexChar hlt]

theorem memoDigits_spec (h : isCanonical memo = true) : (memoDigits memo).length = 8 ∧
    (∀ d ∈ memoDigits memo, d < 16) ∧ memo.toList = (memoDigits memo).map upperHexChar := by
  obtain ⟨digits, hlength, hlt, hmemo⟩ := isCanonical_iff.mp h
  rw [memoDigits_of_toList hlt hmemo]
  exact ⟨hlength, hlt, hmemo⟩

theorem hashBytes_spec (h : isCanonical memo = true) : (hashBytes memo).length = 32 ∧
    ∀ b ∈ hashBytes memo, b < 256 := by
  obtain ⟨hlength, hlt, -⟩ := memoDigits_spec h
  constructor
  · rw [hashBytes, List.length_append, List.length_replicate, length_hexBytes, hlength]
  · intro b hb
    rcases List.mem_append.mp hb with hb | hb
    · rw [List.eq_of_mem_replicate hb]
      decide
    · exact hexBytes_lt hlt b hb

/-- A number below 2^32 is written as the memo it is the value of. -/
theorem upperHex_eq_iff {n : Nat} (h : n < 16 ^ 8) :
    upperHex 8 n = memo ↔ isCanonical memo = true ∧ n = memoValue memo := by
  have hwritten := upperHex_toList (by decide : 0 < 8) h
  constructor
  · rintro rfl
    have hdigits := memoDigits_of_toList (lastHexDigits_lt 8 n) hwritten
    refine ⟨isCanonical_iff.mpr ⟨_, length_lastHexDigits 8 n, lastHexDigits_lt 8 n, hwritten⟩, ?_⟩
    rw [memoValue, hdigits, hexValue_lastHexDigits h]
  · rintro ⟨hcanonical, rfl⟩
    obtain ⟨hlength, hlt, hmemo⟩ := memoDigits_spec hcanonical
    refine String.toList_inj.mp ?_
    rw [hwritten, hmemo, memoValue, ← hlength, lastHexDigits_hexValue hlt]

/-- Bytes are written with two digits each. -/
theorem toList_join_upperHex {bytes : List Nat} (h : ∀ b ∈ bytes, b < 256) :
    (String.join (bytes.map (upperHex 2))).toList = (hexNibbles bytes).map upperHexChar := by
  rw [String.toList_join]
  induction bytes with
  | nil => rfl
  | cons b bytes ih =>
    obtain ⟨hb, hrest⟩ := List.forall_mem_cons.mp h
    have hquotient : b / 16 < 16 := by omega
    have hdigits : lastHexDigits 2 b = [b / 16, b % 16] := by
      simp [lastHexDigits, Nat.mod_eq_of_lt hquotient]
    rw [List.map_cons, List.flatMap_cons, ih hrest, upperHex_toList (by decide) (by omega), hdigits,
      ← List.map_append]
    rfl

/-- The last four of 32 bytes are written as a memo whose hash they are, behind zeros. -/
theorem join_tail_iff {bytes : List Nat} (hlt : ∀ b ∈ bytes, b < 256) (hlength : bytes.length = 32)
    (hzero : bytes.take 28 = List.replicate 28 0) :
    String.join ((bytes.drop 28).map (upperHex 2)) = memo ↔
      isCanonical memo = true ∧ bytes = hashBytes memo := by
  have hdropped : ∀ b ∈ bytes.drop 28, b < 256 := fun b hb => hlt b (List.mem_of_mem_drop hb)
  have hwritten := toList_join_upperHex hdropped
  have hsplit : bytes = List.replicate 28 0 ++ bytes.drop 28 := by
    rw [← hzero, List.take_append_drop]
  have hnibbles : ∀ d ∈ hexNibbles (bytes.drop 28), d < 16 := by
    refine List.forall_mem_flatMap.mpr fun b hb => ?_
    have := hdropped b hb
    simp only [List.forall_mem_cons]
    exact ⟨by omega, by omega, by simp⟩
  constructor
  · rintro rfl
    have height : (hexNibbles (bytes.drop 28)).length = 8 := by
      simp [hexNibbles, hlength]
    refine ⟨isCanonical_iff.mpr ⟨_, height, hnibbles, hwritten⟩, ?_⟩
    rw [hashBytes, memoDigits_of_toList hnibbles hwritten, hexBytes_nibbles]
    exact hsplit
  · rintro ⟨hcanonical, hbytes⟩
    obtain ⟨height, hdigits, hmemo⟩ := memoDigits_spec hcanonical
    have htail : bytes.drop 28 = hexBytes (memoDigits memo) := by
      rw [hbytes, hashBytes]
      exact List.drop_left' List.length_replicate
    refine String.toList_inj.mp ?_
    rw [hwritten, htail, hexNibbles_bytes hdigits (by rw [height]), ← hmemo]

theorem mapM_hexDigit {cs : List Char} : cs.mapM hexDigit = some digits ↔
    (∀ d ∈ digits, d < 16) ∧ cs.map Char.toUpper = digits.map upperHexChar :=
  mapM_eq_some_iff fun _ _ => hexDigit_eq_some_iff

end Canonical

/-! ## Padding -/

section Padding
variable {cs body : List Char}

theorem dropPadding_append (hbody : ∀ c ∈ body, c ≠ '=') {k : Nat} (hk : k ≤ 2) :
    dropPadding (body ++ List.replicate k '=') = some body := by
  have hpadding : ((body ++ List.replicate k '=').reverse.dropWhile (· = '=')).reverse = body := by
    rw [List.reverse_append, List.reverse_replicate, List.dropWhile_append_of_pos (by simp)]
    have hnone : body.reverse.dropWhile (· = '=') = body.reverse := by
      refine List.dropWhile_eq_self_iff.mpr fun hlength => ?_
      simpa using hbody _ (List.mem_reverse.mp (List.getElem_mem hlength))
    rw [hnone, List.reverse_reverse]
  rw [dropPadding, hpadding, List.length_append, List.length_replicate, Nat.add_sub_cancel_left,
    if_pos hk]

theorem exists_of_dropPadding (h : dropPadding cs = some body) :
    ∃ k ≤ 2, cs = body ++ List.replicate k '=' := by
  unfold dropPadding at h
  dsimp only at h
  split at h
  · rename_i hk
    obtain rfl := Option.some.inj h
    have hsplit : cs = (cs.reverse.dropWhile (· = '=')).reverse ++
        (cs.reverse.takeWhile (· = '=')).reverse := by
      rw [← List.reverse_append, List.takeWhile_append_dropWhile, List.reverse_reverse]
    have hpadding : ∀ c ∈ (cs.reverse.takeWhile (· = '=')).reverse, c = '=' := fun c hc => by
      simpa using List.mem_takeWhile_imp (List.mem_reverse.mp hc)
    have hreplicate := List.eq_replicate_of_mem hpadding
    refine ⟨_, ?_, hreplicate ▸ hsplit⟩
    have hlength := congrArg List.length hsplit
    rw [List.length_append] at hlength
    omega
  · cases h

end Padding

/-! ## Decoding -/

section Decoding
variable {memo memoType value : String} {cs : List Char} {bytes digits : List Nat}

theorem ne_pad_of_mem_digits (h : ∀ d ∈ digits, d < 64) : ∀ c ∈ digits.map base64Char, c ≠ '=' := by
  intro c hc
  obtain ⟨d, hd, rfl⟩ := List.mem_map.mp hc
  exact base64Char_ne_pad d (h d hd)

/-- A text that spells bytes in hexadecimal, in either case. -/
def HexSpells (cs : List Char) (bytes : List Nat) : Prop :=
  cs.map Char.toUpper = (hexNibbles bytes).map upperHexChar

theorem HexSpells.length (h : HexSpells cs bytes) : cs.length = 2 * bytes.length := by
  have hlength := congrArg List.length h
  rwa [List.length_map, List.length_map, length_hexNibbles] at hlength

/-- **The hexadecimal branch** of `decodeHashBytes`. -/
theorem hexBranch_iff (hlength : bytes.length = 32) :
    (∃ digits, (if cs.length = 64 then cs.mapM hexDigit else none) = some digits ∧
      hexBytes digits = bytes) ↔ (∀ b ∈ bytes, b < 256) ∧ HexSpells cs bytes := by
  constructor
  · rintro ⟨digits, hdigits, rfl⟩
    split at hdigits
    case isFalse => cases hdigits
    rename_i h64
    obtain ⟨hlt, hmap⟩ := mapM_hexDigit.mp hdigits
    have heven : digits.length % 2 = 0 := by
      have hcount := congrArg List.length hmap
      rw [List.length_map, List.length_map, h64] at hcount
      rw [← hcount]
    refine ⟨hexBytes_lt hlt, ?_⟩
    rw [HexSpells, hexNibbles_bytes hlt heven, hmap]
  · rintro ⟨hlt, hspells⟩
    have hnibbles : ∀ d ∈ hexNibbles bytes, d < 16 := by
      refine List.forall_mem_flatMap.mpr fun b hb => ?_
      have := hlt b hb
      simp only [List.forall_mem_cons]
      exact ⟨by omega, by omega, by simp⟩
    refine ⟨hexNibbles bytes, ?_, hexBytes_nibbles bytes⟩
    rw [if_pos (by rw [hspells.length, hlength])]
    exact mapM_hexDigit.mpr ⟨hnibbles, hspells⟩

/-- **The bytes of a hash memo**: hexadecimal, or base64 with any padding of up to two signs. -/
theorem decodeHashBytes_eq_some_iff (hlength : bytes.length = 32) :
    decodeHashBytes value = some bytes ↔ (∀ b ∈ bytes, b < 256) ∧
      (HexSpells value.toList bytes ∨ ∃ k ≤ 2,
        value.toList = (base64Digits bytes).map base64Char ++ List.replicate k '=') := by
  unfold decodeHashBytes
  dsimp only
  generalize value.toList = cs
  constructor
  · intro h
    split at h
    · rename_i digits hdigits
      obtain ⟨hlt, hspells⟩ :=
        (hexBranch_iff hlength).mp ⟨digits, hdigits, Option.some.inj h⟩
      exact ⟨hlt, Or.inl hspells⟩
    · split at h
      case h_2 => cases h
      rename_i first digits hdigits
      split at h
      case isFalse => cases h
      rename_i hcanonical
      obtain rfl := Option.some.inj h
      obtain ⟨body, hbody, hread⟩ := Option.bind_eq_some_iff.mp hdigits
      obtain ⟨k, hk, rfl⟩ := exists_of_dropPadding hbody
      obtain ⟨rfl, hlt⟩ := mapM_base64Digit.mp hread
      exact ⟨base64Bytes_lt hlt, Or.inr ⟨k, hk, by rw [hcanonical]⟩⟩
  · rintro ⟨hlt, hspells | ⟨k, hk, rfl⟩⟩
    · obtain ⟨digits, hdigits, hbytes⟩ := (hexBranch_iff hlength).mpr ⟨hlt, hspells⟩
      rw [hdigits]
      exact congrArg some hbytes
    · have hdigits := base64Digits_lt hlt
      have hcount : (base64Digits bytes).length = 43 := by rw [length_base64Digits, hlength]
      have h64 : ((base64Digits bytes).map base64Char ++ List.replicate k '=').length ≠ 64 := by
        rw [List.length_append, List.length_map, hcount, List.length_replicate]
        omega
      rw [if_neg h64, dropPadding_append (ne_pad_of_mem_digits hdigits) hk, Option.bind_some,
        mapM_base64Digit.mpr ⟨rfl, hdigits⟩]
      obtain ⟨first, rest, hcons⟩ : ∃ first rest, base64Digits bytes = first :: rest :=
        List.exists_cons_of_length_pos (by omega)
      rw [hcons]
      dsimp only
      rw [← hcons, base64Bytes_digits hlt, if_pos rfl]

/-- **Memos of numbers**: a decimal numeral of the value. -/
theorem decodeMemoToCanonical_id (htype : normalizeMemoType memoType = some .id) :
    decodeMemoToCanonical (some value) memoType = some memo ↔ isCanonical memo = true ∧
      isDecimalDigits (jsTrim value) = true ∧ decimalValue (jsTrim value) = memoValue memo := by
  unfold decodeMemoToCanonical
  rw [htype]
  by_cases hvalue : value = ""
  · subst hvalue
    exact iff_of_false nofun fun h => absurd h.2.1 (by decide)
  have hsome : (some value).filter (· ≠ "") = some value := truthy_of_ne hvalue
  rw [hsome]
  dsimp only
  by_cases hdigits : isDecimalDigits (jsTrim value) = true
  case neg => simp [hdigits]
  by_cases hlarge : decimalValue (jsTrim value) > 0xffffffff
  · rw [hdigits, Bool.not_true, if_neg Bool.false_ne_true, if_pos hlarge]
    refine iff_of_false nofun fun ⟨hcanonical, _, hsame⟩ => ?_
    obtain ⟨height, hlt, -⟩ := memoDigits_spec hcanonical
    have hsmall := hexValue_lt hlt
    rw [height] at hsmall
    rw [hsame, memoValue] at hlarge
    omega
  · rw [hdigits, Bool.not_true, if_neg Bool.false_ne_true, if_neg hlarge, Option.some_inj,
      upperHex_eq_iff (by omega)]
    simp

/-- The end of both decoders: of 32 bytes that begin with 28 zeros the last four are written. -/
theorem hashTail_iff (hlt : bytes.length = 32 → ∀ b ∈ bytes, b < 256) :
    (if bytes.length ≠ 32 ∨ (bytes.take 28).any (· ≠ 0) = true then none
      else some (String.join ((bytes.drop 28).map (upperHex 2)))) = some memo ↔
      isCanonical memo = true ∧ bytes = hashBytes memo := by
  by_cases hshape : bytes.length ≠ 32 ∨ (bytes.take 28).any (· ≠ 0) = true
  · rw [if_pos hshape]
    refine iff_of_false nofun fun ⟨hcanonical, hsame⟩ => ?_
    rcases hshape with hlength | hany
    · exact hlength (hsame ▸ (hashBytes_spec hcanonical).1)
    · rw [hsame, hashBytes, List.take_left' List.length_replicate] at hany
      exact absurd hany (by decide)
  · obtain ⟨hlength, hzero⟩ := not_or.mp hshape
    have hlength : bytes.length = 32 := not_not.mp hlength
    have hzero : bytes.take 28 = List.replicate 28 0 := by
      refine List.eq_replicate_iff.mpr ⟨by simp [hlength], fun b hb => ?_⟩
      by_contra hne
      exact hzero (List.any_eq_true.mpr ⟨b, hb, by simpa using hne⟩)
    rw [if_neg hshape, Option.some_inj, join_tail_iff (hlt hlength) hlength hzero]

/-- **Memos of hashes**: the bytes of the memo behind zeros. -/
theorem decodeMemoToCanonical_hash (htype : normalizeMemoType memoType = some .hash) :
    decodeMemoToCanonical (some value) memoType = some memo ↔
      isCanonical memo = true ∧ decodeHashBytes (jsTrim value) = some (hashBytes memo) := by
  unfold decodeMemoToCanonical
  rw [htype]
  by_cases hvalue : value = ""
  · subst hvalue
    have hempty : decodeHashBytes (jsTrim "") = none := by decide
    refine iff_of_false nofun fun h => ?_
    rw [hempty] at h
    exact nomatch h.2
  have hsome : (some value).filter (· ≠ "") = some value := truthy_of_ne hvalue
  rw [hsome]
  dsimp only
  cases hbytes : decodeHashBytes (jsTrim value) with
  | none => simp
  | some bytes =>
    have hlt : bytes.length = 32 → ∀ b ∈ bytes, b < 256 :=
      fun hlength => ((decodeHashBytes_eq_some_iff hlength).mp hbytes).1
    have htail := @hashTail_iff (String.join ((bytes.drop 28).map (upperHex 2))) bytes hlt
    rw [Option.some_inj, ← hashTail_iff hlt]
    by_cases hshape : bytes.length ≠ 32 ∨ (bytes.take 28).any (· ≠ 0) = true
    · simp only [if_pos hshape]
    · rw [if_neg hshape] at htail
      simp only [if_neg hshape, if_pos (htail.mp rfl).1]

end Decoding

/-! ## Encoding in the frontend -/

def MemoType.name : MemoType → String
  | .text => "MEMO_TEXT"
  | .id => "MEMO_ID"
  | .hash => "MEMO_HASH"

/-- `toUpperCase`, as far as `CANONICAL_MEMO_RE` can tell: of the characters that become several only
the ligature `ﬀ` becomes digits. -/
def upperMemo (s : String) : String :=
  String.ofList (s.toList.flatMap fun c => if c.val = 0xFB00 then ['F', 'F'] else [jsUpperChar c])

/-- `new TextEncoder().encode(s).length` -/
def textBytes (s : String) : Nat := (s.toList.map Char.utf8Size).sum

namespace Frontend

/-- `normalizeMemoType` of the frontend: no type is `MEMO_TEXT`, the others are read as in the
backend. -/
def normalizeMemoType (memoType : String) : Except String MemoType :=
  if memoType = "" then .ok .text
  else orThrow (StellarEduPay.normalizeMemoType memoType)
    ("Unsupported memo type '" ++ memoType ++ "'. Supported types: MEMO_TEXT, MEMO_ID, MEMO_HASH")

def isEncodableMemo (memo : String) : Bool := isCanonical (upperMemo (jsTrim memo))

def bytesToBase64 (bytes : List Nat) : String :=
  let digits := base64Digits bytes
  String.ofList (digits.map base64Char ++ base64Padding digits.length)

/-- `encodeMemo` -/
def encodeMemo (memo memoType : String) : Except String String := do
  let type ← normalizeMemoType memoType
  let value := upperMemo (jsTrim memo)
  if type = .text then
    require (textBytes memo ≤ 28) ("MEMO_TEXT exceeds the 28-byte Stellar limit (got " ++
      toString (textBytes memo) ++ " bytes)")
    pure memo
  else
    require (isEncodableMemo value) ("Memo '" ++ memo ++ "' cannot be encoded as " ++ type.name ++
      " — only canonical 8-hex-character payment intent memos have a numeric equivalent. " ++
      "Use MEMO_TEXT instead.")
    pure (if type = .id then toString (memoValue value) else bytesToBase64 (hashBytes value))

end Frontend

/-! ## The codec -/

/-- A trimmed text of a type that stands for a memo. -/
def SpellsMemo (type : MemoType) (text memo : String) : Prop :=
  match type with
  | .text => text = memo
  | .id => isDecimalDigits text = true ∧ decimalValue text = memoValue memo
  | .hash => HexSpells text.toList (hashBytes memo) ∨ Base64Spells text.toList (hashBytes memo)

instance (type : MemoType) (text memo : String) : Decidable (SpellsMemo type text memo) :=
  match type with
  | .text => inferInstanceAs (Decidable (text = memo))
  | .id => inferInstanceAs (Decidable (_ = _ ∧ _ = _))
  | .hash => inferInstanceAs (Decidable (_ = _ ∨ _ = _ ∨ _ = _))

/-- A hash memo with one sign of padding too many. -/
def OverPadded (text : String) : Prop :=
  ∃ memo, isCanonical memo = true ∧
    text.toList = (base64Digits (hashBytes memo)).map base64Char ++ ['=', '=']

section Codec
variable {memo memoType text : String} {type : MemoType}

theorem hashDigits_length (h : isCanonical memo = true) :
    (base64Digits (hashBytes memo)).length = 43 := by
  rw [length_base64Digits, (hashBytes_spec h).1]

/-- A canonical memo is its own upper case, has no blanks and eight bytes. -/
theorem canonical_text (h : isCanonical memo = true) :
    jsTrim memo = memo ∧ upperMemo memo = memo ∧ textBytes memo = 8 := by
  obtain ⟨height, hlt, hmemo⟩ := memoDigits_spec h
  have hspace : ∀ d < 16, isJsSpace (upperHexChar d) = false := by decide
  have hupper : ∀ d < 16, (if (upperHexChar d).val = 0xFB00 then ['F', 'F']
      else [jsUpperChar (upperHexChar d)]) = [upperHexChar d] := by decide
  have hbyte : ∀ d < 16, (upperHexChar d).utf8Size = 1 := by decide
  refine ⟨jsTrim_of_no_space fun c hc => ?_, String.toList_inj.mp ?_, ?_⟩
  · rw [hmemo] at hc
    obtain ⟨d, hd, rfl⟩ := List.mem_map.mp hc
    exact hspace d (hlt d hd)
  · rw [upperMemo, String.toList_ofList, hmemo, List.flatMap_map]
    exact (List.flatMap_congr fun d hd => hupper d (hlt d hd)).trans List.map_eq_flatMap.symm
  · have hones : ∀ d ∈ memoDigits memo, (Char.utf8Size ∘ upperHexChar) d = 1 :=
      fun d hd => hbyte d (hlt d hd)
    rw [textBytes, hmemo, List.map_map, List.map_congr_left hones, List.map_const', height]
    rfl

/-- A number in decimal digits. -/
theorem decimal_toString (n : Nat) : isDecimalDigits (toString n) = true ∧
    decimalValue (toString n) = n ∧ jsTrim (toString n) = toString n := by
  have hlist : (toString n).toList = Nat.toDigits 10 n := by
    rw [Nat.toString_eq_ofList_toDigits, String.toList_ofList]
  have hdigits : ∀ c ∈ (toString n).toList, c.isDigit = true := fun c hc =>
    Decimals.isDigits_toDigits n c (hlist ▸ hc)
  refine ⟨?_, ?_, jsTrim_of_no_space fun c hc => isJsSpace_of_isDigit (hdigits c hc)⟩
  · have hne : (toString n).toList ≠ [] := hlist ▸ Nat.toDigits_ne_nil
    simp only [isDecimalDigits, Bool.and_eq_true, List.all_eq_true]
    exact ⟨by simp, hdigits⟩
  · have hvalue : decimalValue (toString n) = Decimals.digitsValue (toString n).toList := rfl
    rw [hvalue, hlist, Decimals.digitsValue_toDigits]

/-- **What the frontend encodes** spells the memo, without blanks. -/
theorem encodeMemo_spells (hcanonical : isCanonical memo = true)
    (htype : normalizeMemoType memoType = some type) :
    ∃ wire, Frontend.encodeMemo memo memoType = .ok wire ∧ jsTrim wire = wire ∧
      SpellsMemo type wire memo := by
  obtain ⟨htrim, hupper, hbytes⟩ := canonical_text hcanonical
  have hne : memoType ≠ "" := by
    rintro rfl
    revert htype
    cases type <;> decide
  have hnormal : Frontend.normalizeMemoType memoType = .ok type := by
    rw [Frontend.normalizeMemoType, if_neg hne, htype]
    rfl
  have hencodable : Frontend.isEncodableMemo memo = true := by
    rw [Frontend.isEncodableMemo, htrim, hupper, hcanonical]
  have hlength : decide (textBytes memo ≤ 28) = true := by
    rw [hbytes]
    rfl
  cases type with
  | text =>
    refine ⟨memo, ?_, htrim, rfl⟩
    simp only [Frontend.encodeMemo, hnormal, hlength]
    rfl
  | id =>
    obtain ⟨hdigits, hvalue, htrimmed⟩ := decimal_toString (memoValue memo)
    refine ⟨toString (memoValue memo), ?_, htrimmed, hdigits, hvalue⟩
    simp only [Frontend.encodeMemo, hnormal, htrim, hupper, hencodable]
    rfl
  | hash =>
    have hlt := base64Digits_lt (hashBytes_spec hcanonical).2
    refine ⟨Frontend.bytesToBase64 (hashBytes memo), ?_, jsTrim_of_no_space fun c hc => ?_,
      Or.inr (Or.inr (String.toList_ofList ..))⟩
    · simp only [Frontend.encodeMemo, hnormal, htrim, hupper, hencodable]
      rfl
    · have hspace : ∀ n < 64, isJsSpace (base64Char n) = false := by decide
      rw [Frontend.bytesToBase64, String.toList_ofList] at hc
      rcases List.mem_append.mp hc with hc | hc
      · obtain ⟨d, hd, rfl⟩ := List.mem_map.mp hc
        exact hspace d (hlt d hd)
      · rw [List.eq_of_mem_replicate hc]
        decide

/-- **The texts of a hash memo** that are decoded: those that spell it, and one that has a sign of
padding too many. -/
theorem decodeHashBytes_memo (hcanonical : isCanonical memo = true) :
    decodeHashBytes text = some (hashBytes memo) ↔ SpellsMemo .hash text memo ∨
      text.toList = (base64Digits (hashBytes memo)).map base64Char ++ ['=', '='] := by
  obtain ⟨hlength, hlt⟩ := hashBytes_spec hcanonical
  have hpadding : base64Padding (base64Digits (hashBytes memo)).length = ['='] := by
    rw [hashDigits_length hcanonical]
    rfl
  rw [decodeHashBytes_eq_some_iff hlength, and_iff_right hlt]
  simp only [SpellsMemo, Base64Spells, hpadding]
  constructor
  · rintro (hhex | ⟨k, hk, htext⟩)
    · exact Or.inl (Or.inl hhex)
    · match k, hk with
      | 0, _ => exact Or.inl (Or.inr (Or.inl (htext.trans (List.append_nil _))))
      | 1, _ => exact Or.inl (Or.inr (Or.inr htext))
      | 2, _ => exact Or.inr htext
  · rintro ((hhex | htext | htext) | htext)
    · exact Or.inl hhex
    · exact Or.inr ⟨0, by decide, htext.trans (List.append_nil _).symm⟩
    · exact Or.inr ⟨1, by decide, htext⟩
    · exact Or.inr ⟨2, le_rfl, htext⟩

/-- The text with too much padding spells nothing. -/
theorem not_spells_overPadded (hcanonical : isCanonical memo = true)
    (htext : text.toList = (base64Digits (hashBytes memo)).map base64Char ++ ['=', '=']) :
    ¬ SpellsMemo .hash text memo := by
  have hdigits := hashDigits_length hcanonical
  have hlength : text.toList.length = 45 := by
    rw [htext, List.length_append, List.length_map, hdigits]
    rfl
  rintro (hhex | hplain | hpadded)
  · have := hhex.length
    rw [(hashBytes_spec hcanonical).1] at this
    omega
  · rw [hplain, List.length_map, hdigits] at hlength
    exact absurd hlength (by decide)
  · rw [hpadded, List.length_append, List.length_map, hdigits] at hlength
    exact absurd hlength (by decide)

/-- A trimmed text that spells a memo is decoded to it. -/
theorem decodeMemoToCanonical_of_spells (hcanonical : isCanonical memo = true)
    (htype : normalizeMemoType memoType = some type) (htrim : jsTrim text = text)
    (hspells : SpellsMemo type text memo) : decodeMemoToCanonical (some text) memoType = some memo := by
  cases type with
  | text =>
    obtain rfl : text = memo := hspells
    have hne : text ≠ "" := by
      rintro rfl
      exact absurd hcanonical (by decide)
    have hsome : (some text).filter (· ≠ "") = some text := truthy_of_ne hne
    unfold decodeMemoToCanonical
    rw [htype, hsome]
    dsimp only
    rw [htrim, if_neg hne]
  | id =>
    rw [decodeMemoToCanonical_id htype, htrim]
    exact ⟨hcanonical, hspells⟩
  | hash =>
    rw [decodeMemoToCanonical_hash htype, htrim]
    exact ⟨hcanonical, (decodeHashBytes_memo hcanonical).mpr (Or.inl hspells)⟩

end Codec

/-- **The memo codec**: what is encoded is decoded, and what is decoded as a number or as a hash spells
the memo, exactly where the text has no padding to spare. -/
theorem memo_codec_iff {memoType : String} {type : MemoType}
    (htype : normalizeMemoType memoType = some type) (hbinary : type = .id ∨ type = .hash)
    (value : String) :
    ((∀ memo t, isCanonical memo = true → (normalizeMemoType t).isSome = true →
        ∃ wire, Frontend.encodeMemo memo t = .ok wire ∧
          decodeMemoToCanonical (some wire) t = some memo) ∧
      ∀ memo, decodeMemoToCanonical (some value) memoType = some memo ↔
        isCanonical memo = true ∧ SpellsMemo type (jsTrim value) memo) ↔
      ¬ (type = .hash ∧ OverPadded (jsTrim value)) := by
  have hround : ∀ memo t, isCanonical memo = true → (normalizeMemoType t).isSome = true → ∃ wire,
      Frontend.encodeMemo memo t = .ok wire ∧ decodeMemoToCanonical (some wire) t = some memo := by
    intro memo t hcanonical hsupported
    obtain ⟨supported, hsupported⟩ := Option.isSome_iff_exists.mp hsupported
    obtain ⟨wire, hwire, htrim, hspells⟩ := encodeMemo_spells hcanonical hsupported
    exact ⟨wire, hwire, decodeMemoToCanonical_of_spells hcanonical hsupported htrim hspells⟩
  rw [and_iff_right hround]
  rcases hbinary with rfl | rfl
  · exact iff_of_true (fun memo => decodeMemoToCanonical_id htype) fun h => nomatch h.1
  · constructor
    · rintro hiff ⟨-, memo, hcanonical, htext⟩
      have hdecoded := (decodeMemoToCanonical_hash htype).mpr
        ⟨hcanonical, (decodeHashBytes_memo hcanonical).mpr (Or.inr htext)⟩
      exact not_spells_overPadded hcanonical htext ((hiff memo).mp hdecoded).2
    · intro hpadded memo
      rw [decodeMemoToCanonical_hash htype]
      refine and_congr_right fun hcanonical => ?_
      rw [decodeHashBytes_memo hcanonical]
      exact or_iff_left fun htext => hpadded ⟨rfl, memo, hcanonical, htext⟩

/-- The hash of a memo as it is written in base64. -/
def paddedHash (memo : String) : String :=
  String.ofList ((base64Digits (hashBytes memo)).map base64Char ++ ['='])

/-- A numeral with a zero in front and blanks around it, and a hash. -/
theorem memo_codec_iff_read :
    decodeMemoToCanonical (some " 07 ") "id" = some "00000007" ∧
      decodeMemoToCanonical (some (paddedHash "A3F91B2C")) "MEMO_HASH" = some "A3F91B2C" := by
  have hnumber := (memo_codec_iff (by decide : normalizeMemoType "id" = some .id) (Or.inl rfl)
    " 07 ").mpr fun h => nomatch h.1
  have hhash := (memo_codec_iff (by decide : normalizeMemoType "MEMO_HASH" = some .hash) (Or.inr rfl)
    (paddedHash "A3F91B2C")).mpr (by
      rintro ⟨-, memo, hcanonical, htext⟩
      have hlength := congrArg List.length htext
      rw [List.length_append, List.length_map, hashDigits_length hcanonical] at hlength
      exact absurd hlength (by decide +kernel))
  exact ⟨(hnumber.2 "00000007").mpr ⟨by decide, by decide⟩,
    (hhash.2 "A3F91B2C").mpr ⟨by decide, by decide +kernel⟩⟩

/-- The hash of a memo, with `==` where `=` completes it. -/
def overPaddedHash (memo : String) : String :=
  String.ofList ((base64Digits (hashBytes memo)).map base64Char ++ ['=', '='])

/-- It is decoded, though it is no base64. -/
theorem overPadded_hash_decoded : ¬ ∀ (memoType : String) (type : MemoType) (value : String),
    normalizeMemoType memoType = some type → type = .id ∨ type = .hash →
      (∀ memo t, isCanonical memo = true → (normalizeMemoType t).isSome = true → ∃ wire,
        Frontend.encodeMemo memo t = .ok wire ∧ decodeMemoToCanonical (some wire) t = some memo) ∧
      ∀ memo, decodeMemoToCanonical (some value) memoType = some memo ↔
        isCanonical memo = true ∧ SpellsMemo type (jsTrim value) memo := by
  intro h
  have hdecoded : decodeMemoToCanonical (some (overPaddedHash "A3F91B2C")) "MEMO_HASH" =
      some "A3F91B2C" := by decide +kernel
  have hspells := ((h "MEMO_HASH" .hash (overPaddedHash "A3F91B2C") (by decide) (Or.inr rfl)).2 _).mp
    hdecoded
  exact absurd hspells.2 (by decide +kernel)

end StellarEduPay

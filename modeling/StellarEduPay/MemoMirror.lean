import StellarEduPay.MemoCodec

/-! # The two memo decoders

The frontend's decoder mirrors the backend's.  Both take base64 with any padding of up to two signs;
then the frontend leaves it to the platform's forgiving decoder, which completes the padding and drops
bits left over, and the backend compares with what the bytes encode to, without padding.
-/
namespace StellarEduPay
open Checks

/-! ## The platform -/

/-- ASCII white space. -/
def isAsciiSpace (c : Char) : Bool := c.val ∈ [0x09, 0x0A, 0x0C, 0x0D, 0x20]

/-- Remove one or two signs of padding from the end. -/
def stripPadding (cs : List Char) : List Char :=
  match cs.reverse with
  | '=' :: '=' :: rest => rest.reverse
  | '=' :: rest => rest.reverse
  | _ => cs

/-- `atob`, the forgiving decoder; `none` is its exception. -/
def atob (cs : List Char) : Option (List Nat) :=
  let data := cs.filter (!isAsciiSpace ·)
  let data := if data.length % 4 = 0 then stripPadding data else data
  if data.length % 4 = 1 then none else (data.mapM base64Digit).map base64Bytes

/-! ## Decoding in the frontend -/

namespace Frontend

/-- `/^[A-Za-z0-9+/]+={0,2}$/` -/
def isBase64Text (cs : List Char) : Bool :=
  (dropPadding cs).any fun body => !body.isEmpty && body.all fun c => (base64Digit c).isSome

def base64ToBinary (cs : List Char) : Option (List Nat) := if isBase64Text cs then atob cs else none

/-- `decodeHashBytes` of the frontend, where an exception is `null`, too. -/
def decodeHashBytes (value : String) : Option (List Nat) :=
  let cs := value.toList
  match (if cs.length = 64 then cs.mapM hexDigit else none) with
  | some digits => some (hexBytes digits)
  | none => base64ToBinary cs

/-- `decodeMemo` -/
def decodeMemo (value : Option String) (memoType : String) : Option String :=
  match value.filter (· ≠ ""), (normalizeMemoType memoType).toOption with
  | none, _ | _, none => none
  | some value, some .text =>
    let text := jsTrim value
    if text = "" then none else some text
  | some value, some .id =>
    let raw := jsTrim value
    if !isDecimalDigits raw then none
    else if decimalValue raw > 0xffffffff then none
    else some (upperHex 8 (decimalValue raw))
  | some value, some .hash =>
    match decodeHashBytes (jsTrim value) with
    | none => none
    | some bytes =>
      if bytes.length ≠ 32 ∨ (bytes.take 28).any (· ≠ 0) then none
      else some (String.join ((bytes.drop 28).map (upperHex 2)))

end Frontend

/-! ## Forgiving base64 -/

section Forgiving
variable {digits bytes : List Nat} {cs body : List Char} {k : Nat}

theorem stripPadding_append (hbody : ∀ c ∈ body, c ≠ '=') (hk : k ≤ 2) :
    stripPadding (body ++ List.replicate k '=') = body := by
  have hreverse : ∀ c ∈ body.reverse, c ≠ '=' := fun c hc => hbody c (List.mem_reverse.mp hc)
  have hback : body.reverse.reverse = body := List.reverse_reverse body
  rw [stripPadding, List.reverse_append, List.reverse_replicate]
  generalize body.reverse = last at hreverse hback
  match k, hk with
  | 0, _ =>
    simp only [List.replicate_zero, List.nil_append, List.append_nil]
    split
    · exact absurd rfl (hreverse '=' List.mem_cons_self)
    · exact absurd rfl (hreverse '=' List.mem_cons_self)
    · rfl
  | 1, _ =>
    simp only [List.replicate_one, List.singleton_append]
    split
    · rename_i heq
      exact absurd rfl (hreverse '=' ((List.cons.inj heq).2 ▸ List.mem_cons_self))
    · rename_i heq
      rw [← (List.cons.inj heq).2, hback]
    · rename_i hone
      exact (hone last rfl).elim
  | 2, _ => exact hback

/-- A sign of padding is no digit. -/
theorem mapM_base64Digit_padded (hk : 0 < k) :
    (digits.map base64Char ++ List.replicate k '=').mapM base64Digit = none := by
  refine Option.eq_none_iff_forall_ne_some.mpr fun read hread => ?_
  obtain ⟨hmap, hlt⟩ := mapM_base64Digit.mp hread
  have hmem : '=' ∈ digits.map base64Char ++ List.replicate k '=' :=
    List.mem_append_right _ (List.mem_replicate.mpr ⟨hk.ne', rfl⟩)
  rw [hmap] at hmem
  exact ne_pad_of_mem_digits hlt _ hmem rfl

/-- The digits are read if there is no padding, or if it completes them. -/
theorem atob_eq_some_iff (hlt : ∀ d ∈ digits, d < 64) (hk : k ≤ 2) :
    atob (digits.map base64Char ++ List.replicate k '=') = some bytes ↔
      (k = 0 ∧ digits.length % 4 ≠ 1 ∨ 0 < k ∧ (digits.length + k) % 4 = 0) ∧
        base64Bytes digits = bytes := by
  have hspace : ∀ n < 64, isAsciiSpace (base64Char n) = false := by decide
  have hdata : (digits.map base64Char ++ List.replicate k '=').filter (!isAsciiSpace ·) =
      digits.map base64Char ++ List.replicate k '=' := by
    refine List.filter_eq_self.mpr fun c hc => ?_
    rcases List.mem_append.mp hc with hc | hc
    · obtain ⟨d, hd, rfl⟩ := List.mem_map.mp hc
      rw [hspace d (hlt d hd), Bool.not_false]
    · rw [List.eq_of_mem_replicate hc]
      decide
  have hlength : (digits.map base64Char ++ List.replicate k '=').length = digits.length + k := by
    rw [List.length_append, List.length_map, List.length_replicate]
  have hread : (digits.map base64Char).mapM base64Digit = some digits := mapM_base64Digit.mpr ⟨rfl, hlt⟩
  rw [atob, hdata, hlength, stripPadding_append (ne_pad_of_mem_digits hlt) hk]
  by_cases hfour : (digits.length + k) % 4 = 0
  · have hone : ¬ digits.length % 4 = 1 := by omega
    simp only [if_pos hfour, List.length_map, if_neg hone, hread, Option.map_some, Option.some_inj]
    refine (and_iff_right ?_).symm
    rcases Nat.eq_zero_or_pos k with hzero | hpos
    · exact Or.inl ⟨hzero, hone⟩
    · exact Or.inr ⟨hpos, hfour⟩
  · simp only [if_neg hfour, hlength]
    rcases Nat.eq_zero_or_pos k with rfl | hpos
    · by_cases hone : digits.length % 4 = 1
      · simp [hone]
      · simp [hone, hread]
    · rw [mapM_base64Digit_padded hpos]
      simp [hpos.ne', hfour]

theorem isBase64Text_iff : Frontend.isBase64Text cs = true ↔ ∃ digits k, digits ≠ [] ∧ k ≤ 2 ∧
    (∀ d ∈ digits, d < 64) ∧ cs = digits.map base64Char ++ List.replicate k '=' := by
  unfold Frontend.isBase64Text
  constructor
  · intro h
    obtain ⟨body, hbody, hdigits⟩ := (Option.any_eq_true _ _).mp h
    simp only [Bool.and_eq_true, Bool.not_eq_true', List.isEmpty_eq_false_iff, List.all_eq_true]
      at hdigits
    obtain ⟨k, hk, rfl⟩ := exists_of_dropPadding hbody
    obtain ⟨digits, rfl, hlt⟩ := exists_base64Digits hdigits.2
    exact ⟨digits, k, by simpa using hdigits.1, hk, hlt, rfl⟩
  · rintro ⟨digits, k, hne, hk, hlt, rfl⟩
    rw [dropPadding_append (ne_pad_of_mem_digits hlt) hk]
    simp only [Option.any_some, Bool.and_eq_true, Bool.not_eq_true', List.isEmpty_eq_false_iff,
      List.all_eq_true]
    refine ⟨by simpa using hne, fun c hc => ?_⟩
    obtain ⟨d, hd, rfl⟩ := List.mem_map.mp hc
    rw [base64Digit_char d (hlt d hd)]
    rfl

/-- **The bytes of a hash memo** in the frontend: hexadecimal, or base64 with the padding that completes
it or without, and any bits left over. -/
theorem frontend_decodeHashBytes_iff {value : String} (hlength : bytes.length = 32) :
    Frontend.decodeHashBytes value = some bytes ↔ (∀ b ∈ bytes, b < 256) ∧
      (HexSpells value.toList bytes ∨ ∃ digits k, k ≤ 1 ∧ (∀ d ∈ digits, d < 64) ∧
        base64Bytes digits = bytes ∧ value.toList = digits.map base64Char ++ List.replicate k '=') := by
  unfold Frontend.decodeHashBytes
  dsimp only
  generalize value.toList = cs
  have hcount : ∀ digits, base64Bytes digits = bytes → digits.length = 43 := by
    intro digits hdigits
    have := length_base64Bytes digits
    rw [hdigits, hlength] at this
    omega
  constructor
  · intro h
    split at h
    · rename_i digits hdigits
      obtain ⟨hlt, hspells⟩ := (hexBranch_iff hlength).mp ⟨digits, hdigits, Option.some.inj h⟩
      exact ⟨hlt, Or.inl hspells⟩
    · unfold Frontend.base64ToBinary at h
      split at h
      case isFalse => cases h
      rename_i htext
      obtain ⟨digits, k, -, hk, hlt, rfl⟩ := isBase64Text_iff.mp htext
      obtain ⟨hpadding, hbytes⟩ := (atob_eq_some_iff hlt hk).mp h
      have h43 := hcount digits hbytes
      exact ⟨hbytes ▸ base64Bytes_lt hlt, Or.inr ⟨digits, k, by omega, hlt, hbytes, rfl⟩⟩
  · rintro ⟨hlt, hspells | ⟨digits, k, hk, hdigits, hbytes, rfl⟩⟩
    · obtain ⟨digits, hdigits, hbytes⟩ := (hexBranch_iff hlength).mpr ⟨hlt, hspells⟩
      rw [hdigits]
      exact congrArg some hbytes
    · have h43 := hcount digits hbytes
      have h64 : (digits.map base64Char ++ List.replicate k '=').length ≠ 64 := by
        rw [List.length_append, List.length_map, h43, List.length_replicate]
        omega
      have hne : digits ≠ [] := by
        rintro rfl
        cases h43
      have htext := isBase64Text_iff.mpr ⟨digits, k, hne, by omega, hdigits, rfl⟩
      rw [if_neg h64]
      dsimp only
      rw [Frontend.base64ToBinary, if_pos htext, atob_eq_some_iff hdigits (by omega)]
      exact ⟨by omega, hbytes⟩

end Forgiving

/-! ## Where the decoders part -/

/-- The base64 digits of a memo's hash, with two signs of padding, or with bits left over that are not
zero. -/
def PartsDecoders (text : String) : Prop :=
  ∃ memo digits k, isCanonical memo = true ∧ (∀ d ∈ digits, d < 64) ∧
    base64Bytes digits = hashBytes memo ∧
    text.toList = digits.map base64Char ++ List.replicate k '=' ∧
    (k = 2 ∧ digits.getLastD 0 % 4 = 0 ∨ k ≤ 1 ∧ digits.getLastD 0 % 4 ≠ 0)

section Parting
variable {memo memoType text : String} {digits digits' : List Nat} {k k' : Nat}

theorem frontend_normalizeMemoType (h : memoType ≠ "") :
    (Frontend.normalizeMemoType memoType).toOption = normalizeMemoType memoType := by
  rw [Frontend.normalizeMemoType, if_neg h]
  cases normalizeMemoType memoType <;> rfl

theorem frontend_decodeMemo_hash (htype : normalizeMemoType memoType = some .hash) :
    Frontend.decodeMemo (some text) memoType = some memo ↔
      isCanonical memo = true ∧ Frontend.decodeHashBytes (jsTrim text) = some (hashBytes memo) := by
  have hnormal := frontend_normalizeMemoType (by
    rintro rfl
    exact absurd htype (by decide) : memoType ≠ "")
  unfold Frontend.decodeMemo
  rw [hnormal, htype]
  by_cases htext : text = ""
  · subst htext
    have hempty : Frontend.decodeHashBytes (jsTrim "") = none := by decide
    refine iff_of_false nofun fun h => ?_
    rw [hempty] at h
    exact nomatch h.2
  have hsome : (some text).filter (· ≠ "") = some text := truthy_of_ne htext
  rw [hsome]
  dsimp only
  cases hbytes : Frontend.decodeHashBytes (jsTrim text) with
  | none => simp
  | some bytes =>
    have hlt : bytes.length = 32 → ∀ b ∈ bytes, b < 256 :=
      fun hlength => ((frontend_decodeHashBytes_iff hlength).mp hbytes).1
    rw [Option.some_inj]
    exact hashTail_iff hlt

/-- A padded text has one reading. -/
theorem padded_inj (hlt : ∀ d ∈ digits, d < 64) (hlt' : ∀ d ∈ digits', d < 64)
    (hk : k ≤ 2) (hk' : k' ≤ 2) (h : digits.map base64Char ++ List.replicate k '=' =
      digits'.map base64Char ++ List.replicate k' '=') : digits = digits' ∧ k = k' := by
  have hbody := congrArg dropPadding h
  rw [dropPadding_append (ne_pad_of_mem_digits hlt) hk,
    dropPadding_append (ne_pad_of_mem_digits hlt') hk', Option.some_inj] at hbody
  have hread := congrArg (List.mapM base64Digit) hbody
  rw [mapM_base64Digit.mpr ⟨rfl, hlt⟩, mapM_base64Digit.mpr ⟨rfl, hlt'⟩] at hread
  have hlength := congrArg List.length h
  rw [hbody, List.length_append, List.length_append, List.length_replicate,
    List.length_replicate] at hlength
  exact ⟨Option.some.inj hread, Nat.add_left_cancel hlength⟩

theorem length_of_hash (hcanonical : isCanonical memo = true)
    (hbytes : base64Bytes digits = hashBytes memo) : digits.length = 43 := by
  have hlength := length_base64Bytes digits
  rw [hbytes, (hashBytes_spec hcanonical).1] at hlength
  omega

/-- A hash in base64 is no hash in hexadecimal. -/
theorem not_hexSpells (hcanonical : isCanonical memo = true)
    (hbytes : base64Bytes digits = hashBytes memo) (hk : k ≤ 2)
    (htext : text.toList = digits.map base64Char ++ List.replicate k '=') :
    ¬ HexSpells text.toList (hashBytes memo) := by
  intro hhex
  have hlength := hhex.length
  rw [htext, List.length_append, List.length_map, List.length_replicate,
    length_of_hash hcanonical hbytes, (hashBytes_spec hcanonical).1] at hlength
  omega

/-- The bits left over by a memo's hash. -/
theorem leftOver_iff (hcanonical : isCanonical memo = true) (hlt : ∀ d ∈ digits, d < 64)
    (hbytes : base64Bytes digits = hashBytes memo) :
    base64Digits (hashBytes memo) = digits ↔ digits.getLastD 0 % 4 = 0 := by
  have hlength := length_of_hash hcanonical hbytes
  rw [← hbytes]
  exact base64Digits_bytes hlt (by omega)

/-- **The two readings of a hash** differ on one that parts the decoders. -/
theorem decodeHashBytes_agree_iff (hcanonical : isCanonical memo = true) :
    (Frontend.decodeHashBytes text = some (hashBytes memo) ↔
        decodeHashBytes text = some (hashBytes memo)) ↔
      ¬ ∃ digits k, (∀ d ∈ digits, d < 64) ∧ base64Bytes digits = hashBytes memo ∧
        text.toList = digits.map base64Char ++ List.replicate k '=' ∧
        (k = 2 ∧ digits.getLastD 0 % 4 = 0 ∨ k ≤ 1 ∧ digits.getLastD 0 % 4 ≠ 0) := by
  obtain ⟨h32, h256⟩ := hashBytes_spec hcanonical
  rw [frontend_decodeHashBytes_iff h32, decodeHashBytes_eq_some_iff h32, and_iff_right h256,
    and_iff_right h256]
  constructor
  · rintro hreads ⟨digits, k, hlt, hbytes, htext, hcase⟩
    have hleft := leftOver_iff hcanonical hlt hbytes
    rcases hcase with ⟨rfl, hzero⟩ | ⟨hk, hbits⟩
    · -- the backend reads it, and the frontend reads no text with this padding
      rcases hreads.mpr (Or.inr ⟨2, le_rfl, by rw [hleft.mpr hzero, htext]⟩) with
        hhex | ⟨digits', k', hk', hlt', -, htext'⟩
      · exact not_hexSpells hcanonical hbytes le_rfl htext hhex
      · obtain ⟨-, rfl⟩ := padded_inj hlt hlt' le_rfl (by omega) (htext.symm.trans htext')
        omega
    · -- the frontend reads it, and to the backend it is not what its bytes encode to
      rcases hreads.mp (Or.inr ⟨digits, k, hk, hlt, hbytes, htext⟩) with hhex | ⟨k', hk', htext'⟩
      · exact not_hexSpells hcanonical hbytes (by omega) htext hhex
      · obtain ⟨hdigits, -⟩ := padded_inj hlt (base64Digits_lt h256) (by omega) hk'
          (htext.symm.trans htext')
        exact hbits (hleft.mp hdigits.symm)
  · intro hparts
    refine or_congr_right ?_
    constructor
    · rintro ⟨digits, k, hk, hlt, hbytes, htext⟩
      have hzero : digits.getLastD 0 % 4 = 0 := by
        by_contra hbits
        exact hparts ⟨digits, k, hlt, hbytes, htext, Or.inr ⟨hk, hbits⟩⟩
      exact ⟨k, by omega, by rw [(leftOver_iff hcanonical hlt hbytes).mpr hzero, htext]⟩
    · rintro ⟨k, hk, htext⟩
      have hlt := base64Digits_lt h256
      have hbytes := base64Bytes_digits h256
      have hzero := (leftOver_iff hcanonical hlt hbytes).mp rfl
      have hk' : k ≠ 2 := by
        rintro rfl
        exact hparts ⟨_, 2, hlt, hbytes, htext, Or.inl ⟨rfl, hzero⟩⟩
      exact ⟨_, k, by omega, hlt, hbytes, htext⟩

/-- Besides hashes both decoders have the same branches. -/
theorem decodeMemo_agree_of_ne_hash (htype : memoType ≠ "")
    (hhash : normalizeMemoType memoType ≠ some .hash) (value : Option String) :
    Frontend.decodeMemo value memoType = decodeMemoToCanonical value memoType := by
  unfold Frontend.decodeMemo decodeMemoToCanonical
  rw [frontend_normalizeMemoType htype]
  cases value.filter (· ≠ "") with
  | none => rfl
  | some text =>
    match hsupported : normalizeMemoType memoType with
    | none => rfl
    | some .text => rfl
    | some .id => rfl
    | some .hash => exact absurd hsupported hhash

theorem decodeMemo_agree_iff_of_hash (hhash : normalizeMemoType memoType = some .hash)
    (text : String) :
    Frontend.decodeMemo (some text) memoType = decodeMemoToCanonical (some text) memoType ↔
      ∀ memo, isCanonical memo = true →
        (Frontend.decodeHashBytes (jsTrim text) = some (hashBytes memo) ↔
          decodeHashBytes (jsTrim text) = some (hashBytes memo)) := by
  constructor
  · intro hagree memo hcanonical
    have hmemo := congrArg (· = some memo) hagree
    rw [eq_iff_iff, frontend_decodeMemo_hash hhash, decodeMemoToCanonical_hash hhash] at hmemo
    simpa [hcanonical] using hmemo
  · intro hreads
    refine Option.ext fun memo => ?_
    rw [frontend_decodeMemo_hash hhash, decodeMemoToCanonical_hash hhash]
    exact and_congr_right (hreads memo)

end Parting

/-- **The two decoders agree** exactly on the values that are no such hash. -/
theorem decoders_agree_iff {memoType : String} (htype : memoType ≠ "") (value : Option String) :
    Frontend.decodeMemo value memoType = decodeMemoToCanonical value memoType ↔
      ¬ (normalizeMemoType memoType = some .hash ∧
        ∃ text, value = some text ∧ PartsDecoders (jsTrim text)) := by
  by_cases hhash : normalizeMemoType memoType = some .hash
  case neg => exact iff_of_true (decodeMemo_agree_of_ne_hash htype hhash value) fun h => hhash h.1
  rw [and_iff_right hhash]
  cases value with
  | none => exact iff_of_true rfl nofun
  | some text =>
    rw [decodeMemo_agree_iff_of_hash hhash]
    constructor
    · rintro hreads ⟨text', hsame, memo, digits, k, hcanonical, hparts⟩
      obtain rfl := Option.some.inj hsame
      exact (decodeHashBytes_agree_iff hcanonical).mp (hreads memo hcanonical) ⟨digits, k, hparts⟩
    · intro hparts memo hcanonical
      refine (decodeHashBytes_agree_iff hcanonical).mpr ?_
      rintro ⟨digits, k, hcase⟩
      exact hparts ⟨text, rfl, memo, digits, k, hcanonical, hcase⟩

/-- A hash in hexadecimal digits. -/
def hexHash (memo : String) : String := String.ofList (List.replicate 56 '0' ++ memo.toList)

/-- Its 64 digits would be 48 bytes in base64. -/
theorem decoders_agree_iff_hex :
    Frontend.decodeMemo (some (hexHash "A3F91B2C")) "MEMO_HASH" =
        decodeMemoToCanonical (some (hexHash "A3F91B2C")) "MEMO_HASH" ∧
      decodeMemoToCanonical (some (hexHash "A3F91B2C")) "MEMO_HASH" = some "A3F91B2C" := by
  refine ⟨(decoders_agree_iff (by decide) (some (hexHash "A3F91B2C"))).mpr ?_, by decide +kernel⟩
  rintro ⟨-, text, hsame, memo, digits, k, hcanonical, -, hbytes, htext, hpadding⟩
  obtain rfl := Option.some.inj hsame
  have hlength := congrArg List.length htext
  have hchars : (jsTrim (hexHash "A3F91B2C")).toList.length = 64 := by decide +kernel
  have hhash := congrArg List.length hbytes
  rw [hchars, List.length_append, List.length_map, List.length_replicate] at hlength
  rw [length_base64Bytes, (hashBytes_spec hcanonical).1] at hhash
  omega

/-- The backend finds the memo of a hash with `==`, the frontend finds none. -/
theorem decoders_differ : ¬ ∀ (value : Option String) (memoType : String), memoType ≠ "" →
    Frontend.decodeMemo value memoType = decodeMemoToCanonical value memoType := by
  intro hagree
  have hfrontend : Frontend.decodeMemo (some (overPaddedHash "A3F91B2C")) "MEMO_HASH" = none := by
    decide +kernel
  have hbackend : decodeMemoToCanonical (some (overPaddedHash "A3F91B2C")) "MEMO_HASH" =
      some "A3F91B2C" := by decide +kernel
  have hsame := hagree (some (overPaddedHash "A3F91B2C")) "MEMO_HASH" (by decide)
  rw [hfrontend, hbackend] at hsame
  cases hsame

end StellarEduPay

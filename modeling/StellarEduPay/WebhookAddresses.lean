import StellarEduPay.IpText
import StellarEduPay.JsString

/-! # Webhook addresses (`utils/validateWebhookUrl.js`)

A webhook may not be delivered to a private or a reserved address.  An IPv4 address is compared with
ranges of numbers.  An IPv6 address is compared as a text with prefixes of one spelling of each range,
and it has others: `0:0:0:0:0:0:0:1` is `::1`, and is let through.

Texts that `net.isIPv6` accepts are ASCII.
-/
namespace StellarEduPay
open Decimals IpText

/-! ## The filter -/

/-- `PRIVATE_IPv4_RANGES` -/
def privateIPv4Ranges : List (Nat × Nat) :=
  [(0x00000000, 0x00FFFFFF), (0x0A000000, 0x0AFFFFFF), (0x64400000, 0x647FFFFF),
    (0x7F000000, 0x7FFFFFFF), (0xA9FE0000, 0xA9FEFFFF), (0xAC100000, 0xAC1FFFFF),
    (0xC0000000, 0xC00000FF), (0xC0A80000, 0xC0A8FFFF), (0xC6120000, 0xC613FFFF),
    (0xC6336400, 0xC63364FF), (0xCB007100, 0xCB0071FF), (0xE0000000, 0xEFFFFFFF),
    (0xF0000000, 0xFFFFFFFF)]

/-- `net.isIPv4` -/
def isIPv4 (ip : String) : Bool := (Quad.ofChars ip.toList).isSome

/-- `net.isIPv6` -/
def isIPv6 (ip : String) : Bool := (IpText.read ip.toList).isSome

/-- `parseInt(octet, 10)`; `none` is `NaN`. -/
def parseOctet (octet : List Char) : Option Nat :=
  let digits := octet.takeWhile Char.isDigit
  if digits = [] then none else some (digitsValue digits)

/-- `ipv4ToLong` -/
def ipv4ToLong (ip : List Char) : Nat :=
  (ip.splitOn '.').foldl
    (fun acc octet => ((parseOctet octet).map fun n => (acc * 2 ^ 8 + n) % 2 ^ 32).getD 0) 0

/-- `isPrivateIPv4` -/
def isPrivateIPv4 (ip : List Char) : Bool :=
  privateIPv4Ranges.any fun (lo, hi) => lo ≤ ipv4ToLong ip && ipv4ToLong ip ≤ hi

/-- `replace(/^\[|\]$/g, '')` -/
def stripBrackets (ip : List Char) : List Char :=
  let ip := if ip.head? = some '[' then ip.tail else ip
  if ip.getLast? = some ']' then ip.dropLast else ip

/-- What `/^::ffff:(\d{1,3}\.\d{1,3}\.\d{1,3}\.\d{1,3})$/i` captures. -/
def mappedIPv4 (lower : List Char) : Option (List Char) :=
  let rest := lower.drop "::ffff:".length
  let octets := rest.splitOn '.'
  if "::ffff:".toList <+: lower ∧ octets.length = 4 ∧
      octets.all fun octet => octet.length ∈ [1, 2, 3] && octet.all Char.isDigit then
    some rest
  else none

/-- `/^f[cd]/i` -/
def startsUniqueLocal (lower : List Char) : Bool := "fc".toList <+: lower ∨ "fd".toList <+: lower

/-- `/^fe[89ab]/i` -/
def startsLinkLocal (lower : List Char) : Bool :=
  ["fe8", "fe9", "fea", "feb"].any fun start => start.toList <+: lower

/-- `isPrivateIPv6` -/
def isPrivateIPv6 (ip : String) : Bool :=
  let lower := stripBrackets (ip.toList.map Char.toLower)
  if lower = "::1".toList then true
  else match mappedIPv4 lower with
  | some mapped => isPrivateIPv4 mapped
  | none =>
    if "::ffff:".toList <+: lower then true
    else if startsUniqueLocal lower then true
    else if startsLinkLocal lower then true
    else if lower = "::".toList ∨ lower = "::0".toList then true
    else if "64:ff9b::".toList <+: lower then true
    else false

structure IpVerdict where
  blocked : Bool
  reason : Option String := none
  deriving DecidableEq, Repr

/-- `validateResolvedIp` -/
def validateResolvedIp (ip : String) : IpVerdict :=
  if isIPv4 ip then
    if isPrivateIPv4 ip.toList then ⟨true, some ("Private/reserved IPv4 address: " ++ ip)⟩
    else ⟨false, none⟩
  else if isIPv6 ip then
    if isPrivateIPv6 ip then ⟨true, some ("Private/reserved IPv6 address: " ++ ip)⟩
    else ⟨false, none⟩
  else ⟨true, some ("Unrecognised IP format: " ++ ip)⟩

example : ["::1", "0:0:0:0:0:0:0:1", "::ffff:192.168.1.1", "2001:db8::1", "64:ff9b:0::1"].map
    (fun ip => (validateResolvedIp ip).blocked) = [true, false, true, false, false] := by
  decide +kernel

/-! ## What is to be blocked -/

/-- The number is in one of the private ranges. -/
def InPrivateIPv4Ranges (n : Nat) : Prop := ∃ range ∈ privateIPv4Ranges, range.1 ≤ n ∧ n ≤ range.2

instance (n : Nat) : Decidable (InPrivateIPv4Ranges n) :=
  inferInstanceAs (Decidable (∃ range ∈ privateIPv4Ranges, _))

/-- `::ffff:0:0/96` -/
def IsMapped (value : Nat) : Prop := value / 2 ^ 32 = 0xffff

/-- `64:ff9b::/96` -/
def IsNat64 (value : Nat) : Prop := value / 2 ^ 32 = 0x64ff9b0000000000000000

/-- `fc00::/7` or `fe80::/10` -/
def IsLocal (value : Nat) : Prop := value / 2 ^ 121 = 0x7e ∨ value / 2 ^ 118 = 0x3fa

instance (value : Nat) : Decidable (IsMapped value) := inferInstanceAs (Decidable (_ = _))
instance (value : Nat) : Decidable (IsNat64 value) := inferInstanceAs (Decidable (_ = _))
instance (value : Nat) : Decidable (IsLocal value) := inferInstanceAs (Decidable (_ ∨ _))

/-- An address of 128 bits is to be blocked. -/
def ToBlock (value : Nat) : Prop :=
  value = 0 ∨ value = 1 ∨ IsLocal value ∨ IsNat64 value ∨
    (IsMapped value ∧ InPrivateIPv4Ranges (value % 2 ^ 32))

instance (value : Nat) : Decidable (ToBlock value) := inferInstanceAs (Decidable (_ ∨ _))

/-! ## IPv4 -/

theorem parseOctet_toDigits (n : Nat) : parseOctet (Nat.toDigits 10 n) = some n := by
  have hdigits : (Nat.toDigits 10 n).takeWhile Char.isDigit = Nat.toDigits 10 n :=
    List.takeWhile_eq_self_iff.mpr (isDigits_toDigits n)
  rw [parseOctet, hdigits]
  simp

theorem ipv4ToLong_chars (q : Quad) : ipv4ToLong q.chars = q.value := by
  have ha := q.a.isLt
  have hb := q.b.isLt
  have hc := q.c.isLt
  have hd := q.d.isLt
  simp only [ipv4ToLong, Quad.splitOn_chars, Quad.octets, List.foldl_cons, List.foldl_nil,
    parseOctet_toDigits, Option.map_some, Option.getD_some, Quad.value]
  omega

theorem isPrivateIPv4_chars (q : Quad) :
    isPrivateIPv4 q.chars = true ↔ InPrivateIPv4Ranges q.value := by
  simp [isPrivateIPv4, InPrivateIPv4Ranges, ipv4ToLong_chars]

theorem isIPv4_iff {ip : String} : isIPv4 ip = true ↔ ∃ q : Quad, q.chars = ip.toList := by
  simp only [isIPv4, Option.isSome_iff_exists, Quad.ofChars_eq_some]

theorem isIPv6_iff {ip : String} : isIPv6 ip = true ↔ ∃ t : Spelling, t.chars = ip.toList := by
  simp only [isIPv6, Option.isSome_iff_exists, read_eq_some]

/-- **IPv4 addresses** are blocked as they should be. -/
theorem validateResolvedIp_quad (q : Quad) :
    (validateResolvedIp q.text).blocked = true ↔ InPrivateIPv4Ranges q.value := by
  have htext : q.text.toList = q.chars := String.toList_ofList
  have hv4 : isIPv4 q.text = true := isIPv4_iff.mpr ⟨q, htext.symm⟩
  rw [validateResolvedIp, if_pos hv4, htext, ← isPrivateIPv4_chars]
  split <;> simp_all

/-! ## IPv6 -/

variable (t : Spelling)

theorem not_isIPv4_text : isIPv4 t.text = false := by
  rw [Bool.eq_false_iff, Ne, isIPv4_iff]
  rintro ⟨q, hq⟩
  have hcolon : ':' ∈ q.chars := by
    rw [hq, Spelling.text, String.toList_ofList]
    exact t.colon_mem_chars
  rcases Quad.mem_chars hcolon with h | h <;> exact absurd h (by decide)

theorem not_bracket {x : Char} (hx : x = '[' ∨ x = ']') : x ∉ t.lowered := by
  have halpha : x.isAlpha = false := by rcases hx with rfl | rfl <;> decide
  rw [Spelling.lowered, mem_map_toLower halpha, Spelling.chars, List.mem_append]
  rintro (haddress | hzone)
  · rcases Spelling.mem_intercalate haddress with rfl | ⟨part, hpart, hc⟩
    · rcases hx with hx | hx <;> cases hx
    · rcases t.mem_parts part hpart x hc with hhex | rfl
      · rcases hx with rfl | rfl <;> exact absurd hhex (by decide)
      · rcases hx with hx | hx <;> cases hx
  · have hzoned := t.zoned
    rw [Spelling.zoneText] at hzone
    cases hz : t.zone with
    | none => rw [hz] at hzone; cases hzone
    | some z =>
      rw [hz, Option.all_some, isZone, Bool.and_eq_true] at hzoned
      rw [hz] at hzone
      rcases List.mem_cons.mp hzone with rfl | hmem
      · rcases hx with hx | hx <;> cases hx
      · have hchar := List.all_eq_true.mp hzoned.2 x hmem
        rcases hx with rfl | rfl <;> exact absurd hchar (by decide)

theorem stripBrackets_lowered : stripBrackets t.lowered = t.lowered := by
  have hfirst : t.lowered.head? ≠ some '[' :=
    fun h => not_bracket t (.inl rfl) (List.mem_of_mem_head? h)
  have hlast : t.lowered.getLast? ≠ some ']' :=
    fun h => not_bracket t (.inr rfl) (List.mem_of_mem_getLast? h)
  rw [stripBrackets, if_neg hfirst, if_neg hlast]


/-! ### What a beginning says about the value -/

/-- The digits of the first group. -/
theorem first_digits : t.lowered.head? = some ':' ∧ t.value / 2 ^ 112 = 0 ∨
    ∃ ds : List Nat, ds.length ∈ [1, 2, 3, 4] ∧ (∀ d ∈ ds, d < 16) ∧
      (∃ rest, t.lowered = ds.map lowerDigit ++ rest) ∧
      t.value / 2 ^ 112 = ds.foldl (fun n d => n * 16 + d) 0 := by
  rcases t.lowered_cases with ⟨back, hfront, -, hlower⟩ | ⟨g, gs, rest, hfront, hlower⟩
  · exact .inl ⟨by rw [hlower]; rfl, t.value_div_of_nil hfront⟩
  · obtain ⟨ds, hlength, hlt, hdigits, hvalue⟩ := g.digit_values
    rw [hdigits] at hlower
    exact .inr ⟨ds, hlength, hlt, ⟨_, hlower⟩, (t.value_div_of_front hfront).trans hvalue⟩

/-- A group that begins with `f` is not `64` and not zero. -/
theorem value_div_of_f (h : t.lowered.head? = some 'f') :
    t.value / 2 ^ 112 ≠ 0 ∧ t.value / 2 ^ 112 ≠ 0x64 := by
  have hf : ∀ d < 16, lowerDigit d = 'f' → d = 15 := by decide
  rcases first_digits t with ⟨hcolon, -⟩ | ⟨ds, hlength, hlt, ⟨rest, hlower⟩, hvalue⟩
  · rw [h] at hcolon
    cases hcolon
  cases ds with
  | nil => exact absurd hlength (by decide)
  | cons d ds =>
    rw [hlower, List.map_cons, List.cons_append, List.head?_cons, Option.some.injEq] at h
    have hd := hf d (hlt d List.mem_cons_self) h
    have hrest := foldl_lt fun d' hd' => hlt d' (List.mem_cons_of_mem _ hd')
    rw [List.foldl_cons, foldl_from, hd] at hvalue
    simp only [List.length_cons, List.mem_cons, List.not_mem_nil, or_false] at hlength
    have hcases : ds.length = 0 ∨ ds.length = 1 ∨ ds.length = 2 ∨ ds.length = 3 := by omega
    rcases hcases with hlen | hlen | hlen | hlen <;> rw [hlen] at hvalue hrest <;> omega

/-- An address in one of the local ranges begins as its prefixes do in every spelling. -/
theorem starts_of_isLocal (h : IsLocal t.value) :
    startsUniqueLocal t.lowered = true ∨ startsLinkLocal t.lowered = true := by
  have hfirst : t.value / 2 ^ 112 / 2 ^ 9 = 0x7e ∨ t.value / 2 ^ 112 / 2 ^ 6 = 0x3fa := by
    unfold IsLocal at h
    omega
  rcases first_digits t with ⟨-, hzero⟩ | ⟨ds, hlength, hlt, ⟨rest, hlower⟩, hvalue⟩
  · rw [hzero] at hfirst
    exact absurd hfirst (by decide)
  rw [hvalue] at hfirst
  have hfour : ds.length = 4 := by
    have hsmall := foldl_lt hlt
    simp only [List.mem_cons, List.not_mem_nil, or_false] at hlength
    rcases hlength with hlen | hlen | hlen | hlen
    · rw [hlen] at hsmall
      omega
    · rw [hlen] at hsmall
      omega
    · rw [hlen] at hsmall
      omega
    · exact hlen
  obtain ⟨a, b, c, d, rfl⟩ := List.length_eq_four.mp hfour
  have ha := hlt a (by simp)
  have hb := hlt b (by simp)
  have hc := hlt c (by simp)
  have hd := hlt d (by simp)
  simp only [List.foldl_cons, List.foldl_nil] at hfirst
  have hbegins : a = 15 ∧ (b = 12 ∨ b = 13 ∨ b = 14 ∧ (c = 8 ∨ c = 9 ∨ c = 10 ∨ c = 11)) := by omega
  obtain ⟨rfl, hbegins⟩ := hbegins
  rw [hlower]
  rcases hbegins with rfl | rfl | ⟨rfl, rfl | rfl | rfl | rfl⟩
  · exact .inl (decide_eq_true (.inl ⟨_, rfl⟩))
  · exact .inl (decide_eq_true (.inr ⟨_, rfl⟩))
  · exact .inr (List.any_eq_true.mpr ⟨"fe8", by decide, decide_eq_true ⟨_, rfl⟩⟩)
  · exact .inr (List.any_eq_true.mpr ⟨"fe9", by decide, decide_eq_true ⟨_, rfl⟩⟩)
  · exact .inr (List.any_eq_true.mpr ⟨"fea", by decide, decide_eq_true ⟨_, rfl⟩⟩)
  · exact .inr (List.any_eq_true.mpr ⟨"feb", by decide, decide_eq_true ⟨_, rfl⟩⟩)


/-- What a spelling of the mapped form consists of. -/
theorem mapped_parts (h : "::ffff:".toList <+: t.lowered) :
    ∃ g gs, t.front = [] ∧ t.back = some (g :: gs) ∧ g.value = 0xffff ∧ tailParts gs t.dotted ≠ [] ∧
      t.lowered.drop "::ffff:".length =
        ([':'].intercalate (tailParts gs t.dotted) ++ t.zoneText).map Char.toLower := by
  obtain ⟨g, gs, hfront, hback, hvalue, hne, hlower⟩ :=
    t.back_of_starts (show ':' :: ':' :: ("ffff".toList ++ [':']) <+: t.lowered from h)
      (List.all_eq_true.mp (by decide))
  exact ⟨g, gs, hfront, hback, hvalue.trans (by decide), hne, by rw [hlower]; rfl⟩

theorem value_of_starts_mapped (h : "::ffff:".toList <+: t.lowered) :
    t.value / 2 ^ 112 = 0 ∧ 0xffff ≤ t.value := by
  obtain ⟨g, gs, hfront, hback, hvalue, -, -⟩ := mapped_parts t h
  refine ⟨t.value_div_of_nil hfront, hvalue ▸ le_foldl (by decide) ?_⟩
  simp [Spelling.groups, Spelling.backGroups, hback]

/-- Parts without a colon and with a dot are one IPv4 address. -/
theorem dotted_of_parts {gs : List HexGroup} {dotted : Option Quad} {rest : List Char}
    (h : [':'].intercalate (tailParts gs dotted) = rest) (hcolon : ':' ∉ rest) (hdot : '.' ∈ rest) :
    gs = [] ∧ ∃ q, dotted = some q ∧ q.chars = rest := by
  cases gs with
  | nil =>
    cases dotted with
    | none =>
      rw [← h] at hdot
      cases hdot
    | some q => exact ⟨rfl, q, rfl, by rw [← h]; exact List.intercalate_singleton.symm⟩
  | cons g gs =>
    change [':'].intercalate (g.digits :: tailParts gs dotted) = rest at h
    by_cases hparts : tailParts gs dotted = []
    · rw [hparts, List.intercalate_singleton] at h
      exact absurd (g.hex '.' (h ▸ hdot)) (by decide)
    · rw [Spelling.intercalate_colon_cons _ hparts] at h
      exact absurd (h ▸ List.mem_append_right _ List.mem_cons_self) hcolon

/-- The characters of the text that is read as an IPv4 address. -/
theorem mem_mapped {lower rest : List Char} (h : mappedIPv4 lower = some rest) :
    "::ffff:".toList <+: lower ∧ rest = lower.drop "::ffff:".length ∧
      (∀ c ∈ rest, c.isDigit = true ∨ c = '.') ∧ '.' ∈ rest := by
  unfold mappedIPv4 at h
  dsimp only at h
  split at h
  · rename_i hcond
    obtain ⟨hbegins, hlength, hdigits⟩ := hcond
    rw [Option.some.injEq] at h
    rw [h] at hlength hdigits
    have hsplit : ['.'].intercalate (rest.splitOn '.') = rest := List.intercalate_splitOn '.'
    refine ⟨hbegins, h.symm, fun c hc => ?_, ?_⟩
    · rw [← hsplit] at hc
      rcases Spelling.mem_intercalate hc with rfl | ⟨octet, hoctet, hmem⟩
      · exact .inr rfl
      · have hall := List.all_eq_true.mp hdigits octet hoctet
        rw [Bool.and_eq_true] at hall
        exact .inl (List.all_eq_true.mp hall.2 c hmem)
    · obtain ⟨a, b, c, d, hparts⟩ := List.length_eq_four.mp hlength
      rw [← hsplit, hparts]
      simp [List.intercalate_cons_cons]
  · cases h

/-- The text that is read as an IPv4 address is the one at the end of the address. -/
theorem mappedIPv4_lowered {rest : List Char} (h : mappedIPv4 t.lowered = some rest) :
    ∃ q : Quad, q.chars = rest ∧ t.value = 0xffff * 2 ^ 32 + q.value := by
  obtain ⟨hbegins, hrest, hmem, hdot⟩ := mem_mapped h
  obtain ⟨g, gs, hfront, hback, hvalue, hne, hdrop⟩ := mapped_parts t hbegins
  have halpha : ∀ c ∈ rest, c.isAlpha = false := by
    intro c hc
    rcases hmem c hc with hdigit | rfl
    · exact not_isAlpha_of_isDigit hdigit
    · decide
  have hother : ∀ x, x = ':' ∨ x = '%' → x ∉ rest := by
    rintro x (rfl | rfl) hx <;> rcases hmem _ hx with h | h <;> exact absurd h (by decide)
  have htext := (map_toLower_eq_iff halpha).mp (hdrop.symm.trans hrest.symm)
  have hzone : t.zoneText = [] := by
    rw [Spelling.zoneText] at htext ⊢
    cases hz : t.zone with
    | none => rfl
    | some z =>
      rw [hz] at htext
      exact absurd (htext ▸ List.mem_append_right _ List.mem_cons_self) (hother '%' (.inr rfl))
  rw [hzone, List.append_nil] at htext
  obtain ⟨hgs, q, hdotted, hq⟩ := dotted_of_parts htext (hother ':' (.inl rfl)) hdot
  have hlt := q.value_lt
  have hgroups : t.groups = [0, 0, 0, 0, 0, 0xffff, q.value / 65536, q.value % 65536] := by
    simp [Spelling.groups, Spelling.backGroups, hfront, hback, hgs, hdotted, hvalue, List.replicate]
  refine ⟨q, hq, ?_⟩
  simp only [Spelling.value, hgroups, List.foldl_cons, List.foldl_nil]
  omega


/-! ### What a spelling tells -/

theorem octets_short (q : Quad) : ∀ octet ∈ q.octets, octet.length ∈ [1, 2, 3] := by
  have hshort : ∀ n : Fin 256, (Nat.toDigits 10 (n : Nat)).length ∈ [1, 2, 3] := by decide +kernel
  intro octet hoctet
  simp only [Quad.octets, List.mem_cons, List.not_mem_nil, or_false] at hoctet
  rcases hoctet with rfl | rfl | rfl | rfl <;> exact hshort _

/-- The mapped form ends in an IPv4 address. -/
def IsMappedForm : Prop := ∃ q : Quad, t.lowered = "::ffff:".toList ++ q.chars

theorem mappedIPv4_of_form {q : Quad} (h : t.lowered = "::ffff:".toList ++ q.chars) :
    mappedIPv4 t.lowered = some q.chars := by
  have hdrop : t.lowered.drop "::ffff:".length = q.chars := by rw [h]; rfl
  rw [mappedIPv4, hdrop]
  refine if_pos ⟨⟨_, h.symm⟩, by rw [Quad.splitOn_chars]; rfl, ?_⟩
  rw [Quad.splitOn_chars, List.all_eq_true]
  intro octet hoctet
  rw [Bool.and_eq_true, decide_eq_true_iff, List.all_eq_true]
  exact ⟨octets_short q octet hoctet, Quad.octets_isDigits octet hoctet⟩

theorem isMappedForm_iff : IsMappedForm t ↔ (mappedIPv4 t.lowered).isSome = true := by
  rw [Option.isSome_iff_exists]
  constructor
  · rintro ⟨q, hq⟩
    exact ⟨_, mappedIPv4_of_form t hq⟩
  · rintro ⟨rest, hrest⟩
    obtain ⟨q, hq, -⟩ := mappedIPv4_lowered t hrest
    obtain ⟨⟨tail, htail⟩, hdrop, -, -⟩ := mem_mapped hrest
    refine ⟨q, ?_⟩
    rw [hq, hdrop, ← htail]
    rfl

/-- The spelling begins with one of the prefixes of the filter. -/
def StartsBlocked : Prop :=
  "::ffff:".toList <+: t.lowered ∨ startsUniqueLocal t.lowered = true ∨
    startsLinkLocal t.lowered = true ∨ "64:ff9b::".toList <+: t.lowered

/-- The spelling shows the filter which range the address is in. -/
def SpellingTold : Prop :=
  if t.value ≤ 1 then t.text ∈ ["::", "::0", "::1"]
  else if IsMapped t.value then
    IsMappedForm t ∨ ("::ffff:".toList <+: t.lowered ↔ InPrivateIPv4Ranges (t.value % 2 ^ 32))
  else if IsNat64 t.value then "64:ff9b::".toList <+: t.lowered
  else IsLocal t.value ∨ ¬ StartsBlocked t

theorem text_eq_iff {ip : String} (h : ip.toList.all (!·.isAlpha) = true) :
    t.text = ip ↔ t.lowered = ip.toList := by
  have halpha : ∀ c ∈ ip.toList, c.isAlpha = false := by simpa using h
  rw [Spelling.lowered, map_toLower_eq_iff halpha, Spelling.text, ← String.toList_inj,
    String.toList_ofList]

/-- What the filter blocks, branch by branch. -/
theorem isPrivateIPv6_text : isPrivateIPv6 t.text = true ↔
    t.text ∈ ["::", "::0", "::1"] ∨
      (∃ rest, mappedIPv4 t.lowered = some rest ∧ isPrivateIPv4 rest = true) ∨
      mappedIPv4 t.lowered = none ∧ StartsBlocked t := by
  have hlower : stripBrackets (t.text.toList.map Char.toLower) = t.lowered := by
    rw [Spelling.text, String.toList_ofList]
    exact stripBrackets_lowered t
  have hlone : t.text ∈ ["::", "::0", "::1"] ↔ t.lowered = "::".toList ∨ t.lowered = "::0".toList ∨
      t.lowered = "::1".toList := by
    simp only [List.mem_cons, List.not_mem_nil, or_false]
    rw [text_eq_iff t (by decide), text_eq_iff t (by decide), text_eq_iff t (by decide)]
  rw [hlone, isPrivateIPv6, hlower]
  cases hmapped : mappedIPv4 t.lowered with
  | some rest =>
    have hother : ∀ ip ∈ ["::", "::0", "::1"], t.lowered ≠ ip.toList := by
      intro ip hip heq
      have hnone : ∀ ip ∈ ["::", "::0", "::1"], mappedIPv4 ip.toList = none := by decide
      rw [heq, hnone ip hip] at hmapped
      cases hmapped
    rw [if_neg (hother "::1" (by decide))]
    constructor
    · exact fun hprivate => .inr (.inl ⟨rest, rfl, hprivate⟩)
    · rintro ((h | h | h) | ⟨_, hrest, hprivate⟩ | ⟨hnone, -⟩)
      · exact absurd h (hother "::" (by decide))
      · exact absurd h (hother "::0" (by decide))
      · exact absurd h (hother "::1" (by decide))
      · cases hrest
        exact hprivate
      · cases hnone
  | none =>
    simp only [StartsBlocked]
    split_ifs <;> simp_all


/-- The lone spellings of the two lowest addresses. -/
theorem value_of_lone (h : t.text ∈ ["::", "::0", "::1"]) : t.value ≤ 1 := by
  have hvalues : ∀ ip ∈ ["::", "::0", "::1"], ∀ u ∈ IpText.read ip.toList, u.value ≤ 1 := by decide
  refine hvalues _ h t (read_eq_some.mpr ?_)
  rw [Spelling.text, String.toList_ofList]

theorem head?_of_startsLocal
    (h : startsUniqueLocal t.lowered = true ∨ startsLinkLocal t.lowered = true) :
    t.lowered.head? = some 'f' := by
  obtain ⟨start, hstart, hbegins⟩ : ∃ start ∈ ["fc", "fd", "fe8", "fe9", "fea", "feb"],
      start.toList <+: t.lowered := by
    rcases h with hunique | hlink
    · rcases decide_eq_true_iff.mp hunique with hfc | hfd
      · exact ⟨"fc", by decide, hfc⟩
      · exact ⟨"fd", by decide, hfd⟩
    · obtain ⟨start, hstart, hbegins⟩ := List.any_eq_true.mp hlink
      exact ⟨start, List.mem_cons_of_mem _ (List.mem_cons_of_mem _ hstart), of_decide_eq_true hbegins⟩
  have hheads : ∀ start ∈ ["fc", "fd", "fe8", "fe9", "fea", "feb"],
      start.toList.head? = some 'f' := by decide
  obtain ⟨rest, hrest⟩ := hbegins
  rw [← hrest, List.head?_append, hheads start hstart, Option.some_or]

/-- A prefix of the filter is not that of another range. -/
theorem value_of_startsBlocked (h : StartsBlocked t) : 1 < t.value ∧
    (IsMapped t.value → "::ffff:".toList <+: t.lowered) ∧
    (IsNat64 t.value → "64:ff9b::".toList <+: t.lowered) := by
  unfold IsMapped IsNat64
  rw [StartsBlocked, ← or_assoc (a := startsUniqueLocal _ = true)] at h
  rcases h with hmapped | hlocal | hnat64
  · have ⟨hzero, hle⟩ := value_of_starts_mapped t hmapped
    exact ⟨by omega, fun _ => hmapped, by omega⟩
  · have ⟨hzero, h64⟩ := value_div_of_f t (head?_of_startsLocal t hlocal)
    exact ⟨by omega, by omega, by omega⟩
  · have hgroup : t.value / 2 ^ 112 = hexNumber "64".toList :=
      t.value_div_of_starts (List.IsPrefix.trans ⟨"ff9b::".toList, by decide⟩ hnat64) (by decide)
        (List.all_eq_true.mp (by decide))
    have h64 : hexNumber "64".toList = 0x64 := by decide
    exact ⟨by omega, by omega, fun _ => hnat64⟩


/-! ### Told and not told -/

theorem blocked_text :
    (validateResolvedIp t.text).blocked = true ↔ isPrivateIPv6 t.text = true := by
  have hv6 : isIPv6 t.text = true :=
    isIPv6_iff.mpr ⟨t, by rw [Spelling.text, String.toList_ofList]⟩
  rw [validateResolvedIp, not_isIPv4_text, if_neg Bool.false_ne_true, if_pos hv6]
  split <;> simp_all

theorem isMapped_of_mappedIPv4 {rest : List Char} (h : mappedIPv4 t.lowered = some rest) :
    IsMapped t.value ∧
      (isPrivateIPv4 rest = true ↔ InPrivateIPv4Ranges (t.value % 2 ^ 32)) := by
  obtain ⟨q, rfl, hvalue⟩ := mappedIPv4_lowered t h
  have hlt := q.value_lt
  have hlow : t.value % 2 ^ 32 = q.value := by omega
  rw [hlow, isPrivateIPv4_chars, IsMapped]
  exact ⟨by omega, Iff.rfl⟩

theorem toBlock_of_isMapped {value : Nat} (h : IsMapped value) :
    ToBlock value ↔ InPrivateIPv4Ranges (value % 2 ^ 32) := by
  constructor
  · unfold IsMapped at h
    rintro (hzero | hone | hlocal | hnat64 | hmapped)
    · omega
    · omega
    · unfold IsLocal at hlocal
      omega
    · unfold IsNat64 at hnat64
      omega
    · exact hmapped.2
  · exact fun hprivate => .inr (.inr (.inr (.inr ⟨h, hprivate⟩)))

theorem toBlock_of_other {value : Nat} (hlow : ¬ value ≤ 1) (hmapped : ¬ IsMapped value)
    (hnat64 : ¬ IsNat64 value) : ToBlock value ↔ IsLocal value := by
  have hzero : value ≠ 0 := by omega
  have hone : value ≠ 1 := by omega
  simp only [ToBlock, hzero, hone, hnat64, hmapped, false_and, false_or, or_false]

/-- The filter is right about a spelling exactly if the spelling tells. -/
theorem blocked_iff_toBlock_iff :
    ((validateResolvedIp t.text).blocked = true ↔ ToBlock t.value) ↔ SpellingTold t := by
  have hstarts := value_of_startsBlocked t
  rw [blocked_text, isPrivateIPv6_text, SpellingTold]
  split_ifs with hlow hm hnat
  · -- the two lowest addresses
    have hblock : ToBlock t.value := by
      unfold ToBlock
      omega
    have hmapped : ¬ ∃ rest, mappedIPv4 t.lowered = some rest ∧ isPrivateIPv4 rest = true := by
      rintro ⟨rest, hrest, -⟩
      have hvalue := (isMapped_of_mappedIPv4 t hrest).1
      unfold IsMapped at hvalue
      omega
    have hother : ¬ StartsBlocked t := fun h => absurd (hstarts h).1 (by omega)
    simp only [hblock, hmapped, hother, and_false, or_false, iff_true]
  all_goals have hlone : t.text ∉ ["::", "::0", "::1"] := fun h => hlow (value_of_lone t h)
  · -- an IPv4 address in an IPv6 address
    rw [toBlock_of_isMapped hm, isMappedForm_iff]
    cases hform : mappedIPv4 t.lowered with
    | some rest =>
      have hprivate := (isMapped_of_mappedIPv4 t hform).2
      simp only [hlone, Option.some.injEq, exists_eq_left', hprivate, reduceCtorEq, false_and, or_false,
        false_or, Option.isSome_some, true_or]
    | none =>
      have hbegins : StartsBlocked t ↔ "::ffff:".toList <+: t.lowered :=
        ⟨fun h => (hstarts h).2.1 hm, .inl⟩
      simp only [hlone, hbegins, reduceCtorEq, false_and, exists_false, true_and, false_or,
        Option.isSome_none, Bool.false_eq_true]
  all_goals have hnone : mappedIPv4 t.lowered = none :=
    Option.eq_none_iff_forall_not_mem.mpr fun rest h => hm (isMapped_of_mappedIPv4 t h).1
  · -- an IPv4 address behind the prefix of a translator
    have hblock : ToBlock t.value := .inr (.inr (.inr (.inl hnat)))
    have hbegins : StartsBlocked t ↔ "64:ff9b::".toList <+: t.lowered :=
      ⟨fun h => (hstarts h).2.2 hnat, fun h => .inr (.inr (.inr h))⟩
    simp only [hlone, hnone, hblock, hbegins, reduceCtorEq, false_and, exists_false, true_and,
      false_or, iff_true]
  · have hlocal : IsLocal t.value → StartsBlocked t := fun h =>
      (starts_of_isLocal t h).elim (.inr ∘ .inl) (.inr ∘ .inr ∘ .inl)
    rw [toBlock_of_other hlow hm hnat]
    simp only [hlone, hnone, reduceCtorEq, false_and, exists_false, true_and, false_or]
    constructor
    · intro h
      by_cases hstart : StartsBlocked t
      · exact .inl (h.mp hstart)
      · exact .inr hstart
    · rintro (h | h)
      · exact ⟨fun _ => h, hlocal⟩
      · exact ⟨fun hstart => absurd hstart h, hlocal⟩

/-- **The filter is exact** on the spellings that tell, and on these alone; two spellings of one address
have one verdict exactly if both tell or neither does. -/
theorem webhook_filter_exact_iff (t : Spelling) :
    (((validateResolvedIp t.text).blocked = true ↔ ToBlock t.value) ↔ SpellingTold t) ∧
    (∀ u : Spelling, u.value = t.value →
      ((validateResolvedIp u.text).blocked = (validateResolvedIp t.text).blocked ↔
        (SpellingTold u ↔ SpellingTold t))) ∧
    (∀ q : Quad, (validateResolvedIp q.text).blocked = true ↔ InPrivateIPv4Ranges q.value) ∧
    (∀ ip, isIPv6 ip = true ↔ ∃ u : Spelling, u.text = ip) ∧
    ∀ ip, isIPv4 ip = true ↔ ∃ q : Quad, q.text = ip := by
  have ht := blocked_iff_toBlock_iff t
  refine ⟨ht, fun u hvalue => ?_, validateResolvedIp_quad, fun ip => ?_, fun ip => ?_⟩
  · have hu := blocked_iff_toBlock_iff u
    rw [hvalue] at hu
    rw [← ht, ← hu, Bool.eq_iff_iff]
    by_cases hblock : ToBlock t.value
    · simp only [hblock, iff_true]
    · simp only [hblock, iff_false, not_iff_not]
  · simp only [isIPv6_iff, Spelling.text, ← String.toList_inj, String.toList_ofList]
  · simp only [isIPv4_iff, Quad.text, ← String.toList_inj, String.toList_ofList]

/-- `::ffff:808:808`, as the URL parser writes `8.8.8.8` in IPv6. -/
def mappedPublic : Spelling where
  front := []
  back := some [⟨['f', 'f', 'f', 'f'], by decide, by decide⟩, ⟨['8', '0', '8'], by decide, by decide⟩,
    ⟨['8', '0', '8'], by decide, by decide⟩]
  dotted := none
  zone := none
  fits := by decide
  zoned := by decide

/-- A public receiver is blocked. -/
theorem mapped_public_blocked : ¬ ∀ t : Spelling,
    (validateResolvedIp t.text).blocked = true ↔ ToBlock t.value := by
  intro h
  have hblock := (h mappedPublic).mp (by decide +kernel)
  exact absurd hblock (by decide +kernel)

/-- And the loopback address `0:0:0:0:0:0:0:1` is let through. -/
example : (validateResolvedIp "0:0:0:0:0:0:0:1").blocked = false := by decide +kernel

end StellarEduPay

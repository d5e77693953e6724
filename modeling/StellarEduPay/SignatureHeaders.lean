import Mathlib.Data.Set.Function
import StellarEduPay.BufferText

/-! # Signature headers of webhooks (`services/webhookService.js`)

A delivery is signed with each active secret over its timestamp, its id and its body, with dots between
them, and the header carries the digests with commas between them. A receiver accepts it if one of them
is the digest under its own secret. Neither a timestamp nor an id holds a dot, so what is signed says
what each of the three parts is, whatever dots the body has.

The HMAC is a parameter, free of collisions on what is signed.
-/
namespace StellarEduPay
namespace SignatureV2

/-- `${timestamp}.${deliveryId}.${rawBody}` -/
def signingBase (timestamp deliveryId rawBody : String) : String :=
  timestamp ++ "." ++ deliveryId ++ "." ++ rawBody

section
variable (hmac : List UInt8 → List UInt8 → List UInt8)

/-- The digest before it is written in hexadecimal. -/
def digestV2 (timestamp deliveryId rawBody secret : String) : List UInt8 :=
  hmac (utf8Buffer secret) (utf8Buffer (signingBase timestamp deliveryId rawBody))

def generateSignatureV2 (timestamp deliveryId rawBody secret : String) : String :=
  hexText (digestV2 hmac timestamp deliveryId rawBody secret)

def verifySignatureV2 (timestamp deliveryId rawBody providedSignature secret : String) : Bool :=
  let expected := generateSignatureV2 hmac timestamp deliveryId rawBody secret
  let expectedBuf := hexBuffer expected.toList
  let actualBuf := hexBuffer providedSignature.toList
  if expectedBuf.length ≠ actualBuf.length then false else expectedBuf == actualBuf

/-- `secrets` may have a place without one. -/
def buildSignatureV2Header (timestamp deliveryId rawBody : String) (secrets : List (Option String)) :
    String :=
  ",".intercalate ((secrets.filterMap truthy).map fun s =>
    "sha256=" ++ generateSignatureV2 hmac timestamp deliveryId rawBody s)

/-- `headerValue.split(',')` -/
def splitComma (headerValue : String) : List String :=
  (headerValue.toList.splitOn ',').map String.ofList

/-- `v.startsWith('sha256=') ? v.slice(7) : v` -/
def withoutScheme (v : String) : String :=
  if "sha256=".toList.isPrefixOf v.toList then String.ofList (v.toList.drop 7) else v

def verifySignatureV2Header (timestamp deliveryId rawBody headerValue secret : String) : Bool :=
  if headerValue = "" ∨ secret = "" then false
  else
    (((splitComma headerValue).map jsTrim).filter fun v => v ≠ "").any fun v =>
      verifySignatureV2 hmac timestamp deliveryId rawBody (withoutScheme v) secret

end

/-! ## The base -/

/-- Up to the first dot two texts are the same, and behind it. -/
theorem append_dot_inj {a b r t : List Char} (ha : '.' ∉ a) (hb : '.' ∉ b)
    (h : a ++ '.' :: r = b ++ '.' :: t) : a = b ∧ r = t := by
  have hfront : ∀ {cs : List Char}, '.' ∉ cs → ∀ rest,
      (cs ++ '.' :: rest).takeWhile (fun c => decide (c ≠ '.')) = cs := by
    intro cs hcs rest
    rw [List.takeWhile_append_of_pos fun c hc => by
      simpa using fun hdot : c = '.' => hcs (hdot ▸ hc)]
    simp
  have hab : a = b := by rw [← hfront ha r, h, hfront hb t]
  subst hab
  exact ⟨rfl, (List.cons.inj (List.append_cancel_left h)).2⟩

/-- What is signed says what its parts are. -/
theorem signingBase_inj {ts id body ts' id' body' : String} (hts : '.' ∉ ts.toList)
    (hid : '.' ∉ id.toList) (hts' : '.' ∉ ts'.toList) (hid' : '.' ∉ id'.toList) :
    signingBase ts id body = signingBase ts' id' body' ↔ ts = ts' ∧ id = id' ∧ body = body' := by
  have hchars : ∀ a b c : String,
      (signingBase a b c).toList = a.toList ++ '.' :: (b.toList ++ '.' :: c.toList) := by
    intro a b c
    simp [signingBase, String.toList_append]
  constructor
  · intro h
    have hlist := congrArg String.toList h
    rw [hchars, hchars] at hlist
    obtain ⟨htimestamp, hrest⟩ := append_dot_inj hts hts' hlist
    obtain ⟨hdelivery, hbody⟩ := append_dot_inj hid hid' hrest
    exact ⟨String.toList_inj.mp htimestamp, String.toList_inj.mp hdelivery,
      String.toList_inj.mp hbody⟩
  · rintro ⟨rfl, rfl, rfl⟩
    rfl

/-! ## The header -/

section
variable {hmac : List UInt8 → List UInt8 → List UInt8} {ts id body secret : String}

theorem verifySignatureV2_hexText (digest : List UInt8) :
    verifySignatureV2 hmac ts id body (hexText digest) secret = true ↔
      digestV2 hmac ts id body secret = digest := by
  unfold verifySignatureV2 generateSignatureV2
  simp only [hexBuffer_hexText]
  split
  · rename_i hlength
    exact iff_of_false (by simp) fun heq => hlength (by rw [heq])
  · simp

/-- `sha256=` and the digest. -/
def schemeText (digest : List UInt8) : String := "sha256=" ++ hexText digest

/-- The value of a digest has neither a space nor a comma. -/
theorem mem_schemeText {digest : List UInt8} {c : Char} (h : c ∈ (schemeText digest).toList) :
    isJsSpace c = false ∧ c ≠ ',' := by
  have hscheme : ∀ c, c ∈ "sha256=".toList → isJsSpace c = false ∧ c ≠ ',' := by
    have hall : "sha256=".toList.all (fun c => !isJsSpace c && c != ',') = true := by decide
    intro c hc
    simpa using List.all_eq_true.mp hall c hc
  rw [schemeText, String.toList_append, List.mem_append] at h
  exact h.elim (hscheme c) fun hhex => (hexText_lower digest c hhex).2.2

theorem schemeText_ne (digest : List UInt8) : schemeText digest ≠ "" := by
  intro h
  have hlength := congrArg (·.toList.length) h
  simp [schemeText] at hlength

theorem withoutScheme_schemeText (digest : List UInt8) :
    withoutScheme (schemeText digest) = hexText digest := by
  have hstart : "sha256=".toList.isPrefixOf (schemeText digest).toList = true := by
    rw [schemeText, String.toList_append]
    exact List.isPrefixOf_iff_prefix.mpr (List.prefix_append _ _)
  rw [withoutScheme, if_pos hstart, schemeText, String.toList_append]
  exact String.ofList_toList

/-- The header is split into its values again. -/
theorem splitComma_header {digests : List (List UInt8)} (hne : digests ≠ []) :
    splitComma (",".intercalate (digests.map schemeText)) = digests.map schemeText := by
  have hcomma : ∀ cs ∈ (digests.map schemeText).map String.toList, ',' ∉ cs := by
    simp only [List.forall_mem_map]
    exact fun digest _ hmem => (mem_schemeText hmem).2 rfl
  have hcommaList : ",".toList = [','] := rfl
  rw [splitComma, String.toList_intercalate, hcommaList,
    List.splitOn_intercalate _ hcomma (by simpa using hne)]
  simp [Function.comp_def]

/-- A header is accepted when one of its digests is the receiver's. -/
theorem verifySignatureV2Header_iff (digests : List (List UInt8)) (hsecret : secret ≠ "") :
    verifySignatureV2Header hmac ts id body (",".intercalate (digests.map schemeText)) secret = true ↔
      digestV2 hmac ts id body secret ∈ digests := by
  by_cases hne : digests = []
  · subst hne
    simp [verifySignatureV2Header]
  · have htrim : (digests.map schemeText).map jsTrim = digests.map schemeText := by
      rw [List.map_map]
      exact List.map_congr_left fun digest _ => jsTrim_of_no_space fun c hc => (mem_schemeText hc).1
    have hheader : ",".intercalate (digests.map schemeText) ≠ "" := by
      intro hempty
      have hsplit := splitComma_header hne
      rw [hempty] at hsplit
      obtain ⟨digest, rest, rfl⟩ := List.exists_cons_of_ne_nil hne
      exact schemeText_ne digest (List.cons.inj hsplit).1.symm
    have hfull : (digests.map schemeText).filter (fun v => decide (v ≠ "")) = digests.map schemeText := by
      rw [List.filter_eq_self, List.forall_mem_map]
      exact fun digest _ => decide_eq_true (schemeText_ne digest)
    rw [verifySignatureV2Header, if_neg (by simp [hheader, hsecret]), splitComma_header hne, htrim,
      hfull]
    simp [withoutScheme_schemeText, verifySignatureV2_hexText, List.any_eq_true]

end

/-! ## Who accepts -/

/-- The keys and messages that a header is made and checked with. -/
def usedPairs (ts id body : String) (secrets : List (Option String)) (ts' id' body' secret : String) :
    Set (List UInt8 × List UInt8) :=
  {pair | pair = (utf8Buffer secret, utf8Buffer (signingBase ts' id' body')) ∨
    ∃ s, some s ∈ secrets ∧ pair = (utf8Buffer s, utf8Buffer (signingBase ts id body))}

/-- **A receiver accepts with its secret what was signed with it, and nothing else.** During an
overlap of secrets each receiver finds its own among the values of the header. -/
theorem signatureV2Header_accepted_iff (hmac : List UInt8 → List UInt8 → List UInt8)
    (ts id body : String) (secrets : List (Option String)) (ts' id' body' secret : String)
    (hsecret : secret ≠ "") (hts : '.' ∉ ts.toList) (hid : '.' ∉ id.toList) (hts' : '.' ∉ ts'.toList)
    (hid' : '.' ∉ id'.toList)
    (hideal : Set.InjOn hmac.uncurry (usedPairs ts id body secrets ts' id' body' secret)) :
    verifySignatureV2Header hmac ts' id' body' (buildSignatureV2Header hmac ts id body secrets)
        secret = true ↔
      some secret ∈ secrets ∧ ts = ts' ∧ id = id' ∧ body = body' := by
  have hheader : buildSignatureV2Header hmac ts id body secrets =
      ",".intercalate (((secrets.filterMap truthy).map (digestV2 hmac ts id body)).map schemeText) := by
    rw [List.map_map]
    rfl
  rw [hheader, verifySignatureV2Header_iff _ hsecret, List.mem_map, ← signingBase_inj hts hid hts' hid']
  constructor
  · rintro ⟨s, hs, hdigest⟩
    obtain ⟨entry, hentry, htruthy⟩ := List.mem_filterMap.mp hs
    obtain ⟨rfl, -⟩ := Option.filter_eq_some_iff.mp htruthy
    have hpair := hideal (.inr ⟨s, hentry, rfl⟩) (.inl rfl) hdigest
    rw [Prod.mk.injEq, utf8Buffer_inj, utf8Buffer_inj] at hpair
    obtain ⟨rfl, hbase⟩ := hpair
    exact ⟨hentry, hbase⟩
  · rintro ⟨hmem, hbase⟩
    refine ⟨secret, List.mem_filterMap.mpr ⟨_, hmem, truthy_of_ne hsecret⟩, ?_⟩
    rw [digestV2, digestV2, hbase]

/-- Under the old of two secrets, with a dot in the body. -/
theorem signatureV2Header_accepted_old :
    verifySignatureV2Header (fun key message => key ++ 0 :: message) "1710046800" "d-1" "[0.5]"
      (buildSignatureV2Header (fun key message => key ++ 0 :: message) "1710046800" "d-1" "[0.5]"
        [some "new", none, some "old"]) "old" = true := by
  refine (signatureV2Header_accepted_iff _ "1710046800" "d-1" "[0.5]" [some "new", none, some "old"]
    "1710046800" "d-1" "[0.5]" "old" (by decide) (by decide) (by decide) (by decide) (by decide)
    ?_).mpr ⟨by decide, rfl, rfl, rfl⟩
  -- the two secrets are of one length, so each digest says which of them it is under
  have hkeys : ∀ s, some s ∈ [some "new", none, some "old"] → (utf8Buffer s).length = 3 := by
    intro s hs
    simp only [List.mem_cons, Option.some_inj, List.not_mem_nil, or_false, reduceCtorEq,
      false_or] at hs
    rcases hs with rfl | rfl <;> decide
  have hlength : ∀ pair ∈ usedPairs "1710046800" "d-1" "[0.5]" [some "new", none, some "old"]
      "1710046800" "d-1" "[0.5]" "old", pair.1.length = 3 := by
    rintro pair (rfl | ⟨s, hs, rfl⟩)
    · decide
    · exact hkeys s hs
  intro pair hpair pair' hpair' heq
  obtain ⟨hkey, hmessage⟩ :=
    List.append_inj heq ((hlength pair hpair).trans (hlength pair' hpair').symm)
  exact Prod.ext hkey (List.cons.inj hmessage).2

end SignatureV2

end StellarEduPay

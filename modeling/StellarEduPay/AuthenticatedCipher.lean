import Mathlib.Data.Set.Function

/-! # Authenticated ciphers

A cipher turns a plaintext into a ciphertext of its length and a tag. What is stored is the nonce, the
ciphertext and the tag, one behind the other, and the lengths of nonce and tag tell where to cut. An
ideal cipher, on a set of keys, opens under a key what was sealed with it and nothing else. No cipher
with short tags is ideal on all keys, so the set is that of the keys in play.
-/
namespace AuthenticatedCipher

structure Cipher (κ β : Type*) (tagLength : Nat) where
  /-- Key, nonce and plaintext; the ciphertext and the tag. -/
  encrypt : κ → List β → List β → List β × List β
  /-- Key, nonce, ciphertext and tag; `none` where the tag does not fit. -/
  decrypt : κ → List β → List β → List β → Option (List β)
  length_ciphertext : ∀ key nonce plain, (encrypt key nonce plain).1.length = plain.length
  length_tag : ∀ key nonce plain, (encrypt key nonce plain).2.length = tagLength

variable {κ β : Type*} {tagLength : Nat}

namespace Cipher
variable (c : Cipher κ β tagLength)

/-- The nonce, the ciphertext and the tag. -/
def sealBytes (key : κ) (nonce plain : List β) : List β :=
  nonce ++ (c.encrypt key nonce plain).1 ++ (c.encrypt key nonce plain).2

/-- What was sealed is cut at the two lengths. -/
def openBytes (nonceLength : Nat) (key : κ) (blob : List β) : Option (List β) :=
  let nonce := blob.take nonceLength
  let tag := blob.drop (blob.length - tagLength)
  let ciphertext := (blob.take (blob.length - tagLength)).drop nonceLength
  c.decrypt key nonce ciphertext tag

structure IdealOn (K : Set κ) : Prop where
  /-- A key opens what it made. -/
  decrypt_eq_some_iff : ∀ key ∈ K, ∀ nonce ciphertext tag plain,
    c.decrypt key nonce ciphertext tag = some plain ↔ c.encrypt key nonce plain = (ciphertext, tag)
  /-- No two keys make the same. -/
  encrypt_ne : ∀ key ∈ K, ∀ other ∈ K, key ≠ other → ∀ nonce plain plain',
    c.encrypt key nonce plain ≠ c.encrypt other nonce plain'

variable {c} {K : Set κ} {key other : κ} {nonce : List β}

theorem length_sealBytes (plain : List β) :
    (c.sealBytes key nonce plain).length = nonce.length + plain.length + tagLength := by
  rw [sealBytes, List.length_append, List.length_append, c.length_ciphertext, c.length_tag]

/-- The parts of what was sealed are found again. -/
theorem openBytes_sealBytes {n : Nat} (hn : nonce.length = n) (plain : List β) :
    c.openBytes n other (c.sealBytes key nonce plain) =
      c.decrypt other nonce (c.encrypt key nonce plain).1 (c.encrypt key nonce plain).2 := by
  subst hn
  have hfront : (c.sealBytes key nonce plain).length - tagLength =
      (nonce ++ (c.encrypt key nonce plain).1).length := by
    rw [length_sealBytes, List.length_append, c.length_ciphertext, Nat.add_sub_cancel]
  have hnonce : (c.sealBytes key nonce plain).take nonce.length = nonce := by
    rw [sealBytes, List.append_assoc, List.take_left]
  rw [openBytes, hfront, hnonce]
  simp only [sealBytes, List.take_left, List.drop_left]

namespace IdealOn
variable {n : Nat}

theorem openBytes_self (h : c.IdealOn K) (hn : nonce.length = n) (hkey : key ∈ K) (plain : List β) :
    c.openBytes n key (c.sealBytes key nonce plain) = some plain := by
  rw [openBytes_sealBytes hn]
  exact (h.decrypt_eq_some_iff key hkey _ _ _ _).mpr rfl

theorem openBytes_other (h : c.IdealOn K) (hn : nonce.length = n) (hkey : key ∈ K)
    (hother : other ∈ K) (hne : key ≠ other) (plain : List β) :
    c.openBytes n other (c.sealBytes key nonce plain) = none := by
  rw [openBytes_sealBytes hn, Option.eq_none_iff_forall_ne_some]
  intro plain' hopened
  have hmade := (h.decrypt_eq_some_iff other hother _ _ _ _).mp hopened
  exact h.encrypt_ne key hkey other hother hne nonce plain plain' hmade.symm

/-- **Of several keys the one that sealed opens**, wherever it stands: no other does before it. -/
theorem findSome?_openBytes (h : c.IdealOn K) (hn : nonce.length = n) {keys : List κ}
    (hall : ∀ k ∈ keys, k ∈ K) (hkey : key ∈ keys) (plain : List β) :
    keys.findSome? (fun k => c.openBytes n k (c.sealBytes key nonce plain)) = some plain := by
  induction keys with
  | nil => cases hkey
  | cons k keys ih =>
    rw [List.forall_mem_cons] at hall
    rw [List.findSome?_cons]
    by_cases heq : key = k
    · subst heq
      rw [h.openBytes_self hn hall.1]
    · have hrest : key ∈ keys := (List.mem_cons.mp hkey).resolve_left heq
      rw [h.openBytes_other hn (hall.2 key hrest) hall.1 heq]
      exact ih hall.2 hrest

end IdealOn

/-! ## One that is ideal -/

/-- The tag is the key's, whatever the plaintext. Nobody should use it: it only shows that the
conditions can be met. -/
def ofTags [DecidableEq β] (tagOf : κ → List β) (h : ∀ key, (tagOf key).length = tagLength) :
    Cipher κ β tagLength where
  encrypt key _ plain := (plain, tagOf key)
  decrypt key _ ciphertext tag := if tag = tagOf key then some ciphertext else none
  length_ciphertext _ _ _ := rfl
  length_tag key _ _ := h key

theorem ofTags_idealOn [DecidableEq β] {tagOf : κ → List β} {h : ∀ key, (tagOf key).length = tagLength}
    (hinj : Set.InjOn tagOf K) : (ofTags tagOf h).IdealOn K where
  decrypt_eq_some_iff key _ _ ciphertext tag plain := by
    simp only [ofTags, Prod.mk.injEq]
    by_cases htag : tag = tagOf key
    · simp [htag, eq_comm]
    · simp [htag, Ne.symm htag]
  encrypt_ne key hkey other hother hne _ plain plain' := by
    simp only [ofTags, ne_eq, Prod.mk.injEq, not_and]
    exact fun _ heq => hne (hinj hkey hother heq)

end Cipher

end AuthenticatedCipher

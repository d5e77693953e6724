import Mathlib.Data.List.TakeWhile
import Mathlib.Tactic.Common

/-! # JSON texts

JSON values and the text of each, without spaces between the parts. A text tells where it ends:
wherever two texts are followed by something that cannot continue a number or a word, equal wholes
have equal values and equal remainders (`text_append_inj`). So a value can be read off its text, and
a text made of several can be taken apart. -/

namespace JsonText

/-- A character of a number or of `null`, `true` and `false`. -/
def isScalarChar (c : Char) : Bool := c.isAlphanum || c ∈ ['+', '-', '.']

/-- A finite number, by its decimal text. -/
structure Number where
  text : List Char
  ne_nil : text ≠ []
  chars : ∀ c ∈ text, c.isDigit ∨ c ∈ ['+', '-', '.', 'e']

inductive Scalar where
  | null
  | bool (b : Bool)
  | number (n : Number)

def Scalar.text : Scalar → List Char
  | .null => ['n', 'u', 'l', 'l']
  | .bool true => ['t', 'r', 'u', 'e']
  | .bool false => ['f', 'a', 'l', 's', 'e']
  | .number n => n.text

inductive Json where
  | scalar (s : Scalar)
  | string (s : String)
  | array (items : List Json)
  | object (members : List (String × Json))

/-- The characters with a short escape, with the letter of it. -/
def shortEscapes : List (Char × Char) :=
  [('"', '"'), ('\\', '\\'), ('\x08', 'b'), ('\t', 't'), ('\n', 'n'), ('\x0c', 'f'), ('\r', 'r')]

/-- A character inside quotes. -/
def escape (c : Char) : List Char :=
  match shortEscapes.lookup c with
  | some letter => ['\\', letter]
  | none =>
    if c.toNat < 32 then
      ['\\', 'u', '0', '0', Nat.digitChar (c.toNat / 16), Nat.digitChar (c.toNat % 16)]
    else [c]

/-- What follows the opening quote. -/
def quoted (s : List Char) : List Char := s.flatMap escape ++ ['"']

mutual

/-- `JSON.stringify` -/
def text : Json → List Char
  | .scalar s => s.text
  | .string s => '"' :: quoted s.toList
  | .array items => '[' :: itemsText true items
  | .object members => '{' :: membersText true members

/-- The items that are left, and the closing bracket. -/
def itemsText (first : Bool) : List Json → List Char
  | [] => [']']
  | item :: rest => (if first then [] else [',']) ++ text item ++ itemsText false rest

/-- The members that are left, and the closing brace. -/
def membersText (first : Bool) : List (String × Json) → List Char
  | [] => ['}']
  | (key, value) :: rest =>
    (if first then [] else [',']) ++ '"' :: quoted key.toList ++ ':' :: text value ++
      membersText false rest

end

/-! ## Strings -/

theorem shortEscapes_inj : ∀ p ∈ shortEscapes, ∀ q ∈ shortEscapes, p.2 = q.2 → p.1 = q.1 := by
  decide

theorem shortEscapes_ne : ∀ p ∈ shortEscapes, p.2 ≠ 'u' := by
  decide

theorem digitChar_inj : ∀ a < 16, ∀ b < 16, Nat.digitChar a = Nat.digitChar b → a = b := by
  decide

theorem mem_of_lookup {c letter : Char} {table : List (Char × Char)}
    (h : table.lookup c = some letter) : (c, letter) ∈ table := by
  induction table with
  | nil => cases h
  | cons p rest ih =>
    rw [List.lookup_cons] at h
    split at h
    · rename_i heq
      rw [beq_iff_eq] at heq
      rw [heq, ← Option.some.inj h]
      exact List.mem_cons_self
    · exact List.mem_cons_of_mem p (ih h)

/-- The three forms of a character inside quotes. -/
theorem escape_cases (c : Char) :
    (∃ letter, (c, letter) ∈ shortEscapes ∧ escape c = ['\\', letter]) ∨
      (c.toNat < 32 ∧ escape c = ['\\', 'u', '0', '0', Nat.digitChar (c.toNat / 16),
        Nat.digitChar (c.toNat % 16)]) ∨
      (c ≠ '"' ∧ c ≠ '\\' ∧ escape c = [c]) := by
  rw [escape]
  cases hfound : shortEscapes.lookup c with
  | some letter => exact .inl ⟨letter, mem_of_lookup hfound, rfl⟩
  | none =>
    dsimp only
    split
    · exact .inr (.inl ⟨‹_›, rfl⟩)
    · refine .inr (.inr ⟨?_, ?_, rfl⟩) <;> rintro rfl <;> cases hfound

/-- A character can be read off its form inside quotes. -/
theorem escape_append_inj {c d : Char} {r s : List Char} (h : escape c ++ r = escape d ++ s) :
    c = d ∧ r = s := by
  rcases escape_cases c with ⟨l, hl, hc⟩ | ⟨hlow, hc⟩ | ⟨-, hback, hc⟩ <;>
    rcases escape_cases d with ⟨m, hm, hd⟩ | ⟨hlow', hd⟩ | ⟨-, hback', hd⟩ <;>
    rw [hc, hd] at h <;> simp only [List.cons_append, List.nil_append, List.cons.injEq] at h
  · exact ⟨shortEscapes_inj _ hl _ hm h.2.1, h.2.2⟩
  · exact absurd h.2.1 (shortEscapes_ne _ hl)
  · exact absurd h.1.symm hback'
  · exact absurd h.2.1.symm (shortEscapes_ne _ hm)
  · have hhigh := digitChar_inj _ (by omega) _ (by omega) h.2.2.2.2.1
    have hunits := digitChar_inj _ (by omega) _ (by omega) h.2.2.2.2.2.1
    exact ⟨Char.toNat_inj.mp (by omega), h.2.2.2.2.2.2⟩
  · exact absurd h.1.symm hback'
  · exact absurd h.1 hback
  · exact absurd h.1 hback
  · exact h

/-- A quote inside quotes is never bare. -/
theorem escape_append_ne {c : Char} {r s : List Char} : escape c ++ r ≠ '"' :: s := by
  intro h
  rcases escape_cases c with ⟨l, -, hc⟩ | ⟨-, hc⟩ | ⟨hquote, -, hc⟩ <;>
    rw [hc] at h <;> simp only [List.cons_append, List.nil_append, List.cons.injEq] at h
  · exact absurd h.1 (by decide)
  · exact absurd h.1 (by decide)
  · exact hquote h.1

theorem quoted_append_inj {s t r u : List Char} (h : quoted s ++ r = quoted t ++ u) :
    s = t ∧ r = u := by
  simp only [quoted, List.append_assoc, List.singleton_append] at h
  induction s generalizing t with
  | nil =>
    cases t with
    | nil => exact ⟨rfl, (List.cons.inj h).2⟩
    | cons d t =>
      rw [List.flatMap_nil, List.nil_append, List.flatMap_cons, List.append_assoc] at h
      exact absurd h.symm escape_append_ne
  | cons c s ih =>
    cases t with
    | nil =>
      rw [List.flatMap_nil, List.nil_append, List.flatMap_cons, List.append_assoc] at h
      exact absurd h escape_append_ne
    | cons d t =>
      rw [List.flatMap_cons, List.flatMap_cons, List.append_assoc, List.append_assoc] at h
      obtain ⟨rfl, hrest⟩ := escape_append_inj h
      obtain ⟨rfl, hremainder⟩ := ih hrest
      exact ⟨rfl, hremainder⟩

/-! ## Scalars -/

/-- What comes next does not continue a scalar. -/
def Stops (r : List Char) : Prop := ∀ c ∈ r.head?, isScalarChar c = false

theorem stops_nil : Stops [] := fun _ h => nomatch h

theorem stops_cons {c : Char} {r : List Char} (h : isScalarChar c = false) : Stops (c :: r) := by
  rintro _ ⟨⟩
  exact h

theorem Number.isScalarChar (n : Number) : ∀ c ∈ n.text, isScalarChar c = true := by
  intro c hc
  rw [JsonText.isScalarChar]
  rcases n.chars c hc with hdigit | hother
  · rw [Char.isAlphanum, hdigit, Bool.or_true, Bool.true_or]
  · simp only [List.mem_cons, List.not_mem_nil, or_false] at hother
    rcases hother with rfl | rfl | rfl | rfl <;> rfl

theorem Scalar.isScalarChar (s : Scalar) : ∀ c ∈ s.text, isScalarChar c = true := by
  cases s with
  | null => exact List.all_eq_true.mp (by decide)
  | bool b => cases b <;> exact List.all_eq_true.mp (by decide)
  | number n => exact n.isScalarChar

theorem Scalar.text_ne_nil (s : Scalar) : s.text ≠ [] := by
  cases s with
  | null => decide
  | bool b => cases b <;> decide
  | number n => exact n.ne_nil

theorem Number.head_ne {n : Number} {c : Char} {r : List Char} (h : n.text = c :: r) :
    c ≠ 'n' ∧ c ≠ 't' ∧ c ≠ 'f' := by
  have hc := n.chars c (h ▸ List.mem_cons_self)
  refine ⟨?_, ?_, ?_⟩ <;> rintro rfl <;> revert hc <;> decide

theorem Number.ext_text {n m : Number} (h : n.text = m.text) : n = m := by
  cases n
  cases m
  cases h
  rfl

theorem Scalar.text_inj {s t : Scalar} (h : s.text = t.text) : s = t := by
  have hnumber : ∀ (n : Number) (u : Scalar), n.text = u.text → .number n = u := by
    intro n u hu
    cases u with
    | null => exact absurd rfl (Number.head_ne hu).1
    | bool b =>
      cases b with
      | true => exact absurd rfl (Number.head_ne hu).2.1
      | false => exact absurd rfl (Number.head_ne hu).2.2
    | number m => rw [Number.ext_text hu]
  cases s with
  | number n => exact hnumber n t h
  | null =>
    cases t with
    | null => rfl
    | bool b => cases b <;> cases h
    | number m => exact (hnumber m _ h.symm).symm
  | bool b =>
    cases t with
    | null => cases b <;> cases h
    | bool c => cases b <;> cases c <;> first | rfl | cases h
    | number m => exact (hnumber m _ h.symm).symm

/-- Where two scalars end, their texts do. -/
theorem Scalar.text_append_inj {s t : Scalar} {r u : List Char} (hr : Stops r) (hu : Stops u)
    (h : s.text ++ r = t.text ++ u) : s = t ∧ r = u := by
  have htake : ∀ (s : Scalar) {r : List Char}, Stops r →
      (s.text ++ r).takeWhile JsonText.isScalarChar = s.text := by
    intro s r hr
    rw [List.takeWhile_append_of_pos s.isScalarChar]
    cases r with
    | nil => exact List.append_nil _
    | cons c r =>
      rw [List.takeWhile_cons_of_neg (by rw [hr c rfl]; exact Bool.false_ne_true),
        List.append_nil]
  have hsame : s.text = t.text := by rw [← htake s hr, h, htake t hu]
  exact ⟨text_inj hsame, List.append_cancel_left (hsame ▸ h)⟩

/-- A scalar does not begin as the other values do. -/
theorem Scalar.text_append_ne {s : Scalar} {c : Char} {r u : List Char}
    (hc : JsonText.isScalarChar c = false) : s.text ++ r ≠ c :: u := by
  intro h
  cases htext : s.text with
  | nil => exact s.text_ne_nil htext
  | cons d rest =>
    rw [htext, List.cons_append] at h
    have hd := s.isScalarChar d (htext ▸ List.mem_cons_self)
    rw [(List.cons.inj h).1, hc] at hd
    cases hd

/-! ## Values -/

/-- What a value is followed by, inside another. -/
theorem stops_itemsText (items : List Json) (r : List Char) :
    Stops (itemsText false items ++ r) := by
  cases items <;> rw [itemsText] <;> exact stops_cons rfl

theorem stops_membersText (members : List (String × Json)) (r : List Char) :
    Stops (membersText false members ++ r) := by
  cases members <;> rw [membersText] <;> exact stops_cons rfl

/-- No value begins with the bracket that closes an array. -/
theorem text_append_ne {v : Json} {r s : List Char} : text v ++ r ≠ ']' :: s := by
  intro h
  cases v with
  | scalar x => exact Scalar.text_append_ne rfl h
  | string x => exact absurd (List.cons.inj h).1 (by decide)
  | array items => exact absurd (List.cons.inj h).1 (by decide)
  | object members => exact absurd (List.cons.inj h).1 (by decide)

mutual

/-- **A value can be read off its text**, whatever follows that does not continue it. -/
theorem text_append_inj : ∀ (v w : Json) {r s : List Char}, Stops r → Stops s →
    text v ++ r = text w ++ s → v = w ∧ r = s
  | .scalar x, w, r, s, hr, hs, h => by
    cases w with
    | scalar y =>
      obtain ⟨rfl, hrest⟩ := Scalar.text_append_inj hr hs h
      exact ⟨rfl, hrest⟩
    | string _ => exact absurd h (Scalar.text_append_ne rfl)
    | array _ => exact absurd h (Scalar.text_append_ne rfl)
    | object _ => exact absurd h (Scalar.text_append_ne rfl)
  | .string x, w, r, s, hr, hs, h => by
    cases w with
    | scalar _ => exact absurd h.symm (Scalar.text_append_ne rfl)
    | string y =>
      obtain ⟨hxy, hrest⟩ := quoted_append_inj (List.cons.inj h).2
      exact ⟨congrArg Json.string (String.toList_inj.mp hxy), hrest⟩
    | array _ => exact absurd (List.cons.inj h).1 (by decide)
    | object _ => exact absurd (List.cons.inj h).1 (by decide)
  | .array items, w, r, s, hr, hs, h => by
    cases w with
    | scalar _ => exact absurd h.symm (Scalar.text_append_ne rfl)
    | string _ => exact absurd (List.cons.inj h).1 (by decide)
    | array items' =>
      obtain ⟨hitems, hrest⟩ := itemsText_append_inj true items items' (List.cons.inj h).2
      exact ⟨congrArg Json.array hitems, hrest⟩
    | object _ => exact absurd (List.cons.inj h).1 (by decide)
  | .object members, w, r, s, hr, hs, h => by
    cases w with
    | scalar _ => exact absurd h.symm (Scalar.text_append_ne rfl)
    | string _ => exact absurd (List.cons.inj h).1 (by decide)
    | array _ => exact absurd (List.cons.inj h).1 (by decide)
    | object members' =>
      obtain ⟨hmembers, hrest⟩ := membersText_append_inj true members members' (List.cons.inj h).2
      exact ⟨congrArg Json.object hmembers, hrest⟩

theorem itemsText_append_inj (first : Bool) : ∀ (xs ys : List Json) {r s : List Char},
    itemsText first xs ++ r = itemsText first ys ++ s → xs = ys ∧ r = s
  | [], [], r, s, h => ⟨rfl, (List.cons.inj h).2⟩
  | [], y :: ys, r, s, h => by
    cases first with
    | false => exact absurd (List.cons.inj h).1 (by decide)
    | true =>
      simp only [itemsText, List.append_assoc] at h
      exact absurd h.symm text_append_ne
  | x :: xs, [], r, s, h => by
    cases first with
    | false => exact absurd (List.cons.inj h).1 (by decide)
    | true =>
      simp only [itemsText, List.append_assoc] at h
      exact absurd h text_append_ne
  | x :: xs, y :: ys, r, s, h => by
    simp only [itemsText, List.append_assoc, List.append_cancel_left_eq] at h
    obtain ⟨rfl, hrest⟩ := text_append_inj x y (stops_itemsText xs r) (stops_itemsText ys s) h
    obtain ⟨rfl, hremainder⟩ := itemsText_append_inj false xs ys hrest
    exact ⟨rfl, hremainder⟩

theorem membersText_append_inj (first : Bool) : ∀ (xs ys : List (String × Json)) {r s : List Char},
    membersText first xs ++ r = membersText first ys ++ s → xs = ys ∧ r = s
  | [], [], r, s, h => ⟨rfl, (List.cons.inj h).2⟩
  | [], (l, y) :: ys, r, s, h => by
    cases first <;> exact absurd (List.cons.inj h).1 (by decide)
  | (k, x) :: xs, [], r, s, h => by
    cases first <;> exact absurd (List.cons.inj h).1 (by decide)
  | (k, x) :: xs, (l, y) :: ys, r, s, h => by
    simp only [membersText, List.append_assoc, List.append_cancel_left_eq, List.cons_append,
      List.cons.injEq, true_and] at h
    obtain ⟨hkey, hvalue⟩ := quoted_append_inj h
    obtain rfl := String.toList_inj.mp hkey
    obtain ⟨rfl, hrest⟩ := text_append_inj x y (stops_membersText xs r) (stops_membersText ys s)
      (List.cons.inj hvalue).2
    obtain ⟨rfl, hremainder⟩ := membersText_append_inj false xs ys hrest
    exact ⟨rfl, hremainder⟩

end

theorem text_injective : Function.Injective text := by
  intro v w h
  exact (text_append_inj v w stops_nil stops_nil (by rw [h])).1

end JsonText

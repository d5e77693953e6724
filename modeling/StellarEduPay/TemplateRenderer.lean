import StellarEduPay.TextReplace

/-! # E-mail templates

`renderTemplate` first decides the conditionals of a template and then puts the values in the
placeholders of what is left. Both steps are a global replacement by a regular expression. `Template` is
what an author of a template means. For every template so written the two passes give its meaning under
every assignment of values: no value is read as a placeholder or as a conditional
(`renderTemplate_source`). For any template text at all, the HTML rendering takes the markup characters
from the text and from the values that the text puts in raw (`renderTemplate_markup`).
-/
namespace StellarEduPay
namespace TemplateRenderer

open TextReplace

/-- A value that is not nullish: what an `if` makes of it and its text. -/
structure Value where
  truthy : Bool
  text : List Char

/-- `vars[key]`, `none` where it is nullish. -/
abbrev Vars := List Char → Option Value

def Vars.truthy (vars : Vars) (key : List Char) : Bool := (vars key).any (·.truthy)

def Vars.value (vars : Vars) (key : List Char) : List Char := ((vars key).map (·.text)).getD []

/-! ## `escapeHtml` -/

/-- `.replace(/c/g, text)` -/
def replaceChar (c : Char) (text : String) (s : List Char) : List Char :=
  s.flatMap fun d => if d = c then text.toList else [d]

def escapeHtml (value : List Char) : List Char :=
  replaceChar '\'' "&#x27;" (replaceChar '"' "&quot;" (replaceChar '>' "&gt;"
    (replaceChar '<' "&lt;" (replaceChar '&' "&amp;" value))))

/-- The characters that end a text, a tag or a quoted attribute. -/
def isMarkup (c : Char) : Bool := c = '<' || c = '>' || c = '"' || c = '\''

/-! ## `renderTemplate` -/

/-- `\w` -/
def isWordChar (c : Char) : Bool := c.isAlphanum || c = '_'

/-! The braces of the two expressions. -/

def opening : List Char := ['{', '{']

def closing : List Char := ['}', '}']

def rawOpening : List Char := '{' :: opening

def rawClosing : List Char := '}' :: closing

def ifOpening : List Char := opening ++ ['#', 'i', 'f', ' ']

def endIf : List Char := opening ++ ['/', 'i', 'f'] ++ closing

/-- `opening(\w+)closing` at the start of a text, where `closing` starts with no word character: the
word and what follows. -/
def matchWord (opening closing s : List Char) : Option (List Char × List Char) := do
  let rest ← s.dropPrefix? opening
  let key := rest.takeWhile isWordChar
  if key = [] then none
  let after ← (rest.dropWhile isWordChar).dropPrefix? closing
  return (key, after)

/-- The conditional that begins a text: its key, what it holds and what follows it. -/
def matchConditional (s : List Char) : Option ((List Char × List Char) × List Char) := do
  let (key, body) ← matchWord ifOpening closing s
  let (inner, rest) ← upTo endIf body
  return ((key, inner), rest)

/-- `rawKey` and `key` of the callback. -/
inductive Placeholder where
  | raw (key : List Char)
  | escaped (key : List Char)
  deriving DecidableEq

def matchPlaceholder (s : List Char) : Option (Placeholder × List Char) :=
  match matchWord rawOpening rawClosing s with
  | some (key, rest) => some (.raw key, rest)
  | none => (matchWord opening closing s).map fun p => (.escaped p.1, p.2)

def withConditionals (template : List Char) (vars : Vars) : List Char :=
  replaceAll matchConditional (fun p => if vars.truthy p.1 then p.2 else []) 0 template

def substitute (vars : Vars) (escape : Bool) : Placeholder → List Char
  | .raw key => vars.value key
  | .escaped key => if escape then escapeHtml (vars.value key) else vars.value key

def renderTemplate (template : List Char) (vars : Vars) (escape : Bool) : List Char :=
  replaceAll matchPlaceholder (substitute vars escape) 0 (withConditionals template vars)

/-! ## Templates and their meaning -/

/-- A name that a placeholder or a conditional can have. -/
structure Key where
  name : List Char
  nonempty : name ≠ []
  word : ∀ c ∈ name, isWordChar c

/-- No two braces open in a row, and none at the end, where the next part could follow it up. -/
def plain : List Char → Bool
  | [] => true
  | [c] => c ≠ '{'
  | c :: d :: s => !(c = '{' && d = '{') && plain (d :: s)

inductive Piece where
  | text (s : List Char) (plain : plain s)
  | placeholder (raw : Bool) (key : Key)

/-- The inside of a conditional has no conditional: the first `{{/if}}` ends it. -/
inductive Block where
  | piece (p : Piece)
  | conditional (key : Key) (inner : List Piece)

abbrev Template := List Block

namespace Piece

def source : Piece → List Char
  | text s _ => s
  | placeholder true key =>
    rawOpening ++ (key.name ++ rawClosing)
  | placeholder false key => opening ++ (key.name ++ closing)

def meaning (vars : Vars) (escape : Bool) : Piece → List Char
  | text s _ => s
  | placeholder true key => vars.value key.name
  | placeholder false key =>
    if escape then escapeHtml (vars.value key.name) else vars.value key.name

end Piece

namespace Block

def source : Block → List Char
  | piece p => p.source
  | conditional key inner =>
    ifOpening ++ (key.name ++ (closing ++
      (inner.flatMap Piece.source ++ endIf)))

/-- The pieces of a block that an assignment shows. -/
def shown (vars : Vars) : Block → List Piece
  | piece p => [p]
  | conditional key inner => if vars.truthy key.name then inner else []

end Block

namespace Template

def source (template : Template) : List Char := template.flatMap Block.source

def meaning (template : Template) (vars : Vars) (escape : Bool) : List Char :=
  (template.flatMap (Block.shown vars)).flatMap (Piece.meaning vars escape)

end Template

/-! ## Where a match can begin -/

def DoubleBrace (s : List Char) : Prop := ∃ t, s = '{' :: '{' :: t

/-- The beginning or the end of a conditional. -/
def Tag (s : List Char) : Prop := ∃ c t, s = '{' :: '{' :: c :: t ∧ (c = '#' ∨ c = '/')

theorem Tag.doubleBrace {s : List Char} (h : Tag s) : DoubleBrace s :=
  have ⟨c, t, hs, _⟩ := h
  ⟨c :: t, hs⟩

theorem matchWord_isSome {opening closing s : List Char}
    (h : (matchWord opening closing s).isSome) : ∃ t, s = opening ++ t := by
  cases hs : s.dropPrefix? opening with
  | none => simp [matchWord, hs] at h
  | some t => exact ⟨t, dropPrefix?_eq_some.mp hs⟩

theorem matchPlaceholder_isSome {s : List Char} (h : (matchPlaceholder s).isSome) :
    DoubleBrace s := by
  unfold matchPlaceholder at h
  cases hraw : matchWord rawOpening rawClosing s with
  | some p =>
    obtain ⟨t, rfl⟩ := matchWord_isSome (by rw [hraw]; rfl)
    exact ⟨_, rfl⟩
  | none =>
    rw [hraw] at h
    obtain ⟨t, rfl⟩ := matchWord_isSome (by simpa using h)
    exact ⟨_, rfl⟩

theorem matchConditional_isSome {s : List Char} (h : (matchConditional s).isSome) : Tag s := by
  cases hs : matchWord ifOpening closing s with
  | none => simp [matchConditional, hs] at h
  | some p =>
    obtain ⟨t, rfl⟩ := matchWord_isSome (by rw [hs]; rfl)
    exact ⟨'#', _, rfl, .inl rfl⟩

theorem endIf_isSome {s : List Char}
    (h : (s.dropPrefix? endIf).isSome) : Tag s := by
  obtain ⟨t, ht⟩ := Option.isSome_iff_exists.mp h
  rw [dropPrefix?_eq_some] at ht
  subst ht
  exact ⟨'/', _, rfl, .inr rfl⟩

theorem avoids_plain {s v : List Char} (h : plain s) : Avoids DoubleBrace v s := by
  induction s using plain.induct with
  | case1 => trivial
  | case2 c =>
    refine ⟨fun ⟨t, ht⟩ => ?_, trivial⟩
    simp_all [plain]
  | case3 c d s ih =>
    simp only [plain, Bool.and_eq_true] at h
    refine ⟨fun ⟨t, ht⟩ => ?_, ih h.2⟩
    simp_all

namespace Key

theorem notMem_brace (key : Key) : '{' ∉ key.name := fun h => by
  have := key.word _ h
  exact absurd this (by decide)

end Key

theorem closing_notMem_brace (key : Key) (n : Nat) :
    '{' ∉ key.name ++ List.replicate n '}' := by
  simp [key.notMem_brace, List.mem_replicate]

/-- Neither end of a conditional begins within a piece, whatever follows. -/
theorem Piece.avoids_tag (p : Piece) (v : List Char) : Avoids Tag v p.source := by
  cases p with
  | text s hs => exact (avoids_plain hs).mono fun _ => Tag.doubleBrace
  | placeholder raw key =>
    obtain ⟨k, ks, hk⟩ := List.exists_cons_of_ne_nil key.nonempty
    have hkw : isWordChar k := key.word k (by rw [hk]; exact List.mem_cons_self ..)
    have hbrace : k ≠ '{' := fun h => absurd (h ▸ hkw) (by decide)
    have htag : k ≠ '#' ∧ k ≠ '/' :=
      ⟨fun h => absurd (h ▸ hkw) (by decide), fun h => absurd (h ▸ hkw) (by decide)⟩
    have hfree (n : Nat) : Avoids Tag v (key.name ++ List.replicate n '}') :=
      avoids_of_notMem (fun _ ⟨_, _, hs, _⟩ => hs ▸ rfl) (closing_notMem_brace key n)
    cases raw with
    | true =>
      refine ⟨?_, ?_, ?_, hfree 3⟩ <;> (rintro ⟨_, t, hs, rfl | rfl⟩ <;> simp_all [opening])
    | false =>
      refine ⟨?_, ?_, hfree 2⟩ <;> (rintro ⟨_, t, hs, rfl | rfl⟩ <;> simp_all)

theorem avoids_tag (ps : List Piece) (v : List Char) : Avoids Tag v (ps.flatMap Piece.source) := by
  induction ps generalizing v with
  | nil => trivial
  | cons p ps ih =>
    rw [List.flatMap_cons, avoids_append]
    exact ⟨p.avoids_tag _, ih v⟩

/-! ## Matches in the text of a template -/

theorem matchWord_key {opening closing : List Char} {d : Char} {ds : List Char} (key : Key)
    (hclosing : closing = d :: ds) (hd : isWordChar d = false) (v : List Char) :
    matchWord opening closing (opening ++ (key.name ++ (closing ++ v))) =
      some (key.name, v) := by
  have hopen := dropPrefix?_eq_some.mpr
    (rfl : opening ++ (key.name ++ (closing ++ v)) = _)
  have htake : (key.name ++ (closing ++ v)).takeWhile isWordChar = key.name := by
    rw [List.takeWhile_append_of_pos key.word, hclosing, List.cons_append,
      List.takeWhile_cons_of_neg (by simp [hd]), List.append_nil]
  have hdrop : (key.name ++ (closing ++ v)).dropWhile isWordChar = closing ++ v := by
    rw [List.dropWhile_append_of_pos key.word, hclosing, List.cons_append,
      List.dropWhile_cons_of_neg (by simp [hd])]
  have hclose := dropPrefix?_eq_some.mpr (rfl : closing ++ v = _)
  simp only [matchWord, hopen, htake, hdrop, hclose, key.nonempty, Option.bind_eq_bind,
    Option.bind_some, if_false]
  rfl

theorem matchConditional_source (key : Key) (inner : List Piece) (v : List Char) :
    matchConditional ((Block.conditional key inner).source ++ v) =
      some ((key.name, inner.flatMap Piece.source), v) := by
  have hword := @matchWord_key ifOpening closing '}' _ key rfl (by decide)
    (inner.flatMap Piece.source ++ (endIf ++ v))
  have hinner := upTo_append (dropPrefix?_eq_some.mpr rfl) (by simp [endIf])
    ((avoids_tag inner (endIf ++ v)).mono fun _ => endIf_isSome)
  simp only [Block.source, List.append_assoc, matchConditional, hword, Option.bind_eq_bind,
    Option.bind_some, hinner]
  rfl

theorem matchPlaceholder_source (raw : Bool) (key : Key) (v : List Char) :
    matchPlaceholder ((Piece.placeholder raw key).source ++ v) =
      some (if raw then .raw key.name else .escaped key.name, v) := by
  cases raw with
  | true =>
    have hword := @matchWord_key rawOpening rawClosing '}' _ key rfl (by decide) v
    simp [Piece.source, matchPlaceholder, hword]
  | false =>
    -- The first alternative fails: the key begins with no third brace.
    obtain ⟨k, ks, hk⟩ := List.exists_cons_of_ne_nil key.nonempty
    have hbrace : k ≠ '{' := fun h => key.notMem_brace (by simp [hk, h])
    have hraw : matchWord rawOpening rawClosing (opening ++ (key.name ++ (closing ++ v))) = none := by
      refine Option.not_isSome_iff_eq_none.mp fun h => ?_
      obtain ⟨t, ht⟩ := matchWord_isSome h
      simp_all [rawOpening, opening]
    have hword := @matchWord_key opening closing '}' _ key rfl (by decide) v
    simp [Piece.source, matchPlaceholder, hraw, hword]

/-! ## The meaning of a template -/

/-- The first pass leaves the pieces shown. -/
theorem withConditionals_source (template : Template) (vars : Vars) :
    withConditionals template.source vars =
      (template.flatMap (Block.shown vars)).flatMap Piece.source := by
  unfold withConditionals
  induction template with
  | nil => rfl
  | cons b template ih =>
    rw [Template.source, List.flatMap_cons, ← Template.source, List.flatMap_cons,
      List.flatMap_append]
    cases b with
    | piece p =>
      rw [Block.source, replaceAll_avoids ((p.avoids_tag _).mono fun _ => matchConditional_isSome), ih]
      simp [Block.shown]
    | conditional key inner =>
      rw [replaceAll_match (by simp [Block.source, ifOpening, opening])
        (matchConditional_source key inner _), ih]
      by_cases hshown : vars.truthy key.name <;> simp [Block.shown, hshown]

/-- The second pass gives each piece its meaning. -/
theorem replaceAll_pieces (pieces : List Piece) (vars : Vars) (escape : Bool) :
    replaceAll matchPlaceholder (substitute vars escape) 0 (pieces.flatMap Piece.source) =
      pieces.flatMap (Piece.meaning vars escape) := by
  induction pieces with
  | nil => rfl
  | cons p pieces ih =>
    rw [List.flatMap_cons, List.flatMap_cons]
    cases p with
    | text s hs =>
      rw [Piece.source, replaceAll_avoids ((avoids_plain hs).mono fun _ => matchPlaceholder_isSome), ih]
      rfl
    | placeholder raw key =>
      have hne : (Piece.placeholder raw key).source ≠ [] := by
        cases raw <;> simp [Piece.source, opening, rawOpening]
      rw [replaceAll_match hne (matchPlaceholder_source raw key _), ih]
      cases raw <;> rfl

/-- The two passes over the text of a template are its meaning, whatever the values are. -/
theorem renderTemplate_source (template : Template) (vars : Vars) (escape : Bool) :
    renderTemplate template.source vars escape = template.meaning vars escape := by
  rw [renderTemplate, withConditionals_source, replaceAll_pieces, Template.meaning]

/-! ## Markup -/

def escapeChar (c : Char) : List Char :=
  if c = '&' then "&amp;".toList
  else if c = '<' then "&lt;".toList
  else if c = '>' then "&gt;".toList
  else if c = '"' then "&quot;".toList
  else if c = '\'' then "&#x27;".toList
  else [c]

theorem replaceChar_notMem {c : Char} {text : String} {s : List Char} (h : c ∉ s) :
    replaceChar c text s = s := by
  induction s with
  | nil => rfl
  | cons d s ih =>
    simp only [List.mem_cons, not_or] at h
    have hd : d ≠ c := Ne.symm h.1
    rw [replaceChar, List.flatMap_cons, if_neg hd, ← replaceChar, ih h.2, List.singleton_append]

theorem escapeHtml_singleton (c : Char) : escapeHtml [c] = escapeChar c := by
  unfold escapeChar
  split_ifs with hamp hlt hgt hquot hapos
  · subst hamp; decide
  · subst hlt; decide
  · subst hgt; decide
  · subst hquot; decide
  · subst hapos; decide
  · have hne {d : Char} (h : ¬ c = d) : d ∉ [c] := by simpa using Ne.symm h
    simp only [escapeHtml, replaceChar_notMem, hne, hamp, hlt, hgt, hquot, hapos, not_false_eq_true]

/-- The five replacements one after the other touch no entity of an earlier one. -/
theorem escapeHtml_eq (value : List Char) : escapeHtml value = value.flatMap escapeChar := by
  have hchar : escapeChar = fun c => escapeHtml [c] := funext fun c => (escapeHtml_singleton c).symm
  simp only [hchar, escapeHtml, replaceChar, List.flatMap_assoc, List.flatMap_singleton]

theorem escapeChar_markup (c : Char) : (escapeChar c).filter isMarkup = [] := by
  unfold escapeChar
  split_ifs with hamp hlt hgt hquot hapos
  iterate 5 decide
  simp [isMarkup, hlt, hgt, hquot, hapos]

theorem escapeHtml_markup (value : List Char) : (escapeHtml value).filter isMarkup = [] := by
  rw [escapeHtml_eq, List.filter_flatMap]
  simp [escapeChar_markup]

/-- The placeholders of a template's text once its conditionals are decided. -/
def placeholders (template : List Char) (vars : Vars) : List Placeholder :=
  found matchPlaceholder 0 (withConditionals template vars)

/-- The conditionals of a template's text, each with its key and what it holds. -/
def conditionals (template : List Char) : List (List Char × List Char) :=
  found matchConditional 0 template

theorem withConditionals_congr {template : List Char} {vars vars' : Vars}
    (h : ∀ p ∈ conditionals template, vars.truthy p.1 = vars'.truthy p.1) :
    withConditionals template vars = withConditionals template vars' := by
  refine replaceAll_congr fun p hp => ?_
  rw [h p hp]

/-- Assignments that decide the conditionals alike and agree on what is put in raw give one markup. -/
theorem renderTemplate_markup {template : List Char} {vars vars' : Vars}
    (htruthy : ∀ p ∈ conditionals template, vars.truthy p.1 = vars'.truthy p.1)
    (hraw : ∀ key, .raw key ∈ placeholders template vars → vars.value key = vars'.value key) :
    (renderTemplate template vars true).filter isMarkup =
      (renderTemplate template vars' true).filter isMarkup := by
  unfold renderTemplate
  rw [← withConditionals_congr htruthy]
  refine filter_replaceAll_congr isMarkup fun p hp => ?_
  cases p with
  | raw key => rw [substitute, substitute, hraw key hp]
  | escaped key => simp only [substitute, if_true, escapeHtml_markup]

/-- An attribute whose value tries to close it, beside a raw value and under a conditional; the two
names are not truthy alike. -/
theorem renderTemplate_markup_attribute :
    let template := ("<a title=\"\x7b\x7bname\x7d\x7d\">\x7b\x7b#if more\x7d\x7d" ++
      "\x7b\x7b\x7bnote\x7d\x7d\x7d\x7b\x7b/if\x7d\x7d</a>").toList
    let vars (name : String) : Vars := fun key =>
      if key = "name".toList then some ⟨name ≠ "", name.toList⟩
      else if key = "more".toList then some ⟨true, []⟩
      else if key = "note".toList then some ⟨true, "<b>".toList⟩ else none
    (renderTemplate template (vars "\"><i>") true).filter isMarkup =
      (renderTemplate template (vars "") true).filter isMarkup := by
  intro template vars
  have hconditionals : conditionals template =
      [("more".toList, "\x7b\x7b\x7bnote\x7d\x7d\x7d".toList)] := by decide +kernel
  have hfound : placeholders template (vars "\"><i>") =
      [.escaped "name".toList, .raw "note".toList] := by decide +kernel
  refine renderTemplate_markup (fun p hp => ?_) fun key hkey => ?_
  · rw [hconditionals, List.mem_singleton] at hp
    subst hp
    rfl
  · rw [hfound] at hkey
    have hnote : key = "note".toList := by simpa using hkey
    subst hnote
    rfl

end TemplateRenderer
end StellarEduPay

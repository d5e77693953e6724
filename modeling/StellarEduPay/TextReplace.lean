import Mathlib.Data.List.Basic
import Mathlib.Tactic.Common

/-! # Replacing the matches in a text

A matcher says what matches at the start of a text and what the match leaves. The reader goes through the
text once. Where nothing matches it copies a character, and where there is a match it puts the replacement
and goes on after the match, so a replacement is never read. Which matches it finds is in `found`, which
knows nothing of the replacements: two ways to replace them differ in the matches alone
(`filter_replaceAll_congr`).
-/
namespace TextReplace

variable {α μ : Type*}

/-- `k` characters still belong to a match begun before. -/
def replaceAll (m : List α → Option (μ × List α)) (g : μ → List α) : Nat → List α → List α
  | _, [] => []
  | k + 1, _ :: s => replaceAll m g k s
  | 0, c :: s =>
    match m (c :: s) with
    | none => c :: replaceAll m g 0 s
    | some (x, rest) => g x ++ replaceAll m g (s.length - rest.length) s

/-- The matches in the order of the text. -/
def found (m : List α → Option (μ × List α)) : Nat → List α → List μ
  | _, [] => []
  | k + 1, _ :: s => found m k s
  | 0, c :: s =>
    match m (c :: s) with
    | none => found m 0 s
    | some (x, rest) => x :: found m (s.length - rest.length) s

/-- `P` holds at no place of `u` in the text `u ++ v`. -/
def Avoids (P : List α → Prop) (v : List α) : List α → Prop
  | [] => True
  | c :: u => ¬ P (c :: (u ++ v)) ∧ Avoids P v u

/-- The text up to the first place where `close` stands, and what follows it. -/
def upTo [BEq α] (close : List α) : List α → Option (List α × List α)
  | [] => none
  | c :: s =>
    match (c :: s).dropPrefix? close with
    | some rest => some ([], rest)
    | none => (upTo close s).map fun p => (c :: p.1, p.2)

section Avoids
variable {P Q : List α → Prop} {u u' v : List α}

theorem Avoids.mono (hPQ : ∀ s, Q s → P s) (h : Avoids P v u) : Avoids Q v u := by
  induction u with
  | nil => trivial
  | cons c u ih => exact ⟨fun hq => h.1 (hPQ _ hq), ih h.2⟩

theorem avoids_append : Avoids P v (u ++ u') ↔ Avoids P (u' ++ v) u ∧ Avoids P v u' := by
  induction u with
  | nil => simp [Avoids]
  | cons c u ih => simp [Avoids, ih, and_assoc]

/-- A place where `P` holds has a character that `u` lacks. -/
theorem avoids_of_notMem {c : α} (hP : ∀ s, P s → s.head? = some c) (h : c ∉ u) : Avoids P v u := by
  induction u with
  | nil => trivial
  | cons d u ih =>
    simp only [List.mem_cons, not_or] at h
    exact ⟨fun hp => h.1 (Option.some.inj (hP _ hp)).symm, ih h.2⟩

end Avoids

section Replace
variable {m : List α → Option (μ × List α)} {g : μ → List α} {u v : List α}

@[simp] theorem replaceAll_nil (k : Nat) : replaceAll m g k [] = [] := by
  cases k <;> rfl

theorem replaceAll_skip (u v : List α) : replaceAll m g u.length (u ++ v) = replaceAll m g 0 v := by
  induction u with
  | nil => rfl
  | cons c u ih => exact ih

theorem replaceAll_match {x : μ} (hu : u ≠ []) (h : m (u ++ v) = some (x, v)) :
    replaceAll m g 0 (u ++ v) = g x ++ replaceAll m g 0 v := by
  obtain ⟨c, t, rfl⟩ := List.exists_cons_of_ne_nil hu
  rw [List.cons_append] at h ⊢
  have hskip : (t ++ v).length - v.length = t.length := by simp
  rw [replaceAll, h]
  simp only [hskip, replaceAll_skip]

theorem replaceAll_avoids (h : Avoids (fun s => (m s).isSome) v u) :
    replaceAll m g 0 (u ++ v) = u ++ replaceAll m g 0 v := by
  induction u with
  | nil => rfl
  | cons c u ih =>
    have hnone : m (c :: (u ++ v)) = none := by simpa using h.1
    rw [List.cons_append, replaceAll, hnone]
    simp only [ih h.2, List.cons_append]

/-- Two ways to replace the matches, alike on what `p` keeps of every match found. -/
theorem filter_replaceAll_congr {g' : μ → List α} (p : α → Bool) {k : Nat} {s : List α}
    (h : ∀ x ∈ found m k s, (g x).filter p = (g' x).filter p) :
    (replaceAll m g k s).filter p = (replaceAll m g' k s).filter p := by
  induction s generalizing k with
  | nil => simp
  | cons c s ih =>
    cases k with
    | succ k => exact ih h
    | zero =>
      cases hm : m (c :: s) with
      | none =>
        simp only [found, hm] at h
        simp only [replaceAll, hm, List.filter_cons, ih h]
      | some r =>
        simp only [found, hm, List.forall_mem_cons] at h
        simp only [replaceAll, hm, List.filter_append, h.1, ih h.2]

theorem replaceAll_congr {g' : μ → List α} {k : Nat} {s : List α}
    (h : ∀ x ∈ found m k s, g x = g' x) : replaceAll m g k s = replaceAll m g' k s := by
  have hkept := filter_replaceAll_congr (fun _ => true)
    fun x hx => congrArg (List.filter fun _ => true) (h x hx)
  rwa [List.filter_true, List.filter_true] at hkept

end Replace

theorem dropPrefix?_eq_some [BEq α] [LawfulBEq α] {s l rest : List α} :
    s.dropPrefix? l = some rest ↔ s = l ++ rest := by
  simp [List.dropPrefix?_eq_some_iff]

theorem upTo_append [BEq α] {close u v rest : List α} (hclose : v.dropPrefix? close = some rest)
    (hv : v ≠ []) (h : Avoids (fun s => (s.dropPrefix? close).isSome) v u) :
    upTo close (u ++ v) = some (u, rest) := by
  induction u with
  | nil =>
    obtain ⟨d, t, rfl⟩ := List.exists_cons_of_ne_nil hv
    simp [upTo, hclose]
  | cons c u ih =>
    have hnone : (c :: (u ++ v)).dropPrefix? close = none := by simpa using h.1
    rw [List.cons_append, upTo, hnone, ih h.2]
    rfl

end TextReplace

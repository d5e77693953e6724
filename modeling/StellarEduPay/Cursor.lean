import Mathlib.Algebra.Order.Ring.Int
import Mathlib.Data.List.Pairwise

/-! # Cursors over an ordered history

A consumer reads a history of increasing tokens and keeps a cursor: the token it
has got to.  Resuming at the cursor skips nothing if everything up to it is done.
-/
namespace Cursors
variable {τ : Type} [LinearOrder τ] {history : List τ} {done done' : τ → Prop} {start c d : τ}

/-- Everything after `start` and up to `c` is done. -/
def Covered (history : List τ) (done : τ → Prop) (start c : τ) : Prop :=
  ∀ t ∈ history, start < t → t ≤ c → done t

theorem Covered.refl : Covered history done start start :=
  fun _ _ hlt hle => absurd hle (not_le.mpr hlt)

theorem Covered.mono (h : Covered history done start c) (hd : ∀ t, done t → done' t) :
    Covered history done' start c :=
  fun t ht hs hc => hd t (h t ht hs hc)

/-- A cursor may move on once what lies between is done. -/
theorem Covered.extend (h : Covered history done start c)
    (hbetween : ∀ t ∈ history, c < t → t ≤ d → done t) : Covered history done start d := by
  intro t ht hs hd
  rcases le_or_gt t c with hc | hc
  · exact h t ht hs hc
  · exact hbetween t ht hc hd

/-- What a history has after a cursor. -/
def after (history : List τ) (c : τ) : List τ := history.filter (c < ·)

theorem after_after (hcd : c ≤ d) : after (after history c) d = after history d := by
  simp only [after, List.filter_filter]
  refine List.filter_congr fun u _ => ?_
  by_cases hu : d < u
  · simp [hu, hcd.trans_lt hu]
  · simp [hu]

/-- Past the last token of a first part lies the other part. -/
theorem after_last {batch rest : List τ} {last : τ} (hasc : (batch ++ rest).Pairwise (· < ·))
    (hlast : batch.getLast? = some last) : after (batch ++ rest) last = rest := by
  obtain ⟨front, rfl⟩ := List.getLast?_eq_some_iff.mp hlast
  obtain ⟨hbatch, -, hbetween⟩ := List.pairwise_append.mp hasc
  obtain ⟨-, -, hfront⟩ := List.pairwise_append.mp hbatch
  have hbefore : after (front ++ [last]) last = [] := by
    refine List.filter_eq_nil_iff.mpr fun u hu => ?_
    rcases List.mem_append.mp hu with hu | hu
    · simpa using (hfront u hu last (by simp)).le
    · simp [List.mem_singleton.mp hu]
  have hrest : after rest last = rest :=
    List.filter_eq_self.mpr fun u hu => by simpa using hbetween last (by simp) u hu
  calc after (front ++ [last] ++ rest) last
      = after (front ++ [last]) last ++ after rest last := List.filter_append ..
    _ = rest := by rw [hbefore, hrest, List.nil_append]

/-- Past the next token lies the rest, and nothing lies before it. -/
theorem after_of_cons (hasc : history.Pairwise (· < ·)) {t : τ} {rest : List τ}
    (h : after history c = t :: rest) :
    after history t = rest ∧ c < t ∧ t ∈ history ∧ ∀ u ∈ history, c < u → u ≤ t → u = t := by
  have hmem : ∀ {u}, u ∈ t :: rest ↔ u ∈ history ∧ c < u := by
    intro u
    rw [← h]
    simp [after]
  obtain ⟨ht, hct⟩ := hmem.mp (List.mem_cons_self ..)
  have hsorted : (t :: rest).Pairwise (· < ·) := h ▸ hasc.filter _
  obtain ⟨hrest, -⟩ := List.pairwise_cons.mp hsorted
  refine ⟨?_, hct, ht, fun u hu hcu hut => ?_⟩
  · calc after history t = after ([t] ++ rest) t := by
          rw [← after_after hct.le, h, List.singleton_append]
      _ = rest := after_last hsorted rfl
  · rcases List.mem_cons.mp (hmem.mpr ⟨hu, hcu⟩) with rfl | hu
    · rfl
    · exact absurd hut (not_le.mpr (hrest u hu))

/-! ## From the newest down -/

/-- In a list that goes down, what lies below the last element of a first part is the other part. -/
theorem filter_below_last {α : Type} {key : α → τ} {batch rest : List α} {last : α}
    (hdesc : (batch ++ rest).Pairwise (key · > key ·)) (hlast : batch.getLast? = some last) :
    (batch ++ rest).filter (key · < key last) = rest := by
  obtain ⟨front, rfl⟩ := List.getLast?_eq_some_iff.mp hlast
  obtain ⟨hbatch, -, hbetween⟩ := List.pairwise_append.mp hdesc
  obtain ⟨-, -, hfront⟩ := List.pairwise_append.mp hbatch
  have habove : (front ++ [last]).filter (key · < key last) = [] := by
    refine List.filter_eq_nil_iff.mpr fun u hu => ?_
    rcases List.mem_append.mp hu with hu | hu
    · simpa using (hfront u hu last (by simp)).le
    · simp [List.mem_singleton.mp hu]
  have hrest : rest.filter (key · < key last) = rest :=
    List.filter_eq_self.mpr fun u hu => by simpa using hbetween last (by simp) u hu
  rw [List.filter_append, habove, hrest, List.nil_append]

end Cursors

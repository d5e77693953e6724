import Mathlib.Algebra.BigOperators.Group.List.Basic
import Mathlib.Data.List.Dedup

/-! # Sums by groups

An aggregation groups a list by a key, folds each group, and folds the groups.  `groupKeys`
are the keys that occur, each once, and `sum_groups` says that summing the sums of the groups
is summing the list.
-/
namespace Grouping
variable {α κ M : Type} [DecidableEq κ]

/-- The keys of a list, each once. -/
def groupKeys (key : α → κ) (l : List α) : List κ := (l.map key).dedup

/-- The elements of one key, in order. -/
def group (key : α → κ) (l : List α) (k : κ) : List α := l.filter fun x => key x = k

theorem groupKeys_nodup (key : α → κ) (l : List α) : (groupKeys key l).Nodup :=
  List.nodup_dedup _

theorem mem_groupKeys {key : α → κ} {l : List α} {k : κ} :
    k ∈ groupKeys key l ↔ ∃ x ∈ l, key x = k := by
  simp [groupKeys]

theorem group_eq_nil {key : α → κ} {l : List α} {k : κ} :
    group key l k = [] ↔ k ∉ groupKeys key l := by
  simp [group, groupKeys, List.filter_eq_nil_iff]

/-- Summing one group is summing what the list has of it. -/
theorem sum_group [AddMonoid M] (f : α → M) (key : α → κ) (l : List α) (k : κ) :
    ((group key l k).map f).sum = (l.map fun x => if key x = k then f x else 0).sum := by
  induction l with
  | nil => rfl
  | cons x l ih =>
    rw [List.map_cons, List.sum_cons, ← ih]
    by_cases h : key x = k <;> simp [group, h]

/-- Summing each group and then the groups is summing the list, over any list of keys that
names each key of the list once. -/
theorem sum_groups [AddCommMonoid M] (f : α → M) (key : α → κ) {l : List α} {keys : List κ}
    (hkeys : keys.Nodup) (hcover : ∀ x ∈ l, key x ∈ keys) :
    (keys.map fun k => ((group key l k).map f).sum).sum = (l.map f).sum := by
  induction l with
  | nil => simp [group]
  | cons x l ih =>
    have hsplit : ∀ k, ((group key (x :: l) k).map f).sum =
        (if k = key x then f x else 0) + ((group key l k).map f).sum := by
      intro k
      by_cases hk : key x = k
      · simp [group, hk]
      · simp [group, hk, Ne.symm hk]
    have hone : (keys.map fun k => if k = key x then f x else 0).sum = f x := by
      rw [List.sum_map_eq_nsmul_single (key x) _ fun k hk _ => if_neg hk, if_pos rfl,
        List.count_eq_one_of_mem hkeys (hcover x List.mem_cons_self), one_nsmul]
    simp only [hsplit, List.sum_map_add]
    rw [hone, ih fun y hy => hcover y (List.mem_cons_of_mem _ hy), List.map_cons, List.sum_cons]

/-- A test met as often as a weaker one is the weaker one. -/
theorem imp_of_countP_eq {p q : α → Bool} {l : List α} (himp : ∀ x ∈ l, p x = true → q x = true)
    (h : l.countP p = l.countP q) : ∀ x ∈ l, q x = true → p x = true := by
  induction l with
  | nil => exact fun x hx => by cases hx
  | cons y l ih =>
    have hrest : ∀ x ∈ l, p x = true → q x = true := fun x hx => himp x (List.mem_cons_of_mem _ hx)
    have hle : l.countP p ≤ l.countP q := List.countP_mono_left hrest
    rw [List.countP_cons, List.countP_cons] at h
    have hhead := himp y List.mem_cons_self
    intro x hx hqx
    rcases List.mem_cons.mp hx with rfl | hx
    · by_contra hpx
      simp only [hqx, hpx, if_true, if_false] at h
      omega
    · refine ih hrest ?_ x hx hqx
      by_cases hpy : p y = true
      · simpa [hpy, hhead hpy] using h
      · by_cases hqy : q y = true
        · simp only [hqy, hpy, if_true, Bool.false_eq_true, if_false] at h
          omega
        · simpa [hpy, hqy] using h

end Grouping

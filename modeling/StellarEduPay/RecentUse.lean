import Mathlib.Data.Set.Card

/-! # Least recently used

A cache of bounded size is there to remember the keys that were used last. `Cache` has the time of the
last use beside each value, and `keepRecent n` forgets all but the `n` keys with the latest times. An
implementation lists its entries in some order instead: `NewestFirst` says that the order is that of the
times, and each operation on the cache has its rule for such a list.
-/
namespace RecentUse
variable {κ ν : Type*}

/-- The value of each key that is held, with the time of its last use. -/
structure Cache (κ ν : Type*) where
  held : κ → Option (ν × ℕ)
  now : ℕ

inductive Request (κ ν : Type*)
  | get (key : κ)
  | set (key : κ) (value : ν)
  | delete (key : κ)
  | has (key : κ)
  | clear

inductive Answer (ν : Type*)
  | found (value : Option ν)
  | present (b : Bool)
  | done

namespace Cache

def empty : Cache κ ν := ⟨fun _ => none, 0⟩

/-- The keys used after a time. -/
def usedAfter (c : Cache κ ν) (time : ℕ) : Set κ :=
  {key | ∃ value used, c.held key = some (value, used) ∧ time < used}

/-- Forget all but the `n` keys that were used last. Only finitely many are ever held. -/
noncomputable def keepRecent (c : Cache κ ν) (n : ℕ) : Cache κ ν :=
  { c with held := fun key => (c.held key).filter fun x => (c.usedAfter x.2).ncard < n }

/-- Without a bound everything is kept. -/
noncomputable def keepWithin (c : Cache κ ν) : Option ℕ → Cache κ ν
  | none => c
  | some n => c.keepRecent n

/-- No key was used less recently. -/
def LeastRecent (c : Cache κ ν) (key : κ) : Prop :=
  ∃ value used, c.held key = some (value, used) ∧
    ∀ other value' used', c.held other = some (value', used') → other ≠ key → used < used'

def clear (c : Cache κ ν) : Cache κ ν := { c with held := fun _ => none }

variable [DecidableEq κ]

/-- A key is used now, with this value. -/
def touch (c : Cache κ ν) (key : κ) (value : ν) : Cache κ ν :=
  ⟨Function.update c.held key (some (value, c.now)), c.now + 1⟩

def delete (c : Cache κ ν) (key : κ) : Cache κ ν :=
  { c with held := Function.update c.held key none }

/-- **The reference cache**: a key is used when it is set, and when it is read and there. -/
noncomputable def serve (bound : Option ℕ) (c : Cache κ ν) :
    Request κ ν → Answer ν × Cache κ ν
  | .get key =>
    match c.held key with
    | none => (.found none, c)
    | some (value, _) => (.found (some value), c.touch key value)
  | .set key value => (.done, (c.touch key value).keepWithin bound)
  | .delete key => (.present (c.held key).isSome, c.delete key)
  | .has key => (.present (c.held key).isSome, c)
  | .clear => (.done, c.clear)

theorem delete_touch (c : Cache κ ν) (key : κ) (value : ν) :
    (c.delete key).touch key value = c.touch key value := by
  rw [touch, delete, touch, Function.update_idem]

end Cache

/-! ## Lists in the order of use -/

/-- The list has what the cache holds, the last used first. -/
structure NewestFirst (l : List (κ × ν × ℕ)) (c : Cache κ ν) : Prop where
  mem_iff : ∀ key value used, (key, value, used) ∈ l ↔ c.held key = some (value, used)
  sorted : l.Pairwise fun x y => y.2.2 < x.2.2
  past : ∀ x ∈ l, x.2.2 < c.now

namespace NewestFirst
variable {l rest : List (κ × ν × ℕ)} {c : Cache κ ν} {x : κ × ν × ℕ} {key : κ} {value : ν} {n : ℕ}

theorem empty : NewestFirst [] (Cache.empty : Cache κ ν) where
  mem_iff := by simp [Cache.empty]
  sorted := .nil
  past := by simp

theorem clear (c : Cache κ ν) : NewestFirst [] c.clear where
  mem_iff := by simp [Cache.clear]
  sorted := .nil
  past := by simp

/-- Two uses are never at one time, so no key is listed twice. -/
theorem nodup_keys (h : NewestFirst l c) : (l.map Prod.fst).Nodup := by
  refine List.pairwise_map.mpr (h.sorted.imp_of_mem fun {x y} hx hy hlt heq => ?_)
  have hx' := (h.mem_iff x.1 x.2.1 x.2.2).mp hx
  have hy' := (h.mem_iff y.1 y.2.1 y.2.2).mp hy
  rw [← heq, hx', Option.some_inj, Prod.mk.injEq] at hy'
  exact hlt.ne hy'.2.symm

theorem usedAfter (h : NewestFirst (l ++ x :: rest) c) :
    c.usedAfter x.2.2 = {key | key ∈ l.map Prod.fst} := by
  obtain ⟨_, hrest, hbefore⟩ := List.pairwise_append.mp h.sorted
  ext key
  simp only [Cache.usedAfter, Set.mem_ofPred_eq, List.mem_map]
  constructor
  · rintro ⟨value, used, hheld, hlt⟩
    rcases List.mem_append.mp ((h.mem_iff key value used).mpr hheld) with hmem | hmem
    · exact ⟨_, hmem, rfl⟩
    · rcases List.mem_cons.mp hmem with rfl | hmem
      · exact absurd hlt (lt_irrefl _)
      · exact absurd hlt ((List.rel_of_pairwise_cons hrest hmem).not_gt)
  · rintro ⟨y, hy, rfl⟩
    refine ⟨y.2.1, y.2.2, (h.mem_iff _ _ _).mp (List.mem_append_left _ hy), ?_⟩
    exact hbefore y hy x List.mem_cons_self

/-- As many keys were used after an entry as are listed before it. -/
theorem ncard_usedAfter (h : NewestFirst (l ++ x :: rest) c) :
    (c.usedAfter x.2.2).ncard = l.length := by
  classical
  have hnodup : (l.map Prod.fst).Nodup := by
    have hall := h.nodup_keys
    rw [List.map_append] at hall
    exact hall.of_append_left
  rw [h.usedAfter, ← List.coe_toFinset, Set.ncard_coe_finset, List.toFinset_card_of_nodup hnodup,
    List.length_map]

theorem mem_take_iff (h : NewestFirst (l ++ x :: rest) c) :
    x ∈ (l ++ x :: rest).take n ↔ l.length < n := by
  rw [List.take_append, List.mem_append]
  constructor
  · rintro (hmem | hmem)
    · have hbefore := (List.pairwise_append.mp h.sorted).2.2 x (List.mem_of_mem_take hmem) x
      exact absurd (hbefore List.mem_cons_self) (lt_irrefl _)
    · by_contra hle
      rw [Nat.sub_eq_zero_of_le (not_lt.mp hle), List.take_zero] at hmem
      cases hmem
  · intro hlt
    obtain ⟨m, hm⟩ := Nat.exists_eq_succ_of_ne_zero (Nat.sub_pos_of_lt hlt).ne'
    rw [hm, List.take_succ_cons]
    exact .inr List.mem_cons_self

/-- **To keep the keys used last is to keep the first entries.** -/
theorem keepRecent (h : NewestFirst l c) (n : ℕ) : NewestFirst (l.take n) (c.keepRecent n) where
  mem_iff := by
    intro key value used
    rw [Cache.keepRecent, Option.filter_eq_some_iff, ← h.mem_iff]
    by_cases hmem : (key, value, used) ∈ l
    · obtain ⟨before, rest, rfl⟩ := List.append_of_mem hmem
      rw [h.mem_take_iff, h.ncard_usedAfter]
      simp
    · exact iff_of_false (fun h => hmem (List.mem_of_mem_take h)) fun h => hmem h.1
  sorted := h.sorted.take
  past := fun x hx => h.past x (List.mem_of_mem_take hx)

/-- The last entry is the one to go. -/
theorem leastRecent (h : NewestFirst (l ++ [x]) c) : c.LeastRecent x.1 := by
  refine ⟨x.2.1, x.2.2, (h.mem_iff _ _ _).mp (by simp), fun other value' used' hheld hne => ?_⟩
  rcases List.mem_append.mp ((h.mem_iff other value' used').mpr hheld) with hmem | hmem
  · exact (List.pairwise_append.mp h.sorted).2.2 _ hmem x List.mem_cons_self
  · exact absurd (congrArg Prod.fst (List.mem_singleton.mp hmem)) hne

variable [DecidableEq κ]

theorem delete (h : NewestFirst l c) (key : κ) :
    NewestFirst (l.filter (·.1 ≠ key)) (c.delete key) where
  mem_iff := by
    intro other value used
    rw [List.mem_filter, h.mem_iff, Cache.delete]
    by_cases heq : other = key
    · subst heq
      simp
    · simp [heq]
  sorted := h.sorted.filter _
  past := fun x hx => h.past x (List.mem_of_mem_filter hx)

theorem touch (h : NewestFirst l c) (hnew : c.held key = none) (value : ν) :
    NewestFirst ((key, value, c.now) :: l) (c.touch key value) where
  mem_iff := by
    intro other value' used
    rw [List.mem_cons, h.mem_iff, Cache.touch]
    by_cases heq : other = key
    · subst heq
      simp [hnew, eq_comm]
    · simp [heq]
  sorted := List.pairwise_cons.mpr ⟨fun x hx => h.past x hx, h.sorted⟩
  past := by
    intro x hx
    rcases List.mem_cons.mp hx with rfl | hx
    · exact Nat.lt_succ_self _
    · exact Nat.lt_succ_of_lt (h.past x hx)

end NewestFirst
end RecentUse

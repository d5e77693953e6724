import Mathlib.Data.List.Perm.Basic
import Mathlib.Data.List.Sort
import StellarEduPay.JsonText

/-! # JSON up to the order of keys

Two values have the same content if they differ only in the order in which objects list their members,
at any depth. A value with the members of each object sorted stands for its content: where no object has
a key twice, two values have the same content exactly if they are one value when sorted
(`sortKeys_eq_iff`). -/

namespace JsonText

mutual

/-- The same value up to the order of members. -/
inductive SameContent : Json → Json → Prop
  | scalar (s : Scalar) : SameContent (.scalar s) (.scalar s)
  | string (s : String) : SameContent (.string s) (.string s)
  | array {xs ys : List Json} (h : SameItems xs ys) : SameContent (.array xs) (.array ys)
  | object {ms ns listed : List (String × Json)} (h : SameMembers ms listed)
    (hperm : listed.Perm ns) : SameContent (.object ms) (.object ns)

/-- Item by item. -/
inductive SameItems : List Json → List Json → Prop
  | nil : SameItems [] []
  | cons {x y : Json} {xs ys : List Json} (h : SameContent x y) (hs : SameItems xs ys) :
    SameItems (x :: xs) (y :: ys)

/-- Member by member, each with the key of the other. -/
inductive SameMembers : List (String × Json) → List (String × Json) → Prop
  | nil : SameMembers [] []
  | cons {key : String} {x y : Json} {ms ns : List (String × Json)} (h : SameContent x y)
    (hs : SameMembers ms ns) : SameMembers ((key, x) :: ms) ((key, y) :: ns)

end

mutual

/-- No object has a key twice. -/
def DistinctKeys : Json → Prop
  | .scalar _ => True
  | .string _ => True
  | .array items => DistinctKeysItems items
  | .object members => (members.map Prod.fst).Nodup ∧ DistinctKeysMembers members

def DistinctKeysItems : List Json → Prop
  | [] => True
  | item :: rest => DistinctKeys item ∧ DistinctKeysItems rest

def DistinctKeysMembers : List (String × Json) → Prop
  | [] => True
  | (_, value) :: rest => DistinctKeys value ∧ DistinctKeysMembers rest

end

section
variable {κ : Type*} [LinearOrder κ] (rank : String → κ)

/-- The key of the one member ranks no higher than that of the other. -/
def KeyLE (m n : String × Json) : Prop := rank m.1 ≤ rank n.1

instance : DecidableRel (KeyLE rank) := fun m n => inferInstanceAs (Decidable (rank m.1 ≤ rank n.1))

instance : Std.Total (KeyLE rank) := ⟨fun m n => le_total (rank m.1) (rank n.1)⟩

instance : IsTrans (String × Json) (KeyLE rank) := ⟨fun _ _ _ => le_trans⟩

mutual

/-- The members of each object sorted by the ranks of their keys. -/
def sortKeys : Json → Json
  | .scalar s => .scalar s
  | .string s => .string s
  | .array items => .array (sortKeysItems items)
  | .object members => .object ((sortKeysMembers members).insertionSort (KeyLE rank))

def sortKeysItems : List Json → List Json
  | [] => []
  | item :: rest => sortKeys item :: sortKeysItems rest

def sortKeysMembers : List (String × Json) → List (String × Json)
  | [] => []
  | (key, value) :: rest => (key, sortKeys value) :: sortKeysMembers rest

end

theorem sortKeysMembers_eq_map (ms : List (String × Json)) :
    sortKeysMembers rank ms = ms.map fun m => (m.1, sortKeys rank m.2) := by
  induction ms with
  | nil => rfl
  | cons m ms ih => rw [sortKeysMembers, ih, List.map_cons]

theorem map_fst_sortKeysMembers (ms : List (String × Json)) :
    (sortKeysMembers rank ms).map Prod.fst = ms.map Prod.fst := by
  rw [sortKeysMembers_eq_map, List.map_map]
  rfl

theorem distinctKeysMembers_iff {ms : List (String × Json)} :
    DistinctKeysMembers ms ↔ ∀ m ∈ ms, DistinctKeys m.2 := by
  induction ms with
  | nil => simp [DistinctKeysMembers]
  | cons m ms ih => rw [DistinctKeysMembers, ih, List.forall_mem_cons]

theorem DistinctKeysMembers.of_perm {ms ns : List (String × Json)} (h : DistinctKeysMembers ns)
    (hperm : ms.Perm ns) : DistinctKeysMembers ms :=
  distinctKeysMembers_iff.mpr fun m hm => distinctKeysMembers_iff.mp h m (hperm.mem_iff.mp hm)

variable {rank}

/-- Members with distinct keys are sorted in one way only. -/
theorem insertionSort_eq_iff (hrank : Function.Injective rank) {ms ns : List (String × Json)}
    (hms : (ms.map Prod.fst).Nodup) :
    ms.insertionSort (KeyLE rank) = ns.insertionSort (KeyLE rank) ↔ ms.Perm ns := by
  constructor
  · intro h
    exact (List.perm_insertionSort _ ms).symm.trans (h ▸ List.perm_insertionSort _ ns)
  · intro hperm
    have hall : (ms.insertionSort (KeyLE rank)).Perm
        (ns.insertionSort (KeyLE rank)) :=
      (List.perm_insertionSort _ ms).trans (hperm.trans (List.perm_insertionSort _ ns).symm)
    refine hall.eq_of_pairwise
      (fun m n hm hn (hle : KeyLE rank m n) (hge : KeyLE rank n m) => ?_)
      (List.pairwise_insertionSort _ ms) (List.pairwise_insertionSort _ ns)
    -- equal ranks are equal keys, and a key has one member
    have hkey : m.1 = n.1 := hrank (le_antisymm hle hge)
    rw [List.mem_insertionSort] at hm hn
    exact List.inj_on_of_nodup_map hms hm (hperm.mem_iff.mpr hn) hkey

/-- Members that are, sorted inside, those of another list in some order, are member by member those of
that list in some order. -/
theorem exists_listed {ms ns : List (String × Json)}
    (h : (sortKeysMembers rank ms).Perm (sortKeysMembers rank ns)) :
    ∃ listed, sortKeysMembers rank ms = sortKeysMembers rank listed ∧ listed.Perm ns := by
  have hforall : List.Forall₂ (fun m n => m = (n.1, sortKeys rank n.2)) (sortKeysMembers rank ns) ns := by
    rw [sortKeysMembers_eq_map, List.forall₂_map_left_iff, List.forall₂_same]
    exact fun _ _ => rfl
  obtain ⟨listed, hlisted, hperm⟩ := List.perm_comp_forall₂ h hforall
  refine ⟨listed, ?_, hperm⟩
  rw [sortKeysMembers_eq_map rank listed]
  rw [← List.forall₂_eq_eq_eq, List.forall₂_map_right_iff]
  exact hlisted

mutual

/-- **Sorted, values with the same content are one value**, and others are not. -/
theorem sortKeys_eq_iff (hrank : Function.Injective rank) : ∀ v w : Json, DistinctKeys v →
    DistinctKeys w → (sortKeys rank v = sortKeys rank w ↔ SameContent v w)
  | .scalar s, w, _, _ => by
    constructor
    · intro h
      cases w with
      | scalar t =>
        cases h
        exact .scalar s
      | _ => cases h
    · rintro ⟨⟩
      rfl
  | .string s, w, _, _ => by
    constructor
    · intro h
      cases w with
      | string t =>
        cases h
        exact .string s
      | _ => cases h
    · rintro ⟨⟩
      rfl
  | .array items, w, hv, hw => by
    constructor
    · intro h
      cases w with
      | array items' =>
        simp only [sortKeys, Json.array.injEq] at h
        exact .array ((sortKeysItems_eq_iff hrank items items' hv hw).mp h)
      | _ => cases h
    · rintro ⟨⟩
      rename_i items' hitems
      rw [sortKeys, sortKeys, (sortKeysItems_eq_iff hrank items items' hv hw).mpr hitems]
  | .object members, w, ⟨hkeys, hvalues⟩, hw => by
    have hnodup : ((sortKeysMembers rank members).map Prod.fst).Nodup := by
      rwa [map_fst_sortKeysMembers]
    constructor
    · intro h
      cases w with
      | object members' =>
        simp only [sortKeys, Json.object.injEq] at h
        obtain ⟨listed, hlisted, hperm⟩ := exists_listed ((insertionSort_eq_iff hrank hnodup).mp h)
        have hvalues' := hw.2.of_perm hperm
        exact .object ((sortKeysMembers_eq_iff hrank members listed hvalues hvalues').mp hlisted) hperm
      | _ => cases h
    · rintro ⟨⟩
      rename_i members' listed hperm hsame
      have hvalues' := hw.2.of_perm hperm
      have hlisted := (sortKeysMembers_eq_iff hrank members listed hvalues hvalues').mpr hsame
      have hsorted : (sortKeysMembers rank members).Perm (sortKeysMembers rank members') := by
        rw [hlisted, sortKeysMembers_eq_map, sortKeysMembers_eq_map]
        exact hperm.map _
      rw [sortKeys, sortKeys, (insertionSort_eq_iff hrank hnodup).mpr hsorted]

theorem sortKeysItems_eq_iff (hrank : Function.Injective rank) : ∀ xs ys : List Json,
    DistinctKeysItems xs → DistinctKeysItems ys →
      (sortKeysItems rank xs = sortKeysItems rank ys ↔ SameItems xs ys)
  | [], [], _, _ => iff_of_true rfl .nil
  | [], _ :: _, _, _ => iff_of_false (by simp [sortKeysItems]) fun h => by cases h
  | _ :: _, [], _, _ => iff_of_false (by simp [sortKeysItems]) fun h => by cases h
  | x :: xs, y :: ys, ⟨hx, hxs⟩, ⟨hy, hys⟩ => by
    rw [sortKeysItems, sortKeysItems, List.cons.injEq, sortKeys_eq_iff hrank x y hx hy,
      sortKeysItems_eq_iff hrank xs ys hxs hys]
    exact ⟨fun h => .cons h.1 h.2, fun h => by cases h; exact ⟨‹_›, ‹_›⟩⟩

theorem sortKeysMembers_eq_iff (hrank : Function.Injective rank) : ∀ ms ns : List (String × Json),
    DistinctKeysMembers ms → DistinctKeysMembers ns →
      (sortKeysMembers rank ms = sortKeysMembers rank ns ↔ SameMembers ms ns)
  | [], [], _, _ => iff_of_true rfl .nil
  | [], (_, _) :: _, _, _ => iff_of_false (by simp [sortKeysMembers]) fun h => by cases h
  | (_, _) :: _, [], _, _ => iff_of_false (by simp [sortKeysMembers]) fun h => by cases h
  | (k, x) :: ms, (l, y) :: ns, ⟨hx, hms⟩, ⟨hy, hns⟩ => by
    rw [sortKeysMembers, sortKeysMembers, List.cons.injEq, Prod.mk.injEq,
      sortKeys_eq_iff hrank x y hx hy, sortKeysMembers_eq_iff hrank ms ns hms hns]
    constructor
    · rintro ⟨⟨rfl, hvalue⟩, hrest⟩
      exact .cons hvalue hrest
    · rintro ⟨⟩
      exact ⟨⟨rfl, ‹_›⟩, ‹_›⟩

end

end

end JsonText

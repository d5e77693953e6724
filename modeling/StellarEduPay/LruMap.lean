import Mathlib.Data.List.AList
import StellarEduPay.RecentUse
import StellarEduPay.Runs

/-! # The local rate cache (`services/currencyConversionService.js`)

`LruMap` keeps no times: it deletes and puts back what it uses, so the order of its `Map` is the order of
use. Entries are newest first here, so the first key of the `Map` is the last of the list.
-/
namespace StellarEduPay
open RecentUse
variable {κ ν : Type}

/-- `Map.prototype.set`: a key that is there keeps its place, a new one is the newest. -/
def mapSet [DecidableEq κ] (m : AList fun _ : κ => ν) (key : κ) (value : ν) : AList fun _ : κ => ν :=
  if key ∈ m then m.replace key value else m.insert key value

/-- `keys().next().value` -/
def firstKey (m : AList fun _ : κ => ν) : Option κ := m.keys.getLast?

structure LruMap (κ ν : Type) where
  /-- `none` is `NaN`. -/
  max : Option Int
  map : AList fun _ : κ => ν

namespace LruMap

/-- The constructor; `Math.max` of a number and `NaN` is `NaN`. -/
def new (maxSize : Option Int) : LruMap κ ν := ⟨maxSize.map (Max.max 1), ∅⟩

def size (lru : LruMap κ ν) : ℕ := lru.map.keys.length

variable [DecidableEq κ]

def has (lru : LruMap κ ν) (key : κ) : Bool := key ∈ lru.map

def get (lru : LruMap κ ν) (key : κ) : Option ν × LruMap κ ν :=
  match lru.map.lookup key with
  | none => (none, lru)
  | some value => (some value, { lru with map := mapSet (lru.map.erase key) key value })

/-- The end of `set`. No size is over `NaN`. -/
def evictOldest (lru : LruMap κ ν) : LruMap κ ν :=
  if lru.max.any (· < (lru.size : Int)) then
    match firstKey lru.map with
    | none => lru
    | some oldest => { lru with map := lru.map.erase oldest }
  else lru

def set (lru : LruMap κ ν) (key : κ) (value : ν) : LruMap κ ν :=
  let map := if key ∈ lru.map then lru.map.erase key else lru.map
  evictOldest { lru with map := mapSet map key value }

def delete (lru : LruMap κ ν) (key : κ) : Bool × LruMap κ ν :=
  (lru.has key, { lru with map := lru.map.erase key })

def clear (lru : LruMap κ ν) : LruMap κ ν := { lru with map := ∅ }

def serve (lru : LruMap κ ν) : Request κ ν → Answer ν × LruMap κ ν
  | .get key => (.found (lru.get key).1, (lru.get key).2)
  | .set key value => (.done, lru.set key value)
  | .delete key => (.present (lru.delete key).1, (lru.delete key).2)
  | .has key => (.present (lru.has key), lru)
  | .clear => (.done, lru.clear)

end LruMap

/-- How many keys are kept. -/
def lruCapacity (maxSize : Option Int) : Option ℕ := maxSize.map fun n => (max 1 n).toNat

/-! ## The order of the `Map` is the order of use -/

def lruEntry (x : κ × ν × ℕ) : Sigma fun _ : κ => ν := ⟨x.1, x.2.1⟩

/-- The entries are those the cache holds, the last used first. -/
def Represents (m : AList fun _ : κ => ν) (c : Cache κ ν) : Prop :=
  ∃ l, NewestFirst l c ∧ m.entries = l.map lruEntry

theorem kerase_eq_filter [DecidableEq κ] {l : List (Sigma fun _ : κ => ν)} (h : l.NodupKeys) (key : κ) :
    l.kerase key = l.filter (·.1 ≠ key) := by
  induction l with
  | nil => rfl
  | cons x l ih =>
    obtain ⟨hnot, hrest⟩ := List.nodupKeys_cons.mp h
    by_cases heq : key = x.1
    · rw [List.kerase_cons_eq heq, List.filter_cons_of_neg (by simp [heq])]
      refine (List.filter_eq_self.mpr fun y hy => ?_).symm
      simp only [decide_eq_true_eq]
      rintro hsame
      exact hnot (by rw [← heq, ← hsame]; exact List.mem_keys_of_mem hy)
    · rw [List.kerase_cons_ne heq, List.filter_cons_of_pos (by simpa using Ne.symm heq), ih hrest]

namespace Represents
variable {m : AList fun _ : κ => ν} {c : Cache κ ν} {key : κ} {n : ℕ}

theorem empty : Represents (∅ : AList fun _ : κ => ν) Cache.empty := ⟨[], .empty, rfl⟩

theorem length_keys {l : List (κ × ν × ℕ)} (hentries : m.entries = l.map lruEntry) :
    m.keys.length = l.length := by
  rw [AList.keys, List.keys, List.length_map, hentries, List.length_map]

theorem keep (h : Represents m c) (hroom : m.keys.length ≤ n) : Represents m (c.keepRecent n) := by
  obtain ⟨l, hl, hentries⟩ := h
  rw [length_keys hentries] at hroom
  have hkeep := hl.keepRecent n
  rw [List.take_of_length_le hroom] at hkeep
  exact ⟨l, hkeep, hentries⟩

/-- The first key of the `Map` is that of the last entry. -/
theorem entries_firstKey {l : List (κ × ν × ℕ)} (hentries : m.entries = l.map lruEntry) {oldest : κ}
    (hfirst : firstKey m = some oldest) : ∃ rest x, l = rest ++ [x] ∧ x.1 = oldest := by
  rw [firstKey, AList.keys, List.keys, hentries, List.map_map, List.getLast?_map,
    Option.map_eq_some_iff] at hfirst
  obtain ⟨x, hlast, hx⟩ := hfirst
  obtain ⟨rest, hrest⟩ := List.getLast?_eq_some_iff.mp hlast
  exact ⟨rest, x, hrest, hx⟩

theorem leastRecent (h : Represents m c) {oldest : κ} (hfirst : firstKey m = some oldest) :
    c.LeastRecent oldest := by
  obtain ⟨l, hl, hentries⟩ := h
  obtain ⟨rest, x, rfl, rfl⟩ := entries_firstKey hentries hfirst
  exact hl.leastRecent

variable [DecidableEq κ]

theorem lookup (h : Represents m c) (key : κ) : m.lookup key = (c.held key).map Prod.fst := by
  obtain ⟨l, hl, hentries⟩ := h
  refine Option.ext fun value => ?_
  rw [← Option.mem_def, AList.mem_lookup_iff, hentries, List.mem_map, Option.map_eq_some_iff]
  constructor
  · rintro ⟨x, hx, heq⟩
    cases heq
    exact ⟨x.2, (hl.mem_iff _ _ _).mp hx, rfl⟩
  · rintro ⟨x, hheld, rfl⟩
    exact ⟨(key, x.1, x.2), (hl.mem_iff _ _ _).mpr hheld, rfl⟩

theorem erase (h : Represents m c) (key : κ) : Represents (m.erase key) (c.delete key) := by
  obtain ⟨l, hl, hentries⟩ := h
  refine ⟨_, hl.delete key, ?_⟩
  change m.entries.kerase key = _
  rw [kerase_eq_filter m.nodupKeys, hentries, List.filter_map]
  rfl

/-- **Deleted and put back.** -/
theorem touch (h : Represents m c) (key : κ) (value : ν) :
    Represents (mapSet (m.erase key) key value) (c.touch key value) := by
  have hnew : key ∉ m.erase key := fun hmem => (AList.mem_erase.mp hmem).1 rfl
  obtain ⟨l, hl, hentries⟩ := h.erase key
  rw [← c.delete_touch, mapSet, if_neg hnew]
  refine ⟨_, hl.touch (by simp [Cache.delete]) value, ?_⟩
  rw [AList.entries_insert_of_notMem hnew, hentries]
  rfl

/-- **The first key is the one to go** when there is one entry too many. -/
theorem evict (h : Represents m c) (hfull : m.keys.length = n + 1) {oldest : κ}
    (hfirst : firstKey m = some oldest) : Represents (m.erase oldest) (c.keepRecent n) := by
  obtain ⟨l, hl, hentries⟩ := h
  obtain ⟨rest, x, rfl, rfl⟩ := entries_firstKey hentries hfirst
  rw [length_keys hentries, List.length_append, List.length_singleton, Nat.add_right_cancel_iff]
    at hfull
  refine ⟨_, hl.keepRecent n, ?_⟩
  change m.entries.kerase x.1 = _
  have hnot : x.1 ∉ (rest.map lruEntry).keys := by
    have hnodup := hl.nodup_keys
    rw [List.map_append, List.nodup_append] at hnodup
    rw [List.keys, List.map_map]
    intro hmem
    exact hnodup.2.2 _ hmem _ List.mem_cons_self rfl
  have hlast : List.kerase x.1 [lruEntry x] = [] := List.kerase_cons_eq rfl
  rw [hentries, List.map_append, List.kerase_append_right hnot, ← hfull, List.take_left,
    List.map_singleton, hlast, List.append_nil]

end Represents

/-! ## One request -/

namespace LruMap
variable {maxSize : Option Int} {lru : LruMap κ ν} {c : Cache κ ν} {n : ℕ}

/-- What relates the map to the reference cache, and holds after every request. -/
structure Simulates (maxSize : Option Int) (lru : LruMap κ ν) (c : Cache κ ν) : Prop where
  max_eq : lru.max = maxSize.map (Max.max 1)
  represents : Represents lru.map c
  size_le : ∀ n, lruCapacity maxSize = some n → lru.size ≤ n

theorem simulates_new (maxSize : Option Int) : (new maxSize : LruMap κ ν).Simulates maxSize .empty :=
  ⟨rfl, .empty, fun _ _ => Nat.zero_le _⟩

theorem over_iff {size : ℕ} : (maxSize.map (Max.max 1)).any (· < (size : Int)) = true ↔
    ∃ n, lruCapacity maxSize = some n ∧ n < size := by
  cases maxSize with
  | none => simp [lruCapacity]
  | some k =>
    simp only [lruCapacity, Option.map_some, Option.any_some, decide_eq_true_eq, Option.some_inj,
      exists_eq_left']
    omega

variable [DecidableEq κ]

theorem evictOldest_of_room (lru : LruMap κ ν) (hmax : lru.max = maxSize.map (Max.max 1))
    (hroom : ∀ n, lruCapacity maxSize = some n → lru.size ≤ n) : lru.evictOldest = lru := by
  rw [evictOldest, hmax, if_neg]
  rw [over_iff]
  rintro ⟨n, hn, hover⟩
  exact absurd (hroom n hn) hover.not_ge

theorem evictOldest_of_over (lru : LruMap κ ν) (hmax : lru.max = maxSize.map (Max.max 1))
    (hn : lruCapacity maxSize = some n) (hover : n < lru.size) {oldest : κ}
    (hfirst : firstKey lru.map = some oldest) :
    lru.evictOldest = { lru with map := lru.map.erase oldest } := by
  rw [evictOldest, hmax, if_pos (over_iff.mpr ⟨n, hn, hover⟩), hfirst]

omit [DecidableEq κ] in
theorem firstKey_of_size (hsize : 0 < lru.size) : ∃ oldest ∈ lru.map, firstKey lru.map = some oldest := by
  obtain ⟨oldest, hfirst⟩ := Option.ne_none_iff_exists'.mp
    (mt List.getLast?_eq_none_iff.mp (List.length_pos_iff.mp hsize))
  exact ⟨oldest, AList.mem_keys.mpr (List.mem_of_getLast? hfirst), hfirst⟩

/-- At most one entry is too many. -/
theorem simulates_evictOldest (hmax : lru.max = maxSize.map (Max.max 1)) (h : Represents lru.map c)
    (hsize : ∀ n, lruCapacity maxSize = some n → lru.size ≤ n + 1) :
    lru.evictOldest.Simulates maxSize (c.keepWithin (lruCapacity maxSize)) := by
  cases hn : lruCapacity maxSize with
  | none =>
    rw [evictOldest_of_room lru hmax (by simp [hn])]
    exact ⟨hmax, h, by simp [hn]⟩
  | some n =>
    by_cases hover : n < lru.size
    · have hfull : lru.size = n + 1 := le_antisymm (hsize n hn) hover
      obtain ⟨oldest, hmem, hfirst⟩ := firstKey_of_size (Nat.zero_lt_of_lt hover)
      rw [evictOldest_of_over lru hmax hn hover hfirst]
      refine ⟨hmax, h.evict hfull hfirst, fun m hm => ?_⟩
      obtain rfl : n = m := Option.some.inj (hn.symm.trans hm)
      rw [size, AList.keys_erase, List.length_erase_of_mem (AList.mem_keys.mp hmem)]
      exact (congrArg Nat.pred hfull).le
    · have hroom : ∀ m, lruCapacity maxSize = some m → lru.size ≤ m := by
        intro m hm
        obtain rfl : n = m := Option.some.inj (hn.symm.trans hm)
        exact not_lt.mp hover
      rw [evictOldest_of_room lru hmax hroom]
      exact ⟨hmax, h.keep (not_lt.mp hover), hroom⟩

/-- Whether the key was there or not, it is put at the newest end. -/
theorem set_eq (lru : LruMap κ ν) (key : κ) (value : ν) :
    lru.set key value = evictOldest { lru with map := mapSet (lru.map.erase key) key value } := by
  rw [set]
  by_cases hmem : key ∈ lru.map
  · rw [if_pos hmem]
  · rw [if_neg hmem]
    congr 3
    exact AList.ext (List.kerase_of_notMem_keys hmem).symm

theorem keys_mapSet (m : AList fun _ : κ => ν) (key : κ) (value : ν) :
    (mapSet (m.erase key) key value).keys = key :: m.keys.erase key := by
  have hnew : key ∉ m.erase key := fun hmem => (AList.mem_erase.mp hmem).1 rfl
  rw [mapSet, if_neg hnew, AList.keys_insert, AList.keys_erase,
    List.erase_of_not_mem (a := key) (by rw [← AList.keys_erase]; exact hnew)]

theorem lookup_mapSet (m : AList fun _ : κ => ν) (key : κ) (value : ν) (other : κ) :
    (mapSet (m.erase key) key value).lookup other =
      if other = key then some value else m.lookup other := by
  have hnew : key ∉ m.erase key := fun hmem => (AList.mem_erase.mp hmem).1 rfl
  rw [mapSet, if_neg hnew]
  by_cases heq : other = key
  · subst heq
    rw [AList.lookup_insert, if_pos rfl]
  · rw [AList.lookup_insert_ne heq, AList.lookup_erase_ne heq, if_neg heq]

/-- A key that was there is not counted twice. -/
theorem size_mapSet (m : AList fun _ : κ => ν) (key : κ) (value : ν) :
    (mapSet (m.erase key) key value).keys.length =
      if key ∈ m then m.keys.length else m.keys.length + 1 := by
  rw [keys_mapSet, List.length_cons]
  split
  · rename_i hmem
    have hpos := List.length_pos_of_mem (AList.mem_keys.mp hmem)
    rw [List.length_erase_of_mem (AList.mem_keys.mp hmem)]
    omega
  · rename_i hmem
    rw [List.erase_of_not_mem (mt AList.mem_keys.mpr hmem)]

namespace Simulates

theorem has_eq (h : lru.Simulates maxSize c) (key : κ) : lru.has key = (c.held key).isSome := by
  rw [has, Bool.eq_iff_iff, decide_eq_true_iff, ← AList.lookup_isSome, h.represents.lookup,
    Option.isSome_map]

theorem get (h : lru.Simulates maxSize c) (key : κ) :
    (lru.serve (.get key)).1 = (c.serve (lruCapacity maxSize) (.get key)).1 ∧
      (lru.serve (.get key)).2.Simulates maxSize (c.serve (lruCapacity maxSize) (.get key)).2 := by
  have hlookup := h.represents.lookup key
  rw [serve, LruMap.get, Cache.serve]
  cases hheld : c.held key with
  | none =>
    rw [hheld, Option.map_none] at hlookup
    rw [hlookup]
    exact ⟨rfl, h⟩
  | some x =>
    rw [hheld, Option.map_some] at hlookup
    rw [hlookup]
    refine ⟨rfl, h.max_eq, h.represents.touch key x.1, fun n hn => ?_⟩
    have hmem : key ∈ lru.map := AList.lookup_isSome.mp (by rw [hlookup]; rfl)
    rw [size, size_mapSet, if_pos hmem]
    exact h.size_le n hn

theorem set (h : lru.Simulates maxSize c) (key : κ) (value : ν) :
    (lru.set key value).Simulates maxSize
      ((c.touch key value).keepWithin (lruCapacity maxSize)) := by
  rw [set_eq]
  refine simulates_evictOldest h.max_eq (h.represents.touch key value) fun n hn => ?_
  have hle := h.size_le n hn
  rw [size] at hle ⊢
  rw [size_mapSet]
  split <;> omega

theorem delete (h : lru.Simulates maxSize c) (key : κ) :
    (lru.delete key).2.Simulates maxSize (c.delete key) := by
  refine ⟨h.max_eq, h.represents.erase key, fun n hn => ?_⟩
  rw [LruMap.delete, size, AList.keys_erase]
  exact (List.erase_sublist.length_le).trans (h.size_le n hn)

/-- **One request.** -/
theorem serve (h : lru.Simulates maxSize c) (request : Request κ ν) :
    (lru.serve request).1 = (c.serve (lruCapacity maxSize) request).1 ∧
      (lru.serve request).2.Simulates maxSize (c.serve (lruCapacity maxSize) request).2 := by
  cases request with
  | get key => exact h.get key
  | set key value => exact ⟨rfl, h.set key value⟩
  | delete key => exact ⟨congrArg Answer.present (h.has_eq key), h.delete key⟩
  | has key => exact ⟨congrArg Answer.present (h.has_eq key), h⟩
  | clear => exact ⟨rfl, h.max_eq, ⟨[], .clear c, rfl⟩, fun _ _ => Nat.zero_le _⟩

/-- Nothing leaves while there is room. -/
theorem lookup_set_of_room (h : lru.Simulates maxSize c) {key : κ} (value : ν)
    (hroom : key ∈ lru.map ∨ lruCapacity maxSize ≠ some lru.size) (other : κ) :
    (lru.set key value).map.lookup other =
      if other = key then some value else lru.map.lookup other := by
  rw [set_eq, evictOldest_of_room ⟨lru.max, mapSet (lru.map.erase key) key value⟩ h.max_eq]
  · exact lookup_mapSet _ _ _ _
  · intro n hn
    have hle := h.size_le n hn
    rw [size] at hle ⊢
    rw [size_mapSet]
    split
    · exact hle
    · rename_i hmem
      have hne : n ≠ lru.map.keys.length := by
        rintro rfl
        exact hroom.resolve_left hmem hn
      omega

/-- **The least recently used key leaves**, and no other, when there is no room. -/
theorem lookup_set_of_full (h : lru.Simulates maxSize c) {key : κ} (value : ν)
    (hnew : key ∉ lru.map) (hfull : lruCapacity maxSize = some lru.size) :
    ∃ oldest, c.LeastRecent oldest ∧ ∀ other, (lru.set key value).map.lookup other =
      if other = oldest then none else if other = key then some value
      else lru.map.lookup other := by
  have hpos : 0 < lru.size := by
    obtain ⟨k, -, hk⟩ := Option.map_eq_some_iff.mp hfull
    omega
  obtain ⟨oldest, hmem, hfirst⟩ := firstKey_of_size hpos
  refine ⟨oldest, h.represents.leastRecent hfirst, fun other => ?_⟩
  have hfirst' : firstKey (mapSet (lru.map.erase key) key value) = some oldest := by
    rw [firstKey, keys_mapSet, List.erase_of_not_mem (mt AList.mem_keys.mpr hnew),
      List.getLast?_cons, ← firstKey, hfirst]
    rfl
  have hover : lru.size < (mapSet (lru.map.erase key) key value).keys.length := by
    rw [size_mapSet, if_neg hnew]
    exact Nat.lt_succ_self _
  rw [set_eq, evictOldest_of_over ⟨lru.max, mapSet (lru.map.erase key) key value⟩ h.max_eq hfull
    hover hfirst']
  by_cases heq : other = oldest
  · rw [if_pos heq, heq, AList.lookup_erase]
  · rw [if_neg heq, AList.lookup_erase_ne heq, lookup_mapSet]

end Simulates
end LruMap

/-- **`LruMap` is an LRU cache.** Whatever is asked of it, it answers as the reference cache of its
capacity does and holds what that holds, never more than its capacity; and when a new key is set on a
full map exactly the least recently used key leaves. -/
theorem lruMap_refines [DecidableEq κ] (maxSize : Option Int) (requests : List (Request κ ν)) :
    let (answers, lru) := Runs.answers LruMap.serve (LruMap.new maxSize) requests
    let (expected, reference) :=
      Runs.answers (Cache.serve (lruCapacity maxSize)) Cache.empty requests
    answers = expected ∧
    (∀ key, lru.map.lookup key = (reference.held key).map Prod.fst) ∧
    (∀ n, lruCapacity maxSize = some n → lru.size ≤ n) ∧
    ∀ key value,
      (key ∈ lru.map ∨ lruCapacity maxSize ≠ some lru.size → ∀ other,
        (lru.set key value).map.lookup other =
          if other = key then some value else lru.map.lookup other) ∧
      (key ∉ lru.map → lruCapacity maxSize = some lru.size →
        ∃ oldest, reference.LeastRecent oldest ∧ ∀ other,
          (lru.set key value).map.lookup other =
            if other = oldest then none else if other = key then some value
            else lru.map.lookup other) := by
  have hnew : (LruMap.new maxSize : LruMap κ ν).Simulates maxSize .empty := LruMap.simulates_new maxSize
  obtain ⟨hanswers, h⟩ :=
    Runs.answers_eq (fun request h => LruMap.Simulates.serve h request) requests hnew
  refine ⟨hanswers, h.represents.lookup, h.size_le, fun key value => ⟨?_, ?_⟩⟩
  · exact h.lookup_set_of_room value
  · exact h.lookup_set_of_full value

/-- The read of `a` saves it, so that `b` has to go. -/
example : (Runs.answers LruMap.serve (LruMap.new (some 2))
    [.set "a" 1, .set "b" 2, .get "a", .set "c" 3, .get "b", .get "a"]).1 =
      [.done, .done, .found (some 1), .done, .found none, .found (some 1)] := rfl

end StellarEduPay

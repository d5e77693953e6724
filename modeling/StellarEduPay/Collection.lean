import Mathlib.Algebra.Order.Ring.Int
import Mathlib.Data.List.Nodup
import Mathlib.Algebra.BigOperators.Group.List.Basic

/-! # Collections of documents with a unique key

A collection is the list of its documents in store order together with a proof
that no two of them share a key, so a duplicate cannot be stored.  Three
operations are enough for a document database under single-document writes:
`findOne` takes the first match in store order, `insert` refuses a key that is
taken, and `save` replaces the document that has the same key (`modify` is the same for an
update that is given as a function).

Denormalised totals are sums over a collection.  `sumBy_save` and `sumBy_insert`
say how a write moves such a sum, which is all a proof about totals has to know
about the list underneath.
-/

/-- Documents in store order, with a unique key. -/
@[ext] structure Collection (α κ : Type) (key : α → κ) where
  docs : List α
  nodup : (docs.map key).Nodup

namespace Collection
variable {α κ M : Type} {key : α → κ} (c : Collection α κ key)

/-- The collection without documents. -/
def empty : Collection α κ key := ⟨[], List.nodup_nil⟩

/-- The first document that meets `p`, in store order. -/
def findOne (p : α → Bool) : Option α := c.docs.find? p

theorem mem_of_findOne {p : α → Bool} {d : α} (h : c.findOne p = some d) : d ∈ c.docs :=
  List.mem_of_find?_eq_some h

theorem findOne_sat {p : α → Bool} {d : α} (h : c.findOne p = some d) : p d = true :=
  List.find?_some h

theorem findOne_eq_none {p : α → Bool} :
    c.findOne p = none ↔ ∀ d ∈ c.docs, p d = false := by
  simp [findOne]

/-- A key identifies its document. -/
theorem eq_of_key {d e : α} (hd : d ∈ c.docs) (he : e ∈ c.docs) (h : key d = key e) : d = e :=
  List.inj_on_of_nodup_map c.nodup hd he h

/-- A lookup that can only match one key finds the document of that key. -/
theorem findOne_eq_some_of_key {p : α → Bool} {d : α} (hd : d ∈ c.docs) (hp : p d = true)
    (hkey : ∀ e ∈ c.docs, p e = true → key e = key d) : c.findOne p = some d := by
  cases h : c.findOne p with
  | none => exact absurd hp (by simp [(c.findOne_eq_none.mp h) d hd])
  | some e =>
    have he := c.mem_of_findOne h
    exact congrArg some (c.eq_of_key he hd (hkey e he (c.findOne_sat h)))

/-- The first match of `p` is the first match of a stronger test it also meets. -/
theorem findOne_and {p q : α → Bool} {d : α} (h : c.findOne p = some d) (hq : q d = true) :
    (c.findOne fun e => p e && q e) = some d := by
  obtain ⟨hp, before, after, hdocs, hbefore⟩ := List.find?_eq_some_iff_append.mp h
  refine List.find?_eq_some_iff_append.mpr ⟨by simp [hp, hq], before, after, hdocs, fun e he => ?_⟩
  have := hbefore e he
  simp_all

variable [DecidableEq κ]

/-- Store a new document, unless its key is taken. -/
def insert (d : α) : Option (Collection α κ key) :=
  if h : key d ∈ c.docs.map key then none
  else some ⟨c.docs ++ [d], by
    rw [List.map_append, List.map_singleton]
    exact List.nodup_append.mpr ⟨c.nodup, List.nodup_singleton _, fun a ha b hb => by
      rw [List.mem_singleton.mp hb]
      rintro rfl
      exact h ha⟩⟩

theorem insert_docs {d : α} {c' : Collection α κ key} (h : c.insert d = some c') :
    c'.docs = c.docs ++ [d] := by
  unfold insert at h
  split at h
  · cases h
  · cases h; rfl

theorem insert_fresh {d : α} {c' : Collection α κ key} (h : c.insert d = some c') :
    ∀ e ∈ c.docs, key e ≠ key d := by
  unfold insert at h
  split at h
  · cases h
  · rename_i hn
    exact fun e he hk => hn (hk ▸ List.mem_map_of_mem he)

theorem insert_isSome {d : α} (h : ∀ e ∈ c.docs, key e ≠ key d) : ∃ c', c.insert d = some c' := by
  unfold insert
  rw [dif_neg]
  · exact ⟨_, rfl⟩
  · intro hm
    obtain ⟨e, he, hk⟩ := List.mem_map.mp hm
    exact h e he hk

/-- Replace the document that has `d`'s key by `d`. -/
def save (d : α) : Collection α κ key :=
  ⟨c.docs.map fun e => if key e = key d then d else e, by
    have : (c.docs.map fun e => if key e = key d then d else e).map key = c.docs.map key := by
      rw [List.map_map]
      refine List.map_congr_left fun e _ => ?_
      simp only [Function.comp]
      split <;> simp_all
    rw [this]
    exact c.nodup⟩

theorem save_docs (d : α) :
    (c.save d).docs = c.docs.map fun e => if key e = key d then d else e := rfl

theorem save_of_mem {d : α} (hd : d ∈ c.docs) : c.save d = c := by
  refine Collection.ext ?_
  rw [save_docs]
  refine (List.map_congr_left fun e he => ?_).trans (List.map_id _)
  split
  · rename_i hk; exact c.eq_of_key hd he hk.symm
  · rfl

/-- Of two saves of one document the later one counts. -/
theorem save_save {d d' : α} (hk : key d = key d') : (c.save d).save d' = c.save d' := by
  refine Collection.ext ?_
  rw [save_docs, save_docs, save_docs, List.map_map]
  refine List.map_congr_left fun e _ => ?_
  simp only [Function.comp, hk]
  by_cases he : key e = key d'
  · rw [if_pos he, if_pos hk, if_pos he]
  · rw [if_neg he, if_neg he]

theorem mem_save {d e : α} :
    e ∈ (c.save d).docs ↔ (e = d ∧ ∃ x ∈ c.docs, key x = key d) ∨ (e ∈ c.docs ∧ key e ≠ key d) := by
  rw [save_docs, List.mem_map]
  constructor
  · rintro ⟨x, hx, rfl⟩
    by_cases hk : key x = key d
    · exact Or.inl ⟨by simp [hk], x, hx, hk⟩
    · exact Or.inr ⟨by simpa [hk] using hx, by simp [hk]⟩
  · rintro (⟨rfl, x, hx, hk⟩ | ⟨he, hk⟩)
    · exact ⟨x, hx, by simp [hk]⟩
    · exact ⟨e, he, by simp [hk]⟩

/-- Change the document of key `k` in place; a change never moves a document to another
key. -/
def modify (k : κ) (f : α → α) (hf : ∀ d, key (f d) = key d) : Collection α κ key :=
  ⟨c.docs.map fun e => if key e = k then f e else e, by
    have : (c.docs.map fun e => if key e = k then f e else e).map key = c.docs.map key := by
      rw [List.map_map]
      refine List.map_congr_left fun e _ => ?_
      simp only [Function.comp]
      split
      · exact hf e
      · rfl
    rw [this]
    exact c.nodup⟩

theorem mem_modify {k : κ} {f : α → α} (hf : ∀ d, key (f d) = key d) {e : α} :
    e ∈ (c.modify k f hf).docs ↔ ∃ d ∈ c.docs, (if key d = k then f d else d) = e :=
  List.mem_map

/-- After a change of a stored document: its new version, and the other documents. -/
theorem mem_modify_key {f : α → α} (hf : ∀ d, key (f d) = key d) {d e : α} (hd : d ∈ c.docs) :
    e ∈ (c.modify (key d) f hf).docs ↔ e = f d ∨ (e ∈ c.docs ∧ key e ≠ key d) := by
  rw [mem_modify]
  constructor
  · rintro ⟨x, hx, rfl⟩
    by_cases hk : key x = key d
    · obtain rfl := c.eq_of_key hx hd hk
      exact Or.inl (if_pos rfl)
    · exact Or.inr ⟨by simpa [hk] using hx, by simp [hk]⟩
  · rintro (rfl | ⟨he, hk⟩)
    · exact ⟨d, hd, if_pos rfl⟩
    · exact ⟨e, he, if_neg hk⟩

/-- A change of one document can add at most one to a count. -/
theorem countP_modify_le {p : α → Bool} {k : κ} {f : α → α} (hf : ∀ d, key (f d) = key d) :
    (c.modify k f hf).docs.countP p ≤ c.docs.countP p + 1 := by
  have key' : ∀ l : List α, (l.map key).Nodup →
      (l.map fun e => if key e = k then f e else e).countP p ≤ l.countP p + 1 := by
    intro l
    induction l with
    | nil => simp
    | cons x l ih =>
      intro hn
      obtain ⟨hx, hn⟩ := List.nodup_cons.mp hn
      rw [List.map_cons, List.countP_cons, List.countP_cons]
      by_cases hk : key x = k
      · -- the head is the document: the tail is unchanged
        have htail : (l.map fun e => if key e = k then f e else e) = l := by
          refine (List.map_congr_left fun e he => if_neg fun h => ?_).trans (List.map_id l)
          exact hx ((hk.trans h.symm) ▸ List.mem_map_of_mem he)
        rw [htail, if_pos hk]
        split <;> split <;> omega
      · rw [if_neg hk]
        have := ih hn
        omega
  exact key' c.docs c.nodup

/-- A change that makes no document meet `p` adds nothing to its count. -/
theorem countP_modify_le_of_imp {p : α → Bool} {k : κ} {f : α → α} (hf : ∀ d, key (f d) = key d)
    (hp : ∀ d, p (f d) = true → p d = true) : (c.modify k f hf).docs.countP p ≤ c.docs.countP p := by
  refine (List.countP_map ..).trans_le (List.countP_mono_left fun d _ h => ?_)
  simp only [Function.comp] at h
  split at h
  · exact hp d h
  · exact h

/-- Delete the document of key `k`. -/
def remove (k : κ) : Collection α κ key :=
  ⟨c.docs.filter fun d => key d ≠ k, (List.filter_sublist.map key).nodup c.nodup⟩

theorem mem_remove {k : κ} {d : α} : d ∈ (c.remove k).docs ↔ d ∈ c.docs ∧ key d ≠ k := by
  simp [remove]

/-- One change in place after the other. -/
def modifyAll {β : Type} (xs : List β) (k : β → κ) (upd : β → α → α)
    (hupd : ∀ x d, key (upd x d) = key d) : Collection α κ key :=
  xs.foldl (fun c x => c.modify (k x) (upd x) (hupd x)) c

/-- Changes of distinct keys do not get in each other's way. -/
theorem modifyAll_docs {β : Type} {xs : List β} {k : β → κ} {upd : β → α → α}
    {hupd : ∀ x d, key (upd x d) = key d} (hnodup : (xs.map k).Nodup) :
    (c.modifyAll xs k upd hupd).docs =
      c.docs.map fun d => (xs.find? (k · = key d)).elim d (upd · d) := by
  induction xs generalizing c with
  | nil => simp [modifyAll]
  | cons x xs ih =>
    obtain ⟨hx, hnodup⟩ := List.nodup_cons.mp hnodup
    refine (ih (c.modify (k x) (upd x) (hupd x)) hnodup).trans ?_
    simp only [modify, List.map_map]
    refine List.map_congr_left fun d _ => ?_
    by_cases hkey : key d = k x
    · have hnone : xs.find? (k · = k x) = none :=
        List.find?_eq_none.mpr fun y hy => by
          simpa using fun hk => hx (List.mem_map.mpr ⟨y, hy, hk⟩)
      simp [hkey, hupd, hnone]
    · simp [hkey, Ne.symm hkey]

/-- Changes that documents of the collection call for themselves. -/
theorem modifyAll_filterMap {β : Type} {k : β → κ} {upd : β → α → α}
    {hupd : ∀ x d, key (upd x d) = key d} (p : α → Bool) {f : α → Option β}
    (hf : ∀ {d x}, f d = some x → k x = key d) :
    (c.modifyAll ((c.docs.filter p).filterMap f) k upd hupd).docs =
      c.docs.map fun d => if p d then (f d).elim d (upd · d) else d := by
  have hnodup : (((c.docs.filter p).filterMap f).map k).Nodup := by
    refine List.pairwise_map.mpr (List.pairwise_filterMap.mpr ?_)
    refine ((List.pairwise_map.mp c.nodup).filter p).imp fun hne x hx y hy => ?_
    rwa [hf hx, hf hy]
  rw [modifyAll_docs _ hnodup]
  refine List.map_congr_left fun d hd => ?_
  -- The change found under a document's key is the one it calls for.
  have hown : ∀ x ∈ (c.docs.filter p).filterMap f, k x = key d → p d = true ∧ f d = some x := by
    intro x hx hk
    obtain ⟨e, he, hfe⟩ := List.mem_filterMap.mp hx
    obtain ⟨he, hpe⟩ := List.mem_filter.mp he
    obtain rfl := c.eq_of_key he hd ((hf hfe).symm.trans hk)
    exact ⟨hpe, hfe⟩
  cases hfind : ((c.docs.filter p).filterMap f).find? (k · = key d) with
  | some x =>
    obtain ⟨hpd, hfd⟩ := hown x (List.mem_of_find?_eq_some hfind) (by simpa using List.find?_some hfind)
    simp [hpd, hfd]
  | none =>
    by_cases hpd : p d = true
    · cases hfd : f d with
      | none => simp
      | some x =>
        have hx := List.mem_filterMap.mpr ⟨d, List.mem_filter.mpr ⟨hd, hpd⟩, hfd⟩
        exact absurd (hf hfd) (by simpa using List.find?_eq_none.mp hfind x hx)
    · simp [hpd]

/-- Store a document, or change the one that has its key. -/
def upsert (d : α) (f : α → α) (hf : ∀ e, key (f e) = key e) : Collection α κ key :=
  match c.insert d with
  | some c' => c'
  | none => c.modify (key d) f hf

theorem mem_upsert {d e : α} {f : α → α} {hf : ∀ e, key (f e) = key e} :
    e ∈ (c.upsert d f hf).docs ↔
      (e = d ∧ ∀ x ∈ c.docs, key x ≠ key d) ∨ (∃ x ∈ c.docs, key x = key d ∧ e = f x) ∨
        (e ∈ c.docs ∧ key e ≠ key d) := by
  unfold upsert
  cases h : c.insert d with
  | some c' =>
    have hfresh := c.insert_fresh h
    rw [c.insert_docs h, List.mem_append, List.mem_singleton]
    constructor
    · rintro (he | rfl)
      · exact Or.inr (Or.inr ⟨he, hfresh e he⟩)
      · exact Or.inl ⟨rfl, hfresh⟩
    · rintro (⟨rfl, -⟩ | ⟨x, hx, hk, -⟩ | ⟨he, -⟩)
      · exact Or.inr rfl
      · exact absurd hk (hfresh x hx)
      · exact Or.inl he
  | none =>
    obtain ⟨y, hy, hyk⟩ : ∃ y ∈ c.docs, key y = key d := by
      by_contra hfree
      obtain ⟨c', hc'⟩ := c.insert_isSome (d := d) fun y hy hk => hfree ⟨y, hy, hk⟩
      rw [h] at hc'
      cases hc'
    have hmem := c.mem_modify_key (e := e) hf hy
    rw [hyk] at hmem
    dsimp only
    rw [hmem]
    constructor
    · rintro (rfl | he)
      · exact Or.inr (Or.inl ⟨y, hy, hyk, rfl⟩)
      · exact Or.inr (Or.inr he)
    · rintro (⟨-, hfree⟩ | ⟨x, hx, hk, rfl⟩ | he)
      · exact absurd hyk (hfree y hy)
      · exact Or.inl (by rw [c.eq_of_key hx hy (hk.trans hyk.symm)])
      · exact Or.inr he

/-! ## By key -/

/-- The document of a key. -/
def findKey (k : κ) : Option α := c.findOne fun d => key d = k

theorem findKey_eq_some {k : κ} {d : α} : c.findKey k = some d ↔ d ∈ c.docs ∧ key d = k := by
  constructor
  · intro h
    exact ⟨c.mem_of_findOne h, by simpa using c.findOne_sat h⟩
  · rintro ⟨hd, hk⟩
    exact c.findOne_eq_some_of_key hd (by simpa using hk) fun e _ he => by simp_all

theorem findKey_eq_none {k : κ} : c.findKey k = none ↔ ∀ d ∈ c.docs, key d ≠ k := by
  simp [findKey, c.findOne_eq_none]

/-- After an upsert the document of its key is the new one, or the old one changed. -/
theorem findKey_upsert {d : α} {f : α → α} {hf : ∀ e, key (f e) = key e} :
    (c.upsert d f hf).findKey (key d) = some ((c.findKey (key d)).elim d f) := by
  rw [findKey_eq_some]
  cases h : c.findKey (key d) with
  | none => exact ⟨c.mem_upsert.mpr (Or.inl ⟨rfl, c.findKey_eq_none.mp h⟩), rfl⟩
  | some e =>
    obtain ⟨he, hk⟩ := c.findKey_eq_some.mp h
    exact ⟨c.mem_upsert.mpr (Or.inr (Or.inl ⟨e, he, hk, rfl⟩)), (hf e).trans hk⟩

/-- An upsert leaves the other keys alone. -/
theorem findKey_upsert_of_ne {d : α} {f : α → α} {hf : ∀ e, key (f e) = key e} {k : κ}
    (hk : k ≠ key d) : (c.upsert d f hf).findKey k = c.findKey k := by
  refine Option.ext fun e => ?_
  rw [findKey_eq_some, findKey_eq_some, mem_upsert]
  constructor
  · rintro ⟨⟨rfl, -⟩ | ⟨x, -, hx, rfl⟩ | ⟨he, -⟩, hek⟩
    · exact absurd hek.symm hk
    · exact absurd (hek.symm.trans ((hf x).trans hx)) hk
    · exact ⟨he, hek⟩
  · rintro ⟨he, rfl⟩
    exact ⟨Or.inr (Or.inr ⟨he, hk⟩), rfl⟩

/-- One upsert after the other. -/
def upsertAll {β : Type} (xs : List β) (new : β → α) (upd : β → α → α)
    (hupd : ∀ x e, key (upd x e) = key e) : Collection α κ key :=
  xs.foldl (fun c x => c.upsert (new x) (upd x) (hupd x)) c

section UpsertAll
variable {β : Type} {xs : List β} {new : β → α} {upd : β → α → α}
  {hupd : ∀ x e, key (upd x e) = key e}

theorem findKey_upsertAll_of_notMem {k : κ} (hk : ∀ x ∈ xs, key (new x) ≠ k) :
    (c.upsertAll xs new upd hupd).findKey k = c.findKey k := by
  induction xs generalizing c with
  | nil => rfl
  | cons x xs ih =>
    refine (ih (c.upsert (new x) (upd x) (hupd x)) fun y hy => hk y (List.mem_cons_of_mem _ hy)).trans ?_
    exact c.findKey_upsert_of_ne (hk x List.mem_cons_self).symm

/-- Upserts of distinct keys do not get in each other's way. -/
theorem findKey_upsertAll_of_mem (hnodup : (xs.map fun x => key (new x)).Nodup) {x : β} (hx : x ∈ xs) :
    (c.upsertAll xs new upd hupd).findKey (key (new x)) =
      some ((c.findKey (key (new x))).elim (new x) (upd x)) := by
  induction xs generalizing c with
  | nil => cases hx
  | cons y xs ih =>
    obtain ⟨hy, hnodup⟩ := List.nodup_cons.mp hnodup
    rcases List.mem_cons.mp hx with rfl | hx
    · have hrest : ∀ z ∈ xs, key (new z) ≠ key (new x) := fun z hz hk =>
        hy (List.mem_map.mpr ⟨z, hz, hk⟩)
      exact ((c.upsert (new x) (upd x) (hupd x)).findKey_upsertAll_of_notMem hrest).trans
        c.findKey_upsert
    · have hne : key (new x) ≠ key (new y) := fun hk => hy (List.mem_map.mpr ⟨x, hx, hk⟩)
      refine (ih (c.upsert (new y) (upd y) (hupd y)) hnodup hx).trans ?_
      rw [c.findKey_upsert_of_ne hne]

end UpsertAll

/-- A lookup on fields a save does not touch finds the same document, in its new
version when it is the one saved. -/
theorem findOne_save {p : α → Bool} {d : α} (hp : ∀ e ∈ c.docs, key e = key d → p e = p d) :
    (c.save d).findOne p = (c.findOne p).map fun e => if key e = key d then d else e := by
  have key' : ∀ l : List α, (∀ e ∈ l, key e = key d → p e = p d) →
      (l.map fun e => if key e = key d then d else e).find? p =
        (l.find? p).map fun e => if key e = key d then d else e := by
    intro l
    induction l with
    | nil => simp
    | cons x l ih =>
      intro hl
      have ih := ih fun e he => hl e (List.mem_cons_of_mem _ he)
      have hx : p (if key x = key d then d else x) = p x := by
        split
        · rename_i hk; exact (hl x (List.mem_cons_self ..) hk).symm
        · rfl
      rw [List.map_cons, List.find?_cons, List.find?_cons, hx, ih]
      split <;> rfl
  exact key' c.docs hp

/-! ## Changing the type of the documents -/

section Map
variable {β : Type} {key' : β → κ} {f : α → β}

omit [DecidableEq κ] in
/-- Every document in another form, under the same key. -/
def map (f : α → β) (hf : ∀ d, key' (f d) = key d) : Collection β κ key' :=
  ⟨c.docs.map f, by
    rw [List.map_map, show key' ∘ f = key from funext hf]
    exact c.nodup⟩

theorem insert_map (hf : ∀ d, key' (f d) = key d) (d : α) :
    (c.map f hf).insert (f d) = (c.insert d).map fun c' => c'.map f hf := by
  have hkeys : (c.map f hf).docs.map key' = c.docs.map key := by
    simp only [map, List.map_map]
    exact List.map_congr_left fun e _ => hf e
  unfold insert
  by_cases h : key d ∈ c.docs.map key
  · rw [dif_pos h, dif_pos (by rw [hf, hkeys]; exact h)]
    rfl
  · rw [dif_neg h, dif_neg (by rw [hf, hkeys]; exact h)]
    exact congrArg some (Collection.ext (by simp [map]))

theorem modify_map (hf : ∀ d, key' (f d) = key d) {k : κ} {g : α → α} {g' : β → β}
    (hg : ∀ d, key (g d) = key d) (hg' : ∀ d, key' (g' d) = key' d)
    (hcomm : ∀ d, g' (f d) = f (g d)) :
    (c.map f hf).modify k g' hg' = (c.modify k g hg).map f hf := by
  refine Collection.ext ?_
  simp only [map, modify, List.map_map]
  refine List.map_congr_left fun d _ => ?_
  by_cases hk : key d = k
  · simp [hf, hk, hcomm]
  · simp [hf, hk]

end Map

/-! ## Sums over a collection -/

section Sum
variable [AddCommMonoid M] (f : α → M)

/-- The sum of `f` over the documents. -/
def sumBy : M := (c.docs.map f).sum

omit [DecidableEq κ] in
/-- Summing over the documents that meet `p` is summing `f` guarded by `p`. -/
theorem sum_filter (p : α → Bool) (l : List α) :
    ((l.filter p).map f).sum = (l.map fun d => if p d then f d else 0).sum := by
  induction l with
  | nil => rfl
  | cons x l ih =>
    rw [List.filter_cons]
    split <;> simp_all

omit [DecidableEq κ] in
theorem sumBy_congr {f g : α → M} (h : ∀ d ∈ c.docs, f d = g d) : c.sumBy f = c.sumBy g :=
  congrArg List.sum (List.map_congr_left h)

theorem sumBy_insert {d : α} {c' : Collection α κ key} (h : c.insert d = some c') :
    c'.sumBy f = c.sumBy f + f d := by
  simp [sumBy, c.insert_docs h]

omit [DecidableEq κ] in
theorem sumBy_eq_zero (h : ∀ d ∈ c.docs, f d = 0) : c.sumBy f = 0 := by
  rw [sumBy, List.map_congr_left h]
  simp

omit [DecidableEq κ] in
/-- A sum to which only one document contributes. -/
theorem sumBy_eq_single {d : α} (hd : d ∈ c.docs)
    (h : ∀ e ∈ c.docs, key e ≠ key d → f e = 0) : c.sumBy f = f d := by
  have key' : ∀ l : List α, (l.map key).Nodup → d ∈ l →
      (∀ e ∈ l, key e ≠ key d → f e = 0) → (l.map f).sum = f d := by
    intro l
    induction l with
    | nil => intro _ hm; cases hm
    | cons x l ih =>
      intro hn hm hl
      obtain ⟨hx, hn⟩ := List.nodup_cons.mp hn
      rw [List.map_cons, List.sum_cons]
      rcases List.mem_cons.mp hm with rfl | hm
      · have htail : ∀ y ∈ l, f y = 0 := fun y hy =>
          hl y (List.mem_cons_of_mem _ hy) fun hk => hx (hk ▸ List.mem_map_of_mem hy)
        rw [List.map_congr_left htail]
        simp
      · have hne : key x ≠ key d := fun hk => hx (hk ▸ List.mem_map_of_mem hm)
        rw [hl x (List.mem_cons_self ..) hne, zero_add]
        exact ih hn hm fun e he => hl e (List.mem_cons_of_mem _ he)
  exact key' c.docs c.nodup hd h

/-- **A save moves a sum by the new contribution against the old one.** -/
theorem sumBy_save {d₀ d : α} (hd : d₀ ∈ c.docs) (hk : key d₀ = key d) :
    (c.save d).sumBy f + f d₀ = c.sumBy f + f d := by
  have key' : ∀ l : List α, (l.map key).Nodup → d₀ ∈ l →
      ((l.map fun e => if key e = key d then d else e).map f).sum + f d₀ =
        (l.map f).sum + f d := by
    intro l
    induction l with
    | nil => intro _ h; cases h
    | cons x l ih =>
      intro hn hmem
      obtain ⟨hx, hn⟩ := List.nodup_cons.mp hn
      rcases List.mem_cons.mp hmem with rfl | hmem
      · -- `d₀` is the head: no later document has its key, so the tail is unchanged
        have htail : (l.map fun e => if key e = key d then d else e) = l := by
          refine List.map_congr_left (g := id) (fun e he => ?_) |>.trans (List.map_id l)
          have hne : key e ≠ key d := fun h => hx (hk.trans h.symm ▸ List.mem_map_of_mem he)
          exact if_neg hne
        rw [List.map_cons, if_pos hk, htail, List.map_cons, List.map_cons, List.sum_cons,
          List.sum_cons]
        ac_rfl
      · have hne : key x ≠ key d := fun h => hx ((h.trans hk.symm) ▸ List.mem_map_of_mem hmem)
        rw [List.map_cons, if_neg hne, List.map_cons, List.map_cons, List.sum_cons,
          List.sum_cons, add_assoc, ih hn hmem, add_assoc]
  exact key' c.docs c.nodup hd

end Sum

end Collection

/-! ## Secondary unique indexes -/

/-- A collection with further unique indexes.  `entries d` are the index entries
document `d` occupies — none where a partial index leaves it out — and no two
documents share one. -/
structure Indexed (α κ ι : Type) (key : α → κ) (entries : α → List ι) extends
    Collection α κ key where
  unique : ∀ d ∈ docs, ∀ e ∈ docs, ∀ i, i ∈ entries d → i ∈ entries e → key d = key e

namespace Indexed
variable {α κ ι : Type} {key : α → κ} {entries : α → List ι} [DecidableEq κ] [DecidableEq ι]
  (c : Indexed α κ ι key entries)

/-- Does another document occupy an index entry that `d` asks for? -/
def Clashes (d : α) : Prop :=
  ∃ e ∈ c.docs, key e ≠ key d ∧ ∃ i ∈ entries e, i ∈ entries d

instance (d : α) : Decidable (c.Clashes d) :=
  inferInstanceAs (Decidable (∃ e ∈ c.docs, key e ≠ key d ∧ ∃ i ∈ entries e, i ∈ entries d))

/-- Store a new document, unless its key or an index entry is taken. -/
def create (d : α) : Option (Indexed α κ ι key entries) :=
  if h : c.Clashes d then none
  else
    match hc : c.toCollection.insert d with
    | none => none
    | some c' => some ⟨c', by
        intro x hx y hy i hix hiy
        rw [c.insert_docs hc, List.mem_append, List.mem_singleton] at hx hy
        have fresh := c.insert_fresh hc
        rcases hx with hx | rfl <;> rcases hy with hy | rfl
        · exact c.unique x hx y hy i hix hiy
        · exact absurd ⟨x, hx, fresh x hx, i, hix, hiy⟩ h
        · exact absurd ⟨y, hy, fresh y hy, i, hiy, hix⟩ h
        · rfl⟩

theorem create_docs {d : α} {c' : Indexed α κ ι key entries} (h : c.create d = some c') :
    c'.docs = c.docs ++ [d] := by
  unfold create at h
  split at h
  · cases h
  · split at h
    · cases h
    · rename_i hc
      cases h
      exact c.insert_docs hc

theorem create_fresh {d : α} {c' : Indexed α κ ι key entries} (h : c.create d = some c') :
    ∀ e ∈ c.docs, key e ≠ key d := by
  unfold create at h
  split at h
  · cases h
  · split at h
    · cases h
    · rename_i hc
      exact c.insert_fresh hc

theorem not_clashes_of_create {d : α} {c' : Indexed α κ ι key entries} (h : c.create d = some c') :
    ¬ c.Clashes d := by
  intro hc
  rw [create, dif_pos hc] at h
  cases h

theorem create_isSome {d : α} (hk : ∀ e ∈ c.docs, key e ≠ key d) (hc : ¬ c.Clashes d) :
    ∃ c', c.create d = some c' := by
  obtain ⟨c', hc'⟩ := c.insert_isSome hk
  unfold create
  rw [dif_neg hc]
  split
  · rename_i h; rw [hc'] at h; cases h
  · exact ⟨_, rfl⟩

/-- Replace the document that has `d`'s key, unless an index entry is taken. -/
def update (d : α) : Option (Indexed α κ ι key entries) :=
  if h : c.Clashes d then none
  else some ⟨c.toCollection.save d, by
    intro x hx y hy i hix hiy
    rcases c.mem_save.mp hx with ⟨rfl, -⟩ | ⟨hx', hkx⟩ <;>
      rcases c.mem_save.mp hy with ⟨rfl, -⟩ | ⟨hy', hky⟩
    · rfl
    · exact absurd ⟨y, hy', hky, i, hiy, hix⟩ h
    · exact absurd ⟨x, hx', hkx, i, hix, hiy⟩ h
    · exact c.unique x hx' y hy' i hix hiy⟩

theorem update_toCollection {d : α} {c' : Indexed α κ ι key entries} (h : c.update d = some c') :
    c'.toCollection = c.toCollection.save d := by
  unfold update at h
  split at h
  · cases h
  · cases h; rfl

theorem not_clashes_of_update {d : α} {c' : Indexed α κ ι key entries} (h : c.update d = some c') :
    ¬ c.Clashes d := by
  intro hc
  rw [update, dif_pos hc] at h
  cases h

theorem update_isSome {d : α} (hc : ¬ c.Clashes d) : ∃ c', c.update d = some c' := by
  unfold update
  rw [dif_neg hc]
  exact ⟨_, rfl⟩

end Indexed

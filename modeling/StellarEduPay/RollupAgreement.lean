import StellarEduPay.MetricsRollup

/-! # Rebuilt against incremental rollups

The two ways to the figures of a row agree where the payments of a row's month were all
matched by the reconciliation.  A reconciliation replaces a month by the part of it that lies
in the window, counts no payment without a confirmation time, which the increments count on
the day they run, and leaves a day alone that has no payment left.
-/
namespace StellarEduPay
open Grouping

section Rows
variable {κ : Type} [DecidableEq κ] {strict : Bool} {schoolId : String}

/-- The figures of a row, where there is one. -/
def figuresAt (rows : MetricsRows κ) (schoolId : String) (period : κ) : Option MetricsFigures :=
  (rows.findKey (schoolId, period)).map MetricsRow.figures

theorem figuresAt_empty (schoolId : String) (period : κ) :
    figuresAt Collection.empty schoolId period = none := by
  simp [figuresAt, Collection.findKey, Collection.findOne, Collection.empty]

theorem sum_figures_apply (l : List MetricsFigures) (path : MetricsPath) :
    l.sum path = (l.map fun figures => figures path).sum := by
  induction l with
  | nil => rfl
  | cons figures l ih => rw [List.sum_cons, Pi.add_apply, ih, List.map_cons, List.sum_cons]

/-! ## Increments -/

theorem figuresAt_incrementRow (strict : Bool) (rows : MetricsRows κ) (p : RolledPayment)
    (period : κ) :
    figuresAt (incrementRow strict period rows p) p.schoolId period =
      some ((figuresAt rows p.schoolId period).getD 0 + keep strict (incrementFigures p)) := by
  have hrow : (incrementRow strict period rows p).findKey (p.schoolId, period) =
      some ((rows.findKey (p.schoolId, period)).elim (insertedRow strict period p)
        (MetricsRow.increment strict p)) := rows.findKey_upsert
  rw [figuresAt, hrow, figuresAt]
  cases rows.findKey (p.schoolId, period) with
  | none => exact congrArg some (zero_add _).symm
  | some row => rfl

theorem figuresAt_incrementRow_of_ne {rows : MetricsRows κ} {p : RolledPayment} {period k : κ}
    (h : (schoolId, k) ≠ (p.schoolId, period)) :
    figuresAt (incrementRow strict period rows p) schoolId k = figuresAt rows schoolId k :=
  congrArg (Option.map MetricsRow.figures) (rows.findKey_upsert_of_ne h)

/-- The increments of one collection, for payments and the times they were saved. -/
def incrementRows (strict : Bool) (period : RolledPayment × Nat → κ) (rows : MetricsRows κ)
    (xs : List (RolledPayment × Nat)) : MetricsRows κ :=
  xs.foldl (fun rows x =>
    if x.1.status ≠ .success then rows else incrementRow strict (period x) rows x.1) rows

/-- The payments that increment a row. -/
def savedIn (schoolId : String) (period : RolledPayment × Nat → κ) (k : κ)
    (xs : List (RolledPayment × Nat)) : List (RolledPayment × Nat) :=
  xs.filter fun x => x.1.status = .success ∧ x.1.schoolId = schoolId ∧ period x = k

/-- **What increments leave in a row**: the sum over the payments that increment it. -/
theorem figuresAt_incrementRows (period : RolledPayment × Nat → κ) (rows : MetricsRows κ)
    (xs : List (RolledPayment × Nat)) (k : κ) :
    figuresAt (incrementRows strict period rows xs) schoolId k =
      if savedIn schoolId period k xs = [] then figuresAt rows schoolId k
      else some ((figuresAt rows schoolId k).getD 0 +
        ((savedIn schoolId period k xs).map fun x => keep strict (incrementFigures x.1)).sum) := by
  induction xs generalizing rows with
  | nil => rfl
  | cons x xs ih =>
    have hstep := ih (if x.1.status ≠ .success then rows else incrementRow strict (period x) rows x.1)
    refine hstep.trans ?_
    by_cases hin : x.1.status = .success ∧ x.1.schoolId = schoolId ∧ period x = k
    · obtain ⟨hsuccess, rfl, rfl⟩ := hin
      have hsaved : savedIn x.1.schoolId period (period x) (x :: xs) =
          x :: savedIn x.1.schoolId period (period x) xs := by
        simp [savedIn, hsuccess]
      rw [if_neg (not_not_intro hsuccess), figuresAt_incrementRow, hsaved,
        if_neg (List.cons_ne_nil _ _), List.map_cons, List.sum_cons, Option.getD_some]
      split
      · rename_i hnone
        rw [hnone, List.map_nil, List.sum_nil, add_zero]
      · rw [add_assoc]
    · have hsaved : savedIn schoolId period k (x :: xs) = savedIn schoolId period k xs := by
        rw [savedIn, List.filter_cons, if_neg (by simpa using hin)]
        rfl
      have hother : figuresAt (if x.1.status ≠ .success then rows
          else incrementRow strict (period x) rows x.1) schoolId k = figuresAt rows schoolId k := by
        split
        · rfl
        · rename_i hsuccess
          refine figuresAt_incrementRow_of_ne fun hk => hin ?_
          exact ⟨not_not.mp hsuccess, (congrArg Prod.fst hk).symm, (congrArg Prod.snd hk).symm⟩
      rw [hsaved, hother]

/-! ## Rebuilt rows -/

theorem figuresAt_rebuildRows_of_notMem {now : Nat} {rows : MetricsRows κ}
    {rebuilt : List (κ × MetricsGroup)} {k : κ} (hk : ∀ r ∈ rebuilt, r.1 ≠ k) :
    figuresAt (rebuildRows strict now schoolId rows rebuilt) schoolId k =
      figuresAt rows schoolId k := by
  refine congrArg (Option.map MetricsRow.figures) (rows.findKey_upsertAll_of_notMem ?_)
  exact fun r hr heq => hk r hr (congrArg Prod.snd heq)

omit [DecidableEq κ] in
theorem rebuilt_nodup {rebuilt : List (κ × MetricsGroup)} {now : Nat}
    (hkeys : (rebuilt.map Prod.fst).Nodup) :
    (rebuilt.map fun r => (rebuiltRow strict now schoolId r).key).Nodup := by
  have hmap : (rebuilt.map fun r => (rebuiltRow strict now schoolId r).key) =
      (rebuilt.map Prod.fst).map fun k => (schoolId, k) := by
    rw [List.map_map]
    rfl
  rw [hmap]
  exact hkeys.map fun _ _ h => congrArg Prod.snd h

theorem figuresAt_rebuildRows {now : Nat} {rows : MetricsRows κ} {rebuilt : List (κ × MetricsGroup)}
    (hkeys : (rebuilt.map Prod.fst).Nodup) {r : κ × MetricsGroup} (hr : r ∈ rebuilt) :
    figuresAt (rebuildRows strict now schoolId rows rebuilt) schoolId r.1 =
      some fun path => if path.kept strict then r.2.figures path
        else (figuresAt rows schoolId r.1).getD 0 path := by
  have hrow : (rebuildRows strict now schoolId rows rebuilt).findKey (schoolId, r.1) =
      some ((rows.findKey (schoolId, r.1)).elim (rebuiltRow strict now schoolId r)
        (MetricsRow.rebuild strict now r.2)) :=
    rows.findKey_upsertAll_of_mem (rebuilt_nodup hkeys) hr
  rw [figuresAt, hrow, figuresAt]
  cases rows.findKey (schoolId, r.1) with
  | none => rfl
  | some row => rfl

omit [DecidableEq κ] in
theorem rebuild_rebuild (strict : Bool) (now now' : Nat) (g : MetricsGroup) (row : MetricsRow κ) :
    MetricsRow.rebuild strict now' g (MetricsRow.rebuild strict now g row) =
      MetricsRow.rebuild strict now' g row := by
  have hfigures : (fun path : MetricsPath => if path.kept strict = true then g.figures path
      else if path.kept strict = true then g.figures path else row.figures path) =
        fun path => if path.kept strict = true then g.figures path else row.figures path := by
    funext path
    by_cases hkept : path.kept strict = true
    · rw [if_pos hkept, if_pos hkept]
    · rw [if_neg hkept, if_neg hkept]
  simp only [MetricsRow.rebuild, hfigures]

omit [DecidableEq κ] in
theorem rebuild_rebuiltRow (strict : Bool) (now now' : Nat) (schoolId : String)
    (r : κ × MetricsGroup) :
    MetricsRow.rebuild strict now' r.2 (rebuiltRow strict now schoolId r) =
      rebuiltRow strict now' schoolId r := by
  have hfigures : (fun path : MetricsPath => if path.kept strict = true then r.2.figures path
      else keep strict r.2.figures path) = keep strict r.2.figures := by
    funext path
    by_cases hkept : path.kept strict = true
    · rw [if_pos hkept, keep, if_pos hkept]
    · rw [if_neg hkept]
  simp only [MetricsRow.rebuild, rebuiltRow, hfigures]

/-- A rebuilt row does not depend on the row before but for the figures that are not stored, so
rebuilding it twice is rebuilding it once. -/
theorem rebuildRows_again {now now' : Nat} {rows : MetricsRows κ} {rebuilt : List (κ × MetricsGroup)}
    (hkeys : (rebuilt.map Prod.fst).Nodup) (k : String × κ) :
    (rebuildRows strict now' schoolId (rebuildRows strict now schoolId rows rebuilt) rebuilt).findKey
        k = (rebuildRows strict now' schoolId rows rebuilt).findKey k := by
  by_cases hin : ∃ r ∈ rebuilt, (rebuiltRow strict now schoolId r).key = k
  · obtain ⟨r, hr, rfl⟩ := hin
    have hfirst : (rebuildRows strict now schoolId rows rebuilt).findKey
        (rebuiltRow strict now schoolId r).key =
          some ((rows.findKey (schoolId, r.1)).elim (rebuiltRow strict now schoolId r)
            (MetricsRow.rebuild strict now r.2)) :=
      rows.findKey_upsertAll_of_mem (rebuilt_nodup hkeys) hr
    have hlater : ∀ rows' : MetricsRows κ, (rebuildRows strict now' schoolId rows' rebuilt).findKey
        (rebuiltRow strict now schoolId r).key =
          some ((rows'.findKey (rebuiltRow strict now schoolId r).key).elim
            (rebuiltRow strict now' schoolId r) (MetricsRow.rebuild strict now' r.2)) :=
      fun rows' => rows'.findKey_upsertAll_of_mem (rebuilt_nodup hkeys) hr
    rw [hlater, hlater, hfirst, Option.elim_some]
    refine congrArg some ?_
    change _ = (rows.findKey (schoolId, r.1)).elim _ _
    cases rows.findKey (schoolId, r.1) with
    | none => exact rebuild_rebuiltRow strict now now' schoolId r
    | some row => exact rebuild_rebuild strict now now' r.2 row
  · have hkeep : ∀ (time : Nat) (rows' : MetricsRows κ),
        (rebuildRows strict time schoolId rows' rebuilt).findKey k = rows'.findKey k := by
      intro time rows'
      exact rows'.findKey_upsertAll_of_notMem fun r hr hk => hin ⟨r, hr, hk⟩
    rw [hkeep, hkeep, hkeep]

end Rows

/-! ## The figures of a group -/

section Groups
variable {ps : List RolledPayment}

/-- What the payments of a group add up to. -/
def added (ps : List RolledPayment) (path : MetricsPath) : Int :=
  (ps.map fun p => incrementFigures p path).sum

theorem sum_keep (strict : Bool) (ps : List RolledPayment) :
    (ps.map fun p => keep strict (incrementFigures p)).sum = keep strict (added ps) := by
  funext path
  rw [sum_figures_apply, List.map_map]
  by_cases hkept : path.kept strict = true
  · rw [keep, if_pos hkept, added]
    refine congrArg List.sum (List.map_congr_left fun p _ => ?_)
    simp only [Function.comp_apply, keep, if_pos hkept]
  · rw [keep, if_neg hkept]
    refine List.sum_eq_zero fun n hn => ?_
    obtain ⟨p, -, rfl⟩ := List.mem_map.mp hn
    simp only [Function.comp_apply, keep, if_neg hkept]

theorem countP_eq_sum (test : RolledPayment → Bool) (ps : List RolledPayment) :
    (ps.countP test : Int) = (ps.map fun p => if test p = true then (1 : Int) else 0).sum := by
  induction ps with
  | nil => rfl
  | cons p ps ih =>
    rw [List.countP_cons, List.map_cons, List.sum_cons, ← ih]
    split
    · omega
    · omega

/-- A day is rebuilt to what its payments add up to, its asset totals only if the last amount
of each asset is all of it. -/
theorem dailyRow_figures (ps : List RolledPayment) {path : MetricsPath}
    (hassets : ∀ asset, path = .assetTotals asset → lastAmount ps asset = added ps path) :
    (dailyRow ps).figures path = added ps path := by
  cases path with
  | paymentCount =>
    simp [dailyRow, added, incrementFigures]
  | totalFiatAmount => rfl
  | count status =>
    have hcount := countP_eq_sum (fun p => p.feeValidationStatus = status) ps
    simpa [dailyRow, added, incrementFigures] using hcount
  | assetTotals asset => exact hassets asset rfl

theorem dailyRows_keys (ps : List RolledPayment) :
    (dailyRows ps).map Prod.fst = groupKeys RolledPayment.day ps := by
  rw [dailyRows, List.map_map]
  exact List.map_id _

theorem monthlyRows_keys (days : List (Nat × MetricsGroup)) :
    (monthlyRows days).map Prod.fst = groupKeys (fun r => monthKey r.1) days := by
  rw [monthlyRows, List.map_map]
  exact List.map_id _

/-- The payments of a month. -/
def inMonth (month : Nat × Nat) (ps : List RolledPayment) : List RolledPayment :=
  ps.filter fun p => monthKey p.day = month

/-- **A month is rebuilt to what its payments add up to**, if its days are. -/
theorem monthlyRow_figures {month : Nat × Nat} {path : MetricsPath}
    (hdays : ∀ day, monthKey day = month →
      (dailyRow (group RolledPayment.day ps day)).figures path =
        added (group RolledPayment.day ps day) path) :
    (monthlyRow (group (fun r => monthKey r.1) (dailyRows ps) month)).figures path =
      added (inMonth month ps) path := by
  have hgroup : group (fun r => monthKey r.1) (dailyRows ps) month =
      ((groupKeys RolledPayment.day ps).filter fun day => monthKey day = month).map
        fun day => (day, dailyRow (group RolledPayment.day ps day)) := by
    rw [group, dailyRows, List.filter_map]
    rfl
  have hsame : ∀ day, monthKey day = month →
      group RolledPayment.day ps day = group RolledPayment.day (inMonth month ps) day := by
    intro day hday
    rw [group, group, inMonth, List.filter_filter]
    refine List.filter_congr fun p _ => ?_
    by_cases hp : p.day = day
    · simp [hp, hday]
    · simp [hp]
  have hkeys : ((groupKeys RolledPayment.day ps).filter fun day => monthKey day = month).Nodup :=
    (groupKeys_nodup _ _).filter _
  have hcover : ∀ p ∈ inMonth month ps,
      p.day ∈ (groupKeys RolledPayment.day ps).filter fun day => monthKey day = month := by
    intro p hp
    obtain ⟨hmem, hmonth⟩ := List.mem_filter.mp hp
    exact List.mem_filter.mpr ⟨mem_groupKeys.mpr ⟨p, hmem, rfl⟩, hmonth⟩
  change ((group (fun r => monthKey r.1) (dailyRows ps) month).map fun r => r.2.figures).sum path = _
  rw [sum_figures_apply, hgroup, List.map_map, List.map_map, added,
    ← sum_groups (fun p => incrementFigures p path) RolledPayment.day hkeys hcover]
  refine congrArg List.sum (List.map_congr_left fun day hday => ?_)
  have hmonth : monthKey day = month := by simpa using (List.mem_filter.mp hday).2
  exact (hdays day hmonth).trans (by rw [added, hsame day hmonth])

end Groups

/-! ## The rows of a window -/

/-- The increments of the payments, each at the time it was saved. -/
def incrementAll (strict : Bool) (xs : List (RolledPayment × Nat)) (metrics : Metrics) : Metrics :=
  xs.foldl (fun metrics x => incrementPaymentMetrics strict x.2 metrics x.1) metrics

/-- The day an increment counts a payment on. -/
def savedDay (x : RolledPayment × Nat) : Nat := dayKey (x.1.confirmedAt.getD x.2)

/-- **Rebuilt rollups are the incremental ones**: on the days and months of the window the
increments and the reconciliation of the payments leave the same figures; reconciling again
changes nothing (but the time of the last reconciliation); and once the payments have become
`after`, a reconciliation leaves no figures on a day that has no payment left. -/
structure RollupsAgree (strict : Bool) (schoolId : String) (w : MetricsWindow)
    (xs : List (RolledPayment × Nat)) (after : List RolledPayment) (now : Nat) : Prop where
  days : ∀ day, w.HasDay day →
    figuresAt (incrementAll strict xs .empty).daily schoolId day =
      figuresAt (reconcileMetrics strict now schoolId w (xs.map Prod.fst) .empty).daily schoolId day
  months : ∀ day, w.HasDay day →
    figuresAt (incrementAll strict xs .empty).monthly schoolId (monthKey day) =
      figuresAt (reconcileMetrics strict now schoolId w (xs.map Prod.fst) .empty).monthly schoolId
        (monthKey day)
  idempotent : ∀ (metrics : Metrics) (now' : Nat),
    (∀ k, (reconcileMetrics strict now' schoolId w after
        (reconcileMetrics strict now schoolId w after metrics)).daily.findKey k =
      (reconcileMetrics strict now' schoolId w after metrics).daily.findKey k) ∧
    ∀ k, (reconcileMetrics strict now' schoolId w after
        (reconcileMetrics strict now schoolId w after metrics)).monthly.findKey k =
      (reconcileMetrics strict now' schoolId w after metrics).monthly.findKey k
  resets : ∀ day, w.HasDay day → (∀ p ∈ after, reconciled schoolId w p = true → p.day ≠ day) →
    (figuresAt (reconcileMetrics strict now schoolId w after (incrementAll strict xs .empty)).daily
      schoolId day).getD 0 = 0

/-- What the payments have to be like. -/
structure RollupSafe (strict : Bool) (schoolId : String) (w : MetricsWindow)
    (xs : List (RolledPayment × Nat)) (after : List RolledPayment) : Prop where
  inWindow : ∀ x ∈ xs, x.1.status = .success → x.1.schoolId = schoolId →
    (∃ day, w.HasDay day ∧ monthKey day = monthKey (savedDay x)) →
    reconciled schoolId w x.1 = true
  lastIsAll : strict = false → ∀ day, w.HasDay day → ∀ asset,
    lastAmount (group RolledPayment.day ((xs.map Prod.fst).filter (reconciled schoolId w)) day)
        asset =
      added (group RolledPayment.day ((xs.map Prod.fst).filter (reconciled schoolId w)) day)
        (.assetTotals asset)
  noneEmptied : ∀ x ∈ xs, x.1.status = .success → x.1.schoolId = schoolId →
    w.HasDay (savedDay x) → ∃ p ∈ after, reconciled schoolId w p = true ∧ p.day = savedDay x

section Agreement
variable {strict : Bool} {schoolId : String} {w : MetricsWindow} {xs : List (RolledPayment × Nat)}
  {after : List RolledPayment} {now : Nat}

theorem incrementAll_rows (strict : Bool) (xs : List (RolledPayment × Nat)) (metrics : Metrics) :
    (incrementAll strict xs metrics).daily = incrementRows strict savedDay metrics.daily xs ∧
      (incrementAll strict xs metrics).monthly =
        incrementRows strict (fun x => monthKey (savedDay x)) metrics.monthly xs := by
  induction xs generalizing metrics with
  | nil => exact ⟨rfl, rfl⟩
  | cons x xs ih =>
    obtain ⟨hdaily, hmonthly⟩ := ih (incrementPaymentMetrics strict x.2 metrics x.1)
    have hstep : incrementAll strict (x :: xs) metrics =
        incrementAll strict xs (incrementPaymentMetrics strict x.2 metrics x.1) := rfl
    rw [hstep, hdaily, hmonthly, incrementPaymentMetrics]
    by_cases hsuccess : x.1.status = .success
    · rw [if_neg (not_not_intro hsuccess)]
      simp [incrementRows, hsuccess, savedDay]
    · rw [if_pos hsuccess]
      simp [incrementRows, hsuccess]

theorem incrementAll_daily (strict : Bool) (xs : List (RolledPayment × Nat)) :
    (incrementAll strict xs .empty).daily = incrementRows strict savedDay .empty xs :=
  (incrementAll_rows strict xs .empty).1

theorem incrementAll_monthly (strict : Bool) (xs : List (RolledPayment × Nat)) :
    (incrementAll strict xs .empty).monthly =
      incrementRows strict (fun x => monthKey (savedDay x)) .empty xs :=
  (incrementAll_rows strict xs .empty).2

/-- The row of a day after a reconciliation: rebuilt, if a payment was matched on it. -/
theorem figuresAt_reconcile_daily (metrics : Metrics) (ps : List RolledPayment) (day : Nat) :
    figuresAt (reconcileMetrics strict now schoolId w ps metrics).daily schoolId day =
      if group RolledPayment.day (ps.filter (reconciled schoolId w)) day = [] then
        figuresAt metrics.daily schoolId day
      else some fun path => if path.kept strict then
          (dailyRow (group RolledPayment.day (ps.filter (reconciled schoolId w)) day)).figures path
        else (figuresAt metrics.daily schoolId day).getD 0 path := by
  split
  · rename_i hnone
    refine figuresAt_rebuildRows_of_notMem fun r hr hk => group_eq_nil.mp hnone ?_
    rw [← dailyRows_keys, ← hk]
    exact List.mem_map_of_mem hr
  · rename_i hsome
    refine figuresAt_rebuildRows (by rw [dailyRows_keys]; exact groupKeys_nodup _ _)
      (r := (day, dailyRow (group RolledPayment.day (ps.filter (reconciled schoolId w)) day))) ?_
    refine List.mem_map.mpr ⟨day, ?_, rfl⟩
    by_contra hday
    exact hsome (group_eq_nil.mpr hday)

theorem figuresAt_reconcile_monthly (metrics : Metrics) (ps : List RolledPayment)
    (month : Nat × Nat) :
    figuresAt (reconcileMetrics strict now schoolId w ps metrics).monthly schoolId month =
      if inMonth month (ps.filter (reconciled schoolId w)) = [] then
        figuresAt metrics.monthly schoolId month
      else some fun path => if path.kept strict then
          (monthlyRow (group (fun r => monthKey r.1)
            (dailyRows (ps.filter (reconciled schoolId w))) month)).figures path
        else (figuresAt metrics.monthly schoolId month).getD 0 path := by
  have hkeys : month ∈ groupKeys (fun r => monthKey r.1)
      (dailyRows (ps.filter (reconciled schoolId w))) ↔
        inMonth month (ps.filter (reconciled schoolId w)) ≠ [] := by
    rw [mem_groupKeys, inMonth, ne_eq, List.filter_eq_nil_iff]
    constructor
    · rintro ⟨r, hr, rfl⟩ hnone
      obtain ⟨day, hday, rfl⟩ := List.mem_map.mp hr
      obtain ⟨p, hp, rfl⟩ := mem_groupKeys.mp hday
      exact hnone p hp (by simp)
    · intro hsome
      by_contra hnone
      refine hsome fun p hp hmonth => hnone ?_
      refine ⟨_, List.mem_map.mpr ⟨p.day, mem_groupKeys.mpr ⟨p, hp, rfl⟩, rfl⟩, ?_⟩
      simpa using hmonth
  split
  · rename_i hnone
    refine figuresAt_rebuildRows_of_notMem fun r hr hk => hkeys.mp ?_ hnone
    rw [← monthlyRows_keys, ← hk]
    exact List.mem_map_of_mem hr
  · rename_i hsome
    refine figuresAt_rebuildRows (by rw [monthlyRows_keys]; exact groupKeys_nodup _ _)
      (r := (month, monthlyRow (group (fun r => monthKey r.1)
        (dailyRows (ps.filter (reconciled schoolId w))) month))) ?_
    exact List.mem_map.mpr ⟨month, hkeys.mpr hsome, rfl⟩

theorem reconcileMetrics_again (metrics : Metrics) (now now' : Nat) :
    (∀ k, (reconcileMetrics strict now' schoolId w after
        (reconcileMetrics strict now schoolId w after metrics)).daily.findKey k =
      (reconcileMetrics strict now' schoolId w after metrics).daily.findKey k) ∧
    ∀ k, (reconcileMetrics strict now' schoolId w after
        (reconcileMetrics strict now schoolId w after metrics)).monthly.findKey k =
      (reconcileMetrics strict now' schoolId w after metrics).monthly.findKey k :=
  ⟨rebuildRows_again (by rw [dailyRows_keys]; exact groupKeys_nodup _ _),
    rebuildRows_again (by rw [monthlyRows_keys]; exact groupKeys_nodup _ _)⟩

theorem figuresAt_increments {κ : Type} [DecidableEq κ] (strict : Bool) (schoolId : String)
    (period : RolledPayment × Nat → κ) (xs : List (RolledPayment × Nat)) (k : κ) :
    figuresAt (incrementRows strict period .empty xs) schoolId k =
      if (savedIn schoolId period k xs).map Prod.fst = [] then none
      else some (keep strict (added ((savedIn schoolId period k xs).map Prod.fst))) := by
  rw [figuresAt_incrementRows, figuresAt_empty]
  by_cases hnone : savedIn schoolId period k xs = []
  · rw [if_pos hnone, if_pos (by rw [hnone]; rfl)]
  · rw [if_neg hnone, if_neg (by simpa using hnone), ← sum_keep, List.map_map]
    exact congrArg some (zero_add _)

/-- A payment that is matched is counted on its own day, in the window. -/
theorem reconciled_sat {p : RolledPayment} (h : reconciled schoolId w p = true) :
    p.schoolId = schoolId ∧ p.status = .success ∧ w.HasDay p.day ∧
      ∀ now, savedDay (p, now) = p.day := by
  simp only [reconciled, Bool.and_eq_true, beq_iff_eq] at h
  obtain ⟨⟨⟨⟨hschool, hsuccess⟩, -⟩, -⟩, hconfirmed⟩ := h
  cases hdate : p.confirmedAt with
  | none => simp [hdate] at hconfirmed
  | some date =>
    rw [hdate, Option.any_some, MetricsWindow.admits_iff] at hconfirmed
    refine ⟨hschool, hsuccess, ?_, fun now => ?_⟩
    · rw [RolledPayment.day, hdate]
      exact hconfirmed
    · rw [savedDay, RolledPayment.day, hdate]
      rfl

/-! ## Safe payments agree -/

/-- Where the payments of a row's month are all matched, the payments that increment the row
are the matched ones. -/
theorem savedIn_eq {κ : Type} [DecidableEq κ] (period : Nat → κ) {k : κ}
    (hall : ∀ x ∈ xs, x.1.status = .success → x.1.schoolId = schoolId → period (savedDay x) = k →
      reconciled schoolId w x.1 = true) :
    (savedIn schoolId (fun x => period (savedDay x)) k xs).map Prod.fst =
      ((xs.map Prod.fst).filter (reconciled schoolId w)).filter fun p => period p.day = k := by
  rw [List.filter_filter, List.filter_map, savedIn]
  refine congrArg (List.map Prod.fst) (List.filter_congr fun x hx => ?_)
  by_cases hmatched : reconciled schoolId w x.1 = true
  · obtain ⟨hschool, hsuccess, -, hday⟩ := reconciled_sat hmatched
    have hsame : savedDay x = x.1.day := hday x.2
    simp [hschool, hsuccess, hsame, hmatched]
  · have hnot : ¬(x.1.status = .success ∧ x.1.schoolId = schoolId ∧ period (savedDay x) = k) :=
      fun h => hmatched (hall x hx h.1 h.2.1 h.2.2)
    simp [hnot, hmatched]

theorem RollupSafe.dayFigures (h : RollupSafe strict schoolId w xs after) {path : MetricsPath}
    (hkept : path.kept strict = true) {day : Nat} (hday : w.HasDay day) :
    (dailyRow (group RolledPayment.day ((xs.map Prod.fst).filter (reconciled schoolId w))
        day)).figures path =
      added (group RolledPayment.day ((xs.map Prod.fst).filter (reconciled schoolId w)) day) path := by
  refine dailyRow_figures _ ?_
  rintro asset rfl
  refine h.lastIsAll ?_ day hday asset
  simpa [MetricsPath.kept, MetricsPath.inSchema] using hkept

theorem RollupSafe.days (h : RollupSafe strict schoolId w xs after) {day : Nat}
    (hday : w.HasDay day) :
    figuresAt (incrementAll strict xs .empty).daily schoolId day =
      figuresAt (reconcileMetrics strict now schoolId w (xs.map Prod.fst) .empty).daily schoolId
        day := by
  have hsaved : (savedIn schoolId savedDay day xs).map Prod.fst =
      group RolledPayment.day ((xs.map Prod.fst).filter (reconciled schoolId w)) day :=
    savedIn_eq id fun x hx hsuccess hschool hsame =>
      h.inWindow x hx hsuccess hschool ⟨day, hday, congrArg monthKey hsame.symm⟩
  rw [incrementAll_daily, figuresAt_increments, figuresAt_reconcile_daily, hsaved]
  split
  · exact (figuresAt_empty schoolId day).symm
  · refine congrArg some (funext fun path => ?_)
    rw [keep]
    split
    · rename_i hkept
      exact (h.dayFigures hkept hday).symm
    · rw [show figuresAt Metrics.empty.daily schoolId day = none from figuresAt_empty schoolId day]
      rfl

theorem RollupSafe.months (h : RollupSafe strict schoolId w xs after) {day : Nat}
    (hday : w.HasDay day) :
    figuresAt (incrementAll strict xs .empty).monthly schoolId (monthKey day) =
      figuresAt (reconcileMetrics strict now schoolId w (xs.map Prod.fst) .empty).monthly schoolId
        (monthKey day) := by
  have hsaved : (savedIn schoolId (fun x => monthKey (savedDay x)) (monthKey day) xs).map Prod.fst =
      inMonth (monthKey day) ((xs.map Prod.fst).filter (reconciled schoolId w)) :=
    savedIn_eq monthKey fun x hx hsuccess hschool hsame =>
      h.inWindow x hx hsuccess hschool ⟨day, hday, hsame.symm⟩
  rw [incrementAll_monthly, figuresAt_increments, figuresAt_reconcile_monthly, hsaved]
  split
  · exact (figuresAt_empty schoolId (monthKey day)).symm
  · refine congrArg some (funext fun path => ?_)
    rw [keep]
    split
    · rename_i hkept
      refine (monthlyRow_figures fun other _ => ?_).symm
      -- a day outside the window has no matched payment
      by_cases hother : w.HasDay other
      · exact h.dayFigures hkept hother
      · have hnone : group RolledPayment.day
            ((xs.map Prod.fst).filter (reconciled schoolId w)) other = [] := by
          refine List.filter_eq_nil_iff.mpr fun p hp hsame => hother ?_
          rw [← of_decide_eq_true hsame]
          exact (reconciled_sat (List.mem_filter.mp hp).2).2.2.1
        rw [hnone]
        exact dailyRow_figures [] fun asset hpath => by
          subst hpath
          rfl
    · rw [show figuresAt Metrics.empty.monthly schoolId (monthKey day) = none from
        figuresAt_empty schoolId (monthKey day)]
      rfl

/-- A reconciliation leaves a day without payments as the increments left it. -/
theorem figuresAt_emptied {day : Nat}
    (hnone : ∀ p ∈ after, reconciled schoolId w p = true → p.day ≠ day) :
    figuresAt (reconcileMetrics strict now schoolId w after (incrementAll strict xs .empty)).daily
        schoolId day = figuresAt (incrementAll strict xs .empty).daily schoolId day := by
  rw [figuresAt_reconcile_daily, if_pos]
  refine List.filter_eq_nil_iff.mpr fun p hp hsame => ?_
  obtain ⟨hmem, hmatched⟩ := List.mem_filter.mp hp
  exact hnone p hmem hmatched (of_decide_eq_true hsame)

theorem RollupSafe.agree (h : RollupSafe strict schoolId w xs after) (now : Nat) :
    RollupsAgree strict schoolId w xs after now where
  days _ hday := h.days hday
  months _ hday := h.months hday
  idempotent metrics now' := reconcileMetrics_again metrics now now'
  resets day hday hnone := by
    rw [figuresAt_emptied hnone, incrementAll_daily, figuresAt_increments, if_pos, Option.getD_none]
    refine List.map_eq_nil_iff.mpr (List.filter_eq_nil_iff.mpr fun x hx hin => ?_)
    obtain ⟨hsuccess, hschool, hsame⟩ := of_decide_eq_true hin
    obtain ⟨p, hp, hmatched, hpday⟩ := h.noneEmptied x hx hsuccess hschool (hsame ▸ hday)
    exact hnone p hp hmatched (hpday.trans hsame)

/-! ## And only they -/

theorem added_paymentCount (ps : List RolledPayment) : added ps .paymentCount = ps.length := by
  simp [added, incrementFigures]

theorem kept_paymentCount (strict : Bool) : MetricsPath.paymentCount.kept strict = true := by
  simp [MetricsPath.kept, MetricsPath.inSchema]

/-- The payments an increment counted on a row. -/
theorem increments_count {κ : Type} [DecidableEq κ] (strict : Bool) (schoolId : String)
    (period : RolledPayment × Nat → κ) (xs : List (RolledPayment × Nat)) (k : κ) :
    (figuresAt (incrementRows strict period .empty xs) schoolId k).getD 0 .paymentCount =
      (savedIn schoolId period k xs).length := by
  rw [figuresAt_increments]
  split
  · rename_i hnone
    rw [List.map_eq_nil_iff.mp hnone]
    rfl
  · rw [Option.getD_some, keep, if_pos (kept_paymentCount strict), added_paymentCount,
      List.length_map]

theorem reconcile_count (strict : Bool) (now : Nat) (ps : List RolledPayment)
    (month : Nat × Nat) :
    (figuresAt (reconcileMetrics strict now schoolId w ps .empty).monthly schoolId month).getD 0
        .paymentCount = (inMonth month (ps.filter (reconciled schoolId w))).length := by
  rw [figuresAt_reconcile_monthly]
  split
  · rename_i hnone
    rw [show figuresAt Metrics.empty.monthly schoolId month = none from
      figuresAt_empty schoolId month, hnone]
    rfl
  · rw [Option.getD_some, if_pos (kept_paymentCount strict), monthlyRow_figures, added_paymentCount]
    exact fun day _ => dailyRow_figures _ fun asset hpath => by cases hpath

/-- The matched payments are some of those that increment a row: if they are as many, they are
all of them. -/
theorem reconciled_of_length {κ : Type} [DecidableEq κ] (period : Nat → κ) {k : κ}
    (hlength : (savedIn schoolId (fun x => period (savedDay x)) k xs).length =
      (((xs.map Prod.fst).filter (reconciled schoolId w)).filter fun p => period p.day = k).length) :
    ∀ x ∈ xs, x.1.status = .success → x.1.schoolId = schoolId → period (savedDay x) = k →
      reconciled schoolId w x.1 = true := by
  rw [savedIn, List.filter_filter, ← List.countP_eq_length_filter, ← List.countP_eq_length_filter,
    List.countP_map] at hlength
  intro x hx hsuccess hschool hperiod
  have hmatched := imp_of_countP_eq (fun y _ hmatched => ?_) hlength.symm x hx
    (decide_eq_true ⟨hsuccess, hschool, hperiod⟩)
  · exact (Bool.and_eq_true_iff.mp hmatched).2
  · obtain ⟨hsame, hmatched⟩ := Bool.and_eq_true_iff.mp hmatched
    obtain ⟨hyschool, hysuccess, -, hown⟩ := reconciled_sat hmatched
    have hday : savedDay y = y.1.day := hown y.2
    rw [decide_eq_true_eq, hday]
    exact ⟨hysuccess, hyschool, of_decide_eq_true hsame⟩

/-- The months agree only if the window has every payment of its months. -/
theorem RollupsAgree.inWindow (h : RollupsAgree strict schoolId w xs after now) :
    ∀ x ∈ xs, x.1.status = .success → x.1.schoolId = schoolId →
      (∃ day, w.HasDay day ∧ monthKey day = monthKey (savedDay x)) →
      reconciled schoolId w x.1 = true := by
  rintro x hx hsuccess hschool ⟨day, hday, hmonth⟩
  have hcounts : ((savedIn schoolId (fun x => monthKey (savedDay x)) (monthKey day) xs).length : Int) =
      (inMonth (monthKey day) ((xs.map Prod.fst).filter (reconciled schoolId w))).length := by
    rw [← increments_count strict, ← reconcile_count strict now, ← h.months day hday,
      incrementAll_monthly]
  exact reconciled_of_length monthKey (Int.natCast_inj.mp hcounts) x hx hsuccess hschool hmonth.symm

theorem RollupsAgree.lastIsAll (h : RollupsAgree strict schoolId w xs after now)
    (hstrict : strict = false) {day : Nat} (hday : w.HasDay day) (asset : AssetCode) :
    lastAmount (group RolledPayment.day ((xs.map Prod.fst).filter (reconciled schoolId w)) day)
        asset =
      added (group RolledPayment.day ((xs.map Prod.fst).filter (reconciled schoolId w)) day)
        (.assetTotals asset) := by
  subst hstrict
  have hsaved : (savedIn schoolId savedDay day xs).map Prod.fst =
      group RolledPayment.day ((xs.map Prod.fst).filter (reconciled schoolId w)) day :=
    savedIn_eq id fun x hx hsuccess hschool hsame =>
      h.inWindow x hx hsuccess hschool ⟨day, hday, congrArg monthKey hsame.symm⟩
  have hrows := h.days day hday
  rw [incrementAll_daily, figuresAt_increments, figuresAt_reconcile_daily, hsaved] at hrows
  by_cases hnone : group RolledPayment.day ((xs.map Prod.fst).filter (reconciled schoolId w)) day = []
  · rw [hnone]
    rfl
  · rw [if_neg hnone, if_neg hnone] at hrows
    exact (congrFun (Option.some.inj hrows) (.assetTotals asset)).symm

theorem RollupsAgree.noneEmptied (h : RollupsAgree strict schoolId w xs after now) :
    ∀ x ∈ xs, x.1.status = .success → x.1.schoolId = schoolId → w.HasDay (savedDay x) →
      ∃ p ∈ after, reconciled schoolId w p = true ∧ p.day = savedDay x := by
  intro x hx hsuccess hschool hday
  by_contra hnone
  have hempty : ∀ p ∈ after, reconciled schoolId w p = true → p.day ≠ savedDay x :=
    fun p hp hmatched hsame => hnone ⟨p, hp, hmatched, hsame⟩
  have hzero := congrFun (h.resets (savedDay x) hday hempty) .paymentCount
  rw [figuresAt_emptied hempty, incrementAll_daily, increments_count] at hzero
  have hlength : (savedIn schoolId savedDay (savedDay x) xs).length = 0 := Int.natCast_eq_zero.mp hzero
  have hin : x ∈ savedIn schoolId savedDay (savedDay x) xs :=
    List.mem_filter.mpr ⟨hx, decide_eq_true ⟨hsuccess, hschool, rfl⟩⟩
  rw [List.length_eq_zero_iff.mp hlength] at hin
  cases hin

end Agreement

/-! ## A window that cuts a month -/

/-- A payment confirmed on a day. -/
def paymentOn (day : Nat) : RolledPayment :=
  { Payment.withDefaults "SCH" "STU001" "tx1" 1000000000 0 with
    status := .success
    assetCode := some .xlm
    confirmedAt := some (day * dayMs)
    studentDeleted := false
    fiatAmount := none
    fiatCurrency := none }

end StellarEduPay

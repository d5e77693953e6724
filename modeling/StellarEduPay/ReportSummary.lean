import Mathlib.Data.List.AList
import Mathlib.Data.List.Sort
import StellarEduPay.Decimals
import StellarEduPay.FeeAdjustments
import StellarEduPay.LocalDays
import StellarEduPay.MetricsRollup

/-! # Report summaries (`services/reportService.js`)

A report has a row for each day with a payment, and a summary folded from the rows.  The totals of a
row are decimal texts and its share of payments with a fiat snapshot is a rounded percentage, so the
summary reads the texts back, and rebuilds the number of snapshots from the percentage.

Amounts are exact.
-/
namespace StellarEduPay
open Decimals Grouping

/-! ## Payments -/

/-- A payment with the fields only the reports read; the two fiat ones are those of its
`fiatSnapshot`. -/
structure ReportPayment extends Payment where
  assetCode : Option AssetCode
  confirmedAt : Option Int
  updatedAt : Int
  studentDeleted : Bool
  fiatAmount : Option ℚ
  fiatCurrency : Option String
  deriving DecidableEq, Repr

/-- What a report is asked for. -/
structure ReportOptions where
  schoolId : String
  startDate : Option Int
  endDate : Option Int
  timezone : TimeZone

/-- The `$match` of a report. -/
def ReportOptions.selects (options : ReportOptions) (p : ReportPayment) : Bool :=
  p.schoolId == options.schoolId && p.status == .success && !p.studentDeleted && p.live &&
    (options.startDate.isNone && options.endDate.isNone || p.confirmedAt.any
      (buildDateRangeFilter options.timezone options.startDate options.endDate).matches)

namespace ReportPayment
variable (p : ReportPayment)

/-- The date a payment is counted on, in the time zone of the report. -/
def date (zone : TimeZone) : Int := zone.localDate (p.confirmedAt.getD p.updatedAt)

def asset : AssetCode := p.assetCode.getD .xlm

/-- Its amount, in units of the asset. -/
def units : ℚ := p.amount / 10 ^ 7

end ReportPayment

/-! ## Amounts as texts -/

/-- `$round`, which takes halves to the even neighbour. -/
def mongoRound (places : Nat) (x : ℚ) : ℚ :=
  let scaled := x * 10 ^ places
  let rest := scaled - ⌊scaled⌋
  let rounded := if rest < 1 / 2 ∨ rest = 1 / 2 ∧ 2 ∣ ⌊scaled⌋ then ⌊scaled⌋ else ⌊scaled⌋ + 1
  rounded / 10 ^ places

/-- `toFixed` -/
def toFixed (places : Nat) (x : ℚ) : String :=
  (if x < 0 then "-" else "") ++ (PlainDecimal.ofUnits places ⌊|x| * 10 ^ places + 1 / 2⌋).text

/-- `parseFloat` of a plain decimal; anything else is `NaN`, here `none`. -/
def parseFloat (s : String) : Option ℚ := (PlainDecimal.ofText s).map PlainDecimal.value

/-- `replace(/\.?0+$/, '')` -/
def trimZeros (cs : List Char) : List Char :=
  let rest := cs.rdropWhile (· = '0')
  if rest.length = cs.length then cs
  else if rest.getLast? = some '.' then rest.dropLast
  else rest

/-- `toExactAmountString`, of a number that may be `NaN`. -/
def toExactAmountString (value : Option ℚ) : String :=
  match value with
  | none => "0"
  | some num =>
    let trimmed := trimZeros (toFixed 7 num).toList
    if trimmed = [] then "0" else String.ofList trimmed

example : [1 / 2, 10, 1234567 / 10 ^ 7, -3 / 2].map (fun x : ℚ => toExactAmountString (some x)) =
    ["0.5", "10", "0.1234567", "-1.5"] := by decide +kernel

/-! ## The days -/

/-- A row of `aggregateByDate`. -/
structure ReportRow where
  date : Int
  totals : List (AssetCode × String)
  paymentCount : Nat
  validCount : Nat
  partialCount : Nat
  overpaidCount : Nat
  underpaidCount : Nat
  unknownCount : Nat
  uniqueStudentCount : Nat
  totalFiatAmount : ℚ
  fiatCurrency : Option String
  fiatCoverage : ℚ
  deriving DecidableEq, Repr

/-- The payments with a validation status. -/
def countStatus (status : FeeStatus) (ps : List ReportPayment) : Nat :=
  ps.countP fun p => p.feeValidationStatus = status

/-- The payments with a fiat snapshot. -/
def fiatSnapshotCount (ps : List ReportPayment) : Nat := ps.countP fun p => p.fiatAmount.isSome

/-- The percentage of a count, to two places. -/
def percentage (count paymentCount : ℚ) : ℚ :=
  if 0 < paymentCount then JsRounding.toFixed2 (count / paymentCount * 100) else 0

/-- The row of a day, from its payments. -/
def reportRow (date : Int) (ps : List ReportPayment) : ReportRow where
  date := date
  totals := (groupKeys ReportPayment.asset ps).map fun asset => (asset, toExactAmountString
    (some (mongoRound 7 ((group ReportPayment.asset ps asset).map ReportPayment.units).sum)))
  paymentCount := ps.length
  validCount := countStatus .valid ps
  partialCount := countStatus .partPaid ps
  overpaidCount := countStatus .overpaid ps
  underpaidCount := countStatus .underpaid ps
  unknownCount := ps.countP fun p =>
    p.feeValidationStatus ∉ [FeeStatus.valid, .partPaid, .underpaid, .overpaid]
  uniqueStudentCount := (ps.map fun p => p.studentId).dedup.length
  totalFiatAmount := mongoRound 2 (ps.map fun p => p.fiatAmount.getD 0).sum
  fiatCurrency := ps.head?.bind fun p => p.fiatCurrency
  fiatCoverage := percentage (fiatSnapshotCount ps) ps.length

/-- The days of a report, in order. -/
def reportDates (options : ReportOptions) (ps : List ReportPayment) : List Int :=
  (groupKeys (·.date options.timezone) ps).insertionSort (· ≤ ·)

/-- `aggregateByDate` -/
def aggregateByDate (options : ReportOptions) (payments : List ReportPayment) : List ReportRow :=
  let ps := payments.filter options.selects
  (reportDates options ps).map fun date => reportRow date (group (·.date options.timezone) ps date)

/-! ## The summary -/

/-- An object of totals, as texts. -/
abbrev AmountTexts := AList fun _ : AssetCode => String

/-- `mergeAssetTotals`, one asset of it. -/
def mergeAssetTotal (acc : AmountTexts) (total : AssetCode × String) : AmountTexts :=
  let prev := parseFloat ((acc.lookup total.1).getD "0")
  let next := parseFloat total.2
  acc.insert total.1 (toExactAmountString (Option.map₂ (· + ·) prev next))

/-- `mergeAssetTotals` -/
def mergeAssetTotals (acc : AmountTexts) (totals : List (AssetCode × String)) : AmountTexts :=
  totals.foldl mergeAssetTotal acc

/-- What is accumulated over the rows. -/
structure ReportTotals where
  totals : AmountTexts
  paymentCount : Nat
  validCount : Nat
  partialCount : Nat
  overpaidCount : Nat
  underpaidCount : Nat
  unknownCount : Nat
  totalFiatAmount : ℚ
  fiatSnapshotCount : ℚ

def ReportTotals.empty : ReportTotals := ⟨∅, 0, 0, 0, 0, 0, 0, 0, 0⟩

def ReportTotals.add (acc : ReportTotals) (row : ReportRow) : ReportTotals where
  totals := mergeAssetTotals acc.totals row.totals
  paymentCount := acc.paymentCount + row.paymentCount
  validCount := acc.validCount + row.validCount
  partialCount := acc.partialCount + row.partialCount
  overpaidCount := acc.overpaidCount + row.overpaidCount
  underpaidCount := acc.underpaidCount + row.underpaidCount
  unknownCount := acc.unknownCount + row.unknownCount
  totalFiatAmount := JsRounding.toFixed2 (acc.totalFiatAmount + row.totalFiatAmount)
  fiatSnapshotCount := acc.fiatSnapshotCount +
    JsRounding.mathRound (row.fiatCoverage / 100 * row.paymentCount)

structure ReportSummary where
  totals : AmountTexts
  paymentCount : Nat
  validCount : Nat
  partialCount : Nat
  overpaidCount : Nat
  underpaidCount : Nat
  unknownCount : Nat
  totalFiatAmount : ℚ
  fiatCoverage : ℚ

/-- The summary of `generateReport`, without the students who have paid. -/
def reportSummary (options : ReportOptions) (payments : List ReportPayment) : ReportSummary :=
  let totals := (aggregateByDate options payments).foldl ReportTotals.add .empty
  { totals := totals.totals
    paymentCount := totals.paymentCount
    validCount := totals.validCount
    partialCount := totals.partialCount
    overpaidCount := totals.overpaidCount
    underpaidCount := totals.underpaidCount
    unknownCount := totals.unknownCount
    totalFiatAmount := totals.totalFiatAmount
    fiatCoverage := percentage totals.fiatSnapshotCount totals.paymentCount }

/-! ## Reading the texts back -/

/-- What is left of digits behind a dot, and the dot with them if anything is. -/
theorem trimZeros_append (front : List Char) {f : List Char} (hdigits : IsDigits f) (hne : f ≠ []) :
    trimZeros ((front ++ ['.']) ++ f) =
      front ++ (if significant f = [] then none else some (significant f)).elim [] ('.' :: ·) := by
  have hdrop : ((front ++ ['.']) ++ f).rdropWhile (· = '0') = (front ++ ['.']) ++ significant f := by
    have hfront : (front ++ ['.']).rdropWhile (· = '0') = front ++ ['.'] :=
      List.rdropWhile_concat_neg _ _ _ (by decide)
    rw [rdropWhile_append, hfront, significant]
    split
    · rename_i hnone
      rw [hnone, List.append_nil]
    · rfl
  rw [trimZeros, hdrop]
  by_cases hnone : significant f = []
  · have hlength : ((front ++ ['.']) ++ significant f).length ≠ ((front ++ ['.']) ++ f).length := by
      have hpos := List.length_pos_of_ne_nil hne
      simp only [hnone, List.length_append, List.length_nil]
      omega
    rw [if_neg hlength, hnone, List.append_nil, List.getLast?_concat, if_pos rfl, List.dropLast_concat]
    simp
  · obtain ⟨digits, last, hlast⟩ := List.eq_nil_or_concat' (significant f) |>.resolve_left hnone
    have hdot : last ≠ '.' := by
      have hdigit := hdigits.significant last (by simp [hlast])
      rintro rfl
      exact absurd hdigit (by decide)
    rw [if_neg hnone, Option.elim_some]
    by_cases hlength : ((front ++ ['.']) ++ significant f).length = ((front ++ ['.']) ++ f).length
    · have hsame : (significant f).length = f.length := by simpa using hlength
      have hall : significant f = f := (List.rdropWhile_prefix _ _).eq_of_length hsame
      rw [if_pos hlength, hall, List.append_assoc, List.singleton_append]
    · have hend : ((front ++ ['.']) ++ significant f).getLast? ≠ some '.' := by
        rw [hlast, ← List.append_assoc, List.getLast?_concat]
        exact fun h => hdot (Option.some.inj h)
      rw [if_neg hlength, if_neg hend, List.append_assoc, List.singleton_append]

theorem trimZeros_text {d : PlainDecimal} {f : List Char} (hwhole : d.whole ≠ [])
    (hf : d.fraction = some f) (hne : f ≠ []) :
    trimZeros d.text.toList = (d.shortest hwhole).text.toList := by
  have hdecimals : d.decimals = f := by rw [PlainDecimal.decimals, hf, Option.getD_some]
  have htext : d.text.toList = ((if d.negative then ['-'] else []) ++ d.whole ++ ['.']) ++ f := by
    simp [PlainDecimal.text, PlainDecimal.unsigned, hf]
  rw [htext, trimZeros_append _ (hdecimals ▸ d.isDigits_decimals) hne]
  simp only [PlainDecimal.text, PlainDecimal.unsigned, PlainDecimal.shortest, hdecimals,
    String.toList_ofList, List.append_assoc]

theorem ofUnits_text_neg {n : Int} (hn : n < 0) :
    (PlainDecimal.ofUnits 7 n).text = "-" ++ (PlainDecimal.ofUnits 7 (-n)).text := by
  apply String.toList_inj.mp
  simp [PlainDecimal.text, PlainDecimal.unsigned, PlainDecimal.ofUnits, hn, hn.le]

/-- A whole number of stroops has its seven places in full. -/
theorem toFixed_units (n : Int) : toFixed 7 (n / 10 ^ 7) = (PlainDecimal.ofUnits 7 n).text := by
  have hscaled : ∀ m : Int, ⌊(m / 10 ^ 7 : ℚ) * 10 ^ 7 + 1 / 2⌋ = m := by
    intro m
    rw [div_mul_cancel₀ _ (by positivity), Int.floor_intCast_add]
    norm_num
  rw [toFixed]
  by_cases hn : n < 0
  · have hneg : (n / 10 ^ 7 : ℚ) < 0 := div_neg_of_neg_of_pos (by exact_mod_cast hn) (by positivity)
    have habs : |(n / 10 ^ 7 : ℚ)| = ((-n : Int) : ℚ) / 10 ^ 7 := by
      rw [abs_of_neg hneg]
      push_cast
      ring
    rw [if_pos hneg, habs, hscaled, ofUnits_text_neg hn]
  · have hpos : ¬ (n / 10 ^ 7 : ℚ) < 0 :=
      not_lt.mpr (div_nonneg (by exact_mod_cast not_lt.mp hn) (by positivity))
    rw [if_neg hpos, abs_of_nonneg (not_lt.mp hpos), hscaled, String.empty_append]

/-- The text of a whole number of stroops. -/
def exactText (n : Int) : String := toExactAmountString (some (n / 10 ^ 7))

/-- **The texts are exact**: a whole number of stroops is read back from its text. -/
theorem parseFloat_exactText (n : Int) : parseFloat (exactText n) = some ((n : ℚ) / 10 ^ 7) := by
  have hwhole : (PlainDecimal.ofUnits 7 n).whole ≠ [] := Nat.toDigits_ne_nil
  have hplaces : padded 7 (n.natAbs % 10 ^ 7) ≠ [] := by
    have hlength := length_padded (by decide : 0 < 7)
      (Nat.mod_lt n.natAbs (by decide : 0 < 10 ^ 7))
    intro hnil
    rw [hnil] at hlength
    cases hlength
  have htext : exactText n = ((PlainDecimal.ofUnits 7 n).shortest hwhole).text := by
    simp only [exactText, toExactAmountString]
    rw [toFixed_units, trimZeros_text hwhole rfl hplaces, String.ofList_toList, if_neg]
    intro hnil
    have hempty := PlainDecimal.unsigned_ne_nil ((PlainDecimal.ofUnits 7 n).shortest hwhole)
    simp only [PlainDecimal.text, String.toList_ofList, List.append_eq_nil_iff] at hnil
    exact hempty hnil.2
  rw [parseFloat, htext, PlainDecimal.ofText_eq_some.mpr rfl, Option.map_some,
    PlainDecimal.shortest_value, PlainDecimal.ofUnits_value (by decide)]

theorem mongoRound_units (n : Int) : mongoRound 7 (n / 10 ^ 7) = n / 10 ^ 7 := by
  have hscaled : (n / 10 ^ 7 : ℚ) * 10 ^ 7 = n := div_mul_cancel₀ _ (by positivity)
  simp only [mongoRound]
  rw [hscaled, Int.floor_intCast, sub_self, if_pos (by norm_num)]

/-! ## Merging totals -/

/-- The stroops there are of each asset, after so many more of one. -/
def addStroops (before : AssetCode → Option Int) (entry : AssetCode × Int) :
    AssetCode → Option Int :=
  Function.update before entry.1 (some ((before entry.1).getD 0 + entry.2))

/-- An object of texts holds these stroops. -/
def HoldsStroops (acc : AmountTexts) (stroops : AssetCode → Option Int) : Prop :=
  ∀ asset, acc.lookup asset = (stroops asset).map exactText

theorem parseFloat_zero : parseFloat "0" = some 0 := by decide +kernel

/-- **Merging one total** adds its stroops. -/
theorem HoldsStroops.merge {acc : AmountTexts} {stroops : AssetCode → Option Int}
    (h : HoldsStroops acc stroops) (entry : AssetCode × Int) :
    HoldsStroops (mergeAssetTotal acc (entry.1, exactText entry.2)) (addStroops stroops entry) := by
  have hprev : parseFloat ((acc.lookup entry.1).getD "0") =
      some ((((stroops entry.1).getD 0 : Int) : ℚ) / 10 ^ 7) := by
    rw [h]
    cases stroops entry.1 with
    | none => rw [Option.map_none, Option.getD_none, parseFloat_zero, Option.getD_none]; simp
    | some m => rw [Option.map_some, Option.getD_some, Option.getD_some, parseFloat_exactText]
  have hsum : toExactAmountString (Option.map₂ (· + ·) (parseFloat ((acc.lookup entry.1).getD "0"))
      (parseFloat (exactText entry.2))) = exactText ((stroops entry.1).getD 0 + entry.2) := by
    rw [hprev, parseFloat_exactText, Option.map₂_some_some, exactText, ← add_div]
    push_cast
    rfl
  intro asset
  simp only [mergeAssetTotal, hsum, addStroops]
  by_cases hasset : asset = entry.1
  · subst hasset
    rw [AList.lookup_insert, Function.update_self, Option.map_some]
  · rw [AList.lookup_insert_ne hasset, Function.update_of_ne hasset, h]

theorem HoldsStroops.merge_all {acc : AmountTexts} {stroops : AssetCode → Option Int}
    (h : HoldsStroops acc stroops) (entries : List (AssetCode × Int)) :
    HoldsStroops (mergeAssetTotals acc (entries.map fun entry => (entry.1, exactText entry.2)))
      (entries.foldl addStroops stroops) := by
  induction entries generalizing acc stroops with
  | nil => exact h
  | cons entry entries ih => exact ih (h.merge entry)

/-- What entries add up to, asset by asset. -/
theorem foldl_addStroops (entries : List (AssetCode × Int)) (before : AssetCode → Option Int)
    (asset : AssetCode) :
    entries.foldl addStroops before asset =
      if asset ∈ entries.map Prod.fst then
        some ((before asset).getD 0 + ((group Prod.fst entries asset).map Prod.snd).sum)
      else before asset := by
  induction entries generalizing before with
  | nil => rfl
  | cons entry entries ih =>
    rw [List.foldl_cons, ih]
    by_cases hasset : asset = entry.1
    · subst hasset
      by_cases hmem : entry.1 ∈ entries.map Prod.fst
      · simp [addStroops, hmem, group, add_assoc]
      · have hnone : group Prod.fst entries entry.1 = [] :=
          List.filter_eq_nil_iff.mpr fun e he => by
            have hne : e.1 ≠ entry.1 := fun heq => hmem (heq ▸ List.mem_map_of_mem he)
            simpa using hne
        rw [if_neg hmem, if_pos (by simp), addStroops, Function.update_self]
        rw [group] at hnone
        simp [group, hnone]
    · have hne : entry.1 ≠ asset := Ne.symm hasset
      have hrest : group Prod.fst (entry :: entries) asset = group Prod.fst entries asset := by
        simp [group, hne]
      rw [hrest, addStroops, Function.update_of_ne hasset, List.map_cons]
      simp only [List.mem_cons, hasset, false_or]

/-! ## The totals of a summary -/

section
variable (options : ReportOptions) (ps : List ReportPayment)

/-- The stroops of a row, asset by asset. -/
def rowEntries (ps : List ReportPayment) : List (AssetCode × Int) :=
  (groupKeys ReportPayment.asset ps).map fun asset =>
    (asset, ((group ReportPayment.asset ps asset).map fun p => p.amount).sum)

theorem sum_units (ps : List ReportPayment) :
    (ps.map ReportPayment.units).sum = ((ps.map fun p => p.amount).sum : Int) / 10 ^ 7 := by
  induction ps with
  | nil => simp
  | cons p ps ih =>
    rw [List.map_cons, List.sum_cons, ih, List.map_cons, List.sum_cons, ReportPayment.units]
    push_cast
    ring

theorem reportRow_totals (date : Int) (ps : List ReportPayment) :
    (reportRow date ps).totals = (rowEntries ps).map fun entry => (entry.1, exactText entry.2) := by
  simp only [reportRow, rowEntries, List.map_map, Function.comp_def, sum_units, mongoRound_units,
    exactText]

theorem foldl_totals (rows : List ReportRow) (acc : ReportTotals) :
    (rows.foldl ReportTotals.add acc).totals =
      mergeAssetTotals acc.totals (rows.flatMap (·.totals)) := by
  induction rows generalizing acc with
  | nil => rfl
  | cons row rows ih =>
    rw [List.foldl_cons, ih, ReportTotals.add, List.flatMap_cons, mergeAssetTotals, mergeAssetTotals,
      mergeAssetTotals, List.foldl_append]

/-- The dates of a report, each once, and none of a payment is missing. -/
theorem reportDates_nodup : (reportDates options ps).Nodup :=
  (List.perm_insertionSort _ _).nodup_iff.mpr (groupKeys_nodup _ _)

theorem mem_reportDates {date : Int} :
    date ∈ reportDates options ps ↔ ∃ p ∈ ps, p.date options.timezone = date := by
  rw [reportDates, List.mem_insertionSort, mem_groupKeys]

/-- **Day by day**: a sum over the payments of each day, summed, is the sum over all of them. -/
theorem sum_reportDates {M : Type} [AddCommMonoid M] (f : ReportPayment → M) :
    ((reportDates options ps).map fun date =>
      ((group (·.date options.timezone) ps date).map f).sum).sum = (ps.map f).sum :=
  sum_groups f _ (reportDates_nodup options ps) fun p hp =>
    (mem_reportDates options ps).mpr ⟨p, hp, rfl⟩

/-- The entries of all days. -/
def dayEntries : List (AssetCode × Int) :=
  (reportDates options ps).flatMap fun date => rowEntries (group (·.date options.timezone) ps date)

theorem mem_rowEntries {asset : AssetCode} {ps : List ReportPayment} :
    asset ∈ (rowEntries ps).map Prod.fst ↔ ∃ p ∈ ps, p.asset = asset := by
  simp [rowEntries, mem_groupKeys]

theorem mem_dayEntries {asset : AssetCode} :
    asset ∈ (dayEntries options ps).map Prod.fst ↔ ∃ p ∈ ps, p.asset = asset := by
  rw [dayEntries, List.map_flatMap, List.mem_flatMap]
  constructor
  · rintro ⟨date, -, hasset⟩
    obtain ⟨p, hp, hpasset⟩ := mem_rowEntries.mp hasset
    exact ⟨p, List.mem_of_mem_filter hp, hpasset⟩
  · rintro ⟨p, hp, hpasset⟩
    refine ⟨p.date options.timezone, (mem_reportDates options ps).mpr ⟨p, hp, rfl⟩, ?_⟩
    exact mem_rowEntries.mpr ⟨p, List.mem_filter.mpr ⟨hp, by simp⟩, hpasset⟩

theorem sum_rowEntries (ps : List ReportPayment) (asset : AssetCode) :
    ((rowEntries ps).map fun entry => if entry.1 = asset then entry.2 else 0).sum =
      (ps.map fun p => if p.asset = asset then p.amount else 0).sum := by
  rw [← sum_groups (fun p => if p.asset = asset then p.amount else 0) ReportPayment.asset
    (groupKeys_nodup ReportPayment.asset ps) fun p hp => mem_groupKeys.mpr ⟨p, hp, rfl⟩]
  rw [rowEntries, List.map_map]
  congr 1
  refine List.map_congr_left fun key _ => ?_
  have hsame : ∀ p ∈ group ReportPayment.asset ps key, p.asset = key := fun p hp =>
    by simpa using (List.mem_filter.mp hp).2
  rw [List.map_congr_left fun p hp => by rw [hsame p hp]]
  by_cases hkey : key = asset <;> simp [hkey]

theorem sum_dayEntries (asset : AssetCode) :
    ((group Prod.fst (dayEntries options ps) asset).map Prod.snd).sum =
      ((group ReportPayment.asset ps asset).map fun p => p.amount).sum := by
  rw [sum_group, sum_group, ← sum_reportDates options ps, dayEntries]
  induction reportDates options ps with
  | nil => rfl
  | cons date dates ih =>
    rw [List.flatMap_cons, List.map_append, List.sum_append, ih, sum_rowEntries, List.map_cons,
      List.sum_cons]

/-- **The totals of a summary** are the exact texts of what its payments come to. -/
theorem reportSummary_totals (payments : List ReportPayment) (asset : AssetCode) :
    (reportSummary options payments).totals.lookup asset =
      if ∃ p ∈ payments.filter options.selects, p.asset = asset then
        some (exactText ((group ReportPayment.asset (payments.filter options.selects) asset).map
          fun p => p.amount).sum)
      else none := by
  let ps := payments.filter options.selects
  have hentries : (aggregateByDate options payments).flatMap (·.totals) =
      (dayEntries options ps).map fun entry => (entry.1, exactText entry.2) := by
    rw [aggregateByDate, List.flatMap_map, dayEntries, List.map_flatMap]
    simp only [reportRow_totals, ps]
  have hholds : HoldsStroops (reportSummary options payments).totals
      ((dayEntries options ps).foldl addStroops fun _ => none) := by
    have hempty : HoldsStroops ReportTotals.empty.totals fun _ => none := fun _ => rfl
    rw [reportSummary, foldl_totals, hentries]
    exact hempty.merge_all _
  rw [hholds, foldl_addStroops, sum_dayEntries]
  simp only [mem_dayEntries, Option.getD_none, zero_add]
  split <;> rfl

end

/-! ## The snapshots of a day -/

/-- By how much the number of snapshots is off that is rebuilt for a day of so many payments. -/
def rebuiltError (snapshots count : Int) : Int :=
  (10000 + count - (20000 * snapshots + count) % (2 * count)) / 20000

theorem percentage_eq {s : Int} {n : Nat} (hs : 0 ≤ s) (hn : 0 < n) :
    percentage s n = (((20000 * s + n) / (2 * n) : Int) : ℚ) / 100 := by
  have hn' : (0 : ℚ) < n := by exact_mod_cast hn
  have hs' : (0 : ℚ) ≤ s := by exact_mod_cast hs
  have hpos : ¬ (s : ℚ) / n * 100 < 0 := not_lt.mpr (by positivity)
  have hscaled : (s : ℚ) / n * 100 * 100 + 1 / 2 =
      ((20000 * s + n : Int) : ℚ) / ((2 * n : Nat) : ℚ) := by
    push_cast
    field_simp
    ring
  rw [percentage, if_pos hn']
  simp only [JsRounding.toFixed2]
  rw [if_neg hpos, hscaled, Rat.floor_intCast_div_natCast]
  push_cast
  rfl

/-- **What is rebuilt of a day.** -/
theorem rebuilt_eq {s : Int} {n : Nat} (hs : 0 ≤ s) (hn : 0 < n) :
    JsRounding.mathRound (percentage s n / 100 * n) = ((s + rebuiltError s n : Int) : ℚ) := by
  have hdivision := Int.mul_ediv_add_emod (20000 * s + n) (2 * n)
  have hhalf : percentage s n / 100 * n + 1 / 2 =
      ((10000 + n - (20000 * s + n) % (2 * n) + s * 20000 : Int) : ℚ) / ((20000 : Nat) : ℚ) := by
    have hcast : ((2 * n * ((20000 * s + n) / (2 * n)) + (20000 * s + n) % (2 * n) : Int) : ℚ) =
        ((20000 * s + n : Int) : ℚ) := by rw [hdivision]
    rw [percentage_eq hs hn]
    push_cast at hcast ⊢
    linarith
  simp only [JsRounding.mathRound]
  rw [hhalf, Rat.floor_intCast_div_natCast, Nat.cast_ofNat,
    Int.add_mul_ediv_right _ _ (by decide), rebuiltError, add_comm s]

theorem rebuilt_nonneg {s : Int} {n : Nat} (hs : 0 ≤ s) (hn : 0 < n) : 0 ≤ s + rebuiltError s n := by
  have hdivision := Int.mul_ediv_add_emod (20000 * s + n) (2 * n)
  have hquotient : 0 ≤ 2 * n * ((20000 * s + n) / (2 * n)) :=
    mul_nonneg (by omega) (Int.ediv_nonneg (by omega) (by omega))
  rw [rebuiltError]
  omega

/-- A day of at most ten thousand payments is rebuilt as it was. -/
theorem rebuiltError_of_le {s : Int} {n : Nat} (hn : 0 < n) (hle : n ≤ 10000) :
    rebuiltError s n = 0 := by
  have hlow := Int.emod_nonneg (20000 * s + n) (by omega : (2 * n : Int) ≠ 0)
  have hhigh := Int.emod_lt_of_pos (20000 * s + n) (by omega : (0 : Int) < 2 * n)
  have hdivision := Int.mul_ediv_add_emod (20000 * s + n) (2 * n)
  rw [rebuiltError]
  refine Int.ediv_eq_zero_of_lt (by omega) ?_
  rcases Nat.lt_or_ge n 10000 with hlt | hge
  · omega
  · obtain rfl : n = 10000 := le_antisymm hle hge
    omega

/-! ## The counts of a summary -/

section
variable (options : ReportOptions) (payments : List ReportPayment)

/-- The payments of a report. -/
def selectedPayments : List ReportPayment := payments.filter options.selects

/-- The payments of a day. -/
def paymentsOn (date : Int) : List ReportPayment :=
  group (·.date options.timezone) (selectedPayments options payments) date

theorem foldl_add {M : Type} [AddMonoid M] (read : ReportTotals → M) (ofRow : ReportRow → M)
    (h : ∀ acc row, read (acc.add row) = read acc + ofRow row) (rows : List ReportRow)
    (acc : ReportTotals) :
    read (rows.foldl ReportTotals.add acc) = read acc + (rows.map ofRow).sum := by
  induction rows generalizing acc with
  | nil => exact (add_zero _).symm
  | cons row rows ih => rw [List.foldl_cons, ih, h, List.map_cons, List.sum_cons, add_assoc]

theorem sum_map_ite {α : Type} (test : α → Bool) (l : List α) :
    (l.map fun x => if test x = true then 1 else 0).sum = l.countP test := by
  induction l with
  | nil => rfl
  | cons x l ih => rw [List.map_cons, List.sum_cons, ih, List.countP_cons, Nat.add_comm]

/-- A count of payments, over the days. -/
theorem sum_countP (test : ReportPayment → Bool) :
    ((reportDates options (selectedPayments options payments)).map fun date =>
      (paymentsOn options payments date).countP test).sum =
        (selectedPayments options payments).countP test := by
  simp only [← sum_map_ite, paymentsOn]
  exact sum_reportDates options _ _

/-- A count that the rows have and the summary adds up. -/
theorem summary_count (test : ReportPayment → Bool) (read : ReportTotals → Nat)
    (ofRow : ReportRow → Nat) (hempty : read .empty = 0)
    (hadd : ∀ acc row, read (acc.add row) = read acc + ofRow row)
    (hrow : ∀ date ps, ofRow (reportRow date ps) = ps.countP test) :
    read ((aggregateByDate options payments).foldl ReportTotals.add .empty) =
      (selectedPayments options payments).countP test := by
  rw [foldl_add read ofRow hadd, hempty, zero_add, ← sum_countP, aggregateByDate, List.map_map]
  simp only [Function.comp_def, hrow]
  rfl

theorem reportSummary_paymentCount :
    (reportSummary options payments).paymentCount = (selectedPayments options payments).length := by
  rw [← List.countP_true]
  exact summary_count options payments (fun _ => true) ReportTotals.paymentCount
    ReportRow.paymentCount rfl (fun _ _ => rfl) fun _ ps => (congrFun List.countP_true ps).symm

/-- Each payment is in one of the five buckets. -/
theorem buckets_eq (ps : List ReportPayment) :
    countStatus .valid ps + countStatus .partPaid ps + countStatus .overpaid ps +
      countStatus .underpaid ps + (ps.countP fun p =>
        p.feeValidationStatus ∉ [FeeStatus.valid, .partPaid, .underpaid, .overpaid]) = ps.length := by
  induction ps with
  | nil => rfl
  | cons p ps ih =>
    simp only [countStatus, List.countP_cons, List.length_cons] at ih ⊢
    rw [← ih]
    cases p.feeValidationStatus <;> simp <;> omega

theorem reportSummary_buckets :
    let summary := reportSummary options payments
    summary.validCount + summary.partialCount + summary.overpaidCount + summary.underpaidCount +
      summary.unknownCount = (selectedPayments options payments).length := by
  have hstatus := fun status read ofRow => summary_count options payments
    (fun p => p.feeValidationStatus = status) read ofRow
  rw [← buckets_eq]
  refine congrArg₂ _ (congrArg₂ _ (congrArg₂ _ (congrArg₂ _ ?_ ?_) ?_) ?_) ?_
  · exact hstatus .valid ReportTotals.validCount ReportRow.validCount rfl (fun _ _ => rfl)
      fun _ _ => rfl
  · exact hstatus .partPaid ReportTotals.partialCount ReportRow.partialCount rfl (fun _ _ => rfl)
      fun _ _ => rfl
  · exact hstatus .overpaid ReportTotals.overpaidCount ReportRow.overpaidCount rfl (fun _ _ => rfl)
      fun _ _ => rfl
  · exact hstatus .underpaid ReportTotals.underpaidCount ReportRow.underpaidCount rfl
      (fun _ _ => rfl) fun _ _ => rfl
  · exact summary_count options payments _ ReportTotals.unknownCount ReportRow.unknownCount rfl
      (fun _ _ => rfl) fun _ _ => rfl

/-- The snapshots that the summary rebuilds beyond those there are. -/
def rebuiltErrors : Int :=
  ((reportDates options (selectedPayments options payments)).map fun date =>
    rebuiltError (fiatSnapshotCount (paymentsOn options payments date))
      (paymentsOn options payments date).length).sum

theorem length_pos_of_mem_reportDates {date : Int}
    (h : date ∈ reportDates options (selectedPayments options payments)) :
    0 < (paymentsOn options payments date).length := by
  obtain ⟨p, hp, hdate⟩ := (mem_reportDates options _).mp h
  exact List.length_pos_of_mem (List.mem_filter.mpr ⟨hp, by simpa using hdate⟩)

theorem sum_map_cast_add {α : Type} (f : α → Nat) (g : α → Int) (l : List α) :
    (l.map fun x => (((f x : Int) + g x : Int) : ℚ)).sum =
      ((((l.map f).sum : Nat) : Int) + (l.map g).sum : Int) := by
  induction l with
  | nil => rfl
  | cons x l ih =>
    rw [List.map_cons, List.sum_cons, ih, List.map_cons, List.sum_cons, List.map_cons, List.sum_cons]
    push_cast
    ring

/-- The number of snapshots as the summary has it. -/
theorem foldl_fiatSnapshotCount :
    ((aggregateByDate options payments).foldl ReportTotals.add .empty).fiatSnapshotCount =
      ((fiatSnapshotCount (selectedPayments options payments) +
        rebuiltErrors options payments : Int) : ℚ) := by
  have hday : ∀ date ∈ reportDates options (selectedPayments options payments),
      JsRounding.mathRound ((reportRow date (paymentsOn options payments date)).fiatCoverage / 100 *
        (reportRow date (paymentsOn options payments date)).paymentCount) =
        (((fiatSnapshotCount (paymentsOn options payments date) : Int) +
          rebuiltError (fiatSnapshotCount (paymentsOn options payments date))
            (paymentsOn options payments date).length : Int) : ℚ) := by
    intro date hdate
    exact_mod_cast rebuilt_eq (Int.natCast_nonneg _)
      (length_pos_of_mem_reportDates options payments hdate)
  have hsnapshots := sum_countP options payments fun p => p.fiatAmount.isSome
  rw [foldl_add ReportTotals.fiatSnapshotCount (fun row : ReportRow =>
      JsRounding.mathRound (row.fiatCoverage / 100 * row.paymentCount)) (fun _ _ => rfl),
    aggregateByDate, List.map_map]
  change 0 + ((reportDates options (selectedPayments options payments)).map fun date =>
    JsRounding.mathRound ((reportRow date (paymentsOn options payments date)).fiatCoverage / 100 *
      (reportRow date (paymentsOn options payments date)).paymentCount)).sum = _
  rw [zero_add, List.map_congr_left hday, rebuiltErrors, fiatSnapshotCount, ← hsnapshots]
  exact sum_map_cast_add (fun date => fiatSnapshotCount (paymentsOn options payments date)) _ _

/-- **The coverage of a summary**: the percentage of the snapshots there are and those rebuilt. -/
theorem reportSummary_fiatCoverage :
    (reportSummary options payments).fiatCoverage =
      percentage ((fiatSnapshotCount (selectedPayments options payments) +
        rebuiltErrors options payments : Int) : ℚ) (selectedPayments options payments).length := by
  have hcount := reportSummary_paymentCount options payments
  rw [reportSummary] at hcount ⊢
  dsimp only at hcount ⊢
  rw [foldl_fiatSnapshotCount, hcount]

/-! ## When a summary is exact -/

/-- A summary is that of these payments. -/
structure SummaryExact (ps : List ReportPayment) (summary : ReportSummary) : Prop where
  paymentCount : summary.paymentCount = ps.length
  buckets : summary.validCount + summary.partialCount + summary.overpaidCount +
    summary.underpaidCount + summary.unknownCount = summary.paymentCount
  totals : ∀ asset, (summary.totals.lookup asset).map parseFloat =
    if ∃ p ∈ ps, p.asset = asset then some (some ((group ReportPayment.asset ps asset).map
      ReportPayment.units).sum) else none
  fiatCoverage : summary.fiatCoverage = percentage (fiatSnapshotCount ps) ps.length

/-- A remainder that stays one keeps the quotient. -/
theorem add_ediv_eq_iff {a b m : Int} (hm : 0 < m) :
    (a + b) / m = a / m ↔ 0 ≤ a % m + b ∧ a % m + b < m := by
  have hsplit : a + b = a % m + b + m * (a / m) := by
    have hdivision := Int.mul_ediv_add_emod a m
    omega
  have hquotient : (a + b) / m = (a % m + b) / m + a / m := by
    rw [hsplit, Int.add_mul_ediv_left _ _ hm.ne']
  rw [hquotient]
  constructor
  · intro h
    have hzero : (a % m + b) / m = 0 := by omega
    have hdivision := Int.mul_ediv_add_emod (a % m + b) m
    have hlow := Int.emod_nonneg (a % m + b) hm.ne'
    have hhigh := Int.emod_lt_of_pos (a % m + b) hm
    rw [hzero, mul_zero, zero_add] at hdivision
    omega
  · rintro ⟨hlow, hhigh⟩
    rw [Int.ediv_eq_zero_of_lt hlow hhigh, zero_add]

/-- So many snapshots too many leave the percentage as it is: what it was rounded by stays within half
of its last place. -/
def PercentageKept (snapshots count errors : Int) : Prop :=
  count = 0 ∨ 0 ≤ (20000 * snapshots + count) % (2 * count) + 20000 * errors ∧
    (20000 * snapshots + count) % (2 * count) + 20000 * errors < 2 * count

theorem percentage_eq_iff {s e : Int} {n : Nat} (hs : 0 ≤ s) (he : 0 ≤ s + e) :
    percentage ((s + e : Int) : ℚ) n = percentage s n ↔ PercentageKept s n e := by
  rcases Nat.eq_zero_or_pos n with rfl | hn
  · exact iff_of_true (by simp [percentage]) (Or.inl rfl)
  have hcount : (n : Int) ≠ 0 := by omega
  have hsame : 20000 * (s + e) + n = 20000 * s + n + 20000 * e := by ring
  rw [percentage_eq he hn, percentage_eq hs hn, div_left_inj' (by norm_num), Int.cast_inj, hsame,
    add_ediv_eq_iff (by omega), PercentageKept, or_iff_right hcount]

theorem rebuilt_total_nonneg :
    0 ≤ (fiatSnapshotCount (selectedPayments options payments) : Int) +
      rebuiltErrors options payments := by
  rw [fiatSnapshotCount, ← sum_countP options payments fun p => p.fiatAmount.isSome, rebuiltErrors,
    ← Int.cast_nonneg_iff (R := ℚ)]
  rw [← sum_map_cast_add]
  refine List.sum_nonneg fun x hx => ?_
  obtain ⟨date, hdate, rfl⟩ := List.mem_map.mp hx
  exact_mod_cast rebuilt_nonneg (Int.natCast_nonneg _)
    (length_pos_of_mem_reportDates options payments hdate)

/-- **When a summary is exact**: where the snapshots rebuilt beyond those there are leave the
percentage as it is. -/
theorem summary_exact_iff :
    SummaryExact (selectedPayments options payments) (reportSummary options payments) ↔
      PercentageKept (fiatSnapshotCount (selectedPayments options payments))
        (selectedPayments options payments).length (rebuiltErrors options payments) := by
  have hcoverage := percentage_eq_iff (n := (selectedPayments options payments).length)
    (Int.natCast_nonneg _) (rebuilt_total_nonneg options payments)
  rw [← reportSummary_fiatCoverage, Int.cast_natCast] at hcoverage
  constructor
  · exact fun h => hcoverage.mp h.fiatCoverage
  · intro h
    refine ⟨reportSummary_paymentCount options payments, ?_, fun asset => ?_, hcoverage.mpr h⟩
    · rw [reportSummary_paymentCount]
      exact reportSummary_buckets options payments
    · rw [reportSummary_totals, sum_units, selectedPayments]
      split
      · rw [Option.map_some, parseFloat_exactText]
      · rfl

/-- A report whose days have at most ten thousand payments each keeps its percentage. -/
theorem percentageKept_of_small_days
    (h : ∀ date ∈ reportDates options (selectedPayments options payments),
      (paymentsOn options payments date).length ≤ 10000) :
    PercentageKept (fiatSnapshotCount (selectedPayments options payments))
      (selectedPayments options payments).length (rebuiltErrors options payments) := by
  have herrors : rebuiltErrors options payments = 0 := by
    refine List.sum_eq_zero fun x hx => ?_
    obtain ⟨date, hdate, rfl⟩ := List.mem_map.mp hx
    exact rebuiltError_of_le (length_pos_of_mem_reportDates options payments hdate) (h date hdate)
  have hsame := percentage_eq_iff (n := (selectedPayments options payments).length)
    (Int.natCast_nonneg _) (rebuilt_total_nonneg options payments)
  rw [herrors] at hsame ⊢
  exact hsame.mp (by rw [add_zero])

end

/-! ## Ten thousand payments and two -/

/-- A payment that was confirmed on a day, and perhaps has a fiat snapshot. -/
def paymentOnDay (day : Int) (fiatAmount : Option ℚ) : ReportPayment where
  toPayment := { Payment.withDefaults "SCH" "STU001" "tx1" 10000000 0 with status := .success }
  assetCode := none
  confirmedAt := some (day * msPerDay)
  updatedAt := day * msPerDay
  studentDeleted := false
  fiatAmount := fiatAmount
  fiatCurrency := none

/-- On one day 5000 payments with a snapshot and 5001 without, on the next day one without. -/
def busyDays : List ReportPayment :=
  List.replicate 5000 (paymentOnDay 0 (some 1)) ++ List.replicate 5001 (paymentOnDay 0 none) ++
    List.replicate 1 (paymentOnDay 1 none)

def allTime : ReportOptions := ⟨"SCH", none, none, utc⟩

theorem paymentOnDay_date (day : Int) (fiatAmount : Option ℚ) :
    (paymentOnDay day fiatAmount).date utc = day := by
  rw [ReportPayment.date, TimeZone.localDate, TimeZone.clock, utc_offset, add_zero]
  exact Int.mul_ediv_cancel _ (by decide)

theorem selectedPayments_busyDays : selectedPayments allTime busyDays = busyDays := by
  refine List.filter_eq_self.mpr fun p hp => ?_
  simp only [busyDays, List.mem_append, List.mem_replicate] at hp
  rcases hp with (⟨-, rfl⟩ | ⟨-, rfl⟩) | ⟨-, rfl⟩ <;> rfl

theorem paymentsOn_busyDays (date : Int) :
    paymentsOn allTime busyDays date =
      if date = 0 then List.replicate 5000 (paymentOnDay 0 (some 1)) ++
        List.replicate 5001 (paymentOnDay 0 none)
      else if date = 1 then List.replicate 1 (paymentOnDay 1 none) else [] := by
  rw [paymentsOn, selectedPayments_busyDays, busyDays, group, allTime, List.filter_append,
    List.filter_append, List.filter_replicate, List.filter_replicate, List.filter_replicate,
    paymentOnDay_date, paymentOnDay_date, paymentOnDay_date]
  by_cases hzero : date = 0
  · subst hzero
    rw [if_pos rfl, if_pos (decide_eq_true rfl), if_pos (decide_eq_true rfl), if_neg (by decide),
      List.append_nil]
  by_cases hone : date = 1
  · subst hone
    rw [if_neg (by decide), if_neg (by decide), if_pos (decide_eq_true rfl), if_neg (by decide),
      if_pos rfl, List.nil_append, List.nil_append]
  · have hzero' : ¬ decide (0 = date) = true := by simpa using Ne.symm hzero
    have hone' : ¬ decide (1 = date) = true := by simpa using Ne.symm hone
    rw [if_neg hzero', if_neg hzero', if_neg hone', if_neg hzero, if_neg hone]
    rfl

theorem reportDates_busyDays : (reportDates allTime busyDays).Perm [0, 1] := by
  refine (List.perm_ext_iff_of_nodup (reportDates_nodup ..) (by decide)).mpr fun date => ?_
  rw [mem_reportDates]
  constructor
  · rintro ⟨p, hp, rfl⟩
    simp only [busyDays, List.mem_append, List.mem_replicate] at hp
    rcases hp with (⟨-, rfl⟩ | ⟨-, rfl⟩) | ⟨-, rfl⟩
    · exact List.mem_cons.mpr (.inl (paymentOnDay_date 0 _))
    · exact List.mem_cons.mpr (.inl (paymentOnDay_date 0 _))
    · exact List.mem_cons_of_mem _ (List.mem_singleton.mpr (paymentOnDay_date 1 _))
  · intro h
    rcases List.mem_cons.mp h with rfl | h
    · refine ⟨paymentOnDay 0 none, ?_, paymentOnDay_date 0 _⟩
      exact List.mem_append_left _ (List.mem_append_right _ (List.mem_replicate.mpr ⟨by decide, rfl⟩))
    · rw [List.mem_singleton.mp h]
      exact ⟨paymentOnDay 1 none, List.mem_append_right _ (List.mem_replicate.mpr ⟨by decide, rfl⟩),
        paymentOnDay_date 1 _⟩

/-- A summary of these days says that half of the payments have a snapshot, where 49.99 percent have
one. -/
theorem busy_days_coverage :
    ¬ SummaryExact (selectedPayments allTime busyDays) (reportSummary allTime busyDays) := by
  intro h
  have hlength : (selectedPayments allTime busyDays).length = 10002 := by
    rw [selectedPayments_busyDays, busyDays, List.length_append, List.length_append,
      List.length_replicate, List.length_replicate, List.length_replicate]
  have hsnapshots : fiatSnapshotCount (selectedPayments allTime busyDays) = 5000 := by
    rw [selectedPayments_busyDays, busyDays, fiatSnapshotCount, List.countP_append,
      List.countP_append, List.countP_replicate, List.countP_replicate, List.countP_replicate]
    rfl
  have herrors : rebuiltErrors allTime busyDays = 1 := by
    rw [rebuiltErrors, selectedPayments_busyDays, (reportDates_busyDays.map _).sum_eq, List.map_cons,
      List.map_singleton, List.sum_cons, List.sum_singleton, paymentsOn_busyDays, if_pos rfl,
      paymentsOn_busyDays, if_neg (by decide), if_pos rfl, fiatSnapshotCount, fiatSnapshotCount,
      List.countP_append, List.countP_replicate, List.countP_replicate, List.countP_replicate,
      List.length_append, List.length_replicate, List.length_replicate, List.length_replicate]
    decide
  have hkept := (percentage_eq_iff (Int.natCast_nonneg _)
    (rebuilt_total_nonneg allTime busyDays)).mp
    ((reportSummary_fiatCoverage allTime busyDays).symm.trans h.fiatCoverage)
  rw [hlength, hsnapshots, herrors] at hkept
  exact absurd hkept (by unfold PercentageKept; decide)

end StellarEduPay

import Mathlib.Data.Int.LeastGreatest
import Mathlib.Data.List.Count
import Mathlib.Tactic.Linarith

/-! # Local days of a report

A report over dates selects the payments confirmed between the start of the first date and the start
of the day after the last one, both in the school's time zone. `localDayStartUTC` looks for a start
in two passes: it takes the offset in force at the date's midnight in UTC, moves to the instant that
would be local midnight under it, and does so once more with the offset in force there. Its comment
says this handles clock changes correctly, and at most of them it does. It misses the start where
the clock is set forward over midnight, where it is set forward from midnight by a zone behind UTC,
and where it is set back to midnight by a zone that is not behind UTC afterwards.

Instants are milliseconds and dates are days, both counted from the start of 1970 in UTC. -/

namespace StellarEduPay

/-- A day in UTC, in milliseconds. -/
def msPerDay : Int := 86400000

/-- A time zone: the offset of its clock in milliseconds at each instant. It changes at most once
in two days, by whole seconds, and the date on the clock never goes back. -/
structure TimeZone where
  offset : Int → Int
  whole_second : ∀ t, 1000 ∣ offset t
  one_change : ∀ {t u v}, t ≤ u → u ≤ v → v - t ≤ 2 * msPerDay →
    offset t = offset u ∨ offset u = offset v
  date_mono : ∀ {t u}, t ≤ u → (t + offset t) / msPerDay ≤ (u + offset u) / msPerDay

namespace TimeZone
variable (zone : TimeZone)

/-- What the clock shows at an instant. -/
def clock (t : Int) : Int := t + zone.offset t

/-- The local calendar date of an instant. -/
def localDate (t : Int) : Int := zone.clock t / msPerDay

/-! The hour, the minute and the second that `Intl.DateTimeFormat` gives of an instant. It writes
midnight as hour 24. -/

def localHour (t : Int) : Int :=
  if zone.clock t % msPerDay / 3600000 = 0 then 24 else zone.clock t % msPerDay / 3600000

def localMin (t : Int) : Int := zone.clock t % 3600000 / 60000

def localSec (t : Int) : Int := zone.clock t % 60000 / 1000

end TimeZone

/-- `Date.UTC` of a date: its midnight in UTC. -/
def dateUTC (date : Int) : Int := date * msPerDay

section
variable (zone : TimeZone)

/-- One pass of `localDayStartUTC`. -/
def localDayPass (date approxUtc : Int) : Int :=
  let localHour := zone.localHour approxUtc % 24
  let localMin := zone.localMin approxUtc
  let localSec := zone.localSec approxUtc
  let localMsFromMidnight := (localHour * 3600 + localMin * 60 + localSec) * 1000
  let dateDiff := dateUTC date - dateUTC (zone.localDate approxUtc)
  approxUtc - localMsFromMidnight + dateDiff

/-- `localDayStartUTC` -/
def localDayStartUTC (date : Int) : Int :=
  localDayPass zone date (localDayPass zone date (dateUTC date))

/-- `localDayEndUTC` -/
def localDayEndUTC (date : Int) : Int := localDayStartUTC zone (date + 1)

end

/-- The filter on `confirmedAt`. -/
structure DateRangeFilter where
  gte : Option Int
  lt : Option Int

/-- `buildDateRangeFilter` -/
def buildDateRangeFilter (zone : TimeZone) (startDate endDate : Option Int) : DateRangeFilter where
  gte := startDate.map (localDayStartUTC zone)
  lt := endDate.map (localDayEndUTC zone)

/-- An instant satisfies the filter. -/
def DateRangeFilter.matches (filter : DateRangeFilter) (t : Int) : Bool :=
  filter.gte.all (fun start => decide (start ≤ t)) && filter.lt.all (fun stop => decide (t < stop))

/-- How many payments a report over a range of dates counts, by when they were confirmed. -/
def paymentsBetween (zone : TimeZone) (startDate endDate : Int) (confirmedAt : List Int) : Nat :=
  confirmedAt.countP (buildDateRangeFilter zone (some startDate) (some endDate)).matches

/-! ## Two passes -/

section
variable (zone : TimeZone) {date t : Int}

theorem localHour_mod : zone.localHour t % 24 = zone.clock t % msPerDay / 3600000 := by
  rw [TimeZone.localHour, msPerDay]
  by_cases hmidnight : zone.clock t % 86400000 / 3600000 = 0
  · rw [if_pos hmidnight, hmidnight]
    rfl
  · rw [if_neg hmidnight]
    omega

/-- A pass moves to where local midnight would be under the offset now in force. -/
theorem localDayPass_eq (h : 1000 ∣ t) : localDayPass zone date t = dateUTC date - zone.offset t := by
  have hclock : 1000 ∣ zone.clock t := Int.dvd_add h (zone.whole_second t)
  have hsame : zone.clock t = t + zone.offset t := rfl
  simp only [localDayPass, localHour_mod, TimeZone.localMin, TimeZone.localSec,
    TimeZone.localDate, dateUTC, msPerDay]
  omega

theorem dateUTC_dvd (date : Int) : 1000 ∣ dateUTC date := by
  rw [dateUTC, msPerDay]
  omega

/-- The offset the search ends with. -/
def settledOffset (date : Int) : Int := zone.offset (dateUTC date - zone.offset (dateUTC date))

theorem localDayStartUTC_eq (date : Int) :
    localDayStartUTC zone date = dateUTC date - settledOffset zone date := by
  rw [localDayStartUTC, localDayPass_eq zone (dateUTC_dvd date),
    localDayPass_eq zone (Int.dvd_sub (dateUTC_dvd date) (zone.whole_second _)), settledOffset]

theorem le_localDate_iff : date ≤ zone.localDate t ↔ dateUTC date ≤ t + zone.offset t := by
  rw [TimeZone.localDate, dateUTC, Int.le_ediv_iff_mul_le (by decide)]
  rfl

theorem localDate_lt_iff : zone.localDate t < date ↔ t + zone.offset t < dateUTC date := by
  rw [← not_le, le_localDate_iff, not_le]

theorem TimeZone.localDate_mono {u : Int} (h : t ≤ u) : zone.localDate t ≤ zone.localDate u :=
  zone.date_mono h

end

/-! ## When a range is right -/

section
variable (zone : TimeZone)

/-- The filter of two dates selects the instants of the days from the one to the other. -/
def RangeExact (startDate endDate : Int) : Prop :=
  ∀ t, (buildDateRangeFilter zone (some startDate) (some endDate)).matches t = true ↔
    startDate ≤ zone.localDate t ∧ zone.localDate t ≤ endDate

/-- With the offset the search ends with, the clock is not yet past midnight just before the date
is to start, and is there when it does. -/
def StartsOnTime (date : Int) : Prop :=
  zone.offset (dateUTC date - settledOffset zone date - 1) ≤ settledOffset zone date ∧
    settledOffset zone date ≤ zone.offset (dateUTC date - settledOffset zone date)

/-- The clock never shows a date of the range, and the offsets put the end of the range no later
than its start. -/
def RangeSkipped (startDate endDate : Int) : Prop :=
  (∀ t, ¬ (startDate ≤ zone.localDate t ∧ zone.localDate t ≤ endDate)) ∧
    dateUTC (endDate + 1) - dateUTC startDate ≤
      settledOffset zone (endDate + 1) - settledOffset zone startDate

/-- The clock changes at an instant so that the start of a date is missed. -/
inductive StartMissed (date c : Int) : Prop where
  /-- It is set forward over midnight. -/
  | over (hbefore : c + zone.offset (c - 1) < dateUTC date)
      (hafter : dateUTC date < c + zone.offset c)
  /-- It is set forward from midnight and was behind UTC. -/
  | from_midnight (hat : c + zone.offset (c - 1) = dateUTC date)
      (hforward : zone.offset (c - 1) < zone.offset c) (hbehind : zone.offset (c - 1) < 0)
  /-- It is set back to midnight and is not behind UTC. -/
  | back_to_midnight (hat : c + zone.offset c = dateUTC date)
      (hback : zone.offset c < zone.offset (c - 1)) (hahead : 0 ≤ zone.offset c)

variable {zone} {date startDate endDate t lo hi c : Int}

theorem matches_iff : (buildDateRangeFilter zone (some startDate) (some endDate)).matches t = true ↔
    localDayStartUTC zone startDate ≤ t ∧ t < localDayStartUTC zone (endDate + 1) := by
  simp [buildDateRangeFilter, DateRangeFilter.matches, localDayEndUTC]

/-- A date starts on time when its start is the first instant that does not come before it. -/
theorem startsOnTime_iff : StartsOnTime zone date ↔
    zone.localDate (localDayStartUTC zone date - 1) < date ∧
      date ≤ zone.localDate (localDayStartUTC zone date) := by
  rw [StartsOnTime, localDate_lt_iff, le_localDate_iff, localDayStartUTC_eq]
  constructor
  · rintro ⟨hbefore, hat⟩
    constructor <;> omega
  · rintro ⟨hbefore, hat⟩
    constructor <;> omega

theorem StartsOnTime.le_iff (h : StartsOnTime zone date) :
    localDayStartUTC zone date ≤ t ↔ date ≤ zone.localDate t := by
  rw [startsOnTime_iff] at h
  obtain ⟨hbefore, hat⟩ := h
  constructor
  · intro hle
    exact hat.trans (zone.localDate_mono hle)
  · intro hdate
    by_contra hlt
    have := zone.localDate_mono (show t ≤ localDayStartUTC zone date - 1 by omega)
    omega

theorem StartsOnTime.rangeExact (hstart : StartsOnTime zone startDate)
    (hend : StartsOnTime zone (endDate + 1)) : RangeExact zone startDate endDate := by
  intro t
  rw [matches_iff, hstart.le_iff, ← not_le, hend.le_iff]
  constructor <;> rintro ⟨hlo, hhi⟩ <;> exact ⟨hlo, by omega⟩

/-- A range that is right and that some instant falls into starts and ends on time. -/
theorem RangeExact.startsOnTime (h : RangeExact zone startDate endDate)
    (hlo : startDate ≤ zone.localDate t) (hhi : zone.localDate t ≤ endDate) :
    StartsOnTime zone startDate ∧ StartsOnTime zone (endDate + 1) := by
  simp only [RangeExact, matches_iff] at h
  obtain ⟨hfrom, hto⟩ := (h t).mpr ⟨hlo, hhi⟩
  have hstart := (h (localDayStartUTC zone startDate)).mp ⟨le_rfl, hfrom.trans_lt hto⟩
  have hlast := (h (localDayStartUTC zone (endDate + 1) - 1)).mp ⟨by omega, by omega⟩
  have hprior := (h (localDayStartUTC zone startDate - 1)).not.mp (by omega)
  have hend := (h (localDayStartUTC zone (endDate + 1))).not.mp (by omega)
  have hmono := @TimeZone.localDate_mono zone
  have hstep := hmono (show localDayStartUTC zone startDate - 1 ≤ localDayStartUTC zone startDate by
    omega)
  have hstop := hmono (show localDayStartUTC zone (endDate + 1) - 1 ≤
    localDayStartUTC zone (endDate + 1) by omega)
  rw [startsOnTime_iff, startsOnTime_iff]
  exact ⟨⟨by omega, hstart.1⟩, by omega, by omega⟩

/-- **Exactly when a range is right**, for any zone. -/
theorem rangeExact_iff : RangeExact zone startDate endDate ↔
    (StartsOnTime zone startDate ∧ StartsOnTime zone (endDate + 1)) ∨
      RangeSkipped zone startDate endDate := by
  constructor
  · intro h
    by_cases hsome : ∃ t, startDate ≤ zone.localDate t ∧ zone.localDate t ≤ endDate
    case pos =>
      obtain ⟨t, hlo, hhi⟩ := hsome
      exact .inl (h.startsOnTime hlo hhi)
    refine .inr ⟨not_exists.mp hsome, ?_⟩
    have hnone := (h (localDayStartUTC zone startDate)).not.mpr (not_exists.mp hsome _)
    rw [matches_iff, localDayStartUTC_eq, localDayStartUTC_eq] at hnone
    omega
  · rintro (⟨hstart, hend⟩ | ⟨hnone, hshift⟩)
    · exact hstart.rangeExact hend
    · intro t
      rw [matches_iff, localDayStartUTC_eq, localDayStartUTC_eq]
      have := hnone t
      constructor
      · intro hin
        omega
      · intro hin
        exact absurd hin this

/-! ## Offsets of less than a day -/

/-- The zone is less than a day from UTC, as every zone in use is. -/
def TimeZone.WithinDay (zone : TimeZone) : Prop :=
  ∀ t, -msPerDay < zone.offset t ∧ zone.offset t < msPerDay

/-- The first of the instants after one without a property that has it. -/
theorem exists_first {P : Int → Prop} (lo hi : Int) (hle : lo ≤ hi) (hlo : ¬ P lo) (hhi : P hi) :
    ∃ c, lo < c ∧ c ≤ hi ∧ ¬ P (c - 1) ∧ P c := by
  have hne : lo ≠ hi := by
    rintro rfl
    exact hlo hhi
  obtain ⟨c, ⟨hgt, hc⟩, hleast⟩ := Int.exists_least_of_bdd (P := fun z => lo < z ∧ P z)
    ⟨lo, fun z hz => hz.1.le⟩ ⟨hi, by omega, hhi⟩
  refine ⟨c, hgt, hleast hi ⟨by omega, hhi⟩, fun hprior => ?_, hc⟩
  by_cases heq : c - 1 = lo
  · exact hlo (heq ▸ hprior)
  · have := hleast (c - 1) ⟨by omega, hprior⟩
    omega

/-- Where two offsets within two days differ, the clock changes from the one to the other. -/
theorem exists_change (hle : lo ≤ hi) (hnear : hi - lo ≤ 2 * msPerDay)
    (hne : zone.offset hi ≠ zone.offset lo) :
    ∃ c, lo < c ∧ c ≤ hi ∧ zone.offset (c - 1) = zone.offset lo ∧ zone.offset c = zone.offset hi := by
  obtain ⟨c, hgt, hc, hbefore, hafter⟩ :=
    exists_first (P := fun t => zone.offset t ≠ zone.offset lo) _ _ hle (not_not_intro rfl) hne
  refine ⟨c, hgt, hc, not_not.mp hbefore, ?_⟩
  rcases zone.one_change hgt.le hc hnear with hsame | hsame
  · exact absurd hsame.symm hafter
  · exact hsame

theorem offset_before (hne : zone.offset (c - 1) ≠ zone.offset c) (ht : t < c)
    (hnear : c - t ≤ 2 * msPerDay) : zone.offset t = zone.offset (c - 1) :=
  (zone.one_change (by omega) (by omega) hnear).resolve_right hne

theorem offset_after (hne : zone.offset (c - 1) ≠ zone.offset c) (ht : c ≤ t)
    (hnear : t - c < 2 * msPerDay) : zone.offset t = zone.offset c :=
  ((zone.one_change (by omega) ht (by omega)).resolve_left hne).symm

/-- An instant near a change is before it, under the old offset, or after it, under the new one. -/
theorem offset_cases (hne : zone.offset (c - 1) ≠ zone.offset c) (hlo : c - 2 * msPerDay ≤ t)
    (hhi : t < c + 2 * msPerDay) : (t < c ∧ zone.offset t = zone.offset (c - 1)) ∨
      (c ≤ t ∧ zone.offset t = zone.offset c) := by
  rcases lt_or_ge t c with ht | ht
  · exact .inl ⟨ht, offset_before hne ht (by omega)⟩
  · exact .inr ⟨ht, offset_after hne ht (by omega)⟩

/-- A change at which a start is missed lies within a day of the date's midnight in UTC. -/
theorem StartMissed.not_startsOnTime (hzone : zone.WithinDay) (h : StartMissed zone date c) :
    ¬ StartsOnTime zone date := by
  have hold := hzone (c - 1)
  have hnew := hzone c
  have hday := hzone (dateUTC date)
  have hpass := hzone (dateUTC date - zone.offset (dateUTC date))
  have hne : zone.offset (c - 1) ≠ zone.offset c := by
    rcases h with ⟨_, _⟩ | ⟨_, _, _⟩ | ⟨_, _, _⟩ <;> omega
  have hplace : c - msPerDay ≤ dateUTC date ∧ dateUTC date ≤ c + msPerDay := by
    rcases h with ⟨_, _⟩ | ⟨_, _, _⟩ | ⟨_, _, _⟩ <;> constructor <;> omega
  have hfirst := offset_cases hne (t := dateUTC date) (by omega) (by omega)
  have hsecond := offset_cases hne (t := dateUTC date - zone.offset (dateUTC date))
    (by omega) (by omega)
  have hstart := offset_cases hne (t := dateUTC date - settledOffset zone date)
    (by rw [settledOffset]; omega) (by rw [settledOffset]; omega)
  have hprior := offset_cases hne (t := dateUTC date - settledOffset zone date - 1)
    (by rw [settledOffset]; omega) (by rw [settledOffset]; omega)
  rintro ⟨hbefore, hat⟩
  rw [← settledOffset] at hsecond
  rcases h with ⟨_, _⟩ | ⟨_, _, _⟩ | ⟨_, _, _⟩ <;> omega

/-- A start that is not on time is missed at some change. -/
theorem exists_startMissed (hzone : zone.WithinDay) (h : ¬ StartsOnTime zone date) :
    ∃ c, StartMissed zone date c := by
  have hday := hzone (dateUTC date)
  have hpass := hzone (dateUTC date - zone.offset (dateUTC date))
  rw [← settledOffset] at hpass
  rw [StartsOnTime, not_and_or, not_le, not_le] at h
  -- The change lies between where the second pass reads the offset and where it ends up.
  have hchange : ∃ c, zone.offset (c - 1) ≠ zone.offset c ∧ dateUTC date - msPerDay < c ∧
      c < dateUTC date + msPerDay := by
    rcases h with h | h
    · rcases le_total (dateUTC date - settledOffset zone date - 1)
        (dateUTC date - zone.offset (dateUTC date)) with hle | hle
      · obtain ⟨c, hlo, hhi, hold, hnew⟩ := exists_change hle (by omega) h.ne
        exact ⟨c, by rw [hold, hnew]; exact h.ne', by omega, by omega⟩
      · obtain ⟨c, hlo, hhi, hold, hnew⟩ := exists_change hle (by omega) h.ne'
        exact ⟨c, by rw [hold, hnew]; exact h.ne, by omega, by omega⟩
    · rcases le_total (dateUTC date - settledOffset zone date)
        (dateUTC date - zone.offset (dateUTC date)) with hle | hle
      · obtain ⟨c, hlo, hhi, hold, hnew⟩ := exists_change hle (by omega) h.ne'
        exact ⟨c, by rw [hold, hnew]; exact h.ne, by omega, by omega⟩
      · obtain ⟨c, hlo, hhi, hold, hnew⟩ := exists_change hle (by omega) h.ne
        exact ⟨c, by rw [hold, hnew]; exact h.ne', by omega, by omega⟩
  obtain ⟨c, hne, hlo, hhi⟩ := hchange
  have hfirst := offset_cases hne (t := dateUTC date) (by omega) (by omega)
  have hsecond := offset_cases hne (t := dateUTC date - zone.offset (dateUTC date))
    (by omega) (by omega)
  have hstart := offset_cases hne (t := dateUTC date - settledOffset zone date)
    (by omega) (by omega)
  have hprior := offset_cases hne (t := dateUTC date - settledOffset zone date - 1)
    (by omega) (by omega)
  rw [← settledOffset] at hsecond
  by_cases hover : c + zone.offset (c - 1) < dateUTC date ∧ dateUTC date < c + zone.offset c
  · exact ⟨c, .over hover.1 hover.2⟩
  by_cases hfrom : c + zone.offset (c - 1) = dateUTC date ∧
      zone.offset (c - 1) < zone.offset c ∧ zone.offset (c - 1) < 0
  · exact ⟨c, .from_midnight hfrom.1 hfrom.2.1 hfrom.2.2⟩
  · exact ⟨c, .back_to_midnight (by omega) (by omega) (by omega)⟩

/-- No range is right by being skipped whole: where the clock jumps over one, the search does not
put its end before its start. -/
theorem not_rangeSkipped (hzone : zone.WithinDay) (hle : startDate ≤ endDate) :
    ¬ RangeSkipped zone startDate endDate := by
  rintro ⟨hnone, hshift⟩
  have hlate := hzone (dateUTC (endDate + 1))
  -- The clock jumps from before the range to after it.
  obtain ⟨c, -, -, hbefore, hafter⟩ :=
    exists_first (dateUTC startDate - msPerDay) (dateUTC (endDate + 1) + msPerDay)
      (P := fun t => startDate ≤ zone.localDate t)
      (by simp only [dateUTC, msPerDay]; omega)
      (by have := hzone (dateUTC startDate - msPerDay)
          rw [le_localDate_iff]; omega)
      (by have := hzone (dateUTC (endDate + 1) + msPerDay)
          rw [le_localDate_iff]; simp only [dateUTC, msPerDay] at *; omega)
  have hpast : endDate + 1 ≤ zone.localDate c := by
    have := hnone c
    omega
  rw [not_le, localDate_lt_iff] at hbefore
  rw [le_localDate_iff] at hpast
  have hold := hzone (c - 1)
  have hnew := hzone c
  have hspan : dateUTC (endDate + 1) = dateUTC startDate + msPerDay := by
    simp only [dateUTC, msPerDay] at *
    omega
  have hne : zone.offset (c - 1) ≠ zone.offset c := by
    rw [msPerDay] at hspan
    omega
  have hs := hzone (dateUTC startDate)
  have he := hzone (dateUTC (endDate + 1))
  have hsday := offset_cases hne (t := dateUTC startDate) (by omega) (by omega)
  have heday := offset_cases hne (t := dateUTC (endDate + 1)) (by omega) (by omega)
  have hspass := offset_cases hne (t := dateUTC startDate - zone.offset (dateUTC startDate))
    (by omega) (by omega)
  have hepass := offset_cases hne
    (t := dateUTC (endDate + 1) - zone.offset (dateUTC (endDate + 1))) (by omega) (by omega)
  rw [← settledOffset] at hspass hepass
  omega

theorem startsOnTime_iff_not_missed (hzone : zone.WithinDay) :
    StartsOnTime zone date ↔ ∀ c, ¬ StartMissed zone date c := by
  constructor
  · intro h c hmissed
    exact hmissed.not_startsOnTime hzone h
  · intro h
    by_contra hlate
    obtain ⟨c, hmissed⟩ := exists_startMissed hzone hlate
    exact h c hmissed

/-! ## Consecutive ranges -/

/-- Of the ranges of single days, one has the instant. -/
theorem existsUnique_day (h : ∀ date, StartsOnTime zone date) (t : Int) :
    ∃! date, (buildDateRangeFilter zone (some date) (some date)).matches t = true := by
  refine ⟨zone.localDate t, ((h _).rangeExact (h _) t).mpr ⟨le_rfl, le_rfl⟩, fun date hdate => ?_⟩
  obtain ⟨hlo, hhi⟩ := ((h _).rangeExact (h _) t).mp hdate
  omega

variable {middle : Int}

/-- The counts of adjacent ranges add up to that of their union. -/
theorem paymentsBetween_add (hstart : StartsOnTime zone startDate)
    (hmiddle : StartsOnTime zone (middle + 1)) (hend : StartsOnTime zone (endDate + 1))
    (hlo : startDate ≤ middle) (hhi : middle < endDate) (confirmedAt : List Int) :
    paymentsBetween zone startDate middle confirmedAt +
        paymentsBetween zone (middle + 1) endDate confirmedAt =
      paymentsBetween zone startDate endDate confirmedAt := by
  induction confirmedAt with
  | nil => rfl
  | cons t rest ih =>
    have hfirst := hstart.rangeExact hmiddle t
    have hsecond := hmiddle.rangeExact hend t
    have hunion := hstart.rangeExact hend t
    simp only [paymentsBetween, List.countP_cons, hfirst, hsecond, hunion] at ih ⊢
    split_ifs <;> omega

end

/-! ## The day the clocks go forward at midnight -/

/-- A clock that is set forward once. -/
def TimeZone.forward (change before after : Int) (hle : before ≤ after) (hbefore : 1000 ∣ before)
    (hafter : 1000 ∣ after) : TimeZone where
  offset t := if t < change then before else after
  whole_second t := by
    split
    · exact hbefore
    · exact hafter
  one_change {t u v} htu huv _ := by
    split_ifs <;> omega
  date_mono {t u} htu := by
    apply Int.ediv_le_ediv (by decide)
    split_ifs <;> omega

/-- Havana in the year 2024: at five in UTC on the 10th of March midnight becomes one o'clock. -/
def havana : TimeZone :=
  .forward 1710046800000 (-18000000) (-14400000) (by decide) (by decide) (by decide)

/-- The 10th of March. -/
def clocksForward : Int := 19792

/-- The range of that day has the last hour of the day before. -/
theorem havana_day_starts_early :
    ¬ ∀ (zone : TimeZone) (startDate endDate : Int), startDate ≤ endDate →
      RangeExact zone startDate endDate := by
  intro h
  have hday := (h havana clocksForward clocksForward le_rfl 1710045000000).mp (by decide)
  exact absurd hday.1 (by decide)

/-- **Exactly when the report's days are the local days.** -/
theorem local_days_exact_iff (zone : TimeZone) :
    (∀ startDate endDate, startDate ≤ endDate → (RangeExact zone startDate endDate ↔
      (StartsOnTime zone startDate ∧ StartsOnTime zone (endDate + 1)) ∨
        RangeSkipped zone startDate endDate)) ∧
    (zone.WithinDay → ∀ startDate endDate, startDate ≤ endDate →
      (RangeExact zone startDate endDate ↔
        ∀ c, ¬ StartMissed zone startDate c ∧ ¬ StartMissed zone (endDate + 1) c)) ∧
    ((∀ date, StartsOnTime zone date) → ∀ t, ∃! date,
      (buildDateRangeFilter zone (some date) (some date)).matches t = true) ∧
    (∀ startDate middle endDate, startDate ≤ middle → middle < endDate →
      StartsOnTime zone startDate → StartsOnTime zone (middle + 1) →
      StartsOnTime zone (endDate + 1) → ∀ confirmedAt,
        paymentsBetween zone startDate middle confirmedAt +
            paymentsBetween zone (middle + 1) endDate confirmedAt =
          paymentsBetween zone startDate endDate confirmedAt) := by
  refine ⟨fun startDate endDate _ => rangeExact_iff, fun hzone startDate endDate hle => ?_,
    existsUnique_day, fun startDate middle endDate hlo hhi hstart hmiddle hend =>
      paymentsBetween_add hstart hmiddle hend hlo hhi⟩
  rw [rangeExact_iff, or_iff_left (not_rangeSkipped hzone hle), startsOnTime_iff_not_missed hzone,
    startsOnTime_iff_not_missed hzone, forall_and]

def utc : TimeZone := .forward 0 0 0 le_rfl (by decide) (by decide)

theorem utc_offset (t : Int) : utc.offset t = 0 := ite_self _

theorem utc_startsOnTime (date : Int) : StartsOnTime utc date := by
  simp [StartsOnTime, settledOffset, utc_offset]

theorem utc_days_exact :
    (RangeExact utc 0 1 ↔ ∀ c, ¬ StartMissed utc 0 c ∧ ¬ StartMissed utc 2 c) ∧ RangeExact utc 0 1 ∧
      (∃! date, (buildDateRangeFilter utc (some date) (some date)).matches 5 = true) ∧
      paymentsBetween utc 0 0 [5] + paymentsBetween utc 1 1 [5] = paymentsBetween utc 0 1 [5] := by
  have hzone : utc.WithinDay := fun t => by
    rw [utc_offset]
    decide
  obtain ⟨hexact, hmissed, hone, hadd⟩ := local_days_exact_iff utc
  have hon := utc_startsOnTime
  exact ⟨hmissed hzone 0 1 (by decide), (hexact 0 1 (by decide)).mpr (.inl ⟨hon 0, hon 2⟩),
    hone hon 5, hadd 0 0 1 (by decide) (by decide) (hon 0) (hon 1) (hon 2) [5]⟩

end StellarEduPay

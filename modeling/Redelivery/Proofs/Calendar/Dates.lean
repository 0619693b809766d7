import Mathlib.Algebra.BigOperators.Intervals
import Redelivery.Calendar

/-!
# Dates and the days between them

The number of days before a date is known by counting: all days of the years
before it, all days of the months before it in its year, and the days before it
in its month.  Dates are found from numbers of days by another reckoning, in
years that begin in March and in eras of four hundred years.  The two agree, so
every second since the beginning of 1970 has one time of the calendar, and later
seconds have later times.
-/

namespace Redelivery.CalendarTime

open Finset

/-! ## Counting days -/

/-- Every fourth year is a leap year, but of the years that end a century only
every fourth. -/
def isLeap (year : Nat) : Bool :=
  year % 4 = 0 && (year % 100 ≠ 0 || year % 400 = 0)

def daysOfYear (year : Nat) : Nat :=
  if isLeap year then 366 else 365

def daysOfMonth (leap : Bool) : Nat → Nat
  | 2 => if leap then 29 else 28
  | 4 | 6 | 9 | 11 => 30
  | _ => 31

def daysBeforeYear (year : Nat) : Nat :=
  ∑ y ∈ Ico 1970 year, daysOfYear y

def daysBeforeMonth (leap : Bool) (month : Nat) : Nat :=
  ∑ m ∈ Ico 1 month, daysOfMonth leap m

def dayNumber (t : CalendarTime) : Nat :=
  daysBeforeYear t.year + daysBeforeMonth (isLeap t.year) t.month + (t.day - 1)

/-- The seconds from the beginning of 1970 to a time. -/
def sinceEpoch (t : CalendarTime) : Nat :=
  t.dayNumber * 86400 + t.hour * 3600 + t.minute * 60 + t.second

/-- A day of the calendar that is not before 1970. -/
structure IsDate (year month day : Nat) : Prop where
  year_ge : 1970 ≤ year
  month_ge : 1 ≤ month
  month_le : month ≤ 12
  day_ge : 1 ≤ day
  day_le : day ≤ daysOfMonth (isLeap year) month

/-- A second of the calendar that is not before 1970. -/
structure IsTime (t : CalendarTime) : Prop where
  date : IsDate t.year t.month t.day
  hour_lt : t.hour < 24
  minute_lt : t.minute < 60
  second_lt : t.second < 60

/-! ## Years that begin in March -/

/-- The days from the first of March of year 0 to that of another year. -/
def daysBeforeMarch (year : Nat) : Nat :=
  365 * year + year / 4 - year / 100 + year / 400

theorem daysBeforeMarch_succ (year : Nat) :
    daysBeforeMarch (year + 1) =
      daysBeforeMarch year + daysOfYear (year + 1) := by
  have hle : year / 100 ≤ year / 4 :=
    Nat.div_le_div_left (by decide) (by decide)
  simp only [daysBeforeMarch, daysOfYear, isLeap]
  by_cases hera : (year + 1) % 400 = 0
  · have hcentury : (year + 1) % 100 = 0 := by omega
    have hfour : (year + 1) % 4 = 0 := by omega
    simp [hera, hcentury, hfour, Nat.succ_div_of_mod_eq_zero]
    omega
  · by_cases hcentury : (year + 1) % 100 = 0
    · have hfour : (year + 1) % 4 = 0 := by omega
      simp [hera, hcentury, hfour, Nat.succ_div_of_mod_eq_zero,
        Nat.succ_div_of_mod_ne_zero]
      omega
    · by_cases hfour : (year + 1) % 4 = 0
      · simp [hera, hcentury, hfour, Nat.succ_div_of_mod_eq_zero,
          Nat.succ_div_of_mod_ne_zero]
        omega
      · simp [hera, hcentury, hfour, Nat.succ_div_of_mod_ne_zero]
        omega

theorem daysBeforeMarch_mono {year later : Nat} (hle : year ≤ later) :
    daysBeforeMarch year ≤ daysBeforeMarch later :=
  monotone_nat_of_le_succ
    (fun y => by rw [daysBeforeMarch_succ]; exact Nat.le_add_right _ _) hle

theorem daysBeforeMarch_era (era year : Nat) :
    daysBeforeMarch (400 * era + year) =
      daysOfEra * era + daysBeforeMarch year := by
  simp only [daysBeforeMarch, daysOfEra]
  omega

/-- Counted from the first of March of year 0, a year begins ten months after
its March year. -/
theorem daysBeforeYear_eq {year : Nat} (hyear : 1969 ≤ year) :
    daysBeforeYear (year + 1) + daysBefore1970 =
      daysBeforeMarch year + 306 := by
  induction year, hyear using Nat.le_induction with
  | base => decide
  | succ year hyear ih =>
    have hone := sum_Ico_succ_top (show 1970 ≤ year + 1 by omega) daysOfYear
    rw [daysBeforeMarch_succ]
    simp only [daysBeforeYear] at ih ⊢
    omega

/-! ## Dates of days -/

def yearOfEra (dayOfEra : Nat) : Nat :=
  (dayOfEra - dayOfEra / 1460 + dayOfEra / 36524 - dayOfEra / 146096) / 365

theorem yearOfEra_mono {day later : Nat} (hle : day ≤ later) :
    yearOfEra day ≤ yearOfEra later := by
  refine monotone_nat_of_le_succ (fun d => ?_) hle
  have hdays : d - d / 1460 + d / 36524 - d / 146096 ≤
      d + 1 - (d + 1) / 1460 + (d + 1) / 36524 - (d + 1) / 146096 := by
    omega
  exact Nat.div_le_div_right hdays

/-- On the first and on the last day of a year of the era, the year is found. -/
theorem yearOfEra_ends : ∀ year < 400, yearOfEra (daysBeforeMarch year) = year ∧
    yearOfEra (daysBeforeMarch (year + 1) - 1) = year := by
  decide +kernel

/-- The year that is found for a day of the era is the one that the day lies
in. -/
theorem lies_in_yearOfEra {day : Nat} (hday : day < daysOfEra) :
    yearOfEra day < 400 ∧
    daysBeforeMarch (yearOfEra day) ≤ day ∧
    day < daysBeforeMarch (yearOfEra day + 1) := by
  have hlast : yearOfEra day ≤ 399 := by
    have hends := (yearOfEra_ends 399 (by decide)).2
    calc yearOfEra day ≤ yearOfEra (daysBeforeMarch (399 + 1) - 1) :=
          yearOfEra_mono (Nat.le_pred_of_lt hday)
      _ = 399 := hends
  refine ⟨by omega, ?_, ?_⟩
  · by_contra hbefore
    obtain ⟨year, hyear⟩ : ∃ year, yearOfEra day = year + 1 := by
      refine Nat.exists_eq_succ_of_ne_zero fun hzero => hbefore ?_
      rw [hzero]
      exact Nat.zero_le _
    have hends := (yearOfEra_ends year (by omega)).2
    have hle := yearOfEra_mono (show day ≤ daysBeforeMarch (year + 1) - 1 by
      rw [hyear] at hbefore
      omega)
    omega
  · by_contra hafter
    have hle := yearOfEra_mono (Nat.le_of_not_lt hafter)
    by_cases hnext : yearOfEra day + 1 < 400
    · rw [(yearOfEra_ends _ hnext).1] at hle
      omega
    · have hera : yearOfEra day + 1 = 400 := by omega
      rw [hera] at hafter
      exact hafter hday

/-- The month that a day of a March year lies in, counted from March on. -/
def monthFromMarch (dayOfYear : Nat) : Nat :=
  (5 * dayOfYear + 2) / 153

def dayOfMonth (dayOfYear : Nat) : Nat :=
  dayOfYear - (153 * monthFromMarch dayOfYear + 2) / 5 + 1

/-- From March to December. -/
theorem month_of_march : ∀ leap : Bool, ∀ day < 306, monthFromMarch day < 10 ∧
    dayOfMonth day ≤ daysOfMonth leap (monthFromMarch day + 3) ∧
    daysBeforeMonth leap (monthFromMarch day + 3) + (dayOfMonth day - 1) =
      (if leap then 60 else 59) + day := by
  decide +kernel

/-- January and February belong to the March year before. -/
theorem month_of_january :
    ∀ leap : Bool, ∀ day < if leap then 366 else 365, 306 ≤ day →
    10 ≤ monthFromMarch day ∧ monthFromMarch day < 12 ∧
    dayOfMonth day ≤ daysOfMonth leap (monthFromMarch day - 9) ∧
    daysBeforeMonth leap (monthFromMarch day - 9) + (dayOfMonth day - 1) + 306 =
      day := by
  decide +kernel

/-- The date of a day of a March year. -/
def dateOfMarch (year dayOfYear : Nat) : Nat × Nat × Nat :=
  let month :=
    if monthFromMarch dayOfYear < 10 then monthFromMarch dayOfYear + 3
    else monthFromMarch dayOfYear - 9
  (if month ≤ 2 then year + 1 else year, month, dayOfMonth dayOfYear)

/-- A date is found by the March year that a day lies in and the day's number in
that. -/
theorem dateOfDay_eq (day : Nat) :
    ∃ year dayOfYear, dateOfDay day = dateOfMarch year dayOfYear ∧
    day + daysBefore1970 = daysBeforeMarch year + dayOfYear ∧
    dayOfYear < daysOfYear (year + 1) := by
  obtain ⟨era, hera⟩ : ∃ era, era = (day + daysBefore1970) / daysOfEra :=
    ⟨_, rfl⟩
  obtain ⟨dayOfEra, hdayOfEra⟩ :
      ∃ d, d = (day + daysBefore1970) % daysOfEra := ⟨_, rfl⟩
  have hsplit : day + daysBefore1970 = daysOfEra * era + dayOfEra := by
    rw [hera, hdayOfEra, Nat.div_add_mod]
  have hlt : dayOfEra < daysOfEra := hdayOfEra ▸ Nat.mod_lt _ (by decide)
  obtain ⟨hyear, hfrom, hto⟩ := lies_in_yearOfEra hlt
  have hwithin : 365 * yearOfEra dayOfEra + yearOfEra dayOfEra / 4 -
      yearOfEra dayOfEra / 100 =
      daysBeforeMarch (yearOfEra dayOfEra) := by
    rw [daysBeforeMarch, Nat.div_eq_of_lt hyear, Nat.add_zero]
  refine ⟨400 * era + yearOfEra dayOfEra,
    dayOfEra - daysBeforeMarch (yearOfEra dayOfEra), ?_, ?_, ?_⟩
  · rw [← hwithin, hera, hdayOfEra]
    rfl
  · rw [daysBeforeMarch_era]
    omega
  · have hnext := daysBeforeMarch_succ (400 * era + yearOfEra dayOfEra)
    have hend := daysBeforeMarch_era era (yearOfEra dayOfEra + 1)
    rw [← Nat.add_assoc] at hend
    rw [hend, daysBeforeMarch_era] at hnext
    omega

/-- A day of a March year that is not before 1970 has the date that is found for
it. -/
theorem dateOfMarch_spec {day year dayOfYear : Nat}
    (hday : day + daysBefore1970 = daysBeforeMarch year + dayOfYear)
    (hlt : dayOfYear < daysOfYear (year + 1)) :
    let (y, m, d) := dateOfMarch year dayOfYear
    IsDate y m d ∧
      daysBeforeYear y + daysBeforeMonth (isLeap y) m + (d - 1) = day := by
  have hstart : daysBeforeMarch 1969 + 306 = daysBefore1970 := by decide
  have hyear : 1969 ≤ year := by
    by_contra hbefore
    have hle := daysBeforeMarch_mono (show year + 1 ≤ 1969 by omega)
    rw [daysBeforeMarch_succ] at hle
    omega
  have hdaysBefore := daysBeforeYear_eq hyear
  by_cases hmarch : dayOfYear < 306
  · obtain ⟨hmonth, hle, hcount⟩ :=
      month_of_march (isLeap year) dayOfYear hmarch
    have hlater : 1970 ≤ year := by
      by_contra hbefore
      have hsame : year = 1969 := by omega
      rw [hsame] at hday
      omega
    have hone : daysBeforeYear (year + 1) =
        daysBeforeYear year + daysOfYear year :=
      sum_Ico_succ_top hlater daysOfYear
    have hdays : daysOfYear year = (if isLeap year then 60 else 59) + 306 := by
      rw [daysOfYear]
      split <;> rfl
    simp only [dateOfMarch, if_pos hmonth,
      if_neg (show ¬monthFromMarch dayOfYear + 3 ≤ 2 by omega)]
    exact ⟨⟨hlater, by omega, by omega, by simp [dayOfMonth], hle⟩, by omega⟩
  · obtain ⟨hmonth, hlast, hle, hcount⟩ :=
      month_of_january (isLeap (year + 1)) dayOfYear hlt (by omega)
    simp only [dateOfMarch,
      if_neg (show ¬monthFromMarch dayOfYear < 10 by omega),
      if_pos (show monthFromMarch dayOfYear - 9 ≤ 2 by omega)]
    exact ⟨⟨by omega, by omega, by omega, by simp [dayOfMonth], hle⟩, by omega⟩

/-! ## Times of seconds -/

variable {t t' : CalendarTime}

/-- The time that is found for a second is one of the calendar, just so many
seconds after the beginning of 1970. -/
theorem isTime_ofSeconds (seconds : Nat) :
    (ofSeconds seconds).IsTime ∧ (ofSeconds seconds).sinceEpoch = seconds := by
  obtain ⟨year, dayOfYear, hdate, hday, hlt⟩ := dateOfDay_eq (seconds / 86400)
  have hspec := dateOfMarch_spec hday hlt
  rw [← hdate] at hspec
  obtain ⟨hisDate, hnumber⟩ := hspec
  have hnumber : (ofSeconds seconds).dayNumber = seconds / 86400 := hnumber
  have hhour : (ofSeconds seconds).hour = seconds % 86400 / 3600 := rfl
  have hminute : (ofSeconds seconds).minute = seconds % 86400 % 3600 / 60 := rfl
  have hsecond : (ofSeconds seconds).second = seconds % 86400 % 60 := rfl
  refine ⟨⟨hisDate, by omega, by omega, by omega⟩, ?_⟩
  rw [sinceEpoch, hnumber, hhour, hminute, hsecond]
  omega

/-! ## The order of times -/

def fields (t : CalendarTime) : List Nat :=
  [t.year, t.month, t.day, t.hour, t.minute, t.second]

theorem sum_Ico_add_le {f : Nat → Nat} {first last later : Nat}
    (hfirst : first ≤ last) (hlater : last < later) :
    ∑ k ∈ Ico first last, f k + f last ≤ ∑ k ∈ Ico first later, f k := by
  rw [← sum_Ico_succ_top hfirst,
    ← sum_Ico_consecutive f (Nat.le_succ_of_le hfirst) hlater]
  exact Nat.le_add_right _ _

theorem daysBeforeMonth_le {year month day : Nat}
    (hdate : IsDate year month day) :
    daysBeforeMonth (isLeap year) month + daysOfMonth (isLeap year) month ≤
      daysOfYear year := by
  have hall : ∀ leap, daysBeforeMonth leap 13 = if leap then 366 else 365 := by
    decide
  have hmonth := sum_Ico_add_le (f := daysOfMonth (isLeap year)) hdate.month_ge
    (Nat.lt_succ_of_le hdate.month_le)
  exact hmonth.trans_eq (hall _)

theorem dayNumber_lt_of_year (ht : t.IsTime) (hlt : t.year < t'.year) :
    t.dayNumber < t'.dayNumber := by
  have hmonth := daysBeforeMonth_le ht.date
  have hyear := sum_Ico_add_le (f := daysOfYear) ht.date.year_ge hlt
  have hday := ht.date.day_le
  have hday' := ht.date.day_ge
  simp only [dayNumber, daysBeforeYear]
  omega

theorem dayNumber_lt_of_month (ht : t.IsTime) (hyear : t.year = t'.year)
    (hlt : t.month < t'.month) : t.dayNumber < t'.dayNumber := by
  have hmonth :=
    sum_Ico_add_le (f := daysOfMonth (isLeap t.year)) ht.date.month_ge hlt
  have hday := ht.date.day_le
  have hday' := ht.date.day_ge
  simp only [dayNumber, daysBeforeMonth, ← hyear]
  omega

theorem sinceEpoch_lt_of_dayNumber (ht : t.IsTime)
    (hlt : t.dayNumber < t'.dayNumber) :
    t.sinceEpoch < t'.sinceEpoch := by
  have hhour := ht.hour_lt
  have hminute := ht.minute_lt
  have hsecond := ht.second_lt
  simp only [sinceEpoch]
  omega

theorem sinceEpoch_lt_of_fields (ht : t.IsTime) (hlt : t.fields < t'.fields) :
    t.sinceEpoch < t'.sinceEpoch := by
  simp only [fields, List.cons_lt_cons_iff, List.not_lt_nil, and_false,
    or_false] at hlt
  rcases hlt with hyear | ⟨hyear, hmonth | ⟨hmonth, hday | ⟨hday, hrest⟩⟩⟩
  · exact sinceEpoch_lt_of_dayNumber ht (dayNumber_lt_of_year ht hyear)
  · exact sinceEpoch_lt_of_dayNumber ht (dayNumber_lt_of_month ht hyear hmonth)
  · refine sinceEpoch_lt_of_dayNumber ht ?_
    have hfirst := ht.date.day_ge
    simp only [dayNumber, hyear, hmonth]
    omega
  · have hsame : t.dayNumber = t'.dayNumber := by
      rw [dayNumber, hyear, hmonth, hday, dayNumber]
    have hminute := ht.minute_lt
    have hsecond := ht.second_lt
    simp only [sinceEpoch, hsame]
    omega

theorem eq_of_fields (hfields : t.fields = t'.fields) : t = t' := by
  cases t
  cases t'
  simpa [fields] using hfields

/-- Later times are those of later seconds. -/
theorem fields_lt_iff (ht : t.IsTime) (ht' : t'.IsTime) :
    t.fields < t'.fields ↔ t.sinceEpoch < t'.sinceEpoch := by
  refine ⟨sinceEpoch_lt_of_fields ht, fun hlt => ?_⟩
  rcases lt_trichotomy t.fields t'.fields with hbefore | hsame | hafter
  · exact hbefore
  · rw [eq_of_fields hsame] at hlt
    exact absurd hlt (lt_irrefl _)
  · exact absurd hlt (sinceEpoch_lt_of_fields ht' hafter).asymm

end Redelivery.CalendarTime

import ExpenseLedger.Timestamp.Calendar
import Mathlib.Tactic.IntervalCases
/-!
# Days and dates

The date of a day is a date of the calendar, and the days from the beginning of 1970 to it are those
that it was made from. The calendar repeats after 400 years, an era. Within an era the year is
estimated from the days, century by century, and the remaining days begin with March, so that only a
year with a leap day has a last day of its own. Main statements:

* `Date.toDays_ofDays`: the days of the date of a day;
* `Date.isValid_ofDays`: the date exists.
-/

namespace ExpenseLedger.Date

/-! ## Years of an era -/

/-- The year of an era that is estimated from a day of the era. -/
def yearOfEra (day : Int) : Int := (day - day / 1460 + day / 36524 - day / 146096) / 365

/-- The first day of a year of an era. -/
def firstDay (year : Int) : Int := 365 * year + year / 4 - year / 100

section

variable {day : Int} (hlow : 0 ≤ day) (hhigh : day ≤ 146096)
include hlow hhigh

/-- The century of the year is that of the day, but for the last day of the era. -/
theorem century_cases :
    ((∃ k, (k = 0 ∨ k = 1 ∨ k = 2 ∨ k = 3) ∧ day / 36524 = k ∧ yearOfEra day / 100 = k)) ∨
      (day = 146096 ∧ yearOfEra day = 399) := by
  unfold yearOfEra
  have hcentury : day / 36524 = 0 ∨ day / 36524 = 1 ∨ day / 36524 = 2 ∨ day / 36524 = 3 ∨
      day / 36524 = 4 := by omega
  rcases hcentury with h | h | h | h | h
  · exact .inl ⟨0, by omega, h, by omega⟩
  · exact .inl ⟨1, by omega, h, by omega⟩
  · exact .inl ⟨2, by omega, h, by omega⟩
  · exact .inl ⟨3, by omega, h, by omega⟩
  · exact .inr ⟨by omega, by omega⟩

/-- The estimate is right: the day comes no earlier than the year and no later than it. -/
theorem firstDay_yearOfEra :
    0 ≤ yearOfEra day ∧ yearOfEra day ≤ 399 ∧ firstDay (yearOfEra day) ≤ day ∧
      day ≤ firstDay (yearOfEra day) + 365 := by
  have hcases := century_cases hlow hhigh
  generalize hyear : yearOfEra day = year at hcases ⊢
  unfold yearOfEra at hyear
  unfold firstDay
  rcases hcases with ⟨k, hk, hday, hyear⟩ | ⟨hday, hyear⟩
  · rcases hk with rfl | rfl | rfl | rfl
    all_goals omega
  · omega

/-- Only a year before one with a leap day has 366 days, as years begin with March. -/
theorem isLeap_of_lastDay (h : day = firstDay (yearOfEra day) + 365) :
    isLeap (yearOfEra day + 1) = true := by
  have hcases := century_cases hlow hhigh
  generalize hyear : yearOfEra day = year at hcases h ⊢
  unfold yearOfEra at hyear
  unfold firstDay at h
  simp only [isLeap, Bool.and_eq_true, Bool.or_eq_true, decide_eq_true_eq]
  rcases hcases with ⟨k, hk, hday, hcentury⟩ | ⟨hday, hlast⟩
  · have hfour : (year + 1) % 4 = 0 := by
      apply Decidable.byContradiction
      intro hne
      have hnext : (year + 1) / 4 = year / 4 := by omega
      -- No leap day has been passed over since the last one, so the estimate is the next year.
      have hquarter : day / 1460 = year / 4 := by
        rcases hk with rfl | rfl | rfl | rfl
        all_goals omega
      omega
    refine ⟨hfour, .inl ?_⟩
    rcases hk with rfl | rfl | rfl | rfl
    all_goals omega
  · omega

end

/-! ## Months of a year -/

/-- The date of a day of a year that begins with March. -/
def ofMarch (year dayOfYear : Int) : Date :=
  let monthFromMarch := (5 * dayOfYear + 2) / 153
  let day := dayOfYear - (153 * monthFromMarch + 2) / 5 + 1
  let month := if monthFromMarch < 10 then monthFromMarch + 3 else monthFromMarch - 9
  ⟨if month ≤ 2 then year + 1 else year, month.toNat, day.toNat⟩

/-- The date of a day, by way of the year and the day in it. -/
theorem ofDays_eq_ofMarch (days : Int) :
    ofDays days = ofMarch (yearOfEra ((days + 719468) % 146097) + (days + 719468) / 146097 * 400)
      ((days + 719468) % 146097 - firstDay (yearOfEra ((days + 719468) % 146097))) := rfl

section

variable (year : Int) {dayOfYear : Int} (hlow : 0 ≤ dayOfYear) (hhigh : dayOfYear ≤ 365)
include hlow hhigh

/-- The month and the day of the month, with the months counted from March. -/
theorem ofMarch_cases : ∃ k day : Nat, k ≤ 11 ∧ 1 ≤ day ∧
    dayOfYear = (153 * k + 2) / 5 + day - 1 ∧ dayOfYear < (153 * (k + 1) + 2) / 5 ∧
    ((k < 10 ∧ ofMarch year dayOfYear = ⟨year, k + 3, day⟩) ∨
      (10 ≤ k ∧ ofMarch year dayOfYear = ⟨year + 1, k - 9, day⟩)) := by
  obtain ⟨k, hk⟩ : ∃ k : Nat, (5 * dayOfYear + 2) / 153 = k :=
    ⟨((5 * dayOfYear + 2) / 153).toNat, by omega⟩
  obtain ⟨day, hday⟩ : ∃ day : Nat, dayOfYear - (153 * k + 2) / 5 + 1 = day :=
    ⟨(dayOfYear - (153 * k + 2) / 5 + 1).toNat, by omega⟩
  refine ⟨k, day, by omega, by omega, by omega, by omega, ?_⟩
  unfold ofMarch
  dsimp only
  rw [hk, hday]
  rcases Nat.lt_or_ge k 10 with hlt | hge
  · have hmonth : ((k : Int) + 3).toNat = k + 3 := by omega
    rw [if_pos (by omega : (k : Int) < 10), if_neg (by omega), hmonth]
    exact .inl ⟨hlt, rfl⟩
  · have hmonth : ((k : Int) - 9).toNat = k - 9 := by omega
    rw [if_neg (by omega : ¬ (k : Int) < 10), if_pos (by omega), hmonth]
    exact .inr ⟨hge, rfl⟩

/-- The days to a day of a year that begins with March. -/
theorem toDays_ofMarch : (ofMarch year dayOfYear).toDays =
    year / 400 * 146097 + (firstDay (year % 400) + dayOfYear) - 719468 := by
  obtain ⟨k, day, hk, -, hdayOfYear, -, ⟨hlt, hdate⟩ | ⟨hge, hdate⟩⟩ :=
    ofMarch_cases year hlow hhigh
  · have hmonth : (k + 3 + 9) % 12 = k := by omega
    rw [hdate]
    unfold toDays firstDay
    dsimp only
    rw [if_neg (by omega), hmonth]
    omega
  · have hmonth : (k - 9 + 9) % 12 = k := by omega
    rw [hdate]
    unfold toDays firstDay
    dsimp only
    rw [if_pos (by omega), hmonth, Int.add_sub_cancel]
    omega

/-- The day exists, if only a year before one with a leap day has a last day of its own. -/
theorem day_le_daysInMonth (hlast : dayOfYear = 365 → isLeap (year + 1) = true) :
    1 ≤ (ofMarch year dayOfYear).month ∧ (ofMarch year dayOfYear).month ≤ 12 ∧
      1 ≤ (ofMarch year dayOfYear).day ∧
      (ofMarch year dayOfYear).day ≤
        daysInMonth (ofMarch year dayOfYear).year (ofMarch year dayOfYear).month := by
  obtain ⟨k, day, hk, hday, hdayOfYear, hend, ⟨hlt, hdate⟩ | ⟨hge, hdate⟩⟩ :=
    ofMarch_cases year hlow hhigh
  · rw [hdate]
    dsimp only
    refine ⟨by omega, by omega, hday, ?_⟩
    -- All these months have lengths of their own, whatever the year.
    interval_cases k
    all_goals
      simp [daysInMonth]
      omega
  · rw [hdate]
    dsimp only
    refine ⟨by omega, by omega, hday, ?_⟩
    obtain rfl | rfl : k = 10 ∨ k = 11 := by omega
    · simp [daysInMonth]
      omega
    · -- February is the last month, and its last day is that of the year.
      simp only [daysInMonth, if_true]
      split
      · omega
      · rename_i hleap
        have hne : dayOfYear ≠ 365 := fun h => hleap (hlast h)
        omega

end

/-! ## Dates of days -/

/-- Years that lie whole eras apart have leap days together. -/
theorem isLeap_add (year era : Int) : isLeap (year + era * 400) = isLeap year := by
  have hfour : (year + era * 400) % 4 = year % 4 := by omega
  have hhundred : (year + era * 400) % 100 = year % 100 := by omega
  have hera : (year + era * 400) % 400 = year % 400 := by omega
  unfold isLeap
  rw [hfour, hhundred, hera]

section

variable (days : Int)

/-- The year and the day of it, with years that begin with March. -/
theorem ofDays_cases : ∃ era year dayOfYear : Int, 0 ≤ year ∧ year ≤ 399 ∧ 0 ≤ dayOfYear ∧
    dayOfYear ≤ 365 ∧ (dayOfYear = 365 → isLeap (year + 1) = true) ∧
    days + 719468 = era * 146097 + (firstDay year + dayOfYear) ∧
    ofDays days = ofMarch (year + era * 400) dayOfYear := by
  have hlow : 0 ≤ (days + 719468) % 146097 := by omega
  have hhigh : (days + 719468) % 146097 ≤ 146096 := by omega
  obtain ⟨hyear, hlast, hfirst, hday⟩ := firstDay_yearOfEra hlow hhigh
  refine ⟨(days + 719468) / 146097, yearOfEra ((days + 719468) % 146097),
    (days + 719468) % 146097 - firstDay (yearOfEra ((days + 719468) % 146097)), hyear, hlast,
    by omega, by omega, fun h => isLeap_of_lastDay hlow hhigh (by omega), by omega, ?_⟩
  exact ofDays_eq_ofMarch days

/-- **The days of the date of a day are those that the date was made from.** -/
theorem toDays_ofDays : (ofDays days).toDays = days := by
  obtain ⟨era, year, dayOfYear, hyear, hlast, hlow, hhigh, -, hdays, hdate⟩ := ofDays_cases days
  have hera : (year + era * 400) / 400 = era := by omega
  have hrest : (year + era * 400) % 400 = year := by omega
  rw [hdate, toDays_ofMarch _ hlow hhigh, hera, hrest]
  omega

/-- The year of a day within the bounds is within them, wherever January begins in it. -/
theorem year_bounds {days era year dayOfYear : Int} (hyear : 0 ≤ year) (hlast : year ≤ 399)
    (hlow : 0 ≤ dayOfYear) (hhigh : dayOfYear ≤ 365)
    (hdays : days + 719468 = era * 146097 + (firstDay year + dayOfYear))
    (hfrom : toDays ⟨firstYear, 1, 1⟩ ≤ days) (hto : days ≤ toDays ⟨lastYear, 12, 31⟩) :
    (dayOfYear ≤ 305 → firstYear ≤ year + era * 400 ∧ year + era * 400 ≤ lastYear) ∧
      (306 ≤ dayOfYear → firstYear ≤ year + era * 400 + 1 ∧ year + era * 400 + 1 ≤ lastYear) := by
  have hfirst : toDays ⟨firstYear, 1, 1⟩ = -96465292 := by decide
  have hend : toDays ⟨lastYear, 12, 31⟩ = 95026236 := by decide
  unfold firstDay at hdays
  unfold firstYear lastYear
  have hera : era ≤ 654 ∨ era = 655 := by omega
  constructor
  · omega
  · rcases hera with hera | rfl
    · omega
    · omega

/-- **The date of a day exists, if its year can be told.** -/
theorem isValid_ofDays (hfrom : toDays ⟨firstYear, 1, 1⟩ ≤ days)
    (hto : days ≤ toDays ⟨lastYear, 12, 31⟩) : (ofDays days).isValid = true := by
  obtain ⟨era, year, dayOfYear, hyear, hlast, hlow, hhigh, hleap, hdays, hdate⟩ :=
    ofDays_cases days
  obtain ⟨hspring, hwinter⟩ := year_bounds hyear hlast hlow hhigh hdays hfrom hto
  obtain ⟨hmonth, hmonths, hday, hlength⟩ :=
    day_le_daysInMonth (year + era * 400) hlow hhigh fun h => by
      have hnext : year + era * 400 + 1 = year + 1 + era * 400 := by omega
      rw [hnext, isLeap_add]
      exact hleap h
  have hyears : firstYear ≤ (ofMarch (year + era * 400) dayOfYear).year ∧
      (ofMarch (year + era * 400) dayOfYear).year ≤ lastYear := by
    obtain ⟨k, day, hk, hfirst, hdayOfYear, hnext, ⟨hlt, hcase⟩ | ⟨hge, hcase⟩⟩ :=
      ofMarch_cases (year + era * 400) hlow hhigh
    · rw [hcase]
      exact hspring (by omega)
    · rw [hcase]
      exact hwinter (by omega)
  rw [hdate]
  simp only [isValid, Bool.and_eq_true, decide_eq_true_eq]
  exact ⟨⟨⟨⟨hyears, hmonth⟩, hmonths⟩, hday⟩, hlength⟩

end

end ExpenseLedger.Date

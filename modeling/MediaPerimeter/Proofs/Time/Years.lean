import MediaPerimeter.Time.Calendar

/-!
# Years

The instants that have a date are those whose year is one of the years of dates. A year is read off
in two steps: a day is one of the days of four hundred years that begin in March, and these have
their leap days at the end, so that its year comes from the number of days by division.
-/
namespace MediaPerimeter

namespace Date

def InRange (d : Date) : Prop := -262143 ≤ d.year ∧ d.year ≤ 262142

/-- Every day is one of the days of four hundred years. -/
theorem exists_era (days : Int) : ∃ (era : Int) (n : Nat), n < 146097 ∧
    days + 719468 = era * 146097 + n :=
  ⟨(days + 719468) / 146097, ((days + 719468) % 146097).toNat, by omega, by omega⟩

section Era

variable {days era : Int} {n yearInEra dayInYear : Nat}

/-- A day of four hundred years is in one of them, and at most the 366th day after its first. -/
theorem dayInYear_le (hn : n < 146097)
    (hyear : yearInEra = (n - n / 1460 + n / 36524 - n / 146096) / 365) :
    yearInEra ≤ 399 ∧ n - (365 * yearInEra + yearInEra / 4 - yearInEra / 100) ≤ 366 := by
  by_cases hlast : n = 146096
  · subst hlast
    subst hyear
    decide
  have hnone : n / 146096 = 0 := by omega
  rw [hnone, Nat.sub_zero] at hyear
  have hcentury : yearInEra / 100 ≤ n / 36524 := by omega
  have hleap : n / 1460 ≤ yearInEra / 4 + 1 := by omega
  constructor
  · omega
  · omega

/-- January and February count for the next year. -/
theorem year_eq (hn : n < 146097) (hdays : days + 719468 = era * 146097 + n)
    (hyear : yearInEra = (n - n / 1460 + n / 36524 - n / 146096) / 365)
    (hday : dayInYear = n - (365 * yearInEra + yearInEra / 4 - yearInEra / 100)) :
    (ofDays days).year = yearInEra + era * 400 + if 306 ≤ dayInYear then 1 else 0 := by
  have hera : (days + 719468).fdiv 146097 = era := by
    rw [Int.fdiv_eq_ediv_of_nonneg _ (by decide)]
    omega
  have hrest : (days + 719468 - era * 146097).toNat = n := by omega
  obtain ⟨-, hle⟩ := dayInYear_le hn hyear
  rw [← hday] at hle
  have hmonth : (if (5 * dayInYear + 2) / 153 < 10 then (5 * dayInYear + 2) / 153 + 3
      else (5 * dayInYear + 2) / 153 - 9) ≤ 2 ↔ 306 ≤ dayInYear := by
    split <;> omega
  simp only [ofDays, hera, hrest, ← hyear, ← hday, hmonth]

end Era

/-- The first and the last of the years, in days since the beginning of 1970. -/
theorem inRange_ofDays_iff {days : Int} :
    (ofDays days).InRange ↔ -96465292 ≤ days ∧ days < 95026237 := by
  obtain ⟨era, n, hn, hdays⟩ := exists_era days
  obtain ⟨hle, -⟩ := dayInYear_le hn rfl
  rw [InRange, year_eq hn hdays rfl rfl]
  generalize hyear : (n - n / 1460 + n / 36524 - n / 146096) / 365 = yearInEra at hle ⊢
  generalize hday : n - (365 * yearInEra + yearInEra / 4 - yearInEra / 100) = dayInYear
  -- Both bounds lie within their four hundred years: there the years begin with these days.
  have hfirst : 257 ≤ yearInEra + (if 306 ≤ dayInYear then 1 else 0) ↔ 93808 ≤ n := by
    by_cases hbefore : yearInEra = 256
    · subst hbefore
      split <;> omega
    · split <;> omega
  have hlast : 143 ≤ yearInEra + (if 306 ≤ dayInYear then 1 else 0) ↔ 52170 ≤ n := by
    by_cases hbefore : yearInEra = 142
    · subst hbefore
      split <;> omega
    · split <;> omega
  clear hyear hday
  refine and_congr ?_ ?_
  · split at hfirst <;> omega
  · split at hlast <;> omega

end Date

namespace Instant

/-- The seconds that have a date are those of whole years. -/
theorem hasDate_iff {i : Instant} : i.HasDate ↔ i.date.InRange := by
  rw [date, Date.inRange_ofDays_iff, HasDate, firstSecond, lastSecond,
    Int.fdiv_eq_ediv_of_nonneg _ (by decide)]
  omega

end Instant
end MediaPerimeter

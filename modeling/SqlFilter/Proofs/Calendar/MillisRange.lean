/-
**The range of the calendar.**

The represented years are an interval, and so are the days in them and the milliseconds in those
days: a number of milliseconds has a moment exactly when it is neither below the one at the start of
the first year nor above the last one of the last year.

Main definitions:

* `SqlFilter.Calendar.Moment.leastMillis`, `SqlFilter.Calendar.Moment.greatestMillis`: the ends of
  the range.

Main results:

* `SqlFilter.Calendar.Date.isSome_ofDayNumber?_iff`: the days that have dates;
* `SqlFilter.Calendar.Moment.isSome_ofMillis?_iff`: **the numbers of milliseconds that have
  moments**.
-/

import SqlFilter.Calendar.Moment

set_option relaxedAutoImplicit false
set_option autoImplicit false

namespace SqlFilter.Calendar

/-- **The days that have dates** are those of the represented years. -/
theorem Date.isSome_ofDayNumber?_iff {n : Int} :
    (ofDayNumber? n).isSome = true ↔
      daysBeforeYear leastYear ≤ n + epochDays ∧
        n + epochDays < daysBeforeYear (greatestYear + 1) := by
  constructor
  · intro h
    obtain ⟨date, hdate⟩ := Option.isSome_iff_exists.1 h
    obtain ⟨hlow, hhigh⟩ := date.year_mem
    have hspec := yearOf_spec (date.dayNumber + epochDays)
    rw [date.yearOf_dayNumber, dayNumber_of_ofDayNumber? hdate] at hspec
    have hbefore := daysBeforeYear_mono hlow
    have hbehind := daysBeforeYear_mono (show date.year + 1 ≤ greatestYear + 1 by omega)
    omega
  · rintro ⟨hlow, hhigh⟩
    obtain ⟨hleast, hgreatest⟩ := yearOf_mem hlow hhigh
    exact isSome_ofDayNumber? hleast hgreatest

namespace Moment

/-- The milliseconds from the start of 1970 to the start of the first year that is represented. -/
def leastMillis : Int := (daysBeforeYear leastYear - epochDays) * millisPerDay

/-- The milliseconds from the start of 1970 to the last millisecond of the last year that is
represented. -/
def greatestMillis : Int := (daysBeforeYear (greatestYear + 1) - epochDays) * millisPerDay - 1

/-- **The numbers of milliseconds that have moments** are those of the represented years. -/
theorem isSome_ofMillis?_iff {millis : Int} :
    (ofMillis? millis).isSome = true ↔ leastMillis ≤ millis ∧ millis ≤ greatestMillis := by
  have hdays : (ofMillis? millis).isSome = (Date.ofDayNumber? (millis / millisPerDay)).isSome := by
    have hrest : (millis % millisPerDay).toNat < 86400000 := by
      rw [millisPerDay]
      omega
    have htime : ∃ time, Time.ofParts? ((millis % millisPerDay).toNat / 3600000)
        ((millis % millisPerDay).toNat / 60000 % 60) ((millis % millisPerDay).toNat / 1000 % 60)
        ((millis % millisPerDay).toNat % 1000 * 1000000) = some time := by
      rw [Time.ofParts?, dif_pos (by rw [nanosPerSecond]; omega)]
      exact ⟨_, rfl⟩
    obtain ⟨time, htime⟩ := htime
    unfold ofMillis?
    dsimp only
    rw [htime]
    cases Date.ofDayNumber? (millis / millisPerDay) <;> rfl
  rw [hdays, Date.isSome_ofDayNumber?_iff, leastMillis, greatestMillis, millisPerDay]
  omega

example : (ofMillis? (-8334601228800000)).isSome = true ∧
    (ofMillis? (-8334601228800001)).isSome = false := by decide +kernel

end Moment

end SqlFilter.Calendar

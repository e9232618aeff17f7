/-
**Dates.**

Dates of the proleptic Gregorian calendar, from the year -262143 to the year 262142.  Each date has
a day number, counted from the first of January 1970, and each day number in range has its date.

Main definitions:

* `SqlFilter.Calendar.Date`: a year, a month and a day that exist;
* `SqlFilter.Calendar.Date.ofParts?`: the date of three numbers, if there is one;
* `SqlFilter.Calendar.Date.dayNumber`: the days since the first of January 1970;
* `SqlFilter.Calendar.Date.ofDayNumber?`: the date of a day number.

Main results:

* `SqlFilter.Calendar.yearOf_spec`: the year of a day is the one whose days hold it;
* `SqlFilter.Calendar.Date.yearOf_dayNumber`: the year of a date holds its day;
* `SqlFilter.Calendar.Date.ofDayNumber?_dayNumber`: a date comes back from its day number;
* `SqlFilter.Calendar.Date.dayNumber_of_ofDayNumber?`: the date of a day number has that number.
-/

set_option relaxedAutoImplicit false
set_option autoImplicit false

namespace SqlFilter.Calendar

/-! ### Years and months -/

/-- Every fourth year is a leap year, but of the full centuries only every fourth one. -/
def isLeap (year : Int) : Bool := year % 4 == 0 && (year % 100 != 0 || year % 400 == 0)

/-- The lengths of the months of a year. -/
def monthLengths (leap : Bool) : List Nat :=
  [31, if leap then 29 else 28, 31, 30, 31, 30, 31, 31, 30, 31, 30, 31]

/-- The lengths of some months together. -/
def total : List Nat → Nat
  | [] => 0
  | n :: ns => n + total ns

@[simp] theorem total_nil : total [] = 0 := rfl

@[simp] theorem total_cons (n : Nat) (ns : List Nat) : total (n :: ns) = n + total ns := rfl

/-- The number of days of a month; a month that does not exist has none. -/
def daysInMonth (year : Int) (month : Nat) : Nat :=
  if month = 0 then 0 else (monthLengths (isLeap year)).getD (month - 1) 0

/-- The days from the first of January of the year zero to that of another year. -/
def daysBeforeYear (year : Int) : Int :=
  365 * year + (year + 3) / 4 - (year + 99) / 100 + (year + 399) / 400

/-- The days of a year in front of a month. -/
def daysBeforeMonth (leap : Bool) (month : Nat) : Nat :=
  total ((monthLengths leap).take (month - 1))

/-- The days from the first of January of the year zero to that of 1970. -/
def epochDays : Int := 719528

theorem daysBeforeYear_succ (year : Int) :
    daysBeforeYear (year + 1) = daysBeforeYear year + if isLeap year then 366 else 365 := by
  simp only [daysBeforeYear, isLeap, Bool.and_eq_true, Bool.or_eq_true, beq_iff_eq, bne_iff_ne]
  split <;> omega

/-! ### Dates -/

/-- The first year that is represented. -/
def leastYear : Int := -262143

/-- The last year that is represented. -/
def greatestYear : Int := 262142

/-- A date of the calendar. -/
structure Date where
  year : Int
  month : Nat
  day : Nat
  year_mem : leastYear ≤ year ∧ year ≤ greatestYear
  day_mem : 1 ≤ day ∧ day ≤ daysInMonth year month
  deriving Repr, DecidableEq

namespace Date

/-- The date of a year, a month and a day, if there is one. -/
def ofParts? (year : Int) (month day : Nat) : Option Date :=
  if h : (leastYear ≤ year ∧ year ≤ greatestYear) ∧ 1 ≤ day ∧ day ≤ daysInMonth year month then
    some ⟨year, month, day, h.1, h.2⟩
  else none

@[simp] theorem ofParts?_self (d : Date) : ofParts? d.year d.month d.day = some d := by
  simp [ofParts?, d.year_mem, d.day_mem]

/-- The days from the first of January 1970 to the date. -/
def dayNumber (d : Date) : Int :=
  daysBeforeYear d.year + daysBeforeMonth (isLeap d.year) d.month + d.day - 1 - epochDays

end Date

/-! ### From day numbers to dates -/

/-- The year that holds a day, counted from the first of January of the year zero.  Four hundred
years have 146097 days; the estimate from that is off by one year at most. -/
def yearOf (day : Int) : Int :=
  let estimate := day * 400 / 146097
  if day < daysBeforeYear estimate then estimate - 1
  else if daysBeforeYear (estimate + 1) ≤ day then estimate + 1
  else estimate

/-- The year of a day is the one whose days hold it. -/
theorem yearOf_spec (day : Int) :
    daysBeforeYear (yearOf day) ≤ day ∧ day < daysBeforeYear (yearOf day + 1) := by
  simp only [yearOf]
  have hlow : 146097 * (day * 400 / 146097) ≤ day * 400 := by omega
  have hhigh : day * 400 < 146097 * (day * 400 / 146097) + 146097 := by omega
  generalize day * 400 / 146097 = y at *
  split
  · rw [show y - 1 + 1 = y by omega]
    simp only [daysBeforeYear] at *
    omega
  · split
    · simp only [daysBeforeYear] at *
      omega
    · omega

/-- Finds the month, from a given one on, that holds the day of the year with `rest` days in front
of it, and the day in that month. -/
def monthAndDay (month : Nat) : List Nat → Nat → Nat × Nat
  | [], rest => (month, rest + 1)
  | n :: ns, rest => if rest < n then (month, rest + 1) else monthAndDay (month + 1) ns (rest - n)

/-- The month of a day is the one whose days hold it. -/
theorem monthAndDay_spec (lengths : List Nat) (first k day : Nat) (hday : 1 ≤ day)
    (hle : day ≤ lengths.getD k 0) :
    monthAndDay first lengths (total (lengths.take k) + day - 1) = (first + k, day) := by
  induction lengths generalizing first k with
  | nil => simp at hle; omega
  | cons n ns ih =>
      cases k with
      | zero =>
          simp only [List.getD_cons_zero] at hle
          have e : total ((n :: ns).take 0) + day - 1 = day - 1 := by simp
          rw [e, monthAndDay, if_pos (by omega)]
          simp
          omega
      | succ k =>
          simp only [List.getD_cons_succ] at hle
          have e : total ((n :: ns).take (k + 1)) + day - 1 =
              n + (total (ns.take k) + day - 1) := by
            simp
            omega
          rw [e, monthAndDay, if_neg (by omega), Nat.add_sub_cancel_left, ih (first + 1) k hle]
          simp
          omega

namespace Date

/-- The date of a day number, if its year is represented. -/
def ofDayNumber? (n : Int) : Option Date :=
  let day := n + epochDays
  let year := yearOf day
  let (month, dayOfMonth) :=
    monthAndDay 1 (monthLengths (isLeap year)) (day - daysBeforeYear year).toNat
  ofParts? year month dayOfMonth

end Date

/-- The month and the day that are found hold the day of the year. -/
theorem monthAndDay_sound (lengths : List Nat) (first rest : Nat) (h : rest < total lengths) :
    ∃ k day, monthAndDay first lengths rest = (first + k, day) ∧ 1 ≤ day ∧
      day ≤ lengths.getD k 0 ∧ total (lengths.take k) + day = rest + 1 := by
  induction lengths generalizing first rest with
  | nil => simp at h
  | cons n ns ih =>
      rw [monthAndDay]
      by_cases hr : rest < n
      · refine ⟨0, rest + 1, ?_⟩
        rw [if_pos hr]
        simp
        omega
      · rw [total_cons] at h
        obtain ⟨k, day, he, h1, h2, h3⟩ := ih (first + 1) (rest - n) (by omega)
        refine ⟨k + 1, day, ?_, h1, by simpa using h2, ?_⟩
        · rw [if_neg hr, he]
          simp
          omega
        · simp only [List.take_succ_cons, total_cons]
          omega

/-- A year has as many days as its months together. -/
theorem total_monthLengths (leap : Bool) :
    total (monthLengths leap) = if leap then 366 else 365 := by
  cases leap <;> rfl

theorem daysBeforeMonth_add_le (leap : Bool) (month : Nat) :
    daysBeforeMonth leap month + (monthLengths leap).getD (month - 1) 0 ≤
      if leap then 366 else 365 := by
  have h : ∀ k, (total ((monthLengths leap).take k) + (monthLengths leap).getD k 0) ≤
      total (monthLengths leap) := by
    intro k
    generalize monthLengths leap = l
    induction l generalizing k with
    | nil => simp
    | cons n ns ih =>
        cases k with
        | zero => simp
        | succ k =>
            have := ih k
            simp only [List.take_succ_cons, total_cons, List.getD_cons_succ]
            omega
  rw [← total_monthLengths leap]
  exact h (month - 1)

theorem daysBeforeYear_mono {a b : Int} (h : a ≤ b) : daysBeforeYear a ≤ daysBeforeYear b := by
  simp only [daysBeforeYear]
  omega

/-- A day between two years lies in one of them or between them. -/
theorem yearOf_mem {day low high : Int} (hlow : daysBeforeYear low ≤ day)
    (hhigh : day < daysBeforeYear (high + 1)) : low ≤ yearOf day ∧ yearOf day ≤ high := by
  have hs := yearOf_spec day
  constructor
  · by_cases hlt : yearOf day < low
    · have := daysBeforeYear_mono (show yearOf day + 1 ≤ low by omega)
      omega
    · omega
  · by_cases hgt : high < yearOf day
    · have := daysBeforeYear_mono (show high + 1 ≤ yearOf day by omega)
      omega
    · omega

/-- The year of a day is determined by the days it holds. -/
theorem yearOf_eq {day year : Int} (h₁ : daysBeforeYear year ≤ day)
    (h₂ : day < daysBeforeYear (year + 1)) : yearOf day = year := by
  have hmem := yearOf_mem h₁ h₂
  omega

theorem Date.month_ne_zero (d : Date) : d.month ≠ 0 := by
  intro h
  have hday := d.day_mem
  simp only [daysInMonth, h, if_true] at hday
  omega

/-- The year of a date holds its day. -/
theorem Date.yearOf_dayNumber (d : Date) : yearOf (d.dayNumber + epochDays) = d.year := by
  have hday := d.day_mem
  simp only [daysInMonth, d.month_ne_zero, if_false] at hday
  have hsum := daysBeforeMonth_add_le (isLeap d.year) d.month
  have hsucc := daysBeforeYear_succ d.year
  apply yearOf_eq
  · simp only [dayNumber]
    omega
  · rw [hsucc]
    simp only [dayNumber]
    split at hsum <;> simp_all <;> omega

/-- A day next to a date lies at most one year away. -/
theorem Date.yearOf_near (d : Date) {n : Int} (hlow : d.dayNumber - 1 ≤ n)
    (hhigh : n ≤ d.dayNumber + 1) :
    d.year - 1 ≤ yearOf (n + epochDays) ∧ yearOf (n + epochDays) ≤ d.year + 1 := by
  have hs := yearOf_spec (d.dayNumber + epochDays)
  have hbefore := daysBeforeYear_succ (d.year - 1)
  have hafter := daysBeforeYear_succ (d.year + 1)
  rw [d.yearOf_dayNumber] at hs
  rw [Int.sub_add_cancel] at hbefore
  apply yearOf_mem
  · split at hbefore <;> omega
  · split at hafter <;> omega

/-- A date comes back from its day number. -/
theorem Date.ofDayNumber?_dayNumber (d : Date) : ofDayNumber? d.dayNumber = some d := by
  have hday := d.day_mem
  have hmonth := d.month_ne_zero
  simp only [daysInMonth, hmonth, if_false] at hday
  have hyear := d.yearOf_dayNumber
  have hrest : (d.dayNumber + epochDays - daysBeforeYear d.year).toNat =
      total ((monthLengths (isLeap d.year)).take (d.month - 1)) + d.day - 1 := by
    simp only [dayNumber, daysBeforeMonth]
    omega
  have hsplit := monthAndDay_spec (monthLengths (isLeap d.year)) 1 (d.month - 1) d.day hday.1 hday.2
  simp only [ofDayNumber?, hyear, hrest, hsplit]
  rw [show 1 + (d.month - 1) = d.month by omega]
  exact ofParts?_self d

/-- The date of a day number has that day number. -/
theorem Date.dayNumber_of_ofDayNumber? {n : Int} {d : Date} (h : ofDayNumber? n = some d) :
    d.dayNumber = n := by
  have hs := yearOf_spec (n + epochDays)
  have hsucc := daysBeforeYear_succ (yearOf (n + epochDays))
  have hlt : (n + epochDays - daysBeforeYear (yearOf (n + epochDays))).toNat <
      total (monthLengths (isLeap (yearOf (n + epochDays)))) := by
    rw [total_monthLengths]
    split <;> simp_all <;> omega
  obtain ⟨k, day, he, h1, h2, h3⟩ := monthAndDay_sound _ 1 _ hlt
  simp only [ofDayNumber?, he, ofParts?] at h
  split at h
  · cases h
    simp only [dayNumber, daysBeforeMonth, Nat.add_sub_cancel_left]
    omega
  · cases h

/-- Every day number whose year is represented has a date. -/
theorem Date.isSome_ofDayNumber? {n : Int} (h₁ : leastYear ≤ yearOf (n + epochDays))
    (h₂ : yearOf (n + epochDays) ≤ greatestYear) : (ofDayNumber? n).isSome = true := by
  have hs := yearOf_spec (n + epochDays)
  have hsucc := daysBeforeYear_succ (yearOf (n + epochDays))
  have hlt : (n + epochDays - daysBeforeYear (yearOf (n + epochDays))).toNat <
      total (monthLengths (isLeap (yearOf (n + epochDays)))) := by
    rw [total_monthLengths]
    split <;> simp_all <;> omega
  obtain ⟨k, day, he, h1, h2, h3⟩ := monthAndDay_sound _ 1 _ hlt
  have hd : daysInMonth (yearOf (n + epochDays)) (1 + k) =
      (monthLengths (isLeap (yearOf (n + epochDays)))).getD k 0 := by
    rw [daysInMonth, if_neg (by omega), Nat.add_sub_cancel_left]
  simp only [ofDayNumber?, he, ofParts?, hd]
  rw [dif_pos ⟨⟨h₁, h₂⟩, h1, h2⟩]
  rfl

end SqlFilter.Calendar

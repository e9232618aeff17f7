/-
**Times of day and moments.**

A time of day has hours, minutes, seconds and nanoseconds.  A leap second is the second in front of
it with a nanosecond count from 1000000000 up.  It may follow any second, because a zone may be off
universal time by some seconds; in a written time, and in the time of four numbers, it only follows
second 59.  A moment is a date with a time of day; whether it is read as a local time or as
universal time is up to its user.

Main definitions:

* `SqlFilter.Calendar.Time`: a time of day;
* `SqlFilter.Calendar.Time.LeapsAtEnd`: a leap second is the last one of its minute;
* `SqlFilter.Calendar.Moment`: a date with a time of day;
* `SqlFilter.Calendar.Moment.plusMinutes?`: the moment some minutes later;
* `SqlFilter.Calendar.Moment.ofMillis?`: the moment some milliseconds after the epoch;
* `SqlFilter.Calendar.Moment.nanosFromEpoch`: the nanoseconds from the epoch to a moment.

Main results:

* `SqlFilter.Calendar.Moment.plusMinutes?_zero`: no minutes later is the same moment;
* `SqlFilter.Calendar.Moment.nanosFromEpoch_of_plusMinutes?`: a moment some minutes later lies that
  many minutes later.
-/

import SqlFilter.Calendar.Date

set_option relaxedAutoImplicit false
set_option autoImplicit false

namespace SqlFilter.Calendar

/-! ### Times of day -/

/-- Nanoseconds in a second. -/
def nanosPerSecond : Nat := 1000000000

/-- A time of day; any second may run over. -/
structure Time where
  hour : Nat
  minute : Nat
  second : Nat
  nanosecond : Nat
  hour_lt : hour < 24
  minute_lt : minute < 60
  second_lt : second < 60
  nanosecond_lt : nanosecond < 2 * nanosPerSecond
  deriving Repr, DecidableEq

namespace Time

/-- A leap second is the last one of its minute, as it is in universal time. -/
def LeapsAtEnd (t : Time) : Prop := nanosPerSecond ≤ t.nanosecond → t.second = 59

instance (t : Time) : Decidable t.LeapsAtEnd :=
  inferInstanceAs (Decidable (nanosPerSecond ≤ t.nanosecond → t.second = 59))

theorem leapsAtEnd_of_lt {t : Time} (h : t.nanosecond < nanosPerSecond) : t.LeapsAtEnd :=
  fun hleap => absurd h (Nat.not_lt.2 hleap)

/-- The time of four numbers, if there is one; only the last second of a minute may run over. -/
def ofParts? (hour minute second nanosecond : Nat) : Option Time :=
  if h : hour < 24 ∧ minute < 60 ∧ second < 60 ∧ nanosecond < 2 * nanosPerSecond ∧
      (nanosPerSecond ≤ nanosecond → second = 59) then
    some ⟨hour, minute, second, nanosecond, h.1, h.2.1, h.2.2.1, h.2.2.2.1⟩
  else none

/-- The time of four numbers as they are written, where second 60 is a leap second. -/
def ofWritten? (hour minute second nanosecond : Nat) : Option Time :=
  if second = 60 then ofParts? hour minute 59 (nanosPerSecond + nanosecond)
  else if nanosecond < nanosPerSecond then ofParts? hour minute second nanosecond
  else none

theorem ofParts?_self {t : Time} (h : t.LeapsAtEnd) :
    ofParts? t.hour t.minute t.second t.nanosecond = some t := by
  rw [ofParts?, dif_pos ⟨t.hour_lt, t.minute_lt, t.second_lt, t.nanosecond_lt, h⟩]

/-- Midnight. -/
def midnight : Time := ⟨0, 0, 0, 0, by decide, by decide, by decide, by decide⟩

/-- The whole minutes since midnight. -/
def minuteOfDay (t : Time) : Nat := 60 * t.hour + t.minute

/-- The same second of another minute of the day. -/
def withMinuteOfDay (t : Time) (n : Nat) (h : n < 1440) : Time :=
  ⟨n / 60, n % 60, t.second, t.nanosecond, by omega, by omega, t.second_lt, t.nanosecond_lt⟩

theorem withMinuteOfDay_self (t : Time) (h : t.minuteOfDay < 1440) :
    t.withMinuteOfDay t.minuteOfDay h = t := by
  have hm := t.minute_lt
  cases t
  simp only [withMinuteOfDay, minuteOfDay, mk.injEq, and_true] at *
  omega

theorem minuteOfDay_lt (t : Time) : t.minuteOfDay < 1440 := by
  have := t.hour_lt
  have := t.minute_lt
  simp only [minuteOfDay]
  omega

end Time

/-! ### Moments -/

/-- A date with a time of day. -/
structure Moment where
  date : Date
  time : Time
  deriving Repr, DecidableEq

namespace Moment

/-- The moment some minutes later, or earlier when the number is negative, if its year is
represented.  The second within the minute stays, a leap second too. -/
def plusMinutes? (m : Moment) (minutes : Int) : Option Moment :=
  let total := 1440 * m.date.dayNumber + m.time.minuteOfDay + minutes
  (Date.ofDayNumber? (total / 1440)).map fun date =>
    ⟨date, m.time.withMinuteOfDay (total % 1440).toNat (by omega)⟩

/-- Milliseconds in a day. -/
def millisPerDay : Int := 86400000

/-- The moment some milliseconds after the start of 1970, if its year is represented. -/
def ofMillis? (millis : Int) : Option Moment :=
  let rest := (millis % millisPerDay).toNat
  match Date.ofDayNumber? (millis / millisPerDay),
    Time.ofParts? (rest / 3600000) (rest / 60000 % 60) (rest / 1000 % 60)
      (rest % 1000 * 1000000) with
  | some date, some time => some ⟨date, time⟩
  | _, _ => none

/-- The nanoseconds from the start of 1970 to a moment, a leap second counted as part of the
second in front of it. -/
def nanosFromEpoch (m : Moment) : Int :=
  (86400 * m.date.dayNumber + 60 * m.time.minuteOfDay + m.time.second) * 1000000000 +
    m.time.nanosecond

/-- No minutes later is the same moment. -/
@[simp] theorem plusMinutes?_zero (m : Moment) : m.plusMinutes? 0 = some m := by
  have hlt := m.time.minuteOfDay_lt
  have hday : (1440 * m.date.dayNumber + (m.time.minuteOfDay : Int) + 0) / 1440 =
      m.date.dayNumber := by omega
  have hmin : ((1440 * m.date.dayNumber + (m.time.minuteOfDay : Int) + 0) % 1440).toNat =
      m.time.minuteOfDay := by omega
  simp only [plusMinutes?, hday, hmin, Date.ofDayNumber?_dayNumber, Option.map_some,
    Time.withMinuteOfDay_self]

/-- A moment some minutes later lies that many minutes later. -/
theorem nanosFromEpoch_of_plusMinutes? {m k : Moment} {minutes : Int}
    (h : m.plusMinutes? minutes = some k) :
    k.nanosFromEpoch = m.nanosFromEpoch + 60000000000 * minutes := by
  simp only [plusMinutes?, Option.map_eq_some_iff] at h
  obtain ⟨d, hd, rfl⟩ := h
  have hn := Date.dayNumber_of_ofDayNumber? hd
  simp only [nanosFromEpoch, Time.withMinuteOfDay, Time.minuteOfDay] at *
  omega

end Moment

end SqlFilter.Calendar

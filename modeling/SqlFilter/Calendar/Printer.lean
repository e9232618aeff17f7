/-
**Writing dates, times and moments.**

Years from 0 to 9999 have four digits; other years have a sign and at least four digits.  A time
has a fraction of three, six or nine digits, as few as keep its nanoseconds, and none when there
are none; a leap second is written as the second behind it, at the end of a minute as second 60.

Main definitions:

* `SqlFilter.Calendar.Date.render`, `SqlFilter.Calendar.Time.render`: a date, a time of day;
* `SqlFilter.Calendar.Moment.render`: a date and a time with a space between;
* `SqlFilter.Calendar.Moment.renderUniversal`: a moment of universal time with its offset.
-/

import SqlFilter.Calendar.Moment
import SqlFilter.Number.Numeric

set_option relaxedAutoImplicit false
set_option autoImplicit false

namespace SqlFilter.Calendar

open SqlFilter.Number.Numeric (paddedDigits)

/-- The digits of a number, at least `n` of them. -/
def padded (n value : Nat) : String := String.ofList (paddedDigits n value)

/-- Writes a year. -/
def renderYear (year : Int) : String :=
  if 0 ≤ year ∧ year ≤ 9999 then padded 4 year.toNat
  else (if year < 0 then "-" else "+") ++ padded 4 year.natAbs

/-- Writes a date. -/
def Date.render (d : Date) : String :=
  renderYear d.year ++ "-" ++ padded 2 d.month ++ "-" ++ padded 2 d.day

/-- Writes the fraction of a second. -/
def renderFraction (nanosecond : Nat) : String :=
  if nanosecond = 0 then ""
  else if nanosecond % 1000000 = 0 then "." ++ padded 3 (nanosecond / 1000000)
  else if nanosecond % 1000 = 0 then "." ++ padded 6 (nanosecond / 1000)
  else "." ++ padded 9 nanosecond

/-- Writes a time of day. -/
def Time.render (t : Time) : String :=
  padded 2 t.hour ++ ":" ++ padded 2 t.minute ++ ":" ++
    padded 2 (t.second + t.nanosecond / nanosPerSecond) ++
    renderFraction (t.nanosecond % nanosPerSecond)

namespace Moment

/-- Writes a moment with a space between date and time. -/
def render (m : Moment) : String := m.date.render ++ " " ++ m.time.render

/-- Writes a moment of universal time. -/
def renderUniversal (m : Moment) : String := m.date.render ++ "T" ++ m.time.render ++ "+00:00"

end Moment

end SqlFilter.Calendar

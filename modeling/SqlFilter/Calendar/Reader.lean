/-
**Reading dates, times and moments.**

Two families of spellings are read.  The *fixed* one is the Internet profile of ISO 8601: every
number has its fixed number of digits and a moment ends in `Z` or an offset.  The *lenient* one is
what the server prints: numbers may be short and may have blanks in front of them, and the offset
may be short or missing.

Each reader takes its item off the front of a text and returns the rest; whoever reads a whole text
asks for an empty rest.

Main definitions:

* `SqlFilter.Calendar.Date.ofChars?`, `SqlFilter.Calendar.Time.ofChars?`,
  `SqlFilter.Calendar.Moment.ofChars?`: the lenient spellings of whole texts;
* `SqlFilter.Calendar.Moment.ofFixed?`: the fixed spelling;
* `SqlFilter.Calendar.Moment.ofInstantChars?`: the universal time behind any of the spellings.
-/

import SqlFilter.Calendar.Moment
import SqlFilter.Number.Literal
import SqlFilter.Number.Power
import SqlFilter.Text.Blank

set_option relaxedAutoImplicit false
set_option autoImplicit false

namespace SqlFilter.Calendar

open SqlFilter.Number (digitsValue tenPow)
open SqlFilter.Text (isBlank trim trimStart)

/-! ### Characters and digits -/

/-- Takes one given character. -/
def takeChar? (expected : Char) : List Char → Option (List Char)
  | [] => none
  | c :: cs => if c = expected then some cs else none

/-- Takes exactly `n` digits. -/
def takeExactly? (n : Nat) (cs : List Char) : Option (Nat × List Char) :=
  let digits := cs.take n
  if digits.length = n ∧ digits.all Char.isDigit then some (digitsValue digits, cs.drop n) else none

/-- Takes the digits in front, at least one of them and at most `most`. -/
def takeUpTo? (most : Nat) (cs : List Char) : Option (Nat × List Char) :=
  let digits := (cs.take most).takeWhile Char.isDigit
  if digits = [] then none else some (digitsValue digits, cs.drop digits.length)

/-- Takes all digits in front, at least one of them. -/
def takeDigits? (cs : List Char) : Option (Nat × List Char) := takeUpTo? cs.length cs

/-- The nanoseconds that the digits of a fraction of a second denote; digits past the ninth do not
count. -/
def nanosecondsOf (digits : List Char) : Nat :=
  digitsValue (digits.take 9) * tenPow (9 - (digits.take 9).length)

/-- Takes the fraction of a second: nothing, or a point and at least one digit. -/
def takeFraction? : List Char → Option (Nat × List Char)
  | '.' :: cs =>
      let digits := cs.takeWhile Char.isDigit
      if digits = [] then none else some (nanosecondsOf digits, cs.dropWhile Char.isDigit)
  | cs => some (0, cs)

/-! ### Offsets -/

/-- Takes the sign of an offset, for which the minus sign proper may stand too: whether it is a
minus. -/
def takeOffsetSign? : List Char → Option (Bool × List Char)
  | c :: cs =>
      if c = '+' then some (false, cs)
      else if c = '-' ∨ c.toNat = 0x2212 then some (true, cs)
      else none
  | [] => none

/-- The minutes of an offset. -/
def offsetMinutes (negative : Bool) (hours minutes : Nat) : Int :=
  let total : Int := 60 * hours + minutes
  if negative then -total else total

/-- Takes an offset in the fixed spelling: `Z`, or a sign with two digits for hours, a colon and two
digits for minutes. -/
def takeFixedOffset? : List Char → Option (Int × List Char)
  | 'Z' :: cs => some (0, cs)
  | 'z' :: cs => some (0, cs)
  | cs => do
      let (negative, cs) ← takeOffsetSign? cs
      let (hours, cs) ← takeExactly? 2 cs
      let cs ← takeChar? ':' cs
      let (minutes, cs) ← takeExactly? 2 cs
      if hours < 24 ∧ minutes < 60 then some (offsetMinutes negative hours minutes, cs) else none

/-- The characters that may stand between the hours and the minutes of a lenient offset. -/
def isOffsetGap (c : Char) : Bool := c == ':' || isBlank c

/-- Reads an offset in the lenient spelling, which ends the text: `Z`, or a sign with two digits for
hours and, after any colons and blanks, perhaps two digits for minutes. -/
def lenientOffset? (cs : List Char) : Option Int :=
  match trimStart cs with
  | ['Z'] => some 0
  | ['z'] => some 0
  | cs => do
      let (negative, cs) ← takeOffsetSign? cs
      let (hours, cs) ← takeExactly? 2 cs
      if 24 ≤ hours then none
      else
        match cs.dropWhile isOffsetGap with
        | [] => some (offsetMinutes negative hours 0)
        | cs => do
            let (minutes, cs) ← takeExactly? 2 cs
            if minutes < 60 ∧ cs = [] then some (offsetMinutes negative hours minutes) else none

/-! ### The fixed spelling -/

/-- Whether a character may stand between date and time in the fixed spelling. -/
def isFixedSeparator (c : Char) : Bool := c == 'T' || c == 't' || c == ' '

/-- Takes a date of four, two and two digits. -/
def takeFixedDate? (cs : List Char) : Option (Date × List Char) := do
  let (year, cs) ← takeExactly? 4 cs
  let cs ← takeChar? '-' cs
  let (month, cs) ← takeExactly? 2 cs
  let cs ← takeChar? '-' cs
  let (day, cs) ← takeExactly? 2 cs
  let date ← Date.ofParts? year month day
  some (date, cs)

/-- Takes a time of three times two digits and perhaps a fraction. -/
def takeFixedTime? (cs : List Char) : Option (Time × List Char) := do
  let (hour, cs) ← takeExactly? 2 cs
  let cs ← takeChar? ':' cs
  let (minute, cs) ← takeExactly? 2 cs
  let cs ← takeChar? ':' cs
  let (second, cs) ← takeExactly? 2 cs
  let (nanosecond, cs) ← takeFraction? cs
  let time ← Time.ofWritten? hour minute second nanosecond
  some (time, cs)

/-- The universal time that a text in the fixed spelling denotes. -/
def Moment.ofFixed? (cs : List Char) : Option Moment := do
  let (date, cs) ← takeFixedDate? cs
  match cs with
  | [] => none
  | c :: cs =>
      if isFixedSeparator c then do
        let (time, cs) ← takeFixedTime? cs
        let (offset, cs) ← takeFixedOffset? cs
        if cs = [] then Moment.plusMinutes? ⟨date, time⟩ (-offset) else none
      else none

/-! ### The lenient spelling -/

/-- Takes a number of one or two digits, past blanks. -/
def takeShort? (cs : List Char) : Option (Nat × List Char) := takeUpTo? 2 (trimStart cs)

/-- Takes a year, past blanks: at most four digits, or a sign and any number of digits. -/
def takeYear? (cs : List Char) : Option (Int × List Char) :=
  match trimStart cs with
  | '-' :: cs => (takeDigits? cs).map fun (n, cs) => (-(n : Int), cs)
  | '+' :: cs => (takeDigits? cs).map fun (n, cs) => ((n : Int), cs)
  | cs => (takeUpTo? 4 cs).map fun (n, cs) => ((n : Int), cs)

/-- Takes a date. -/
def takeDate? (cs : List Char) : Option (Date × List Char) := do
  let (year, cs) ← takeYear? cs
  let cs ← takeChar? '-' cs
  let (month, cs) ← takeShort? cs
  let cs ← takeChar? '-' cs
  let (day, cs) ← takeShort? cs
  let date ← Date.ofParts? year month day
  some (date, cs)

/-- Takes a time of day. -/
def takeTime? (cs : List Char) : Option (Time × List Char) := do
  let (hour, cs) ← takeShort? cs
  let cs ← takeChar? ':' cs
  let (minute, cs) ← takeShort? cs
  let cs ← takeChar? ':' cs
  let (second, cs) ← takeShort? cs
  let (nanosecond, cs) ← takeFraction? cs
  let time ← Time.ofWritten? hour minute second nanosecond
  some (time, cs)

/-- What stands between the date and the time of a lenient moment. -/
inductive Separator where
  | blanks
  | letter
  deriving Repr, DecidableEq

/-- Takes a separator: any blanks, also none, or the letter T. -/
def Separator.take? : Separator → List Char → Option (List Char)
  | .blanks, cs => some (trimStart cs)
  | .letter, cs => takeChar? 'T' cs

/-- Takes a date, a separator and a time. -/
def takeMoment? (separator : Separator) (cs : List Char) : Option (Moment × List Char) := do
  let (date, cs) ← takeDate? cs
  let cs ← separator.take? cs
  let (time, cs) ← takeTime? cs
  some (⟨date, time⟩, cs)

/-- The date that a whole text spells. -/
def Date.ofChars? (cs : List Char) : Option Date :=
  match takeDate? cs with
  | some (date, []) => some date
  | _ => none

/-- The time of day that a whole text spells. -/
def Time.ofChars? (cs : List Char) : Option Time :=
  match takeTime? cs with
  | some (time, []) => some time
  | _ => none

/-- The moment that a whole text spells. -/
def Moment.ofChars? (separator : Separator) (cs : List Char) : Option Moment :=
  match takeMoment? separator cs with
  | some (moment, []) => some moment
  | _ => none

/-- The universal time behind a moment that is followed by an offset. -/
def Moment.ofOffsetChars? (separator : Separator) (cs : List Char) : Option Moment := do
  let (moment, cs) ← takeMoment? separator cs
  let offset ← lenientOffset? cs
  moment.plusMinutes? (-offset)

/-! ### All spellings -/

/-- The universal time behind a text, blanks around it aside: the fixed spelling, a moment with an
offset, a moment that is in universal time already, or a date for its midnight. -/
def Moment.ofInstantChars? (text : List Char) : Option Moment :=
  let cs := trim text
  ofFixed? cs
    |>.or (ofOffsetChars? .blanks cs)
    |>.or (ofOffsetChars? .letter cs)
    |>.or (Moment.ofChars? .blanks cs)
    |>.or (Moment.ofChars? .letter cs)
    |>.or ((Date.ofChars? cs).map fun date => ⟨date, Time.midnight⟩)

end SqlFilter.Calendar

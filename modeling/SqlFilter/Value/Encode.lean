/-
**Preparing values for columns.**

A value is prepared for the kind of its column before it is bound: a JSON column takes documents, a
time column takes points in time, and the other kinds take any value.  Null stays null.

Main definitions:

* `SqlFilter.Value.toInstant`: a value as a point in time, lists element by element;
* `SqlFilter.Value.encode`: a value prepared for a kind of column.
-/

import SqlFilter.Calendar.Reader
import SqlFilter.Number.Power
import SqlFilter.Value.Document

set_option relaxedAutoImplicit false
set_option autoImplicit false

namespace SqlFilter

open SqlFilter.Calendar (Moment)
open SqlFilter.Number (Binary64 twoPow)

namespace Value

/-! ### Points in time -/

/-- The point in time some milliseconds after the epoch. -/
def ofMillis (millis : Int) : Except Error Value :=
  match Moment.ofMillis? millis with
  | some moment => .ok (.instant moment)
  | none => .error (.invalidValue (toString millis ++ " ms is out of the date range"))

/-- The point in time that a text spells. -/
def instantOfText (text : String) : Except Error Value :=
  match Moment.ofInstantChars? text.toList with
  | some moment => .ok (.instant moment)
  | none => .error (.invalidValue ("'" ++ text ++ "' is not a valid date"))

/-- A value has no meaning as a point in time. -/
def notAnInstant (v : Value) : Error :=
  .invalidValue (v.typeName ++ " value cannot be used as a date")

/-- The nearest whole number of 64 bits. -/
def clampInt64 (n : Int) : Int := max (-twoPow 63) (min (twoPow 63 - 1) n)

/-- The point in time that the number `x` of milliseconds denotes; `v` is the value it came from. -/
def instantOfFloat (v : Value) (x : Binary64) : Except Error Value :=
  match x.truncate? with
  | some n => ofMillis (clampInt64 n)
  | none => .error (notAnInstant v)

mutual

/-- A value as a point in time: one already, a text that spells one, or a number of milliseconds.
A list is taken element by element. -/
def toInstant : Value → Except Error Value
  | .null => .ok .null
  | .date d => .ok (.date d)
  | .timestamp m => .ok (.timestamp m)
  | .instant m => .ok (.instant m)
  | .text s => instantOfText s
  | .smallInt n => ofMillis n.toInt
  | .int n => ofMillis n.toInt
  | .bigInt n => ofMillis n.toInt
  | .float x => instantOfFloat (.float x) x.widen
  | .double x => instantOfFloat (.double x) x
  | .array values =>
      match toInstants values with
      | .error e => .error e
      | .ok instants => .ok (.array instants)
  | v => .error (notAnInstant v)

/-- Values as points in time; the first failure counts. -/
def toInstants : List Value → Except Error (List Value)
  | [] => .ok []
  | v :: vs =>
      match toInstant v with
      | .error e => .error e
      | .ok first =>
          match toInstants vs with
          | .error e => .error e
          | .ok others => .ok (first :: others)

end

theorem toInstant_text (text : String) : toInstant (.text text) = instantOfText text := rfl

theorem toInstant_bigInt (millis : Int64) :
    toInstant (.bigInt millis) = ofMillis millis.toInt := rfl

/-! ### Kinds of columns -/

/-- A value as a document, unless it is one. -/
def asDocument : Value → Value
  | .json j => .json j
  | v => .json v.toJson

/-- A value prepared for a kind of column. -/
def encode (kind : ColumnKind) (v : Value) : Except Error Value :=
  if v.isNull then .ok v
  else
    match kind with
    | .json => .ok v.asDocument
    | .time => v.toInstant
    | .scalar | .array | .searchVector => .ok v

end Value

end SqlFilter

/-
**Values as JSON documents.**

Every value has a document: points in time and exact numbers become texts, bytes become small
hexadecimal digits, and a floating-point number that is not finite becomes null.  Every document has
a value: an object stays a document, and everything else becomes the value of its shape.

Main definitions:

* `SqlFilter.Value.toJson`: the document of a value;
* `SqlFilter.Value.ofJson`: the value of a document.
-/

import SqlFilter.Calendar.Printer
import SqlFilter.Number.Power
import SqlFilter.Value.Basic

set_option relaxedAutoImplicit false
set_option autoImplicit false

namespace SqlFilter

open SqlFilter.Number (Binary64 twoPow)
open SqlFilter.Text (hexDigit)

namespace Value

/-- The two hexadecimal digits of a byte. -/
def hexByte (b : UInt8) : List Char := [hexDigit (b.toNat / 16), hexDigit (b.toNat % 16)]

mutual

/-- The document of a value. -/
def toJson : Value → Json
  | .null => .null
  | .bool b => .bool b
  | .smallInt n => .ofInt64 n.toInt64
  | .int n => .ofInt64 n.toInt64
  | .bigInt n => .ofInt64 n
  | .float x => .ofBinary64 x.widen
  | .double x => .ofBinary64 x
  | .text s => .string s
  | .bytes bs => .string (String.ofList (bs.flatMap hexByte))
  | .uuid u => .string u.render
  | .date d => .string d.render
  | .time t => .string t.render
  | .timestamp m => .string m.render
  | .instant m => .string m.renderUniversal
  | .json j => j
  | .array values => .array (toJsonList values)
  | .numeric n => .string n.render

/-- The documents of values. -/
def toJsonList : List Value → List Json
  | [] => []
  | v :: vs => v.toJson :: toJsonList vs

end

theorem toJsonList_eq_map (vs : List Value) : toJsonList vs = vs.map toJson := by
  induction vs with
  | nil => rfl
  | cons v vs ih => rw [toJsonList, ih, List.map_cons]

/-- The value of a number; a whole number beyond the signed ones becomes the nearest
double-precision number. -/
def ofNumber : Json.Number → Value
  | .integer n _ => if n < twoPow 63 then .bigInt (Int64.ofInt n) else .double (Binary64.ofInt n)
  | .double x _ => .double x

mutual

/-- The value of a document. -/
def ofJson : Json → Value
  | .null => .null
  | .bool b => .bool b
  | .number n => ofNumber n
  | .string s => .text s
  | .array items => .array (ofJsonList items)
  | .object members => .json (.object members)

/-- The values of documents. -/
def ofJsonList : List Json → List Value
  | [] => []
  | j :: js => ofJson j :: ofJsonList js

end

theorem ofJsonList_eq_map (js : List Json) : ofJsonList js = js.map ofJson := by
  induction js with
  | nil => rfl
  | cons j js ih => rw [ofJsonList, ih, List.map_cons]

end Value

end SqlFilter

/-
**Values.**

What a condition compares with, what a column is set to, and what a column holds: one type for all
of them.  A list may hold any values, other lists too.

Main definitions:

* `SqlFilter.Value`: a value;
* `SqlFilter.Value.typeName`: the name of its type on the server;
* `SqlFilter.Value.isNull`, `SqlFilter.Value.isInstant`: two classes of values;
* `SqlFilter.Value.shape`: null, list, or anything else.
-/

import SqlFilter.Calendar.Moment
import SqlFilter.Error
import SqlFilter.Json.Basic
import SqlFilter.Number.Numeric
import SqlFilter.Uuid

set_option relaxedAutoImplicit false
set_option autoImplicit false

namespace SqlFilter

open SqlFilter.Calendar (Date Moment Time)
open SqlFilter.Number (Binary32 Binary64 Numeric)

/-- A value. -/
inductive Value where
  | null
  | bool (value : Bool)
  | smallInt (value : Int16)
  | int (value : Int32)
  | bigInt (value : Int64)
  | float (value : Binary32)
  | double (value : Binary64)
  | text (value : String)
  | bytes (value : List UInt8)
  | uuid (value : Uuid)
  | date (value : Date)
  | time (value : Time)
  /-- A moment of no particular time zone. -/
  | timestamp (value : Moment)
  /-- A moment of universal time. -/
  | instant (value : Moment)
  | json (value : Json)
  | array (values : List Value)
  | numeric (value : Numeric)
  deriving Repr

namespace Value

instance : Inhabited Value := ⟨.null⟩

/-- The name of the type of a value. -/
def typeName : Value → String
  | .null => "NULL"
  | .bool _ => "BOOLEAN"
  | .smallInt _ => "SMALLINT"
  | .int _ => "INTEGER"
  | .bigInt _ => "BIGINT"
  | .float _ => "REAL"
  | .double _ => "DOUBLE PRECISION"
  | .text _ => "TEXT"
  | .bytes _ => "BYTEA"
  | .uuid _ => "UUID"
  | .date _ => "DATE"
  | .time _ => "TIME"
  | .timestamp _ => "TIMESTAMP"
  | .instant _ => "TIMESTAMPTZ"
  | .json _ => "JSONB"
  | .array _ => "ARRAY"
  | .numeric _ => "NUMERIC"

/-- Whether the value is null. -/
def isNull : Value → Bool
  | .null => true
  | _ => false

/-- Whether the value is a point in time already. -/
def isInstant : Value → Bool
  | .date _ | .timestamp _ | .instant _ => true
  | _ => false

/-- The shape of a value. -/
def shape : Value → ValueShape
  | .null => .null
  | .array _ => .array
  | _ => .scalar

@[simp] theorem isNull_iff (v : Value) : v.isNull = true ↔ v = .null := by
  cases v <;> simp [isNull]

end Value

end SqlFilter

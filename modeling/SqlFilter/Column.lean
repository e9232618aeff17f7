/-
**Columns and their kinds.**

The kind of a column decides which operators apply to it and how values are prepared for it.  A
table is described by the kinds of its columns; a column that is not described is scalar.

Main definitions:

* `SqlFilter.ColumnKind`: the five kinds;
* `SqlFilter.ColumnKinds`: the kinds of the columns of a table;
* `SqlFilter.ColumnKinds.kindOf`: the kind of a column.

Main results:

* `SqlFilter.ColumnKind.ofName?_name`: the name of a kind reads back.
-/

import SqlFilter.Entries

set_option relaxedAutoImplicit false
set_option autoImplicit false

namespace SqlFilter

/-- The kind of a column: plain, an array, a JSON document, a point in time, or a search vector. -/
inductive ColumnKind where
  | scalar
  | array
  | json
  | time
  | searchVector
  deriving Repr, DecidableEq

namespace ColumnKind

instance : Inhabited ColumnKind := ⟨.scalar⟩

/-- All kinds. -/
def all : List ColumnKind := [.scalar, .array, .json, .time, .searchVector]

/-- The name of a kind. -/
def name : ColumnKind → String
  | .scalar => "scalar"
  | .array => "array"
  | .json => "json"
  | .time => "time"
  | .searchVector => "tsvector"

/-- The kind of a name. -/
def ofName? (name : String) : Option ColumnKind := all.find? fun kind => kind.name == name

/-- The name of a kind reads back. -/
theorem ofName?_name (kind : ColumnKind) : ofName? kind.name = some kind := by
  cases kind <;> decide

end ColumnKind

/-- The kinds of the columns of a table. -/
structure ColumnKinds where
  entries : List (String × ColumnKind)
  deriving Repr, DecidableEq

namespace ColumnKinds

instance : Inhabited ColumnKinds := ⟨⟨[]⟩⟩

/-- No column is described. -/
def empty : ColumnKinds := ⟨[]⟩

/-- Describes a column, over what was said of it. -/
def insert (kinds : ColumnKinds) (column : String) (kind : ColumnKind) : ColumnKinds :=
  ⟨Entries.put column kind kinds.entries⟩

/-- Describes columns one after the other. -/
def ofList (pairs : List (String × ColumnKind)) : ColumnKinds := ⟨Entries.collect pairs⟩

/-- The kind that a column was given. -/
def get? (kinds : ColumnKinds) (column : String) : Option ColumnKind :=
  Entries.get? column kinds.entries

/-- The kind of a column; a column that is not described is scalar. -/
def kindOf (kinds : ColumnKinds) (column : String) : ColumnKind := (kinds.get? column).getD .scalar

/-- How many columns are described. -/
def size (kinds : ColumnKinds) : Nat := kinds.entries.length

/-- Whether no column is described. -/
def isEmpty (kinds : ColumnKinds) : Bool := kinds.entries.isEmpty

/-- Describing a column changes its own kind and no other. -/
theorem kindOf_insert (kinds : ColumnKinds) (column other : String) (kind : ColumnKind) :
    (kinds.insert column kind).kindOf other =
      if other = column then kind else kinds.kindOf other := by
  simp only [kindOf, get?, insert, Entries.get?_put]
  split <;> rfl

end ColumnKinds

end SqlFilter

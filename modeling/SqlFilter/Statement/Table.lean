/-
**Tables.**

What every statement for a table starts from: the checked name of the table, the kinds of its
columns and the configuration.

Main definitions:

* `SqlFilter.Table`: a table;
* `SqlFilter.Table.create`: the table of a name;
* `SqlFilter.Table.compileConditions`: the conditions of a statement, under the policy for entries
  without a value;
* `SqlFilter.Table.slots`: values as they stand in a statement.
-/

import SqlFilter.Condition.Predicate
import SqlFilter.Identifier
import SqlFilter.Query.Clauses

set_option relaxedAutoImplicit false
set_option autoImplicit false

namespace SqlFilter

/-- A table: its name, the kinds of its columns, and the configuration of its statements. -/
structure Table where
  name : String
  kinds : ColumnKinds
  configuration : Configuration
  deriving Repr

/-- Columns with values. -/
abbrev Row := List (String × Value)

namespace Table

/-- The table of a name that passes the checks, with no column described. -/
def create (name : String) : Except Error Table :=
  match Identifier.validate name with
  | .error e => .error e
  | .ok () => .ok ⟨name, .empty, {}⟩

/-- The name of the table in a statement. -/
def quotedName (table : Table) : String := Identifier.quote table.name

/-- What conditions need to know of the table. -/
def scope (table : Table) : Scope := ⟨table.kinds.kindOf, table.quotedName⟩

/-- Compiles conditions behind `offset` parameters.  Where entries without a value are refused, the
first of them is the error, whatever else is wrong. -/
def compileConditions (table : Table) (conditions : Conditions) (offset : Nat)
    (skipUndefined : Option Bool) : Except Error Predicate :=
  match table.configuration.undefinedPolicy.resolve skipUndefined,
    Conditions.undefinedKeys conditions with
  | .refuse, key :: _ => .error (.undefinedValue key)
  | _, _ => table.scope.compile conditions offset

/-- A value prepared for its column. -/
def encode (table : Table) (column : String) (v : Value) : Except Error Value :=
  v.encode (table.kinds.kindOf column)

/-- The values of a row prepared for their columns; the first failure counts. -/
def encodeRow (table : Table) (row : Row) : Except Error (List Value) :=
  mapAll (fun pair : String × Value => table.encode pair.1 pair.2) row

/-! ### Values in a statement -/

/-- A value behind `offset` parameters: null and empty lists as text, so that the server takes their
type from the column, and anything else as a parameter. -/
def slot (offset : Nat) : Value → Fragment
  | .null => ⟨"NULL", []⟩
  | .array [] => ⟨emptyArraySql, []⟩
  | v => .bind offset v

/-- Values behind `offset` parameters, one after the other. -/
def slots (offset : Nat) : List Value → List String × List Value
  | [] => ([], [])
  | v :: vs =>
      let first := slot offset v
      let rest := slots (offset + first.params.length) vs
      (first.sql :: rest.1, first.params ++ rest.2)

end Table

end SqlFilter

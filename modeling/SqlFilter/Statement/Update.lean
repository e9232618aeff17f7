/-
**Updating and deleting.**

Main definitions:

* `SqlFilter.Table.assignments`: the new values of columns in a statement;
* `SqlFilter.Table.update`: the statement that changes the rows that meet conditions;
* `SqlFilter.Table.delete`: the statement that removes them.
-/

import SqlFilter.Statement.Table

set_option relaxedAutoImplicit false
set_option autoImplicit false

namespace SqlFilter.Table

/-- The new values of columns behind `offset` parameters: a column in quotes and its value. -/
def assignments (table : Table) (offset : Nat) :
    List (String × Value) → Except Error (List String × List Value)
  | [] => .ok ([], [])
  | (column, v) :: row =>
      match table.encode column v with
      | .error e => .error e
      | .ok value =>
          match Identifier.escape column with
          | .error e => .error e
          | .ok name =>
              let first := slot offset value
              match table.assignments (offset + first.params.length) row with
              | .error e => .error e
              | .ok (items, params) =>
                  .ok ((name ++ " = " ++ first.sql) :: items, first.params ++ params)

/-- The statement that changes the rows that meet conditions.  The parameters of the new values come
first, and the conditions go on behind them. -/
def update (table : Table) (conditions : Conditions) (row : Row) : Except Error Fragment :=
  if row = [] then .error (.query "Cannot update with no values")
  else
    match table.assignments 0 row with
    | .error e => .error e
    | .ok (items, params) =>
        match table.compileConditions conditions params.length none with
        | .error e => .error e
        | .ok predicate =>
            .ok ⟨"UPDATE " ++ table.quotedName ++ " SET " ++ ", ".intercalate items ++
                predicate.whereClause,
              params ++ predicate.params⟩

/-- The statement that removes the rows that meet conditions. -/
def delete (table : Table) (conditions : Conditions) : Except Error Fragment :=
  match table.compileConditions conditions 0 none with
  | .error e => .error e
  | .ok predicate =>
      .ok ⟨"DELETE FROM " ++ table.quotedName ++ predicate.whereClause, predicate.params⟩

end SqlFilter.Table

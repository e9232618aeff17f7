/-
**Selecting and counting.**

Main definitions:

* `SqlFilter.Table.select`: the rows that meet conditions;
* `SqlFilter.Table.count`: their number.
-/

import SqlFilter.Statement.Table

set_option relaxedAutoImplicit false
set_option autoImplicit false

namespace SqlFilter.Table

/-- The statement for the rows that meet conditions. -/
def select (table : Table) (conditions : Conditions) (options : QueryOptions) :
    Except Error Fragment :=
  let escaping := table.configuration.escaping
  match options.compileFields escaping with
  | .error e => .error e
  | .ok fields =>
      match table.compileConditions conditions 0 options.skipUndefined with
      | .error e => .error e
      | .ok predicate =>
          match options.compileTail escaping with
          | .error e => .error e
          | .ok tail =>
              .ok ⟨"SELECT " ++ fields ++ " FROM " ++ table.quotedName ++ predicate.whereClause ++
                tail, predicate.params⟩

/-- The statement for the number of rows that meet conditions. -/
def count (table : Table) (conditions : Conditions) : Except Error Fragment :=
  match table.compileConditions conditions 0 none with
  | .error e => .error e
  | .ok predicate =>
      .ok ⟨"SELECT COUNT(*) FROM " ++ table.quotedName ++ predicate.whereClause, predicate.params⟩

end SqlFilter.Table

/-
**Inserting.**

One row, or several rows with the same columns.  The first row fixes the columns and their order;
another row may name them in any order.

Main definitions:

* `SqlFilter.Table.insert`: the statement for one row;
* `SqlFilter.Table.insertMany`: the statement for several rows;
* `SqlFilter.Table.arrange`: a row in the order of the columns.
-/

import SqlFilter.Statement.Table

set_option relaxedAutoImplicit false
set_option autoImplicit false

namespace SqlFilter.Table

/-- Values between parentheses. -/
def parenthesized (items : List String) : String := "(" ++ ", ".intercalate items ++ ")"

/-- The statement that inserts rows of given columns; both are written already. -/
def insertSql (table : Table) (columns : List String) (tuples : List String) : String :=
  "INSERT INTO " ++ table.quotedName ++ " " ++ parenthesized columns ++ " VALUES " ++
    ", ".intercalate tuples ++ " RETURNING *"

/-! ### One row -/

/-- The statement that inserts a row and gives it back. -/
def insert (table : Table) (row : Row) : Except Error Fragment :=
  if row = [] then .error (.query "Cannot insert with no values")
  else
    match mapAll Identifier.escape (Entries.keys row) with
    | .error e => .error e
    | .ok columns =>
        match table.encodeRow row with
        | .error e => .error e
        | .ok values =>
            let written := slots 0 values
            .ok ⟨table.insertSql columns [parenthesized written.1], written.2⟩

/-! ### Several rows -/

/-- A row has not as many columns as the first one. -/
def wrongWidth (index actual expected : Nat) : Error :=
  .query ("Row " ++ toString index ++ " has " ++ toString actual ++ " columns, expected " ++
    toString expected)

/-- A row lacks a column of the first one. -/
def missingColumn (index : Nat) (column : String) : Error :=
  .query ("Row " ++ toString index ++ " is missing column '" ++ column ++ "'")

/-- The values of a row for given columns, prepared, in the order of the columns.  Of a column that
a row names twice the first value counts. -/
def arrange (table : Table) (index : Nat) (row : Row) : List String → Except Error (List Value)
  | [] => .ok []
  | column :: columns =>
      match Entries.get? column row with
      | none => .error (missingColumn index column)
      | some v =>
          match table.encode column v with
          | .error e => .error e
          | .ok value =>
              match table.arrange index row columns with
              | .error e => .error e
              | .ok values => .ok (value :: values)

/-- The prepared values of rows from a given index on; the first failure counts. -/
def arrangeAll (table : Table) (columns : List String) (index : Nat) :
    List Row → Except Error (List (List Value))
  | [] => .ok []
  | row :: rows =>
      if row.length ≠ columns.length then
        .error (wrongWidth index row.length columns.length)
      else
        match table.arrange index row columns with
        | .error e => .error e
        | .ok values =>
            match table.arrangeAll columns (index + 1) rows with
            | .error e => .error e
            | .ok others => .ok (values :: others)

/-- Tuples of values behind `offset` parameters, one after the other. -/
def tuples (offset : Nat) : List (List Value) → List String × List Value
  | [] => ([], [])
  | values :: rows =>
      let first := slots offset values
      let rest := tuples (offset + first.2.length) rows
      (parenthesized first.1 :: rest.1, first.2 ++ rest.2)

/-- There is nothing to insert. -/
def noRows : Error := .query "Cannot insert with no rows"

/-- The statement that inserts several rows and gives them back. -/
def insertMany (table : Table) (rows : List Row) : Except Error Fragment :=
  match rows with
  | [] | [] :: _ => .error noRows
  | first :: _ =>
      let names := Entries.keys first
      match mapAll Identifier.escape names with
      | .error e => .error e
      | .ok columns =>
          match table.arrangeAll names 0 rows with
          | .error e => .error e
          | .ok values =>
              let written := tuples 0 values
              .ok ⟨table.insertSql columns written.1, written.2⟩

end SqlFilter.Table

/-
**The clauses of a query.**

The list of what is selected, and the clauses behind the conditions: grouping, order, limits and the
lock.  A sort item is a column or the position of one in the select list; its direction is a sign in
front or a word behind.

Main definitions:

* `SqlFilter.columnReference`: a column in a statement;
* `SqlFilter.SortItem.parse`: a sort item;
* `SqlFilter.QueryOptions.compileFields`: the select list;
* `SqlFilter.QueryOptions.compileTail`: the clauses behind the conditions.
-/

import SqlFilter.Identifier
import SqlFilter.Query.Options

set_option relaxedAutoImplicit false
set_option autoImplicit false

namespace SqlFilter

open SqlFilter.Text (asciiLower isBlank splitAtLast? splitOn trim trimmed)

/-- A column in a statement: in quotes, or checked and as it stands. -/
def columnReference (column : String) (escape : Bool) : Except Error String :=
  if escape then Identifier.escape column
  else
    match Identifier.checkPlain column with
    | .error e => .error e
    | .ok () => .ok column

/-- Applies a fallible function to each element of a list; the first failure counts. -/
def mapAll {α β : Type} (f : α → Except Error β) : List α → Except Error (List β)
  | [] => .ok []
  | a :: rest =>
      match f a with
      | .error e => .error e
      | .ok b =>
          match mapAll f rest with
          | .error e => .error e
          | .ok others => .ok (b :: others)

/-! ### Sort items -/

/-- The direction of an order. -/
inductive SortDirection where
  | ascending
  | descending
  deriving Repr, DecidableEq

namespace SortDirection

/-- The spelling of a direction. -/
def sql : SortDirection → String
  | .ascending => "ASC"
  | .descending => "DESC"

/-- The direction that a word names, in any letter case and with blanks around it. -/
def ofChars? (cs : List Char) : Option SortDirection :=
  let word := String.ofList (asciiLower (trim cs))
  if word = "asc" then some .ascending else if word = "desc" then some .descending else none

end SortDirection

/-- What is sorted or grouped by: the position of a column in the select list, or a column. -/
inductive SortTarget where
  | position (digits : String)
  | column (name : String)
  deriving Repr, DecidableEq

namespace SortTarget

/-- The target of a trimmed text. -/
def ofChars (cs : List Char) : Except Error SortTarget :=
  if cs = [] then .error (.invalidOrderBy "empty sort column")
  else if cs.all Char.isDigit then .ok (.position (String.ofList cs))
  else .ok (.column (String.ofList cs))

/-- The target in a statement. -/
def render (target : SortTarget) (escape : Bool) : Except Error String :=
  match target with
  | .position digits => .ok digits
  | .column name => columnReference name escape

end SortTarget

/-- A target with a direction. -/
structure SortItem where
  target : SortTarget
  direction : SortDirection
  deriving Repr, DecidableEq

namespace SortItem

/-- The item of a text for the target and a direction. -/
def ofTarget (cs : List Char) (direction : SortDirection) : Except Error SortItem :=
  match SortTarget.ofChars (trim cs) with
  | .error e => .error e
  | .ok target => .ok ⟨target, direction⟩

/-- Reads an item: a sign in front, a word for the direction behind, or neither for ascending
order. -/
def ofChars (text : List Char) : Except Error SortItem :=
  match trim text with
  | '+' :: rest => ofTarget rest .ascending
  | '-' :: rest => ofTarget rest .descending
  | item =>
      match splitAtLast? isBlank item with
      | some (front, word) =>
          match SortDirection.ofChars? word with
          | some direction => ofTarget front direction
          | none => ofTarget item .ascending
      | none => ofTarget item .ascending

/-- Reads an item. -/
def parse (text : String) : Except Error SortItem := ofChars text.toList

/-- The item of a column and the name of its direction. -/
def ofPair (pair : String × String) : Except Error SortItem :=
  match SortDirection.ofChars? pair.2.toList with
  | some direction => ofTarget pair.1.toList direction
  | none =>
      .error (.invalidOrderBy
        ("direction for '" ++ pair.1 ++ "' must be 'asc' or 'desc', got '" ++ pair.2 ++ "'"))

/-- The item in a statement; `nulls` says where nulls go. -/
def render (escape : Bool) (nulls : String) (item : SortItem) : Except Error String :=
  match item.target.render escape with
  | .error e => .error e
  | .ok target => .ok (target ++ " " ++ item.direction.sql ++ nulls)

end SortItem

/-- The items between the commas of a text, without blanks around them and without empty ones. -/
def splitItems (text : String) : List String :=
  ((splitOn ',' text.toList).map trim).filter (fun item => !item.isEmpty) |>.map String.ofList

/-! ### Clauses -/

/-- Where nulls go in an order. -/
def nullsSql : Option Bool → String
  | none => ""
  | some true => " NULLS FIRST"
  | some false => " NULLS LAST"

/-- The items of an order. -/
def SortList.items : SortList → Except Error (List SortItem)
  | .expression text => mapAll SortItem.parse (splitItems text)
  | .columns items => mapAll SortItem.parse items
  | .directions pairs _ => mapAll SortItem.ofPair pairs

/-- The texts of the items that are grouped by. -/
def GroupList.items : GroupList → List String
  | .expression text => splitItems text
  | .columns items => items

/-- A sort item as a target of grouping; its direction does not count. -/
def groupItem (escape : Bool) (text : String) : Except Error String :=
  match SortItem.parse text with
  | .error e => .error e
  | .ok item => item.target.render escape

/-- A clause of a keyword and items, or nothing without items. -/
def listClause (keyword : String) (items : List String) : String :=
  if items = [] then "" else " " ++ keyword ++ " " ++ ", ".intercalate items

/-- The items of an order in a statement. -/
def orderItems (list : SortList) (nullsFirst : Option Bool) (escape : Bool) :
    Except Error (List String) :=
  match list.items with
  | .error e => .error e
  | .ok items => mapAll (SortItem.render escape (nullsSql nullsFirst)) items

/-- The grouping clause. -/
def groupByClause (list : Option GroupList) (escape : Bool) : Except Error String :=
  match list with
  | none => .ok ""
  | some list => (mapAll (groupItem escape) list.items).map (listClause "GROUP BY")

/-- The order clause. -/
def orderByClause (list : Option SortList) (nullsFirst : Option Bool) (escape : Bool) :
    Except Error String :=
  match list with
  | none => .ok ""
  | some list => (orderItems list nullsFirst escape).map (listClause "ORDER BY")

/-- A clause of a keyword and a number of rows, which must not be negative. -/
def countClause (keyword : String) : Option Int64 → Except Error String
  | none => .ok ""
  | some n =>
      if n < 0 then
        .error (.invalidLimitOffset
          (keyword ++ " must be a non-negative integer, got " ++ toString n.toInt))
      else .ok (" " ++ keyword ++ " " ++ toString n.toInt)

namespace QueryOptions

/-- What is selected, without the word for distinct rows. -/
def selectList (options : QueryOptions) (escape : Bool) : Except Error String :=
  match options.fields with
  | none => .ok "*"
  | some (.columns []) => .ok "*"
  | some (.columns names) =>
      (mapAll (fun name => columnReference name escape) names).map fun columns =>
        ", ".intercalate columns
  | some (.expression text) =>
      match Identifier.checkPlain text with
      | .error e => .error e
      | .ok () => .ok (trimmed text)

/-- The select list. -/
def compileFields (options : QueryOptions) (escaping : Escaping) : Except Error String :=
  (options.selectList (escaping.resolve options.escapeColumns).select).map fun list =>
    if options.distinct then "DISTINCT " ++ list else list

/-- The clauses behind the conditions, each with a space in front. -/
def compileTail (options : QueryOptions) (escaping : Escaping) : Except Error String :=
  let escape := escaping.resolve options.escapeColumns
  match groupByClause options.groupBy escape.groupBy with
  | .error e => .error e
  | .ok grouping =>
      match orderByClause options.orderBy options.nullsFirst escape.orderBy with
      | .error e => .error e
      | .ok order =>
          match countClause "LIMIT" options.limit with
          | .error e => .error e
          | .ok limit =>
              match countClause "OFFSET" options.offset with
              | .error e => .error e
              | .ok offset =>
                  .ok (grouping ++ order ++ limit ++ offset ++
                    if options.forUpdate then " FOR UPDATE" else "")

end QueryOptions

end SqlFilter

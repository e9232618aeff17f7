/-
**Compiling conditions.**

A condition tree becomes the text of a predicate and the parameters behind its placeholders.
Placeholders are numbered in document order from one running offset, through all groups.  Null and
empty lists are written into the text; every other value is a parameter, so no value is ever part of
the text.

Main definitions:

* `SqlFilter.Fragment`: a piece of text with its parameters;
* `SqlFilter.Scope`: what is known of the table;
* `SqlFilter.Scope.entry`: the predicate of one key and value;
* `SqlFilter.Scope.predicates`, `SqlFilter.Scope.group`: the predicates of a tree;
* `SqlFilter.Predicate`, `SqlFilter.Scope.compile`: the compiled tree.

Main results:

* `SqlFilter.Scope.predicates_cons`: the predicates of an entry stand in front of the others, and
  the numbers go on behind its parameters.
-/

import SqlFilter.Condition.Key
import SqlFilter.Condition.Tree
import SqlFilter.Value.Encode

set_option relaxedAutoImplicit false
set_option autoImplicit false

namespace SqlFilter

/-! ### Fragments -/

/-- A piece of text with the parameters behind its placeholders. -/
structure Fragment where
  sql : String
  params : List Value
  deriving Repr

/-- The placeholder behind `offset` others. -/
def placeholder (offset : Nat) : String := "$" ++ toString (offset + 1)

/-- An array without elements; the server takes its type from the other side. -/
def emptyArraySql : String := "'{}'"

namespace Fragment

/-- A value as a parameter. -/
def bind (offset : Nat) (v : Value) : Fragment := ⟨placeholder offset, [v]⟩

/-- A list as a parameter, or as text when it is empty. -/
def bindList (offset : Nat) (values : List Value) : Fragment :=
  match values with
  | [] => ⟨emptyArraySql, []⟩
  | v :: vs => bind offset (.array (v :: vs))

end Fragment

/-! ### One entry -/

/-- What is known of the table: the kinds of its columns, and its quoted name, if it is needed. -/
structure Scope where
  kindOf : String → ColumnKind
  qualifier : String

namespace Scope

/-- The operator means nothing here. -/
def unsupported (key : Key) (kind : ColumnKind) (shape : ValueShape) : Error :=
  .unsupportedOperator key.field key.comparison.sql kind shape

/-- A reference, an operator and an operand. -/
def binary (key : Key) (operand : Fragment) : Fragment :=
  ⟨key.reference ++ " " ++ key.comparison.sql ++ " " ++ operand.sql, operand.params⟩

/-- The predicate for null. -/
def nullPredicate (key : Key) : Except Error Fragment :=
  match key.comparison.nullSql? with
  | some sql => .ok ⟨key.reference ++ " " ++ sql ++ " NULL", []⟩
  | none => .error (unsupported key .scalar .null)

/-- An element of a membership list, which for a time column is a point in time. -/
def memberValue (kind : ColumnKind) (v : Value) : Except Error Value :=
  if kind = .time then v.toInstant else .ok v

/-- The elements of a membership list: null as text, any other value as a parameter. -/
def members (kind : ColumnKind) (offset : Nat) :
    List Value → Except Error (List String × List Value)
  | [] => .ok ([], [])
  | v :: vs =>
      if v.isNull then
        match members kind offset vs with
        | .error e => .error e
        | .ok (sqls, params) => .ok ("NULL" :: sqls, params)
      else
        match memberValue kind v with
        | .error e => .error e
        | .ok member =>
            match members kind (offset + 1) vs with
            | .error e => .error e
            | .ok (sqls, params) => .ok (placeholder offset :: sqls, member :: params)

/-- The predicate for membership of a list, or for its opposite. -/
def membership (key : Key) (kind : ColumnKind) (offset : Nat) (values : List Value) :
    Except Error Fragment :=
  if values = [] then .error (.emptyArray key.field)
  else
    match members kind offset values with
    | .error e => .error e
    | .ok (sqls, params) =>
        let word := if key.comparison = .equal then "IN" else "NOT IN"
        .ok ⟨key.reference ++ " " ++ word ++ " (" ++ ", ".intercalate sqls ++ ")", params⟩

/-- The predicate for a list. -/
def listPredicate (key : Key) (kind : ColumnKind) (offset : Nat) (values : List Value) :
    Except Error Fragment :=
  let op := key.comparison
  match kind with
  | .json =>
      if op.isKeyQuestion then .ok (binary key (.bindList offset values))
      else if op.isSetRelation then
        .ok (binary key (.bind offset (.json (Value.array values).toJson)))
      else .error (unsupported key kind .array)
  | .array =>
      if !key.lowersField && (op.isEquality || op.isOrder || op.isSetRelation) then
        .ok (binary key (.bindList offset values))
      else .error (unsupported key kind .array)
  | .scalar | .time | .searchVector =>
      if op.isEquality then membership key kind offset values
      else
        match op.quantifier? with
        | some quantifier =>
            let operand := Fragment.bindList offset values
            .ok (binary key ⟨quantifier.sql ++ "(" ++ operand.sql ++ ")", operand.params⟩)
        | none => .error (unsupported key kind .array)

/-- A reference with the name of its table in front, if there is one. -/
def qualified (scope : Scope) (reference : String) : String :=
  if scope.qualifier = "" then reference else scope.qualifier ++ "." ++ reference

/-- The predicate for a value that is neither null nor a list. -/
def scalarPredicate (scope : Scope) (key : Key) (kind : ColumnKind) (offset : Nat) (v : Value) :
    Except Error Fragment :=
  let op := key.comparison
  match kind with
  | .array =>
      if key.lowersField then .error (unsupported key kind .scalar)
      else if op.isEquality then
        .ok ⟨placeholder offset ++ " " ++ op.sql ++ " ANY(" ++ key.reference ++ ")", [v]⟩
      else if op.isWildcard then
        .ok ⟨"EXISTS (SELECT * FROM (SELECT UNNEST(" ++ scope.qualified key.reference ++
          ") _el) _arr WHERE _arr._el " ++ op.sql ++ " " ++ placeholder offset ++ ")", [v]⟩
      else .error (unsupported key kind .scalar)
  | .time =>
      match v.toInstant with
      | .error e => .error e
      | .ok moment => .ok (binary key (.bind offset moment))
  | .scalar | .json | .searchVector => .ok (binary key (.bind offset v))

/-- A value as the operator of its key compares it, a list element by element. -/
def adjusted (key : Key) (v : Value) : Value :=
  match key.adjustment with
  | none => v
  | some adjustment =>
      match v with
      | .array values => .array (values.map adjustment.apply)
      | v => adjustment.apply v

/-- The predicate of a parsed key and a value. -/
def keyed (scope : Scope) (key : Key) (offset : Nat) (v : Value) : Except Error Fragment :=
  let kind := scope.kindOf key.field
  match adjusted key v with
  | .null => nullPredicate key
  | .array values => listPredicate key kind offset values
  | v => scope.scalarPredicate key kind offset v

/-- The predicate of a key and a value. -/
def entry (scope : Scope) (raw : String) (offset : Nat) (v : Value) : Except Error Fragment :=
  match Key.parse raw with
  | .error e => .error e
  | .ok key => scope.keyed key offset v

/-! ### Trees -/

/-- A group stands under a key that joins nothing. -/
def misplacedGroup (key : String) : Error :=
  .invalidCondition
    ("nested conditions are only allowed under 'and'/'or', found under '" ++ key ++ "'")

/-- A value stands under a key that joins a group. -/
def misplacedValue (key : String) : Error :=
  .invalidCondition ("'" ++ key ++ "' expects a list of conditions")

/-- What joins the elements of a group. -/
def joiner (key : String) : String := if key = "or" then " OR " else " AND "

/-- The predicate of an element of a group; one that asks for nothing is true. -/
def elementSql (sqls : List String) : String :=
  if sqls = [] then "(TRUE)" else "(" ++ " AND ".intercalate sqls ++ ")"

mutual

/-- The predicates of an entry: one, or none if it asks for nothing. -/
def node (scope : Scope) (key : String) (offset : Nat) :
    Node → Except Error (List String × List Value)
  | .undefined => .ok ([], [])
  | .value v =>
      if isGroupKey key then .error (misplacedValue key)
      else
        match scope.entry key offset v with
        | .error e => .error e
        | .ok fragment => .ok ([fragment.sql], fragment.params)
  | .group elements =>
      if isGroupKey key then
        match scope.group offset elements with
        | .error e => .error e
        | .ok (sqls, params) =>
            if sqls = [] then .ok ([], [])
            else .ok (["(" ++ (joiner key).intercalate sqls ++ ")"], params)
      else .error (misplacedGroup key)

/-- The predicates of entries, behind `offset` parameters. -/
def predicates (scope : Scope) (offset : Nat) :
    List (String × Node) → Except Error (List String × List Value)
  | [] => .ok ([], [])
  | (key, value) :: entries =>
      match scope.node key offset value with
      | .error e => .error e
      | .ok (sqls, params) =>
          match scope.predicates (offset + params.length) entries with
          | .error e => .error e
          | .ok (moreSqls, moreParams) => .ok (sqls ++ moreSqls, params ++ moreParams)

/-- The predicates of the elements of a group, one for each. -/
def group (scope : Scope) (offset : Nat) :
    List (List (String × Node)) → Except Error (List String × List Value)
  | [] => .ok ([], [])
  | element :: elements =>
      match scope.predicates offset element with
      | .error e => .error e
      | .ok (sqls, params) =>
          match scope.group (offset + params.length) elements with
          | .error e => .error e
          | .ok (moreSqls, moreParams) => .ok (elementSql sqls :: moreSqls, params ++ moreParams)

end

theorem predicates_nil (scope : Scope) (offset : Nat) :
    scope.predicates offset [] = .ok ([], []) := rfl

/-- The predicates of an entry stand in front of the others, and the numbers go on behind its
parameters. -/
theorem predicates_cons (scope : Scope) (offset : Nat) (key : String) (value : Node)
    (entries : List (String × Node)) :
    scope.predicates offset ((key, value) :: entries) =
      match scope.node key offset value with
      | .error e => .error e
      | .ok (sqls, params) =>
          match scope.predicates (offset + params.length) entries with
          | .error e => .error e
          | .ok (moreSqls, moreParams) => .ok (sqls ++ moreSqls, params ++ moreParams) := rfl

end Scope

/-! ### Compiled trees -/

/-- A compiled tree: the text of its predicate without the keyword, its parameters, and how many
placeholders there are up to its end. -/
structure Predicate where
  sql : String
  params : List Value
  nextOffset : Nat
  deriving Repr

namespace Predicate

/-- Whether the predicate asks for nothing. -/
def isEmpty (p : Predicate) : Bool := p.sql == ""

/-- The clause of a statement, or nothing. -/
def whereClause (p : Predicate) : String := if p.sql = "" then "" else " WHERE " ++ p.sql

end Predicate

/-- Compiles a tree behind `offset` placeholders.  The offset counts parameters that are bound in
front of the tree.  A statement has far fewer of them than a machine word can count, so that the
numbers never run over and a natural number stands for the word. -/
def Scope.compile (scope : Scope) (conditions : Conditions) (offset : Nat) :
    Except Error Predicate :=
  match scope.predicates offset conditions with
  | .error e => .error e
  | .ok (sqls, params) => .ok ⟨" AND ".intercalate sqls, params, offset + params.length⟩

end SqlFilter

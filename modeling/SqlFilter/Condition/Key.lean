/-
**Condition keys.**

A key names a field and perhaps an operator behind it.  The field is the name of a column, a column
with a path into its JSON document, or an expression that is taken as it stands because it holds
double quotes.

Main definitions:

* `SqlFilter.PathOperator`: the operators that step into a document;
* `SqlFilter.Key`: what a key says;
* `SqlFilter.Key.splitOperator`: the field and the operator of a key;
* `SqlFilter.Key.splitPath`: the column and the steps of a field;
* `SqlFilter.Key.parse`: reading a key.

Main results:

* `SqlFilter.Key.splitPath_append`: a column and its steps, written one after the other, are the
  field.
-/

import SqlFilter.Condition.Operator
import SqlFilter.Text.Blank
import SqlFilter.Text.Pieces

set_option relaxedAutoImplicit false
set_option autoImplicit false

namespace SqlFilter

open SqlFilter.Text (doubled enclosed isBlank trim trimEnd)

/-! ### Steps into documents -/

/-- The operators that step into a document: by key or by path, to a document or to its text. -/
inductive PathOperator where
  | member
  | memberText
  | path
  | pathText
  deriving Repr, DecidableEq

/-- The spelling of a path operator. -/
def PathOperator.spelling : PathOperator → List Char
  | .member => ['-', '>']
  | .memberText => ['-', '>', '>']
  | .path => ['#', '>']
  | .pathText => ['#', '>', '>']

/-- What a key says. -/
structure Key where
  /-- The name of the column, or the whole expression. -/
  field : String
  /-- The reference to the field in a statement. -/
  reference : String
  comparison : Comparison
  adjustment : Option ValueAdjustment
  /-- Whether the reference is put into lower case. -/
  lowersField : Bool
  deriving Repr, DecidableEq

namespace Key

/-! ### The operator -/

/-- Whether the last character is blank. -/
def endsBlank (cs : List Char) : Bool := (cs.getLast?.map isBlank).getD false

/-- Finds the longest operator token that ends a text, of which `front` stands before the part
looked at.  A token made of words counts only behind a blank. -/
def findOperator? (front : List Char) : List Char → Option (List Char × Operator)
  | [] => none
  | c :: cs =>
      match Operator.lookup? (c :: cs) with
      | some op =>
          if op.isWord && !endsBlank front then findOperator? (front ++ [c]) cs
          else some (trimEnd front, op)
      | none => findOperator? (front ++ [c]) cs

/-- The field and the operator of a trimmed key, if it has one. -/
def splitOperator (key : List Char) : List Char × Option Operator :=
  match findOperator? [] key with
  | some (field, op) => (field, some op)
  | none => (key, none)

/-! ### The path -/

/-- The part of a field in front of its first path operator, and the steps: each path operator with
what stands behind it. -/
def splitPath : List Char → List Char × List (PathOperator × List Char)
  | [] => ([], [])
  | '-' :: '>' :: '>' :: cs => ([], (.memberText, (splitPath cs).1) :: (splitPath cs).2)
  | '#' :: '>' :: '>' :: cs => ([], (.pathText, (splitPath cs).1) :: (splitPath cs).2)
  | '-' :: '>' :: cs => ([], (.member, (splitPath cs).1) :: (splitPath cs).2)
  | '#' :: '>' :: cs => ([], (.path, (splitPath cs).1) :: (splitPath cs).2)
  | c :: cs => (c :: (splitPath cs).1, (splitPath cs).2)

/-- The steps as they were written. -/
def writtenSteps (steps : List (PathOperator × List Char)) : List Char :=
  steps.flatMap fun step => step.1.spelling ++ step.2

/-- A column and its steps, written one after the other, are the field. -/
theorem splitPath_append (cs : List Char) :
    (splitPath cs).1 ++ writtenSteps (splitPath cs).2 = cs := by
  fun_induction splitPath cs <;> simp_all [writtenSteps, PathOperator.spelling]

/-- Whether a text stands in single quotes. -/
def isQuoted (segment : List Char) : Bool :=
  2 ≤ segment.length && segment.head? == some '\'' && segment.getLast? == some '\''

/-- The key of a step in a statement: an index as it is, a quoted text as it is, and any other text
in quotes, with the quotes inside it doubled. -/
def renderSegment (segment : List Char) : List Char :=
  if segment.all Char.isDigit then segment
  else if isQuoted segment then segment
  else enclosed '\'' (doubled '\'' segment)

/-- The steps in a statement; a step without a key is refused. -/
def renderSteps? : List (PathOperator × List Char) → Option (List Char)
  | [] => some []
  | (op, text) :: steps =>
      let segment := trim text
      if segment = [] then none
      else (renderSteps? steps).map fun rest => op.spelling ++ renderSegment segment ++ rest

/-! ### The key -/

/-- The column of a field and the reference to it, if the field is complete. -/
def reference? (field : List Char) : Option (List Char × List Char) :=
  if field = [] then none
  else if '"' ∈ field then some (field, field)
  else
    match splitPath field with
    | (_, []) => some (field, enclosed '"' field)
    | (front, steps) =>
        let column := trimEnd front
        if column = [] then none
        else (renderSteps? steps).map fun path => (column, enclosed '"' column ++ path)

/-- A reference in lower case. -/
def lowerReference (reference : List Char) : List Char :=
  "LOWER(".toList ++ reference ++ [')']

/-- The key of a column, a reference to it and an operator; without an operator it asks for
equality. -/
def ofParts (column reference : List Char) : Option Operator → Key
  | none => ⟨String.ofList column, String.ofList reference, .equal, none, false⟩
  | some op =>
      ⟨String.ofList column,
        String.ofList (if op.lowersField then lowerReference reference else reference),
        op.comparison, op.adjustment, op.lowersField⟩

/-- Reads a key, blanks around it aside. -/
def ofChars? (key : List Char) : Option Key :=
  let (field, op) := splitOperator (trim key)
  (reference? field).map fun (column, reference) => ofParts column reference op

/-- Reads a key. -/
def parse (raw : String) : Except Error Key :=
  match ofChars? raw.toList with
  | some key => .ok key
  | none => .error (.invalidConditionKey raw)

end Key

end SqlFilter

/-
**Identifiers.**

Names of columns may be any text and are put into quotes; names of tables are checked to be plain
first.  Text that is taken without quotes is checked not to end a statement or to hide a part of it
in a comment.

Main definitions:

* `SqlFilter.Identifier.escape`: any name in quotes;
* `SqlFilter.Identifier.checkPlain`: the check of text that is taken as it stands;
* `SqlFilter.Identifier.validatePart`, `SqlFilter.Identifier.validate`: the checks of the name of a
  table, with or without the name of its schema;
* `SqlFilter.Identifier.quote`: a checked name in quotes;
* `SqlFilter.Identifier.readDelimited?`: the name behind quotes.

Main results:

* `SqlFilter.Identifier.readDelimited?_append`: an escaped name reads back, whatever follows it.
-/

import SqlFilter.Error
import SqlFilter.Text.Blank
import SqlFilter.Text.Compatibility
import SqlFilter.Text.LowerCase
import SqlFilter.Text.Pieces

set_option relaxedAutoImplicit false
set_option autoImplicit false

namespace SqlFilter.Identifier

open SqlFilter.Text (compatible doubled enclosed lowerCase occursIn splitOn trimmed)

/-! ### Quoting -/

/-- A name in quotes, each part between points in its own. -/
def quote (name : String) : String :=
  String.ofList (['.'].intercalate ((splitOn '.' name.toList).map (enclosed '"')))

/-- A name is empty. -/
def emptyName : Error := .invalidIdentifier "Identifier cannot be empty"

/-- Any name in quotes, with the quotes inside it doubled. -/
def escape (name : String) : Except Error String :=
  if name = "" then .error emptyName
  else .ok (String.ofList (enclosed '"' (doubled '"' name.toList)))

/-- Reads a name behind its opening quote, up to the closing one: two quotes stand for one. -/
def readDelimited? : List Char → Option (List Char × List Char)
  | [] => none
  | '"' :: '"' :: cs => (readDelimited? cs).map fun (name, rest) => ('"' :: name, rest)
  | '"' :: cs => some ([], cs)
  | c :: cs => (readDelimited? cs).map fun (name, rest) => (c :: name, rest)

/-- An escaped name reads back, whatever follows it that is not another quote. -/
theorem readDelimited?_append (name rest : List Char) (h : rest.head? ≠ some '"') :
    readDelimited? (doubled '"' name ++ '"' :: rest) = some (name, rest) := by
  induction name with
  | nil =>
      cases rest with
      | nil => rfl
      | cons c cs =>
          have hc : c ≠ '"' := by simpa using h
          simp only [doubled, List.nil_append]
          rw [readDelimited?]
          intro cs' heq
          simp only [List.cons.injEq] at heq
          exact hc heq.1
  | cons c cs ih =>
      by_cases hc : c = '"'
      · simp [doubled, hc, readDelimited?, ih]
      · rw [doubled, if_neg hc, List.cons_append, readDelimited?, ih]
        · rfl
        · intro cs' heq _
          exact hc heq
        · exact hc

/-! ### Text without quotes -/

/-- What text without quotes must not hold. -/
def forbidden : List String := [";", "--", "/*", "*/"]

/-- A text holds something that it must not hold. -/
def forbiddenSequence (text sequence : String) : Error :=
  .invalidIdentifier ("'" ++ text ++ "' contains forbidden sequence '" ++ sequence ++ "'")

/-- Checks a text that is taken without quotes. -/
def checkPlain (text : String) : Except Error Unit :=
  let body := trimmed text
  if body = "" then .error emptyName
  else
    match forbidden.find? fun sequence => occursIn sequence.toList body.toList with
    | some sequence => .error (forbiddenSequence body sequence)
    | none => .ok ()

/-! ### Names of tables -/

/-- The most bytes that the server keeps of a name. -/
def mostBytes : Nat := 63

/-- A name is refused for the reason given behind it. -/
def refused (name reason : String) : Error :=
  .invalidIdentifier ("Identifier '" ++ name ++ "' " ++ reason)

/-- Whether a name may start with a character. -/
def isInitial (c : Char) : Bool := c.isAlpha || c == '_'

/-- Whether a character may stand in a name. -/
def isInner (c : Char) : Bool := c.isAlphanum || c == '_'

/-- Whether a name belongs to the catalogs of the server. -/
def isCatalog (name : List Char) : Bool :=
  let small := lowerCase name
  "pg_".toList.isPrefixOf small || small == "information_schema".toList

/-- Checks a part of a name in normalized form. -/
def validateNormal (cs : List Char) : Except Error Unit :=
  let name := String.ofList cs
  if mostBytes < name.utf8ByteSize then .error (refused name "exceeds maximum length of 63")
  else
    match cs with
    | [] => .error (refused name "is empty or invalid")
    | c :: _ =>
        if !isInitial c then .error (refused name "must start with a letter or underscore")
        else
          match cs.find? fun d => !isInner d with
          | some d =>
              .error (refused name ("contains invalid character '" ++ String.ofList [d] ++ "'"))
          | none =>
              if isCatalog cs then
                .error (.invalidIdentifier
                  ("Access to system catalog '" ++ name ++ "' is not allowed"))
              else .ok ()

/-- Checks one part of a name, in its normalization form. -/
def validatePart (part : String) : Except Error Unit :=
  if part = "" then .error (.invalidIdentifier "Identifier part cannot be empty")
  else validateNormal (compatible part.toList)

/-- Checks the name of a table, perhaps with the name of its schema in front. -/
def validate (name : String) : Except Error Unit :=
  if name = "" then .error emptyName
  else
    match (splitOn '.' name.toList).map String.ofList with
    | [part] => validatePart part
    | [schema, table] =>
        match validatePart schema with
        | .error e => .error e
        | .ok () => validatePart table
    | _ =>
        .error (.invalidIdentifier
          ("Invalid schema-qualified identifier '" ++ name ++
            "': must be in format 'schema.table'"))

end SqlFilter.Identifier

/-
**Array literals of one kind of element.**

Readers for arrays whose elements are known to be truth values, numbers, points in time or JSON
documents.  A number may be asked to be exact: beyond the whole numbers that a double-precision
number tells apart it is refused.

Main definitions:

* `SqlFilter.Compound.parseNumber`, `SqlFilter.Compound.parseExactNumber`: one number;
* `SqlFilter.Compound.decodeBoolArray`, `SqlFilter.Compound.decodeNumberArray`,
  `SqlFilter.Compound.decodeExactNumberArray`, `SqlFilter.Compound.decodeInstantArray`,
  `SqlFilter.Compound.decodeJsonArray`: arrays.
-/

import SqlFilter.Calendar.Reader
import SqlFilter.Compound.Basic
import SqlFilter.Json.Document

set_option relaxedAutoImplicit false
set_option autoImplicit false

namespace SqlFilter.Compound

open SqlFilter.Calendar (Moment)
open SqlFilter.Number (Binary64 Literal)
open SqlFilter.Text (trim)

/-! ### Numbers -/

/-- The largest of the whole numbers from zero on that are all held exactly. -/
def largestExact : Nat := 9007199254740991

/-- Reads a number, blanks around it aside. -/
def parseNumber (text : String) : Except Error Binary64 :=
  match Literal.ofChars? (trim text.toList) with
  | some literal => .ok literal.toBinary64
  | none => .error (.decode ("Invalid number '" ++ text ++ "'"))

/-- Reads a number that is not beyond the whole numbers held exactly. -/
def parseExactNumber (text : String) : Except Error Binary64 :=
  match parseNumber text with
  | .error e => .error e
  | .ok x => if x.exceeds largestExact then .error (.numericPrecision text) else .ok x

/-! ### Arrays -/

/-- The truth value that an element spells. -/
def boolOf? (element : Option String) : Option Bool :=
  if element = some "t" then some true else if element = some "f" then some false else none

/-- An array of truth values; an element that is not one is missing. -/
def decodeBoolArray (text : String) : Except Error (List (Option Bool)) :=
  (decodeArray text).map fun elements => elements.map boolOf?

/-- An array of numbers. -/
def decodeNumberArray (text : String) : Except Error (List (Option Binary64)) :=
  decodeArrayWith parseNumber text

/-- An array of numbers that are held exactly. -/
def decodeExactNumberArray (text : String) : Except Error (List (Option Binary64)) :=
  decodeArrayWith parseExactNumber text

/-- Drops one quote at each end of a text that has both. -/
def unquoted (cs : List Char) : List Char :=
  match cs with
  | '"' :: rest => if rest.getLast? = some '"' then rest.dropLast else cs
  | _ => cs

/-- Reads an element of the array `text` as a point in time. -/
def instantElement (text element : String) : Except Error Moment :=
  match Moment.ofInstantChars? (unquoted element.toList) with
  | some moment => .ok moment
  | none => .error (.decode ("Invalid date '" ++ element ++ "' in array '" ++ text ++ "'"))

/-- An array of points in time. -/
def decodeInstantArray (text : String) : Except Error (List (Option Moment)) :=
  decodeArrayWith (instantElement text) text

/-- Reads an element as a JSON document. -/
def jsonElement (element : String) : Except Error Json :=
  match Json.parse? element with
  | some document => .ok document
  | none => .error (.decode ("Invalid JSON element '" ++ element ++ "'"))

/-- An array of JSON documents, of which a missing one is null. -/
def decodeJsonArray (text : String) : Except Error (List Json) :=
  (decodeArrayWith jsonElement text).map fun documents =>
    documents.map fun document => document.getD .null

end SqlFilter.Compound

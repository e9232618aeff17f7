/-
**Reading the texts of columns.**

The server sends every value as a text with the name of its type.  Names are read in any letter
case; a name that starts with an underscore is that of the array type of the rest, and a value of an
unknown type is kept as a text.

Main definitions:

* `SqlFilter.TextType`: the types whose texts are understood;
* `SqlFilter.TextType.ofName`: the type of a name;
* `SqlFilter.TextType.decode`: one value that is no array;
* `SqlFilter.Value.decodeText`: the value behind a type name and a text.
-/

import SqlFilter.Compound.Lists
import SqlFilter.Number.Power
import SqlFilter.Value.Basic

set_option relaxedAutoImplicit false
set_option autoImplicit false

namespace SqlFilter

open SqlFilter.Calendar (Date Moment Time)
open SqlFilter.Number (Literal Numeric twoPow wholeNumber?)
open SqlFilter.Text (asciiLower hexValue?)

/-- The types whose texts are understood. -/
inductive TextType where
  | bool
  | int2
  | int4
  | int8
  | float4
  | float8
  | numeric
  | text
  | uuid
  | json
  | date
  | time
  | timestamp
  | timestamptz
  | bytea
  deriving Repr, DecidableEq

namespace TextType

/-! ### Names -/

/-- The names of the types, in small letters. -/
def names : List (String × TextType) :=
  [("bool", .bool), ("boolean", .bool),
    ("int2", .int2), ("smallint", .int2),
    ("int4", .int4), ("integer", .int4), ("int", .int4), ("oid", .int4),
    ("int8", .int8), ("bigint", .int8),
    ("float4", .float4), ("real", .float4),
    ("float8", .float8), ("double precision", .float8),
    ("numeric", .numeric), ("decimal", .numeric),
    ("text", .text), ("varchar", .text), ("bpchar", .text), ("char", .text), ("name", .text),
    ("citext", .text), ("tsvector", .text),
    ("uuid", .uuid), ("json", .json), ("jsonb", .json),
    ("date", .date), ("time", .time), ("timestamp", .timestamp), ("timestamptz", .timestamptz),
    ("bytea", .bytea)]

/-- The type of a name in small letters; an unknown one is text. -/
def ofName (name : List Char) : TextType := (names.lookup (String.ofList name)).getD .text

/-! ### Values -/

/-- A text is not a value of its type. -/
def invalid (typeName text : String) : Error :=
  .decode ("Invalid " ++ typeName ++ " value '" ++ text ++ "'")

/-- A whole number of the given number of bits, with a sign. -/
def signed? (bits : Nat) (cs : List Char) : Option Int :=
  match wholeNumber? cs with
  | some n => if -twoPow (bits - 1) ≤ n ∧ n < twoPow (bits - 1) then some n else none
  | none => none

/-- The truth value that a text spells. -/
def bool? (text : String) : Option Bool :=
  if text = "t" ∨ text = "true" then some true
  else if text = "f" ∨ text = "false" then some false
  else none

/-- The byte of two digits; a plus sign may stand for the first one. -/
def byte? (a b : Char) : Option UInt8 :=
  match if a = '+' then some 0 else hexValue? a, hexValue? b with
  | some high, some low => some (UInt8.ofNat (16 * high + low))
  | _, _ => none

/-- The bytes of pairs of digits. -/
def bytes? : List Char → Option (List UInt8)
  | [] => some []
  | [_] => none
  | a :: b :: cs =>
      match byte? a b, bytes? cs with
      | some byte, some others => some (byte :: others)
      | _, _ => none

/-- The bytes behind a text in the hexadecimal format. -/
def byteString? : List Char → Option (List UInt8)
  | '\\' :: 'x' :: digits => bytes? digits
  | _ => none

/-- What was read, or the error for the text of a type. -/
def expect (typeName text : String) : Option Value → Except Error Value
  | some v => .ok v
  | none => .error (invalid typeName text)

theorem expect_eq_ok_iff {typeName text : String} {found : Option Value} {v : Value} :
    expect typeName text found = .ok v ↔ found = some v := by
  cases found with
  | none => simp [expect]
  | some w => simp [expect]

/-- Whatever was not read is an error that names the type and the text. -/
theorem expect_eq_error_iff {typeName text : String} {found : Option Value} {e : Error} :
    expect typeName text found = .error e ↔ found = none ∧ e = invalid typeName text := by
  cases found with
  | none => simp [expect, eq_comm]
  | some w => simp [expect]

/-- Reads the text of a value. -/
def decode (type : TextType) (text : String) : Except Error Value :=
  let cs := text.toList
  match type with
  | .bool => expect "BOOLEAN" text ((bool? text).map .bool)
  | .int2 => expect "SMALLINT" text ((signed? 16 cs).map fun n => .smallInt (Int16.ofInt n))
  | .int4 => expect "INTEGER" text ((signed? 32 cs).map fun n => .int (Int32.ofInt n))
  | .int8 => expect "BIGINT" text ((signed? 64 cs).map fun n => .bigInt (Int64.ofInt n))
  | .float4 => expect "REAL" text ((Literal.ofChars? cs).map fun x => .float x.toBinary32)
  | .float8 => (Compound.parseNumber text).map .double
  | .numeric => expect "NUMERIC" text ((Numeric.ofChars? cs).map .numeric)
  | .text => .ok (.text text)
  | .uuid => expect "UUID" text ((Uuid.ofChars? cs).map .uuid)
  | .json =>
      match Json.parse? text with
      | some document => .ok (.json document)
      | none => .error (.serialization ("not a JSON document: '" ++ text ++ "'"))
  | .date => expect "DATE" text ((Date.ofChars? cs).map .date)
  | .time => expect "TIME" text ((Time.ofChars? cs).map .time)
  | .timestamp => expect "TIMESTAMP" text ((Moment.ofChars? .blanks cs).map .timestamp)
  | .timestamptz => expect "TIMESTAMPTZ" text ((Moment.ofInstantChars? cs).map .instant)
  | .bytea => expect "BYTEA" text ((byteString? cs).map .bytes)

end TextType

namespace Value

/-- The value of a text and a type name in small letters. -/
def decodeNamed : List Char → String → Except Error Value
  | '_' :: element, literal =>
      (Compound.decodeArrayWith (fun part => decodeNamed element part) literal).map fun values =>
        .array (values.map fun value => value.getD .null)
  | name, literal => (TextType.ofName name).decode literal

/-- The value behind a type name in any letter case and a text; no text is null. -/
def decodeText (typeName : String) : Option String → Except Error Value
  | none => .ok .null
  | some literal => decodeNamed (asciiLower typeName.toList) literal

end Value

end SqlFilter

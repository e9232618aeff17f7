/-
**Writing JSON documents.**

Documents are written without blanks.  In a text the quote, the backslash and the control characters
below the space are escaped, and nothing else.

Main definitions:

* `SqlFilter.Json.escapeChar`: one character of a text;
* `SqlFilter.Json.quoted`: a text in quotes;
* `SqlFilter.Json.render`: a document.
-/

import SqlFilter.Json.Basic
import SqlFilter.Number.Shortest
import SqlFilter.Text.Hex

set_option relaxedAutoImplicit false
set_option autoImplicit false

namespace SqlFilter.Json

open SqlFilter.Text (hexDigit)

/-! ### Texts -/

/-- One character of a text, escaped where it has to be. -/
def escapeChar (c : Char) : List Char :=
  match c.toNat with
  | 0x22 => ['\\', '"']
  | 0x5C => ['\\', '\\']
  | 0x08 => ['\\', 'b']
  | 0x09 => ['\\', 't']
  | 0x0A => ['\\', 'n']
  | 0x0C => ['\\', 'f']
  | 0x0D => ['\\', 'r']
  | n => if n < 0x20 then ['\\', 'u', '0', '0', hexDigit (n / 16), hexDigit (n % 16)] else [c]

/-- A text in quotes. -/
def quoted (text : String) : String :=
  "\"" ++ String.ofList (text.toList.flatMap escapeChar) ++ "\""

/-! ### Documents -/

/-- A number. -/
def Number.render : Number → String
  | .integer n _ => toString n
  | .double x _ => x.render?.getD "null"

mutual

/-- A document. -/
def render : Json → String
  | .null => "null"
  | .bool b => if b then "true" else "false"
  | .number n => n.render
  | .string s => quoted s
  | .array items => "[" ++ ",".intercalate (renderItems items) ++ "]"
  | .object members =>
      String.singleton '{' ++ ",".intercalate (renderMembers members) ++ String.singleton '}'

/-- The items of a list. -/
def renderItems : List Json → List String
  | [] => []
  | item :: items => item.render :: renderItems items

/-- The members of an object. -/
def renderMembers : List (String × Json) → List String
  | [] => []
  | (key, value) :: members => (quoted key ++ ":" ++ value.render) :: renderMembers members

end

end SqlFilter.Json

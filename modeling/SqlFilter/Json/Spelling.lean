/-
**The spelling of a JSON text.**

Reading a text goes in two steps.  The first, here, is the grammar alone: it gives a tree in which
numbers still have their digits, texts still have their code units, and a key may stand twice.  The
second step asks what the tree means; how strict it is depends on who reads.

Main definitions:

* `SqlFilter.Json.Numeral`: a number as it is spelled;
* `SqlFilter.Json.Spelling`: a text as it is spelled;
* `SqlFilter.Json.textOf?`: the text behind code units, if its surrogates are paired;
* `SqlFilter.Json.Spelling.ofChars?`: the grammar.
-/

import SqlFilter.Json.Basic
import SqlFilter.Number.Literal
import SqlFilter.Text.Hex

set_option relaxedAutoImplicit false
set_option autoImplicit false

namespace SqlFilter.Json

open SqlFilter.Number (digitsValue wholeNumber?)
open SqlFilter.Text (hexFrom?)

/-- A number as it is spelled. -/
structure Numeral where
  negative : Bool
  whole : List Char
  fraction : List Char
  exponent : Option Int
  deriving Repr

/-- A JSON text as it is spelled.  Texts are lists of code units: characters as they stand, and the
sixteen bits of each numeric escape. -/
inductive Spelling where
  | null
  | bool (value : Bool)
  | number (value : Numeral)
  | string (units : List Nat)
  | array (items : List Spelling)
  | object (members : List (List Nat × Spelling))

instance : Inhabited Spelling := ⟨.null⟩

/-! ### Texts -/

/-- The first half of a pair that denotes one character. -/
def isHighSurrogate (unit : Nat) : Bool := 0xD800 ≤ unit && unit < 0xDC00

/-- The second half of such a pair. -/
def isLowSurrogate (unit : Nat) : Bool := 0xDC00 ≤ unit && unit < 0xE000

/-- The characters behind code units, if every surrogate stands in a pair. -/
def charsOf? : List Nat → Option (List Char)
  | [] => some []
  | u :: us =>
      if isHighSurrogate u then
        match us with
        | [] => none
        | v :: rest =>
            if isLowSurrogate v then
              (charsOf? rest).map
                (Char.ofNat (0x10000 + (u - 0xD800) * 0x400 + (v - 0xDC00)) :: ·)
            else none
      else if isLowSurrogate u then none
      else (charsOf? us).map (Char.ofNat u :: ·)

/-- The text behind code units, if every surrogate stands in a pair. -/
def textOf? (units : List Nat) : Option String := (charsOf? units).map String.ofList

/-- The code unit that a letter behind a backslash stands for. -/
def escapedUnit? (c : Char) : Option Nat :=
  match c with
  | '"' => some 0x22
  | '\\' => some 0x5C
  | '/' => some 0x2F
  | 'b' => some 0x08
  | 'f' => some 0x0C
  | 'n' => some 0x0A
  | 'r' => some 0x0D
  | 't' => some 0x09
  | _ => none

/-- Takes the rest of a text behind its opening quote. -/
def takeUnits? : List Char → Option (List Nat × List Char)
  | [] => none
  | '"' :: cs => some ([], cs)
  | '\\' :: 'u' :: a :: b :: c :: d :: cs =>
      match hexFrom? 0 [a, b, c, d], takeUnits? cs with
      | some unit, some (units, rest) => some (unit :: units, rest)
      | _, _ => none
  | '\\' :: c :: cs =>
      match escapedUnit? c, takeUnits? cs with
      | some unit, some (units, rest) => some (unit :: units, rest)
      | _, _ => none
  | c :: cs =>
      if c = '\\' ∨ c.toNat < 0x20 then none
      else (takeUnits? cs).map fun (units, rest) => (c.toNat :: units, rest)

/-! ### Numbers -/

/-- Takes the whole part of a number: a zero, or digits of which the first is not zero. -/
def takeWholePart? : List Char → Option (List Char × List Char)
  | '0' :: cs => some (['0'], cs)
  | cs =>
      let digits := cs.takeWhile Char.isDigit
      if digits = [] then none else some (digits, cs.dropWhile Char.isDigit)

/-- Takes the fraction of a number, if there is one. -/
def takeFractionPart? : List Char → Option (List Char × List Char)
  | '.' :: cs =>
      let digits := cs.takeWhile Char.isDigit
      if digits = [] then none else some (digits, cs.dropWhile Char.isDigit)
  | cs => some ([], cs)

/-- Whether a character may stand in front of the digits of an exponent. -/
def isExponentSign (c : Char) : Bool := c == '+' || c == '-'

/-- Takes the exponent of a number, if there is one. -/
def takeExponentPart? : List Char → Option (Option Int × List Char)
  | [] => some (none, [])
  | c :: cs =>
      if c = 'e' ∨ c = 'E' then
        let sign := (cs.take 1).takeWhile isExponentSign
        let digits := (cs.drop sign.length).takeWhile Char.isDigit
        match wholeNumber? (sign ++ digits) with
        | some e => some (some e, (cs.drop sign.length).dropWhile Char.isDigit)
        | none => none
      else some (none, c :: cs)

/-- Takes a number. -/
def takeNumeral? (cs : List Char) : Option (Numeral × List Char) :=
  let negative := cs.head? == some '-'
  match takeWholePart? (if negative then cs.drop 1 else cs) with
  | none => none
  | some (whole, cs) =>
      match takeFractionPart? cs with
      | none => none
      | some (fraction, cs) =>
          (takeExponentPart? cs).map fun (exponent, cs) =>
            (⟨negative, whole, fraction, exponent⟩, cs)

/-! ### The grammar -/

/-- The characters that may stand between tokens. -/
def isGap (c : Char) : Bool := c == ' ' || c == '\t' || c == '\n' || c == '\r'

/-- Drops what may stand between tokens. -/
def skipGap (cs : List Char) : List Char := cs.dropWhile isGap

/-- Takes a value that is spelled by a word. -/
def takeWord? (word : String) (value : Spelling) (cs : List Char) :
    Option (Spelling × List Char) :=
  (word.toList.isPrefixOf? cs).map fun rest => (value, rest)

mutual

/-- Takes a value, past a gap. -/
def takeValue? : Nat → List Char → Option (Spelling × List Char)
  | 0, _ => none
  | fuel + 1, cs =>
      match skipGap cs with
      | [] => none
      | '"' :: rest => (takeUnits? rest).map fun (units, rest) => (.string units, rest)
      | '[' :: rest =>
          match skipGap rest with
          | ']' :: rest => some (.array [], rest)
          | rest => (takeItems? fuel rest).map fun (items, rest) => (.array items, rest)
      | '{' :: rest =>
          match skipGap rest with
          | '}' :: rest => some (.object [], rest)
          | rest => (takeMembers? fuel rest).map fun (members, rest) => (.object members, rest)
      | 'n' :: rest => takeWord? "ull" .null rest
      | 't' :: rest => takeWord? "rue" (.bool true) rest
      | 'f' :: rest => takeWord? "alse" (.bool false) rest
      | cs => (takeNumeral? cs).map fun (n, rest) => (.number n, rest)

/-- Takes the items of a list, at least one, and its closing bracket. -/
def takeItems? : Nat → List Char → Option (List Spelling × List Char)
  | 0, _ => none
  | fuel + 1, cs =>
      match takeValue? fuel cs with
      | none => none
      | some (item, rest) =>
          match skipGap rest with
          | ']' :: rest => some ([item], rest)
          | ',' :: rest => (takeItems? fuel rest).map fun (items, rest) => (item :: items, rest)
          | _ => none

/-- Takes the members of an object, at least one, and its closing brace. -/
def takeMembers? : Nat → List Char → Option (List (List Nat × Spelling) × List Char)
  | 0, _ => none
  | fuel + 1, cs =>
      match skipGap cs with
      | '"' :: rest =>
          match takeUnits? rest with
          | none => none
          | some (key, rest) =>
              match skipGap rest with
              | ':' :: rest =>
                  match takeValue? fuel rest with
                  | none => none
                  | some (value, rest) =>
                      match skipGap rest with
                      | '}' :: rest => some ([(key, value)], rest)
                      | ',' :: rest =>
                          (takeMembers? fuel rest).map fun (members, rest) =>
                            ((key, value) :: members, rest)
                      | _ => none
              | _ => none
      | _ => none

end

/-- The spelling of a whole text.  Each step of the grammar passes at least one character after at
most one other step, so twice the length is enough. -/
def Spelling.ofChars? (cs : List Char) : Option Spelling :=
  match takeValue? (2 * cs.length + 2) cs with
  | some (value, rest) => if skipGap rest = [] then some value else none
  | none => none

end SqlFilter.Json

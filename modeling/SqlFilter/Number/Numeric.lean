/-
**Exact decimal numbers.**

A numeric value is a sign and a whole coefficient with a number of decimal places.  The coefficient
has at most 96 bits and there are at most 28 places; places are kept, so `1.50` is not written
`1.5`.  Digits of a fraction that do not fit are rounded at the first of them, a five going away
from zero.  A whole part that does not fit is refused.

An exponent moves the point.  Where that takes digits past the last place they are dropped and the
number is rounded once more, at the last digit dropped.  A number whose digits are all dropped keeps
its sign; digits that are zero to begin with have none.

Main definitions:

* `SqlFilter.Number.Numeric`: a sign and a coefficient with its places;
* `SqlFilter.Number.Numeric.ofChars?`: reading one;
* `SqlFilter.Number.Numeric.render`: writing one.
-/

import SqlFilter.Number.Literal

set_option relaxedAutoImplicit false
set_option autoImplicit false

namespace SqlFilter.Number

/-- Coefficients stay below this bound, the 96th power of two. -/
def Numeric.limit : Nat := 79228162514264337593543950336

/-- The most decimal places that are kept. -/
def Numeric.mostPlaces : Nat := 28

/-- The number `± coefficient / 10 ^ places`. -/
structure Numeric where
  negative : Bool
  coefficient : Nat
  places : Nat
  coefficient_lt : coefficient < Numeric.limit
  places_le : places ≤ Numeric.mostPlaces
  deriving Repr, DecidableEq

namespace Numeric

/-- The number of a sign, a coefficient and places, if they fit. -/
def ofParts? (negative : Bool) (coefficient places : Nat) : Option Numeric :=
  if h : coefficient < limit ∧ places ≤ mostPlaces then
    some ⟨negative, coefficient, places, h.1, h.2⟩
  else none

/-! ### Reading -/

/-- An unsigned literal while it is read. -/
structure Magnitude where
  coefficient : Nat
  places : Nat

/-- The value of one decimal digit. -/
def digitValue (c : Char) : Nat := c.toNat - '0'.toNat

/-- Reads whole digits behind a coefficient; an underscore between digits means nothing. -/
def takeWhole? (coefficient : Nat) : List Char → Option (Nat × List Char)
  | [] => some (coefficient, [])
  | c :: cs =>
      if c.isDigit then
        let next := 10 * coefficient + digitValue c
        if next < limit then takeWhole? next cs else none
      else if c = '_' then takeWhole? coefficient cs
      else some (coefficient, c :: cs)

/-- Rounds at the first digit that does not fit.  A coefficient that grows out of its bits gives up
a place, if it has one. -/
def roundAt (m : Magnitude) (c : Char) : Option Magnitude :=
  if digitValue c < 5 then some m
  else if m.coefficient + 1 < limit then some ⟨m.coefficient + 1, m.places⟩
  else if m.places = 0 then none
  else some ⟨(m.coefficient + 1 + 4) / 10, m.places - 1⟩

/-- Reads the digits of a fraction, to the end of the text or to the first that does not fit, which
rounds; what stands behind that one is not looked at.  When all places are taken an underscore or a
point ends the digits too. -/
def readFraction? (m : Magnitude) : List Char → Option Magnitude
  | [] => some m
  | c :: cs =>
      if c.isDigit then
        let next := 10 * m.coefficient + digitValue c
        if m.places < mostPlaces ∧ next < limit then readFraction? ⟨next, m.places + 1⟩ cs
        else roundAt m c
      else if c = '_' then if m.places < mostPlaces then readFraction? m cs else some m
      else if c = '.' ∧ mostPlaces ≤ m.places then some m
      else none

/-- Reads digits around an optional point; the first character behind the sign and the point is a
digit. -/
def readMagnitude? : List Char → Option Magnitude
  | '.' :: c :: cs => if c.isDigit then readFraction? ⟨0, 0⟩ (c :: cs) else none
  | c :: cs =>
      if c.isDigit then
        match takeWhole? 0 (c :: cs) with
        | some (n, []) => some ⟨n, 0⟩
        | some (n, '.' :: rest) => readFraction? ⟨n, 0⟩ rest
        | _ => none
      else none
  | [] => none

/-- Whether a character stands in front of an exponent. -/
def isExponentMark (c : Char) : Bool := c == 'e' || c == 'E'

/-- What stands behind a plus, or all of it when there is none. -/
def behindPlus : List Char → List Char
  | '+' :: cs => cs
  | cs => cs

/-- The power of ten behind an exponent mark: a minus or nothing, a plus or nothing, and digits.
Without a mark it is zero. -/
def exponentOfChars? : List Char → Option Int
  | [] => some 0
  | _ :: '-' :: cs => (unsignedNumber? (behindPlus cs)).map fun n => -(n : Int)
  | _ :: cs => (unsignedNumber? (behindPlus cs)).map fun n => (n : Int)

/-- Drops the last `n` digits and rounds at the last one dropped, a five going up. -/
def dropDigits (coefficient : Nat) : Nat → Nat
  | 0 => coefficient
  | n + 1 => (coefficient / tenPow n + 5) / 10

/-- Moves the point to the left.  Digits behind the last place are dropped. -/
def Magnitude.lowered? (m : Magnitude) (shift : Nat) : Option Magnitude :=
  if mostPlaces < shift then none
  else if m.places + shift ≤ mostPlaces then some ⟨m.coefficient, m.places + shift⟩
  else some ⟨dropDigits m.coefficient (m.places + shift - mostPlaces), mostPlaces⟩

/-- Moves the point to the right.  Places are taken away, and behind the last of them the number
grows. -/
def Magnitude.raised? (m : Magnitude) (shift : Nat) : Option Magnitude :=
  if shift ≤ m.places then some ⟨m.coefficient, m.places - shift⟩
  else if mostPlaces < shift then none
  else
    let grown := m.coefficient * tenPow (shift - m.places)
    if grown < limit then some ⟨grown, 0⟩ else none

/-- Moves the point by a power of ten. -/
def Magnitude.scaled? (m : Magnitude) (exponent : Int) : Option Magnitude :=
  if exponent < 0 then m.lowered? exponent.natAbs else m.raised? exponent.natAbs

/-- Reads a numeric literal: an optional sign, digits with an optional point, an optional
exponent. -/
def ofChars? (cs : List Char) : Option Numeric :=
  let (negative, body) := takeSign cs
  match readMagnitude? (body.takeWhile fun c => !isExponentMark c),
    exponentOfChars? (body.dropWhile fun c => !isExponentMark c) with
  | some m, some e =>
      match m.scaled? e with
      | some r => ofParts? (negative && m.coefficient != 0) r.coefficient r.places
      | none => none
  | _, _ => none

/-! ### Writing -/

/-- The digits of a number, at least `n` of them. -/
def paddedDigits (n value : Nat) : List Char :=
  let digits := Nat.toDigits 10 value
  List.replicate (n - digits.length) '0' ++ digits

/-- Writes the number with all its places. -/
def render (x : Numeric) : String :=
  let digits := paddedDigits (x.places + 1) x.coefficient
  let whole := digits.take (digits.length - x.places)
  let fraction := digits.drop (digits.length - x.places)
  (if x.negative then "-" else "") ++ String.ofList whole ++
    if x.places = 0 then "" else "." ++ String.ofList fraction

end Numeric

end SqlFilter.Number

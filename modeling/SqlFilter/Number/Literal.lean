/-
**Decimal literals of numbers.**

The spellings of numbers that the server prints and the reader of a numeric text accepts: an
optional sign, digits with an optional point, an optional exponent, or one of the words for
infinity and not-a-number in any letter case.  The value is rounded once, from the exact decimal
fraction, to the format asked for.

Main definitions:

* `SqlFilter.Number.Decimal`: a sign, a whole coefficient and a power of ten;
* `SqlFilter.Number.Literal`: what a literal spells;
* `SqlFilter.Number.Literal.ofChars?`: reading one;
* `SqlFilter.Number.Literal.toBinary64`, `SqlFilter.Number.Literal.toBinary32`: its value;
* `SqlFilter.Number.wholeNumber?`: a whole number with an optional sign.
-/

import SqlFilter.Number.Floating
import SqlFilter.Text.Pieces

set_option relaxedAutoImplicit false
set_option autoImplicit false

namespace SqlFilter.Number

open SqlFilter.Text (asciiLower)

/-! ### Digits -/

/-- The number that a run of decimal digits denotes. -/
def digitsValue (cs : List Char) : Nat := Nat.ofDigitChars 10 cs 0

/-- Takes an optional sign off the front: whether it is a minus, and the rest. -/
def takeSign : List Char → Bool × List Char
  | '-' :: cs => (true, cs)
  | '+' :: cs => (false, cs)
  | cs => (false, cs)

/-- A number without a sign: at least one digit, and nothing else. -/
def unsignedNumber? (cs : List Char) : Option Nat :=
  if cs = [] || !cs.all Char.isDigit then none else some (digitsValue cs)

/-- A whole number: an optional sign and at least one digit, and nothing else. -/
def wholeNumber? (cs : List Char) : Option Int :=
  let (negative, digits) := takeSign cs
  (unsignedNumber? digits).map fun n => if negative then -(n : Int) else n

/-! ### Decimal fractions -/

/-- The number `± coefficient * 10 ^ exponent`. -/
structure Decimal where
  negative : Bool
  coefficient : Nat
  exponent : Int
  deriving Repr, DecidableEq

namespace Decimal

/-- Fractions at least this many powers of ten away from one are out of reach of both formats. -/
def reach : Nat := 400

/-- How a decimal fraction stands to the range in which rounding has to be computed. -/
inductive Size where
  | negligible
  | ordinary (numerator denominator : Nat)
  | beyond

/-- The fraction as a quotient, unless its size alone settles the rounding. -/
def size (x : Decimal) : Size :=
  if x.coefficient = 0 then .negligible
  else
    let magnitude := x.exponent + (Nat.toDigits 10 x.coefficient).length
    if (reach : Int) < magnitude then .beyond
    else if magnitude < -(reach : Int) then .negligible
    else if 0 ≤ x.exponent then .ordinary (x.coefficient * tenPow x.exponent.toNat) 1
    else .ordinary x.coefficient (tenPow (-x.exponent).toNat)

/-- The double-precision number nearest to the fraction. -/
def toBinary64 (x : Decimal) : Binary64 :=
  match x.size with
  | .negligible => .zero x.negative
  | .ordinary a d => .nearest x.negative a d
  | .beyond => .infinity x.negative

/-- The single-precision number nearest to the fraction. -/
def toBinary32 (x : Decimal) : Binary32 :=
  match x.size with
  | .negligible => .zero x.negative
  | .ordinary a d => .nearest x.negative a d
  | .beyond => .infinity x.negative

end Decimal

/-! ### Literals -/

/-- What a literal spells. -/
inductive Literal where
  | nan
  | infinite (negative : Bool)
  | decimal (value : Decimal)
  deriving Repr, DecidableEq

namespace Literal

/-- Reads an exponent behind its letter. -/
def exponentOfChars? (cs : List Char) : Option Int :=
  match cs with
  | [] => some 0
  | c :: cs => if c = 'e' ∨ c = 'E' then wholeNumber? cs else none

/-- Reads an unsigned decimal literal: digits around an optional point, at least one of them, and
an optional exponent. -/
def decimalOfChars? (negative : Bool) (cs : List Char) : Option Decimal :=
  let whole := cs.takeWhile Char.isDigit
  let afterWhole := cs.dropWhile Char.isDigit
  let (fraction, rest) :=
    match afterWhole with
    | '.' :: ds => (ds.takeWhile Char.isDigit, ds.dropWhile Char.isDigit)
    | ds => ([], ds)
  if whole = [] ∧ fraction = [] then none
  else
    (exponentOfChars? rest).map fun e =>
      ⟨negative, digitsValue (whole ++ fraction), e - fraction.length⟩

/-- Reads a literal: one of the three words in any letter case, or a decimal fraction. -/
def ofChars? (cs : List Char) : Option Literal :=
  let (negative, body) := takeSign cs
  let word := String.ofList (asciiLower body)
  if word = "nan" then some .nan
  else if word = "inf" ∨ word = "infinity" then some (.infinite negative)
  else (decimalOfChars? negative body).map .decimal

/-- The value of a literal in double precision. -/
def toBinary64 : Literal → Binary64
  | .nan => .nan
  | .infinite negative => .infinity negative
  | .decimal x => x.toBinary64

/-- The value of a literal in single precision. -/
def toBinary32 : Literal → Binary32
  | .nan => .nan
  | .infinite negative => .infinity negative
  | .decimal x => x.toBinary32

end Literal

end SqlFilter.Number

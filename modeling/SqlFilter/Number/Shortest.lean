/-
**The shortest decimal of a double-precision number.**

A finite number is printed with the fewest decimal digits that still read back as that number; of
two such decimals the nearer one is taken, and of two equally near ones the one with an even last
digit.

The decimals with `n` significant digits form a grid.  If a point of a grid reads back as the
number, then so does one of the number's two neighbours on that grid, so for each number of digits
only these two are tested, in exact arithmetic on natural numbers.

Main definitions:

* `SqlFilter.Number.Interval`: the fractions that read back as a number, with the number itself;
* `SqlFilter.Number.candidates`: the two neighbours on a grid that read back;
* `SqlFilter.Number.shortest`: the shortest decimal;
* `SqlFilter.Number.Binary64.render?`: the printed number.
-/

import SqlFilter.Number.Literal

set_option relaxedAutoImplicit false
set_option autoImplicit false

namespace SqlFilter.Number

/-! ### The interval of a number -/

/-- The fractions that round to one positive number, as numerators over one denominator. -/
structure Interval where
  low : Nat
  value : Nat
  high : Nat
  denominator : Nat
  endsIncluded : Bool

/-- The interval of `m * 2 ^ e` units.  Below the least significand of an exponent the neighbours
are half as far away; a tie goes to the even significand, so the ends belong to an even one. -/
def intervalOf (m e : Nat) : Interval :=
  let down := if m = twoPow Format.double.fractionBits ∧ e ≠ 0 then 1 else 2
  { low := (4 * m - down) * twoPow e
    value := 4 * m * twoPow e
    high := (4 * m + 2) * twoPow e
    denominator := 4 * twoPow Format.double.unitBits
    endsIncluded := m % 2 == 0 }

/-- The exponent of ten of the first significant digit of `a / d`. -/
def leadingExponent (a d : Nat) : Int :=
  if d ≤ a then ((Nat.toDigits 10 (a / d)).length : Int) - 1
  else -((Nat.toDigits 10 ((d + a - 1) / a - 1)).length : Int)

/-! ### The grids -/

/-- The interval with its fractions counted in steps of `10 ^ grid`. -/
def Interval.onGrid (i : Interval) (grid : Int) : Interval :=
  if 0 ≤ grid then { i with denominator := i.denominator * tenPow grid.toNat }
  else
    let k := tenPow (-grid).toNat
    { i with low := i.low * k, value := i.value * k, high := i.high * k }

/-- Whether `n` steps lie in the interval. -/
def Interval.holds (i : Interval) (n : Nat) : Bool :=
  let x := n * i.denominator
  if i.endsIncluded then i.low ≤ x && x ≤ i.high else i.low < x && x < i.high

/-- The neighbours of the number on the grid that lie in the interval, the better one first. -/
def candidates (i : Interval) : List Nat :=
  let below := i.value / i.denominator
  let twice := 2 * (i.value % i.denominator)
  let belowFirst := twice < i.denominator || (twice == i.denominator && below % 2 == 0)
  let ordered := if belowFirst then [below, below + 1] else [below + 1, below]
  ordered.filter i.holds

/-- Moves the zeros at the end of a coefficient into the exponent. -/
def stripZeros : Nat → Nat → Int → Nat × Int
  | 0, c, e => (c, e)
  | fuel + 1, c, e => if c % 10 = 0 ∧ c ≠ 0 then stripZeros fuel (c / 10) (e + 1) else (c, e)

/-- The shortest decimal of a positive number of `m * 2 ^ e` units: its coefficient and its power of
ten.  Seventeen digits always suffice. -/
def shortest (m e : Nat) : Nat × Int :=
  let i := intervalOf m e
  let lead := leadingExponent i.value i.denominator
  let found := (List.range 17).findSome? fun (k : Nat) =>
    let grid : Int := lead - (k : Int)
    (candidates (i.onGrid grid)).head?.map fun c => (c, grid)
  match found with
  | some (c, grid) => stripZeros 17 c grid
  | none => (0, 0)

/-! ### Printing -/

/-- Where a printed number changes to exponent notation: a first digit below this power of ten. -/
def leastPlainExponent : Int := -5

/-- Where a printed number changes to exponent notation: a first digit from this power of ten on. -/
def leastLargeExponent : Int := 16

/-- A run of zeros. -/
def zeros (n : Nat) : String := String.ofList (List.replicate n '0')

/-- Prints `c * 10 ^ e`.  Numbers from 0.00001 up to below 10 to the 16th are written plainly and
always with a point; the others with an exponent, whose sign is always written. -/
def renderDecimal (c : Nat) (e : Int) : String :=
  let digits := Nat.toDigits 10 c
  let lead := e + digits.length - 1
  if leastPlainExponent ≤ lead ∧ lead < leastLargeExponent then
    if 0 ≤ e then String.ofList digits ++ zeros e.toNat ++ ".0"
    else if 0 ≤ lead then
      String.ofList (digits.take (lead.toNat + 1)) ++ "." ++
        String.ofList (digits.drop (lead.toNat + 1))
    else "0." ++ zeros ((-lead).toNat - 1) ++ String.ofList digits
  else
    let mantissa :=
      match digits with
      | [] => ""
      | [d] => String.ofList [d]
      | d :: ds => String.ofList [d] ++ "." ++ String.ofList ds
    mantissa ++ "e" ++ (if lead < 0 then "-" else "+") ++ toString lead.natAbs

/-- The printed form of a finite number; the other numbers have none. -/
def Binary64.render? (x : Binary64) : Option String :=
  match x.read with
  | .finite negative m e =>
      let magnitude := if m = 0 then "0.0" else let (c, k) := shortest m e; renderDecimal c k
      some ((if negative then "-" else "") ++ magnitude)
  | _ => none

end SqlFilter.Number

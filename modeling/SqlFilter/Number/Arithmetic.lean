/-
**Arithmetic on double-precision numbers.**

Products and quotients are exact fractions that are rounded once.  A power is taken by repeated
squaring, so it rounds once for each step.

Main definitions:

* `SqlFilter.Number.Binary64.mul`, `SqlFilter.Number.Binary64.div`: the rounded product and
  quotient;
* `SqlFilter.Number.Binary64.negate`: the number with the other sign;
* `SqlFilter.Number.Binary64.power`, `SqlFilter.Number.Binary64.integerPower`: a power with a
  natural and with a whole exponent;
* `SqlFilter.Number.Binary64.powerOfTen`: the number nearest to a power of ten;
* `SqlFilter.Number.Binary64.toUInt64`: the whole number towards zero, held within 64 bits.
-/

import SqlFilter.Number.Floating

set_option relaxedAutoImplicit false
set_option autoImplicit false

namespace SqlFilter.Number.Binary64

/-- One. -/
def one : Binary64 := nearest false 1 1

/-- The rounded product. -/
def mul (x y : Binary64) : Binary64 :=
  match x.read, y.read with
  | .nan, _ | _, .nan => nan
  | .infinite s, .infinite t => infinity (s != t)
  | .infinite s, .finite t m _ | .finite s m _, .infinite t =>
      if m = 0 then nan else infinity (s != t)
  | .finite s m e, .finite t n f =>
      nearest (s != t) (m * n * twoPow (e + f)) (twoPow (2 * Format.double.unitBits))

/-- The rounded quotient. -/
def div (x y : Binary64) : Binary64 :=
  match x.read, y.read with
  | .finite s m e, .finite t n f =>
      if n = 0 then (if m = 0 then nan else infinity (s != t))
      else nearest (s != t) (m * twoPow e) (n * twoPow f)
  | .nan, _ | _, .nan | .infinite _, .infinite _ => nan
  | .infinite s, .finite t _ _ => infinity (s != t)
  | .finite s _ _, .infinite t => zero (s != t)

/-- The number with the other sign. -/
def negate (x : Binary64) : Binary64 := ⟨x.bits ^^^ 0x8000000000000000⟩

/-- Whether the number is zero, of either sign. -/
def isZero (x : Binary64) : Bool :=
  match x.read with
  | .finite _ m _ => m == 0
  | _ => false

/-- The number nearest to a power of ten. -/
def powerOfTen (exponent : Nat) : Binary64 := nearest false (tenPow exponent) 1

/-- Continues a power by repeated squaring: `base` is the square that belongs to the lowest bit of
the exponent.  The fuel is the number of bits. -/
def powerFrom : Nat → Binary64 → Binary64 → Nat → Binary64
  | 0, result, _, _ => result
  | fuel + 1, result, base, exponent =>
      let result := if exponent % 2 = 1 then result.mul base else result
      if exponent / 2 = 0 then result else powerFrom fuel result (base.mul base) (exponent / 2)

/-- A power; the power with exponent zero is one, also of a not-a-number. -/
def power (x : Binary64) (exponent : Nat) : Binary64 :=
  powerFrom (exponent.log2 + 1) one x exponent

/-- A power whose exponent may be negative; then it is the quotient of one by the power. -/
def integerPower (x : Binary64) (exponent : Int) : Binary64 :=
  if exponent < 0 then one.div (x.power exponent.natAbs) else x.power exponent.natAbs

/-- The largest number of 64 bits. -/
def greatestUInt64 : Nat := 18446744073709551615

/-- The whole number towards zero, held between zero and the largest number of 64 bits; a
not-a-number gives zero. -/
def toUInt64 (x : Binary64) : Nat :=
  match x.read with
  | .nan => 0
  | .infinite negative => if negative then 0 else greatestUInt64
  | .finite negative m e =>
      if negative then 0 else min (m * twoPow e / twoPow Format.double.unitBits) greatestUInt64

end SqlFilter.Number.Binary64

/-
**Binary floating-point numbers.**

The two interchange formats of the server: double precision and single precision.  A number is its
word of bits; what the word denotes and which word is nearest to a fraction are computed exactly on
natural numbers, so no arithmetic of the machine is trusted.

A finite number is a whole number of *units*, the unit being the least positive number of the
format.  Rounding picks the exponent from the size of the fraction in units, rounds the significand
to nearest with ties to even, and packs both by one addition: a significand that rounds up to the
next power of two carries into the exponent by itself.

Main definitions:

* `SqlFilter.Number.Format`: the two formats;
* `SqlFilter.Number.Reading`: what a word denotes;
* `SqlFilter.Number.Format.nearestWord`: the word nearest to a fraction;
* `SqlFilter.Number.Binary64`, `SqlFilter.Number.Binary32`: words of the two formats;
* `SqlFilter.Number.Binary32.widen`: single precision read as double precision, exactly;
* `SqlFilter.Number.Binary64.truncate?`: the whole number towards zero;
* `SqlFilter.Number.Binary64.exceeds`: comparison of the magnitude with a whole number.

Main results:

* `SqlFilter.Number.roundHalfEven_mul`: a whole quotient is its own rounding.
-/

import SqlFilter.Number.Power

set_option relaxedAutoImplicit false
set_option autoImplicit false

namespace SqlFilter.Number

/-! ### Rounding a quotient -/

/-- The whole number nearest to `a / d`, a tie going to the even one. -/
def roundHalfEven (a d : Nat) : Nat :=
  let q := a / d
  let r := a % d
  if 2 * r < d then q else if d < 2 * r then q + 1 else q + q % 2

/-- A whole quotient is its own rounding. -/
theorem roundHalfEven_mul (n : Nat) {d : Nat} (h : 0 < d) : roundHalfEven (n * d) d = n := by
  simp [roundHalfEven, Nat.mul_div_cancel _ h, h]

/-! ### Formats -/

/-- A binary format: how many bits of a word hold the fraction and how many the exponent. -/
structure Format where
  fractionBits : Nat
  exponentBits : Nat

/-- What a word denotes.  A finite number is `significand * 2 ^ exponent` units. -/
inductive Reading where
  | nan
  | infinite (negative : Bool)
  | finite (negative : Bool) (significand exponent : Nat)
  deriving Repr, DecidableEq

namespace Format

/-- Double precision: 52 bits of fraction, 11 of exponent. -/
def double : Format := ⟨52, 11⟩

/-- Single precision: 23 bits of fraction, 8 of exponent. -/
def single : Format := ⟨23, 8⟩

/-- One is `2 ^ unitBits` units: 1074 for double precision, 149 for single. -/
def unitBits (f : Format) : Nat := twoPow (f.exponentBits - 1) - 2 + f.fractionBits

/-- The word of positive infinity, which is above the words of all finite positive numbers. -/
def infinityWord (f : Format) : Nat := (twoPow f.exponentBits - 1) * twoPow f.fractionBits

/-- The part of a word that stands for the minus sign. -/
def signWord (f : Format) (negative : Bool) : Nat :=
  if negative then twoPow (f.fractionBits + f.exponentBits) else 0

/-- What a word denotes. -/
def read (f : Format) (word : Nat) : Reading :=
  let negative := word / twoPow (f.fractionBits + f.exponentBits) % 2 == 1
  let exponent := word / twoPow f.fractionBits % twoPow f.exponentBits
  let fraction := word % twoPow f.fractionBits
  if exponent = twoPow f.exponentBits - 1 then
    if fraction = 0 then .infinite negative else .nan
  else if exponent = 0 then .finite negative fraction 0
  else .finite negative (twoPow f.fractionBits + fraction) (exponent - 1)

/-- The exponent at which a quotient of `units` whole units fills the significand. -/
def exponentFor (f : Format) (units : Nat) : Nat := units.log2 - f.fractionBits

/-- The word of the positive number nearest to `a / d`; beyond the largest finite number it is
infinity. -/
def nearestWord (f : Format) (a d : Nat) : Nat :=
  let units := a * twoPow f.unitBits
  let e := f.exponentFor (units / d)
  min (e * twoPow f.fractionBits + roundHalfEven units (d * twoPow e)) f.infinityWord

end Format

/-! ### Words -/

/-- A double-precision number, as its 64 bits. -/
structure Binary64 where
  bits : UInt64
  deriving Repr, DecidableEq

/-- A single-precision number, as its 32 bits. -/
structure Binary32 where
  bits : UInt32
  deriving Repr, DecidableEq

namespace Binary64

/-- What the number denotes. -/
def read (x : Binary64) : Reading := Format.double.read x.bits.toNat

/-- The number nearest to `a / d`, with a sign. -/
def nearest (negative : Bool) (a d : Nat) : Binary64 :=
  ⟨UInt64.ofNat (Format.double.signWord negative + Format.double.nearestWord a d)⟩

/-- Infinity, with a sign. -/
def infinity (negative : Bool) : Binary64 :=
  ⟨UInt64.ofNat (Format.double.signWord negative + Format.double.infinityWord)⟩

/-- The quiet not-a-number. -/
def nan : Binary64 := ⟨0x7FF8000000000000⟩

/-- Zero, with a sign. -/
def zero (negative : Bool) : Binary64 := ⟨UInt64.ofNat (Format.double.signWord negative)⟩

/-- The number nearest to a whole number. -/
def ofInt (n : Int) : Binary64 := nearest (n < 0) n.natAbs 1

/-- Whether the number is neither infinite nor a not-a-number. -/
def isFinite (x : Binary64) : Bool :=
  match x.read with
  | .finite _ _ _ => true
  | _ => false

/-- Whether the number is a not-a-number. -/
def isNaN (x : Binary64) : Bool := x.read == .nan

/-- The whole number next towards zero; `none` for infinities and not-a-numbers. -/
def truncate? (x : Binary64) : Option Int :=
  match x.read with
  | .finite negative m e =>
      let whole := m * twoPow e / twoPow Format.double.unitBits
      some (if negative then -(whole : Int) else whole)
  | _ => none

/-- Whether the magnitude is greater than `n`; a not-a-number exceeds nothing. -/
def exceeds (x : Binary64) (n : Nat) : Bool :=
  match x.read with
  | .nan => false
  | .infinite _ => true
  | .finite _ m e => n * twoPow Format.double.unitBits < m * twoPow e

end Binary64

namespace Binary32

/-- What the number denotes. -/
def read (x : Binary32) : Reading := Format.single.read x.bits.toNat

/-- The number nearest to `a / d`, with a sign. -/
def nearest (negative : Bool) (a d : Nat) : Binary32 :=
  ⟨UInt32.ofNat (Format.single.signWord negative + Format.single.nearestWord a d)⟩

/-- Infinity, with a sign. -/
def infinity (negative : Bool) : Binary32 :=
  ⟨UInt32.ofNat (Format.single.signWord negative + Format.single.infinityWord)⟩

/-- The quiet not-a-number. -/
def nan : Binary32 := ⟨0x7FC00000⟩

/-- Zero, with a sign. -/
def zero (negative : Bool) : Binary32 := ⟨UInt32.ofNat (Format.single.signWord negative)⟩

/-- Whether the number is a not-a-number. -/
def isNaN (x : Binary32) : Bool := x.read == .nan

/-- The same number in double precision; every single-precision number has one. -/
def widen (x : Binary32) : Binary64 :=
  match x.read with
  | .nan => .nan
  | .infinite negative => .infinity negative
  | .finite negative m e =>
      if m = 0 then .zero negative
      else .nearest negative (m * twoPow e) (twoPow Format.single.unitBits)

end Binary32

end SqlFilter.Number

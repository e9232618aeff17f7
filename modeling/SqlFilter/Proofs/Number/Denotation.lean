/-
**Words as rational numbers.**

A finite word denotes a rational number.  A number of single precision has few bits, and the
exponents of double precision reach beyond its own, so that it is the same number in double
precision.  The whole number next towards zero is computed from the significand and the exponent;
it is the rational number without its fraction.

Main definitions:

* `SqlFilter.Number.Binary32.toRat?`: the rational number that a finite word denotes;
* `SqlFilter.Number.truncated`: a number without its fraction.

Main results:

* `SqlFilter.Number.Format.bounds_of_read`: how large significands and exponents are;
* `SqlFilter.Number.Binary32.toRat?_widen`: **widening is exact**;
* `SqlFilter.Number.Binary64.truncate?_eq`: **what truncation gives**.
-/

import Mathlib.Data.Rat.Floor
import SqlFilter.Proofs.Number.NearestWord

set_option relaxedAutoImplicit false
set_option autoImplicit false

namespace SqlFilter.Number

/-! ### Words that are read -/

/-- The significand has one more bit than the fraction, and the exponent those of its field. -/
theorem Format.bounds_of_read {f : Format} {word : Nat} {negative : Bool} {m e : Nat}
    (h : f.read word = .finite negative m e) :
    m < twoPow (f.fractionBits + 1) ∧ e < twoPow f.exponentBits := by
  have hfraction : word % twoPow f.fractionBits < twoPow f.fractionBits :=
    Nat.mod_lt _ (twoPow_pos _)
  have hexponent : word / twoPow f.fractionBits % twoPow f.exponentBits < twoPow f.exponentBits :=
    Nat.mod_lt _ (twoPow_pos _)
  simp only [read] at h
  split at h
  · split at h <;> cases h
  · rw [twoPow_succ]
    split at h
    · cases h
      exact ⟨by omega, twoPow_pos _⟩
    · cases h
      exact ⟨by omega, by omega⟩

namespace Binary64

theorem toRat?_eq_none {x : Binary64} (h : ∀ negative m e, x.read ≠ .finite negative m e) :
    x.toRat? = none := by
  rw [toRat?]
  split
  · next hread => exact absurd hread (h _ _ _)
  · rfl

/-- A word denotes a quotient if it holds as many units. -/
theorem toRat?_of_quotient {x : Binary64} {negative : Bool} {m e a d : Nat}
    (hread : x.read = .finite negative m e) (hd : d ≠ 0)
    (hunits : m * twoPow e * d = a * twoPow Format.double.unitBits) :
    x.toRat? = some (if negative then -((a : Rat) / d) else (a : Rat) / d) := by
  have hunit : twoPow Format.double.unitBits ≠ 0 := Nat.ne_of_gt (twoPow_pos _)
  rw [toRat?, hread]
  -- the unit is a number of some hundred digits, which nothing is to compute
  generalize twoPow Format.double.unitBits = unit at hunits hunit ⊢
  have hquotient : ((m * twoPow e : Nat) : Rat) / (unit : Nat) = (a : Rat) / d := by
    rw [div_eq_div_iff (Nat.cast_ne_zero.2 hunit) (Nat.cast_ne_zero.2 hd)]
    exact_mod_cast hunits
  simp only [hquotient]

theorem toRat?_nan : nan.toRat? = none := by
  have hread : nan.read = .nan := by decide
  exact toRat?_eq_none fun _ _ _ h => nomatch hread.symm.trans h

theorem toRat?_infinity (negative : Bool) : (infinity negative).toRat? = none :=
  toRat?_eq_none fun _ _ _ h => nomatch (read_infinity negative).symm.trans h

theorem nearest_zero (negative : Bool) (d : Nat) : nearest negative 0 d = zero negative := by
  have hword : Format.double.nearestWord 0 d = 0 := by
    simp [Format.nearestWord, Format.exponentFor, roundHalfEven]
  rw [nearest, zero, hword, Nat.add_zero]

end Binary64

/-! ### Widening -/

namespace Binary32

/-- The rational number that a finite word denotes. -/
def toRat? (x : Binary32) : Option Rat :=
  match x.read with
  | .finite negative m e =>
      let magnitude : Rat := (m * twoPow e : Nat) / (twoPow Format.single.unitBits : Nat)
      some (if negative then -magnitude else magnitude)
  | _ => none

/-- The units of the two formats are `2 ^ 925` apart. -/
theorem unitBits_add (e : Nat) :
    e + 925 + Format.single.unitBits = e + Format.double.unitBits := by
  have hsingle : Format.single.unitBits = 149 := by decide
  have hdouble : Format.double.unitBits = 1074 := by decide
  omega

/-- A finite number of single precision has a word of double precision, in the units of that. -/
theorem read_widen {x : Binary32} {negative : Bool} {m e : Nat}
    (hread : x.read = .finite negative m e) :
    ∃ m' e', x.widen.read = .finite negative m' e' ∧ m' * twoPow e' = m * twoPow (e + 925) := by
  have hwiden : x.widen = .nearest negative (m * twoPow e) (twoPow Format.single.unitBits) := by
    simp only [widen, hread]
    split
    · next hzero =>
        rw [hzero, Nat.zero_mul]
        exact (Binary64.nearest_zero negative _).symm
    · rfl
  obtain ⟨hm, he⟩ := Format.bounds_of_read hread
  have hbits : m < twoPow (Format.double.fractionBits + 1) :=
    Nat.lt_of_lt_of_le hm (Nat.pow_le_pow_right (by decide) (by decide))
  have hd : 0 < twoPow Format.single.unitBits := twoPow_pos _
  have hunits : m * twoPow e * twoPow Format.double.unitBits =
      m * twoPow (e + 925) * twoPow Format.single.unitBits := by
    rw [Nat.mul_assoc, Nat.mul_assoc, ← twoPow_add, ← twoPow_add, unitBits_add]
  obtain ⟨hexponent, hexact⟩ := Format.double.nearestSignificand_exact hd hbits hunits
  have hle := (Format.double.nearestSignificand_mem (m * twoPow e) hd).1
  rw [hwiden, Binary64.read_nearest]
  rcases Format.double.read_nearestWord (m * twoPow e) negative hd with
    ⟨hlarge, -⟩ | ⟨m', e', hword, hm'⟩
  · -- the exponents of single precision do not reach the word of infinity
    have hpower : Format.double.nearestExponent (m * twoPow e) (twoPow Format.single.unitBits) *
        twoPow Format.double.fractionBits ≤ 1181 * twoPow Format.double.fractionBits := by
      have htop : twoPow Format.single.exponentBits = 256 := rfl
      exact Nat.mul_le_mul_right _ (by omega)
    have hbound : 1181 * twoPow Format.double.fractionBits +
        2 * twoPow Format.double.fractionBits < Format.double.infinityWord := by decide
    omega
  · exact ⟨m', e', hword, hm'.trans hexact⟩

/-- **Widening is exact**: a number of single precision is the same number in double precision, and
what is no number stays none. -/
theorem toRat?_widen (x : Binary32) : x.widen.toRat? = x.toRat? := by
  cases hread : x.read with
  | nan =>
      have hnarrow : x.toRat? = none := by simp only [toRat?, hread]
      have hwide : x.widen = .nan := by simp only [widen, hread]
      rw [hnarrow, hwide, Binary64.toRat?_nan]
  | infinite negative =>
      have hnarrow : x.toRat? = none := by simp only [toRat?, hread]
      have hwide : x.widen = .infinity negative := by simp only [widen, hread]
      rw [hnarrow, hwide, Binary64.toRat?_infinity]
  | finite negative m e =>
      obtain ⟨m', e', hwide, hm'⟩ := read_widen hread
      have hunits : m' * twoPow e' * twoPow Format.single.unitBits =
          m * twoPow e * twoPow Format.double.unitBits := by
        rw [hm', Nat.mul_assoc, Nat.mul_assoc, ← twoPow_add, ← twoPow_add, unitBits_add]
      rw [Binary64.toRat?_of_quotient hwide (Nat.ne_of_gt (twoPow_pos _)) hunits]
      simp only [toRat?, hread]

end Binary32

/-! ### Truncation -/

/-- A number without its fraction: the whole number next towards zero. -/
def truncated (q : Rat) : Int := if q < 0 then ⌈q⌉ else ⌊q⌋

@[simp] theorem truncated_intCast (n : Int) : truncated n = n := by
  rw [truncated, Int.ceil_intCast, Int.floor_intCast, ite_self]

theorem truncated_of_nonneg {q : Rat} (h : 0 ≤ q) : truncated q = ⌊q⌋ := by
  rw [truncated, if_neg (not_lt.2 h)]

/-- The sign does not matter to what is cut off. -/
theorem truncated_neg {q : Rat} (h : 0 ≤ q) : truncated (-q) = -⌊q⌋ := by
  rw [truncated]
  split
  · exact Int.ceil_neg
  · next hneg =>
      have hzero : q = 0 := le_antisymm (by simpa using hneg) h
      simp [hzero]

/-- **What truncation gives**: the rational number without its fraction. -/
theorem Binary64.truncate?_eq (x : Binary64) : x.truncate? = x.toRat?.map truncated := by
  rw [truncate?, toRat?]
  cases hread : x.read with
  | nan => rfl
  | infinite negative => rfl
  | finite negative m e =>
      dsimp only
      generalize twoPow Format.double.unitBits = unit
      have hnonneg : (0 : Rat) ≤ ((m * twoPow e : Nat) : Rat) / (unit : Nat) := by positivity
      have hfloor : ⌊((m * twoPow e : Nat) : Rat) / (unit : Nat)⌋ =
          ((m * twoPow e / unit : Nat) : Int) := Rat.floor_natCast_div_natCast _ _
      rw [Option.map_some]
      split
      · rw [truncated_neg hnonneg, hfloor]
      · rw [truncated_of_nonneg hnonneg, hfloor]

end SqlFilter.Number

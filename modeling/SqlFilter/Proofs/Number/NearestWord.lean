/-
**What the nearest word denotes.**

The word nearest to a fraction is packed by one addition from an exponent and a rounded significand.
A significand that fills its bits is stored without its leading one, which moves the exponent up by
one; a significand that was rounded up to the next power of two moves it up by another one.  In all
cases the word denotes the significand at the exponent that was picked, or it is infinite.

For whole numbers the unit is small enough: up to the power of two with one more bit than the
fraction nothing is rounded away, and a larger number is never rounded below that power.

Main definitions:

* `SqlFilter.Number.Binary64.toRat?`: the rational number that a finite word denotes.

Main results:

* `SqlFilter.Number.le_roundHalfEven`, `SqlFilter.Number.roundHalfEven_le`: rounding does not pass
  whole numbers;
* `SqlFilter.Number.Format.read_packed`: what a packed word denotes;
* `SqlFilter.Number.Format.read_nearestWord`: **what the nearest word denotes**;
* `SqlFilter.Number.Format.nearestSignificand_exact`: a quotient with few bits is not rounded;
* `SqlFilter.Number.Binary64.toRat?_nearest`, `SqlFilter.Number.Binary64.exceeds_nearest`: whole
  numbers that are held exactly, and those beyond.
-/

import SqlFilter.Number.Floating

set_option relaxedAutoImplicit false
set_option autoImplicit false

namespace SqlFilter.Number

/-! ### Rounding -/

/-- Rounding does not fall below a whole number. -/
theorem le_roundHalfEven {q a d : Nat} (hd : 0 < d) (h : q * d ≤ a) : q ≤ roundHalfEven a d := by
  have hq : q ≤ a / d := (Nat.le_div_iff_mul_le hd).2 h
  simp only [roundHalfEven]
  split
  · exact hq
  · split
    · omega
    · omega

/-- Rounding does not rise above a whole number. -/
theorem roundHalfEven_le {q a d : Nat} (hd : 0 < d) (h : a ≤ q * d) : roundHalfEven a d ≤ q := by
  have hle : a / d ≤ q := Nat.div_le_of_le_mul (by rwa [Nat.mul_comm])
  rcases Nat.lt_or_eq_of_le hle with hlt | heq
  · simp only [roundHalfEven]
    split
    · omega
    · split
      · omega
      · omega
  · -- the quotient is the whole number, so that nothing is left over
    have hsplit := Nat.div_add_mod a d
    rw [heq, Nat.mul_comm] at hsplit
    have hexact : a = q * d := by omega
    exact Nat.le_of_eq (hexact ▸ roundHalfEven_mul q hd)

namespace Format

variable (f : Format)

/-! ### Words -/

/-- A word is read by its three fields. -/
theorem read_fields (negative : Bool) {exponent fraction : Nat}
    (hexponent : exponent < twoPow f.exponentBits) (hfraction : fraction < twoPow f.fractionBits) :
    f.read (f.signWord negative + (exponent * twoPow f.fractionBits + fraction)) =
      if exponent = twoPow f.exponentBits - 1 then
        if fraction = 0 then .infinite negative else .nan
      else if exponent = 0 then .finite negative fraction 0
      else .finite negative (twoPow f.fractionBits + fraction) (exponent - 1) := by
  have hpos : 0 < twoPow f.fractionBits := twoPow_pos _
  obtain ⟨s, hs, hword⟩ : ∃ s, (s % 2 == 1) = negative ∧
      f.signWord negative = s * twoPow f.exponentBits * twoPow f.fractionBits := by
    cases negative with
    | false => exact ⟨0, rfl, by simp [signWord]⟩
    | true =>
        refine ⟨1, rfl, ?_⟩
        rw [signWord, if_pos rfl, Nat.add_comm, twoPow_add, Nat.one_mul]
  have hsum : f.signWord negative + (exponent * twoPow f.fractionBits + fraction) =
      twoPow f.fractionBits * (twoPow f.exponentBits * s + exponent) + fraction := by
    rw [hword, ← Nat.add_assoc, ← Nat.add_mul, Nat.mul_comm, Nat.mul_comm s]
  have hlow : (f.signWord negative + (exponent * twoPow f.fractionBits + fraction)) %
      twoPow f.fractionBits = fraction := by
    rw [hsum, Nat.mul_add_mod, Nat.mod_eq_of_lt hfraction]
  have hhigh : (f.signWord negative + (exponent * twoPow f.fractionBits + fraction)) /
      twoPow f.fractionBits = twoPow f.exponentBits * s + exponent := by
    rw [hsum, Nat.mul_add_div hpos, Nat.div_eq_of_lt hfraction, Nat.add_zero]
  have hmiddle : (twoPow f.exponentBits * s + exponent) % twoPow f.exponentBits = exponent := by
    rw [Nat.mul_add_mod, Nat.mod_eq_of_lt hexponent]
  have htop : (f.signWord negative + (exponent * twoPow f.fractionBits + fraction)) /
      twoPow (f.fractionBits + f.exponentBits) = s := by
    rw [twoPow_add, ← Nat.div_div_eq_div_mul, hhigh, Nat.mul_add_div (twoPow_pos _),
      Nat.div_eq_of_lt hexponent, Nat.add_zero]
  simp only [read, hlow, hhigh, hmiddle, htop, hs]

/-- The word of infinity with a sign. -/
theorem read_infinityWord (negative : Bool) :
    f.read (f.signWord negative + f.infinityWord) = .infinite negative := by
  have hlast : twoPow f.exponentBits - 1 < twoPow f.exponentBits :=
    Nat.sub_lt (twoPow_pos _) (by decide)
  have hread := f.read_fields negative hlast (twoPow_pos f.fractionBits)
  rwa [Nat.add_zero, if_pos rfl, if_pos rfl] at hread

/-- A significand that fills its bits, or is at the least exponent, is packed with its exponent by
one addition; a carry into the next power of two is part of that. -/
theorem read_packed (negative : Bool) {e r : Nat}
    (hfinite : e * twoPow f.fractionBits + r < f.infinityWord)
    (hle : r ≤ 2 * twoPow f.fractionBits) (hfull : twoPow f.fractionBits ≤ r ∨ e = 0) :
    ∃ m k, f.read (f.signWord negative + (e * twoPow f.fractionBits + r)) = .finite negative m k ∧
      m * twoPow k = r * twoPow e := by
  have hpos : 0 < twoPow f.fractionBits := twoPow_pos _
  have hread : ∀ {exponent fraction : Nat}, fraction < twoPow f.fractionBits →
      exponent * twoPow f.fractionBits + fraction = e * twoPow f.fractionBits + r →
      f.read (f.signWord negative + (e * twoPow f.fractionBits + r)) =
        if exponent = 0 then .finite negative fraction 0
        else .finite negative (twoPow f.fractionBits + fraction) (exponent - 1) := by
    intro exponent fraction hfraction hword
    -- the word is below that of infinity, so the exponent is not the last one
    have hexponent : exponent < twoPow f.exponentBits - 1 := by
      rw [← hword, infinityWord] at hfinite
      exact Nat.lt_of_mul_lt_mul_right (Nat.lt_of_le_of_lt (Nat.le_add_right _ _) hfinite)
    rw [← hword, f.read_fields negative (by omega) hfraction, if_neg (by omega)]
  rcases Nat.lt_or_ge r (twoPow f.fractionBits) with hsmall | hlarge
  · have hzero : e = 0 := hfull.resolve_left (by omega)
    refine ⟨r, 0, ?_, by rw [hzero]⟩
    rw [hread hsmall rfl, if_pos hzero]
  · rcases Nat.lt_or_ge r (2 * twoPow f.fractionBits) with hordinary | hcarry
    · have hword : (e + 1) * twoPow f.fractionBits + (r - twoPow f.fractionBits) =
          e * twoPow f.fractionBits + r := by
        rw [Nat.add_mul]
        omega
      refine ⟨r, e, ?_, rfl⟩
      rw [hread (by omega) hword, if_neg (by omega), Nat.add_sub_cancel,
        Nat.add_sub_cancel' hlarge]
    · have htwice : r = 2 * twoPow f.fractionBits := by omega
      have hword : (e + 2) * twoPow f.fractionBits + 0 = e * twoPow f.fractionBits + r := by
        rw [htwice, Nat.add_mul]
        rfl
      refine ⟨twoPow f.fractionBits, e + 1, ?_, ?_⟩
      · rw [hread hpos hword, if_neg (by omega)]
        rfl
      · rw [htwice, twoPow_succ, Nat.mul_left_comm, Nat.mul_assoc]

/-! ### Nearest words -/

section Nearest

variable (a : Nat) {d : Nat}

/-- The exponent at which `a / d` is rounded. -/
def nearestExponent (d : Nat) : Nat := f.exponentFor (a * twoPow f.unitBits / d)

/-- The significand to which `a / d` is rounded. -/
def nearestSignificand (d : Nat) : Nat :=
  roundHalfEven (a * twoPow f.unitBits) (d * twoPow (f.nearestExponent a d))

theorem nearestWord_eq (d : Nat) :
    f.nearestWord a d = min (f.nearestExponent a d * twoPow f.fractionBits +
      f.nearestSignificand a d) f.infinityWord := rfl

/-- The significand fills its bits, unless the exponent is the least one. -/
theorem nearestSignificand_mem (hd : 0 < d) :
    f.nearestSignificand a d ≤ 2 * twoPow f.fractionBits ∧
      (twoPow f.fractionBits ≤ f.nearestSignificand a d ∨ f.nearestExponent a d = 0) := by
  have hscale : 0 < d * twoPow (f.nearestExponent a d) := Nat.mul_pos hd (twoPow_pos _)
  have hlog : a * twoPow f.unitBits / d < twoPow ((a * twoPow f.unitBits / d).log2 + 1) :=
    Nat.lt_log2_self
  have hexponent : (a * twoPow f.unitBits / d).log2 + 1 ≤
      f.nearestExponent a d + (f.fractionBits + 1) := by
    rw [nearestExponent, exponentFor]
    omega
  have hbelow : a * twoPow f.unitBits <
      twoPow (f.nearestExponent a d + (f.fractionBits + 1)) * d :=
    (Nat.div_lt_iff_lt_mul hd).1
      (Nat.lt_of_lt_of_le hlog (Nat.pow_le_pow_right (by decide) hexponent))
  constructor
  · refine roundHalfEven_le hscale (Nat.le_of_lt ?_)
    rwa [Nat.add_comm, twoPow_add, twoPow_succ, Nat.mul_assoc _ _ d, Nat.mul_comm _ d] at hbelow
  · rcases Nat.eq_zero_or_pos (f.nearestExponent a d) with hzero | hpos
    · exact .inr hzero
    · -- above the least exponent the quotient has all the bits
      have hbits : (a * twoPow f.unitBits / d).log2 =
          f.nearestExponent a d + f.fractionBits := by
        rw [nearestExponent, exponentFor] at hpos ⊢
        omega
      have hne : a * twoPow f.unitBits / d ≠ 0 := by
        intro hnil
        rw [hnil, Nat.log2_zero] at hbits
        omega
      have habove : twoPow (f.nearestExponent a d + f.fractionBits) ≤
          a * twoPow f.unitBits / d := by
        rw [← hbits]
        exact Nat.log2_self_le hne
      left
      refine le_roundHalfEven hscale ?_
      have hmul := (Nat.le_div_iff_mul_le hd).1 habove
      rwa [Nat.add_comm, twoPow_add, Nat.mul_assoc, Nat.mul_comm _ d] at hmul

/-- **What the nearest word denotes**: the significand at its exponent, or it is infinite, which is
when both do not fit in a word below that of infinity. -/
theorem read_nearestWord (negative : Bool) (hd : 0 < d) :
    (f.infinityWord ≤ f.nearestExponent a d * twoPow f.fractionBits + f.nearestSignificand a d ∧
        f.read (f.signWord negative + f.nearestWord a d) = .infinite negative) ∨
      ∃ m k, f.read (f.signWord negative + f.nearestWord a d) = .finite negative m k ∧
        m * twoPow k = f.nearestSignificand a d * twoPow (f.nearestExponent a d) := by
  obtain ⟨hle, hfull⟩ := f.nearestSignificand_mem a hd
  rw [nearestWord_eq]
  rcases Nat.lt_or_ge (f.nearestExponent a d * twoPow f.fractionBits +
    f.nearestSignificand a d) f.infinityWord with hfinite | hinfinite
  · right
    rw [Nat.min_eq_left (Nat.le_of_lt hfinite)]
    exact f.read_packed negative hfinite hle hfull
  · left
    rw [Nat.min_eq_right hinfinite]
    exact ⟨hinfinite, f.read_infinityWord negative⟩

end Nearest

/-! ### Exact quotients -/

/-- A quotient that is a power of two times a number with one more bit than the fraction at most is
not rounded. -/
theorem nearestSignificand_exact {a d n k : Nat} (hd : 0 < d) (hn : n < twoPow (f.fractionBits + 1))
    (h : a * twoPow f.unitBits = n * twoPow k * d) :
    f.nearestExponent a d ≤ k ∧
      f.nearestSignificand a d * twoPow (f.nearestExponent a d) = n * twoPow k := by
  have hexponent : f.nearestExponent a d ≤ k := by
    rw [nearestExponent, exponentFor, h, Nat.mul_div_cancel _ hd]
    rcases Nat.eq_zero_or_pos n with rfl | hpos
    · rw [Nat.zero_mul, Nat.log2_zero]
      omega
    · have hbound : n * twoPow k < twoPow (f.fractionBits + 1 + k) := by
        rw [twoPow_add]
        exact Nat.mul_lt_mul_of_pos_right hn (twoPow_pos _)
      have hne : n * twoPow k ≠ 0 := Nat.ne_of_gt (Nat.mul_pos hpos (twoPow_pos _))
      have hlog := (Nat.log2_lt hne).2 hbound
      omega
  refine ⟨hexponent, ?_⟩
  -- the power of the exponent divides the one of the quotient, so that the quotient is whole
  obtain ⟨j, hj⟩ := Nat.exists_eq_add_of_le' hexponent
  have hpower : n * twoPow k = n * twoPow j * twoPow (f.nearestExponent a d) := by
    rw [Nat.mul_assoc, ← twoPow_add, ← hj]
  have hwhole : a * twoPow f.unitBits = n * twoPow j * (d * twoPow (f.nearestExponent a d)) := by
    rw [h, hpower, Nat.mul_comm d, Nat.mul_assoc _ _ d]
  rw [nearestSignificand, hwhole, roundHalfEven_mul _ (Nat.mul_pos hd (twoPow_pos _)), hpower]

/-! ### Whole numbers -/

/-- A whole number with one more bit than the fraction at most is not rounded. -/
theorem nearestSignificand_whole {n : Nat} (hn : n < twoPow (f.fractionBits + 1)) :
    f.nearestExponent n 1 ≤ f.unitBits ∧
      f.nearestSignificand n 1 * twoPow (f.nearestExponent n 1) = n * twoPow f.unitBits :=
  f.nearestSignificand_exact Nat.one_pos hn (Nat.mul_one _).symm

/-- A whole number with more bits is not rounded below the least of them. -/
theorem le_nearestSignificand {n : Nat} (hn : twoPow (f.fractionBits + 1) ≤ n) :
    twoPow (f.fractionBits + 1) * twoPow f.unitBits ≤
      f.nearestSignificand n 1 * twoPow (f.nearestExponent n 1) := by
  have hunits : twoPow (f.fractionBits + 1 + f.unitBits) ≤ n * twoPow f.unitBits := by
    rw [twoPow_add]
    exact Nat.mul_le_mul_right _ hn
  have hne : n * twoPow f.unitBits ≠ 0 :=
    Nat.ne_of_gt (Nat.lt_of_lt_of_le (twoPow_pos _) hunits)
  have hexponent : f.unitBits + 1 ≤ f.nearestExponent n 1 := by
    have hlog := (Nat.le_log2 hne).2 hunits
    rw [nearestExponent, exponentFor, Nat.div_one]
    omega
  have hfull : twoPow f.fractionBits ≤ f.nearestSignificand n 1 :=
    (f.nearestSignificand_mem n Nat.one_pos).2.resolve_right (by omega)
  calc twoPow (f.fractionBits + 1) * twoPow f.unitBits
      = twoPow f.fractionBits * twoPow (f.unitBits + 1) := by
        rw [← twoPow_add, ← twoPow_add, Nat.add_assoc, Nat.add_comm 1]
    _ ≤ f.nearestSignificand n 1 * twoPow (f.nearestExponent n 1) :=
        Nat.mul_le_mul hfull (Nat.pow_le_pow_right (by decide) hexponent)

end Format

/-! ### Double precision -/

namespace Binary64

/-- The rational number that a finite word denotes. -/
def toRat? (x : Binary64) : Option Rat :=
  match x.read with
  | .finite negative m k =>
      let magnitude : Rat := (m * twoPow k : Nat) / (twoPow Format.double.unitBits : Nat)
      some (if negative then -magnitude else magnitude)
  | _ => none

theorem toRat?_of_finite {x : Binary64} {negative : Bool} {m k n : Nat}
    (hread : x.read = .finite negative m k)
    (hwhole : m * twoPow k = n * twoPow Format.double.unitBits) :
    x.toRat? = some (if negative then -(n : Rat) else n) := by
  have hunit : twoPow Format.double.unitBits ≠ 0 := Nat.ne_of_gt (twoPow_pos _)
  rw [toRat?, hread]
  -- the unit is a number of some hundred digits, which nothing is to compute
  generalize twoPow Format.double.unitBits = unit at hwhole hunit ⊢
  have hcancel : ((m * twoPow k : Nat) : Rat) / (unit : Nat) = n := by
    rw [hwhole, Rat.natCast_mul, Rat.mul_div_cancel (mt Rat.natCast_eq_zero_iff.1 hunit)]
  simp only [hcancel]

theorem exceeds_of_finite {x : Binary64} {negative : Bool} {m k : Nat}
    (hread : x.read = .finite negative m k) (bound : Nat) :
    x.exceeds bound = decide (bound * twoPow Format.double.unitBits < m * twoPow k) := by
  rw [exceeds, hread]

theorem exceeds_of_infinite {x : Binary64} {negative : Bool} (hread : x.read = .infinite negative)
    (bound : Nat) : x.exceeds bound = true := by
  rw [exceeds, hread]

theorem read_word {word : Nat} (hword : word ≤ Format.double.infinityWord) (negative : Bool) :
    read ⟨UInt64.ofNat (Format.double.signWord negative + word)⟩ =
      Format.double.read (Format.double.signWord negative + word) := by
  have hinfinity : Format.double.infinityWord < 9223372036854775808 := by decide
  have hsign : Format.double.signWord negative ≤ 9223372036854775808 := by
    cases negative with
    | false => decide
    | true => decide
  have hfits : Format.double.signWord negative + word < UInt64.size := by
    rw [UInt64.size]
    omega
  rw [read, UInt64.toNat_ofNat_of_lt' hfits]

theorem read_nearest (negative : Bool) (a d : Nat) :
    (nearest negative a d).read =
      Format.double.read (Format.double.signWord negative + Format.double.nearestWord a d) :=
  read_word (Nat.min_le_right _ _) negative

theorem read_infinity (negative : Bool) : (infinity negative).read = .infinite negative := by
  rw [infinity, read_word (Nat.le_refl _), Format.read_infinityWord]

/-- A whole number below the bound of exactness is finite, and denoted without a change. -/
theorem read_nearest_whole (negative : Bool) {n : Nat} (hn : n < twoPow 53) :
    ∃ m k, (nearest negative n 1).read = .finite negative m k ∧
      m * twoPow k = n * twoPow Format.double.unitBits := by
  obtain ⟨hexponent, hexact⟩ := Format.double.nearestSignificand_whole hn
  have hle := (Format.double.nearestSignificand_mem n Nat.one_pos).1
  rw [read_nearest]
  rcases Format.double.read_nearestWord n negative Nat.one_pos with ⟨hlarge, -⟩ | ⟨m, k, hread, hm⟩
  · -- the word of infinity is out of reach of the exponents of whole numbers
    have hunit : Format.double.nearestExponent n 1 ≤ 1074 := hexponent
    have hpower : Format.double.nearestExponent n 1 * twoPow Format.double.fractionBits ≤
        1074 * twoPow Format.double.fractionBits := Nat.mul_le_mul_right _ hunit
    have hbound : 1074 * twoPow Format.double.fractionBits +
        2 * twoPow Format.double.fractionBits < Format.double.infinityWord := by decide
    omega
  · exact ⟨m, k, hread, hm.trans hexact⟩

/-- A whole number below the bound of exactness is held as it is. -/
theorem toRat?_nearest (negative : Bool) {n : Nat} (hn : n < twoPow 53) :
    (nearest negative n 1).toRat? = some (if negative then -(n : Rat) else n) := by
  obtain ⟨m, k, hread, hm⟩ := read_nearest_whole negative hn
  exact toRat?_of_finite hread hm

/-- Whether a whole number is above one that is held exactly can be told after rounding. -/
theorem exceeds_nearest (negative : Bool) (n : Nat) {bound : Nat} (hbound : bound < twoPow 53) :
    (nearest negative n 1).exceeds bound = decide (bound < n) := by
  have hunit : 0 < twoPow Format.double.unitBits := twoPow_pos _
  rcases Nat.lt_or_ge n (twoPow 53) with hn | hn
  · obtain ⟨m, k, hread, hm⟩ := read_nearest_whole negative hn
    rw [exceeds_of_finite hread, hm]
    exact decide_eq_decide.2 (Nat.mul_lt_mul_right hunit)
  · rw [decide_eq_true (Nat.lt_of_lt_of_le hbound hn)]
    have hread := read_nearest negative n 1
    rcases Format.double.read_nearestWord n negative Nat.one_pos with ⟨-, hword⟩ | ⟨m, k, hword, hm⟩
    · exact exceeds_of_infinite (hread.trans hword) bound
    · have hbits : twoPow 53 = twoPow (Format.double.fractionBits + 1) := rfl
      rw [hbits] at hn hbound
      have hle := Format.double.le_nearestSignificand hn
      have hlt := Nat.mul_lt_mul_of_pos_right hbound hunit
      rw [exceeds_of_finite (hread.trans hword), decide_eq_true_iff, hm]
      exact Nat.lt_of_lt_of_le hlt hle

end Binary64

end SqlFilter.Number

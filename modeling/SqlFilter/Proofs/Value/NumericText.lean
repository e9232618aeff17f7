/-
**Texts of exact decimal numbers.**

The server writes an exact number with all its digits, of which there may be any number.  A value
holds a coefficient of 96 bits and 28 places, so not every text has a value that denotes its number.
What is read then is the number rounded to fewer places: to as many of those that are written as can
be kept, a half going away from zero.  Only where even the number without any place does not fit is
there an error.

The reader does not round to a number of places that it knows beforehand.  It takes digits until the
next one does not fit and rounds at that one, and where the coefficient grows out of its bits by
that it gives up one more place; the lemmas below show that this comes to the same.

Main definitions:

* `SqlFilter.Number.roundHalfUp`: the nearest whole number, a half going up;
* `SqlFilter.Number.signedFraction`: a fraction with a sign;
* `SqlFilter.Number.Numeric.toRat`: the number that a value denotes;
* `SqlFilter.Number.WrittenNumeric`: an exact number as the server writes it;
* `SqlFilter.Number.WrittenNumeric.rounded`: its coefficient at fewer places;
* `SqlFilter.Number.WrittenNumeric.KeptAs`: the value that keeps the most places.

Main results:

* `SqlFilter.Number.Numeric.readFraction?_digits`: where the digits of a fraction end;
* `SqlFilter.Number.WrittenNumeric.ofChars?_chars`: what is read keeps the most places;
* `SqlFilter.Number.WrittenNumeric.KeptAs.toRat_eq`: a number that some value denotes is not
  rounded;
* `SqlFilter.Value.decodeText_numeric`: **an exact number is read with as many places as can be
  kept**, and is an error only beyond all values;
* `SqlFilter.Value.decodeText_numeric_tiny`: a number with 29 places is read as zero.
-/

import Mathlib.Data.List.TakeWhile
import SqlFilter.Proofs.Number.Digits
import SqlFilter.Value.Decode

set_option relaxedAutoImplicit false
set_option autoImplicit false

namespace SqlFilter

namespace Number

/-! ### Rounding -/

/-- The whole number nearest to `a / d`, a half going up. -/
def roundHalfUp (a d : Nat) : Nat := (2 * a + d) / (2 * d)

/-- What a rounded quotient reaches. -/
theorem le_roundHalfUp_iff {a d m : Nat} (hd : 0 < d) :
    m ≤ roundHalfUp a d ↔ 2 * (d * m) ≤ 2 * a + d := by
  rw [roundHalfUp, Nat.le_div_iff_mul_le (by omega), Nat.mul_left_comm, Nat.mul_comm m]

theorem roundHalfUp_eq {a d m : Nat} (hd : 0 < d) (hlow : 2 * (d * m) ≤ 2 * a + d)
    (hhigh : 2 * a + d < 2 * (d * (m + 1))) : roundHalfUp a d = m := by
  have hle := (le_roundHalfUp_iff hd).2 hlow
  have hlt := mt (le_roundHalfUp_iff hd).1 (Nat.not_le.2 hhigh)
  omega

/-- A whole quotient is its own rounding. -/
theorem roundHalfUp_mul (m : Nat) {d : Nat} (hd : 0 < d) : roundHalfUp (m * d) d = m := by
  rw [Nat.mul_comm]
  refine roundHalfUp_eq hd (by omega) ?_
  rw [Nat.mul_add]
  omega

/-- The smaller the divisor, the larger the rounded quotient. -/
theorem roundHalfUp_le_of_le (a : Nat) {d d' : Nat} (hd' : 0 < d') (h : d' ≤ d) :
    roundHalfUp a d ≤ roundHalfUp a d' := by
  have hreached := (le_roundHalfUp_iff (Nat.lt_of_lt_of_le hd' h)).1 (Nat.le_refl (roundHalfUp a d))
  rw [le_roundHalfUp_iff hd']
  cases hm : roundHalfUp a d with
  | zero =>
      rw [Nat.mul_zero]
      omega
  | succ m =>
      -- the quotient is at least `m + 1 / 2`, for the smaller divisor too
      have hmul := Nat.mul_le_mul_right m h
      rw [hm, Nat.mul_add] at hreached
      rw [Nat.mul_add]
      omega

/-- Where a quotient is cut off in front of a digit, that digit says how it is rounded. -/
theorem roundHalfUp_cut (c : Nat) {digit r unit : Nat} (hdigit : digit < 10) (hr : r < unit) :
    roundHalfUp (10 * unit * c + (unit * digit + r)) (10 * unit) =
      if digit < 5 then c else c + 1 := by
  split
  · next hsmall =>
      have hle : unit * digit ≤ unit * 4 := Nat.mul_le_mul_left unit (by omega)
      refine roundHalfUp_eq (by omega) (by omega) ?_
      rw [Nat.mul_add_one (10 * unit)]
      omega
  · next hlarge =>
      have hge : unit * 5 ≤ unit * digit := Nat.mul_le_mul_left unit (by omega)
      have hle : unit * digit ≤ unit * 9 := Nat.mul_le_mul_left unit (by omega)
      refine roundHalfUp_eq (by omega) ?_ ?_
      · rw [Nat.mul_add_one (10 * unit)]
        omega
      · rw [Nat.mul_add_one (10 * unit), Nat.mul_add_one (10 * unit)]
        omega

/-! ### Fractions -/

/-- The number `± m / d`. -/
def signedFraction (negative : Bool) (m d : Nat) : Rat :=
  mkRat (if negative then -(m : Int) else m) d

theorem signedFraction_congr (negative : Bool) {m n d e : Nat} (hd : d ≠ 0) (he : e ≠ 0)
    (h : m * e = n * d) : signedFraction negative m d = signedFraction negative n e := by
  rw [signedFraction, signedFraction, Rat.mkRat_eq_iff hd he]
  split
  · rw [Int.neg_mul, Int.neg_mul, ← Int.natCast_mul, ← Int.natCast_mul, h]
  · rw [← Int.natCast_mul, ← Int.natCast_mul, h]

/-- Equal fractions have equal magnitudes. -/
theorem mul_eq_of_signedFraction_eq {negative negative' : Bool} {m n d e : Nat} (hd : d ≠ 0)
    (he : e ≠ 0) (h : signedFraction negative m d = signedFraction negative' n e) :
    m * e = n * d := by
  have hsigned : ∀ (b : Bool) (k : Nat), (if b then -(k : Int) else k).natAbs = k := by
    intro b k
    cases b with
    | false => exact Int.natAbs_natCast k
    | true => exact (Int.natAbs_neg _).trans (Int.natAbs_natCast k)
  have habs := congrArg Int.natAbs ((Rat.mkRat_eq_iff hd he).1 h)
  rwa [Int.natAbs_mul, Int.natAbs_mul, Int.natAbs_natCast, Int.natAbs_natCast, hsigned, hsigned]
    at habs

/-- Zero has no sign. -/
theorem signedFraction_and (negative : Bool) (m d : Nat) :
    signedFraction (negative && m != 0) m d = signedFraction negative m d := by
  rcases Nat.eq_zero_or_pos m with rfl | hpos
  · simp [signedFraction]
  · have hm : (m != 0) = true := bne_iff_ne.2 (Nat.ne_of_gt hpos)
    rw [hm, Bool.and_true]

namespace Numeric

/-! ### Taking digits -/

/-- The digits of a whole part are read to their end, if the number fits. -/
theorem takeWhole?_digits {rest : List Char} (hrest : ∀ n, takeWhole? n rest = some (n, rest))
    (taken : List Char) {digits : List Char} (hdigits : ∀ c ∈ digits, c.isDigit = true)
    (htaken : digitsValue taken < limit) :
    takeWhole? (digitsValue taken) (digits ++ rest) =
      if digitsValue (taken ++ digits) < limit then some (digitsValue (taken ++ digits), rest)
      else none := by
  induction digits generalizing taken with
  | nil => rw [List.append_nil, List.nil_append, hrest, if_pos htaken]
  | cons c cs ih =>
      have hc := hdigits c List.mem_cons_self
      have hsplit : taken ++ c :: cs = taken ++ [c] ++ cs := by simp
      rw [List.cons_append, takeWhole?, if_pos hc]
      dsimp only
      rw [← digitsValue_concat, hsplit]
      split
      · next hfits =>
          exact ih (taken ++ [c]) (fun d hd => hdigits d (List.mem_cons_of_mem c hd)) hfits
      · next hlarge =>
          have hle := digitsValue_le_append (taken ++ [c]) cs
          rw [if_neg (by omega)]

/-- **Where the digits of a fraction end.**  Either all of them are taken, or there is a first one
that does not fit, because all places are taken or because the coefficient grows out of its bits,
and that one rounds. -/
theorem readFraction?_digits (whole taken : List Char) {rest : List Char}
    (hrest : ∀ c ∈ rest, c.isDigit = true) (hfits : digitsValue (whole ++ taken) < limit)
    (hplaces : taken.length ≤ mostPlaces) :
    (digitsValue (whole ++ (taken ++ rest)) < limit ∧ (taken ++ rest).length ≤ mostPlaces ∧
      readFraction? ⟨digitsValue (whole ++ taken), taken.length⟩ rest =
        some ⟨digitsValue (whole ++ (taken ++ rest)), (taken ++ rest).length⟩) ∨
      ∃ front c behind, taken ++ rest = front ++ c :: behind ∧
        digitsValue (whole ++ front) < limit ∧ front.length ≤ mostPlaces ∧
        (front.length = mostPlaces ∨ limit ≤ digitsValue (whole ++ (front ++ [c]))) ∧
        readFraction? ⟨digitsValue (whole ++ taken), taken.length⟩ rest =
          roundAt ⟨digitsValue (whole ++ front), front.length⟩ c := by
  induction rest generalizing taken with
  | nil =>
      left
      rw [List.append_nil]
      exact ⟨hfits, hplaces, rfl⟩
  | cons c cs ih =>
      have hc := hrest c List.mem_cons_self
      have hsplit : taken ++ c :: cs = taken ++ [c] ++ cs := by simp
      have hnext : 10 * digitsValue (whole ++ taken) + digitValue c =
          digitsValue (whole ++ (taken ++ [c])) := by
        rw [← List.append_assoc, digitsValue_concat]
      have hstep : readFraction? ⟨digitsValue (whole ++ taken), taken.length⟩ (c :: cs) =
          if taken.length < mostPlaces ∧ digitsValue (whole ++ (taken ++ [c])) < limit then
            readFraction? ⟨digitsValue (whole ++ (taken ++ [c])), (taken ++ [c]).length⟩ cs
          else roundAt ⟨digitsValue (whole ++ taken), taken.length⟩ c := by
        rw [readFraction?, if_pos hc]
        dsimp only
        rw [hnext, List.length_append]
        rfl
      rw [hstep]
      split
      · next hmore =>
          have hlength : (taken ++ [c]).length ≤ mostPlaces := by
            rw [List.length_append]
            exact hmore.1
          have hcs := ih (taken ++ [c]) (fun d hd => hrest d (List.mem_cons_of_mem c hd)) hmore.2
            hlength
          rwa [← hsplit] at hcs
      · next hstop =>
          right
          refine ⟨taken, c, cs, rfl, hfits, hplaces, ?_, rfl⟩
          omega

/-! ### Values -/

/-- The number that a value denotes. -/
def toRat (x : Numeric) : Rat := signedFraction x.negative x.coefficient (tenPow x.places)

end Numeric

/-! ### Written numbers -/

/-- An exact number as the server writes it: a minus sign or none, digits, and perhaps a point with
digits behind it. -/
structure WrittenNumeric where
  negative : Bool
  whole : List Char
  fraction : List Char
  whole_ne_nil : whole ≠ []
  isDigit_whole : ∀ c ∈ whole, c.isDigit = true
  isDigit_fraction : ∀ c ∈ fraction, c.isDigit = true

namespace WrittenNumeric

variable (t : WrittenNumeric)

/-- What is written behind the whole part: a point and the places, or nothing. -/
def fractionText : List Char := if t.fraction = [] then [] else '.' :: t.fraction

/-- What is written behind the sign. -/
def body : List Char := t.whole ++ t.fractionText

/-- The characters of the text. -/
def chars : List Char := if t.negative then '-' :: t.body else t.body

/-- The text. -/
def text : String := String.ofList t.chars

/-- All digits as one number. -/
def coefficient : Nat := digitsValue (t.whole ++ t.fraction)

/-- How many of the digits are places. -/
def places : Nat := t.fraction.length

/-- The number that is written. -/
def value : Rat := signedFraction t.negative t.coefficient (tenPow t.places)

/-- The coefficient of the number with no more than `k` places: digits behind them are rounded, a
half going away from zero. -/
def rounded (k : Nat) : Nat := roundHalfUp t.coefficient (tenPow (t.places - k))

/-- The most places, of those that are written, that can be kept, and the coefficient with them: it
fits, and with more places it would not. -/
structure Keeps (coefficient places : Nat) : Prop where
  coefficient_lt : coefficient < Numeric.limit
  places_le_most : places ≤ Numeric.mostPlaces
  places_le : places ≤ t.places
  coefficient_eq : coefficient = t.rounded places
  limit_le : ∀ k, places < k → k ≤ t.places → k ≤ Numeric.mostPlaces → Numeric.limit ≤ t.rounded k

/-- The value that keeps the most places, with the sign of the number unless it is zero. -/
structure KeptAs (x : Numeric) : Prop where
  negative_eq : x.negative = (t.negative && x.coefficient != 0)
  keeps : t.Keeps x.coefficient x.places

/-! ### Rounding a written number -/

variable {t}

/-- The more places, the larger the coefficient. -/
theorem rounded_le_rounded {j k : Nat} (h : j ≤ k) : t.rounded j ≤ t.rounded k :=
  roundHalfUp_le_of_le _ (tenPow_pos _) (Nat.pow_le_pow_right (by decide) (by omega))

/-- A number that is whole with `k` places is not rounded. -/
theorem rounded_eq_of_mul {k m : Nat} (hk : k ≤ t.places)
    (h : m * tenPow t.places = t.coefficient * tenPow k) : t.rounded k = m := by
  have hpower : tenPow t.places = tenPow (t.places - k) * tenPow k := by
    rw [← tenPow_add, Nat.sub_add_cancel hk]
  rw [hpower, ← Nat.mul_assoc] at h
  rw [rounded, ← Nat.eq_of_mul_eq_mul_right (tenPow_pos k) h, roundHalfUp_mul _ (tenPow_pos _)]

theorem rounded_places : t.rounded t.places = t.coefficient := rounded_eq_of_mul (Nat.le_refl _) rfl

/-- With the places of its first digits a number is at least what they denote. -/
theorem le_rounded {front behind : List Char} (h : t.fraction = front ++ behind) :
    digitsValue (t.whole ++ front) ≤ t.rounded front.length := by
  have hlength : t.places - front.length = behind.length := by
    rw [places, h, List.length_append]
    omega
  have hcoefficient : t.coefficient =
      tenPow behind.length * digitsValue (t.whole ++ front) + digitsValue behind := by
    rw [coefficient, h, ← List.append_assoc, digitsValue_append]
  rw [rounded, hlength, le_roundHalfUp_iff (tenPow_pos _), hcoefficient]
  omega

/-- The first digit that is left out says how the number is rounded. -/
theorem rounded_cut {front behind : List Char} {c : Char} (h : t.fraction = front ++ c :: behind) :
    t.rounded front.length =
      if Numeric.digitValue c < 5 then digitsValue (t.whole ++ front)
      else digitsValue (t.whole ++ front) + 1 := by
  have hdigits : ∀ d ∈ c :: behind, d.isDigit = true := fun d hd =>
    t.isDigit_fraction d (by rw [h]; exact List.mem_append_right front hd)
  have hlength : t.places - front.length = behind.length + 1 := by
    rw [places, h, List.length_append, List.length_cons]
    omega
  have hbehind := digitsValue_lt fun d hd => hdigits d (List.mem_cons_of_mem c hd)
  have htail : digitsValue (c :: behind) =
      tenPow behind.length * Numeric.digitValue c + digitsValue behind := by
    rw [← List.singleton_append, digitsValue_append, digitsValue_singleton]
  have hcoefficient : t.coefficient =
      10 * tenPow behind.length * digitsValue (t.whole ++ front) +
        (tenPow behind.length * Numeric.digitValue c + digitsValue behind) := by
    rw [coefficient, h, ← List.append_assoc, digitsValue_append, htail, List.length_cons,
      tenPow_succ]
  rw [rounded, hlength, hcoefficient, tenPow_succ]
  exact roundHalfUp_cut _ (digitValue_lt (hdigits c List.mem_cons_self)) hbehind

/-! ### Reading one -/

/-- A coefficient that grows out of its bits was rounded up behind a five, so that with one place
less it is rounded up, too. -/
theorem keeps_of_carry {front behind : List Char} {c : Char} (h : t.fraction = front ++ c :: behind)
    (hne : front ≠ []) (hplaces : front.length ≤ Numeric.mostPlaces)
    (hlast : digitsValue (t.whole ++ front) + 1 = Numeric.limit)
    (hlimit : t.rounded front.length = Numeric.limit) :
    t.Keeps ((Numeric.limit + 4) / 10) (front.length - 1) := by
  obtain ⟨shorter, d, rfl⟩ : ∃ shorter d, front = shorter ++ [d] :=
    ⟨_, _, (List.dropLast_concat_getLast hne).symm⟩
  have hsplit : t.fraction = shorter ++ d :: c :: behind := by rw [h]; simp
  have hlength : (shorter ++ [d]).length = shorter.length + 1 := by simp
  have hwritten : shorter.length ≤ t.places := by
    rw [places, hsplit, List.length_append]
    omega
  have hdigit := digitValue_lt (t.isDigit_fraction d (by rw [hsplit]; simp))
  have hbits : Numeric.limit = 10 * 7922816251426433759354395033 + 6 := rfl
  rw [← List.append_assoc, digitsValue_concat] at hlast
  have hrounded := rounded_cut hsplit
  rw [if_neg (by omega)] at hrounded
  rw [hlength] at hplaces hlimit ⊢
  refine ⟨by omega, by omega, hwritten, ?_, ?_⟩
  · rw [Nat.add_sub_cancel, hrounded]
    omega
  · intro k hk _ _
    rw [← hlimit]
    exact rounded_le_rounded (by omega)

/-- Rounding at a digit that does not fit keeps the most places. -/
theorem roundAt_cut {front behind : List Char} {c : Char} (h : t.fraction = front ++ c :: behind)
    (hfits : digitsValue (t.whole ++ front) < Numeric.limit)
    (hplaces : front.length ≤ Numeric.mostPlaces)
    (hfull : front.length = Numeric.mostPlaces ∨
      Numeric.limit ≤ digitsValue (t.whole ++ (front ++ [c]))) :
    (Numeric.limit ≤ t.rounded 0 ∧
        Numeric.roundAt ⟨digitsValue (t.whole ++ front), front.length⟩ c = none) ∨
      ∃ m, Numeric.roundAt ⟨digitsValue (t.whole ++ front), front.length⟩ c = some m ∧
        t.Keeps m.coefficient m.places := by
  have hwritten : front.length ≤ t.places := by
    rw [places, h, List.length_append]
    omega
  have hbeyond : ∀ k, front.length < k → k ≤ t.places → k ≤ Numeric.mostPlaces →
      Numeric.limit ≤ t.rounded k := by
    intro k hk _ hmost
    have hlarge := hfull.resolve_left (by omega)
    have hsplit : t.fraction = front ++ [c] ++ behind := by rw [h]; simp
    have hnext := le_rounded hsplit
    rw [List.length_append, List.length_singleton] at hnext
    exact Nat.le_trans hlarge (Nat.le_trans hnext (rounded_le_rounded hk))
  have hcut := rounded_cut h
  rw [Numeric.roundAt]
  split
  · next hdown =>
      rw [if_pos hdown] at hcut
      exact .inr ⟨_, rfl, hfits, hplaces, hwritten, hcut.symm, hbeyond⟩
  · next hup =>
      rw [if_neg hup] at hcut
      dsimp only
      split
      · next hroom => exact .inr ⟨_, rfl, hroom, hplaces, hwritten, hcut.symm, hbeyond⟩
      · next hcarry =>
          have hlast : digitsValue (t.whole ++ front) + 1 = Numeric.limit := by omega
          rw [hlast] at hcut ⊢
          split
          · next hnone =>
              left
              rw [hnone] at hcut
              exact ⟨Nat.le_of_eq hcut.symm, rfl⟩
          · next hsome =>
              have hne : front ≠ [] := mt List.length_eq_zero_iff.2 hsome
              exact .inr ⟨_, rfl, keeps_of_carry h hne hplaces hlast hcut⟩

theorem keeps_places (hfits : t.coefficient < Numeric.limit)
    (hplaces : t.places ≤ Numeric.mostPlaces) : t.Keeps t.coefficient t.places :=
  ⟨hfits, hplaces, Nat.le_refl _, rounded_places.symm, fun k hk hwritten _ => by omega⟩

/-- What is written behind the sign starts with a digit. -/
theorem exists_body_eq_cons (t : WrittenNumeric) :
    ∃ c cs, t.body = c :: cs ∧ c.isDigit = true := by
  obtain ⟨c, cs, hwhole⟩ := List.exists_cons_of_ne_nil t.whole_ne_nil
  refine ⟨c, cs ++ t.fractionText, ?_, t.isDigit_whole c ?_⟩
  · rw [body, hwhole, List.cons_append]
  · rw [hwhole]
    exact List.mem_cons_self

/-- The whole part is read, if it fits, and what is behind it is left. -/
theorem takeWhole?_body (t : WrittenNumeric) :
    Numeric.takeWhole? 0 t.body =
      if digitsValue t.whole < Numeric.limit then some (digitsValue t.whole, t.fractionText)
      else none := by
  have hrest : ∀ n, Numeric.takeWhole? n t.fractionText = some (n, t.fractionText) := by
    intro n
    rw [fractionText]
    split
    · rfl
    · rfl
  exact Numeric.takeWhole?_digits hrest [] t.isDigit_whole (by decide)

/-- The whole part is read, and then the places, if there are any. -/
theorem readMagnitude?_eq (t : WrittenNumeric) :
    Numeric.readMagnitude? t.body =
      if digitsValue t.whole < Numeric.limit then
        if t.fraction = [] then some ⟨digitsValue t.whole, 0⟩
        else Numeric.readFraction? ⟨digitsValue t.whole, 0⟩ t.fraction
      else none := by
  obtain ⟨c, cs, hbody, hc⟩ := t.exists_body_eq_cons
  have htake := t.takeWhole?_body
  rw [hbody] at htake ⊢
  rw [Numeric.readMagnitude?, if_pos hc, htake]
  · rcases Nat.lt_or_ge (digitsValue t.whole) Numeric.limit with hfits | hlarge
    · rw [if_pos hfits, if_pos hfits, fractionText]
      by_cases hfraction : t.fraction = []
      · rw [if_pos hfraction, if_pos hfraction]
      · rw [if_neg hfraction, if_neg hfraction]
        rfl
    · rw [if_neg (Nat.not_lt.2 hlarge), if_neg (Nat.not_lt.2 hlarge)]
  · -- a digit is not the point that a text may start with
    rintro _ _ heq
    cases heq
    exact absurd hc (by decide)

/-- What is read behind the sign keeps the most places. -/
theorem readMagnitude?_body (t : WrittenNumeric) :
    (Numeric.limit ≤ t.rounded 0 ∧ Numeric.readMagnitude? t.body = none) ∨
      ∃ m, Numeric.readMagnitude? t.body = some m ∧ t.Keeps m.coefficient m.places := by
  rw [readMagnitude?_eq]
  rcases Nat.lt_or_ge (digitsValue t.whole) Numeric.limit with hwhole | hwhole
  · rw [if_pos hwhole]
    by_cases hfraction : t.fraction = []
    · right
      rw [if_pos hfraction]
      have hplaces : t.places = 0 := by rw [places, hfraction]; rfl
      have hcoefficient : t.coefficient = digitsValue t.whole := by
        rw [coefficient, hfraction, List.append_nil]
      have hkeeps := t.keeps_places (hcoefficient ▸ hwhole) (by omega)
      rw [hplaces, hcoefficient] at hkeeps
      exact ⟨_, rfl, hkeeps⟩
    · rw [if_neg hfraction]
      have hfits : digitsValue (t.whole ++ []) < Numeric.limit := by rwa [List.append_nil]
      have hread := Numeric.readFraction?_digits t.whole [] t.isDigit_fraction hfits (by decide)
      rw [List.append_nil, List.nil_append, List.length_nil] at hread
      rcases hread with ⟨hall, hplaces, hread⟩ |
        ⟨front, c, behind, hcut, hfront, hplaces, hfull, hread⟩
      · exact .inr ⟨_, hread, t.keeps_places hall hplaces⟩
      · rw [hread]
        exact roundAt_cut hcut hfront hplaces hfull
  · left
    rw [if_neg (Nat.not_lt.2 hwhole)]
    have hrounded := le_rounded (show t.fraction = [] ++ t.fraction from rfl)
    rw [List.append_nil, List.length_nil] at hrounded
    exact ⟨Nat.le_trans hwhole hrounded, rfl⟩

/-- There is no exponent behind the digits. -/
theorem isExponentMark_of_mem_body {c : Char} (h : c ∈ t.body) :
    Numeric.isExponentMark c = false := by
  have hdigit : c.isDigit = true → Numeric.isExponentMark c = false := by
    intro hc
    rw [Numeric.isExponentMark, Bool.or_eq_false_iff, beq_eq_false_iff_ne, beq_eq_false_iff_ne]
    constructor
    · rintro rfl
      exact absurd hc (by decide)
    · rintro rfl
      exact absurd hc (by decide)
  rw [body, fractionText] at h
  rcases List.mem_append.1 h with hwhole | hfraction
  · exact hdigit (t.isDigit_whole c hwhole)
  · split at hfraction
    · cases hfraction
    · rcases List.mem_cons.1 hfraction with rfl | hplace
      · rfl
      · exact hdigit (t.isDigit_fraction c hplace)

theorem takeSign_chars (t : WrittenNumeric) : takeSign t.chars = (t.negative, t.body) := by
  rw [chars]
  cases hnegative : t.negative with
  | true => rfl
  | false =>
      obtain ⟨c, cs, hbody, hc⟩ := t.exists_body_eq_cons
      rw [if_neg Bool.false_ne_true, hbody]
      exact takeSign_cons_of_isDigit hc cs

/-- Without an exponent the point is not moved. -/
theorem ofChars?_eq (t : WrittenNumeric) :
    Numeric.ofChars? t.chars =
      (Numeric.readMagnitude? t.body).bind fun m =>
        Numeric.ofParts? (t.negative && m.coefficient != 0) m.coefficient m.places := by
  have hmarks : ∀ c ∈ t.body, (!Numeric.isExponentMark c) = true := fun c hc => by
    rw [isExponentMark_of_mem_body hc]
    rfl
  have htext : t.body.takeWhile (fun c => !Numeric.isExponentMark c) = t.body :=
    List.takeWhile_eq_self_iff.2 hmarks
  have hexponent : t.body.dropWhile (fun c => !Numeric.isExponentMark c) = [] :=
    List.dropWhile_eq_nil_iff.2 hmarks
  rw [Numeric.ofChars?, t.takeSign_chars]
  dsimp only
  rw [htext, hexponent, Numeric.exponentOfChars?]
  cases Numeric.readMagnitude? t.body with
  | none => rfl
  | some m =>
      have hscaled : m.scaled? 0 = some m := by
        rw [Numeric.Magnitude.scaled?, if_neg (by decide), Numeric.Magnitude.raised?,
          Int.natAbs_zero, if_pos (Nat.zero_le _), Nat.sub_zero]
      dsimp only
      rw [hscaled]
      rfl

/-- What is read keeps the most places, and there is an error only where even the number without
places does not fit. -/
theorem ofChars?_chars (t : WrittenNumeric) :
    (Numeric.limit ≤ t.rounded 0 ∧ Numeric.ofChars? t.chars = none) ∨
      ∃ x, Numeric.ofChars? t.chars = some x ∧ t.KeptAs x := by
  rw [t.ofChars?_eq]
  rcases t.readMagnitude?_body with ⟨hlarge, hnone⟩ | ⟨m, hm, hkeeps⟩
  · left
    rw [hnone]
    exact ⟨hlarge, rfl⟩
  · right
    rw [hm, Option.bind_some, Numeric.ofParts?,
      dif_pos ⟨hkeeps.coefficient_lt, hkeeps.places_le_most⟩]
    exact ⟨_, rfl, rfl, hkeeps⟩

-- the coefficient would be rounded up to the limit, so that there are 27 places and not 28
example : (Numeric.ofChars? "7.92281625142643375935439503355".toList).map Numeric.render =
    some "7.922816251426433759354395034" := by decide +kernel

/-! ### What the value denotes -/

/-- The kept coefficient denotes the number as soon as some value does: that value has no more
places than are kept, or the coefficient with its places would not fit. -/
theorem Keeps.mul_eq {coefficient places m n : Nat} (h : t.Keeps coefficient places)
    (hm : m < Numeric.limit) (hn : n ≤ Numeric.mostPlaces)
    (heq : m * tenPow t.places = t.coefficient * tenPow n) :
    coefficient * tenPow t.places = t.coefficient * tenPow places := by
  have hexact : ∀ k, n ≤ k → k ≤ t.places →
      t.rounded k = m * tenPow (k - n) ∧
        m * tenPow (k - n) * tenPow t.places = t.coefficient * tenPow k := by
    intro k hnk hk
    have hscaled : m * tenPow (k - n) * tenPow t.places = t.coefficient * tenPow k := by
      rw [Nat.mul_right_comm, heq, Nat.mul_assoc, ← tenPow_add, Nat.add_sub_cancel' hnk]
    exact ⟨rounded_eq_of_mul hk hscaled, hscaled⟩
  rcases Nat.lt_or_ge places n with hmore | hless
  · rcases Nat.lt_or_ge t.places n with hall | hpart
    · -- all places are written and the value has more: then it has no smaller coefficient
      rcases Nat.lt_or_eq_of_le h.places_le with hlt | heqp
      · exfalso
        have hlimit := h.limit_le t.places hlt (Nat.le_refl _) (by omega)
        have hpower : tenPow n = tenPow (n - t.places) * tenPow t.places := by
          rw [← tenPow_add, Nat.sub_add_cancel (Nat.le_of_lt hall)]
        rw [hpower, ← Nat.mul_assoc] at heq
        have hm' := Nat.eq_of_mul_eq_mul_right (tenPow_pos _) heq
        have hle := Nat.le_mul_of_pos_right t.coefficient (tenPow_pos (n - t.places))
        rw [rounded_places] at hlimit
        omega
      · rw [h.coefficient_eq, heqp, rounded_places]
    · exfalso
      have hlimit := h.limit_le n hmore hpart hn
      rw [(hexact n (Nat.le_refl n) hpart).1, Nat.sub_self, tenPow_zero, Nat.mul_one] at hlimit
      omega
  · obtain ⟨hrounded, hvalue⟩ := hexact places hless h.places_le
    rw [h.coefficient_eq, hrounded, hvalue]

/-- **A number that some value denotes is not rounded.** -/
theorem KeptAs.toRat_eq {x y : Numeric} (h : t.KeptAs x) (hy : y.toRat = t.value) :
    x.toRat = t.value := by
  have hplaces : ∀ n, tenPow n ≠ 0 := fun n => Nat.ne_of_gt (tenPow_pos n)
  have hvalue := h.keeps.mul_eq y.coefficient_lt y.places_le
    (mul_eq_of_signedFraction_eq (hplaces _) (hplaces _) hy)
  rw [Numeric.toRat, h.negative_eq, signedFraction_and]
  exact signedFraction_congr _ (hplaces _) (hplaces _) hvalue

end WrittenNumeric

end Number

namespace Value

open SqlFilter.Number (Numeric WrittenNumeric)

theorem decodeText_numeric_eq (text : String) :
    decodeText "numeric" (some text) =
      TextType.expect "NUMERIC" text ((Numeric.ofChars? text.toList).map .numeric) := rfl

/-- **An exact number is read with as many places as can be kept.**  Where even the number rounded
to no places does not fit, the text is an error; otherwise what is read has as many of the written
places as fit, the digits behind them rounded, a half going away from zero.  A number that some
value denotes is read as that number. -/
theorem decodeText_numeric (t : WrittenNumeric) :
    (Numeric.limit ≤ t.rounded 0 →
      decodeText "numeric" (some t.text) = .error (TextType.invalid "NUMERIC" t.text)) ∧
    (t.rounded 0 < Numeric.limit →
      ∃ x, decodeText "numeric" (some t.text) = .ok (.numeric x) ∧ t.KeptAs x ∧
        ((∃ y : Numeric, y.toRat = t.value) → x.toRat = t.value)) := by
  have hchars : t.text.toList = t.chars := String.toList_ofList
  rw [decodeText_numeric_eq, hchars]
  rcases t.ofChars?_chars with ⟨hlarge, hnone⟩ | ⟨x, hx, hkept⟩
  · rw [hnone]
    exact ⟨fun _ => rfl, fun hsmall => absurd hlarge (Nat.not_le.2 hsmall)⟩
  · have hsmall : t.rounded 0 < Numeric.limit := by
      have hle := WrittenNumeric.rounded_le_rounded (t := t) (Nat.zero_le x.places)
      rw [← hkept.keeps.coefficient_eq] at hle
      exact Nat.lt_of_le_of_lt hle x.coefficient_lt
    rw [hx]
    refine ⟨fun hlarge => absurd hlarge (Nat.not_le.2 hsmall), fun _ => ⟨x, rfl, hkept, ?_⟩⟩
    rintro ⟨y, hy⟩
    exact hkept.toRat_eq hy

/-- At the bound of all values: half a unit below it there is an error, and a number whose rounding
with 28 places would be the bound is read with 27. -/
theorem decodeText_numeric_atLimit :
    (∃ t : WrittenNumeric, t.text = "79228162514264337593543950335.5" ∧
      Numeric.limit ≤ t.rounded 0 ∧
        decodeText "numeric" (some t.text) = .error (TextType.invalid "NUMERIC" t.text)) ∧
    ∃ t : WrittenNumeric, t.text = "-7.92281625142643375935439503355" ∧
      t.rounded 0 < Numeric.limit ∧
        ∃ x, decodeText "numeric" (some t.text) = .ok (.numeric x) ∧ t.KeptAs x := by
  let above : WrittenNumeric :=
    ⟨false, "79228162514264337593543950335".toList, ['5'], by decide, List.all_eq_true.1 rfl,
      List.all_eq_true.1 rfl⟩
  let below : WrittenNumeric :=
    ⟨true, ['7'], "92281625142643375935439503355".toList, by decide, List.all_eq_true.1 rfl,
      List.all_eq_true.1 rfl⟩
  have habove : Numeric.limit ≤ above.rounded 0 := by decide +kernel
  have hbelow : below.rounded 0 < Numeric.limit := by decide +kernel
  obtain ⟨x, hx, hkept, -⟩ := (decodeText_numeric below).2 hbelow
  exact ⟨⟨above, rfl, habove, (decodeText_numeric above).1 habove⟩, below, rfl, hbelow, x, hx,
    hkept⟩

/-- **A number with 29 places is read as zero**, though it is not zero. -/
theorem decodeText_numeric_tiny :
    ∃ t : WrittenNumeric, t.text = "0.00000000000000000000000000001" ∧
      ∃ x, decodeText "numeric" (some t.text) = .ok (.numeric x) ∧ x.toRat ≠ t.value := by
  have hread : Numeric.ofChars? "0.00000000000000000000000000001".toList =
      some ⟨false, 0, 28, by decide, by decide⟩ := by decide +kernel
  have hdecode : decodeText "numeric" (some "0.00000000000000000000000000001") =
      .ok (.numeric ⟨false, 0, 28, by decide, by decide⟩) := by
    rw [decodeText_numeric_eq, hread]
    rfl
  exact ⟨⟨false, ['0'], List.replicate 28 '0' ++ ['1'], by decide, List.all_eq_true.1 rfl,
    List.all_eq_true.1 rfl⟩, rfl, _, hdecode, by decide +kernel⟩

end Value

end SqlFilter

/-
**Decimal digits that are read back.**

A number is written with the digits of its value, after zeros when they are to have a certain width,
and a run of digits is read as the number it denotes.  The value of a run in two parts is the value
of the first one, moved by the length of the second, and that of the second: so zeros in front mean
nothing, and zeros behind the last digit of a fraction can be left out.

Main results:

* `SqlFilter.Number.digitsValue_paddedDigits`: padded digits denote the number;
* `SqlFilter.Number.length_paddedDigits`: a number that fits has the width asked for;
* `SqlFilter.Number.digitsValue_append`: the value of a run in two parts;
* `SqlFilter.Number.digitsValue_lt`: a run of digits is bounded by its length;
* `SqlFilter.Number.head?_toDigits_ne_zero`: a positive number has no zeros in front;
* `SqlFilter.Number.wholeNumber?_toString`: **a written whole number is read back**.
-/

import SqlFilter.Number.Numeric
import SqlFilter.Number.Power
import SqlFilter.Text.Blank

set_option relaxedAutoImplicit false
set_option autoImplicit false

namespace SqlFilter.Number

open SqlFilter.Number.Numeric (digitValue paddedDigits)
open SqlFilter.Text (isBlank)

/-! ### Runs of digits -/

/-- No digit is blank. -/
theorem isBlank_of_isDigit {c : Char} (h : c.isDigit = true) : isBlank c = false := by
  have hzero : '0'.toNat = 48 := rfl
  have hnine : '9'.toNat = 57 := rfl
  have hcode := Char.isDigit_iff_toNat.1 h
  simp [isBlank]
  omega

/-- The digits at the front of a text end in front of another text, if none follows there. -/
theorem takeWhile_isDigit_append (cs : List Char) {rest : List Char}
    (h : ∀ c ∈ rest.head?, c.isDigit = false) :
    (cs ++ rest).takeWhile Char.isDigit = cs.takeWhile Char.isDigit := by
  induction cs with
  | nil =>
      cases rest with
      | nil => rfl
      | cons c rest => simp [h c rfl]
  | cons c cs ih => rw [List.cons_append, List.takeWhile_cons, List.takeWhile_cons, ih]

/-- Digits end where no digit follows. -/
theorem span_isDigit_append {digits rest : List Char} (hdigits : ∀ c ∈ digits, c.isDigit = true)
    (hrest : ∀ c ∈ rest.head?, c.isDigit = false) :
    (digits ++ rest).takeWhile Char.isDigit = digits ∧
      (digits ++ rest).dropWhile Char.isDigit = rest := by
  rw [List.takeWhile_append_of_pos hdigits, List.dropWhile_append_of_pos hdigits]
  cases rest with
  | nil => exact ⟨List.append_nil digits, rfl⟩
  | cons c rest => simp [hrest c rfl]

@[simp] theorem digitsValue_toDigits (n : Nat) : digitsValue (Nat.toDigits 10 n) = n :=
  Nat.ofDigitChars_toDigits (by decide) (by decide)

/-- The digits of the first part of a run count for as many powers of ten as the second one has
digits. -/
theorem digitsValue_append (xs ys : List Char) :
    digitsValue (xs ++ ys) = tenPow ys.length * digitsValue xs + digitsValue ys := by
  rw [digitsValue, Nat.ofDigitChars_append, Nat.ofDigitChars_eq_ofDigitChars_zero]
  rfl

@[simp] theorem digitsValue_zeros (n : Nat) : digitsValue (List.replicate n '0') = 0 := by
  rw [digitsValue, Nat.ofDigitChars_replicate_zero, Nat.mul_zero]

/-- The digits of a number start with one. -/
theorem exists_toDigits_cons (n : Nat) :
    ∃ c cs, Nat.toDigits 10 n = c :: cs ∧ c.isDigit = true := by
  obtain ⟨c, cs, hcons⟩ := List.exists_cons_of_ne_nil (Nat.toDigits_ne_nil (b := 10) (n := n))
  have hmem : c ∈ Nat.toDigits 10 n := hcons ▸ List.mem_cons_self
  exact ⟨c, cs, hcons, Nat.isDigit_of_mem_toDigits (by decide) (by decide) hmem⟩

/-- The digits of a positive number do not start with a zero. -/
theorem head?_toDigits_ne_zero {n : Nat} (h : 0 < n) : (Nat.toDigits 10 n).head? ≠ some '0' := by
  induction n using Nat.strongRecOn with
  | ind n ih =>
      by_cases hsmall : n < 10
      · have hdigit : ∀ m : Fin 10, 0 < m.val → Nat.digitChar m.val ≠ '0' := by decide
        rw [Nat.toDigits_of_lt_base hsmall, List.head?_cons]
        intro heq
        exact hdigit ⟨n, hsmall⟩ h (Option.some.inj heq)
      · have hfront : 0 < n / 10 := by omega
        have hsplit : Nat.toDigits 10 (n / 10) ++ Nat.toDigits 10 (n % 10) = Nat.toDigits 10 n := by
          rw [Nat.toDigits_append_toDigits (by decide) hfront (Nat.mod_lt n (by decide)),
            Nat.div_add_mod]
        obtain ⟨d, ds, hcons, -⟩ := exists_toDigits_cons (n / 10)
        have hhead := ih (n / 10) (by omega) hfront
        rw [hcons] at hhead
        rw [← hsplit, hcons, List.cons_append, List.head?_cons]
        exact hhead

theorem digitValue_lt {c : Char} (h : c.isDigit = true) : digitValue c < 10 := by
  have hcode : c.toNat ≤ 57 := (Char.isDigit_iff_toNat.1 h).2
  have hzero : '0'.toNat = 48 := rfl
  rw [digitValue]
  omega

theorem digitsValue_singleton (c : Char) : digitsValue [c] = digitValue c := by
  rw [digitsValue, Nat.ofDigitChars_cons, Nat.ofDigitChars_nil, Nat.mul_zero, Nat.zero_add]
  rfl

/-- One more digit behind a run. -/
theorem digitsValue_concat (cs : List Char) (c : Char) :
    digitsValue (cs ++ [c]) = 10 * digitsValue cs + digitValue c := by
  rw [digitsValue_append, digitsValue_singleton]
  rfl

/-- More digits denote no less. -/
theorem digitsValue_le_append (xs ys : List Char) : digitsValue xs ≤ digitsValue (xs ++ ys) := by
  have hpos := tenPow_pos ys.length
  rw [digitsValue_append]
  exact Nat.le_trans (Nat.le_mul_of_pos_left _ hpos) (Nat.le_add_right _ _)

/-- A run of digits denotes less than the power of ten with as many zeros. -/
theorem digitsValue_lt {cs : List Char} (h : ∀ c ∈ cs, c.isDigit = true) :
    digitsValue cs < tenPow cs.length := by
  induction cs with
  | nil => decide
  | cons c cs ih =>
      have hone : digitsValue [c] ≤ 9 := by
        rw [digitsValue_singleton]
        exact Nat.le_of_lt_succ (digitValue_lt (h c List.mem_cons_self))
      have hrest := ih fun d hd => h d (List.mem_cons_of_mem c hd)
      have hsplit := digitsValue_append [c] cs
      have hscaled := Nat.mul_le_mul_left (tenPow cs.length) hone
      rw [List.singleton_append] at hsplit
      rw [List.length_cons, tenPow_succ]
      omega

/-! ### Padded digits -/

theorem isDigit_of_mem_paddedDigits {width n : Nat} {c : Char} (h : c ∈ paddedDigits width n) :
    c.isDigit = true := by
  rcases List.mem_append.1 h with hzero | hdigit
  · rw [List.eq_of_mem_replicate hzero]
    rfl
  · exact Nat.isDigit_of_mem_toDigits (by decide) (by decide) hdigit

theorem paddedDigits_ne_nil (width n : Nat) : paddedDigits width n ≠ [] := fun h =>
  Nat.toDigits_ne_nil (List.append_eq_nil_iff.1 h).2

/-- Padded digits denote the number. -/
@[simp] theorem digitsValue_paddedDigits (width n : Nat) :
    digitsValue (paddedDigits width n) = n := by
  rw [paddedDigits, digitsValue_append, digitsValue_zeros, digitsValue_toDigits, Nat.mul_zero,
    Nat.zero_add]

/-- A number that fits has the width asked for. -/
theorem length_paddedDigits {width n : Nat} (hwidth : 0 < width) (h : n < tenPow width) :
    (paddedDigits width n).length = width := by
  have hdigits : (Nat.toDigits 10 n).length ≤ width :=
    (Nat.length_toDigits_le_iff (by decide) hwidth).2 h
  rw [paddedDigits, List.length_append, List.length_replicate]
  omega

/-! ### Whole numbers -/

theorem unsignedNumber?_toDigits (n : Nat) : unsignedNumber? (Nat.toDigits 10 n) = some n := by
  have hdigits : (Nat.toDigits 10 n).all Char.isDigit = true :=
    List.all_eq_true.2 fun _ hc => Nat.isDigit_of_mem_toDigits (by decide) (by decide) hc
  simp [unsignedNumber?, Nat.toDigits_ne_nil, hdigits]

/-- A digit is no sign. -/
theorem takeSign_cons_of_isDigit {c : Char} (hc : c.isDigit = true) (cs : List Char) :
    takeSign (c :: cs) = (false, c :: cs) := by
  rw [takeSign]
  · rintro _ heq
    cases heq
    exact absurd hc (by decide)
  · rintro _ heq
    cases heq
    exact absurd hc (by decide)

/-- Digits have no sign in front. -/
theorem takeSign_of_isDigit {cs : List Char} (h : ∀ c ∈ cs, c.isDigit = true) :
    takeSign cs = (false, cs) := by
  cases cs with
  | nil => rfl
  | cons c cs => exact takeSign_cons_of_isDigit (h c List.mem_cons_self) cs

theorem toList_toString_ofNat (n : Nat) :
    (toString (Int.ofNat n)).toList = Nat.toDigits 10 n := Nat.toList_repr

theorem toList_toString_negSucc (n : Nat) :
    (toString (Int.negSucc n)).toList = '-' :: Nat.toDigits 10 (n + 1) := by
  show ("-" ++ Nat.repr (n + 1)).toList = _
  rw [String.toList_append, Nat.toList_repr]
  rfl

/-- **A written whole number is read back.** -/
theorem wholeNumber?_toString (n : Int) : wholeNumber? (toString n).toList = some n := by
  cases n with
  | ofNat n =>
      have hsign : takeSign (Nat.toDigits 10 n) = (false, Nat.toDigits 10 n) :=
        takeSign_of_isDigit fun _ hc => Nat.isDigit_of_mem_toDigits (by decide) (by decide) hc
      simp only [toList_toString_ofNat, wholeNumber?, hsign, unsignedNumber?_toDigits]
      rfl
  | negSucc n =>
      simp only [toList_toString_negSucc, wholeNumber?, takeSign, unsignedNumber?_toDigits]
      rfl

end SqlFilter.Number

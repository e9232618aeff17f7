/-
**Dates and times that are read back.**

What the server prints for a date or a time of day, the lenient readers take back off the front of a
text.  A reader of short numbers stops after as many digits as it may take, and padded numbers have
exactly as many; only the digits of a year that needs a sign, and those of a fraction, end at the
character behind them.

The server prints a fraction of a second in microseconds and without the zeros at its end.

Main definitions:

* `SqlFilter.Calendar.fractionText`: the fraction of a second as the server prints it;
* `SqlFilter.Calendar.Time.serverText`, `SqlFilter.Calendar.Moment.serverText`: a time of day and a
  moment as the server prints them.

Main results:

* `SqlFilter.Calendar.takeDate?_render`: a written date is taken back, whatever its year;
* `SqlFilter.Calendar.takeFraction?_fractionText`: a fraction of microseconds is taken back;
* `SqlFilter.Calendar.takeTime?_serverText`: a printed time of day is taken back;
* `SqlFilter.Calendar.Moment.ofChars?_serverText`: **a printed moment is read back**.
-/

import Mathlib.Data.List.DropRight
import SqlFilter.Calendar.Printer
import SqlFilter.Calendar.Reader
import SqlFilter.Proofs.Number.Digits

set_option relaxedAutoImplicit false
set_option autoImplicit false

namespace SqlFilter.Calendar

open SqlFilter.Number
open SqlFilter.Number.Numeric (paddedDigits)
open SqlFilter.Text (isBlank trimStart trimStart_cons)

/-! ### Numbers -/

/-- Digits are taken whole when they are as many as may be taken, or when no digit follows. -/
theorem takeUpTo?_append {most : Nat} {digits rest : List Char} (hne : digits ≠ [])
    (hdigits : ∀ c ∈ digits, c.isDigit = true)
    (hend : digits.length = most ∨
      digits.length ≤ most ∧ ∀ c ∈ rest.head?, c.isDigit = false) :
    takeUpTo? most (digits ++ rest) = some (digitsValue digits, rest) := by
  have htaken : ((digits ++ rest).take most).takeWhile Char.isDigit = digits := by
    rcases hend with rfl | ⟨hle, hrest⟩
    · rw [List.take_left, List.takeWhile_eq_self_iff]
      exact hdigits
    · have hfollow : ∀ c ∈ (rest.take (most - digits.length)).head?, c.isDigit = false := by
        intro c hc
        cases rest with
        | nil => simp at hc
        | cons d rest =>
            rw [List.head?_take] at hc
            split at hc
            · cases hc
            · exact hrest c hc
      rw [List.take_append, List.take_of_length_le hle, takeWhile_isDigit_append _ hfollow,
        List.takeWhile_eq_self_iff]
      exact hdigits
  rw [takeUpTo?]
  simp only [htaken, if_neg hne, List.drop_left]

theorem takeDigits?_append {digits rest : List Char} (hne : digits ≠ [])
    (hdigits : ∀ c ∈ digits, c.isDigit = true) (hrest : ∀ c ∈ rest.head?, c.isDigit = false) :
    takeDigits? (digits ++ rest) = some (digitsValue digits, rest) := by
  rw [takeDigits?]
  exact takeUpTo?_append hne hdigits (.inr ⟨by simp, hrest⟩)

/-- Nothing is dropped in front of digits. -/
theorem trimStart_append {digits : List Char} (hne : digits ≠ [])
    (hdigits : ∀ c ∈ digits, c.isDigit = true) (rest : List Char) :
    trimStart (digits ++ rest) = digits ++ rest := by
  cases digits with
  | nil => exact absurd rfl hne
  | cons c cs =>
      have hblank : isBlank c = false := isBlank_of_isDigit (hdigits c List.mem_cons_self)
      rw [List.cons_append, trimStart_cons, hblank]
      rfl

/-- A number of two digits is taken, whatever follows. -/
theorem takeShort?_paddedDigits {n : Nat} (h : n < 100) (rest : List Char) :
    takeShort? (paddedDigits 2 n ++ rest) = some (n, rest) := by
  have hdigits : ∀ c ∈ paddedDigits 2 n, c.isDigit = true := fun _ => isDigit_of_mem_paddedDigits
  have hlength : (paddedDigits 2 n).length = 2 := length_paddedDigits (by decide) h
  rw [takeShort?, trimStart_append (paddedDigits_ne_nil 2 n) hdigits,
    takeUpTo?_append (paddedDigits_ne_nil 2 n) hdigits (.inl hlength), digitsValue_paddedDigits]

/-! ### Dates -/

@[simp] theorem toList_padded (width n : Nat) : (padded width n).toList = paddedDigits width n :=
  String.toList_ofList

/-- A year without a sign has four digits. -/
theorem takeYear?_paddedDigits {n : Nat} (h : n ≤ 9999) (rest : List Char) :
    takeYear? (paddedDigits 4 n ++ rest) = some ((n : Int), rest) := by
  have hne : paddedDigits 4 n ≠ [] := paddedDigits_ne_nil 4 n
  have hdigits : ∀ c ∈ paddedDigits 4 n, c.isDigit = true := fun _ => isDigit_of_mem_paddedDigits
  have hlength : (paddedDigits 4 n).length = 4 :=
    length_paddedDigits (by decide) (Nat.lt_succ_of_le h)
  -- the first character is a digit, so that it is no sign
  have hfirst : ∀ c cs, paddedDigits 4 n ++ rest = c :: cs → c.isDigit = true := by
    intro c cs heq
    refine hdigits c (List.mem_of_mem_head? ?_)
    rw [← List.head?_append_of_ne_nil _ hne, heq]
    rfl
  rw [takeYear?, trimStart_append hne hdigits]
  split
  · next heq => exact absurd (hfirst _ _ heq) (by decide)
  · next heq => exact absurd (hfirst _ _ heq) (by decide)
  · rw [takeUpTo?_append hne hdigits (.inl hlength), digitsValue_paddedDigits]
    rfl

/-- A written year is taken back, whatever it is, if no digit follows. -/
theorem takeYear?_renderYear (year : Int) {rest : List Char}
    (hrest : ∀ c ∈ rest.head?, c.isDigit = false) :
    takeYear? ((renderYear year).toList ++ rest) = some (year, rest) := by
  have hdigits : ∀ c ∈ paddedDigits 4 year.natAbs, c.isDigit = true := fun _ =>
    isDigit_of_mem_paddedDigits
  have htaken : takeDigits? (paddedDigits 4 year.natAbs ++ rest) = some (year.natAbs, rest) := by
    rw [takeDigits?_append (paddedDigits_ne_nil 4 _) hdigits hrest, digitsValue_paddedDigits]
  rw [renderYear]
  split
  · next hshort =>
      rw [toList_padded, takeYear?_paddedDigits (by omega), Int.toNat_of_nonneg hshort.1]
  · split
    · next hnegative =>
        have hsign : trimStart ('-' :: (paddedDigits 4 year.natAbs ++ rest)) =
            '-' :: (paddedDigits 4 year.natAbs ++ rest) := trimStart_cons _ _
        have hyear : -(year.natAbs : Int) = year := by omega
        have htext : ("-" ++ padded 4 year.natAbs).toList ++ rest =
            '-' :: (paddedDigits 4 year.natAbs ++ rest) := by simp
        rw [htext, takeYear?, hsign]
        simp only [htaken, Option.map_some, hyear]
    · next hpositive =>
        have hsign : trimStart ('+' :: (paddedDigits 4 year.natAbs ++ rest)) =
            '+' :: (paddedDigits 4 year.natAbs ++ rest) := trimStart_cons _ _
        have hyear : (year.natAbs : Int) = year := by omega
        have htext : ("+" ++ padded 4 year.natAbs).toList ++ rest =
            '+' :: (paddedDigits 4 year.natAbs ++ rest) := by simp
        rw [htext, takeYear?, hsign]
        simp only [htaken, Option.map_some, hyear]

/-- No month has more than thirty-one days, and there are twelve. -/
theorem Date.month_day_le (d : Date) : d.month ≤ 12 ∧ d.day ≤ 31 := by
  have hday := d.day_mem
  have hlong : ∀ n ∈ monthLengths (isLeap d.year), n ≤ 31 := by
    cases isLeap d.year with
    | false => decide
    | true => decide
  rw [daysInMonth, List.getD_eq_getElem?_getD] at hday
  split at hday
  · omega
  · cases hmonth : (monthLengths (isLeap d.year))[d.month - 1]? with
    | none =>
        rw [hmonth, Option.getD_none] at hday
        omega
    | some n =>
        have hlt : d.month - 1 < 12 := (List.getElem?_eq_some_iff.1 hmonth).1
        have hle : n ≤ 31 := hlong n (List.mem_of_getElem? hmonth)
        rw [hmonth, Option.getD_some] at hday
        omega

/-- A written date is taken back, whatever its year and whatever follows. -/
theorem takeDate?_render (d : Date) (rest : List Char) :
    takeDate? (d.render.toList ++ rest) = some (d, rest) := by
  have hle := d.month_day_le
  have htext : d.render.toList ++ rest = (renderYear d.year).toList ++
      '-' :: (paddedDigits 2 d.month ++ '-' :: (paddedDigits 2 d.day ++ rest)) := by
    simp [Date.render]
  have hhyphen : ∀ cs, ∀ c ∈ ('-' :: cs).head?, c.isDigit = false := by simp
  have hmonth := takeShort?_paddedDigits (n := d.month) (by omega)
    ('-' :: (paddedDigits 2 d.day ++ rest))
  have hday := takeShort?_paddedDigits (n := d.day) (by omega) rest
  rw [htext, takeDate?]
  simp [takeYear?_renderYear d.year (hhyphen _), hmonth, hday, takeChar?]

/-- The year is one that the server writes with four digits and nothing else. -/
def Date.IsCommon (d : Date) : Prop := 1 ≤ d.year ∧ d.year ≤ 9999

theorem Date.ofChars?_render (d : Date) : Date.ofChars? d.render.toList = some d := by
  have htaken := takeDate?_render d []
  rw [List.append_nil] at htaken
  rw [Date.ofChars?, htaken]

/-! ### Fractions of a second -/

/-- The digits of a fraction of microseconds without the zeros at its end. -/
def fractionDigits (micros : Nat) : List Char :=
  (paddedDigits 6 micros).rdropWhile (· == '0')

/-- The fraction of a second as the server prints it, in microseconds; nothing when there are
none. -/
def fractionText (nanosecond : Nat) : String :=
  if nanosecond = 0 then "" else "." ++ String.ofList (fractionDigits (nanosecond / 1000))

theorem isDigit_of_mem_fractionDigits {micros : Nat} {c : Char} (h : c ∈ fractionDigits micros) :
    c.isDigit = true :=
  isDigit_of_mem_paddedDigits ((List.rdropWhile_prefix _ _).subset h)

/-- The zeros that are left out are those up to the sixth digit. -/
theorem exists_zeros (micros : Nat) :
    ∃ k, fractionDigits micros ++ List.replicate k '0' = paddedDigits 6 micros := by
  have hzeros : (paddedDigits 6 micros).rtakeWhile (· == '0') =
      List.replicate ((paddedDigits 6 micros).rtakeWhile (· == '0')).length '0' := by
    refine List.eq_replicate_iff.2 ⟨rfl, fun c hc => ?_⟩
    simpa using List.mem_rtakeWhile_imp hc
  exact ⟨_, hzeros ▸ List.rdropWhile_append_rtakeWhile⟩

/-- Zeros at the end of a fraction do not count. -/
theorem nanosecondsOf_fractionDigits {micros : Nat} (h : micros < 1000000) :
    nanosecondsOf (fractionDigits micros) = 1000 * micros := by
  obtain ⟨k, hsplit⟩ := exists_zeros micros
  have hlength := congrArg List.length hsplit
  rw [List.length_append, List.length_replicate, length_paddedDigits (by decide) h] at hlength
  have hvalue := congrArg digitsValue hsplit
  rw [digitsValue_append, digitsValue_zeros, digitsValue_paddedDigits, List.length_replicate,
    Nat.add_zero] at hvalue
  have htake : (fractionDigits micros).take 9 = fractionDigits micros :=
    List.take_of_length_le (by omega)
  have hmissing : 9 - (fractionDigits micros).length = k + 3 := by omega
  have hpower : tenPow (k + 3) = 1000 * tenPow k := by
    rw [tenPow_succ, tenPow_succ, tenPow_succ]
    omega
  rw [nanosecondsOf, htake, hmissing, hpower, Nat.mul_comm, Nat.mul_assoc, hvalue]

/-- The digits behind a point are taken as a fraction. -/
theorem takeFraction?_digits {digits rest : List Char} (hne : digits ≠ [])
    (hdigits : ∀ c ∈ digits, c.isDigit = true) (hrest : ∀ c ∈ rest.head?, c.isDigit = false) :
    takeFraction? ('.' :: (digits ++ rest)) = some (nanosecondsOf digits, rest) := by
  obtain ⟨htake, hdrop⟩ := span_isDigit_append hdigits hrest
  rw [takeFraction?]
  simp only [htake, hdrop, if_neg hne]

/-- A fraction of microseconds is taken back. -/
theorem takeFraction?_fractionText {n : Nat} (hlt : n < nanosPerSecond) (hmicros : 1000 ∣ n) :
    takeFraction? (fractionText n).toList = some (n, []) := by
  rw [fractionText]
  split
  · next hzero =>
      rw [hzero]
      rfl
  · next hpos =>
      have hsmall : n / 1000 < 1000000 := by
        rw [nanosPerSecond] at hlt
        omega
      have hvalue : nanosecondsOf (fractionDigits (n / 1000)) = n := by
        rw [nanosecondsOf_fractionDigits hsmall, Nat.mul_div_cancel' hmicros]
      have hne : fractionDigits (n / 1000) ≠ [] := by
        intro hnil
        rw [hnil] at hvalue
        exact hpos hvalue.symm
      have hend : ∀ c ∈ ([] : List Char).head?, c.isDigit = false := by simp
      have htaken := takeFraction?_digits hne (fun _ => isDigit_of_mem_fractionDigits) hend
      rw [List.append_nil, hvalue] at htaken
      simpa using htaken

example : fractionText 120000000 = ".12" ∧ takeFraction? ".12".toList = some (120000000, []) := by
  decide

/-! ### Times of day -/

namespace Time

/-- The second has a fraction of at most six digits and is no leap second. -/
structure IsMicro (t : Time) : Prop where
  nanosecond_lt : t.nanosecond < nanosPerSecond
  dvd : 1000 ∣ t.nanosecond

/-- A time of day as the server prints it. -/
def serverText (t : Time) : String :=
  padded 2 t.hour ++ ":" ++ padded 2 t.minute ++ ":" ++ padded 2 t.second ++
    fractionText t.nanosecond

theorem toList_serverText (t : Time) :
    t.serverText.toList = paddedDigits 2 t.hour ++ ':' :: (paddedDigits 2 t.minute ++
      ':' :: (paddedDigits 2 t.second ++ (fractionText t.nanosecond).toList)) := by
  simp [serverText]

end Time

@[simp] theorem takeChar?_cons_self (c : Char) (cs : List Char) :
    takeChar? c (c :: cs) = some cs := if_pos rfl

/-- A time whose second is no leap second is one that may be written. -/
theorem Time.ofWritten?_self {t : Time} (h : t.nanosecond < nanosPerSecond) :
    ofWritten? t.hour t.minute t.second t.nanosecond = some t := by
  have hsecond := t.second_lt
  rw [ofWritten?, if_neg (by omega), if_pos h, ofParts?_self (leapsAtEnd_of_lt h)]

/-- A time of day is taken with whatever is taken as its fraction, second 60 too. -/
theorem takeTime?_of_takeFraction? {t : Time} {second nanosecond : Nat} {fraction rest : List Char}
    (hsecond : second < 100)
    (hwritten : Time.ofWritten? t.hour t.minute second nanosecond = some t)
    (h : takeFraction? fraction = some (nanosecond, rest)) :
    takeTime? (paddedDigits 2 t.hour ++ ':' :: (paddedDigits 2 t.minute ++
      ':' :: (paddedDigits 2 second ++ fraction))) = some (t, rest) := by
  have hhour := t.hour_lt
  have hminute := t.minute_lt
  simp only [takeTime?, takeShort?_paddedDigits (show t.hour < 100 by omega),
    takeShort?_paddedDigits (show t.minute < 100 by omega), takeShort?_paddedDigits hsecond,
    takeChar?_cons_self, h, hwritten, Option.bind_eq_bind, Option.bind_some]

/-- A printed time of day is taken back. -/
theorem takeTime?_serverText {t : Time} (h : t.IsMicro) :
    takeTime? t.serverText.toList = some (t, []) := by
  have hsecond := t.second_lt
  rw [Time.toList_serverText]
  exact takeTime?_of_takeFraction? (by omega) (Time.ofWritten?_self h.nanosecond_lt)
    (takeFraction?_fractionText h.nanosecond_lt h.dvd)

theorem Time.ofChars?_serverText {t : Time} (h : t.IsMicro) :
    Time.ofChars? t.serverText.toList = some t := by
  rw [Time.ofChars?, takeTime?_serverText h]

/-! ### Moments -/

/-- A moment as the server prints it. -/
def Moment.serverText (m : Moment) : String := m.date.render ++ " " ++ m.time.serverText

/-- **A printed moment is read back.** -/
theorem Moment.ofChars?_serverText {m : Moment} (h : m.time.IsMicro) :
    Moment.ofChars? .blanks m.serverText.toList = some m := by
  have htext : m.serverText.toList = m.date.render.toList ++ ' ' :: m.time.serverText.toList := by
    simp [Moment.serverText]
  have hseparator : trimStart (' ' :: m.time.serverText.toList) = m.time.serverText.toList := by
    rw [trimStart_cons, if_pos (by decide), Time.toList_serverText,
      trimStart_append (paddedDigits_ne_nil 2 _) fun _ => isDigit_of_mem_paddedDigits]
  rw [Moment.ofChars?, takeMoment?, htext, takeDate?_render]
  simp [Separator.take?, hseparator, takeTime?_serverText h]

end SqlFilter.Calendar

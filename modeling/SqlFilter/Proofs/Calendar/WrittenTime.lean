/-
**Dates, times and offsets as they are written.**

A time of day is written with two digits for each of its numbers and perhaps a fraction of a second
of up to nine digits.  An offset is written with a sign and with its minutes after a colon, without
one, or not at all when there are none.  The reader of the fixed spelling and the lenient one take a
written time off the front of a text in the same way; of the offsets the lenient reader takes every
one, and the reader of the fixed spelling only the letter of universal time and those with a colon.

Main definitions:

* `SqlFilter.Calendar.WrittenTime`, `SqlFilter.Calendar.WrittenOffset`: a time of day and an offset
  as they are written;
* `SqlFilter.Calendar.SpellsTime`: texts that both readers take as a time;
* `SqlFilter.Calendar.Zone`: what is written behind a time;
* `SqlFilter.Calendar.Date.HasShortYear`: the dates of the fixed spelling.

Main results:

* `SqlFilter.Calendar.takeFixedDate?_render`: the dates with a short year are those that the reader
  of the fixed spelling takes back;
* `SqlFilter.Calendar.WrittenTime.spellsTime`: a written time is taken back by both readers;
* `SqlFilter.Calendar.takeFixedOffset?_text`, `SqlFilter.Calendar.lenientOffset?_text`: which
  offsets are taken by which reader.
-/

import SqlFilter.Proofs.Calendar.Spelling

set_option relaxedAutoImplicit false
set_option autoImplicit false

namespace SqlFilter.Calendar

open SqlFilter.Number
open SqlFilter.Number.Numeric (paddedDigits)
open SqlFilter.Text (isBlank trimStart trimStart_cons)

/-! ### Written times -/

/-- A time of day as it is written: hours, minutes, seconds and the digits of a fraction, of which
there may be none. -/
structure WrittenTime where
  hour : Nat
  minute : Nat
  second : Nat
  fraction : List Char
  hour_lt : hour < 24
  minute_lt : minute < 60
  second_lt : second < 60
  fraction_digits : ∀ c ∈ fraction, c.isDigit = true
  fraction_le : fraction.length ≤ 9

namespace WrittenTime

/-- The text of a fraction of a second: a point and the digits, or nothing. -/
def fractionText (t : WrittenTime) : List Char :=
  if t.fraction = [] then [] else '.' :: t.fraction

/-- The text of a time of day. -/
def text (t : WrittenTime) : List Char :=
  paddedDigits 2 t.hour ++ ':' :: (paddedDigits 2 t.minute ++
    ':' :: (paddedDigits 2 t.second ++ t.fractionText))

/-- The nanoseconds that the fraction denotes. -/
def nanosecond (t : WrittenTime) : Nat :=
  digitsValue t.fraction * tenPow (9 - t.fraction.length)

theorem nanosecond_lt (t : WrittenTime) : t.nanosecond < nanosPerSecond := by
  have hvalue := digitsValue_lt t.fraction_digits
  have hpower : tenPow t.fraction.length * tenPow (9 - t.fraction.length) = nanosPerSecond := by
    have hle := t.fraction_le
    show 10 ^ t.fraction.length * 10 ^ (9 - t.fraction.length) = 10 ^ 9
    rw [← Nat.pow_add, Nat.add_sub_cancel' hle]
  rw [nanosecond, ← hpower]
  exact Nat.mul_lt_mul_of_pos_right hvalue (tenPow_pos _)

/-- The time of day that is written. -/
def time (t : WrittenTime) : Time :=
  ⟨t.hour, t.minute, t.second, t.nanosecond, t.hour_lt, t.minute_lt, t.second_lt,
    Nat.lt_trans t.nanosecond_lt (by decide)⟩

theorem time_nanosecond_lt (t : WrittenTime) : t.time.nanosecond < nanosPerSecond :=
  t.nanosecond_lt

end WrittenTime

/-- A text that ends a time: it goes on with no digit and no point. -/
def EndsTime (rest : List Char) : Prop := ∀ c ∈ rest.head?, c.isDigit = false ∧ c ≠ '.'

/-- No fraction is taken where there is none. -/
theorem takeFraction?_of_endsTime {rest : List Char} (hrest : EndsTime rest) :
    takeFraction? rest = some (0, rest) := by
  rw [takeFraction?]
  intro cs hcs
  rw [hcs] at hrest
  exact (hrest '.' rfl).2 rfl

/-- A written fraction is taken back. -/
theorem takeFraction?_text (t : WrittenTime) {rest : List Char} (hrest : EndsTime rest) :
    takeFraction? (t.fractionText ++ rest) = some (t.nanosecond, rest) := by
  rw [WrittenTime.fractionText]
  split
  · next hnone =>
      have hnanosecond : t.nanosecond = 0 := by
        rw [WrittenTime.nanosecond, hnone]
        rfl
      rw [hnanosecond, List.nil_append, takeFraction?_of_endsTime hrest]
  · next hsome =>
      have hhead : ∀ c ∈ rest.head?, c.isDigit = false := fun c hc => (hrest c hc).1
      have hnanoseconds : nanosecondsOf t.fraction = t.nanosecond := by
        rw [nanosecondsOf, List.take_of_length_le t.fraction_le, WrittenTime.nanosecond]
      rw [List.cons_append, takeFraction?_digits hsome t.fraction_digits hhead, hnanoseconds]

/-- Exactly as many digits as were written are taken. -/
theorem takeExactly?_paddedDigits {width n : Nat} (hwidth : 0 < width) (h : n < tenPow width)
    (rest : List Char) : takeExactly? width (paddedDigits width n ++ rest) = some (n, rest) := by
  have hlength := length_paddedDigits hwidth h
  have hdigits : (paddedDigits width n).all Char.isDigit = true :=
    List.all_eq_true.2 fun _ => isDigit_of_mem_paddedDigits
  rw [takeExactly?]
  simp only [List.take_left' hlength, List.drop_left' hlength, hlength, hdigits, and_self, if_true,
    digitsValue_paddedDigits]

/-- Two digits are taken from a number that has no more. -/
theorem takeTwo?_paddedDigits {n : Nat} (h : n < 100) (rest : List Char) :
    takeExactly? 2 (paddedDigits 2 n ++ rest) = some (n, rest) :=
  takeExactly?_paddedDigits (by decide) h rest

theorem takeTwo?_paddedDigits_self {n : Nat} (h : n < 100) :
    takeExactly? 2 (paddedDigits 2 n) = some (n, []) := by
  rw [← takeTwo?_paddedDigits h [], List.append_nil]

/-- The reader of the fixed spelling takes a time of day with whatever is taken as its fraction,
second 60 too. -/
theorem takeFixedTime?_of_takeFraction? {t : Time} {second nanosecond : Nat}
    {fraction rest : List Char} (hsecond : second < 100)
    (hwritten : Time.ofWritten? t.hour t.minute second nanosecond = some t)
    (h : takeFraction? fraction = some (nanosecond, rest)) :
    takeFixedTime? (paddedDigits 2 t.hour ++ ':' :: (paddedDigits 2 t.minute ++
      ':' :: (paddedDigits 2 second ++ fraction))) = some (t, rest) := by
  have hhour := t.hour_lt
  have hminute := t.minute_lt
  simp only [takeFixedTime?, takeTwo?_paddedDigits (show t.hour < 100 by omega),
    takeTwo?_paddedDigits (show t.minute < 100 by omega), takeTwo?_paddedDigits hsecond,
    takeChar?_cons_self, h, hwritten, Option.bind_eq_bind, Option.bind_some]

/-- The text has no blanks, and both readers take it as the time, whatever ends it. -/
structure SpellsTime (cs : List Char) (t : Time) : Prop where
  ne_nil : cs ≠ []
  blankless : ∀ c ∈ cs, isBlank c = false
  fixed : ∀ {rest}, EndsTime rest → takeFixedTime? (cs ++ rest) = some (t, rest)
  lenient : ∀ {rest}, EndsTime rest → takeTime? (cs ++ rest) = some (t, rest)

namespace SpellsTime

/-- Two digits for each number and a fraction that is taken spell a time. -/
theorem of_takeFraction? {t : Time} {second nanosecond : Nat} {fraction : List Char}
    (hsecond : second < 100)
    (hwritten : Time.ofWritten? t.hour t.minute second nanosecond = some t)
    (hblankless : ∀ c ∈ fraction, isBlank c = false)
    (h : ∀ {rest}, EndsTime rest → takeFraction? (fraction ++ rest) = some (nanosecond, rest)) :
    SpellsTime (paddedDigits 2 t.hour ++ ':' :: (paddedDigits 2 t.minute ++
      ':' :: (paddedDigits 2 second ++ fraction))) t where
  ne_nil := by simp
  blankless := by
    intro c hc
    simp only [List.mem_append, List.mem_cons] at hc
    rcases hc with hhour | rfl | hminute | rfl | hdigit | hfraction
    · exact isBlank_of_isDigit (isDigit_of_mem_paddedDigits hhour)
    · rfl
    · exact isBlank_of_isDigit (isDigit_of_mem_paddedDigits hminute)
    · rfl
    · exact isBlank_of_isDigit (isDigit_of_mem_paddedDigits hdigit)
    · exact hblankless c hfraction
  fixed := by
    intro rest hrest
    simp only [List.append_assoc, List.cons_append]
    exact takeFixedTime?_of_takeFraction? hsecond hwritten (h hrest)
  lenient := by
    intro rest hrest
    simp only [List.append_assoc, List.cons_append]
    exact takeTime?_of_takeFraction? hsecond hwritten (h hrest)

/-- Nothing is dropped in front of a time. -/
theorem trimStart_append {cs : List Char} {t : Time} (h : SpellsTime cs t) (rest : List Char) :
    trimStart (cs ++ rest) = cs ++ rest := by
  obtain ⟨c, cs, rfl⟩ := List.exists_cons_of_ne_nil h.ne_nil
  rw [List.cons_append, trimStart_cons, h.blankless c List.mem_cons_self]
  rfl

end SpellsTime

/-- **A written time is taken back by both readers.** -/
theorem WrittenTime.spellsTime (t : WrittenTime) : SpellsTime t.text t.time := by
  have hsecond := t.time.second_lt
  refine SpellsTime.of_takeFraction? (by omega) (Time.ofWritten?_self t.time_nanosecond_lt) ?_
    fun hrest => takeFraction?_text t hrest
  intro c hc
  rw [fractionText] at hc
  split at hc
  · cases hc
  · rcases List.mem_cons.1 hc with rfl | hdigit
    · rfl
    · exact isBlank_of_isDigit (t.fraction_digits c hdigit)

/-! ### Written dates -/

/-- The year is one that four digits write. -/
def Date.HasShortYear (d : Date) : Prop := 0 ≤ d.year ∧ d.year ≤ 9999

instance (d : Date) : Decidable d.HasShortYear := inferInstanceAs (Decidable (_ ∧ _))

theorem Date.toList_render {d : Date} (h : d.HasShortYear) :
    d.render.toList = paddedDigits 4 d.year.toNat ++
      '-' :: (paddedDigits 2 d.month ++ '-' :: paddedDigits 2 d.day) := by
  obtain ⟨hlow, hhigh⟩ := h
  simp [Date.render, renderYear, hlow, hhigh]

/-- A year that is not short has a sign in front. -/
theorem renderYear_of_not_short {year : Int} (h : ¬(0 ≤ year ∧ year ≤ 9999)) :
    ∃ sign, (sign = '-' ∨ sign = '+') ∧
      (renderYear year).toList = sign :: paddedDigits 4 year.natAbs := by
  rw [renderYear, if_neg h]
  split
  · exact ⟨'-', .inl rfl, by simp⟩
  · exact ⟨'+', .inr rfl, by simp⟩

/-- A date with a short year is taken back by the reader of the fixed spelling, and no other date
is. -/
theorem takeFixedDate?_render (d : Date) (rest : List Char) :
    takeFixedDate? (d.render.toList ++ rest) = if d.HasShortYear then some (d, rest) else none := by
  have hle := d.month_day_le
  split
  · next h =>
      have hyear : ((d.year.toNat : Nat) : Int) = d.year := Int.toNat_of_nonneg h.1
      have hfour : d.year.toNat < tenPow 4 := by
        obtain ⟨hlow, hhigh⟩ := h
        show d.year.toNat < 10000
        omega
      simp only [takeFixedDate?, Date.toList_render h, List.append_assoc, List.cons_append,
        takeExactly?_paddedDigits (show 0 < 4 by decide) hfour,
        takeTwo?_paddedDigits (show d.month < 100 by omega),
        takeTwo?_paddedDigits (show d.day < 100 by omega), takeChar?_cons_self, hyear,
        Date.ofParts?_self, Option.bind_eq_bind, Option.bind_some]
  · next h =>
      -- the sign in front is no digit
      obtain ⟨sign, hsign, htext⟩ := renderYear_of_not_short h
      have hdigit : sign.isDigit = false := by
        rcases hsign with rfl | rfl
        · rfl
        · rfl
      simp [takeFixedDate?, Date.render, htext, takeExactly?, hdigit]

/-! ### Written offsets -/

/-- How the minutes of an offset are written: after a colon, at once, or not at all. -/
inductive OffsetStyle where
  | colon
  | compact
  | hours
  deriving Repr, DecidableEq

/-- An offset of whole minutes as it is written; the minutes may be left out when there are
none. -/
structure WrittenOffset where
  negative : Bool
  hours : Nat
  minutes : Nat
  style : OffsetStyle
  hours_lt : hours < 24
  minutes_lt : minutes < 60
  whole : style = .hours → minutes = 0

namespace WrittenOffset

/-- The sign of an offset. -/
def sign (o : WrittenOffset) : Char := if o.negative then '-' else '+'

/-- The text of the minutes within the hour. -/
def minutesText (o : WrittenOffset) : List Char :=
  match o.style with
  | .colon => ':' :: paddedDigits 2 o.minutes
  | .compact => paddedDigits 2 o.minutes
  | .hours => []

/-- The text of an offset. -/
def text (o : WrittenOffset) : List Char := o.sign :: (paddedDigits 2 o.hours ++ o.minutesText)

/-- All minutes of an offset. -/
def value (o : WrittenOffset) : Int := offsetMinutes o.negative o.hours o.minutes

theorem value_lt (o : WrittenOffset) : -1440 < o.value ∧ o.value < 1440 := by
  have hhours := o.hours_lt
  have hminutes := o.minutes_lt
  rw [value, offsetMinutes]
  split <;> omega

theorem takeOffsetSign?_sign (o : WrittenOffset) (cs : List Char) :
    takeOffsetSign? (o.sign :: cs) = some (o.negative, cs) := by
  rw [sign]
  cases o.negative with
  | false => rfl
  | true => rfl

/-- A sign is none of the characters that stand for something else behind a time. -/
theorem sign_ne (o : WrittenOffset) :
    o.sign ≠ 'Z' ∧ o.sign ≠ 'z' ∧ o.sign ≠ '.' ∧ o.sign.isDigit = false ∧
      isBlank o.sign = false := by
  rw [sign]
  cases o.negative with
  | false => decide
  | true => decide

end WrittenOffset

/-- What is written behind a time: nothing, the letter of universal time, or an offset. -/
inductive Zone where
  | unwritten
  | universal
  | offset (o : WrittenOffset)

namespace Zone

/-- The text behind a time. -/
def text : Zone → List Char
  | unwritten => []
  | universal => ['Z']
  | offset o => o.text

/-- The minutes that the local time is ahead of universal time. -/
def minutes : Zone → Int
  | unwritten => 0
  | universal => 0
  | offset o => o.value

/-- Whether the fixed spelling has it. -/
def isFixed : Zone → Bool
  | unwritten => false
  | universal => true
  | offset o => o.style == .colon

/-- Whether there is anything. -/
def isWritten : Zone → Bool
  | unwritten => false
  | universal => true
  | offset _ => true

theorem eq_unwritten {z : Zone} (h : z.isWritten = false) : z = unwritten := by
  cases z with
  | unwritten => rfl
  | universal => cases h
  | offset o => cases h

theorem minutes_lt (z : Zone) : -1440 < z.minutes ∧ z.minutes < 1440 := by
  cases z with
  | unwritten => decide
  | universal => decide
  | offset o => exact o.value_lt

theorem endsTime_text (z : Zone) : EndsTime z.text := by
  intro c hc
  cases z with
  | unwritten => cases hc
  | universal =>
      cases hc
      decide
  | offset o =>
      obtain ⟨-, -, hpoint, hdigit, -⟩ := o.sign_ne
      cases hc
      exact ⟨hdigit, hpoint⟩

end Zone

/-- Padded digits begin with a digit. -/
theorem paddedDigits_eq_cons (width n : Nat) :
    ∃ c cs, paddedDigits width n = c :: cs ∧ c.isDigit = true := by
  obtain ⟨c, cs, heq⟩ := List.exists_cons_of_ne_nil (paddedDigits_ne_nil width n)
  refine ⟨c, cs, heq, ?_⟩
  exact isDigit_of_mem_paddedDigits (heq ▸ List.mem_cons_self : c ∈ paddedDigits width n)

theorem takeChar?_colon_paddedDigits (width n : Nat) :
    takeChar? ':' (paddedDigits width n) = none := by
  obtain ⟨c, cs, heq, hc⟩ := paddedDigits_eq_cons width n
  rw [heq, takeChar?, if_neg]
  rintro rfl
  cases hc

/-- The reader of the fixed spelling takes the letter of universal time and offsets with a colon,
and nothing else. -/
theorem takeFixedOffset?_text (z : Zone) :
    takeFixedOffset? z.text = if z.isFixed then some (z.minutes, []) else none := by
  cases z with
  | unwritten => rfl
  | universal => rfl
  | offset o =>
      have hhours := o.hours_lt
      have hminutes := o.minutes_lt
      have htwo := takeTwo?_paddedDigits_self (show o.minutes < 100 by omega)
      obtain ⟨hupper, hlower, -⟩ := o.sign_ne
      rw [Zone.text, WrittenOffset.text, takeFixedOffset?]
      · simp only [o.takeOffsetSign?_sign, takeTwo?_paddedDigits (show o.hours < 100 by omega),
          WrittenOffset.minutesText, Option.bind_eq_bind, Option.bind_some]
        -- behind the hours only a colon is taken
        cases hstyle : o.style with
        | colon =>
            simp [htwo, hhours, hminutes, Zone.isFixed, hstyle, Zone.minutes,
              WrittenOffset.value]
        | compact => simp [takeChar?_colon_paddedDigits, Zone.isFixed, hstyle]
        | hours => simp [takeChar?, Zone.isFixed, hstyle]
      · intro cs hcs
        exact hupper (List.cons.inj hcs).1
      · intro cs hcs
        exact hlower (List.cons.inj hcs).1

/-- No gap is skipped in front of digits. -/
theorem dropWhile_isOffsetGap_paddedDigits (width n : Nat) :
    (paddedDigits width n).dropWhile isOffsetGap = paddedDigits width n := by
  obtain ⟨c, cs, heq, hc⟩ := paddedDigits_eq_cons width n
  have hcolon : c ≠ ':' := by
    rintro rfl
    cases hc
  have hgap : isOffsetGap c = false := by
    simp [isOffsetGap, hcolon, isBlank_of_isDigit hc]
  rw [heq, List.dropWhile_cons, if_neg (by simp [hgap])]

/-- What is left of the minutes when the gap in front of them is skipped. -/
theorem WrittenOffset.dropWhile_minutesText (o : WrittenOffset) :
    o.minutesText.dropWhile isOffsetGap =
      if o.style = .hours then [] else paddedDigits 2 o.minutes := by
  have hskip := dropWhile_isOffsetGap_paddedDigits 2 o.minutes
  rw [minutesText]
  cases o.style with
  | colon =>
      rw [List.dropWhile_cons, if_pos (by decide), hskip]
      rfl
  | compact => exact hskip
  | hours => rfl

/-- The lenient reader takes whatever is written behind a time. -/
theorem lenientOffset?_text (z : Zone) :
    lenientOffset? z.text = if z.isWritten then some z.minutes else none := by
  cases z with
  | unwritten => rfl
  | universal => rfl
  | offset o =>
      have hhours := o.hours_lt
      have hminutes := o.minutes_lt
      have htwo := takeTwo?_paddedDigits_self (show o.minutes < 100 by omega)
      obtain ⟨hupper, hlower, -, -, hblank⟩ := o.sign_ne
      have hstart : trimStart o.text = o.text := by
        rw [WrittenOffset.text, trimStart_cons, hblank]
        rfl
      rw [Zone.text, lenientOffset?, hstart, WrittenOffset.text]
      split
      · next hz => exact absurd (List.cons.inj hz).1 hupper
      · next hz => exact absurd (List.cons.inj hz).1 hlower
      · simp only [o.takeOffsetSign?_sign, takeTwo?_paddedDigits (show o.hours < 100 by omega),
          Option.bind_eq_bind, Option.bind_some, if_neg (Nat.not_le.2 hhours),
          o.dropWhile_minutesText]
        by_cases hstyle : o.style = .hours
        · -- minutes that are not written are none
          rw [if_pos hstyle]
          simp [Zone.isWritten, Zone.minutes, WrittenOffset.value, o.whole hstyle]
        · obtain ⟨c, cs, heq, -⟩ := paddedDigits_eq_cons 2 o.minutes
          rw [heq] at htwo
          rw [if_neg hstyle, heq]
          simp [htwo, hminutes, Zone.isWritten, Zone.minutes, WrittenOffset.value]

/-! ### No blanks -/

theorem isBlank_paddedDigits {width n : Nat} {c : Char} (h : c ∈ paddedDigits width n) :
    isBlank c = false :=
  isBlank_of_isDigit (isDigit_of_mem_paddedDigits h)

theorem isBlank_renderYear {year : Int} {c : Char} (hc : c ∈ (renderYear year).toList) :
    isBlank c = false := by
  by_cases hshort : 0 ≤ year ∧ year ≤ 9999
  · rw [renderYear, if_pos hshort, toList_padded] at hc
    exact isBlank_paddedDigits hc
  · obtain ⟨sign, hsign, htext⟩ := renderYear_of_not_short hshort
    rw [htext] at hc
    rcases List.mem_cons.1 hc with rfl | hdigit
    · rcases hsign with rfl | rfl
      · rfl
      · rfl
    · exact isBlank_paddedDigits hdigit

theorem Date.isBlank_render {d : Date} {c : Char} (hc : c ∈ d.render.toList) :
    isBlank c = false := by
  simp only [Date.render, String.toList_append, toList_padded, List.mem_append] at hc
  rcases hc with ((((hyear | hhyphen) | hmonth) | hhyphen) | hday)
  · exact isBlank_renderYear hyear
  · rw [List.mem_singleton.1 hhyphen]
    rfl
  · exact isBlank_paddedDigits hmonth
  · rw [List.mem_singleton.1 hhyphen]
    rfl
  · exact isBlank_paddedDigits hday

theorem Zone.isBlank_text (z : Zone) {c : Char} (hc : c ∈ z.text) : isBlank c = false := by
  cases z with
  | unwritten => cases hc
  | universal =>
      rw [List.mem_singleton.1 hc]
      rfl
  | offset o =>
      simp only [text, WrittenOffset.text, WrittenOffset.minutesText, List.mem_cons,
        List.mem_append] at hc
      obtain ⟨-, -, -, -, hblank⟩ := o.sign_ne
      rcases hc with rfl | hhours | hminutes
      · exact hblank
      · exact isBlank_paddedDigits hhours
      · cases hstyle : o.style with
        | colon =>
            rw [hstyle] at hminutes
            rcases List.mem_cons.1 hminutes with rfl | hdigit
            · rfl
            · exact isBlank_paddedDigits hdigit
        | compact =>
            rw [hstyle] at hminutes
            exact isBlank_paddedDigits hminutes
        | hours =>
            rw [hstyle] at hminutes
            cases hminutes

end SqlFilter.Calendar

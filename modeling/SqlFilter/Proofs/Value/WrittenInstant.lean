/-
**Instants that are written and read again.**

A moment is written with a date of any year, whose sign is written when the year is not one of four
digits, with a fraction of a second of three, six or nine digits when there is one, and with second
60 for a leap second at the end of its minute.  All of that is read again by the readers for the
spellings of an instant, whatever the separator and the offset behind it.  So a moment of universal
time comes back from its document, a moment of no particular time zone becomes the one with the same
fields in universal time, and a date becomes its midnight.

A leap second inside of a minute has no spelling of its own: it is written like the second behind it
and comes back as that one, at the same distance from the epoch.

A number of milliseconds is divided into days and a time of day, before the start of 1970 as well as
after it; the moment that is found is the only one at that distance that is no leap second.

Main definitions:

* `SqlFilter.Calendar.Time.carried`, `SqlFilter.Calendar.Moment.carried`: what comes back of a
  written time of day and of a written moment;
* `SqlFilter.Value.IsReread`: what is read from the document of a value.

Main results:

* `SqlFilter.Calendar.takeFraction?_renderFraction`: a written fraction is taken back;
* `SqlFilter.Calendar.Time.spellsTime_render`: a written time of day is taken back;
* `SqlFilter.Calendar.Moment.carried_eq_self_iff`: what comes back unchanged;
* `SqlFilter.Calendar.Moment.ofInstantChars?_rendered`: **a written moment is read back**;
* `SqlFilter.Calendar.Moment.ofMillis?_eq_some_iff`: the moment some milliseconds after the epoch;
* `SqlFilter.Value.toInstant_written`: **the ways of writing an instant agree**;
* `SqlFilter.Value.not_isReread_innerLeapSecond`: a leap second inside of a minute does not come
  back.
-/

import SqlFilter.Proofs.Calendar.InstantSpelling
import SqlFilter.Value.Encode

set_option relaxedAutoImplicit false
set_option autoImplicit false

namespace SqlFilter

open SqlFilter.Number
open SqlFilter.Number.Numeric (paddedDigits)
open SqlFilter.Text (isBlank)

namespace Calendar

/-! ### Times of day -/

/-- The digits of a fraction count from the point on. -/
theorem nanosecondsOf_paddedDigits {width n : Nat} (hwidth : 0 < width) (hle : width ≤ 9)
    (h : n < tenPow width) : nanosecondsOf (paddedDigits width n) = n * tenPow (9 - width) := by
  have hlength := length_paddedDigits hwidth h
  have htake : (paddedDigits width n).take 9 = paddedDigits width n :=
    List.take_of_length_le (by omega)
  rw [nanosecondsOf, htake, hlength, digitsValue_paddedDigits]

/-- A point and padded digits are taken as the nanoseconds that they count. -/
theorem takeFraction?_paddedDigits {width n : Nat} (hwidth : 0 < width) (hle : width ≤ 9)
    (h : n < tenPow width) {rest : List Char} (hrest : EndsTime rest) :
    takeFraction? (("." ++ padded width n).toList ++ rest) =
      some (n * tenPow (9 - width), rest) := by
  have hhead : ∀ c ∈ rest.head?, c.isDigit = false := fun c hc => (hrest c hc).1
  have htaken := takeFraction?_digits (paddedDigits_ne_nil width n)
    (fun _ => isDigit_of_mem_paddedDigits) hhead
  rw [nanosecondsOf_paddedDigits hwidth hle h] at htaken
  simpa using htaken

/-- **A written fraction is taken back.** -/
theorem takeFraction?_renderFraction {n : Nat} (h : n < nanosPerSecond) {rest : List Char}
    (hrest : EndsTime rest) :
    takeFraction? ((renderFraction n).toList ++ rest) = some (n, rest) := by
  rw [nanosPerSecond] at h
  rw [renderFraction]
  split
  · next hzero =>
      rw [hzero]
      exact takeFraction?_of_endsTime hrest
  · split
    · next hmillis =>
        have hlt : n / 1000000 < tenPow 3 := show n / 1000000 < 1000 by omega
        have hvalue : n / 1000000 * tenPow 6 = n := show n / 1000000 * 1000000 = n by omega
        have htaken := takeFraction?_paddedDigits (by decide) (by decide) hlt hrest
        rwa [hvalue] at htaken
    · split
      · next hmicros =>
          have hlt : n / 1000 < tenPow 6 := show n / 1000 < 1000000 by omega
          have hvalue : n / 1000 * tenPow 3 = n := show n / 1000 * 1000 = n by omega
          have htaken := takeFraction?_paddedDigits (by decide) (by decide) hlt hrest
          rwa [hvalue] at htaken
      · have htaken := takeFraction?_paddedDigits (show 0 < 9 by decide) (by decide) h hrest
        rwa [Nat.sub_self, tenPow_zero, Nat.mul_one] at htaken

theorem isBlank_renderFraction {n : Nat} {c : Char} (hc : c ∈ (renderFraction n).toList) :
    isBlank c = false := by
  have hpoint : ∀ width k, c ∈ ("." ++ padded width k).toList → isBlank c = false := by
    intro width k hmem
    rw [String.toList_append, toList_padded, List.mem_append] at hmem
    rcases hmem with hmem | hmem
    · rw [List.mem_singleton.1 hmem]
      rfl
    · exact isBlank_paddedDigits hmem
  rw [renderFraction] at hc
  split at hc
  · cases hc
  · split at hc
    · exact hpoint _ _ hc
    · split at hc
      · exact hpoint _ _ hc
      · exact hpoint _ _ hc

namespace Time

theorem not_leapsAtEnd_iff {t : Time} :
    ¬t.LeapsAtEnd ↔ nanosPerSecond ≤ t.nanosecond ∧ t.second ≠ 59 :=
  Classical.not_imp

theorem second_succ_lt {t : Time} (h : ¬t.LeapsAtEnd) : t.second + 1 < 60 := by
  have hlt := t.second_lt
  have hne := (not_leapsAtEnd_iff.1 h).2
  omega

/-- The time that comes back when a time is written and read.  A leap second inside of a minute is
written like the second behind it, and that is what it is read as. -/
def carried (t : Time) : Time :=
  if h : t.LeapsAtEnd then t
  else
    ⟨t.hour, t.minute, t.second + 1, t.nanosecond - nanosPerSecond, t.hour_lt, t.minute_lt,
      second_succ_lt h, Nat.lt_of_le_of_lt (Nat.sub_le _ _) t.nanosecond_lt⟩

theorem carried_of_leapsAtEnd {t : Time} (h : t.LeapsAtEnd) : t.carried = t := dif_pos h

@[simp] theorem carried_hour (t : Time) : t.carried.hour = t.hour := by
  rw [carried]
  split <;> rfl

@[simp] theorem carried_minute (t : Time) : t.carried.minute = t.minute := by
  rw [carried]
  split <;> rfl

/-- Exactly the leap seconds inside of a minute come back as other times. -/
theorem carried_eq_self_iff {t : Time} : t.carried = t ↔ t.LeapsAtEnd := by
  refine ⟨fun h => Classical.byContradiction fun hnot => ?_, carried_of_leapsAtEnd⟩
  rw [carried, dif_neg hnot] at h
  have hsecond : t.second + 1 = t.second := congrArg second h
  omega

/-- What comes back lies as many nanoseconds behind the start of the minute. -/
theorem carried_nanos (t : Time) :
    t.carried.second * nanosPerSecond + t.carried.nanosecond =
      t.second * nanosPerSecond + t.nanosecond := by
  rw [carried]
  split
  · rfl
  · next hnot =>
      have hleap := (not_leapsAtEnd_iff.1 hnot).1
      simp only [nanosPerSecond] at hleap ⊢
      omega

/-- The second and the nanosecond that are written are those of the time that comes back, and second
60 for a leap second at the end of its minute. -/
theorem ofWritten?_render (t : Time) :
    ofWritten? t.carried.hour t.carried.minute (t.second + t.nanosecond / nanosPerSecond)
      (t.nanosecond % nanosPerSecond) = some t.carried := by
  have hlt := t.nanosecond_lt
  by_cases hordinary : t.nanosecond < nanosPerSecond
  · rw [Nat.div_eq_of_lt hordinary, Nat.mod_eq_of_lt hordinary, Nat.add_zero,
      carried_of_leapsAtEnd (leapsAtEnd_of_lt hordinary)]
    exact ofWritten?_self hordinary
  · have hone : t.nanosecond / nanosPerSecond = 1 := by
      rw [nanosPerSecond] at *
      omega
    have hrest : t.nanosecond % nanosPerSecond = t.nanosecond - nanosPerSecond := by
      rw [nanosPerSecond] at *
      omega
    rw [hone, hrest]
    by_cases hend : t.LeapsAtEnd
    · have hlast : t.second = 59 := hend (Nat.not_lt.1 hordinary)
      have hback : nanosPerSecond + (t.nanosecond - nanosPerSecond) = t.nanosecond :=
        Nat.add_sub_of_le (Nat.not_lt.1 hordinary)
      have hself := ofParts?_self hend
      rw [hlast] at hself
      rw [carried_of_leapsAtEnd hend, ofWritten?, hlast, if_pos rfl, hback, hself]
    · have hcarried : t.carried.second = t.second + 1 ∧
          t.carried.nanosecond = t.nanosecond - nanosPerSecond := by
        rw [carried, dif_neg hend]
        exact ⟨rfl, rfl⟩
      have hsmall : t.carried.nanosecond < nanosPerSecond := by
        rw [hcarried.2, nanosPerSecond] at *
        omega
      rw [← hcarried.1, ← hcarried.2]
      exact ofWritten?_self hsmall

/-- **A written time of day is taken back**, whatever its fraction, and leap seconds too where they
end their minute. -/
theorem spellsTime_render (t : Time) : SpellsTime t.render.toList t.carried := by
  have htext : t.render.toList = paddedDigits 2 t.carried.hour ++
      ':' :: (paddedDigits 2 t.carried.minute ++
        ':' :: (paddedDigits 2 (t.second + t.nanosecond / nanosPerSecond) ++
          (renderFraction (t.nanosecond % nanosPerSecond)).toList)) := by
    simp [render]
  have hsecond : t.second + t.nanosecond / nanosPerSecond < 100 := by
    have hlt := t.second_lt
    have hnanosecond := t.nanosecond_lt
    rw [nanosPerSecond] at *
    omega
  rw [htext]
  refine SpellsTime.of_takeFraction? hsecond t.ofWritten?_render ?_ fun hrest => ?_
  · intro c hc
    exact isBlank_renderFraction hc
  · exact takeFraction?_renderFraction (Nat.mod_lt _ (by decide)) hrest

end Time

/-! ### Moments -/

/-- The offset of universal time as it is written behind a moment. -/
def universalOffset : WrittenOffset :=
  ⟨false, 0, 0, .colon, Nat.succ_pos 23, Nat.succ_pos 59, fun _ => rfl⟩

namespace Moment

/-- The moment that comes back when a moment is written and read. -/
def carried (m : Moment) : Moment := ⟨m.date, m.time.carried⟩

/-- Exactly the leap seconds inside of a minute come back as other moments. -/
theorem carried_eq_self_iff {m : Moment} : m.carried = m ↔ m.time.LeapsAtEnd := by
  rw [← Time.carried_eq_self_iff]
  obtain ⟨date, time⟩ := m
  simp [carried]

/-- What comes back lies at the same distance from the epoch. -/
theorem nanosFromEpoch_carried (m : Moment) : m.carried.nanosFromEpoch = m.nanosFromEpoch := by
  have hnanos := m.time.carried_nanos
  simp only [nanosFromEpoch, carried, Time.minuteOfDay, Time.carried_hour, Time.carried_minute,
    nanosPerSecond] at hnanos ⊢
  omega

/-- A written moment with an offset of no minutes is read back, whatever stands between date and
time. -/
theorem ofInstantChars?_rendered (m : Moment) (separator : Separator) {zone : Zone}
    (hzone : zone.minutes = 0) :
    ofInstantChars? (m.date.render.toList ++ [separator.spelling] ++
      (m.time.render.toList ++ zone.text)) = some m.carried := by
  rw [ofInstantChars?_text m.time.spellsTime_render, hzone]
  exact plusMinutes?_zero m.carried

theorem ofInstantChars?_renderUniversal (m : Moment) :
    ofInstantChars? m.renderUniversal.toList = some m.carried := by
  have hzone : (Zone.offset universalOffset).minutes = 0 := rfl
  have hread := ofInstantChars?_rendered m .letter hzone
  have htext : (Zone.offset universalOffset).text = "+00:00".toList := by decide
  rw [htext] at hread
  simpa [renderUniversal, Separator.spelling] using hread

theorem ofInstantChars?_render_blanks (m : Moment) :
    ofInstantChars? m.render.toList = some m.carried := by
  have hread := ofInstantChars?_rendered m .blanks (show Zone.unwritten.minutes = 0 from rfl)
  simpa [render, Separator.spelling, Zone.text] using hread

/-- **The moment some milliseconds after the epoch** is the one at that distance that is no leap
second; there is none when its year is not represented. -/
theorem ofMillis?_eq_some_iff {millis : Int} {m : Moment} :
    ofMillis? millis = some m ↔
      m.nanosFromEpoch = 1000000 * millis ∧ m.time.nanosecond < nanosPerSecond := by
  constructor
  · intro h
    unfold ofMillis? at h
    dsimp only at h
    split at h
    · next date time hdate htime =>
        cases h
        have hday := Date.dayNumber_of_ofDayNumber? hdate
        rw [Time.ofParts?] at htime
        split at htime
        · cases htime
          simp only [nanosFromEpoch, Time.minuteOfDay, hday, millisPerDay, nanosPerSecond]
          omega
        · cases htime
    · cases h
  · rintro ⟨hnanos, hordinary⟩
    obtain ⟨date, time⟩ := m
    have hhour := time.hour_lt
    have hminute := time.minute_lt
    have hsecond := time.second_lt
    simp only [nanosFromEpoch, Time.minuteOfDay, nanosPerSecond] at hnanos hordinary
    have hday : millis / millisPerDay = date.dayNumber := by
      rw [millisPerDay]
      omega
    have hparts : (millis % millisPerDay).toNat / 3600000 = time.hour ∧
        (millis % millisPerDay).toNat / 60000 % 60 = time.minute ∧
        (millis % millisPerDay).toNat / 1000 % 60 = time.second ∧
        (millis % millisPerDay).toNat % 1000 * 1000000 = time.nanosecond := by
      rw [millisPerDay]
      omega
    obtain ⟨hours, minutes, seconds, nanoseconds⟩ := hparts
    unfold ofMillis?
    dsimp only
    rw [hday, hours, minutes, seconds, nanoseconds,
      Time.ofParts?_self (Time.leapsAtEnd_of_lt hordinary), Date.ofDayNumber?_dayNumber]

example : ofMillis? 0 = some ⟨⟨1970, 1, 1, by decide, by decide⟩, Time.midnight⟩ := by decide

end Moment

end Calendar

/-! ### Values -/

namespace Value

open SqlFilter.Calendar (Date Moment Time nanosPerSecond)

/-- The document of `v` is a text from which `w` is read as a point in time. -/
def IsReread (v w : Value) : Prop :=
  ∃ text, v.toJson = .string text ∧ toInstant (.text text) = .ok w

/-- A document whose text spells an instant is read as that. -/
theorem isReread_of_text {v : Value} {text : String} {m : Moment} (hjson : v.toJson = .string text)
    (h : Moment.ofInstantChars? text.toList = some m) : IsReread v (.instant m) := by
  refine ⟨text, hjson, ?_⟩
  rw [toInstant_text]
  unfold instantOfText
  rw [h]

/-- What is read from a document is settled by the document. -/
theorem IsReread.unique {v w w' : Value} (h : IsReread v w) (h' : IsReread v w') : w = w' := by
  obtain ⟨text, hjson, hread⟩ := h
  obtain ⟨text', hjson', hread'⟩ := h'
  rw [hjson, Json.string.injEq] at hjson'
  rw [← hjson', hread, Except.ok.injEq] at hread'
  exact hread'

theorem isReread_instant (m : Moment) : IsReread (.instant m) (.instant m.carried) :=
  isReread_of_text (by rw [toJson]) m.ofInstantChars?_renderUniversal

theorem toInstant_bigInt_eq_ok_iff {millis : Int64} {v : Value} :
    toInstant (.bigInt millis) = .ok v ↔
      ∃ m, v = .instant m ∧ m.nanosFromEpoch = 1000000 * millis.toInt ∧
        m.time.nanosecond < nanosPerSecond := by
  rw [toInstant_bigInt]
  unfold ofMillis
  constructor
  · intro h
    split at h
    · next m hm =>
        cases h
        exact ⟨m, rfl, Moment.ofMillis?_eq_some_iff.1 hm⟩
    · cases h
  · rintro ⟨m, rfl, hm⟩
    rw [Moment.ofMillis?_eq_some_iff.2 hm]

/-- **The ways of writing an instant agree.**  From its document an instant of any year is read as
it is, a moment of no time zone as the instant with the same fields, and a date as its midnight.
The exception is a leap second inside of a minute: it is read as the second behind it, which lies at
the same distance from the start of 1970.  A number of milliseconds is the instant at that distance,
and that instant is what is read from its document. -/
theorem toInstant_written :
    (∀ m, IsReread (.instant m) (.instant m.carried)) ∧
    (∀ m, IsReread (.timestamp m) (.instant m.carried)) ∧
    (∀ m : Moment, (m.carried = m ↔ m.time.LeapsAtEnd) ∧
      m.carried.nanosFromEpoch = m.nanosFromEpoch) ∧
    (∀ d, IsReread (.date d) (.instant ⟨d, Time.midnight⟩)) ∧
    ∀ millis v, toInstant (.bigInt millis) = .ok v ↔
      ∃ m, v = .instant m ∧ m.nanosFromEpoch = 1000000 * millis.toInt ∧
        m.time.nanosecond < nanosPerSecond ∧ IsReread v v := by
  refine ⟨isReread_instant, fun m => ?_, fun m => ?_, fun d => ?_, fun millis v => ?_⟩
  · exact isReread_of_text (by rw [toJson]) m.ofInstantChars?_render_blanks
  · exact ⟨Moment.carried_eq_self_iff, m.nanosFromEpoch_carried⟩
  · exact isReread_of_text (by rw [toJson]) (Moment.ofInstantChars?_render d)
  · rw [toInstant_bigInt_eq_ok_iff]
    constructor
    · rintro ⟨m, rfl, hnanos, hordinary⟩
      have hself := Moment.carried_eq_self_iff.2 (Time.leapsAtEnd_of_lt hordinary)
      have hread := isReread_instant m
      rw [hself] at hread
      exact ⟨m, rfl, hnanos, hordinary, hread⟩
    · rintro ⟨m, rfl, hnanos, hordinary, -⟩
      exact ⟨m, rfl, hnanos, hordinary⟩

/-- A leap second behind the fourth second of a minute. -/
def innerLeapSecond : Moment :=
  ⟨⟨2015, 9, 8, by decide, by decide⟩,
    ⟨23, 56, 4, 1333333333, by decide, by decide, by decide, by decide⟩⟩

/-- **A leap second inside of a minute does not come back**: it is written like the fifth second,
and read as that. -/
theorem not_isReread_innerLeapSecond :
    ¬ IsReread (.instant innerLeapSecond) (.instant innerLeapSecond) := by
  intro h
  have hsame := (isReread_instant innerLeapSecond).unique h
  rw [Value.instant.injEq, Moment.carried_eq_self_iff] at hsame
  exact absurd hsame (by decide)

end Value

end SqlFilter

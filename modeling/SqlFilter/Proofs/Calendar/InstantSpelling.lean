/-
**The spellings of an instant.**

A point in time may be written in many ways: with a space or the letter T between date and time,
with a fraction of a second of up to nine digits, with `Z` or an offset that has a colon, none, or
no minutes at all, with no offset for universal time, or as a date for its midnight.  The readers of
the single spellings are tried one after the other on the same text.  A date and a time are taken
off the front by each reader in the same way, so it is the separator and the offset that decide
which reader takes the whole text, and no earlier one takes a text that is meant for a later one.

What is read is the local time moved back by the offset.  The move may lead into another day, month
or year, also into the years -1 and 10000, but not out of the years that are represented.

Main definitions:

* `SqlFilter.Calendar.Moment.IsBehind`: a moment with an offset to another;
* `SqlFilter.Calendar.InstantSpelling`: all spellings, with what they spell.

Main results:

* `SqlFilter.Calendar.Moment.eq_of_isBehind`: an offset leads to one moment only;
* `SqlFilter.Calendar.ofFixed?_text`, `SqlFilter.Calendar.ofOffsetChars?_text`,
  `SqlFilter.Calendar.ofChars?_text`: which reader takes which spelling;
* `SqlFilter.Calendar.ofInstantChars?_text`, `SqlFilter.Calendar.Moment.ofInstantChars?_render`:
  what the readers together make of a moment and of a date;
* `SqlFilter.Calendar.Moment.ofInstantChars?_spelling`: **every spelling is read as its instant**.
-/

import SqlFilter.Proofs.Calendar.WrittenTime

set_option relaxedAutoImplicit false
set_option autoImplicit false

namespace SqlFilter.Calendar

open SqlFilter.Text (isBlank trim trim_between trim_eq_self_of_forall trim_surrounded trimStart
  trimStart_cons)

/-! ### Moments that are moved -/

theorem Date.eq_of_dayNumber {d e : Date} (h : d.dayNumber = e.dayNumber) : d = e := by
  have hd := d.ofDayNumber?_dayNumber
  rw [h, e.ofDayNumber?_dayNumber] at hd
  exact (Option.some.inj hd).symm

namespace Moment

/-- A moment is some minutes behind another one, at the same place of its second. -/
structure IsBehind (m k : Moment) (minutes : Int) : Prop where
  nanosFromEpoch : m.nanosFromEpoch = k.nanosFromEpoch - 60000000000 * minutes
  nanosecond : m.time.nanosecond = k.time.nanosecond

/-- Only one moment is so many minutes behind another one. -/
theorem eq_of_isBehind {m n k : Moment} {minutes : Int} (hm : m.IsBehind k minutes)
    (hn : n.IsBehind k minutes) : m = n := by
  have hnanos := hm.nanosFromEpoch.trans hn.nanosFromEpoch.symm
  have hnanosecond := hm.nanosecond.trans hn.nanosecond.symm
  obtain ⟨d, ⟨h₁, m₁, s₁, n₁, hh₁, hm₁, hs₁, hn₁⟩⟩ := m
  obtain ⟨e, ⟨h₂, m₂, s₂, n₂, hh₂, hm₂, hs₂, hn₂⟩⟩ := n
  simp only [Moment.nanosFromEpoch, Time.minuteOfDay] at hnanos hnanosecond
  have hdate : d = e := Date.eq_of_dayNumber (by omega)
  have htime : h₁ = h₂ ∧ m₁ = m₂ ∧ s₁ = s₂ := by omega
  obtain ⟨rfl, rfl, rfl⟩ := htime
  subst hdate hnanosecond
  rfl

/-- A moment that is moved back is behind. -/
theorem isBehind_of_plusMinutes? {m k : Moment} {minutes : Int}
    (h : k.plusMinutes? (-minutes) = some m) : m.IsBehind k minutes := by
  refine ⟨?_, ?_⟩
  · rw [nanosFromEpoch_of_plusMinutes? h]
    omega
  · rw [plusMinutes?, Option.map_eq_some_iff] at h
    obtain ⟨d, -, rfl⟩ := h
    rfl

/-- Less than a day does not lead out of the represented years. -/
theorem isSome_plusMinutes? {m : Moment} (h : m.date.HasShortYear) {minutes : Int}
    (hminutes : -1440 < minutes ∧ minutes < 1440) : (m.plusMinutes? minutes).isSome = true := by
  have hlt := m.time.minuteOfDay_lt
  have hnear := m.date.yearOf_near
    (n := (1440 * m.date.dayNumber + m.time.minuteOfDay + minutes) / 1440) (by omega) (by omega)
  obtain ⟨hlow, hhigh⟩ := h
  rw [plusMinutes?, Option.isSome_map]
  apply Date.isSome_ofDayNumber?
  · rw [leastYear]
    omega
  · rw [greatestYear]
    omega

end Moment

/-! ### All spellings -/

/-- What stands between date and time. -/
def Separator.spelling : Separator → Char
  | .blanks => ' '
  | .letter => 'T'

/-- The spellings of an instant: a date, or a date and a time with a separator between them and with
or without an offset. -/
inductive InstantSpelling where
  | day (date : Date) (short : date.HasShortYear)
  | moment (date : Date) (short : date.HasShortYear) (separator : Separator) (time : WrittenTime)
      (zone : Zone)

namespace InstantSpelling

/-- The text that is written. -/
def text : InstantSpelling → List Char
  | day date _ => date.render.toList
  | moment date _ separator time zone =>
      date.render.toList ++ [separator.spelling] ++ (time.text ++ zone.text)

/-- The local time that is written, midnight for a date. -/
def localTime : InstantSpelling → Moment
  | day date _ => ⟨date, Time.midnight⟩
  | moment date _ _ time _ => ⟨date, time.time⟩

/-- The minutes that the local time is ahead of universal time. -/
def offset : InstantSpelling → Int
  | day _ _ => 0
  | moment _ _ _ _ zone => zone.minutes

theorem hasShortYear_localTime (s : InstantSpelling) : s.localTime.date.HasShortYear := by
  cases s with
  | day date short => exact short
  | moment date short separator time zone => exact short

theorem offset_lt (s : InstantSpelling) : -1440 < -s.offset ∧ -s.offset < 1440 := by
  cases s with
  | day date short =>
      rw [offset]
      decide
  | moment date short separator time zone =>
      obtain ⟨hlow, hhigh⟩ := zone.minutes_lt
      rw [offset]
      omega

end InstantSpelling

/-- No digit is taken where there is none. -/
theorem takeTime?_eq_none {cs : List Char}
    (h : ∀ c ∈ cs.head?, c.isDigit = false ∧ isBlank c = false) : takeTime? cs = none := by
  have hshort : takeShort? cs = none := by
    cases cs with
    | nil => rfl
    | cons c cs =>
        obtain ⟨hdigit, hblank⟩ := h c rfl
        rw [takeShort?, trimStart_cons, hblank]
        simp [takeUpTo?, hdigit]
  rw [takeTime?, hshort]
  rfl

section Written

variable {chars : List Char} {time : Time} (h : SpellsTime chars time) (date : Date)
  (written : Separator) (zone : Zone)

include h

/-- A moment is taken by the reader for its separator only. -/
theorem takeMoment?_text (read : Separator) :
    takeMoment? read (date.render.toList ++ [written.spelling] ++ (chars ++ zone.text)) =
      if read = written then some (⟨date, time⟩, zone.text) else none := by
  have htime := h.lenient zone.endsTime_text
  rw [takeMoment?, List.append_assoc, takeDate?_render]
  cases read with
  | blanks =>
      cases written with
      | blanks =>
          have hskip : trimStart (' ' :: (chars ++ zone.text)) = chars ++ zone.text := by
            rw [trimStart_cons, if_pos (by decide), h.trimStart_append]
          simp [Separator.take?, Separator.spelling, hskip, htime]
      | letter =>
          -- the letter is left for the reader of the time, which takes no letter
          have hkept : trimStart ('T' :: (chars ++ zone.text)) = 'T' :: (chars ++ zone.text) :=
            trimStart_cons _ _
          have hnone : takeTime? ('T' :: (chars ++ zone.text)) = none := by
            apply takeTime?_eq_none
            intro c hc
            cases hc
            decide
          simp [Separator.take?, Separator.spelling, hkept, hnone]
  | letter =>
      cases written with
      | blanks => simp [Separator.take?, Separator.spelling, takeChar?]
      | letter => simp [Separator.take?, Separator.spelling, htime]

/-- The fixed spelling may have either separator, but not every year and offset. -/
theorem ofFixed?_text :
    Moment.ofFixed? (date.render.toList ++ [written.spelling] ++ (chars ++ zone.text)) =
      if date.HasShortYear ∧ zone.isFixed then
        Moment.plusMinutes? ⟨date, time⟩ (-zone.minutes) else none := by
  have hseparator : isFixedSeparator written.spelling = true := by
    cases written with
    | blanks => rfl
    | letter => rfl
  rw [Moment.ofFixed?, List.append_assoc, takeFixedDate?_render]
  by_cases hshort : date.HasShortYear
  · simp only [List.singleton_append, Option.bind_eq_bind, Option.bind_some, hseparator, if_true,
      h.fixed zone.endsTime_text, takeFixedOffset?_text, hshort, true_and]
    cases zone.isFixed with
    | false => rfl
    | true => rfl
  · rw [if_neg hshort, if_neg fun hboth => hshort hboth.1]
    rfl

/-- A moment with an offset is read when the separator is the expected one. -/
theorem ofOffsetChars?_text (read : Separator) :
    Moment.ofOffsetChars? read
        (date.render.toList ++ [written.spelling] ++ (chars ++ zone.text)) =
      if read = written ∧ zone.isWritten then
        Moment.plusMinutes? ⟨date, time⟩ (-zone.minutes) else none := by
  rw [Moment.ofOffsetChars?, takeMoment?_text h]
  by_cases hread : read = written
  · rw [if_pos hread]
    simp only [Option.bind_eq_bind, Option.bind_some, lenientOffset?_text, hread, true_and]
    cases zone.isWritten with
    | false => rfl
    | true => rfl
  · rw [if_neg hread, if_neg fun hboth => hread hboth.1]
    rfl

/-- A moment without an offset is read when the separator is the expected one. -/
theorem ofChars?_text (read : Separator) :
    Moment.ofChars? read (date.render.toList ++ [written.spelling] ++ (chars ++ zone.text)) =
      if read = written ∧ zone.isWritten = false then some ⟨date, time⟩ else none := by
  rw [Moment.ofChars?, takeMoment?_text h]
  by_cases hread : read = written
  · rw [if_pos hread]
    cases zone with
    | unwritten => simp [Zone.text, Zone.isWritten, hread]
    | universal => simp [Zone.text, Zone.isWritten]
    | offset o => simp [Zone.text, Zone.isWritten, WrittenOffset.text]
  · rw [if_neg hread, if_neg fun hboth => hread hboth.1]

omit h in
/-- A date with anything behind it is no date. -/
theorem Date.ofChars?_text : Date.ofChars?
    (date.render.toList ++ [written.spelling] ++ (chars ++ zone.text)) = none := by
  rw [Date.ofChars?, List.append_assoc, takeDate?_render]
  rfl

/-- No blank stands at the ends of a moment. -/
theorem trim_text : trim (date.render.toList ++ [written.spelling] ++ (chars ++ zone.text)) =
    date.render.toList ++ [written.spelling] ++ (chars ++ zone.text) := by
  have hdate : trim date.render.toList = date.render.toList :=
    trim_eq_self_of_forall fun _ => Date.isBlank_render
  have hbehind : trim (chars ++ zone.text) = chars ++ zone.text := by
    refine trim_eq_self_of_forall fun c hc => ?_
    rcases List.mem_append.1 hc with htime | hzone
    · exact h.blankless c htime
    · exact zone.isBlank_text hzone
  refine trim_between hdate hbehind ?_ ?_ [written.spelling]
  · simp [Date.render]
  · simp [h.ne_nil]

/-- **The readers together move a written moment back by its offset.** -/
theorem ofInstantChars?_text :
    Moment.ofInstantChars? (date.render.toList ++ [written.spelling] ++ (chars ++ zone.text)) =
      Moment.plusMinutes? ⟨date, time⟩ (-zone.minutes) := by
  rw [Moment.ofInstantChars?, trim_text h]
  simp only [ofFixed?_text h, ofOffsetChars?_text h, ofChars?_text h, Date.ofChars?_text,
    Option.map_none, Option.or_none]
  cases hwritten : zone.isWritten with
  | false =>
      rw [Zone.eq_unwritten hwritten]
      cases written with
      | blanks => simp [Zone.isFixed, Zone.minutes]
      | letter => simp [Zone.isFixed, Zone.minutes]
  | true =>
      -- the fixed spelling, when it is one, leads to the same moment as the lenient one
      by_cases hfixed : date.HasShortYear ∧ zone.isFixed = true
      · cases written with
        | blanks => simp [hfixed]
        | letter => simp [hfixed]
      · cases written with
        | blanks => simp [hfixed]
        | letter => simp [hfixed]

end Written

/-- A date is read by none of the readers of moments. -/
theorem takeMoment?_render (read : Separator) (date : Date) :
    takeMoment? read date.render.toList = none := by
  have hdate := takeDate?_render date []
  rw [List.append_nil] at hdate
  rw [takeMoment?, hdate]
  cases read with
  | blanks => rfl
  | letter => rfl

/-- **A date is read as its midnight.** -/
theorem Moment.ofInstantChars?_render (date : Date) :
    Moment.ofInstantChars? date.render.toList = some ⟨date, Time.midnight⟩ := by
  have htrim : trim date.render.toList = date.render.toList :=
    trim_eq_self_of_forall fun _ => Date.isBlank_render
  have hfixed : Moment.ofFixed? date.render.toList = none := by
    have hdate := takeFixedDate?_render date []
    rw [List.append_nil] at hdate
    rw [Moment.ofFixed?, hdate]
    split
    · rfl
    · rfl
  rw [Moment.ofInstantChars?, htrim]
  simp [hfixed, Moment.ofOffsetChars?, Moment.ofChars?, takeMoment?_render, Date.ofChars?_render]

/-- **The readers together move the local time back by the offset.** -/
theorem InstantSpelling.ofInstantChars?_text (s : InstantSpelling) :
    Moment.ofInstantChars? s.text = s.localTime.plusMinutes? (-s.offset) := by
  cases s with
  | day date short => simp [text, localTime, offset, Moment.ofInstantChars?_render]
  | moment date short separator time zone =>
      exact Calendar.ofInstantChars?_text time.spellsTime date separator zone

/-- **Every spelling is read as its instant**: blanks around it do not count, and the moment that is
read is the local time moved back by the offset. -/
theorem Moment.ofInstantChars?_spelling (s : InstantSpelling) {before behind : List Char}
    (hbefore : ∀ c ∈ before, isBlank c = true) (hbehind : ∀ c ∈ behind, isBlank c = true) :
    ∃ m, Moment.ofInstantChars? (before ++ s.text ++ behind) = some m ∧
      m.IsBehind s.localTime s.offset := by
  have hread : Moment.ofInstantChars? (before ++ s.text ++ behind) =
      s.localTime.plusMinutes? (-s.offset) := by
    rw [← s.ofInstantChars?_text, Moment.ofInstantChars?, Moment.ofInstantChars?,
      trim_surrounded hbefore hbehind]
  have hsome := isSome_plusMinutes? s.hasShortYear_localTime s.offset_lt
  obtain ⟨m, hm⟩ := Option.isSome_iff_exists.1 hsome
  exact ⟨m, hread.trans hm, isBehind_of_plusMinutes? hm⟩

/-- Half an hour into the year zero, an hour ahead of universal time, is in the year before. -/
theorem Moment.ofInstantChars?_spelling_yearZero :
    (∀ c ∈ [' ', '\t'], isBlank c = true) ∧ (∀ c ∈ ['\n'], isBlank c = true) ∧
      Moment.ofInstantChars? " \t0000-01-01T00:30:00.5+0100\n".toList =
        some ⟨⟨-1, 12, 31, by decide, by decide⟩,
          ⟨23, 30, 0, 500000000, by decide, by decide, by decide, by decide⟩⟩ := by
  have hbefore : ∀ c ∈ [' ', '\t'], isBlank c = true := List.all_eq_true.1 (by decide)
  have hbehind : ∀ c ∈ ['\n'], isBlank c = true := List.all_eq_true.1 (by decide)
  let s : InstantSpelling := .moment ⟨0, 1, 1, by decide, by decide⟩ ⟨by decide, by decide⟩ .letter
    ⟨0, 30, 0, ['5'], by decide, by decide, by decide, List.all_eq_true.1 rfl, by decide⟩
    (.offset ⟨false, 1, 0, .compact, by decide, by decide, by decide⟩)
  have htext : [' ', '\t'] ++ s.text ++ ['\n'] = " \t0000-01-01T00:30:00.5+0100\n".toList := by
    decide
  obtain ⟨m, hm, hbehindUniversal⟩ := Moment.ofInstantChars?_spelling s hbefore hbehind
  rw [htext] at hm
  refine ⟨hbefore, hbehind, hm.trans (congrArg some (eq_of_isBehind hbehindUniversal ?_))⟩
  constructor
  · decide
  · decide

end SqlFilter.Calendar

/-
**Texts of byte strings.**

A byte string is written as a backslash and the letter x with two hexadecimal digits behind them for
each byte, and as nothing else.  What is read is exactly such a text, with one exception: a pair is
read as a number, and in front of a number a plus sign may stand.  So a plus sign with a digit
behind it is read as the byte of that digit.

Main definitions:

* `SqlFilter.TextType.isHexDigit`, `SqlFilter.TextType.SpellsBytes`: digits, and the bytes that
  pairs of them spell;
* `SqlFilter.TextType.pairFronts`, `SqlFilter.TextType.plusAsZero`: the first characters of pairs,
  and pairs with a zero for a plus sign in front.

Main results:

* `SqlFilter.TextType.bytes?_eq_some_iff`: what pairs of characters are read as;
* `SqlFilter.TextType.exists_spellsBytes_iff`: what spells bytes is digits, and an even number;
* `SqlFilter.Value.decodeText_bytea`: **the hexadecimal format is all that is accepted**, where no
  pair has a plus sign in front;
* `SqlFilter.Value.decodeText_bytea_plus`: a pair with a plus sign is accepted.
-/

import Mathlib.Data.List.Induction
import SqlFilter.Value.Decode

set_option relaxedAutoImplicit false
set_option autoImplicit false

namespace SqlFilter

open SqlFilter.Text (hexValue?)

namespace TextType

/-! ### Pairs of digits -/

/-- A hexadecimal digit, in either case. -/
def isHexDigit (c : Char) : Bool :=
  ('0' ≤ c ∧ c ≤ '9') ∨ ('a' ≤ c ∧ c ≤ 'f') ∨ ('A' ≤ c ∧ c ≤ 'F')

/-- The digits are those characters that have a value. -/
theorem isSome_hexValue? (c : Char) : (hexValue? c).isSome = isHexDigit c := by
  rw [hexValue?, isHexDigit]
  by_cases hnumeral : '0' ≤ c ∧ c ≤ '9'
  · simp [hnumeral]
  · by_cases hsmall : 'a' ≤ c ∧ c ≤ 'f'
    · simp [hnumeral, hsmall]
    · by_cases hcapital : 'A' ≤ c ∧ c ≤ 'F'
      · simp [hnumeral, hsmall, hcapital]
      · simp only [hnumeral, hsmall, hcapital, if_false, or_false, decide_false,
          Option.isSome_none]

/-- Pairs of hexadecimal digits spell bytes, the digit of higher value first. -/
inductive SpellsBytes : List Char → List UInt8 → Prop
  | nil : SpellsBytes [] []
  | pair {a b : Char} {high low : Nat} {digits : List Char} {bytes : List UInt8} :
      hexValue? a = some high → hexValue? b = some low → SpellsBytes digits bytes →
      SpellsBytes (a :: b :: digits) (UInt8.ofNat (16 * high + low) :: bytes)

/-- **What spells bytes is an even number of digits.** -/
theorem exists_spellsBytes_iff (digits : List Char) :
    (∃ bytes, SpellsBytes digits bytes) ↔
      digits.length % 2 = 0 ∧ ∀ c ∈ digits, isHexDigit c = true := by
  constructor
  · rintro ⟨bytes, h⟩
    induction h with
    | nil => simp
    | @pair a b high low digits bytes ha hb _ ih =>
        have hfirst : isHexDigit a = true := by rw [← isSome_hexValue?, ha]; rfl
        have hsecond : isHexDigit b = true := by rw [← isSome_hexValue?, hb]; rfl
        refine ⟨?_, ?_⟩
        · have heven := ih.1
          simp only [List.length_cons]
          omega
        · intro c hc
          simp only [List.mem_cons] at hc
          rcases hc with rfl | rfl | hc
          · exact hfirst
          · exact hsecond
          · exact ih.2 c hc
  · rintro ⟨heven, hdigits⟩
    -- two digits at a time, as they are read
    induction digits using List.twoStepInduction with
    | nil => exact ⟨[], .nil⟩
    | singleton a => simp at heven
    | cons_cons a b digits ih _ =>
        have hfirst := hdigits a (by simp)
        have hsecond := hdigits b (by simp)
        rw [← isSome_hexValue?, Option.isSome_iff_exists] at hfirst hsecond
        obtain ⟨high, ha⟩ := hfirst
        obtain ⟨low, hb⟩ := hsecond
        obtain ⟨bytes, hbytes⟩ := ih (by simp only [List.length_cons] at heven; omega)
          fun c hc => hdigits c (by simp [hc])
        exact ⟨_, .pair ha hb hbytes⟩

/-! ### Plus signs -/

/-- The first characters of pairs. -/
def pairFronts : List Char → List Char
  | a :: _ :: cs => a :: pairFronts cs
  | _ => []

/-- Pairs of characters, with a zero for each plus sign that stands in front. -/
def plusAsZero : List Char → List Char
  | a :: b :: cs => (if a = '+' then '0' else a) :: b :: plusAsZero cs
  | cs => cs

theorem plusAsZero_eq_self {cs : List Char} (h : '+' ∉ pairFronts cs) : plusAsZero cs = cs := by
  induction cs using List.twoStepInduction with
  | nil => rfl
  | singleton a => rfl
  | cons_cons a b cs ih _ =>
      rw [pairFronts, List.mem_cons, not_or] at h
      rw [plusAsZero, if_neg (Ne.symm h.1), ih h.2]

/-- A pair is read as a byte when it is one of digits, a plus sign in front being a zero. -/
theorem byte?_eq_some_iff {a b : Char} {byte : UInt8} :
    byte? a b = some byte ↔ ∃ high low, hexValue? (if a = '+' then '0' else a) = some high ∧
      hexValue? b = some low ∧ byte = UInt8.ofNat (16 * high + low) := by
  have hfront : (if a = '+' then some 0 else hexValue? a) =
      hexValue? (if a = '+' then '0' else a) := by
    split
    · rfl
    · rfl
  rw [byte?, hfront]
  constructor
  · intro h
    split at h
    · next high low ha hb =>
        cases h
        exact ⟨high, low, ha, hb, rfl⟩
    · cases h
  · rintro ⟨high, low, ha, hb, rfl⟩
    simp only [ha, hb]

/-- **What pairs of characters are read as**: the bytes that they spell, with plus signs in front as
zeros. -/
theorem bytes?_eq_some_iff {cs : List Char} {bytes : List UInt8} :
    bytes? cs = some bytes ↔ SpellsBytes (plusAsZero cs) bytes := by
  induction cs using List.twoStepInduction generalizing bytes with
  | nil =>
      constructor
      · intro h
        cases h
        exact .nil
      · intro h
        cases h
        rfl
  | singleton a =>
      constructor
      · intro h
        cases h
      · intro h
        cases h
  | cons_cons a b cs ih _ =>
      rw [bytes?, plusAsZero]
      constructor
      · intro h
        split at h
        · next byte others hbyte hothers =>
            cases h
            obtain ⟨high, low, ha, hb, rfl⟩ := byte?_eq_some_iff.1 hbyte
            exact .pair ha hb (ih.1 hothers)
        · cases h
      · intro h
        cases h with
        | pair ha hb hothers =>
            simp only [byte?_eq_some_iff.2 ⟨_, _, ha, hb, rfl⟩, ih.2 hothers]

/-! ### Texts -/

/-- A text is read as bytes when pairs that spell them stand behind the backslash and the x. -/
theorem byteString?_eq_some_iff {cs : List Char} {bytes : List UInt8} :
    byteString? cs = some bytes ↔
      ∃ digits, cs = '\\' :: 'x' :: digits ∧ SpellsBytes (plusAsZero digits) bytes := by
  constructor
  · intro h
    unfold byteString? at h
    split at h
    · next digits => exact ⟨digits, rfl, bytes?_eq_some_iff.1 h⟩
    · cases h
  · rintro ⟨digits, rfl, h⟩
    exact bytes?_eq_some_iff.2 h

end TextType

namespace Value

open TextType (SpellsBytes isHexDigit pairFronts plusAsZero)

theorem decodeText_bytea_eq (text : String) :
    decodeText "bytea" (some text) =
      TextType.expect "BYTEA" text ((TextType.byteString? text.toList).map .bytes) := rfl

/-- Pairs behind a backslash and an x are read, a plus sign in front of a pair being a zero. -/
theorem decodeText_bytea_eq_ok_iff {text : String} {v : Value} :
    decodeText "bytea" (some text) = .ok v ↔
      ∃ digits bytes, text.toList = '\\' :: 'x' :: digits ∧
        SpellsBytes (plusAsZero digits) bytes ∧ v = .bytes bytes := by
  rw [decodeText_bytea_eq, TextType.expect_eq_ok_iff, Option.map_eq_some_iff]
  constructor
  · rintro ⟨bytes, hbytes, rfl⟩
    obtain ⟨digits, htext, hspells⟩ := TextType.byteString?_eq_some_iff.1 hbytes
    exact ⟨digits, bytes, htext, hspells, rfl⟩
  · rintro ⟨digits, bytes, htext, hspells, rfl⟩
    exact ⟨bytes, TextType.byteString?_eq_some_iff.2 ⟨digits, htext, hspells⟩, rfl⟩

/-- **The hexadecimal format is all that is accepted**, where no pair has a plus sign in front: what
is read is the bytes that the digits spell, which are an even number.  A plus sign in front of a
pair counts as a zero, and every other text is an error that names it. -/
theorem decodeText_bytea (text : String) :
    ('+' ∉ pairFronts (text.toList.drop 2) →
      ((∃ v, decodeText "bytea" (some text) = .ok v) ↔
        ∃ digits, text.toList = '\\' :: 'x' :: digits ∧ digits.length % 2 = 0 ∧
          ∀ c ∈ digits, isHexDigit c = true) ∧
      ∀ v, decodeText "bytea" (some text) = .ok v ↔
        ∃ digits bytes, text.toList = '\\' :: 'x' :: digits ∧ SpellsBytes digits bytes ∧
          v = .bytes bytes) ∧
    (∀ v, decodeText "bytea" (some text) = .ok v ↔
      ∃ digits bytes, text.toList = '\\' :: 'x' :: digits ∧
        SpellsBytes (plusAsZero digits) bytes ∧ v = .bytes bytes) ∧
    ∀ e, decodeText "bytea" (some text) = .error e → e = TextType.invalid "BYTEA" text := by
  refine ⟨fun hplus => ?_, fun v => decodeText_bytea_eq_ok_iff, fun e he => ?_⟩
  · have hvalue : ∀ v, decodeText "bytea" (some text) = .ok v ↔
        ∃ digits bytes, text.toList = '\\' :: 'x' :: digits ∧ SpellsBytes digits bytes ∧
          v = .bytes bytes := by
      intro v
      rw [decodeText_bytea_eq_ok_iff]
      refine exists_congr fun digits => exists_congr fun bytes => and_congr_right fun htext => ?_
      have hdigits : '+' ∉ pairFronts digits := by
        rw [htext] at hplus
        exact hplus
      rw [TextType.plusAsZero_eq_self hdigits]
    refine ⟨?_, hvalue⟩
    constructor
    · rintro ⟨v, hv⟩
      obtain ⟨digits, bytes, htext, hspells, -⟩ := (hvalue v).1 hv
      exact ⟨digits, htext, (TextType.exists_spellsBytes_iff digits).1 ⟨bytes, hspells⟩⟩
    · rintro ⟨digits, htext, hdigits⟩
      obtain ⟨bytes, hspells⟩ := (TextType.exists_spellsBytes_iff digits).2 hdigits
      exact ⟨_, (hvalue _).2 ⟨digits, bytes, htext, hspells, rfl⟩⟩
  · rw [decodeText_bytea_eq] at he
    exact (TextType.expect_eq_error_iff.1 he).2

/-- Digits in both cases are read, and a letter with a diaeresis in place of a digit is not. -/
theorem decodeText_bytea_mixedCase :
    ('+' ∉ pairFronts ("\\xDEad".toList.drop 2) ∧
      decodeText "bytea" (some "\\xDEad") = .ok (.bytes [0xDE, 0xAD])) ∧
    '+' ∉ pairFronts ("\\xDËad".toList.drop 2) ∧
      ¬∃ v, decodeText "bytea" (some "\\xDËad") = .ok v := by
  have hplus : '+' ∉ pairFronts ("\\xDEad".toList.drop 2) := by decide
  have hplusAccented : '+' ∉ pairFronts ("\\xDËad".toList.drop 2) := by decide
  have hsmall : SpellsBytes "ad".toList [0xAD] :=
    .pair (show hexValue? 'a' = some 10 from rfl) (show hexValue? 'd' = some 13 from rfl) .nil
  have hspells : SpellsBytes "DEad".toList [0xDE, 0xAD] :=
    .pair (show hexValue? 'D' = some 13 from rfl) (show hexValue? 'E' = some 14 from rfl) hsmall
  refine ⟨⟨hplus, (((decodeText_bytea _).1 hplus).2 _).2 ⟨_, _, rfl, hspells, rfl⟩⟩,
    hplusAccented, ?_⟩
  rw [((decodeText_bytea _).1 hplusAccented).1]
  rintro ⟨digits, htext, -, hdigits⟩
  cases htext
  exact absurd (hdigits 'Ë' (by decide)) (by decide)

/-- **A pair with a plus sign is accepted**, though it is not one of hexadecimal digits. -/
theorem decodeText_bytea_plus :
    decodeText "bytea" (some "\\x+f") = .ok (.bytes [15]) ∧
      ¬∃ digits, "\\x+f".toList = '\\' :: 'x' :: digits ∧ digits.length % 2 = 0 ∧
        ∀ c ∈ digits, isHexDigit c = true := by
  refine ⟨rfl, ?_⟩
  rintro ⟨digits, htext, -, hdigits⟩
  cases htext
  exact absurd (hdigits '+' (by decide)) (by decide)

end Value

end SqlFilter

/-
**Written documents are spelled as they are.**

The printer leaves no gaps and escapes only what it has to, and the grammar reads what it printed,
whatever follows: each character of a text is one code unit, and a whole number is spelled by its
sign and its digits.  Double-precision numbers are left out here, because a number with a fraction
is rounded again when it is read.

Main definitions:

* `SqlFilter.Json.unitsOf`, `SqlFilter.Json.Numeral.ofInt`, `SqlFilter.Json.Spelling.ofJson`: how a
  text, a whole number and a document are spelled when they are written;
* `SqlFilter.Json.IsPlain`: a document without double-precision numbers and with few open brackets;
* `SqlFilter.Json.IsReadBack`: the grammar reads what is written of a document.

Main results:

* `SqlFilter.Json.textOf?_unitsOf`: the text behind the code units of a text;
* `SqlFilter.Json.takeUnits?_escaped`, `SqlFilter.Json.takeNumeral?_toString`: a text and a whole
  number are taken up to their ends;
* `SqlFilter.Json.IsPlain.isReadBack`, `SqlFilter.Json.IsPlain.ofChars?_render`: **a written
  document is spelled as it is**;
* `SqlFilter.Json.IsPlain.isDocument`: and its spelling is a document.
-/

import Mathlib.Data.List.Basic
import SqlFilter.Json.Document
import SqlFilter.Json.Printer
import SqlFilter.Proofs.Number.Digits

set_option relaxedAutoImplicit false
set_option autoImplicit false

namespace SqlFilter.Json

open SqlFilter.Number (digitsValue digitsValue_toDigits exists_toDigits_cons
  head?_toDigits_ne_zero span_isDigit_append toList_toString_negSucc toList_toString_ofNat)
open SqlFilter.Text (hexDigit hexFrom? hexValue? hexValue?_hexDigit)

/-! ### Texts -/

/-- The code units of a text: its characters. -/
def unitsOf (text : String) : List Nat := text.toList.map Char.toNat

theorem isSurrogate_toNat (c : Char) :
    isHighSurrogate c.toNat = false ∧ isLowSurrogate c.toNat = false := by
  have hvalid : c.toNat < 0xD800 ∨ 0xDFFF < c.toNat ∧ c.toNat < 0x110000 := c.valid
  simp only [isHighSurrogate, isLowSurrogate, Bool.and_eq_false_iff, decide_eq_false_iff_not]
  omega

theorem charsOf?_map_toNat (cs : List Char) : charsOf? (cs.map Char.toNat) = some cs := by
  induction cs with
  | nil => rfl
  | cons c cs ih =>
      obtain ⟨hhigh, hlow⟩ := isSurrogate_toNat c
      rw [List.map_cons, charsOf?.eq_def]
      simp [hhigh, hlow, ih]

/-- The text behind the code units of a text. -/
@[simp] theorem textOf?_unitsOf (text : String) : textOf? (unitsOf text) = some text := by
  rw [textOf?, unitsOf, charsOf?_map_toNat, Option.map_some, String.ofList_toList]

/-- A unit in front of what is taken. -/
def putUnit (unit : Nat) (taken : List Nat × List Char) : List Nat × List Char :=
  (unit :: taken.1, taken.2)

theorem takeUnits?_letter {letter : Char} {unit : Nat} (h : escapedUnit? letter = some unit)
    (cs : List Char) : takeUnits? ('\\' :: letter :: cs) = (takeUnits? cs).map (putUnit unit) := by
  rw [takeUnits?.eq_def]
  split
  · next heq => cases heq
  · next heq => cases heq
  · next heq =>
      cases heq
      cases h
  · next heq =>
      cases heq
      rw [h]
      cases takeUnits? cs with
      | none => rfl
      | some taken => rfl
  · next hother heq =>
      cases heq
      exact (hother _ _ rfl rfl).elim

theorem takeUnits?_control {n : Nat} (h : n < 0x20) (cs : List Char) :
    takeUnits? ('\\' :: 'u' :: '0' :: '0' :: hexDigit (n / 16) :: hexDigit (n % 16) :: cs) =
      (takeUnits? cs).map (putUnit n) := by
  have hunit : hexFrom? 0 ['0', '0', hexDigit (n / 16), hexDigit (n % 16)] = some n := by
    have hzero : hexValue? '0' = some 0 := rfl
    have hvalue : 16 * (16 * (16 * (16 * 0 + 0) + 0) + n / 16) + n % 16 = n := by omega
    simp only [hexFrom?, hzero, hexValue?_hexDigit (show n / 16 < 16 by omega),
      hexValue?_hexDigit (show n % 16 < 16 by omega), hvalue]
  rw [takeUnits?, hunit]
  cases takeUnits? cs with
  | none => rfl
  | some taken => rfl

theorem takeUnits?_plain {c : Char} (hquote : c ≠ '"') (hbackslash : c ≠ '\\')
    (hcontrol : ¬c.toNat < 0x20) (cs : List Char) :
    takeUnits? (c :: cs) = (takeUnits? cs).map (putUnit c.toNat) := by
  rw [takeUnits?.eq_def]
  split
  · next heq => cases heq
  · next heq =>
      cases heq
      exact absurd rfl hquote
  · next heq =>
      cases heq
      exact absurd rfl hbackslash
  · next heq =>
      cases heq
      exact absurd rfl hbackslash
  · next heq =>
      cases heq
      rw [if_neg (not_or.2 ⟨hbackslash, hcontrol⟩)]
      rfl

/-- A character is taken as one code unit, escaped or not. -/
theorem takeUnits?_escapeChar (c : Char) (cs : List Char) :
    takeUnits? (escapeChar c ++ cs) = (takeUnits? cs).map (putUnit c.toNat) := by
  rw [escapeChar]
  split
  iterate 7
    · next h =>
        rw [h]
        exact takeUnits?_letter rfl cs
  · next hquote hbackslash _ _ _ _ _ =>
      split
      · next h => exact takeUnits?_control h cs
      · next h =>
          refine takeUnits?_plain ?_ ?_ h cs
          · rintro rfl
            exact hquote rfl
          · rintro rfl
            exact hbackslash rfl

/-- An escaped text is taken up to its closing quote. -/
theorem takeUnits?_escaped (cs rest : List Char) :
    takeUnits? (cs.flatMap escapeChar ++ '"' :: rest) = some (cs.map Char.toNat, rest) := by
  induction cs with
  | nil => rfl
  | cons c cs ih =>
      rw [List.flatMap_cons, List.append_assoc, takeUnits?_escapeChar, ih]
      rfl

/-! ### Whole numbers -/

/-- How a whole number is spelled: its sign and its digits. -/
def Numeral.ofInt (n : Int) : Numeral := ⟨decide (n < 0), Nat.toDigits 10 n.natAbs, [], none⟩

/-- The number behind its digits. -/
@[simp] theorem Numeral.int?_ofInt (n : Int) : (ofInt n).int? = some n := by
  simp only [int?, ofInt, isWhole, digitsValue_toDigits]
  by_cases hn : n < 0
  · have hmagnitude : (n.natAbs == 0) = false := by
      rw [beq_eq_false_iff_ne]
      omega
    simp only [hn, hmagnitude, decide_true, List.isEmpty_nil, Option.isNone_none, Bool.and_self,
      Bool.not_true, Bool.and_false, Bool.or_self, Bool.false_eq_true, if_false, if_true]
    congr 1
    omega
  · simp only [hn, decide_false, List.isEmpty_nil, Option.isNone_none, Bool.and_self,
      Bool.not_true, Bool.false_and, Bool.or_self, Bool.false_eq_true, if_false]
    congr 1
    omega

/-- What follows a value: nothing, or a mark of the list or object that it stands in. -/
def EndsValue (rest : List Char) : Prop := ∀ c ∈ rest.head?, c = ',' ∨ c = ']' ∨ c = '}'

theorem EndsValue.not_isDigit {rest : List Char} (hrest : EndsValue rest) :
    ∀ c ∈ rest.head?, c.isDigit = false := by
  intro c hc
  rcases hrest c hc with rfl | rfl | rfl
  · rfl
  · rfl
  · rfl

theorem takeWholePart?_toDigits (n : Nat) {rest : List Char}
    (hrest : ∀ c ∈ rest.head?, c.isDigit = false) :
    takeWholePart? (Nat.toDigits 10 n ++ rest) = some (Nat.toDigits 10 n, rest) := by
  by_cases hn : n = 0
  · rw [hn]
    rfl
  · have hdigits : ∀ c ∈ Nat.toDigits 10 n, c.isDigit = true := fun c hc =>
      Nat.isDigit_of_mem_toDigits (by decide) (by decide) hc
    obtain ⟨htake, hdrop⟩ := span_isDigit_append hdigits hrest
    rw [takeWholePart?]
    · simp only [htake, hdrop, Nat.toDigits_ne_nil, if_false]
    · intro cs heq
      refine head?_toDigits_ne_zero (Nat.pos_of_ne_zero hn) ?_
      rw [← List.head?_append_of_ne_nil _ Nat.toDigits_ne_nil, heq, List.head?_cons]

/-- Nothing but a whole part is taken in front of the end of a value. -/
theorem takeFractionPart?_of_endsValue {rest : List Char} (hrest : EndsValue rest) :
    takeFractionPart? rest = some ([], rest) := by
  cases rest with
  | nil => rfl
  | cons c cs =>
      rcases hrest c rfl with rfl | rfl | rfl
      · rfl
      · rfl
      · rfl

theorem takeExponentPart?_of_endsValue {rest : List Char} (hrest : EndsValue rest) :
    takeExponentPart? rest = some (none, rest) := by
  cases rest with
  | nil => rfl
  | cons c cs =>
      rcases hrest c rfl with rfl | rfl | rfl
      · rfl
      · rfl
      · rfl

/-- A whole number is taken up to its end. -/
theorem takeNumeral?_toString (n : Int) {rest : List Char} (hrest : EndsValue rest) :
    takeNumeral? ((toString n).toList ++ rest) = some (.ofInt n, rest) := by
  have hdigits : ∀ m, takeWholePart? (Nat.toDigits 10 m ++ rest) = some (Nat.toDigits 10 m, rest) :=
    fun m => takeWholePart?_toDigits m hrest.not_isDigit
  cases n with
  | ofNat n =>
      -- the first character is a digit and no sign
      obtain ⟨d, ds, hcons, hdigit⟩ := exists_toDigits_cons n
      have hsign : ((Nat.toDigits 10 n ++ rest).head? == some '-') = false := by
        rw [hcons, List.cons_append, List.head?_cons, beq_eq_false_iff_ne]
        rintro heq
        cases heq
        cases hdigit
      rw [toList_toString_ofNat, takeNumeral?]
      simp only [hsign, Bool.false_eq_true, if_false, hdigits,
        takeFractionPart?_of_endsValue hrest, takeExponentPart?_of_endsValue hrest]
      rfl
  | negSucc n =>
      rw [toList_toString_negSucc, takeNumeral?]
      simp only [List.cons_append, List.head?_cons, BEq.rfl, if_true, List.drop_one,
        List.tail_cons, hdigits, takeFractionPart?_of_endsValue hrest,
        takeExponentPart?_of_endsValue hrest]
      simp [Numeral.ofInt, Int.negSucc_lt_zero]

/-! ### Documents as they are written -/

mutual

/-- How a document is spelled when it is written.  Double-precision numbers do not occur in the
documents that this is used for. -/
def Spelling.ofJson : Json → Spelling
  | .null => .null
  | .bool b => .bool b
  | .number (.integer n _) => .number (.ofInt n)
  | .number (.double _ _) => .null
  | .string text => .string (unitsOf text)
  | .array items => .array (Spelling.ofItems items)
  | .object members => .object (Spelling.ofMembers members)

/-- How the items of a list are spelled. -/
def Spelling.ofItems : List Json → List Spelling
  | [] => []
  | item :: items => Spelling.ofJson item :: Spelling.ofItems items

/-- How the members of an object are spelled. -/
def Spelling.ofMembers : List (String × Json) → List (List Nat × Spelling)
  | [] => []
  | (key, value) :: members =>
      (unitsOf key, Spelling.ofJson value) :: Spelling.ofMembers members

end

/-- A document without double-precision numbers, in which at most `room` brackets are open. -/
inductive IsPlain : Nat → Json → Prop
  | null {room : Nat} : IsPlain room .null
  | bool {room : Nat} (b : Bool) : IsPlain room (.bool b)
  | integer {room : Nat} (n : Int) (h : leastInteger ≤ n ∧ n ≤ greatestInteger) :
    IsPlain room (.number (.integer n h))
  | string {room : Nat} (text : String) : IsPlain room (.string text)
  | array {room : Nat} {items : List Json} (h : ∀ item ∈ items, IsPlain room item) :
    IsPlain (room + 1) (.array items)
  | object {room : Nat} {members : List (String × Json)} (h : ∀ m ∈ members, IsPlain room m.2) :
    IsPlain (room + 1) (.object members)

theorem IsPlain.texts {room : Nat} (texts : List String) :
    IsPlain (room + 1) (.array (texts.map .string)) := by
  refine .array fun item hitem => ?_
  obtain ⟨text, -, rfl⟩ := List.mem_map.1 hitem
  exact .string text

theorem isPlain_ofInt64 {room : Nat} (n : Int64) : IsPlain room (.ofInt64 n) := .integer n.toInt _

/-- The text of a member. -/
def memberText (m : String × Json) : List Char := (quoted m.1).toList ++ ':' :: m.2.render.toList

theorem toList_quoted (text : String) :
    (quoted text).toList = '"' :: (text.toList.flatMap escapeChar ++ ['"']) := by
  simp [quoted]

theorem renderItems_eq_map (items : List Json) : renderItems items = items.map render := by
  induction items with
  | nil => rfl
  | cons item items ih => rw [renderItems, ih, List.map_cons]

theorem toList_render_array (items : List Json) :
    (render (.array items)).toList =
      '[' :: ([','].intercalate (items.map fun item => item.render.toList) ++ [']']) := by
  rw [render, renderItems_eq_map]
  simp [String.toList_intercalate, Function.comp_def]

theorem toList_render_object (members : List (String × Json)) :
    (render (.object members)).toList =
      '{' :: ([','].intercalate (members.map memberText) ++ ['}']) := by
  have hmembers : (renderMembers members).map String.toList = members.map memberText := by
    induction members with
    | nil => rfl
    | cons m members ih =>
        rw [renderMembers, List.map_cons, List.map_cons, ih]
        simp [memberText]
  rw [render]
  simp [String.toList_intercalate, hmembers]

/-! ### Reading what is written -/

/-- The grammar reads what is written of a document, whatever follows. -/
structure IsReadBack (document : Json) : Prop where
  /-- The text starts with neither a gap nor the end of a list. -/
  starts : ∃ c cs, document.render.toList = c :: cs ∧ isGap c = false ∧ c ≠ ']'
  reads : ∀ fuel rest, 2 * document.render.toList.length ≤ fuel → EndsValue rest →
    takeValue? fuel (document.render.toList ++ rest) = some (.ofJson document, rest)

theorem endsValue_comma (rest : List Char) : EndsValue (',' :: rest) := by
  rintro c ⟨⟩
  exact .inl rfl

theorem endsValue_bracket (rest : List Char) : EndsValue (']' :: rest) := by
  rintro c ⟨⟩
  exact .inr (.inl rfl)

theorem endsValue_brace (rest : List Char) : EndsValue ('}' :: rest) := by
  rintro c ⟨⟩
  exact .inr (.inr rfl)

/-- The written items of a list are read up to its end. -/
theorem takeItems?_joined {items : List Json} (hne : items ≠ [])
    (h : ∀ item ∈ items, IsReadBack item) (fuel : Nat) (rest : List Char)
    (hfuel : 2 * ([','].intercalate (items.map fun item => item.render.toList)).length + 2 ≤ fuel) :
    takeItems? fuel ([','].intercalate (items.map fun item => item.render.toList) ++ ']' :: rest) =
      some (Spelling.ofItems items, rest) := by
  induction items generalizing fuel with
  | nil => exact absurd rfl hne
  | cons item items ih =>
      obtain ⟨fuel, rfl⟩ : ∃ k, fuel = k + 1 := ⟨fuel - 1, by omega⟩
      have hitem := (h item List.mem_cons_self).reads fuel
      by_cases hitems : items = []
      · rw [hitems, List.map_singleton, List.intercalate_singleton] at hfuel ⊢
        rw [takeItems?, hitem _ (by omega) (endsValue_bracket rest)]
        rfl
      · rw [List.map_cons, List.intercalate_cons_of_ne_nil (by simpa using hitems)] at hfuel ⊢
        simp only [List.length_append, List.length_singleton] at hfuel
        have hothers := ih hitems
          (fun other hother => h other (List.mem_cons_of_mem item hother)) fuel (by omega)
        rw [List.append_assoc, List.append_assoc, List.singleton_append, takeItems?,
          hitem _ (by omega) (endsValue_comma _)]
        show (takeItems? fuel _).map _ = _
        rw [hothers]
        rfl

/-- A written member is read, and then the end of the object or more members. -/
theorem takeMembers?_member {m : String × Json} (h : IsReadBack m.2) {fuel : Nat}
    (hfuel : 2 * (memberText m).length ≤ fuel) (rest : List Char) :
    takeMembers? (fuel + 1) (memberText m ++ '}' :: rest) =
        some ([(unitsOf m.1, Spelling.ofJson m.2)], rest) ∧
      takeMembers? (fuel + 1) (memberText m ++ ',' :: rest) =
        (takeMembers? fuel rest).map fun taken =>
          ((unitsOf m.1, Spelling.ofJson m.2) :: taken.1, taken.2) := by
  have hlength : (memberText m).length =
      (quoted m.1).toList.length + (m.2.render.toList.length + 1) := by
    rw [memberText, List.length_append, List.length_cons]
  have htext : ∀ rest, memberText m ++ rest =
      '"' :: (m.1.toList.flatMap escapeChar ++ '"' :: ':' :: (m.2.render.toList ++ rest)) := by
    simp [memberText, toList_quoted]
  have hkey : ∀ rest, takeUnits? (m.1.toList.flatMap escapeChar ++ '"' :: rest) =
      some (unitsOf m.1, rest) := takeUnits?_escaped _
  have hvalue : ∀ rest, EndsValue rest →
      takeValue? fuel (m.2.render.toList ++ rest) = some (.ofJson m.2, rest) :=
    fun rest => h.reads fuel rest (by omega)
  have hquote : ∀ cs, skipGap ('"' :: cs) = '"' :: cs := fun _ => rfl
  have hcolon : ∀ cs, skipGap (':' :: cs) = ':' :: cs := fun _ => rfl
  constructor
  · rw [htext, takeMembers?]
    simp only [hquote, hkey, hcolon, hvalue _ (endsValue_brace rest)]
    rfl
  · rw [htext, takeMembers?]
    simp only [hquote, hkey, hcolon, hvalue _ (endsValue_comma rest)]
    rfl

/-- The written members of an object are read up to its end. -/
theorem takeMembers?_joined {members : List (String × Json)} (hne : members ≠ [])
    (h : ∀ m ∈ members, IsReadBack m.2) (fuel : Nat) (rest : List Char)
    (hfuel : 2 * ([','].intercalate (members.map memberText)).length + 2 ≤ fuel) :
    takeMembers? fuel ([','].intercalate (members.map memberText) ++ '}' :: rest) =
      some (Spelling.ofMembers members, rest) := by
  induction members generalizing fuel with
  | nil => exact absurd rfl hne
  | cons m members ih =>
      obtain ⟨fuel, rfl⟩ : ∃ k, fuel = k + 1 := ⟨fuel - 1, by omega⟩
      have hm := h m List.mem_cons_self
      by_cases hmembers : members = []
      · rw [hmembers, List.map_singleton, List.intercalate_singleton] at hfuel ⊢
        exact (takeMembers?_member hm (by omega) rest).1
      · rw [List.map_cons, List.intercalate_cons_of_ne_nil (by simpa using hmembers)] at hfuel ⊢
        simp only [List.length_append, List.length_singleton] at hfuel
        have hothers := ih hmembers
          (fun other hother => h other (List.mem_cons_of_mem m hother)) fuel (by omega)
        rw [List.append_assoc, List.append_assoc, List.singleton_append,
          (takeMembers?_member hm (by omega) _).2, hothers]
        rfl

theorem exists_joined_eq_cons (c : Char) (cs : List Char) (texts : List (List Char)) :
    ∃ more, [','].intercalate ((c :: cs) :: texts) = c :: more := by
  cases texts with
  | nil => exact ⟨cs, List.intercalate_singleton⟩
  | cons text texts => exact ⟨_, List.intercalate_cons_cons⟩

theorem skipGap_cons {c : Char} (hgap : isGap c = false) (cs : List Char) :
    skipGap (c :: cs) = c :: cs := by
  simp [skipGap, hgap]

/-- A list with something in it is read item by item. -/
theorem takeValue?_items (fuel : Nat) {c : Char} {cs : List Char} (hgap : isGap c = false)
    (hclose : c ≠ ']') :
    takeValue? (fuel + 1) ('[' :: c :: cs) =
      (takeItems? fuel (c :: cs)).map fun taken => (.array taken.1, taken.2) := by
  have hopen : skipGap ('[' :: c :: cs) = '[' :: c :: cs := rfl
  rw [takeValue?]
  simp only [hopen, skipGap_cons hgap]
  split
  · next heq =>
      cases heq
      exact absurd rfl hclose
  · rfl

/-- A character that a number starts with. -/
def StartsNumber (c : Char) : Prop := c = '-' ∨ c.isDigit = true

/-- No other value starts with such a character. -/
theorem StartsNumber.ne {c d : Char} (h : StartsNumber c) (hsign : d ≠ '-')
    (hdigit : d.isDigit = false) : c ≠ d := by
  rintro rfl
  rcases h with hminus | hc
  · exact hsign hminus
  · rw [hdigit] at hc
    cases hc

theorem StartsNumber.isGap_eq_false {c : Char} (h : StartsNumber c) : isGap c = false := by
  have hspace := h.ne (d := ' ') (by decide) rfl
  have htab := h.ne (d := '\t') (by decide) rfl
  have hnewline := h.ne (d := '\n') (by decide) rfl
  have hreturn := h.ne (d := '\r') (by decide) rfl
  simp [isGap, hspace, htab, hnewline, hreturn]

theorem startsNumber_toString (n : Int) :
    ∃ c cs, (toString n).toList = c :: cs ∧ StartsNumber c := by
  cases n with
  | ofNat n =>
      obtain ⟨c, cs, hcons, hdigit⟩ := exists_toDigits_cons n
      rw [toList_toString_ofNat]
      exact ⟨c, cs, hcons, .inr hdigit⟩
  | negSucc n => exact ⟨_, _, toList_toString_negSucc n, .inl rfl⟩

/-- What starts as a number is read as one. -/
theorem takeValue?_numeral (fuel : Nat) {c : Char} (cs : List Char) (h : StartsNumber c) :
    takeValue? (fuel + 1) (c :: cs) =
      (takeNumeral? (c :: cs)).map fun taken => (.number taken.1, taken.2) := by
  rw [takeValue?, skipGap_cons h.isGap_eq_false]
  split
  · next heq => cases heq
  · next heq =>
      cases heq
      exact absurd rfl (h.ne (by decide) rfl)
  · next heq =>
      cases heq
      exact absurd rfl (h.ne (by decide) rfl)
  · next heq =>
      cases heq
      exact absurd rfl (h.ne (by decide) rfl)
  · next heq =>
      cases heq
      exact absurd rfl (h.ne (by decide) rfl)
  · next heq =>
      cases heq
      exact absurd rfl (h.ne (by decide) rfl)
  · next heq =>
      cases heq
      exact absurd rfl (h.ne (by decide) rfl)
  · rfl

namespace IsReadBack

/-- Every text has a first character, so that there is one step at least. -/
theorem of_step {document : Json}
    (starts : ∃ c cs, document.render.toList = c :: cs ∧ isGap c = false ∧ c ≠ ']')
    (step : ∀ fuel rest, 2 * document.render.toList.length ≤ fuel + 1 → EndsValue rest →
      takeValue? (fuel + 1) (document.render.toList ++ rest) = some (.ofJson document, rest)) :
    IsReadBack document where
  starts := starts
  reads := by
    intro fuel rest hfuel hrest
    obtain ⟨c, cs, htext, -⟩ := starts
    obtain ⟨fuel, rfl⟩ : ∃ k, fuel = k + 1 := by
      rw [htext, List.length_cons] at hfuel
      exact ⟨fuel - 1, by omega⟩
    exact step fuel rest hfuel hrest

theorem null : IsReadBack .null :=
  of_step ⟨_, _, rfl, rfl, by decide⟩ fun _ _ _ _ => rfl

theorem bool (b : Bool) : IsReadBack (.bool b) := by
  cases b with
  | false => exact of_step ⟨_, _, rfl, rfl, by decide⟩ fun _ _ _ _ => rfl
  | true => exact of_step ⟨_, _, rfl, rfl, by decide⟩ fun _ _ _ _ => rfl

theorem integer (n : Int) (h : leastInteger ≤ n ∧ n ≤ greatestInteger) :
    IsReadBack (.number (.integer n h)) := by
  obtain ⟨c, cs, htext, hfirst⟩ := startsNumber_toString n
  have hrender : (render (.number (.integer n h))).toList = (toString n).toList := by
    rw [render, Number.render]
  refine of_step ⟨c, cs, hrender.trans htext, hfirst.isGap_eq_false, hfirst.ne (by decide) rfl⟩
    fun fuel rest hfuel hrest => ?_
  rw [hrender, htext, List.cons_append, takeValue?_numeral fuel _ hfirst, ← List.cons_append,
    ← htext, takeNumeral?_toString n hrest]
  rfl

theorem string (text : String) : IsReadBack (.string text) := by
  have hrender : (render (.string text)).toList =
      '"' :: (text.toList.flatMap escapeChar ++ ['"']) := by
    rw [render, toList_quoted]
  refine of_step ⟨_, _, hrender, rfl, by decide⟩ fun fuel rest hfuel hrest => ?_
  rw [hrender, List.cons_append, List.append_assoc]
  show (takeUnits? (text.toList.flatMap escapeChar ++ '"' :: rest)).map _ = _
  rw [takeUnits?_escaped]
  rfl

theorem array {items : List Json} (h : ∀ item ∈ items, IsReadBack item) :
    IsReadBack (.array items) := by
  refine of_step ⟨_, _, toList_render_array items, rfl, by decide⟩ fun fuel rest hfuel hrest => ?_
  rw [toList_render_array, List.length_cons, List.length_append, List.length_singleton] at hfuel
  rw [toList_render_array, List.cons_append, List.append_assoc, List.singleton_append]
  by_cases hitems : items = []
  · rw [hitems]
    rfl
  · have hread := takeItems?_joined hitems h fuel rest (by omega)
    obtain ⟨item, others, rfl⟩ := List.exists_cons_of_ne_nil hitems
    obtain ⟨c, cs, htext, hgap, hclose⟩ := (h item List.mem_cons_self).starts
    obtain ⟨more, hjoined⟩ := exists_joined_eq_cons c cs
      (others.map fun item => item.render.toList)
    rw [List.map_cons, htext, hjoined, List.cons_append] at hread ⊢
    rw [takeValue?_items fuel hgap hclose, hread]
    rfl

theorem object {members : List (String × Json)} (h : ∀ m ∈ members, IsReadBack m.2) :
    IsReadBack (.object members) := by
  refine of_step ⟨_, _, toList_render_object members, rfl, by decide⟩
    fun fuel rest hfuel hrest => ?_
  rw [toList_render_object, List.length_cons, List.length_append, List.length_singleton] at hfuel
  rw [toList_render_object, List.cons_append, List.append_assoc, List.singleton_append]
  by_cases hmembers : members = []
  · rw [hmembers]
    rfl
  · have hread := takeMembers?_joined hmembers h fuel rest (by omega)
    obtain ⟨m, others, rfl⟩ := List.exists_cons_of_ne_nil hmembers
    obtain ⟨more, hjoined⟩ := exists_joined_eq_cons '"' _ (others.map memberText)
    rw [List.map_cons, memberText, toList_quoted, List.cons_append, hjoined,
      List.cons_append] at hread ⊢
    show (takeMembers? fuel _).map _ = _
    rw [hread]
    rfl

end IsReadBack

/-- A written document is spelled as it is, whatever follows. -/
theorem IsPlain.isReadBack {room : Nat} {document : Json} (h : IsPlain room document) :
    IsReadBack document := by
  induction h with
  | null => exact .null
  | bool b => exact .bool b
  | integer n h => exact .integer n h
  | string text => exact .string text
  | array _ ih => exact .array ih
  | object _ ih => exact .object ih

/-- **A written document is spelled as it is.** -/
theorem IsPlain.ofChars?_render {room : Nat} {document : Json} (h : IsPlain room document) :
    Spelling.ofChars? document.render.toList = some (.ofJson document) := by
  have hread := h.isReadBack.reads (2 * document.render.toList.length + 2) [] (by omega)
    (by simp [EndsValue])
  rw [List.append_nil] at hread
  rw [Spelling.ofChars?, hread]
  rfl

/-! ### The document behind the spelling -/

theorem isSome_number?_ofInt {n : Int} (h : leastInteger ≤ n ∧ n ≤ greatestInteger) :
    (Numeral.ofInt n).number?.isSome = true := by
  rw [Numeral.number?, Numeral.int?_ofInt, Option.bind_some, Number.ofInt?, dif_pos h]
  rfl

theorem isSome_documents? {room : Nat} {items : List Json}
    (h : ∀ item ∈ items, (Spelling.ofJson item).isDocument room = true) :
    (Spelling.documents? room (Spelling.ofItems items)).isSome = true := by
  induction items with
  | nil => rfl
  | cons item items ih =>
      obtain ⟨document, hdocument⟩ := Option.isSome_iff_exists.1 (h item List.mem_cons_self)
      obtain ⟨documents, hdocuments⟩ := Option.isSome_iff_exists.1
        (ih fun other hother => h other (List.mem_cons_of_mem item hother))
      rw [Spelling.ofItems, Spelling.documents?, hdocument, hdocuments]
      rfl

theorem isSome_memberDocuments? {room : Nat} {members : List (String × Json)}
    (h : ∀ m ∈ members, (Spelling.ofJson m.2).isDocument room = true) :
    (Spelling.memberDocuments? room (Spelling.ofMembers members)).isSome = true := by
  induction members with
  | nil => rfl
  | cons m members ih =>
      obtain ⟨document, hdocument⟩ := Option.isSome_iff_exists.1 (h m List.mem_cons_self)
      obtain ⟨pairs, hpairs⟩ := Option.isSome_iff_exists.1
        (ih fun other hother => h other (List.mem_cons_of_mem m hother))
      rw [Spelling.ofMembers, Spelling.memberDocuments?, textOf?_unitsOf, hdocument, hpairs]
      rfl

/-- What a written document is spelled as is a document, with as much room as it needs. -/
theorem IsPlain.isDocument {room : Nat} {document : Json} (h : IsPlain room document) :
    (Spelling.ofJson document).isDocument room = true := by
  induction h with
  | null | bool b => rfl
  | integer n h =>
      rw [Spelling.ofJson, Spelling.isDocument, Spelling.document?, Option.isSome_map]
      exact isSome_number?_ofInt h
  | string text =>
      rw [Spelling.ofJson, Spelling.isDocument, Spelling.document?, textOf?_unitsOf]
      rfl
  | array _ ih =>
      rw [Spelling.ofJson, Spelling.isDocument, Spelling.document?, if_neg (Nat.succ_ne_zero _),
        Option.isSome_map]
      exact isSome_documents? ih
  | object _ ih =>
      rw [Spelling.ofJson, Spelling.isDocument, Spelling.document?, if_neg (Nat.succ_ne_zero _),
        Option.isSome_map]
      exact isSome_memberDocuments? ih

end SqlFilter.Json

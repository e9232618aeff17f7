/-
**Whole numbers that must be held exactly.**

A number that is asked to be exact is rounded first and compared with the bound afterwards.  For
whole numbers nothing is lost by that: below the next power of two every one is held as it is, and
none that is at or above that power is rounded below it, whether it is finite afterwards or not.  So
the reader accepts the whole numbers up to the bound and no others, however they are written.

Main definitions:

* `SqlFilter.Compound.WrittenInteger`: a whole number as it is written;
* `SqlFilter.Compound.WrittenInteger.IsExact`: the numbers that are accepted;
* `SqlFilter.Compound.IntegerElement`: the elements of an array of whole numbers.

Main results:

* `SqlFilter.Compound.parseExactNumber_text`: what is read from a written whole number;
* `SqlFilter.Compound.exactNumbers_of_integers`: **exactly the whole numbers up to the bound are
  accepted, and without a change**, alone and in arrays.
-/

import Mathlib.Data.List.TakeWhile
import SqlFilter.Compound.Lists
import SqlFilter.Proofs.Compound.ArrayLiteral
import SqlFilter.Proofs.Number.Digits
import SqlFilter.Proofs.Number.NearestWord

set_option relaxedAutoImplicit false
set_option autoImplicit false

namespace SqlFilter.Compound

open SqlFilter.Number
open SqlFilter.Text (asciiLower isBlank toLower_eq_self trim trim_eq_self_of_forall
  trim_surrounded)

/-! ### Signs and digits -/

/-- What stands in front of the digits of a number. -/
inductive Sign where
  | absent
  | plus
  | minus
  deriving Repr, DecidableEq

namespace Sign

/-- The text of a sign. -/
def chars : Sign → List Char
  | absent => []
  | plus => ['+']
  | minus => ['-']

/-- Whether the number behind the sign is negated. -/
def isMinus : Sign → Bool
  | minus => true
  | _ => false

theorem not_special_of_mem {sign : Sign} {c : Char} (h : c ∈ sign.chars) :
    isSpecial c = false ∧ isBlank c = false := by
  cases sign with
  | absent => cases h
  | plus =>
      rw [List.mem_singleton.1 h]
      decide
  | minus =>
      rw [List.mem_singleton.1 h]
      decide

theorem takeSign_chars (sign : Sign) {digits : List Char}
    (hdigits : ∀ c ∈ digits, c.isDigit = true) :
    takeSign (sign.chars ++ digits) = (sign.isMinus, digits) := by
  cases sign with
  | absent => exact takeSign_of_isDigit hdigits
  | plus => rfl
  | minus => rfl

end Sign

/-- The characters of a class that has none of the special ones mean nothing in an array
literal. -/
theorem isSpecial_eq_false {p : Char → Bool} {c : Char} (hc : p c = true)
    (h : (['{', '}', ',', '"', '\\'].all fun d => !p d) = true) : isSpecial c = false := by
  rw [← Bool.not_eq_true]
  intro hspecial
  simp only [isSpecial, Bool.or_eq_true, beq_iff_eq] at hspecial
  have hmem : c ∈ ['{', '}', ',', '"', '\\'] := by
    rcases hspecial with (((rfl | rfl) | rfl) | rfl) | rfl
    all_goals decide
  have hnot := List.all_eq_true.1 h c hmem
  rw [hc] at hnot
  cases hnot

/-- A text that starts with a digit is no word that starts with a letter. -/
theorem ofList_asciiLower_ne {c d : Char} (hc : c.isDigit = true) (hd : d.isDigit = false)
    (cs ds : List Char) : String.ofList (asciiLower (c :: cs)) ≠ String.ofList (d :: ds) := by
  intro heq
  have hlower : c.toLower = c := by
    have hcode : c.toNat ≤ 57 := (Char.isDigit_iff_toNat.1 hc).2
    exact toLower_eq_self (.inl (by omega))
  have hlist := String.ofList_injective heq
  rw [asciiLower, List.map_cons, hlower] at hlist
  rw [(List.cons.inj hlist).1, hd] at hc
  cases hc

/-- A sign and digits are read as the whole number. -/
theorem literal_ofChars?_digits (sign : Sign) {digits : List Char} (hne : digits ≠ [])
    (hdigits : ∀ c ∈ digits, c.isDigit = true) :
    Literal.ofChars? (sign.chars ++ digits) =
      some (.decimal ⟨sign.isMinus, digitsValue digits, 0⟩) := by
  have hword : ∀ d ds, d.isDigit = false →
      String.ofList (asciiLower digits) ≠ String.ofList (d :: ds) := by
    intro d ds hd
    obtain ⟨c, cs, rfl⟩ := List.exists_cons_of_ne_nil hne
    exact ofList_asciiLower_ne (hdigits c List.mem_cons_self) hd cs ds
  have hnan : String.ofList (asciiLower digits) ≠ "nan" := hword 'n' "an".toList rfl
  have hinf : String.ofList (asciiLower digits) ≠ "inf" := hword 'i' "nf".toList rfl
  have hinfinity : String.ofList (asciiLower digits) ≠ "infinity" := hword 'i' "nfinity".toList rfl
  have hwhole : digits.takeWhile Char.isDigit = digits := List.takeWhile_eq_self_iff.2 hdigits
  have hrest : digits.dropWhile Char.isDigit = [] := List.dropWhile_eq_nil_iff.2 hdigits
  have hdecimal : Literal.decimalOfChars? sign.isMinus digits =
      some ⟨sign.isMinus, digitsValue digits, 0⟩ := by
    simp [Literal.decimalOfChars?, hwhole, hrest, hne, Literal.exponentOfChars?]
  rw [Literal.ofChars?, sign.takeSign_chars hdigits]
  simp only [hnan, hinf, hinfinity, or_self, if_false, hdecimal, Option.map_some]

/-- The length of a whole number may show that it is out of reach; otherwise it is a fraction of
one. -/
theorem decimal_size_whole (negative : Bool) {n : Nat} (hn : n ≠ 0) :
    (⟨negative, n, 0⟩ : Decimal).size =
      if Decimal.reach < (Nat.toDigits 10 n).length then .beyond else .ordinary n 1 := by
  rw [Decimal.size, if_neg hn]
  simp only [Int.zero_add, Int.ofNat_lt]
  split
  · rfl
  · rw [if_neg (by omega), if_pos (Int.le_refl 0), Int.toNat_zero, tenPow_zero, Nat.mul_one]

/-- A whole number is rounded, unless its length alone shows that it is infinite. -/
theorem decimal_toBinary64_whole (negative : Bool) (n : Nat) :
    (⟨negative, n, 0⟩ : Decimal).toBinary64 = .nearest negative n 1 ∨
      twoPow 53 ≤ n ∧ (⟨negative, n, 0⟩ : Decimal).toBinary64 = .infinity negative := by
  rcases Nat.eq_zero_or_pos n with rfl | hpos
  · left
    have hword : Format.double.nearestWord 0 1 = 0 := by
      rw [Format.nearestWord, Nat.zero_mul, Nat.zero_div]
      exact Nat.min_eq_left (Nat.zero_le _)
    rw [Binary64.nearest, hword, Nat.add_zero]
    rfl
  · rw [Decimal.toBinary64, decimal_size_whole negative (Nat.ne_of_gt hpos)]
    rcases Nat.lt_or_ge Decimal.reach (Nat.toDigits 10 n).length with hlong | hshort
    · right
      rw [if_pos hlong]
      have hreach : Decimal.reach = 400 := rfl
      have hlarge : tenPow 16 ≤ n := by
        refine Nat.le_of_not_lt fun hsmall => ?_
        have hlength := (Nat.length_toDigits_le_iff (by decide) (by decide)).2 hsmall
        omega
      have hbound : twoPow 53 ≤ tenPow 16 := by decide +kernel
      exact ⟨Nat.le_trans hbound hlarge, rfl⟩
    · left
      rw [if_neg (Nat.not_lt.2 hshort)]

/-! ### Written whole numbers -/

/-- A whole number as it is written: a sign or none, and digits, of which the first ones may be
zeros, with blanks around them. -/
structure WrittenInteger where
  before : List Char
  sign : Sign
  digits : List Char
  behind : List Char
  digits_ne_nil : digits ≠ []
  isDigit_of_mem : ∀ c ∈ digits, c.isDigit = true
  isBlank_before : ∀ c ∈ before, isBlank c = true
  isBlank_behind : ∀ c ∈ behind, isBlank c = true

namespace WrittenInteger

/-- The characters of the text. -/
def chars (t : WrittenInteger) : List Char := t.before ++ (t.sign.chars ++ t.digits) ++ t.behind

/-- The text. -/
def text (t : WrittenInteger) : String := String.ofList t.chars

/-- The number. -/
def value (t : WrittenInteger) : Int :=
  if t.sign.isMinus then -(digitsValue t.digits : Int) else digitsValue t.digits

/-- Whether the number is one of those, up to a bound, that are all held exactly. -/
def IsExact (t : WrittenInteger) : Prop := t.value.natAbs ≤ twoPow 53 - 1

instance (t : WrittenInteger) : Decidable t.IsExact := inferInstanceAs (Decidable (_ ≤ _))

variable (t : WrittenInteger)

theorem natAbs_value : t.value.natAbs = digitsValue t.digits := by
  rw [value]
  split
  · rw [Int.natAbs_neg, Int.natAbs_natCast]
  · rw [Int.natAbs_natCast]

/-- Only what is around the number is trimmed. -/
theorem trim_text : trim t.text.toList = t.sign.chars ++ t.digits := by
  rw [text, String.toList_ofList, chars, trim_surrounded t.isBlank_before t.isBlank_behind]
  refine trim_eq_self_of_forall fun c hc => ?_
  rcases List.mem_append.1 hc with hsign | hdigit
  · exact (Sign.not_special_of_mem hsign).2
  · exact isBlank_of_isDigit (t.isDigit_of_mem c hdigit)

theorem isSpecial_of_mem_chars {c : Char} (hc : c ∈ t.chars) : isSpecial c = false := by
  have hblank : ∀ d, isBlank d = true → isSpecial d = false := fun _ hd =>
    isSpecial_eq_false hd rfl
  rw [chars, List.mem_append, List.mem_append, List.mem_append] at hc
  rcases hc with (hbefore | hsign | hdigit) | hbehind
  · exact hblank c (t.isBlank_before c hbefore)
  · exact (Sign.not_special_of_mem hsign).1
  · exact isSpecial_eq_false (t.isDigit_of_mem c hdigit) rfl
  · exact hblank c (t.isBlank_behind c hbehind)

/-- A whole number is not the spelling of a missing element, which has no digit. -/
theorem chars_ne_nullText : t.chars ≠ Kind.array.nullText := by
  intro heq
  obtain ⟨c, hmem⟩ := List.exists_mem_of_ne_nil _ t.digits_ne_nil
  have hc : c ∈ Kind.array.nullText := by
    rw [← heq, chars]
    exact List.mem_append_left _ (List.mem_append_right _ (List.mem_append_right _ hmem))
  have hletters : (Kind.array.nullText.all fun d => !d.isDigit) = true := rfl
  have hletter := List.all_eq_true.1 hletters c hc
  rw [t.isDigit_of_mem c hmem] at hletter
  cases hletter

/-- A whole number may stand bare in an array. -/
theorem isPlain_text : isPlain t.text.toList = true := by
  have hne : t.chars ≠ [] := by simp [chars, t.digits_ne_nil]
  rw [text, String.toList_ofList]
  simp only [isPlain, hne, t.chars_ne_nullText, ne_eq, not_false_eq_true, decide_true,
    Bool.true_and, List.all_eq_true, Bool.not_eq_true']
  exact fun c hc => t.isSpecial_of_mem_chars hc

end WrittenInteger

/-! ### Reading one -/

namespace WrittenInteger

variable (t : WrittenInteger)

/-- The double-precision number that a written whole number is read as. -/
def double : Binary64 := (⟨t.sign.isMinus, digitsValue t.digits, 0⟩ : Decimal).toBinary64

theorem parseNumber_text : parseNumber t.text = .ok t.double := by
  rw [parseNumber, t.trim_text, literal_ofChars?_digits t.sign t.digits_ne_nil t.isDigit_of_mem]
  rfl

theorem isExact_iff : t.IsExact ↔ digitsValue t.digits < twoPow 53 := by
  have hpos : 0 < twoPow 53 := twoPow_pos 53
  rw [IsExact, t.natAbs_value]
  omega

/-- The number that is read exceeds the bound exactly when the one that is written does. -/
theorem exceeds_double : t.double.exceeds largestExact = true ↔ ¬t.IsExact := by
  have hlargest : largestExact + 1 = twoPow 53 := by decide +kernel
  have hwritten : largestExact < digitsValue t.digits ↔ ¬t.IsExact := by
    rw [t.isExact_iff]
    omega
  rw [double, ← hwritten]
  rcases decimal_toBinary64_whole t.sign.isMinus (digitsValue t.digits) with hnear | ⟨hlarge, hinf⟩
  · rw [hnear, Binary64.exceeds_nearest _ _ (by omega), decide_eq_true_iff]
  · rw [hinf, Binary64.exceeds_of_infinite (Binary64.read_infinity _)]
    exact ⟨fun _ => by omega, fun _ => rfl⟩

/-- An exact number is held as it is. -/
theorem toRat?_double (h : t.IsExact) : t.double.toRat? = some (t.value : Rat) := by
  have hsmall := t.isExact_iff.1 h
  have hvalue : (if t.sign.isMinus then -(digitsValue t.digits : Rat) else digitsValue t.digits) =
      (t.value : Rat) := by
    rw [value]
    split
    · rw [Rat.intCast_neg, Rat.intCast_natCast]
    · rw [Rat.intCast_natCast]
  rw [double]
  rcases decimal_toBinary64_whole t.sign.isMinus (digitsValue t.digits) with hnear | ⟨hlarge, -⟩
  · rw [hnear, Binary64.toRat?_nearest _ hsmall, hvalue]
  · omega

end WrittenInteger

/-- A written whole number is accepted as what it is read as when it is exact, and refused with its
text otherwise. -/
theorem parseExactNumber_text (t : WrittenInteger) :
    parseExactNumber t.text =
      if t.IsExact then .ok t.double else .error (.numericPrecision t.text) := by
  rw [parseExactNumber, t.parseNumber_text]
  dsimp only
  by_cases h : t.IsExact
  · rw [if_pos h, if_neg (fun hexceeds => t.exceeds_double.1 hexceeds h)]
  · rw [if_neg h, if_pos (t.exceeds_double.2 h)]

/-! ### Arrays -/

/-- An element of an array of whole numbers: null, or a number that stands bare or in quotes. -/
inductive IntegerElement where
  | null
  | bare (number : WrittenInteger)
  | quoted (number : WrittenInteger)

namespace IntegerElement

/-- The element as it is written. -/
def element : IntegerElement → ArrayElement
  | null => .null
  | bare t => .bare t.text t.isPlain_text
  | quoted t => .quoted t.text

/-- The number, if there is one. -/
def number? : IntegerElement → Option WrittenInteger
  | null => none
  | bare t => some t
  | quoted t => some t

theorem content_element (i : IntegerElement) :
    i.element.content = i.number?.map WrittenInteger.text := by
  cases i with
  | null => rfl
  | bare t => rfl
  | quoted t => rfl

/-- The literal of an array of whole numbers. -/
def literal (items : List IntegerElement) : String := arrayLiteral (items.map element)

/-- The numbers of an array are read one by one. -/
theorem decodeExactNumberArray_literal (items : List IntegerElement) :
    decodeExactNumberArray (literal items) =
      readPresent parseExactNumber
        ((items.map number?).map fun item => item.map WrittenInteger.text) := by
  have hcontents : (items.map element).map ArrayElement.content =
      (items.map number?).map fun item => item.map WrittenInteger.text := by
    rw [List.map_map, List.map_map]
    exact List.map_congr_left fun i _ => i.content_element
  rw [decodeExactNumberArray, decodeArrayWith, literal, decodeArray_eq_content]
  dsimp only
  rw [hcontents]

end IntegerElement

/-- In a list of numbers either all are exact, or there is a first one that is not. -/
theorem forall_isExact_or_exists_first (numbers : List (Option WrittenInteger)) :
    (∀ t, some t ∈ numbers → t.IsExact) ∨
      ∃ front t behind, numbers = front ++ some t :: behind ∧
        (∀ u, some u ∈ front → u.IsExact) ∧ ¬t.IsExact :=
  forall_or_exists_first WrittenInteger.IsExact numbers

/-- An array of exact numbers is read as those numbers. -/
theorem decodeExactNumberArray_of_forall {items : List IntegerElement}
    (h : ∀ t, some t ∈ items.map IntegerElement.number? → t.IsExact) :
    decodeExactNumberArray (IntegerElement.literal items) =
      .ok ((items.map IntegerElement.number?).map fun item => item.map WrittenInteger.double) := by
  rw [IntegerElement.decodeExactNumberArray_literal]
  refine readPresent_map_of_mem fun t ht => ?_
  rw [parseExactNumber_text, if_pos (h t ht)]

/-- What is read from exact numbers denotes them. -/
theorem toRat?_doubles {items : List IntegerElement}
    (h : ∀ t, some t ∈ items.map IntegerElement.number? → t.IsExact) :
    ((items.map IntegerElement.number?).map fun item => item.map WrittenInteger.double).map
        (fun x => x.map Binary64.toRat?) =
      items.map fun i => i.number?.map fun t => some (t.value : Rat) := by
  rw [List.map_map, List.map_map]
  refine List.map_congr_left fun i hi => ?_
  cases hnumber : i.number? with
  | none => simp [hnumber]
  | some t =>
      have hexact := h t (List.mem_map.2 ⟨i, hi, hnumber⟩)
      simp [hnumber, t.toRat?_double hexact]

/-- An array is refused for the first of its numbers that is not exact. -/
theorem decodeExactNumberArray_of_first {items : List IntegerElement}
    {front behind : List (Option WrittenInteger)} {t : WrittenInteger}
    (hitems : items.map IntegerElement.number? = front ++ some t :: behind)
    (hfront : ∀ u, some u ∈ front → u.IsExact) (ht : ¬t.IsExact) :
    decodeExactNumberArray (IntegerElement.literal items) = .error (.numericPrecision t.text) := by
  rw [IntegerElement.decodeExactNumberArray_literal, hitems]
  have hread : ∀ u, some u ∈ front → parseExactNumber u.text = .ok u.double := by
    intro u hu
    rw [parseExactNumber_text, if_pos (hfront u hu)]
  have herror : parseExactNumber t.text = .error (.numericPrecision t.text) := by
    rw [parseExactNumber_text, if_neg ht]
  exact readPresent_map_of_error hread herror behind

/-- **Exactly the whole numbers up to the bound are accepted, and without a change.**  A written
whole number of any size is accepted if it is not above the bound in magnitude, as a
double-precision number that denotes it, and refused with its text otherwise.  An array of such
numbers and nulls is accepted if all of them are, as what they denote, in their order and with the
nulls among them, and refused with the text of the first one that is not. -/
theorem exactNumbers_of_integers :
    (∀ t : WrittenInteger,
      ((∃ x, parseExactNumber t.text = .ok x) ↔ t.IsExact) ∧
        (∀ x, parseExactNumber t.text = .ok x → x.toRat? = some (t.value : Rat)) ∧
        (∀ e, parseExactNumber t.text = .error e → e = .numericPrecision t.text)) ∧
      ∀ items : List IntegerElement,
        ((∃ xs, decodeExactNumberArray (IntegerElement.literal items) = .ok xs) ↔
            ∀ t, some t ∈ items.map IntegerElement.number? → t.IsExact) ∧
          (∀ xs, decodeExactNumberArray (IntegerElement.literal items) = .ok xs →
            xs.map (fun x => x.map Binary64.toRat?) =
              items.map fun i => i.number?.map fun t => some (t.value : Rat)) ∧
          ∀ e, decodeExactNumberArray (IntegerElement.literal items) = .error e →
            ∃ front t behind, items.map IntegerElement.number? = front ++ some t :: behind ∧
              (∀ u, some u ∈ front → u.IsExact) ∧ ¬t.IsExact ∧ e = .numericPrecision t.text := by
  constructor
  · intro t
    rw [parseExactNumber_text]
    by_cases h : t.IsExact
    · rw [if_pos h]
      refine ⟨⟨fun _ => h, fun _ => ⟨t.double, rfl⟩⟩, ?_, ?_⟩
      · rintro x ⟨⟩
        exact t.toRat?_double h
      · rintro e ⟨⟩
    · rw [if_neg h]
      refine ⟨⟨?_, fun hexact => absurd hexact h⟩, ?_, ?_⟩
      · rintro ⟨x, ⟨⟩⟩
      · rintro x ⟨⟩
      · rintro e ⟨⟩
        rfl
  · intro items
    rcases forall_isExact_or_exists_first (items.map IntegerElement.number?) with
      hall | ⟨front, t, behind, hitems, hfront, ht⟩
    · rw [decodeExactNumberArray_of_forall hall]
      refine ⟨⟨fun _ => hall, fun _ => ⟨_, rfl⟩⟩, ?_, ?_⟩
      · rintro xs ⟨⟩
        exact toRat?_doubles hall
      · rintro e ⟨⟩
    · rw [decodeExactNumberArray_of_first hitems hfront ht]
      refine ⟨⟨?_, ?_⟩, ?_, ?_⟩
      · rintro ⟨xs, ⟨⟩⟩
      · intro hall
        refine absurd (hall t ?_) ht
        rw [hitems]
        exact List.mem_append_right front List.mem_cons_self
      · rintro xs ⟨⟩
      · rintro e ⟨⟩
        exact ⟨front, t, behind, hitems, hfront, ht, rfl⟩

/-- The largest number that is accepted and the least one that is not, with what may be around them
and in front of them. -/
theorem exactNumbers_of_integers_atBound :
    (∃ x, parseExactNumber "\t+09007199254740991 " = .ok x) ∧
      ¬∃ x, parseExactNumber "-9007199254740992" = .ok x := by
  let largest : WrittenInteger :=
    ⟨['\t'], .plus, "09007199254740991".toList, [' '], by decide, List.all_eq_true.1 rfl,
      List.all_eq_true.1 rfl, List.all_eq_true.1 rfl⟩
  let beyond : WrittenInteger :=
    ⟨[], .minus, "9007199254740992".toList, [], by decide, List.all_eq_true.1 rfl,
      List.all_eq_true.1 rfl, List.all_eq_true.1 rfl⟩
  have hlargest : largest.IsExact := by decide +kernel
  have hbeyond : ¬beyond.IsExact := by decide +kernel
  exact ⟨(exactNumbers_of_integers.1 largest).1.2 hlargest,
    mt (exactNumbers_of_integers.1 beyond).1.1 hbeyond⟩

end SqlFilter.Compound

/-
**A text that is looked for.**

One operator looks for its value anywhere in a field.  It makes a pattern of the value: a wildcard
for any sequence on both sides, and in between the value with a backslash in front of every
character that has a meaning in patterns.  Here patterns are read and matched as the server does it,
so that the pattern can be compared with what it is for: it matches the texts that contain the
value.

A pattern is read into items first, and the items are matched.  Between the two wildcards stands one
item for each character of the value, which asks for that character: none of them is a wildcard, and
none takes away the meaning of what follows.

Main definitions:

* `SqlFilter.PatternItem`: what a pattern asks of a text, piece by piece;
* `SqlFilter.patternItems?`: the items of a pattern;
* `SqlFilter.PatternItem.covers`: matching items with a text, by trying every rest;
* `SqlFilter.likes`: whether a text is like a pattern.

Main results:

* `SqlFilter.patternItems?_escapePattern_append`: an escaped text is read as its characters, and
  what follows it as it is read alone;
* `SqlFilter.PatternItem.covers_append_iff`: items one after the other match a text in two parts;
* `SqlFilter.likes_containing_iff`: **the pattern of a text matches where the text is contained**.
-/

import Mathlib.Data.List.Infix
import SqlFilter.Condition.Operator

set_option relaxedAutoImplicit false
set_option autoImplicit false

namespace SqlFilter

/-! ### The items of a pattern -/

/-- What a pattern asks of a text: any sequence, any one character, or this character. -/
inductive PatternItem where
  | anySequence
  | anyChar
  | exactly (c : Char)
  deriving Repr, DecidableEq

/-- The items of a pattern.  A backslash takes the meaning of the character behind it away, so that
it may not be the last one. -/
def patternItems? : List Char → Option (List PatternItem)
  | [] => some []
  | ['\\'] => none
  | '\\' :: c :: cs => (patternItems? cs).map (.exactly c :: ·)
  | '%' :: cs => (patternItems? cs).map (.anySequence :: ·)
  | '_' :: cs => (patternItems? cs).map (.anyChar :: ·)
  | c :: cs => (patternItems? cs).map (.exactly c :: ·)

/-- A character without a meaning asks for itself. -/
theorem patternItems?_cons {c : Char} (h : isPatternChar c = false) (cs : List Char) :
    patternItems? (c :: cs) = (patternItems? cs).map (.exactly c :: ·) := by
  simp only [isPatternChar, Bool.or_eq_false_iff, beq_eq_false_iff_ne] at h
  obtain ⟨⟨hpercent, hunderscore⟩, hbackslash⟩ := h
  rw [patternItems?]
  · rintro rfl
    exact absurd rfl hbackslash
  · rintro _ _ rfl
    exact absurd rfl hbackslash
  · exact hpercent
  · exact hunderscore

/-- **An escaped text is read as its characters**, and what follows it as it is read alone. -/
theorem patternItems?_escapePattern_append (cs rest : List Char) :
    patternItems? (escapePattern cs ++ rest) =
      (patternItems? rest).map (cs.map .exactly ++ ·) := by
  induction cs with
  | nil => simp
  | cons c cs ih =>
      have hone : patternItems? (escapePattern (c :: cs) ++ rest) =
          (patternItems? (escapePattern cs ++ rest)).map (.exactly c :: ·) := by
        rw [escapePattern]
        cases hc : isPatternChar c with
        | true => rfl
        | false => exact patternItems?_cons hc _
      rw [hone, ih, Option.map_map]
      rfl

/-! ### Matching -/

namespace PatternItem

/-- Whether items match a whole text.  For any sequence every rest of the text is tried. -/
def covers : List PatternItem → List Char → Bool
  | [], text => text.isEmpty
  | .anySequence :: items, text => text.tails.any fun rest => covers items rest
  | .anyChar :: items, text =>
      match text with
      | [] => false
      | _ :: rest => covers items rest
  | .exactly c :: items, text =>
      match text with
      | [] => false
      | d :: rest => c == d && covers items rest

theorem covers_nil_iff (text : List Char) : covers [] text = true ↔ text = [] := by
  rw [covers, List.isEmpty_iff]

theorem covers_anySequence_iff (items : List PatternItem) (text : List Char) :
    covers (.anySequence :: items) text = true ↔
      ∃ skipped rest, text = skipped ++ rest ∧ covers items rest = true := by
  rw [covers, List.any_eq_true]
  constructor
  · rintro ⟨rest, hrest, h⟩
    obtain ⟨skipped, htext⟩ := (List.mem_tails rest text).1 hrest
    exact ⟨skipped, rest, htext.symm, h⟩
  · rintro ⟨skipped, rest, rfl, h⟩
    exact ⟨rest, (List.mem_tails _ _).2 (List.suffix_append skipped rest), h⟩

theorem covers_anyChar_iff (items : List PatternItem) (text : List Char) :
    covers (.anyChar :: items) text = true ↔
      ∃ c rest, text = c :: rest ∧ covers items rest = true := by
  cases text with
  | nil => simp [covers]
  | cons c rest => simp [covers]

theorem covers_exactly_iff (c : Char) (items : List PatternItem) (text : List Char) :
    covers (.exactly c :: items) text = true ↔
      ∃ rest, text = c :: rest ∧ covers items rest = true := by
  cases text with
  | nil => simp [covers]
  | cons d rest =>
      rw [covers, Bool.and_eq_true, beq_iff_eq]
      constructor
      · rintro ⟨rfl, h⟩
        exact ⟨rest, rfl, h⟩
      · rintro ⟨_, ⟨⟩, h⟩
        exact ⟨rfl, h⟩

/-- **Items one after the other match a text in two parts.** -/
theorem covers_append_iff (xs ys : List PatternItem) (text : List Char) :
    covers (xs ++ ys) text = true ↔
      ∃ front back, text = front ++ back ∧ covers xs front = true ∧ covers ys back = true := by
  induction xs generalizing text with
  | nil =>
      constructor
      · intro h
        exact ⟨[], text, rfl, rfl, h⟩
      · rintro ⟨front, back, rfl, hfront, hback⟩
        rwa [(covers_nil_iff front).1 hfront]
  | cons item xs ih =>
      rw [List.cons_append]
      cases item with
      | anySequence =>
          simp only [covers_anySequence_iff, ih]
          constructor
          · rintro ⟨skipped, _, rfl, front, back, rfl, hfront, hback⟩
            exact ⟨skipped ++ front, back, by rw [List.append_assoc],
              ⟨skipped, front, rfl, hfront⟩, hback⟩
          · rintro ⟨_, back, rfl, ⟨skipped, front, rfl, hfront⟩, hback⟩
            exact ⟨skipped, front ++ back, by rw [List.append_assoc], front, back, rfl, hfront,
              hback⟩
      | anyChar =>
          simp only [covers_anyChar_iff, ih]
          constructor
          · rintro ⟨c, _, rfl, front, back, rfl, hfront, hback⟩
            exact ⟨c :: front, back, rfl, ⟨c, front, rfl, hfront⟩, hback⟩
          · rintro ⟨_, back, rfl, ⟨c, front, rfl, hfront⟩, hback⟩
            exact ⟨c, front ++ back, rfl, front, back, rfl, hfront, hback⟩
      | exactly c =>
          simp only [covers_exactly_iff, ih]
          constructor
          · rintro ⟨_, rfl, front, back, rfl, hfront, hback⟩
            exact ⟨c :: front, back, rfl, ⟨front, rfl, hfront⟩, hback⟩
          · rintro ⟨_, back, rfl, ⟨front, rfl, hfront⟩, hback⟩
            exact ⟨front ++ back, rfl, front, back, rfl, hfront, hback⟩

/-- Any sequence is matched by every text. -/
theorem covers_anySequence (text : List Char) : covers [.anySequence] text = true :=
  (covers_anySequence_iff [] text).2 ⟨text, [], (List.append_nil text).symm, rfl⟩

/-- Characters that are asked for one by one are matched by the text of them. -/
theorem covers_map_exactly_iff (cs text : List Char) :
    covers (cs.map .exactly) text = true ↔ text = cs := by
  induction cs generalizing text with
  | nil => exact covers_nil_iff text
  | cons c cs ih =>
      rw [List.map_cons, covers_exactly_iff]
      constructor
      · rintro ⟨rest, rfl, h⟩
        rw [(ih rest).1 h]
      · rintro rfl
        exact ⟨cs, rfl, (ih cs).2 rfl⟩

/-- Between two wildcards characters match where they stand somewhere. -/
theorem covers_surrounded_iff (cs text : List Char) :
    covers (.anySequence :: (cs.map .exactly ++ [.anySequence])) text = true ↔ cs <:+: text := by
  rw [covers_anySequence_iff]
  constructor
  · rintro ⟨skipped, _, rfl, h⟩
    obtain ⟨front, back, rfl, hfront, -⟩ := (covers_append_iff _ _ _).1 h
    rw [(covers_map_exactly_iff cs front).1 hfront]
    exact ⟨skipped, back, List.append_assoc skipped cs back⟩
  · rintro ⟨skipped, back, rfl⟩
    refine ⟨skipped, cs ++ back, List.append_assoc skipped cs back, ?_⟩
    exact (covers_append_iff _ _ _).2
      ⟨cs, back, rfl, (covers_map_exactly_iff cs cs).2 rfl, covers_anySequence back⟩

end PatternItem

/-- Whether a text is like a pattern; none is like a pattern that ends in the middle of an
escape. -/
def likes (pattern text : String) : Bool :=
  match patternItems? pattern.toList with
  | some items => PatternItem.covers items text.toList
  | none => false

/-! ### Looking for a text -/

/-- The pattern of the texts that have a text in them: a wildcard, its characters, a wildcard. -/
theorem patternItems?_containingPattern (text : String) :
    patternItems? (containingPattern text).toList =
      some (.anySequence :: (text.toList.map .exactly ++ [.anySequence])) := by
  have hchars : (containingPattern text).toList =
      '%' :: (escapePattern text.toList ++ ['%']) := by
    simp [containingPattern, escapedPattern]
  have hend : patternItems? ['%'] = some [.anySequence] := rfl
  rw [hchars]
  show (patternItems? (escapePattern text.toList ++ ['%'])).map _ = _
  rw [patternItems?_escapePattern_append, hend]
  rfl

example : containingPattern "5%\\" = "%5\\%\\\\%" ∧ patternItems? "%5\\%\\\\%".toList =
    some [.anySequence, .exactly '5', .exactly '%', .exactly '\\', .anySequence] := by decide

/-- **The pattern of a text matches where the text is contained.**  The operator `icontains` makes a
pattern of a text that is read as the characters of the text between two wildcards, and exactly the
texts that contain it are like the pattern. -/
theorem likes_containing_iff (text : String) :
    ∃ op adjustment pattern, Operator.lookup? "icontains".toList = some op ∧
      op.adjustment = some adjustment ∧ adjustment.apply (.text text) = .text pattern ∧
      patternItems? pattern.toList =
        some (.anySequence :: (text.toList.map .exactly ++ [.anySequence])) ∧
      ∀ target : String, likes pattern target = true ↔ text.toList <:+: target.toList := by
  have hlookup : Operator.lookup? "icontains".toList =
      some ⟨"icontains", .caselessLike, some .containing, false⟩ := by decide
  have hitems := patternItems?_containingPattern text
  refine ⟨_, _, containingPattern text, hlookup, rfl, rfl, hitems, fun target => ?_⟩
  rw [likes, hitems]
  exact PatternItem.covers_surrounded_iff text.toList target.toList

end SqlFilter

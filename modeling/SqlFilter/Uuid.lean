/-
**Universally unique identifiers.**

An identifier is thirty-two hexadecimal digits.  It is written in five groups with hyphens; it is
also read without hyphens, in braces, and as a resource name.

Main definitions:

* `SqlFilter.Uuid`: thirty-two digits;
* `SqlFilter.Uuid.render`: the hyphenated spelling in small letters;
* `SqlFilter.Uuid.ofChars?`: reading any of the four spellings.

Main results:

* `SqlFilter.Uuid.joinGroups?_splitGroups`: hyphens that were put in are taken out;
* `SqlFilter.Uuid.ofChars?_render`: a written identifier reads back.
-/

import SqlFilter.Text.Hex

set_option relaxedAutoImplicit false
set_option autoImplicit false

namespace SqlFilter

open SqlFilter.Text (hexDigit hexValue? hexValue?_hexDigit)

/-- An identifier: thirty-two hexadecimal digits. -/
structure Uuid where
  digits : List (Fin 16)
  length_eq : digits.length = 32
  deriving Repr, DecidableEq

namespace Uuid

/-- The value of a hexadecimal digit, as a digit. -/
def digitOf? (c : Char) : Option (Fin 16) :=
  match hexValue? c with
  | some n => if h : n < 16 then some ⟨n, h⟩ else none
  | none => none

/-- Reads thirty-two digits without hyphens. -/
def ofSimple? (cs : List Char) : Option Uuid :=
  match cs.mapM digitOf? with
  | some digits => if h : digits.length = 32 then some ⟨digits, h⟩ else none
  | none => none

/-- Takes the hyphens out of a text that has them behind the given numbers of characters. -/
def joinGroups? : List Nat → List Char → Option (List Char)
  | [], cs => some cs
  | n :: ns, cs =>
      match cs.drop n with
      | '-' :: rest => (joinGroups? ns rest).map (cs.take n ++ ·)
      | _ => none

/-- The sizes of the groups in front of a hyphen. -/
def groupSizes : List Nat := [8, 4, 4, 4]

/-- Reads five groups with hyphens between them. -/
def ofHyphenated? (cs : List Char) : Option Uuid :=
  match joinGroups? groupSizes cs with
  | some digits => ofSimple? digits
  | none => none

/-- What stands in front of an identifier that is written as a resource name. -/
def resourcePrefix : List Char := "urn:uuid:".toList

/-- Reads an identifier: simple, hyphenated, hyphenated in braces, or as a resource name. -/
def ofChars? (cs : List Char) : Option Uuid :=
  if cs.length = 32 then ofSimple? cs
  else if cs.length = 36 then ofHyphenated? cs
  else
    match cs with
    | '{' :: rest => if rest.getLast? = some '}' then ofHyphenated? rest.dropLast else none
    | _ =>
        match resourcePrefix.isPrefixOf? cs with
        | some rest => ofHyphenated? rest
        | none => none

/-- Puts a hyphen behind each group. -/
def splitGroups : List Nat → List Char → List Char
  | [], cs => cs
  | n :: ns, cs => cs.take n ++ '-' :: splitGroups ns (cs.drop n)

/-- The digits in small letters. -/
def letters (u : Uuid) : List Char := u.digits.map fun d => hexDigit d.val

/-- Writes an identifier in five groups. -/
def render (u : Uuid) : String := String.ofList (splitGroups groupSizes u.letters)

/-! ### Reading back -/

@[simp] theorem digitOf?_hexDigit (d : Fin 16) : digitOf? (hexDigit d.val) = some d := by
  simp [digitOf?, hexValue?_hexDigit d.isLt]

@[simp] theorem length_letters (u : Uuid) : u.letters.length = 32 := by
  rw [letters, List.length_map, u.length_eq]

theorem ofSimple?_letters (u : Uuid) : ofSimple? u.letters = some u := by
  have hdigits (ds : List (Fin 16)) :
      (ds.map fun d => hexDigit d.val).mapM digitOf? = some ds := by
    induction ds with
    | nil => rfl
    | cons d ds ih => simp [ih]
  simp [ofSimple?, letters, hdigits, u.length_eq]

theorem length_splitGroups (sizes : List Nat) (cs : List Char) :
    (splitGroups sizes cs).length = cs.length + sizes.length := by
  induction sizes generalizing cs with
  | nil => rfl
  | cons n sizes ih =>
      rw [splitGroups, List.length_append, List.length_cons, ih, List.length_cons, List.length_take,
        List.length_drop]
      omega

/-- Hyphens that were put in are taken out. -/
theorem joinGroups?_splitGroups {sizes : List Nat} {cs : List Char}
    (h : sizes.foldr (· + ·) 0 ≤ cs.length) :
    joinGroups? sizes (splitGroups sizes cs) = some cs := by
  induction sizes generalizing cs with
  | nil => rfl
  | cons n sizes ih =>
      rw [List.foldr_cons] at h
      have hgroup : (cs.take n).length = n := List.length_take_of_le (by omega)
      have hothers : joinGroups? sizes (splitGroups sizes (cs.drop n)) = some (cs.drop n) := by
        apply ih
        rw [List.length_drop]
        omega
      rw [splitGroups, joinGroups?, List.drop_left' hgroup, List.take_left' hgroup]
      simp [hothers]

/-- A written identifier reads back. -/
theorem ofChars?_render (u : Uuid) : ofChars? u.render.toList = some u := by
  have hlength : (splitGroups groupSizes u.letters).length = 36 := by
    rw [length_splitGroups, length_letters]
    rfl
  have hgroups : joinGroups? groupSizes (splitGroups groupSizes u.letters) = some u.letters := by
    apply joinGroups?_splitGroups
    rw [length_letters]
    decide
  have hread : ofHyphenated? (splitGroups groupSizes u.letters) = some u := by
    rw [ofHyphenated?, hgroups]
    exact ofSimple?_letters u
  rw [render, String.toList_ofList]
  unfold ofChars?
  rw [if_neg (by omega), if_pos hlength, hread]

end Uuid

end SqlFilter

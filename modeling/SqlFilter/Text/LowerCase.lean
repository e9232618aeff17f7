/-
**Lower case.**

The full lower-case mapping of the Unicode standard, without tailoring for a language.  Letters map
one to one, with two exceptions: the capital I with a dot becomes two characters, and the capital
sigma has two small forms, of which the final one stands at the end of a word.

Main definitions:

* `SqlFilter.Text.lowerChar`: the small form of a character, sigma aside;
* `SqlFilter.Text.lowerCase`: a text in lower case;
* `SqlFilter.Text.lowered`: the same on strings.

Main results:

* `SqlFilter.Text.lowerCase_ascii`: on ASCII texts only the letters A to Z change.
-/

import SqlFilter.Text.CaseData
import SqlFilter.Text.CodeTable

set_option relaxedAutoImplicit false
set_option autoImplicit false

namespace SqlFilter.Text

/-! ### Tables -/

/-- Capital letters outside ASCII and their small letters. -/
def smallLetters : CodeTable := .ofRows lowerCaseRows

/-- The characters that have a case. -/
def casedTable : CodeTable := .ofRows casedRows

/-- The characters that case conversion looks through. -/
def caseIgnorableTable : CodeTable := .ofRows caseIgnorableRows

/-! ### The mapping -/

/-- The small form of one character; a character without one is left alone. -/
def lowerChar (c : Char) : List Char :=
  if c.toNat < 0x80 then [c.toLower]
  else if c.toNat = 0x130 then ['i', Char.ofNat 0x307]
  else
    match smallLetters.find? c.toNat with
    | some ns => ns.map Char.ofNat
    | none => [c]

/-- Whether the next character that counts, in reading order, has a case. -/
def meetsCased (cs : List Char) : Bool :=
  match cs.dropWhile fun c => caseIgnorableTable.contains c.toNat with
  | [] => false
  | c :: _ => casedTable.contains c.toNat

/-- Lower case of a text behind `before`, which is given from its end: a capital sigma is final when
a cased letter comes before it and none after it. -/
def lowerCaseAfter (before : List Char) : List Char → List Char
  | [] => []
  | c :: cs =>
      let small :=
        if c.toNat = 0x3A3 then
          if meetsCased before && !meetsCased cs then [Char.ofNat 0x3C2] else [Char.ofNat 0x3C3]
        else lowerChar c
      small ++ lowerCaseAfter (c :: before) cs

/-- A text in lower case. -/
def lowerCase (cs : List Char) : List Char := lowerCaseAfter [] cs

/-- A string in lower case. -/
def lowered (s : String) : String := String.ofList (lowerCase s.toList)

/-- On ASCII texts only the letters A to Z change. -/
theorem lowerCase_ascii (before cs : List Char) (h : ∀ c ∈ cs, c.toNat < 0x80) :
    lowerCaseAfter before cs = asciiLower cs := by
  induction cs generalizing before with
  | nil => rfl
  | cons c cs ih =>
      have hc : c.toNat < 0x80 := h c (by simp)
      have hs : c.toNat ≠ 0x3A3 := by omega
      rw [lowerCaseAfter, ih _ fun d hd => h d (by simp [hd])]
      simp only [hs, if_false, lowerChar, hc, if_true]
      rfl

end SqlFilter.Text

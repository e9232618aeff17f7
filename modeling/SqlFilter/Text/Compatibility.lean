/-
**Compatibility normalization.**

Normalization form KC of the Unicode standard: characters that are variants of others (full-width
letters, ligatures, superscripts) are replaced by them, combining marks are put into canonical
order, and what can be composed is composed.  Identifiers are checked in this form.

Main definitions:

* `SqlFilter.Text.decompose`: the full compatibility decomposition of a text;
* `SqlFilter.Text.reorder`: canonical order of the marks behind each base character;
* `SqlFilter.Text.compose`: canonical composition;
* `SqlFilter.Text.compatible`: the normalization form.

Main results:

* `SqlFilter.Text.compatible_ascii`: an ASCII text is its own normalization form.
-/

import SqlFilter.Text.CodeTable
import SqlFilter.Text.CompatibilityData

set_option relaxedAutoImplicit false
set_option autoImplicit false

namespace SqlFilter.Text

/-! ### Tables -/

/-- Full compatibility decompositions, Hangul and full-width forms apart. -/
def decompositions : CodeTable := .ofRows decompositionRows

/-- Canonical combining classes other than zero. -/
def combiningClasses : CodeTable := .ofRows combiningRows

/-- One number for a pair of code points. -/
def pairCode (a b : Nat) : Nat := a * 0x200000 + b

/-- Reads an entry `first second composite`. -/
def compositionOfEntry? (cs : List Char) : Option Span :=
  match (splitOn ' ' cs).mapM hexNumber? with
  | some [a, b, c] => some ⟨pairCode a b, pairCode a b, 1, [c]⟩
  | _ => none

/-- Primary composites by the code of their two parts. -/
def compositions : CodeTable :=
  ⟨(compositionRows.flatMap fun row =>
    (splitOn ';' row.toList).filterMap compositionOfEntry?).toArray⟩

/-! ### Hangul -/

/-- A Hangul syllable as its two or three letters. -/
def hangulLetters (n : Nat) : List Nat :=
  let i := n - 0xAC00
  let front := [0x1100 + i / 588, 0x1161 + i % 588 / 28]
  if i % 28 = 0 then front else front ++ [0x11A7 + i % 28]

/-- The syllable of two Hangul letters, or of a syllable and a closing letter. -/
def hangulComposite? (a b : Nat) : Option Nat :=
  if 0x1100 ≤ a ∧ a < 0x1113 ∧ 0x1161 ≤ b ∧ b < 0x1176 then
    some (0xAC00 + ((a - 0x1100) * 21 + (b - 0x1161)) * 28)
  else if 0xAC00 ≤ a ∧ a ≤ 0xD7A3 ∧ (a - 0xAC00) % 28 = 0 ∧ 0x11A8 ≤ b ∧ b < 0x11C3 then
    some (a + (b - 0x11A7))
  else none

/-! ### The three steps -/

/-- The full compatibility decomposition of a code point.  The full-width forms of the visible ASCII
characters lie at a fixed distance behind them. -/
def decomposition (n : Nat) : List Nat :=
  if n < 0x80 then [n]
  else if 0xAC00 ≤ n ∧ n ≤ 0xD7A3 then hangulLetters n
  else if 0xFF01 ≤ n ∧ n ≤ 0xFF5E then [n - 0xFEE0]
  else (decompositions.find? n).getD [n]

/-- The full compatibility decomposition of a text. -/
def decompose (ns : List Nat) : List Nat := ns.flatMap decomposition

/-- The canonical combining class: zero for every character that starts anew. -/
def combiningClass (n : Nat) : Nat :=
  if n < 0x300 then 0
  else
    match combiningClasses.spanOf? n with
    | some span => span.image.headD 0
    | none => 0

/-- Puts a mark in front of the marks of a greater class only. -/
def insertMark (n : Nat) : List Nat → List Nat
  | [] => [n]
  | m :: ms => if combiningClass n ≤ combiningClass m then n :: m :: ms else m :: insertMark n ms

/-- Canonical order: marks move in front of marks of a greater class, never past a starter. -/
def reorder : List Nat → List Nat
  | [] => []
  | n :: ns =>
      let rest := reorder ns
      if combiningClass n = 0 then n :: rest
      else insertMark n (rest.takeWhile fun m => combiningClass m ≠ 0) ++
        rest.dropWhile fun m => combiningClass m ≠ 0

/-- The primary composite of two code points.  The first part of a composite is `<` or a later code
point, and the second part is none below the combining marks. -/
def composite? (a b : Nat) : Option Nat :=
  if a < 0x3C ∨ b < 0x300 then none
  else
    match hangulComposite? a b with
    | some c => some c
    | none =>
        match compositions.find? (pairCode a b) with
        | some (c :: _) => some c
        | _ => none

/-- Composes a text behind the starter `base`.  `marks` are the marks left standing since, from the
last one back; a character is blocked when a mark of at least its class stands between. -/
def composeAfter (base : Nat) (marks : List Nat) : List Nat → List Nat
  | [] => base :: marks.reverse
  | n :: ns =>
      let blocked :=
        match marks with
        | [] => false
        | m :: _ => combiningClass n ≤ combiningClass m
      match if blocked then none else composite? base n with
      | some c => composeAfter c marks ns
      | none =>
          if combiningClass n = 0 then base :: marks.reverse ++ composeAfter n [] ns
          else composeAfter base (n :: marks) ns

/-- Canonical composition of a text in canonical order. -/
def compose : List Nat → List Nat
  | [] => []
  | n :: ns => if combiningClass n = 0 then composeAfter n [] ns else n :: compose ns

/-- Normalization form KC. -/
def compatible (cs : List Char) : List Char :=
  (compose (reorder (decompose (cs.map Char.toNat)))).map Char.ofNat

/-! ### ASCII -/

theorem decompose_ascii {ns : List Nat} (h : ∀ n ∈ ns, n < 0x80) : decompose ns = ns := by
  induction ns with
  | nil => rfl
  | cons n ns ih =>
      have hn : n < 0x80 := h n (by simp)
      have := ih fun m hm => h m (by simp [hm])
      simp only [decompose] at this ⊢
      simp [decomposition, hn, this]

theorem reorder_ascii {ns : List Nat} (h : ∀ n ∈ ns, n < 0x80) : reorder ns = ns := by
  induction ns with
  | nil => rfl
  | cons n ns ih =>
      have hn : n < 0x300 := Nat.lt_trans (h n (by simp)) (by decide)
      simp [reorder, combiningClass, hn, ih fun m hm => h m (by simp [hm])]

theorem composeAfter_ascii (base : Nat) {ns : List Nat} (h : ∀ n ∈ ns, n < 0x80) :
    composeAfter base [] ns = base :: ns := by
  induction ns generalizing base with
  | nil => rfl
  | cons n ns ih =>
      have hn : n < 0x300 := Nat.lt_trans (h n (by simp)) (by decide)
      simp [composeAfter, composite?, combiningClass, hn, ih n fun m hm => h m (by simp [hm])]

/-- An ASCII text is its own normalization form. -/
theorem compatible_ascii {cs : List Char} (h : ∀ c ∈ cs, c.toNat < 0x80) : compatible cs = cs := by
  have hns : ∀ n ∈ cs.map Char.toNat, n < 0x80 := by simpa using h
  have hback : (cs.map Char.toNat).map Char.ofNat = cs := by
    rw [List.map_map]
    conv => rhs; rw [← List.map_id cs]
    exact List.map_congr_left fun c _ => Char.ofNat_toNat c
  rw [compatible, decompose_ascii hns, reorder_ascii hns]
  cases hcs : cs.map Char.toNat with
  | nil => rw [hcs] at hback; exact hback
  | cons n ns =>
      rw [hcs] at hns hback
      have hn : n < 0x300 := Nat.lt_trans (hns n (by simp)) (by decide)
      rw [compose, combiningClass, if_pos hn, if_pos rfl,
        composeAfter_ascii n fun m hm => hns m (by simp [hm])]
      exact hback

end SqlFilter.Text

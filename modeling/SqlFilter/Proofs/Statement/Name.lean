/-
**The characters of a checked name.**

The name of a table is checked in its compatibility normalization form and then written as it
stands, so what is checked is not what is written.  Still no character of the check is lost for the
low code points: a character below `<` decomposes into itself, keeps its place among the marks, and
is no part of a composite.  It stands in the normalization form of every text in which it stands,
and so a name that passes has no other low characters than letters of the check and the point.

Main results:

* `SqlFilter.Text.mem_compatible`: a character below `<` survives normalization;
* `SqlFilter.Identifier.isInner_of_validate`: the low characters of a checked name;
* `SqlFilter.Identifier.dollar_not_mem_quote`: **no dollar sign stands in a checked name**.
-/

import SqlFilter.Identifier
import SqlFilter.Proofs.Condition.Reference

set_option relaxedAutoImplicit false
set_option autoImplicit false

namespace SqlFilter

namespace Text

/-! ### Normalization -/

/-- An ASCII character decomposes into itself. -/
theorem mem_decompose {n : Nat} {ns : List Nat} (hn : n < 0x80) (h : n ∈ ns) : n ∈ decompose ns :=
  List.mem_flatMap.2 ⟨n, h, by simp [decomposition, hn]⟩

theorem mem_insertMark {n m : Nat} {ms : List Nat} :
    m ∈ insertMark n ms ↔ m = n ∨ m ∈ ms := by
  induction ms with
  | nil => simp [insertMark]
  | cons k ms ih =>
      rw [insertMark]
      split
      · simp
      · simp only [List.mem_cons, ih]
        exact or_left_comm

/-- Canonical order moves characters and loses none. -/
theorem mem_reorder {m : Nat} {ns : List Nat} : m ∈ reorder ns ↔ m ∈ ns := by
  induction ns with
  | nil => simp [reorder]
  | cons n ns ih =>
      rw [reorder]
      split
      · simp [ih]
      · have hsides : m ∈ reorder ns ↔
            m ∈ (reorder ns).takeWhile (fun k => combiningClass k ≠ 0) ∨
              m ∈ (reorder ns).dropWhile fun k => combiningClass k ≠ 0 := by
          rw [← List.mem_append, List.takeWhile_append_dropWhile]
        rw [List.mem_append, mem_insertMark, or_assoc, ← hsides, ih, List.mem_cons]

/-- The parts of a composite: `<` or a later character, and a combining mark. -/
theorem parts_of_composite {a b c : Nat} (h : composite? a b = some c) : 0x3C ≤ a ∧ 0x300 ≤ b := by
  rw [composite?, Option.ite_none_left_eq_some] at h
  have hlarge := h.1
  omega

/-- A character below `<` is in front of, behind or between the composites, never inside one. -/
theorem mem_composeAfter {n : Nat} (hn : n < 0x3C) {base : Nat} {marks ns : List Nat}
    (h : n = base ∨ n ∈ marks ∨ n ∈ ns) : n ∈ composeAfter base marks ns := by
  induction ns generalizing base marks with
  | nil => simpa [composeAfter] using h
  | cons m ns ih =>
      simp only [composeAfter]
      split
      · next c hc =>
          -- the two characters that are composed are too large to be this one
          obtain ⟨-, hc⟩ := Option.ite_none_left_eq_some.1 hc
          have hparts := parts_of_composite hc
          have hbase : n ≠ base := by omega
          have hm : n ≠ m := by omega
          refine ih (Or.inr ?_)
          simpa [hbase, hm] using h
      · split
        · have hrest : n = m ∨ n ∈ ns → n ∈ composeAfter m [] ns := fun hmem =>
            ih (hmem.imp_right Or.inr)
          simp only [List.mem_cons] at h
          simp only [List.cons_append, List.mem_cons, List.mem_append, List.mem_reverse]
          rcases h with h | h | h
          · exact Or.inl h
          · exact Or.inr (Or.inl h)
          · exact Or.inr (Or.inr (hrest h))
        · refine ih ?_
          simp only [List.mem_cons] at h ⊢
          rcases h with h | h | h | h
          · exact Or.inl h
          · exact Or.inr (Or.inl (Or.inr h))
          · exact Or.inr (Or.inl (Or.inl h))
          · exact Or.inr (Or.inr h)

theorem mem_compose {n : Nat} (hn : n < 0x3C) {ns : List Nat} (h : n ∈ ns) : n ∈ compose ns := by
  induction ns with
  | nil => cases h
  | cons m ns ih =>
      rw [compose]
      split
      · exact mem_composeAfter hn ((List.mem_cons.1 h).imp_right Or.inr)
      · exact List.mem_cons.2 ((List.mem_cons.1 h).imp_right ih)

/-- **A character below `<` survives normalization.** -/
theorem mem_compatible {c : Char} (hc : c.toNat < 0x3C) {cs : List Char} (h : c ∈ cs) :
    c ∈ compatible cs := by
  have hcode : c.toNat ∈ compose (reorder (decompose (cs.map Char.toNat))) :=
    mem_compose hc (mem_reorder.2 (mem_decompose (by omega) (List.mem_map_of_mem h)))
  exact List.mem_map.2 ⟨c.toNat, hcode, Char.ofNat_toNat c⟩

/-- A character of joined parts stands in the separator or in one of them. -/
theorem mem_of_mem_intercalate {sep : List Char} {parts : List (List Char)} {c : Char}
    (h : c ∈ sep.intercalate parts) : c ∈ sep ∨ ∃ part ∈ parts, c ∈ part := by
  induction parts with
  | nil => simp at h
  | cons part parts ih =>
      cases parts with
      | nil => exact Or.inr ⟨part, by simp, by simpa using h⟩
      | cons next parts =>
          rw [List.intercalate_cons_cons] at h
          rcases List.mem_append.1 h with h | h
          · rcases List.mem_append.1 h with h | h
            · exact Or.inr ⟨part, by simp, h⟩
            · exact Or.inl h
          · rcases ih h with h | ⟨other, hother, h⟩
            · exact Or.inl h
            · exact Or.inr ⟨other, List.mem_cons_of_mem part hother, h⟩

end Text

namespace Identifier

open SqlFilter.Text (mem_of_mem_intercalate splitOn)

/-! ### Checked names -/

/-- What the check of a part asks for. -/
theorem validateNormal_cons_eq_ok_iff {c : Char} {cs : List Char} :
    validateNormal (c :: cs) = .ok () ↔
      (String.ofList (c :: cs)).utf8ByteSize ≤ mostBytes ∧ isInitial c = true ∧
        (∀ d ∈ c :: cs, isInner d = true) ∧ isCatalog (c :: cs) = false := by
  have hfind : (c :: cs).find? (fun d => !isInner d) = none ↔ ∀ d ∈ c :: cs, isInner d = true := by
    simp [List.find?_eq_none]
  simp only [validateNormal]
  split
  · next hbytes => exact iff_of_false nofun fun h => Nat.not_le.2 hbytes h.1
  · next hbytes =>
      split
      · next hinitial => exact iff_of_false nofun fun h => by simp [h.2.1] at hinitial
      · next hinitial =>
          split
          · next hsome =>
              refine iff_of_false nofun fun h => ?_
              rw [hfind.2 h.2.2.1] at hsome
              cases hsome
          · next hnone =>
              split
              · next hcatalog => exact iff_of_false nofun fun h => by simp [h.2.2.2] at hcatalog
              · next hcatalog =>
                  exact iff_of_true rfl ⟨Nat.le_of_not_lt hbytes, by simpa using hinitial,
                    hfind.1 hnone, by simpa using hcatalog⟩

theorem isInner_of_validateNormal {cs : List Char} (h : validateNormal cs = .ok ()) :
    ∀ c ∈ cs, isInner c = true := by
  cases cs with
  | nil => simp
  | cons c cs => exact (validateNormal_cons_eq_ok_iff.1 h).2.2.1

/-- The low characters of a checked part are those of the check. -/
theorem isInner_of_validatePart {part : String} (h : validatePart part = .ok ()) {c : Char}
    (hc : c.toNat < 0x3C) (hmem : c ∈ part.toList) : isInner c = true := by
  rw [validatePart] at h
  split at h
  · cases h
  · exact isInner_of_validateNormal h c (Text.mem_compatible hc hmem)

/-- Every part of a checked name is checked. -/
theorem validatePart_of_validate {name : String} (h : validate name = .ok ()) :
    ∀ part ∈ splitOn '.' name.toList, validatePart (String.ofList part) = .ok () := by
  rw [validate] at h
  split at h
  · cases h
  · have hparts : ∀ part ∈ (splitOn '.' name.toList).map String.ofList,
        validatePart part = .ok () := by
      split at h
      · next part heq =>
          rw [heq]
          simpa using h
      · next schema table heq =>
          rw [heq]
          split at h
          · cases h
          · next hschema => simpa using ⟨hschema, h⟩
      · cases h
    exact fun part hpart => hparts _ (List.mem_map_of_mem hpart)

/-- **The low characters of a checked name** are those of the check, and the point between its
parts. -/
theorem isInner_of_validate {name : String} (h : validate name = .ok ()) {c : Char}
    (hc : c.toNat < 0x3C) (hmem : c ∈ name.toList) : c = '.' ∨ isInner c = true := by
  rw [← Text.intercalate_splitOn '.' name.toList] at hmem
  rcases mem_of_mem_intercalate hmem with hpoint | ⟨part, hpart, hmem⟩
  · exact Or.inl (by simpa using hpoint)
  · exact Or.inr (isInner_of_validatePart (validatePart_of_validate h part hpart) hc
      (by simpa using hmem))

/-- A quoted name is made of its characters, of points and of quotes. -/
theorem mem_quote {name : String} {c : Char} (h : c ∈ (quote name).toList) :
    c = '.' ∨ c = '"' ∨ c ∈ name.toList := by
  rw [quote, String.toList_ofList] at h
  rcases mem_of_mem_intercalate h with hpoint | ⟨piece, hpiece, hmem⟩
  · exact Or.inl (by simpa using hpoint)
  · obtain ⟨part, hpart, rfl⟩ := List.mem_map.1 hpiece
    refine Or.inr ((Text.mem_enclosed hmem).imp_right fun hc => ?_)
    rw [← Text.intercalate_splitOn '.' name.toList]
    exact Text.mem_intercalate_of_mem hpart hc

/-- **No dollar sign stands in a checked name** in quotes. -/
theorem dollar_not_mem_quote {name : String} (h : validate name = .ok ()) :
    '$' ∉ (quote name).toList := by
  intro hmem
  rcases mem_quote hmem with hc | hc | hc
  · exact absurd hc (by decide)
  · exact absurd hc (by decide)
  · rcases isInner_of_validate h (by decide) hc with hc | hc
    · exact absurd hc (by decide)
    · exact absurd hc (by decide)

end Identifier

end SqlFilter

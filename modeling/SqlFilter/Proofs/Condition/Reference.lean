/-
**The characters of a reference.**

The reference to the field of a key is made of the characters of the key and of a few fixed ones:
quotes, path operators and the call that puts a field into lower case.  Reading a key cuts pieces
out of it (trimming, splitting off the operator, splitting the path), and each cut is followed here.

Main definitions:

* `SqlFilter.Key.fixedChars`: the characters that a reference has of its own.

Main results:

* `SqlFilter.Text.trim_sublist`: trimming only leaves characters out;
* `SqlFilter.Key.splitOperator_sublist`: so does splitting off the operator;
* `SqlFilter.Key.parse_eq_ok`: what a key is made from;
* `SqlFilter.Key.mem_reference`: **where the characters of a reference come from**.
-/

import SqlFilter.Condition.Key

set_option relaxedAutoImplicit false
set_option autoImplicit false

namespace SqlFilter

namespace Text

/-! ### Pieces of texts -/

theorem trimEnd_sublist (cs : List Char) : (trimEnd cs).Sublist cs := by
  induction cs with
  | nil => exact List.Sublist.refl _
  | cons c cs ih =>
      rw [trimEnd_cons]
      split
      · split
        · exact List.nil_sublist _
        · exact List.Sublist.cons_cons c (List.nil_sublist cs)
      · exact ih.cons_cons c

/-- Trimming only leaves characters out. -/
theorem trim_sublist (cs : List Char) : (trim cs).Sublist cs :=
  (trimEnd_sublist _).trans (List.dropWhile_sublist _)

theorem mem_doubled {c d : Char} {cs : List Char} (h : d ∈ doubled c cs) : d ∈ cs := by
  induction cs with
  | nil => simp at h
  | cons e es ih =>
      rw [doubled] at h
      split at h
      · next he =>
          simp only [List.mem_cons] at h
          rcases h with rfl | rfl | h
          · simp [he]
          · simp [he]
          · exact List.mem_cons_of_mem e (ih h)
      · rcases List.mem_cons.1 h with rfl | h
        · simp
        · exact List.mem_cons_of_mem e (ih h)

theorem mem_enclosed {mark d : Char} {cs : List Char} (h : d ∈ enclosed mark cs) :
    d = mark ∨ d ∈ cs := by
  simp only [enclosed, List.cons_append, List.mem_cons, List.mem_append, List.not_mem_nil,
    or_false] at h
  rcases h with h | h | h
  · exact Or.inl h
  · exact Or.inr h
  · exact Or.inl h

theorem mem_intercalate_of_mem {sep part : List Char} {parts : List (List Char)} {c : Char}
    (hpart : part ∈ parts) (hc : c ∈ part) : c ∈ sep.intercalate parts := by
  induction parts with
  | nil => cases hpart
  | cons other parts ih =>
      cases parts with
      | nil =>
          rw [List.intercalate_singleton, ← List.mem_singleton.1 hpart]
          exact hc
      | cons next parts =>
          rw [List.intercalate_cons_cons]
          rcases List.mem_cons.1 hpart with rfl | hpart
          · exact List.mem_append_left _ (List.mem_append_left _ hc)
          · exact List.mem_append_right _ (ih hpart)

end Text

namespace Key

open SqlFilter.Text (doubled enclosed trim trimEnd trim_sublist trimEnd_sublist mem_doubled
  mem_enclosed)

/-! ### The operator -/

theorem findOperator?_sublist {front cs field : List Char} {op : Operator}
    (h : findOperator? front cs = some (field, op)) : field.Sublist (front ++ cs) := by
  induction cs generalizing front with
  | nil => simp [findOperator?] at h
  | cons c cs ih =>
      -- without a token here the search goes on behind one more character
      have hstep : findOperator? (front ++ [c]) cs = some (field, op) →
          field.Sublist (front ++ c :: cs) := fun hrest => by simpa using ih hrest
      rw [findOperator?] at h
      split at h
      · split at h
        · exact hstep h
        · simp only [Option.some.injEq, Prod.mk.injEq] at h
          rw [← h.1]
          exact (trimEnd_sublist front).trans (List.sublist_append_left front _)
      · exact hstep h

/-- Splitting off the operator only leaves characters out. -/
theorem splitOperator_sublist (key : List Char) : (splitOperator key).1.Sublist key := by
  rw [splitOperator]
  split
  · next h => simpa using findOperator?_sublist h
  · exact List.Sublist.refl key

/-! ### The path -/

theorem mem_splitPath_column {cs : List Char} {c : Char} (h : c ∈ (splitPath cs).1) : c ∈ cs := by
  rw [← splitPath_append cs]
  exact List.mem_append_left _ h

theorem mem_splitPath_step {cs : List Char} {step : PathOperator × List Char}
    (hstep : step ∈ (splitPath cs).2) {c : Char} (h : c ∈ step.2) : c ∈ cs := by
  rw [← splitPath_append cs]
  exact List.mem_append_right _
    (List.mem_flatMap.2 ⟨step, hstep, List.mem_append_right _ h⟩)

/-- The characters that a reference has of its own. -/
def fixedChars : List Char := ['"', '\'', '-', '#', '>', 'L', 'O', 'W', 'E', 'R', '(', ')']

theorem mem_fixedChars_of_mem_spelling {op : PathOperator} {c : Char} (h : c ∈ op.spelling) :
    c ∈ fixedChars := by
  have hall : op.spelling.all (· ∈ fixedChars) = true := by
    cases op <;> decide
  simpa using List.all_eq_true.1 hall c h

theorem mem_renderSegment {segment : List Char} {c : Char} (h : c ∈ renderSegment segment) :
    c ∈ segment ∨ c ∈ fixedChars := by
  rw [renderSegment] at h
  split at h
  · exact Or.inl h
  · split at h
    · exact Or.inl h
    · rcases mem_enclosed h with rfl | h
      · exact Or.inr (by decide)
      · exact Or.inl (mem_doubled h)

theorem mem_renderSteps? {steps : List (PathOperator × List Char)} {path : List Char}
    (hpath : renderSteps? steps = some path) {c : Char} (h : c ∈ path) :
    (∃ step ∈ steps, c ∈ step.2) ∨ c ∈ fixedChars := by
  induction steps generalizing path with
  | nil =>
      simp only [renderSteps?, Option.some.injEq] at hpath
      rw [← hpath] at h
      simp at h
  | cons step steps ih =>
      obtain ⟨op, text⟩ := step
      simp only [renderSteps?] at hpath
      split at hpath
      · cases hpath
      · obtain ⟨rest, hrest, rfl⟩ := Option.map_eq_some_iff.1 hpath
        rcases List.mem_append.1 h with h | h
        · rcases List.mem_append.1 h with h | h
          · exact Or.inr (mem_fixedChars_of_mem_spelling h)
          · rcases mem_renderSegment h with h | h
            · exact Or.inl ⟨(op, text), by simp, (trim_sublist text).subset h⟩
            · exact Or.inr h
        · rcases ih hrest h with ⟨s, hs, hc⟩ | h
          · exact Or.inl ⟨s, by simp [hs], hc⟩
          · exact Or.inr h

/-! ### The reference -/

theorem mem_reference? {field column reference : List Char}
    (href : reference? field = some (column, reference)) {c : Char} (h : c ∈ reference) :
    c ∈ field ∨ c ∈ fixedChars := by
  have hquoted : ∀ cs : List Char, c ∈ enclosed '"' cs → c ∈ cs ∨ c ∈ fixedChars := by
    intro cs hc
    rcases mem_enclosed hc with rfl | hc
    · exact Or.inr (by decide)
    · exact Or.inl hc
  rw [reference?] at href
  split at href
  · cases href
  · split at href
    · simp only [Option.some.injEq, Prod.mk.injEq] at href
      exact Or.inl (by rwa [href.2])
    · split at href
      · simp only [Option.some.injEq, Prod.mk.injEq] at href
        rw [← href.2] at h
        exact hquoted field h
      · next front steps _ hsplit =>
          simp only at href
          split at href
          · cases href
          · obtain ⟨path, hpath, heq⟩ := Option.map_eq_some_iff.1 href
            simp only [Prod.mk.injEq] at heq
            rw [← heq.2] at h
            rcases List.mem_append.1 h with h | h
            · refine (hquoted _ h).imp_left fun hc => mem_splitPath_column ?_
              rw [hsplit]
              exact (trimEnd_sublist _).subset hc
            · rcases mem_renderSteps? hpath h with ⟨step, hstep, hc⟩ | h
              · exact Or.inl (mem_splitPath_step (by rw [hsplit]; exact hstep) hc)
              · exact Or.inr h

/-- A key is made from the column of its field, the reference to it, and its operator. -/
theorem parse_eq_ok {raw : String} {key : Key} (h : parse raw = .ok key) :
    ∃ column reference op,
      reference? (splitOperator (trim raw.toList)).1 = some (column, reference) ∧
        key = ofParts column reference op := by
  rw [parse] at h
  split at h
  · next key' hkey =>
      cases h
      simp only [ofChars?] at hkey
      obtain ⟨⟨column, reference⟩, href, heq⟩ := Option.map_eq_some_iff.1 hkey
      exact ⟨column, reference, _, href, heq.symm⟩
  · cases h

theorem toList_reference_ofParts (column reference : List Char) (op : Option Operator) :
    (ofParts column reference op).reference.toList = reference ∨
      (ofParts column reference op).reference.toList = lowerReference reference := by
  cases op with
  | none => exact Or.inl (by simp [ofParts])
  | some op => by_cases h : op.lowersField = true <;> simp [ofParts, h]

theorem mem_reference_ofParts {column reference : List Char} {op : Option Operator} {c : Char}
    (h : c ∈ (ofParts column reference op).reference.toList) : c ∈ reference ∨ c ∈ fixedChars := by
  rcases toList_reference_ofParts column reference op with heq | heq
  · rw [heq] at h
    exact Or.inl h
  · rw [heq] at h
    change c ∈ "LOWER(".toList ++ reference ++ [')'] at h
    simp only [List.mem_append, List.mem_singleton] at h
    rcases h with (h | h) | rfl
    · have hall : "LOWER(".toList.all (· ∈ fixedChars) = true := by decide
      exact Or.inr (by simpa using List.all_eq_true.1 hall c h)
    · exact Or.inl h
    · exact Or.inr (by decide)

/-- The field of a key is cut out of it. -/
theorem field_sublist (raw : List Char) : (splitOperator (trim raw)).1.Sublist raw :=
  (splitOperator_sublist _).trans (trim_sublist _)

/-- **A reference is made of characters of its key and of fixed ones.** -/
theorem mem_reference {raw : String} {key : Key} (hkey : parse raw = .ok key) {c : Char}
    (h : c ∈ key.reference.toList) : c ∈ raw.toList ∨ c ∈ fixedChars := by
  obtain ⟨column, reference, op, href, rfl⟩ := parse_eq_ok hkey
  rcases mem_reference_ofParts h with hmem | hmem
  · exact (mem_reference? href hmem).imp_left fun hfield =>
      (field_sublist raw.toList).subset hfield
  · exact Or.inr hmem

end Key

end SqlFilter

/-
**Keys with a path.**

A key may go into the document of a column: behind the column stand steps, each a path operator and
a segment, and at the end an operator token, with single spaces between all of them.  The path
operators start in each other and share their characters with the tokens, and the field is cut at
every path operator in it; but none of them holds a space, so that none can begin in a column or in
a segment and end behind it.  So every step comes back as it was written, and the reference to the
field is the column followed by the steps, in order.

Main definitions:

* `SqlFilter.Key.IsSegment`: what may stand behind a path operator;
* `SqlFilter.Key.spacedPath`, `SqlFilter.Key.spacedKey`: a column with its steps, and the key;
* `SqlFilter.Key.stepText`: a step in the reference.

Main results:

* `SqlFilter.Key.splitPath_append_space`: a text without path operators is passed over, up to a
  space;
* `SqlFilter.Key.splitPath_spacedPath`: **the steps come back**, blanks around the segments aside;
* `SqlFilter.Key.renderSteps?_of_readAs`: segments that come back are written as steps;
* `SqlFilter.Key.parse_spacedKey`: **a key with a path is read step by step**.
-/

import Mathlib.Data.List.Forall2
import SqlFilter.Proofs.Condition.WrittenKey

set_option relaxedAutoImplicit false
set_option autoImplicit false

namespace SqlFilter.Key

open SqlFilter.Text (doubled enclosed isBlank isBlank_of_mem_space occursIn trim trim_between
  trim_surrounded trimEnd trimEnd_append_of_blank trimEnd_of_trim)

/-! ### Written paths -/

/-- What may stand behind a path operator: a field text that is not in single quotes already. -/
structure IsSegment (cs : List Char) : Prop extends IsFieldText cs where
  unquoted : ∀ content, cs ≠ enclosed '\'' content

/-- A column and its steps, with a space in front of every operator and every segment. -/
def spacedPath (column : List Char) (steps : List (PathOperator × List Char)) : List Char :=
  column ++ steps.flatMap fun step => ' ' :: step.1.spelling ++ ' ' :: step.2

/-- The parts of a key with a path, joined by single spaces. -/
def spacedKey (column : List Char) (steps : List (PathOperator × List Char))
    (token : List Char) : List Char :=
  [' '].intercalate
    (column :: steps.flatMap (fun step => [step.1.spelling, step.2]) ++ [token])

/-- A step in a reference: an index stands as it is, any other segment in single quotes, with the
quotes in it doubled. -/
def stepText (step : PathOperator × List Char) : List Char :=
  step.1.spelling ++
    if step.2.all Char.isDigit then step.2 else enclosed '\'' (doubled '\'' step.2)

theorem spacedPath_cons (column : List Char) (step : PathOperator × List Char)
    (steps : List (PathOperator × List Char)) :
    spacedPath column (step :: steps) =
      column ++ (' ' :: step.1.spelling ++ [' ']) ++ spacedPath step.2 steps := by
  simp [spacedPath]

/-- The key is the written path and the token. -/
theorem spacedKey_eq (column : List Char) (steps : List (PathOperator × List Char))
    (token : List Char) :
    spacedKey column steps token = spacedPath column steps ++ [' '] ++ token := by
  induction steps generalizing column with
  | nil => simp [spacedKey, spacedPath, List.intercalate_cons_cons]
  | cons step steps ih =>
      have hrest := ih step.2
      rw [spacedKey, List.cons_append] at hrest
      rw [spacedPath_cons, spacedKey]
      simp only [List.flatMap_cons, List.cons_append, List.nil_append,
        List.intercalate_cons_cons, hrest, List.append_assoc]

variable {column : List Char} {steps : List (PathOperator × List Char)}

theorem spacedPath_ne_nil (hne : column ≠ []) : spacedPath column steps ≠ [] := by
  rw [spacedPath]
  exact fun hnil => hne (List.append_eq_nil_iff.1 hnil).1

/-- A written path has no blank at an end. -/
theorem trim_spacedPath (hcolumn : IsFieldText column) (hsteps : ∀ step ∈ steps, IsSegment step.2) :
    trim (spacedPath column steps) = spacedPath column steps := by
  induction steps generalizing column with
  | nil => simpa [spacedPath] using hcolumn.trimmed
  | cons step steps ih =>
      have hsegment := (hsteps step List.mem_cons_self).toIsFieldText
      rw [spacedPath_cons]
      exact trim_between hcolumn.trimmed
        (ih hsegment fun other hother => hsteps other (List.mem_cons_of_mem step hother))
        hcolumn.nonempty (spacedPath_ne_nil hsegment.nonempty) _

/-- A written path has no double quotes. -/
theorem quoteless_spacedPath (hcolumn : IsFieldText column)
    (hsteps : ∀ step ∈ steps, IsSegment step.2) : '"' ∉ spacedPath column steps := by
  have hspelling : ∀ op : PathOperator, '"' ∉ op.spelling := by
    intro op
    cases op <;> decide
  rw [spacedPath, List.mem_append, List.mem_flatMap]
  rintro (hmem | ⟨step, hstep, hmem⟩)
  · exact hcolumn.quoteless hmem
  · simp only [List.cons_append, List.mem_cons, List.mem_append, Char.reduceEq, false_or] at hmem
    rcases hmem with hmem | hmem
    · exact hspelling step.1 hmem
    · exact (hsteps step hstep).quoteless hmem

/-! ### Reading paths -/

/-- A character that does not start a path operator is passed over. -/
theorem splitPath_cons {c : Char} {cs : List Char} (h : c = '-' ∨ c = '#' → cs.head? ≠ some '>') :
    splitPath (c :: cs) = (c :: (splitPath cs).1, (splitPath cs).2) := by
  rw [splitPath]
  · rintro _ rfl rfl
    exact h (.inl rfl) rfl
  · rintro _ rfl rfl
    exact h (.inr rfl) rfl
  · rintro _ rfl rfl
    exact h (.inl rfl) rfl
  · rintro _ rfl rfl
    exact h (.inr rfl) rfl

theorem splitPath_space (cs : List Char) :
    splitPath (' ' :: cs) = (' ' :: (splitPath cs).1, (splitPath cs).2) :=
  splitPath_cons fun h => absurd h (by decide)

/-- No path operator starts at the front of a text without them. -/
theorem head?_of_pathless {c : Char} {cs : List Char}
    (h : ∀ op : PathOperator, occursIn op.spelling (c :: cs) = false) (hc : c = '-' ∨ c = '#') :
    cs.head? ≠ some '>' := by
  intro hhead
  obtain ⟨ds, rfl⟩ : ∃ ds, cs = '>' :: ds := by
    cases cs with
    | nil => cases hhead
    | cons d ds =>
        cases hhead
        exact ⟨ds, rfl⟩
  rcases hc with rfl | rfl
  · exact absurd (h .member) (by simp [occursIn, PathOperator.spelling])
  · exact absurd (h .path) (by simp [occursIn, PathOperator.spelling])

/-- A text without path operators is passed over, up to a space. -/
theorem splitPath_append_space {cs : List Char}
    (h : ∀ op : PathOperator, occursIn op.spelling cs = false) (rest : List Char) :
    splitPath (cs ++ ' ' :: rest) = (cs ++ ' ' :: (splitPath rest).1, (splitPath rest).2) := by
  induction cs with
  | nil => exact splitPath_space rest
  | cons c cs ih =>
      rw [List.cons_append, splitPath_cons, ih fun op => occursIn_tail (h op), List.cons_append]
      intro hc
      cases cs with
      | nil => simp
      | cons d ds => simpa using head?_of_pathless h hc

/-- A path operator in front of a space starts a step. -/
theorem splitPath_spelling (op : PathOperator) (rest : List Char) :
    splitPath (op.spelling ++ ' ' :: rest) =
      ([], (op, ' ' :: (splitPath rest).1) :: (splitPath rest).2) := by
  cases op <;> simp [PathOperator.spelling, splitPath, splitPath_space]

/-- What is read of a step is its operator and its segment, blanks around it aside. -/
def ReadAs (step read : PathOperator × List Char) : Prop := read.1 = step.1 ∧ trim read.2 = step.2

/-- **The steps come back**, blanks around the segments aside. -/
theorem splitPath_spacedPath
    (hcolumn : ∀ op : PathOperator, occursIn op.spelling column = false)
    (hsteps : ∀ step ∈ steps, IsSegment step.2) :
    ∃ blanks read, splitPath (spacedPath column steps) = (column ++ blanks, read) ∧
      (∀ c ∈ blanks, isBlank c = true) ∧ List.Forall₂ ReadAs steps read := by
  -- the column of the induction is the last segment with the space in front of it
  induction steps generalizing column with
  | nil =>
      refine ⟨[], [], ?_, by simp, .nil⟩
      simpa [spacedPath] using splitPath_of_pathless hcolumn
  | cons step steps ih =>
      have hsegment := hsteps step List.mem_cons_self
      obtain ⟨blanks, read, hsplit, hblanks, hread⟩ :=
        ih hsegment.pathless fun other hother => hsteps other (List.mem_cons_of_mem step hother)
      have htext : spacedPath column (step :: steps) =
          column ++ ' ' :: (step.1.spelling ++ ' ' :: spacedPath step.2 steps) := by
        simp [spacedPath_cons]
      have hstep : ReadAs step (step.1, ' ' :: (step.2 ++ blanks)) := by
        refine ⟨rfl, ?_⟩
        have htrim := trim_surrounded isBlank_of_mem_space hblanks step.2
        rwa [hsegment.trimmed, List.singleton_append, List.cons_append] at htrim
      refine ⟨[' '], (step.1, ' ' :: (step.2 ++ blanks)) :: read, ?_,
        isBlank_of_mem_space, .cons hstep hread⟩
      rw [htext, splitPath_append_space hcolumn, splitPath_spelling, hsplit]

/-! ### Writing paths -/

/-- A segment that is not in single quotes is no quoted text. -/
theorem IsSegment.isQuoted {segment : List Char} (h : IsSegment segment) :
    isQuoted segment = false := by
  rw [← Bool.not_eq_true, Key.isQuoted, Bool.and_eq_true, Bool.and_eq_true, decide_eq_true_eq,
    beq_iff_eq, beq_iff_eq]
  rintro ⟨⟨hlength, hhead⟩, hlast⟩
  obtain ⟨content, c, rfl⟩ := (List.eq_nil_or_concat segment).resolve_left h.nonempty
  rw [List.concat_eq_append] at *
  cases content with
  | nil => simp at hlength
  | cons d content =>
      rw [List.getLast?_concat, Option.some.injEq] at hlast
      rw [List.cons_append, List.head?_cons, Option.some.injEq] at hhead
      exact h.unquoted content (by rw [hlast, hhead, enclosed])

/-- The text of a segment in a reference. -/
theorem IsSegment.renderSegment {segment : List Char} (h : IsSegment segment) :
    renderSegment segment = if segment.all Char.isDigit then segment
      else enclosed '\'' (doubled '\'' segment) := by
  rw [Key.renderSegment, h.isQuoted]
  rfl

/-- Segments that come back are written as steps. -/
theorem renderSteps?_of_readAs {read : List (PathOperator × List Char)}
    (h : List.Forall₂ ReadAs steps read) (hsteps : ∀ step ∈ steps, IsSegment step.2) :
    renderSteps? read = some (steps.flatMap stepText) := by
  induction h with
  | nil => rfl
  | @cons step other steps read hstep _ ih =>
      obtain ⟨op, text⟩ := other
      obtain ⟨rfl : op = step.1, htext : trim text = step.2⟩ := hstep
      have hsegment := hsteps step List.mem_cons_self
      rw [renderSteps?, htext, if_neg hsegment.nonempty,
        ih fun other hother => hsteps other (List.mem_cons_of_mem step hother),
        hsegment.renderSegment]
      rfl

/-- The reference to a written path: the column in double quotes, and the steps. -/
theorem reference?_spacedPath (hcolumn : IsFieldText column) (hne : steps ≠ [])
    (hsteps : ∀ step ∈ steps, IsSegment step.2) :
    reference? (spacedPath column steps) =
      some (column, enclosed '"' column ++ steps.flatMap stepText) := by
  obtain ⟨blanks, read, hsplit, hblanks, hread⟩ := splitPath_spacedPath hcolumn.pathless hsteps
  have hfront : trimEnd (column ++ blanks) = column := by
    rw [trimEnd_append_of_blank column hblanks, trimEnd_of_trim hcolumn.trimmed]
  have hpath := renderSteps?_of_readAs hread hsteps
  rw [reference?, if_neg (spacedPath_ne_nil hcolumn.nonempty),
    if_neg (quoteless_spacedPath hcolumn hsteps), hsplit]
  cases hread with
  | nil => exact absurd rfl hne
  | cons _ _ => simp only [hfront, if_neg hcolumn.nonempty, hpath, Option.map_some]

/-! ### Reading keys with a path -/

/-- **A key with a path is read step by step.**  If a column, steps and the token of an operator
that is no word are joined by single spaces, the key names the column with this operator, and the
reference to it is the column in double quotes with each step behind it: its operator, and its
segment as it stands if it is an index, else in single quotes with the quotes in it doubled. -/
theorem parse_spacedKey {op : Operator} (hop : op ∈ Operator.all) (hsymbol : op.isWord = false)
    (hcolumn : IsFieldText column) (hne : steps ≠ [])
    (hsteps : ∀ step ∈ steps, IsSegment step.2) :
    parse (String.ofList (spacedKey column steps op.token.toList)) =
      .ok (comparing (String.ofList column)
        (String.ofList (enclosed '"' column ++ steps.flatMap stepText)) op) := by
  have hraw : (String.ofList (spacedKey column steps op.token.toList)).toList =
      [] ++ (spacedPath column steps ++ [' '] ++ op.token.toList) ++ [] := by
    rw [String.toList_ofList, spacedKey_eq, List.nil_append, List.append_nil]
  exact parse_spaced hraw (by simp) (by simp) hop (trim_spacedPath hcolumn hsteps) (by simp)
    isBlank_of_mem_space (not_joinsNot_of_symbol hop hsymbol _ _)
    (reference?_spacedPath hcolumn hne hsteps)

/-- An index, a segment with a quote in it and one that starts like a path operator, with the
operator that ignores letter case. -/
theorem parse_spacedKey_caseless :
    parse "data -> 0 ->> o'brien #>> -x =*" =
      .ok ⟨"data", "LOWER(\"data\"->0->>'o''brien'#>>'-x')", .equal, some .lowerCase, true⟩ := by
  have hfield : ∀ cs ∈ ["data".toList, "0".toList, "o'brien".toList, "-x".toList],
      IsFieldText cs ∧ cs.head? ≠ some '\'' := by
    have hall : ∀ cs ∈ ["data".toList, "0".toList, "o'brien".toList, "-x".toList],
        cs ≠ [] ∧ trim cs = cs ∧ '"' ∉ cs ∧ cs.head? ≠ some '\'' ∧
          ∀ op ∈ [PathOperator.member, .memberText, .path, .pathText],
            occursIn op.spelling cs = false := by decide
    intro cs hcs
    obtain ⟨hne, htrim, hquoteless, hhead, hpathless⟩ := hall cs hcs
    exact ⟨⟨hne, htrim, hquoteless, fun op => hpathless op (by cases op <;> simp)⟩, hhead⟩
  have hsteps : ∀ step ∈ [(PathOperator.member, "0".toList), (.memberText, "o'brien".toList),
      (.pathText, "-x".toList)], IsSegment step.2 := by
    intro step hstep
    obtain ⟨hsegment, hhead⟩ := hfield step.2 (List.mem_cons_of_mem _ (List.mem_map_of_mem hstep))
    refine ⟨hsegment, fun content hcontent => hhead ?_⟩
    rw [hcontent]
    rfl
  have hop : (⟨"=*", .equal, some .lowerCase, true⟩ : Operator) ∈ Operator.all := by decide
  have hparse := parse_spacedKey hop (by decide) (hfield "data".toList (by simp)).1 (by simp) hsteps
  have hkey : spacedKey "data".toList [(.member, "0".toList), (.memberText, "o'brien".toList),
      (.pathText, "-x".toList)] "=*".toList = "data -> 0 ->> o'brien #>> -x =*".toList := by decide
  have hreference : enclosed '"' "data".toList ++
      [(.member, "0".toList), (.memberText, "o'brien".toList), (.pathText, "-x".toList)].flatMap
        stepText = "\"data\"->0->>'o''brien'#>>'-x'".toList := by decide
  rw [hkey, hreference, String.ofList_toList, String.ofList_toList, String.ofList_toList] at hparse
  rw [hparse]
  decide

end SqlFilter.Key

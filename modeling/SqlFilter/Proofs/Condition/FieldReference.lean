/-
**The form of a reference.**

A key without double quotes becomes a reference of a fixed form: the name of a column in double
quotes, then a path of steps, each an operator with an index or a text in single quotes, and the
whole perhaps put into lower case.  The server reads such a reference as these tokens and no others,
so nothing in the key can become a part of the statement around it.

One thing has to be asked of the key.  A step that starts and ends with a single quote is taken for
a text in quotes and left as it stands; if it is not one, because a quote inside it is not doubled,
the text ends early and what follows is read as part of the statement.

Main definitions:

* `SqlFilter.Key.StepKey`, `SqlFilter.Key.PathStep`: the steps of a path, with their texts and
  tokens;
* `SqlFilter.Key.referenceText`, `SqlFilter.Key.referenceTokens`: the text and the tokens of a
  reference;
* `SqlFilter.Key.IsWellFormed`: a key whose reference has this form;
* `SqlFilter.Key.segments`: the steps of a key as they were written.

Main results:

* `SqlFilter.Key.tokens_referenceText`: the tokens of a reference;
* `SqlFilter.Key.exists_pathSteps`: rendered steps are a path;
* `SqlFilter.Key.isWellFormed_of_parse`: **the form of a reference**;
* `SqlFilter.Key.not_isWellFormed_looseQuotes`: a key with a step that only looks like a text in
  quotes.
-/

import SqlFilter.Proofs.Condition.Phrases

set_option relaxedAutoImplicit false
set_option autoImplicit false

namespace SqlFilter.Key

open SqlFilter.Sql (Breaks Token breaks_cons tokens tokens_append tokens_mark tokens_quoted
  tokens_word)
open SqlFilter.Text (doubled enclosed trim trimEnd)

/-! ### Paths -/

/-- The key of a step in a statement: an index, or a text in single quotes. -/
inductive StepKey where
  | index (digits : List Char) (nonempty : digits ≠ []) (numeric : ∀ c ∈ digits, c.isDigit = true)
  | literal (content : List Char)

namespace StepKey

/-- The text of a step's key; a quote within quotes is doubled. -/
def text : StepKey → List Char
  | .index digits _ _ => digits
  | .literal content => enclosed '\'' (doubled '\'' content)

/-- What the server reads it as. -/
def token : StepKey → Token
  | .index digits _ _ => .word digits
  | .literal content => .quoted .single content

theorem tokens_text (key : StepKey) : tokens key.text = some [key.token] := by
  cases key with
  | index digits nonempty numeric =>
      exact tokens_word nonempty fun c hc => Sql.isWordChar_of_isDigit (numeric c hc)
  | literal content => exact tokens_quoted .single content

end StepKey

/-- A step of a path in a statement. -/
structure PathStep where
  operator : PathOperator
  key : StepKey

namespace PathStep

/-- The text of a step. -/
def text (step : PathStep) : List Char := step.operator.spelling ++ step.key.text

/-- The tokens of a step: the marks of its operator, and its key. -/
def tokens (step : PathStep) : List Token :=
  step.operator.spelling.map Token.mark ++ [step.key.token]

end PathStep

/-- The text of a reference to a column, with a path into it, perhaps in lower case. -/
def referenceText (lowers : Bool) (column : List Char) (steps : List PathStep) : List Char :=
  let reference := enclosed '"' column ++ steps.flatMap PathStep.text
  if lowers then lowerReference reference else reference

/-- The tokens of such a reference. -/
def referenceTokens (lowers : Bool) (column : List Char) (steps : List PathStep) : List Token :=
  let reference := .quoted .double column :: steps.flatMap PathStep.tokens
  if lowers then .word "LOWER".toList :: .mark '(' :: reference ++ [.mark ')'] else reference

/-- The reference of a key is a column and a path into it, and is read as nothing else. -/
def IsWellFormed (key : Key) : Prop :=
  ∃ steps, key.reference.toList = referenceText key.lowersField key.field.toList steps ∧
    tokens key.reference.toList = some (referenceTokens key.lowersField key.field.toList steps)

/-! ### The tokens of a reference -/

/-- The marks of a path operator are tokens of their own, whatever follows them. -/
theorem tokens_spelling (op : PathOperator) {cs : List Char} {ts : List Token}
    (h : tokens cs = some ts) :
    tokens (op.spelling ++ cs) = some (op.spelling.map Token.mark ++ ts) := by
  have hminus : ∀ ds us, tokens ds = some us → tokens ('-' :: ds) = some (.mark '-' :: us) := by
    intro ds us hds
    rw [tokens_mark (by decide), hds, Option.map_some]
  have hhash : ∀ ds us, tokens ds = some us → tokens ('#' :: ds) = some (.mark '#' :: us) := by
    intro ds us hds
    rw [tokens_mark (by decide), hds, Option.map_some]
  have harrow : ∀ ds us, tokens ds = some us → tokens ('>' :: ds) = some (.mark '>' :: us) := by
    intro ds us hds
    rw [tokens_mark (by decide), hds, Option.map_some]
  cases op with
  | member => exact hminus _ _ (harrow _ _ h)
  | memberText => exact hminus _ _ (harrow _ _ (harrow _ _ h))
  | path => exact hhash _ _ (harrow _ _ h)
  | pathText => exact hhash _ _ (harrow _ _ (harrow _ _ h))

theorem breaks_steps (steps : List PathStep) : Breaks (steps.flatMap PathStep.text) := by
  cases steps with
  | nil => simp [Breaks]
  | cons step steps =>
      rw [List.flatMap_cons, PathStep.text, List.append_assoc]
      exact breaks_spelling step.operator _

theorem tokens_steps (steps : List PathStep) :
    tokens (steps.flatMap PathStep.text) = some (steps.flatMap PathStep.tokens) := by
  induction steps with
  | nil => rfl
  | cons step steps ih =>
      have hkey := tokens_append step.key.tokens_text ih (breaks_steps steps)
      rw [List.flatMap_cons, List.flatMap_cons, PathStep.text, PathStep.tokens, List.append_assoc,
        List.append_assoc]
      exact tokens_spelling step.operator hkey

/-- **A reference is read as its column and its steps.** -/
theorem tokens_referenceText {column : List Char} (hcolumn : '"' ∉ column) (lowers : Bool)
    (steps : List PathStep) :
    tokens (referenceText lowers column steps) =
      some (referenceTokens lowers column steps) := by
  have hname : tokens (enclosed '"' column) = some [.quoted .double column] := by
    have hquoted : tokens (enclosed '"' (doubled '"' column)) = some [.quoted .double column] :=
      tokens_quoted .double column
    rwa [Text.doubled_eq_self hcolumn] at hquoted
  have hpath := tokens_append hname (tokens_steps steps) (breaks_steps steps)
  cases lowers with
  | false => exact hpath
  | true =>
      have hword : tokens "LOWER".toList = some [.word "LOWER".toList] := by decide
      have hclose : tokens [')'] = some [.mark ')'] := by decide
      have hinside := tokens_append hpath hclose (breaks_cons (by decide) (by decide))
      have hcall : tokens ('(' :: (enclosed '"' column ++ steps.flatMap PathStep.text ++ [')'])) =
          some (.mark '(' :: ([.quoted .double column] ++ steps.flatMap PathStep.tokens ++
            [.mark ')'])) := by
        rw [tokens_mark (by decide), hinside, Option.map_some]
      have htext : referenceText true column steps = "LOWER".toList ++
          '(' :: (enclosed '"' column ++ steps.flatMap PathStep.text ++ [')']) := rfl
      rw [htext, tokens_append hword hcall (breaks_cons (by decide) (by decide))]
      rfl

/-- The words of a reference are its indexes and the name of the function. -/
theorem word_mem_referenceTokens {lowers : Bool} {column word : List Char} {steps : List PathStep}
    (h : .word word ∈ referenceTokens lowers column steps) :
    word = "LOWER".toList ∨ ∀ c ∈ word, c.isDigit = true := by
  have hpath : .word word ∈ Token.quoted .double column :: steps.flatMap PathStep.tokens →
      ∀ c ∈ word, c.isDigit = true := by
    intro hmem
    simp only [List.mem_cons, reduceCtorEq, List.mem_flatMap, false_or] at hmem
    obtain ⟨step, -, hstep⟩ := hmem
    simp only [PathStep.tokens, List.mem_append, List.mem_map, reduceCtorEq, and_false,
      exists_false, List.mem_singleton, false_or] at hstep
    cases hkey : step.key with
    | index digits nonempty numeric =>
        rw [hkey] at hstep
        cases hstep
        exact numeric
    | literal content =>
        rw [hkey] at hstep
        cases hstep
  cases lowers with
  | false => exact Or.inr (hpath h)
  | true =>
      simp only [referenceTokens, if_true, List.cons_append, List.mem_cons, Token.word.injEq,
        reduceCtorEq, false_or, List.mem_append, List.not_mem_nil, or_false] at h
      exact h.imp_right fun hmem => hpath (List.mem_cons.2 (by simpa using hmem))

/-! ### Keys -/

/-- The steps of a key as they were written, blanks around them aside. -/
def segments (raw : String) : List (List Char) :=
  (splitPath (splitOperator (trim raw.toList)).1).2.map fun step => trim step.2

/-- A text in single quotes, with every quote inside it doubled. -/
def IsLiteral (segment : List Char) : Prop :=
  ∃ content, segment = enclosed '\'' (doubled '\'' content)

/-- A segment is rendered as an index or as a text in quotes, unless it only looks like one. -/
theorem exists_stepKey {segment : List Char} (hne : segment ≠ [])
    (hquoted : isQuoted segment = true → IsLiteral segment) :
    ∃ key : StepKey, renderSegment segment = key.text := by
  rw [renderSegment]
  split
  · next hdigits => exact ⟨.index segment hne (List.all_eq_true.1 hdigits), rfl⟩
  · split
    · next hquotes =>
        obtain ⟨content, hcontent⟩ := hquoted hquotes
        exact ⟨.literal content, hcontent⟩
    · exact ⟨.literal segment, rfl⟩

/-- Rendered steps are a path. -/
theorem exists_pathSteps {steps : List (PathOperator × List Char)} {path : List Char}
    (hquoted : ∀ step ∈ steps, isQuoted (trim step.2) = true → IsLiteral (trim step.2))
    (hpath : renderSteps? steps = some path) :
    ∃ rendered : List PathStep, path = rendered.flatMap PathStep.text := by
  induction steps generalizing path with
  | nil =>
      cases hpath
      exact ⟨[], rfl⟩
  | cons step steps ih =>
      obtain ⟨op, text⟩ := step
      simp only [renderSteps?] at hpath
      split at hpath
      · cases hpath
      · next hne =>
          obtain ⟨rest, hrest, rfl⟩ := Option.map_eq_some_iff.1 hpath
          obtain ⟨key, hkey⟩ := exists_stepKey hne (hquoted (op, text) (by simp))
          obtain ⟨rendered, rfl⟩ := ih (fun step hstep => hquoted step (by simp [hstep])) hrest
          exact ⟨⟨op, key⟩ :: rendered, by rw [hkey]; rfl⟩

/-- The reference to a field is its column and a path. -/
theorem exists_reference {field column reference : List Char} (hdouble : '"' ∉ field)
    (hquoted : ∀ step ∈ (splitPath field).2, isQuoted (trim step.2) = true →
      IsLiteral (trim step.2))
    (h : reference? field = some (column, reference)) :
    '"' ∉ column ∧ ∃ steps : List PathStep,
      reference = enclosed '"' column ++ steps.flatMap PathStep.text := by
  rw [reference?] at h
  split at h
  · cases h
  · split at h
    · simp only [Option.some.injEq, Prod.mk.injEq] at h
      obtain ⟨rfl, rfl⟩ := h
      exact ⟨hdouble, [], by simp⟩
    · next front steps _ hsplit =>
        simp only at h
        split at h
        · cases h
        · obtain ⟨path, hpath, heq⟩ := Option.map_eq_some_iff.1 h
          simp only [Prod.mk.injEq] at heq
          obtain ⟨rfl, rfl⟩ := heq
          rw [hsplit] at hquoted
          obtain ⟨rendered, rfl⟩ := exists_pathSteps hquoted hpath
          refine ⟨fun hmem => hdouble (mem_splitPath_column ?_), rendered, rfl⟩
          rw [hsplit]
          exact (Text.trimEnd_sublist front).subset hmem

/-- The field of a key is its column, and the operator decides about lower case. -/
theorem field_ofParts (column reference : List Char) (op : Option Operator) :
    (ofParts column reference op).field.toList = column ∧
      (ofParts column reference op).reference.toList =
        if (ofParts column reference op).lowersField then lowerReference reference
        else reference := by
  cases op with
  | none => simp [ofParts]
  | some op => by_cases h : op.lowersField = true <;> simp [ofParts, h]

/-- **The form of a reference.**  If a key has no double quotes, and no step of it only looks like a
text in single quotes, the reference to its field is the column in double quotes with a path of
indexes and quoted texts, perhaps in lower case, and is read as nothing else. -/
theorem isWellFormed_of_parse {raw : String} {key : Key} (hdouble : '"' ∉ raw.toList)
    (hsegments : ∀ segment ∈ segments raw, isQuoted segment = true → IsLiteral segment)
    (h : parse raw = .ok key) : key.IsWellFormed := by
  obtain ⟨column, reference, op, href, rfl⟩ := parse_eq_ok h
  have hfield : '"' ∉ (splitOperator (trim raw.toList)).1 := fun hmem =>
    hdouble ((field_sublist raw.toList).subset hmem)
  have hquoted : ∀ step ∈ (splitPath (splitOperator (trim raw.toList)).1).2,
      isQuoted (trim step.2) = true → IsLiteral (trim step.2) := fun step hstep =>
    hsegments _ (List.mem_map_of_mem hstep)
  obtain ⟨hcolumn, steps, hsteps⟩ := exists_reference hfield hquoted href
  obtain ⟨hcolumn', hreference⟩ := field_ofParts column reference op
  have htext : (ofParts column reference op).reference.toList =
      referenceText (ofParts column reference op).lowersField
        (ofParts column reference op).field.toList steps := by
    rw [hreference, hcolumn', hsteps, referenceText]
  refine ⟨steps, htext, ?_⟩
  rw [htext, hcolumn']
  exact tokens_referenceText hcolumn _ steps

/-- An index, a key with a quote in it, and a text that stands in quotes already. -/
theorem isWellFormed_chainedPath :
    ∃ key, parse "data -> 0 ->> o'brien #> 'it''s' =*" = .ok key ∧
      key.reference = "LOWER(\"data\"->0->>'o''brien'#>'it''s')" ∧ key.IsWellFormed := by
  have hparse : parse "data -> 0 ->> o'brien #> 'it''s' =*" = .ok
      ⟨"data", "LOWER(\"data\"->0->>'o''brien'#>'it''s')", .equal, some .lowerCase, true⟩ := rfl
  have hsegments : segments "data -> 0 ->> o'brien #> 'it''s' =*" =
      ["0".toList, "o'brien".toList, "'it''s'".toList] := rfl
  refine ⟨_, hparse, rfl, isWellFormed_of_parse (by decide) ?_ hparse⟩
  rw [hsegments]
  simp only [List.mem_cons, List.not_mem_nil, or_false, forall_eq_or_imp, forall_eq]
  -- of the three segments only the last one looks like a text in quotes
  exact ⟨fun h => absurd h (by decide), fun h => absurd h (by decide),
    fun _ => ⟨"it's".toList, by decide⟩⟩

/-- The step `'x' OR 'y'` starts and ends with a quote and is left as it stands, with its connective
outside of the quotes. -/
theorem not_isWellFormed_looseQuotes :
    '"' ∉ "a -> 'x' OR 'y'".toList ∧
      ∃ key, parse "a -> 'x' OR 'y'" = .ok key ∧ key.reference = "\"a\"->'x' OR 'y'" ∧
        ¬ key.IsWellFormed := by
  have hparse : parse "a -> 'x' OR 'y'" = .ok ⟨"a", "\"a\"->'x' OR 'y'", .equal, none, false⟩ := rfl
  refine ⟨by decide, _, hparse, rfl, ?_⟩
  rintro ⟨steps, -, htokens⟩
  have hread : tokens "\"a\"->'x' OR 'y'".toList = some
      [.quoted .double ['a'], .mark '-', .mark '>', .quoted .single ['x'], .word ['O', 'R'],
        .quoted .single ['y']] := by
    decide
  have hmem : .word ['O', 'R'] ∈ referenceTokens false "a".toList steps := by
    have heq : referenceTokens false "a".toList steps = _ :=
      Option.some.inj (htokens.symm.trans hread)
    rw [heq]
    simp
  rcases word_mem_referenceTokens hmem with h | h
  · exact absurd h (by decide)
  · exact absurd (h 'O' (by simp)) (by decide)

end SqlFilter.Key

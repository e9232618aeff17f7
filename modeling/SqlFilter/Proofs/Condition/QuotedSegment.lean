/-
**Segments that stand in quotes already.**

A segment of a path may be written as it is to stand in the statement: in single quotes, with the
quotes in it doubled.  Such a segment is kept, and not quoted a second time.  But a field is cut at
its path operators before anything is known of quotes, so that an operator between the quotes cuts
the segment, too, and each piece is then looked at by itself.  The segment comes out whole if no
operator stands between its quotes, and otherwise only if every piece happens to be kept.

Main definitions:

* `SqlFilter.Key.quotedText`: a text in single quotes, with the quotes in it doubled;
* `SqlFilter.Key.pieces`: what the path operators cut a text into;
* `SqlFilter.Key.IsKept`: a piece that is written as it stands.

Main results:

* `SqlFilter.Key.renderSegment_cases`: a segment is kept, or gets more quotes than it had;
* `SqlFilter.Key.renderSteps?_eq_written_iff`: **steps are written as they stand exactly when each
  of their segments is kept**;
* `SqlFilter.Key.splitPath_quotedText`: quotes alone do not cut a text;
* `SqlFilter.Key.parse_quotedSegment`: **when a segment in quotes is kept whole**;
* `SqlFilter.Key.parse_quotedSegment_arrow`: an arrow between the quotes cuts the segment.
-/

import SqlFilter.Proofs.Condition.PathKey
import SqlFilter.Proofs.Condition.Reference

set_option relaxedAutoImplicit false
set_option autoImplicit false

namespace SqlFilter.Key

open SqlFilter.Text (doubled enclosed exists_blanks isBlank isBlank_of_mem_space occursIn trim
  trim_between trim_eq_self_iff trim_surrounded trim_trim trimEnd trimEnd_append_of_blank
  trimEnd_of_trim)

/-! ### Kept segments -/

/-- A text in single quotes, with the quotes in it doubled. -/
def quotedText (content : List Char) : List Char := enclosed '\'' (doubled '\'' content)

/-- What the path operators cut a text into. -/
def pieces (cs : List Char) : List (List Char) :=
  (splitPath cs).1 :: (splitPath cs).2.map Prod.snd

/-- A piece that is written as it stands: an index, or one that starts and ends with a quote,
without blanks at its ends. -/
structure IsKept (piece : List Char) : Prop where
  nonempty : piece ≠ []
  trimmed : trim piece = piece
  indexOrQuoted : piece.all Char.isDigit = true ∨ isQuoted piece = true

theorem le_count_doubled (cs : List Char) : cs.count '\'' ≤ (doubled '\'' cs).count '\'' := by
  induction cs with
  | nil => exact Nat.le_refl _
  | cons c cs ih =>
      rw [doubled]
      split
      · next hc =>
          simp only [hc, List.count_cons_self]
          omega
      · next hc =>
          rw [List.count_cons_of_ne hc, List.count_cons_of_ne hc]
          exact ih

/-- A segment is kept, or it gets more quotes than it had. -/
theorem renderSegment_cases (segment : List Char) :
    (renderSegment segment = segment ∧
        (segment.all Char.isDigit = true ∨ isQuoted segment = true)) ∨
      segment.count '\'' < (renderSegment segment).count '\'' := by
  rw [renderSegment]
  split
  · next hdigits => exact .inl ⟨rfl, .inl hdigits⟩
  · split
    · next hquoted => exact .inl ⟨rfl, .inr hquoted⟩
    · right
      have hle := le_count_doubled segment
      rw [enclosed, List.cons_append, List.count_cons_self, List.count_append]
      omega

/-- Blanks are no quotes. -/
theorem count_trim (cs : List Char) : (trim cs).count '\'' = cs.count '\'' := by
  obtain ⟨before, behind, hbefore, hbehind, hcs⟩ := exists_blanks cs
  have hnone : ∀ blanks : List Char, (∀ c ∈ blanks, isBlank c = true) → blanks.count '\'' = 0 := by
    intro blanks hblanks
    refine List.count_eq_zero.2 fun hmem => ?_
    exact absurd (hblanks _ hmem) (by decide)
  have hcount := congrArg (List.count '\'') hcs
  rw [List.count_append, List.count_append, hnone before hbefore, hnone behind hbehind] at hcount
  omega

/-! ### Kept steps -/

variable {steps : List (PathOperator × List Char)} {path : List Char}

theorem renderSteps?_cons_eq_some {op : PathOperator} {text : List Char}
    (h : renderSteps? ((op, text) :: steps) = some path) :
    trim text ≠ [] ∧ ∃ rest, renderSteps? steps = some rest ∧
      path = op.spelling ++ renderSegment (trim text) ++ rest := by
  simp only [renderSteps?] at h
  split at h
  · cases h
  · next hne =>
      obtain ⟨rest, hrest, rfl⟩ := Option.map_eq_some_iff.1 h
      exact ⟨hne, rest, hrest, rfl⟩

/-- Written steps do not start with a blank. -/
theorem isBlank_head_of_renderSteps? (h : renderSteps? steps = some path) :
    ∀ c ∈ path.head?, isBlank c = false := by
  cases steps with
  | nil =>
      cases h
      simp
  | cons step steps =>
      obtain ⟨op, text⟩ := step
      obtain ⟨-, rest, -, rfl⟩ := renderSteps?_cons_eq_some h
      intro c hc
      cases op <;>
      · cases hc
        decide

/-- Steps do not lose quotes when they are written. -/
theorem count_writtenSteps_le (h : renderSteps? steps = some path) :
    (writtenSteps steps).count '\'' ≤ path.count '\'' := by
  induction steps generalizing path with
  | nil =>
      cases h
      exact Nat.le_refl _
  | cons step steps ih =>
      obtain ⟨op, text⟩ := step
      obtain ⟨-, rest, hrest, rfl⟩ := renderSteps?_cons_eq_some h
      have hle := ih hrest
      have hsegment : text.count '\'' ≤ (renderSegment (trim text)).count '\'' := by
        rw [← count_trim]
        rcases renderSegment_cases (trim text) with ⟨hkept, -⟩ | hmore
        · exact Nat.le_of_eq (by rw [hkept])
        · exact Nat.le_of_lt hmore
      simp only [writtenSteps, List.flatMap_cons, List.count_append] at hle ⊢
      omega

/-- A text in front of another one that starts with no blank has no blanks of its own around it. -/
theorem nil_of_append_eq {before text behind rest written : List Char}
    (hbefore : ∀ c ∈ before, isBlank c = true) (hbehind : ∀ c ∈ behind, isBlank c = true)
    (hne : text ≠ []) (htext : ∀ c ∈ text.head?, isBlank c = false)
    (hrest : ∀ c ∈ rest.head?, isBlank c = false)
    (h : text ++ rest = before ++ text ++ behind ++ written) :
    before = [] ∧ behind = [] ∧ rest = written := by
  have hfront : before = [] := by
    cases before with
    | nil => rfl
    | cons b before =>
        obtain ⟨c, text, rfl⟩ := List.exists_cons_of_ne_nil hne
        simp only [List.cons_append, List.cons.injEq] at h
        have hblank := htext c rfl
        rw [h.1, hbefore b List.mem_cons_self] at hblank
        cases hblank
  subst hfront
  rw [List.nil_append, List.append_assoc, List.append_cancel_left_eq] at h
  cases behind with
  | nil => exact ⟨rfl, rfl, h⟩
  | cons b behind =>
      have hblank := hrest b (by simp [h])
      rw [hbehind b List.mem_cons_self] at hblank
      cases hblank

/-- **Steps are written as they stand exactly when each of their segments is kept.** -/
theorem renderSteps?_eq_written_iff :
    renderSteps? steps = some (writtenSteps steps) ↔ ∀ step ∈ steps, IsKept step.2 := by
  induction steps with
  | nil => simp [renderSteps?, writtenSteps]
  | cons step steps ih =>
      obtain ⟨op, text⟩ := step
      rw [List.forall_mem_cons, ← ih]
      constructor
      · intro h
        obtain ⟨hne, rest, hrest, hpath⟩ := renderSteps?_cons_eq_some h
        have htext : text ++ writtenSteps steps = renderSegment (trim text) ++ rest := by
          simpa [writtenSteps] using hpath
        -- more quotes in the segment cannot be made up for behind it
        have hcount := congrArg (List.count '\'') htext
        have hle := count_writtenSteps_le hrest
        rw [List.count_append, List.count_append, ← count_trim text] at hcount
        obtain ⟨hkept, hform⟩ := (renderSegment_cases (trim text)).resolve_right (by omega)
        obtain ⟨before, behind, hbefore, hbehind, hsplit⟩ := exists_blanks text
        have hends := (trim_eq_self_iff _).1 (trim_trim text)
        have hwhole : trim text ++ rest = before ++ trim text ++ behind ++ writtenSteps steps := by
          rw [← hsplit, htext, hkept]
        obtain ⟨rfl, rfl, rfl⟩ := nil_of_append_eq hbefore hbehind hne hends.1
          (isBlank_head_of_renderSteps? hrest) hwhole
        have htrimmed : trim text = text := by simpa using hsplit.symm
        rw [htrimmed] at hne hform
        exact ⟨⟨hne, htrimmed, hform⟩, hrest⟩
      · rintro ⟨hkept, hrest⟩
        have hrender : renderSegment text = text := by
          rw [renderSegment]
          split
          · rfl
          · next hdigits => rw [if_pos (hkept.indexOrQuoted.resolve_left hdigits)]
        rw [renderSteps?, hkept.trimmed, hrest, hrender]
        simp [hkept.nonempty, writtenSteps]

/-! ### Texts in quotes -/

variable {content : List Char}

/-- Quotes alone do not cut a text. -/
theorem splitPath_quotedText (h : ∀ op : PathOperator, occursIn op.spelling content = false) :
    splitPath (quotedText content) = (quotedText content, []) := by
  have hquote : ∀ cs, splitPath ('\'' :: cs) = ('\'' :: (splitPath cs).1, (splitPath cs).2) :=
    fun cs => splitPath_cons fun hc => absurd hc (by decide)
  have hinside : ∀ content : List Char,
      (∀ op : PathOperator, occursIn op.spelling content = false) →
      splitPath (doubled '\'' content ++ ['\'']) = (doubled '\'' content ++ ['\''], []) := by
    intro content h
    induction content with
    | nil => exact hquote []
    | cons c cs ih =>
        have hrest := ih fun op => occursIn_tail (h op)
        rw [doubled]
        split
        · rw [List.cons_append, List.cons_append, hquote, hquote, hrest]
        · rw [List.cons_append, splitPath_cons, hrest]
          intro hc
          -- behind the character stands the next one of the content, or a quote
          have hnext := head?_of_pathless h hc
          cases cs with
          | nil => simp
          | cons d ds =>
              rw [doubled]
              split
              · simp
              · simpa using hnext
  rw [quotedText, enclosed, List.cons_append, hquote, hinside content h]

/-- A text in quotes without an operator between them is kept. -/
theorem isKept_quotedText (content : List Char) : IsKept (quotedText content) where
  nonempty := List.cons_ne_nil _ _
  trimmed := by
    rw [trim_eq_self_iff]
    constructor
    · intro c hc
      cases hc
      rfl
    · intro c hc
      rw [quotedText, enclosed, List.getLast?_concat] at hc
      cases hc
      rfl
  indexOrQuoted := by
    right
    rw [isQuoted, quotedText, enclosed, List.getLast?_concat]
    simp

/-- The field that is written of a column, an operator and a text in quotes: its reference is the
column and the steps that the text is cut into. -/
theorem reference?_quotedText {column : List Char} (hcolumn : IsFieldText column)
    (step : PathOperator) (hcontent : '"' ∉ content) :
    reference? (spacedPath column [(step, quotedText content)]) =
      (renderSteps? ((step, (splitPath (quotedText content)).1) ::
        (splitPath (quotedText content)).2)).map fun path =>
          (column, enclosed '"' column ++ path) := by
  have htext : spacedPath column [(step, quotedText content)] =
      column ++ ' ' :: (step.spelling ++ ' ' :: quotedText content) := by
    simp [spacedPath]
  have hquoteless : '"' ∉ spacedPath column [(step, quotedText content)] := by
    have hspelling : '"' ∉ step.spelling := by
      cases step <;> decide
    have hquoted : '"' ∉ quotedText content := fun hmem =>
      (Text.mem_enclosed hmem).elim (by decide) fun hmem => hcontent (Text.mem_doubled hmem)
    simp [htext, hcolumn.quoteless, hspelling, hquoted]
  have hfront : trimEnd (column ++ [' ']) = column := by
    rw [trimEnd_append_of_blank column isBlank_of_mem_space, trimEnd_of_trim hcolumn.trimmed]
  -- the space in front of the first piece is trimmed away
  have hspace : ∀ text steps, renderSteps? ((step, ' ' :: text) :: steps) =
      renderSteps? ((step, text) :: steps) := by
    intro text steps
    have hnone : ∀ c ∈ ([] : List Char), isBlank c = true := by simp
    have htrim := trim_surrounded isBlank_of_mem_space hnone text
    rw [List.append_nil, List.singleton_append] at htrim
    rw [renderSteps?, renderSteps?, htrim]
  rw [reference?, if_neg (spacedPath_ne_nil hcolumn.nonempty), if_neg hquoteless, htext,
    splitPath_append_space hcolumn.pathless, splitPath_spelling]
  simp only [hfront, if_neg hcolumn.nonempty, hspace]

/-- What a key says of its field can be told from the reference. -/
theorem comparing_injective {field first second : String} {op : Operator}
    (h : comparing field first op = comparing field second op) : first = second := by
  have href := congrArg Key.reference h
  rw [comparing, comparing] at href
  split at href
  · simpa [String.ext_iff] using href
  · exact href

/-! ### Reading keys -/

/-- A field text and a text in quotes, with a path operator between them, are trimmed. -/
theorem trim_quotedPath {column : List Char} (hcolumn : IsFieldText column) (step : PathOperator) :
    trim (spacedPath column [(step, quotedText content)]) =
      spacedPath column [(step, quotedText content)] := by
  have hkept := isKept_quotedText content
  have hsingle : spacedPath (quotedText content) [] = quotedText content := by simp [spacedPath]
  rw [spacedPath_cons, hsingle]
  exact trim_between hcolumn.trimmed hkept.trimmed hcolumn.nonempty hkept.nonempty _

/-- The text in quotes is in the reference as it was written exactly when its pieces are kept. -/
theorem parse_quotedText_eq_ok_iff {op : Operator} (hop : op ∈ Operator.all)
    (hsymbol : op.isWord = false) {column : List Char} (hcolumn : IsFieldText column)
    (step : PathOperator) (hcontent : '"' ∉ content) :
    parse (String.ofList (spacedKey column [(step, quotedText content)] op.token.toList)) =
        .ok (comparing (String.ofList column)
          (String.ofList (enclosed '"' column ++ (step.spelling ++ quotedText content))) op) ↔
      ∀ piece ∈ pieces (quotedText content), IsKept piece := by
  have hraw : spacedKey column [(step, quotedText content)] op.token.toList =
      [] ++ (spacedPath column [(step, quotedText content)] ++ [' '] ++ op.token.toList) ++ [] := by
    rw [spacedKey_eq, List.nil_append, List.append_nil]
  have hchars := ofChars?_spaced hraw (by simp) (by simp) hop (spacedPath_ne_nil hcolumn.nonempty)
    (trim_quotedPath hcolumn step) (by simp) isBlank_of_mem_space
    (not_joinsNot_of_symbol hop hsymbol _ _)
  rw [reference?_quotedText hcolumn step hcontent] at hchars
  have hwritten : writtenSteps ((step, (splitPath (quotedText content)).1) ::
      (splitPath (quotedText content)).2) = step.spelling ++ quotedText content := by
    have hcut := splitPath_append (quotedText content)
    rw [writtenSteps] at hcut
    rw [writtenSteps, List.flatMap_cons, List.append_assoc, hcut]
  have hsteps : (∀ piece ∈ pieces (quotedText content), IsKept piece) ↔
      ∀ other ∈ (step, (splitPath (quotedText content)).1) :: (splitPath (quotedText content)).2,
        IsKept other.2 := by
    rw [pieces, List.forall_mem_cons, List.forall_mem_cons, List.forall_mem_map]
  rw [hsteps, ← renderSteps?_eq_written_iff, hwritten, parse, String.toList_ofList, hchars]
  cases renderSteps? ((step, (splitPath (quotedText content)).1) ::
    (splitPath (quotedText content)).2) with
  | none => simp
  | some path =>
      simp only [Option.map_some, ofParts_some, Except.ok.injEq, Option.some.injEq]
      constructor
      · intro h
        have href := String.ofList_injective (comparing_injective h)
        rwa [List.append_cancel_left_eq] at href
      · rintro rfl
        rfl

/-- **When a segment in quotes is kept whole.**  A key is written of a column, a path operator, a
text in single quotes with the quotes in it doubled, and the token of an operator that is no word,
with single spaces between them.  If no path operator stands between the quotes, the key names the
column with this operator, and the reference to it has the text in quotes as it was written.  In
general it has the text so if and only if each of the pieces that the text is cut into by the path
operators in it is kept. -/
theorem parse_quotedSegment {op : Operator} (hop : op ∈ Operator.all) (hsymbol : op.isWord = false)
    {column : List Char} (hcolumn : IsFieldText column) (step : PathOperator)
    (hcontent : '"' ∉ content) :
    ((∀ other : PathOperator, occursIn other.spelling content = false) →
      parse (String.ofList (spacedKey column [(step, quotedText content)] op.token.toList)) =
        .ok (comparing (String.ofList column)
          (String.ofList (enclosed '"' column ++ (step.spelling ++ quotedText content))) op)) ∧
    (parse (String.ofList (spacedKey column [(step, quotedText content)] op.token.toList)) =
        .ok (comparing (String.ofList column)
          (String.ofList (enclosed '"' column ++ (step.spelling ++ quotedText content))) op) ↔
      ∀ piece ∈ pieces (quotedText content), IsKept piece) := by
  have hiff := parse_quotedText_eq_ok_iff hop hsymbol hcolumn step hcontent
  refine ⟨fun hpathless => hiff.2 ?_, hiff⟩
  have hone : pieces (quotedText content) = [quotedText content] := by
    rw [pieces, splitPath_quotedText hpathless, List.map_nil]
  rw [hone, List.forall_mem_singleton]
  exact isKept_quotedText content

theorem isFieldText_data : IsFieldText "data".toList where
  nonempty := by decide
  trimmed := by decide
  quoteless := by decide
  pathless := fun op => by cases op <;> decide

/-- A text with a quote and the characters of path operators in it; and one with a path operator
between two quotes, so that it is cut into two texts in quotes. -/
theorem parse_quotedSegment_innerQuotes :
    parse "data #>> 'it''s > -5' =*" =
        .ok ⟨"data", "LOWER(\"data\"#>>'it''s > -5')", .equal, some .lowerCase, true⟩ ∧
      parse "data -> 'a''->''b' =" = .ok ⟨"data", "\"data\"->'a''->''b'", .equal, none, false⟩ := by
  have hlower : (⟨"=*", .equal, some .lowerCase, true⟩ : Operator) ∈ Operator.all := by decide
  have hequal : (⟨"=", .equal, none, false⟩ : Operator) ∈ Operator.all := by decide
  have hpathless : ∀ other : PathOperator, occursIn other.spelling "it's > -5".toList = false :=
    fun other => by cases other <;> decide
  have hpieces : ∀ piece ∈ pieces (quotedText "a'->'b".toList), IsKept piece := by
    have hall : ∀ piece ∈ pieces (quotedText "a'->'b".toList),
        piece ≠ [] ∧ trim piece = piece ∧ isQuoted piece = true := by decide
    intro piece hpiece
    obtain ⟨hne, htrim, hquoted⟩ := hall piece hpiece
    exact ⟨hne, htrim, .inr hquoted⟩
  constructor
  · have hparse := (parse_quotedSegment hlower (by decide) isFieldText_data .pathText
      (show '"' ∉ "it's > -5".toList by decide)).1 hpathless
    have hkey : spacedKey "data".toList [(.pathText, quotedText "it's > -5".toList)]
        "=*".toList = "data #>> 'it''s > -5' =*".toList := by decide
    have hreference : enclosed '"' "data".toList ++ (PathOperator.pathText.spelling ++
        quotedText "it's > -5".toList) = "\"data\"#>>'it''s > -5'".toList := by decide
    rw [hkey, hreference, String.ofList_toList, String.ofList_toList,
      String.ofList_toList] at hparse
    rw [hparse]
    decide
  · have hparse := (parse_quotedSegment hequal (by decide) isFieldText_data .member
      (show '"' ∉ "a'->'b".toList by decide)).2.2 hpieces
    have hkey : spacedKey "data".toList [(.member, quotedText "a'->'b".toList)]
        "=".toList = "data -> 'a''->''b' =".toList := by decide
    have hreference : enclosed '"' "data".toList ++ (PathOperator.member.spelling ++
        quotedText "a'->'b".toList) = "\"data\"->'a''->''b'".toList := by decide
    rw [hkey, hreference, String.ofList_toList, String.ofList_toList,
      String.ofList_toList] at hparse
    rw [hparse]
    decide

/-- An arrow between the quotes cuts the text in two, and each part gets quotes of its own. -/
theorem parse_quotedSegment_arrow :
    spacedKey "data".toList [(.memberText, quotedText "a->b".toList)] "=".toList =
        "data ->> 'a->b' =".toList ∧
      IsFieldText "data".toList ∧ '"' ∉ "a->b".toList ∧
      parse "data ->> 'a->b' =" =
        .ok ⟨"data", "\"data\"->>'''a'->'b'''", .equal, none, false⟩ ∧
      parse "data ->> 'a->b' =" ≠ .ok ⟨"data", "\"data\"->>'a->b'", .equal, none, false⟩ := by
  have hparse : parse "data ->> 'a->b' =" =
      .ok ⟨"data", "\"data\"->>'''a'->'b'''", .equal, none, false⟩ := rfl
  refine ⟨by decide, isFieldText_data, by decide, hparse, ?_⟩
  rw [hparse]
  decide

end SqlFilter.Key

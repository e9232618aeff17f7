/-
**Row literals and their fields.**

The server writes a row as its fields between parentheses, with commas between them.  A null is
written as nothing at all, so a text without characters has to stand in quotes; a text in quotes has
every quote and every backslash in it doubled.  An array of rows has the whole literal of each row
as an element in quotes, escaped once more in the way of arrays.

Both layers are taken off again: splitting a row gives its fields, splitting an array of rows gives
the rows, and the fields of a row, prepared for a JSON column, are the array of their texts.

Main definitions:

* `SqlFilter.Compound.RowField`: a field as it is written;
* `SqlFilter.Compound.WrittenRow`: a row of such fields, of which there is at least one;
* `SqlFilter.Compound.rowsLiteral`: the literal of an array of rows;
* `SqlFilter.Compound.fieldsValue`, `SqlFilter.Compound.fieldsDocument`: fields as a list of values
  and as a document.

Main results:

* `SqlFilter.Compound.takeQuoted?_rowEscaped`: a field in quotes is unescaped;
* `SqlFilter.Compound.takeElement_field`: every field is taken whole;
* `SqlFilter.Compound.decodeRow_literal`: **reading undoes writing**, for a row, for an array of
  rows, and on into a document.
-/

import SqlFilter.Proofs.Compound.ArrayLiteral
import SqlFilter.Value.Encode

set_option relaxedAutoImplicit false
set_option autoImplicit false

namespace SqlFilter.Compound

/-! ### Written fields -/

/-- Every quote and every backslash twice. -/
def rowEscaped : List Char → List Char
  | [] => []
  | c :: cs => if c = '"' ∨ c = '\\' then c :: c :: rowEscaped cs else c :: rowEscaped cs

/-- Whether a character means something in a row literal. -/
def isRowSpecial (c : Char) : Bool :=
  c == '(' || c == ')' || c == ',' || c == '"' || c == '\\'

/-- Whether a text may stand bare in a row. -/
def isRowPlain (cs : List Char) : Bool := cs ≠ [] && cs.all fun c => !isRowSpecial c

/-- A field of a row, with the way it is written. -/
inductive RowField where
  | null
  | quoted (text : String)
  | bare (text : String) (plain : isRowPlain text.toList = true)

namespace RowField

/-- The text of a field. -/
def written : RowField → List Char
  | .null => []
  | .quoted text => '"' :: rowEscaped text.toList ++ ['"']
  | .bare text _ => text.toList

/-- What a field stands for: nothing for null, and its text for a text. -/
def content : RowField → Option String
  | .null => none
  | .quoted text => some text
  | .bare text _ => some text

end RowField

/-- The fields of a row as they are written; a row has at least one. -/
structure WrittenRow where
  fields : List RowField
  nonempty : fields ≠ []

namespace WrittenRow

/-- The literal of a row. -/
def literal (row : WrittenRow) : String :=
  String.ofList ('(' :: [','].intercalate (row.fields.map RowField.written) ++ [')'])

/-- The fields that a row stands for. -/
def contents (row : WrittenRow) : List (Option String) := row.fields.map RowField.content

end WrittenRow

/-- A row, or a null in its place, as an element of an array. -/
def rowElement : Option WrittenRow → ArrayElement
  | none => .null
  | some row => .quoted row.literal

/-- The literal of an array of rows. -/
def rowsLiteral (rows : List (Option WrittenRow)) : String := arrayLiteral (rows.map rowElement)

/-- Fields as a list of values. -/
def fieldsValue (fields : List (Option String)) : Value :=
  .array (fields.map fun field => (field.map Value.text).getD .null)

/-- Fields as a document. -/
def fieldsDocument (fields : List (Option String)) : Json :=
  .array (fields.map fun field => (field.map Json.string).getD .null)

/-! ### Fields -/

/-- The quote at the end of a field; another quote behind it would go on with the field. -/
theorem takeQuoted?_rowQuote {rest : List Char} (h : rest.head? ≠ some '"') :
    takeQuoted? .row ('"' :: rest) = some ([], rest) := by
  cases rest with
  | nil => rfl
  | cons c cs =>
      rw [takeQuoted?]
      intro cs' heq
      simp only [List.cons.injEq] at heq
      rw [heq.1] at h
      exact h rfl

/-- A field in quotes is unescaped up to its closing quote. -/
theorem takeQuoted?_rowEscaped (text : List Char) {rest : List Char} (h : rest.head? ≠ some '"') :
    takeQuoted? .row (rowEscaped text ++ '"' :: rest) = some (text, rest) := by
  induction text with
  | nil => exact takeQuoted?_rowQuote h
  | cons c cs ih =>
      rw [rowEscaped]
      split
      · next hspecial =>
          rcases hspecial with rfl | rfl
          · rw [List.cons_append, List.cons_append, takeQuoted?, if_pos rfl, ih]
            rfl
          · rw [List.cons_append, List.cons_append, takeQuoted?_escape, ih]
            rfl
      · next hspecial =>
          rw [not_or] at hspecial
          rw [List.cons_append, takeQuoted?_ordinary _ hspecial.1 hspecial.2, ih]
          rfl

/-- A row has no nesting: a bare field goes up to the next comma. -/
theorem takeBare_row {cs rest : List Char} (hcomma : ',' ∉ cs) (h : EndsElement rest) :
    takeBare .row .outside (cs ++ rest) = (cs, rest) := by
  induction cs with
  | nil =>
      cases rest with
      | nil => rfl
      | cons c cs =>
          have hc : c = ',' := by simpa [EndsElement] using h
          rw [List.nil_append, takeBare, if_pos ⟨hc, rfl⟩]
  | cons c cs ih =>
      simp only [List.mem_cons, not_or] at hcomma
      have hstep : Nesting.step .row .outside c = .outside := rfl
      rw [List.cons_append, takeBare, if_neg fun hgo => hcomma.1 hgo.1.symm, hstep, ih hcomma.2]

/-- Every field is taken whole, as what it stands for. -/
theorem takeElement_field (text : List Char) (field : RowField) (rest : List Char)
    (h : EndsElement rest) :
    takeElement .row text (field.written ++ rest) =
      .ok (field.content.map String.toList, rest) := by
  have hquote : rest.head? ≠ some '"' := by
    rcases h with rfl | hcomma
    · simp
    · simp [hcomma]
  -- a field that is not in quotes is taken up to the comma
  have hbare : ∀ cs : List Char, ',' ∉ cs → (cs ++ rest).head? ≠ some '"' →
      takeElement .row text (cs ++ rest) = .ok (bareElement .row cs, rest) := by
    intro cs hcomma hhead
    rw [takeElement]
    · rw [takeBare_row hcomma h]
    · intro quoted heq
      rw [heq] at hhead
      exact hhead rfl
  cases field with
  | null => exact hbare [] (by simp) hquote
  | quoted s => simp [RowField.written, takeElement, takeQuoted?_rowEscaped _ hquote,
      RowField.content]
  | bare s plain =>
      simp only [isRowPlain, Bool.and_eq_true, decide_eq_true_eq, List.all_eq_true,
        Bool.not_eq_true'] at plain
      obtain ⟨hne, hspecial⟩ := plain
      have hcomma : ',' ∉ s.toList := fun hmem => absurd (hspecial _ hmem) (by decide)
      have hhead : (s.toList ++ rest).head? ≠ some '"' := by
        rw [List.head?_append_of_ne_nil _ hne]
        exact fun hs => absurd (hspecial _ (List.mem_of_mem_head? hs)) (by decide)
      have hnull : s.toList ≠ Kind.row.nullText := hne
      rw [RowField.written, hbare s.toList hcomma hhead, bareElement, if_neg hnull]
      rfl

/-! ### Rows -/

theorem inner?_row (cs : List Char) : inner? .row ('(' :: cs ++ [')']) = some cs := by
  simp [inner?, Kind.opening, Kind.closing]

/-- Splitting a row gives its fields. -/
theorem decodeRow_eq_contents (row : WrittenRow) : decodeRow row.literal = .ok row.contents := by
  obtain ⟨field, fields, hfields⟩ := List.exists_cons_of_ne_nil row.nonempty
  have hsplit : split .row row.literal.toList =
      .ok (row.fields.map fun field => field.content.map String.toList) := by
    rw [WrittenRow.literal, String.toList_ofList, split, inner?_row, hfields]
    exact elements_intercalate (takeElement_field _) field fields
  rw [decodeRow, hsplit]
  simp [Except.map, WrittenRow.contents, elementText, Function.comp_def]

/-- Splitting an array of rows, and each row in turn, gives the fields of the rows. -/
theorem decodeRowArray_eq_contents (rows : List (Option WrittenRow)) :
    decodeRowArray (rowsLiteral rows) = .ok (rows.map fun row => row.map WrittenRow.contents) := by
  have hcontents : (rows.map rowElement).map ArrayElement.content =
      rows.map fun row => row.map WrittenRow.literal := by
    rw [List.map_map]
    refine List.map_congr_left fun row _ => ?_
    cases row <;> rfl
  rw [decodeRowArray, decodeArrayWith, rowsLiteral, decodeArray_eq_content, hcontents]
  exact readPresent_map decodeRow_eq_contents rows

/-- Fields, prepared for a JSON column, are the array of their texts. -/
theorem encode_fieldsValue (fields : List (Option String)) :
    (fieldsValue fields).encode .json = .ok (.json (fieldsDocument fields)) := by
  have hmembers : (fields.map fun field => (field.map Value.text).getD .null).map Value.toJson =
      fields.map fun field => (field.map Json.string).getD .null := by
    rw [List.map_map]
    refine List.map_congr_left fun field _ => ?_
    cases field <;> simp [Value.toJson]
  simp [Value.encode, fieldsValue, Value.isNull, Value.asDocument, Value.toJson,
    Value.toJsonList_eq_map, hmembers, fieldsDocument]

/-- **Reading undoes writing.**  A row is read as the fields it was written from, whichever way each
text was written; an array of rows, escaped twice, is read as these rows; and any fields, prepared
for a JSON column, are the array of their texts, with null for what is missing. -/
theorem decodeRow_literal (row : WrittenRow) (rows : List (Option WrittenRow))
    (fields : List (Option String)) :
    decodeRow row.literal = .ok row.contents ∧
      decodeRowArray (rowsLiteral rows) =
          .ok (rows.map fun row => row.map WrittenRow.contents) ∧
        (fieldsValue fields).encode .json = .ok (.json (fieldsDocument fields)) :=
  ⟨decodeRow_eq_contents row, decodeRowArray_eq_contents rows, encode_fieldsValue fields⟩

end SqlFilter.Compound

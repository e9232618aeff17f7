/-
**Keys that name a column.**

Most keys are the name of a column, alone or with an operator behind it.  A name is read as itself
if nothing in it can be taken for another part of a key: no blank at an end, no double quote, no
step into a document, and no operator token at its end.  With ` <>` behind it the name is read as
the same column, whatever it ends in.

Main definitions:

* `SqlFilter.Key.IsPlainColumn`: a key that names a column and nothing else;
* `SqlFilter.Key.ofColumn`: what is read, with an operator.

Main results:

* `SqlFilter.Key.parse_of_isPlainColumn`, `SqlFilter.Key.parse_append_notEqual`: **how a plain name
  is read**, alone and with an operator.
-/

import SqlFilter.Condition.Tree
import SqlFilter.Proofs.Condition.WrittenKey

set_option relaxedAutoImplicit false
set_option autoImplicit false

namespace SqlFilter.Key

open SqlFilter.Text (enclosed isBlank_of_mem_space occursIn stripSuffix? trim)

/-! ### Plain names -/

/-- A key that names a column and nothing else. -/
structure IsPlainColumn (column : String) : Prop where
  nonempty : column ≠ ""
  trimmed : trim column.toList = column.toList
  quoteless : '"' ∉ column.toList
  pathless : ∀ op : PathOperator, occursIn op.spelling column.toList = false
  /-- Where an operator token stands at the end, it is a word that does not stand apart. -/
  tokenless : ∀ op ∈ Operator.all, ∀ front ∈ stripSuffix? op.token.toList column.toList,
    op.isWord = true ∧ endsBlank front = false
  ungrouped : isGroupKey column = false

/-- A column in double quotes with an operator of the server. -/
def ofColumn (column : String) (comparison : Comparison) : Key :=
  ⟨column, String.ofList (enclosed '"' column.toList), comparison, none, false⟩

variable {column : String}

theorem IsPlainColumn.isFieldText (h : IsPlainColumn column) : IsFieldText column.toList where
  nonempty hnil := h.nonempty (String.toList_eq_nil_iff.1 hnil)
  trimmed := h.trimmed
  quoteless := h.quoteless
  pathless := h.pathless

/-! ### Reading plain names -/

/-- The field of a plain name is the column, and the reference to it is its name in quotes. -/
theorem reference?_of_isPlainColumn (h : IsPlainColumn column) :
    reference? column.toList = some (column.toList, enclosed '"' column.toList) := by
  rw [reference?_of_pathless h.isFieldText.nonempty h.pathless, if_neg h.quoteless]

/-- **A plain name is read as the column**, of which it asks equality. -/
theorem parse_of_isPlainColumn (h : IsPlainColumn column) :
    parse column = .ok (ofColumn column .equal) := by
  have hends : ∀ op ∈ Operator.all, ¬ op.Ends (trim column.toList) := by
    intro op hop
    rw [h.trimmed]
    exact not_ends_of_stripSuffix? (h.tokenless op hop)
  have href := reference?_of_isPlainColumn h
  rw [← h.trimmed] at href
  rw [parse_tokenless hends href, h.trimmed, String.ofList_toList, ofColumn]

/-- **With the token for inequality** it is read as the same column. -/
theorem parse_append_notEqual (h : IsPlainColumn column) :
    parse (column ++ " <>") = .ok (ofColumn column .notEqual) := by
  have hraw : (column ++ " <>").toList =
      [] ++ (column.toList ++ [' '] ++ (Operator.plain "<>" .notEqual).token.toList) ++ [] := by
    simp [Operator.plain]
  have hnot : ¬ JoinsNot column.toList [' '] (Operator.plain "<>" .notEqual) := fun hjoins =>
    absurd hjoins.1 (by decide)
  rw [parse_spaced hraw (by simp) (by simp) (by decide) h.trimmed (by simp)
    isBlank_of_mem_space hnot (reference?_of_isPlainColumn h), String.ofList_toList]
  rfl

/-- Neither of the two joins a group. -/
theorem isGroupKey_append_notEqual (column : String) : isGroupKey (column ++ " <>") = false := by
  have hne : ∀ s : String, s.toList.getLast? ≠ some '>' → (column ++ " <>" == s) = false := by
    intro s hs
    rw [beq_eq_false_iff_ne]
    rintro rfl
    rw [String.toList_append] at hs
    exact hs (by simp)
  rw [isGroupKey, hne "and" (by decide), hne "or" (by decide), Bool.or_self]

end SqlFilter.Key

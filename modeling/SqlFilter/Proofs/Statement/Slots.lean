/-
**Values in a statement.**

The values of a row stand in a statement as entries: null and empty lists are written out, anything
else is the placeholder of the next parameter.  What an entry shows can be read off it and the
parameters of the whole statement alone, wherever the entry stands among the others, and the
placeholders of entries that stand one behind the other are numbered through.

Main definitions:

* `SqlFilter.Value.isInline`, `SqlFilter.Value.bound`: the values that are written out, and the
  parameters that the others become;
* `SqlFilter.Shows`, `SqlFilter.Table.ShowsPair`: an entry shows a value, or the prepared value of a
  column, given the parameters of the statement;
* `SqlFilter.Table.Assigns`: an assignment shows a column and its value.

Main results:

* `SqlFilter.Table.shows_slots`, `SqlFilter.Table.shows_tuples`, `SqlFilter.Table.assigns`: **every
  entry shows its own value**, in a tuple, in several tuples, and in assignments;
* `SqlFilter.Table.placeholdersOf_slots`, `SqlFilter.Table.placeholdersOf_tuples`,
  `SqlFilter.Table.placeholdersOf_assignments`: **the placeholders of entries** are numbered
  through from the offset on.
-/

import SqlFilter.Proofs.Query.Clauses
import SqlFilter.Proofs.Template
import SqlFilter.Statement.Insert
import SqlFilter.Statement.Update

set_option relaxedAutoImplicit false
set_option autoImplicit false

namespace SqlFilter

/-! ### What entries show -/

namespace Value

/-- Whether a value is written out in a statement: null, or a list without elements. -/
def isInline : Value → Bool
  | .null => true
  | .array [] => true
  | _ => false

/-- The parameters of values: all that are not written out, in order. -/
def bound (values : List Value) : List Value := values.filter fun v => !v.isInline

theorem bound_append (xs ys : List Value) : bound (xs ++ ys) = bound xs ++ bound ys :=
  List.filter_append ..

end Value

open Value (bound)

/-- An entry of a statement with the given parameters shows a value: null and empty lists, and these
alone, are written out, and any other value is the parameter of a placeholder. -/
structure Shows (params : List Value) (v : Value) (entry : String) : Prop where
  null : entry = "NULL" ↔ v = .null
  empty : entry = emptyArraySql ↔ v = .array []
  param : v ≠ .null → v ≠ .array [] → ∃ k, entry = placeholder k ∧ params[k]? = some v

/-- The placeholders of texts that stand one behind the other. -/
def placeholdersOf (texts : List String) : List Nat :=
  texts.flatMap fun text => placeholderNumbers text.toList

theorem placeholdersOf_cons (text : String) (texts : List String) :
    placeholdersOf (text :: texts) = placeholderNumbers text.toList ++ placeholdersOf texts := rfl

/-- The placeholders of a list of entries. -/
theorem placeholderNumbers_commas (texts : List String) :
    placeholderNumbers (", ".intercalate texts).toList = placeholdersOf texts := by
  rw [String.toList_intercalate, placeholdersOf, ← List.flatMap_map]
  exact placeholderNumbers_intercalate (by decide) (by decide) _

theorem ne_of_toList_head? {s t : String} (h : s.toList.head? ≠ t.toList.head?) : s ≠ t := by
  rintro rfl
  exact h rfl

theorem placeholder_ne_null (offset : Nat) : placeholder offset ≠ "NULL" :=
  ne_of_toList_head? (by simp [toList_placeholder])

theorem placeholder_ne_emptyArraySql (offset : Nat) : placeholder offset ≠ emptyArraySql :=
  ne_of_toList_head? (by simp [toList_placeholder, emptyArraySql])

namespace Table

/-- The value of a column, prepared for it. -/
def Encodes (table : Table) (pair : String × Value) (value : Value) : Prop :=
  table.encode pair.1 pair.2 = .ok value

/-- An entry of a statement with the given parameters shows the prepared value of a column. -/
def ShowsPair (table : Table) (params : List Value) (pair : String × Value) (entry : String) :
    Prop :=
  ∃ value, table.Encodes pair value ∧ Shows params value entry

/-! ### One value -/

/-- A value is written out, or it is the next parameter. -/
theorem slot_cases (offset : Nat) (v : Value) :
    (v = .null ∧ slot offset v = ⟨"NULL", []⟩) ∨
      (v = .array [] ∧ slot offset v = ⟨emptyArraySql, []⟩) ∨
        (v ≠ .null ∧ v ≠ .array [] ∧ bound [v] = [v] ∧
          slot offset v = ⟨placeholder offset, [v]⟩) := by
  match v with
  | .null => exact Or.inl ⟨rfl, rfl⟩
  | .array [] => exact Or.inr (Or.inl ⟨rfl, rfl⟩)
  | .array (w :: ws) => exact Or.inr (Or.inr ⟨by simp, by simp, rfl, rfl⟩)
  | .bool _ | .smallInt _ | .int _ | .bigInt _ | .float _ | .double _ | .text _ | .bytes _ | .uuid _
  | .date _ | .time _ | .timestamp _ | .instant _ | .json _ | .numeric _ =>
      exact Or.inr (Or.inr ⟨by simp, by simp, rfl, rfl⟩)

theorem params_slot (offset : Nat) (v : Value) : (slot offset v).params = bound [v] := by
  rcases slot_cases offset v with ⟨rfl, h⟩ | ⟨rfl, h⟩ | ⟨-, -, hbound, h⟩
  · rw [h]
    rfl
  · rw [h]
    rfl
  · rw [h, hbound]

/-- The entry of a value shows it, when its parameter stands behind as many others as were there
before. -/
theorem shows_slot (front back : List Value) (v : Value) :
    Shows (front ++ bound [v] ++ back) v (slot front.length v).sql := by
  rcases slot_cases front.length v with ⟨rfl, h⟩ | ⟨rfl, h⟩ | ⟨hnull, hempty, hbound, h⟩
  · rw [h]
    exact ⟨by simp, iff_of_false (by decide) (by simp), fun hne => absurd rfl hne⟩
  · rw [h]
    exact ⟨iff_of_false (by decide) (by simp), by simp, fun _ hne => absurd rfl hne⟩
  · rw [h, hbound]
    refine ⟨?_, ?_, fun _ _ => ⟨front.length, rfl, by simp⟩⟩
    · exact iff_of_false (placeholder_ne_null _) hnull
    · exact iff_of_false (placeholder_ne_emptyArraySql _) hempty

theorem placeholderNumbers_slot (offset : Nat) (v : Value) :
    placeholderNumbers (slot offset v).sql.toList =
      List.range' (offset + 1) (bound [v]).length := by
  rcases slot_cases offset v with ⟨rfl, h⟩ | ⟨rfl, h⟩ | ⟨-, -, hbound, h⟩
  · rw [h]
    exact placeholderNumbers_eq_nil (by decide)
  · rw [h]
    exact placeholderNumbers_eq_nil (by decide)
  · rw [h, hbound]
    exact placeholderNumbers_toList_placeholder offset

/-- Numbers that go on behind others. -/
theorem range'_bound_append (offset : Nat) (xs ys : List Value) :
    List.range' (offset + 1) (bound xs).length ++
        List.range' (offset + (bound xs).length + 1) (bound ys).length =
      List.range' (offset + 1) (bound (xs ++ ys)).length := by
  rw [Value.bound_append, List.length_append, Nat.add_right_comm offset, List.range'_append_1]

/-! ### One tuple -/

theorem slots_cons (offset : Nat) (v : Value) (values : List Value) :
    slots offset (v :: values) =
      ((slot offset v).sql :: (slots (offset + (bound [v]).length) values).1,
        bound [v] ++ (slots (offset + (bound [v]).length) values).2) := by
  simp only [slots, params_slot]

/-- The parameters of a tuple are its values that are not written out. -/
theorem params_slots (offset : Nat) (values : List Value) :
    (slots offset values).2 = bound values := by
  induction values generalizing offset with
  | nil => rfl
  | cons v values ih => rw [slots_cons, ih, ← Value.bound_append, List.singleton_append]

/-- **Every entry of a tuple shows its own value.** -/
theorem shows_slots (front back : List Value) (values : List Value) :
    List.Forall₂ (Shows (front ++ bound values ++ back)) values (slots front.length values).1 := by
  induction values generalizing front with
  | nil => exact List.Forall₂.nil
  | cons v values ih =>
      have hbound : bound (v :: values) = bound [v] ++ bound values := Value.bound_append [v] values
      have hfirst := shows_slot front (bound values ++ back) v
      have hrest := ih (front ++ bound [v])
      rw [List.length_append] at hrest
      rw [slots_cons, hbound]
      refine List.Forall₂.cons ?_ ?_
      · simpa only [List.append_assoc] using hfirst
      · simpa only [List.append_assoc] using hrest

theorem placeholdersOf_slots (offset : Nat) (values : List Value) :
    placeholdersOf (slots offset values).1 = List.range' (offset + 1) (bound values).length := by
  induction values generalizing offset with
  | nil => rfl
  | cons v values ih =>
      rw [slots_cons, placeholdersOf_cons, placeholderNumbers_slot, ih, range'_bound_append,
        List.singleton_append]

theorem placeholderNumbers_parenthesized (items : List String) :
    placeholderNumbers (parenthesized items).toList = placeholdersOf items := by
  rw [parenthesized, String.toList_append, String.toList_append, List.append_assoc,
    placeholderNumbers_append_of_not_mem (by decide), placeholderNumbers_append _ (by simp),
    placeholderNumbers_commas, placeholderNumbers_eq_nil (by decide), List.append_nil]

/-! ### Several tuples -/

/-- The parameters of tuples are the values that are not written out, tuple by tuple. -/
theorem params_tuples (offset : Nat) (rows : List (List Value)) :
    (tuples offset rows).2 = bound rows.flatten := by
  induction rows generalizing offset with
  | nil => rfl
  | cons values rows ih =>
      simp only [tuples, params_slots, ih, List.flatten_cons, Value.bound_append]

/-- **Every entry of several tuples shows its own value.** -/
theorem shows_tuples (front back : List Value) (rows : List (List Value)) :
    ∃ entries : List (List String), (tuples front.length rows).1 = entries.map parenthesized ∧
      List.Forall₂ (List.Forall₂ (Shows (front ++ bound rows.flatten ++ back))) rows entries := by
  induction rows generalizing front with
  | nil => exact ⟨[], rfl, List.Forall₂.nil⟩
  | cons values rows ih =>
      have hfirst := shows_slots front (bound rows.flatten ++ back) values
      obtain ⟨entries, htuples, hrest⟩ := ih (front ++ bound values)
      rw [List.length_append] at htuples
      refine ⟨(slots front.length values).1 :: entries, ?_, ?_⟩
      · simp only [tuples, params_slots, htuples, List.map_cons]
      · rw [List.flatten_cons, Value.bound_append]
        refine List.Forall₂.cons ?_ ?_
        · simpa only [List.append_assoc] using hfirst
        · simpa only [List.append_assoc] using hrest

theorem placeholdersOf_tuples (offset : Nat) (rows : List (List Value)) :
    placeholdersOf (tuples offset rows).1 =
      List.range' (offset + 1) (bound rows.flatten).length := by
  induction rows generalizing offset with
  | nil => rfl
  | cons values rows ih =>
      simp only [tuples, params_slots, placeholdersOf_cons, placeholderNumbers_parenthesized,
        placeholdersOf_slots, ih, range'_bound_append, List.flatten_cons]

/-! ### Assignments -/

/-- An assignment of a statement with the given parameters: the name of the column in quotes, and an
entry that shows its own value. -/
def Assigns (table : Table) (params : List Value) (pair : String × Value) (item : String) : Prop :=
  ∃ name entry, Identifier.escape pair.1 = .ok name ∧ table.ShowsPair params pair entry ∧
    item = name ++ " = " ++ entry

/-- What the assignments of a column and of the others are made of. -/
theorem assignments_cons_eq_ok {table : Table} {offset : Nat} {pair : String × Value} {row : Row}
    {items : List String} {params : List Value}
    (h : table.assignments offset (pair :: row) = .ok (items, params)) :
    ∃ name value others more, Identifier.escape pair.1 = .ok name ∧ table.Encodes pair value ∧
      table.assignments (offset + (bound [value]).length) row = .ok (others, more) ∧
        items = (name ++ " = " ++ (slot offset value).sql) :: others ∧
          params = bound [value] ++ more := by
  rw [assignments] at h
  split at h
  · cases h
  · next value hvalue =>
      split at h
      · cases h
      · next name hname =>
          simp only [params_slot] at h
          split at h
          · cases h
          · next others more hothers =>
              cases h
              exact ⟨name, value, others, more, hname, hvalue, hothers, rfl, rfl⟩

/-- The parameters of assignments are the prepared values that are not written out. -/
theorem params_assignments {table : Table} {offset : Nat} {row : Row} {items : List String}
    {params : List Value} (h : table.assignments offset row = .ok (items, params)) :
    ∃ values, List.Forall₂ table.Encodes row values ∧ params = bound values := by
  induction row generalizing offset items params with
  | nil =>
      cases h
      exact ⟨[], List.Forall₂.nil, rfl⟩
  | cons pair row ih =>
      obtain ⟨name, value, others, more, -, hvalue, hothers, -, rfl⟩ := assignments_cons_eq_ok h
      obtain ⟨values, hvalues, rfl⟩ := ih hothers
      exact ⟨value :: values, List.Forall₂.cons hvalue hvalues,
        (Value.bound_append [value] values).symm⟩

/-- **Every assignment shows its own column and value.** -/
theorem assigns {table : Table} (front back : List Value) {row : Row} {items : List String}
    {params : List Value} (h : table.assignments front.length row = .ok (items, params)) :
    List.Forall₂ (table.Assigns (front ++ params ++ back)) row items := by
  induction row generalizing front items params with
  | nil =>
      cases h
      exact List.Forall₂.nil
  | cons pair row ih =>
      obtain ⟨name, value, others, more, hname, hvalue, hothers, rfl, rfl⟩ :=
        assignments_cons_eq_ok h
      have hfirst := shows_slot front (more ++ back) value
      rw [← List.length_append] at hothers
      have hrest := ih (front ++ bound [value]) hothers
      refine List.Forall₂.cons ⟨name, _, hname, ⟨value, hvalue, ?_⟩, rfl⟩ ?_
      · simpa only [List.append_assoc] using hfirst
      · simpa only [List.append_assoc] using hrest

theorem placeholdersOf_assignments {table : Table} {offset : Nat} {row : Row}
    {items : List String} {params : List Value} (hcolumns : Dollarless (Entries.keys row))
    (h : table.assignments offset row = .ok (items, params)) :
    placeholdersOf items = List.range' (offset + 1) params.length := by
  induction row generalizing offset items params with
  | nil =>
      cases h
      rfl
  | cons pair row ih =>
      obtain ⟨name, value, others, more, hname, -, hothers, rfl, rfl⟩ := assignments_cons_eq_ok h
      have hcolumn := hcolumns pair.1 List.mem_cons_self
      have hdollar : '$' ∉ (name ++ " = ").toList := by
        simpa using dollar_not_mem_escape hname hcolumn
      have hrest := ih (fun text htext => hcolumns text (List.mem_cons_of_mem _ htext)) hothers
      rw [placeholdersOf_cons, String.toList_append,
        placeholderNumbers_append_of_not_mem hdollar, placeholderNumbers_slot, hrest,
        List.length_append, Nat.add_right_comm offset, List.range'_append_1]

end Table

end SqlFilter

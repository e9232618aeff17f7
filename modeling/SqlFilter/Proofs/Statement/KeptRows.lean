/-
**Nothing of a row is lost.**

The first row fixes the columns of a statement that inserts several rows.  Of every other row the
statement asks two things only: that it has as many columns, and that each column of the first row
is found in it.  This is enough if the first row names no column twice, by counting: distinct
columns that are all found in a row of the same width are all columns of that row, each once.  So a
tuple has exactly the pairs of its row, in the order of the first one.

If the first row does name a column twice, another row may have a column that the first one lacks,
and its value is left out without an error.

Main definitions:

* `SqlFilter.Table.LaysOut`: a tuple has exactly the pairs of a row;
* `SqlFilter.Table.KeepsRows`: a statement inserts rows as they are.

Main results:

* `SqlFilter.Table.keys_perm_of_arranges`: the columns of a row that can be put in order;
* `SqlFilter.Table.keepsRows_insertMany`: **nothing of the rows is lost**;
* `SqlFilter.Table.not_keepsRows_repeatedColumn`: a row that loses a value.
-/

import Mathlib.Data.List.Nodup
import Mathlib.Data.List.Perm.Subperm
import SqlFilter.Proofs.Statement.Alignment

set_option relaxedAutoImplicit false
set_option autoImplicit false

namespace SqlFilter

namespace Entries

variable {α : Type}

/-- What stands under a key is one of the entries. -/
theorem mem_of_get? {key : String} {value : α} {entries : List (String × α)}
    (h : get? key entries = some value) : (key, value) ∈ entries := by
  induction entries with
  | nil => cases h
  | cons entry rest ih =>
      obtain ⟨k, v⟩ := entry
      rw [get?] at h
      split at h
      · next hk =>
          cases h
          rw [hk]
          exact List.mem_cons_self
      · exact List.mem_cons_of_mem _ (ih h)

end Entries

namespace Table

/-! ### What statements keep -/

/-- The values of a row prepared for their columns, each still with its column. -/
def Prepares (table : Table) (row prepared : Row) : Prop :=
  List.Forall₂ (fun pair done => done.1 = pair.1 ∧ table.Encodes pair done.2) row prepared

/-- A tuple of a statement with the given parameters has the columns in their order, and the pairs
of columns and values that it shows are those that the row supplies, each as often as it supplies
it. -/
def LaysOut (table : Table) (params : List Value) (columns : List String) (row : Row)
    (tuple : List String) : Prop :=
  ∃ shown supplied : Row, Entries.keys shown = columns ∧
    List.Forall₂ (fun pair entry => Shows params pair.2 entry) shown tuple ∧
      table.Prepares row supplied ∧ shown.Perm supplied

/-- The statement inserts rows as they are: all have the columns of the first row, in any order, and
the tuple of each has exactly its pairs. -/
def KeepsRows (table : Table) (rows : List Row) (f : Fragment) : Prop :=
  ∃ first names tuples, rows.head? = some first ∧
    (∀ row ∈ rows, (Entries.keys row).Perm (Entries.keys first)) ∧
      f.sql = table.insertSql names (tuples.map parenthesized) ∧
        List.Forall₂ (fun column name => Identifier.escape column = .ok name) (Entries.keys first)
            names ∧
          List.Forall₂ (table.LaysOut f.params (Entries.keys first)) rows tuples

/-! ### Rows in another order -/

variable {table : Table} {columns : List String} {row arranged : Row}

/-- Every row that is put in order has as many columns as the first one. -/
theorem length_of_arrangeAll {index : Nat} {rows : List Row} {values : List (List Value)}
    (h : table.arrangeAll columns index rows = .ok values) :
    ∀ row ∈ rows, row.length = columns.length := by
  induction rows generalizing index values with
  | nil => simp
  | cons first rows ih =>
      rw [arrangeAll] at h
      split at h
      · cases h
      · next hwidth =>
          split at h
          · cases h
          · split at h
            · cases h
            · next others hothers =>
                intro row hrow
                rcases List.mem_cons.1 hrow with rfl | hrow
                · exact not_not.1 hwidth
                · exact ih hothers row hrow

theorem keys_of_arranges (h : Arranges columns row arranged) : Entries.keys arranged = columns := by
  induction h with
  | nil => rfl
  | cons hpair _ ih => rw [Entries.keys, List.map_cons, hpair.1, ← ih, Entries.keys]

/-- What is put in order was there before. -/
theorem subset_of_arranges (h : Arranges columns row arranged) : arranged ⊆ row := by
  induction h with
  | nil => exact List.nil_subset row
  | @cons column pair columns arranged hpair _ ih =>
      obtain ⟨rfl, hvalue⟩ := hpair
      exact List.cons_subset.2 ⟨Entries.mem_of_get? hvalue, ih⟩

/-- Distinct columns that are all found in a row of their number are the pairs of the row. -/
theorem perm_of_arranges (hcolumns : columns.Nodup) (hwidth : row.length = columns.length)
    (h : Arranges columns row arranged) : arranged.Perm row := by
  have hkeys : Entries.keys arranged = columns := keys_of_arranges h
  -- no column comes twice, so no pair does either
  have hnodup : arranged.Nodup := by
    refine List.Nodup.of_map Prod.fst ?_
    rwa [← hkeys] at hcolumns
  have hlength : row.length ≤ arranged.length := by
    refine Nat.le_of_eq ?_
    rw [hwidth, ← hkeys, Entries.keys, List.length_map]
  exact (hnodup.subperm (subset_of_arranges h)).perm_of_length_le hlength

/-- Such a row has these columns, each once. -/
theorem keys_perm_of_arranges (hcolumns : columns.Nodup) (hwidth : row.length = columns.length)
    (h : Arranges columns row arranged) : (Entries.keys row).Perm columns := by
  have hperm := (perm_of_arranges hcolumns hwidth h).symm.map Prod.fst
  rw [← keys_of_arranges h]
  exact hperm

/-! ### Tuples -/

/-- Entries that show the prepared values of pairs show them with their columns. -/
theorem exists_shown {params : List Value} {pairs : Row} {tuple : List String}
    (h : List.Forall₂ (table.ShowsPair params) pairs tuple) :
    ∃ shown, table.Prepares pairs shown ∧ Entries.keys shown = Entries.keys pairs ∧
      List.Forall₂ (fun pair entry => Shows params pair.2 entry) shown tuple := by
  induction h with
  | nil => exact ⟨[], List.Forall₂.nil, rfl, List.Forall₂.nil⟩
  | @cons pair entry pairs tuple hpair _ ih =>
      obtain ⟨value, hvalue, hentry⟩ := hpair
      obtain ⟨shown, hprepares, hkeys, hshown⟩ := ih
      refine ⟨(pair.1, value) :: shown, ?_, ?_, ?_⟩
      · exact List.Forall₂.cons ⟨rfl, hvalue⟩ hprepares
      · rw [Entries.keys, List.map_cons, ← Entries.keys, hkeys, Entries.keys, Entries.keys,
          List.map_cons]
      · exact List.Forall₂.cons hentry hshown

/-- A tuple of a row in another order has exactly the pairs of the row. -/
theorem laysOut_of_arranges {params : List Value} {tuple : List String}
    (hcolumns : columns.Nodup) (hwidth : row.length = columns.length)
    (h : Arranges columns row arranged)
    (htuple : List.Forall₂ (table.ShowsPair params) arranged tuple) :
    table.LaysOut params columns row tuple := by
  obtain ⟨shown, hprepares, hkeys, hshown⟩ := exists_shown htuple
  -- preparing goes pair by pair, so it does not matter whether the row is put in order before it
  obtain ⟨supplied, hsupplied, hperm⟩ :=
    List.perm_comp_forall₂ (perm_of_arranges hcolumns hwidth h).symm hprepares
  refine ⟨shown, supplied, ?_, hshown, hsupplied, hperm.symm⟩
  rw [hkeys, keys_of_arranges h]

/-! ### Statements for several rows -/

/-- **Nothing of the rows is lost.**  If the first row names no column twice, every other row has
exactly its columns, and the tuple of each row has exactly the pairs of columns and values that the
row supplies, prepared for their columns. -/
theorem keepsRows_insertMany {rows : List Row} {f : Fragment}
    (hfirst : ∀ first ∈ rows.head?, (Entries.keys first).Nodup)
    (h : table.insertMany rows = .ok f) : table.KeepsRows rows f := by
  obtain ⟨first, names, values, hhead, -, harrange, -⟩ := insertMany_eq_ok h
  have hwidth : ∀ row ∈ rows, row.length = (Entries.keys first).length :=
    length_of_arrangeAll harrange
  have hcolumns : (Entries.keys first).Nodup := hfirst first hhead
  obtain ⟨first', arranged, hhead', harranged, names, tuples, hsql, hnames, htuples⟩ :=
    inserts_insertMany h
  cases hhead.symm.trans hhead'
  -- each row goes with its tuple through the row in the order of the columns
  have hrows : List.Forall₂ (fun row ordered => row.length = (Entries.keys first).length ∧
      Arranges (Entries.keys first) row ordered) rows arranged :=
    (List.forall₂_and_left _ _).2 ⟨hwidth, harranged⟩
  have hkeys : List.Forall₂ (fun row ordered => (Entries.keys row).Perm (Entries.keys first) ∧
      Arranges (Entries.keys first) row ordered) rows arranged :=
    hrows.imp fun row ordered h => ⟨keys_perm_of_arranges hcolumns h.1 h.2, h.2⟩
  refine ⟨first, names, tuples, hhead, ((List.forall₂_and_left _ _).1 hkeys).1, hsql, hnames, ?_⟩
  refine (forall₂_comp hrows htuples).imp fun row tuple => ?_
  rintro ⟨ordered, ⟨hrow, hordered⟩, htuple⟩
  exact laysOut_of_arranges hcolumns hrow hordered htuple

theorem keepsRows_insertMany_orders :
    (∀ first ∈ newOrders.head?, (Entries.keys first).Nodup) ∧
      ∃ f, orders.insertMany newOrders = .ok f ∧ orders.KeepsRows newOrders f := by
  have hinsert : orders.insertMany newOrders = .ok
      ⟨"INSERT INTO \"shop\".\"orders\" (\"id\", \"tags\", \"note\") " ++
          "VALUES ($1, '{}', NULL), ($2, $3, $4) RETURNING *",
        [.int 1, .int 2, .array [.text "new"], .json (.string "late")]⟩ :=
    rfl
  have hfirst : ∀ first ∈ newOrders.head?, (Entries.keys first).Nodup := by decide
  exact ⟨hfirst, _, hinsert, keepsRows_insertMany hfirst hinsert⟩

/-- A first row that names a column twice lets another row in that has one more column, and the
value of that column is in no parameter. -/
theorem not_keepsRows_repeatedColumn :
    ∃ f, plain.insertMany [[("a", .int 1), ("a", .int 1)], [("a", .int 2), ("b", .int 3)]] = .ok f ∧
      ¬ plain.KeepsRows [[("a", .int 1), ("a", .int 1)], [("a", .int 2), ("b", .int 3)]] f ∧
        Value.int 3 ∉ f.params := by
  refine ⟨⟨"INSERT INTO \"t\" (\"a\", \"a\") VALUES ($1, $2), ($3, $4) RETURNING *",
    [.int 1, .int 1, .int 2, .int 2]⟩, rfl, ?_, by simp⟩
  rintro ⟨first, names, tuples, hhead, hkeys, -⟩
  cases hhead
  have hperm : (["a", "b"] : List String).Perm ["a", "a"] :=
    hkeys [("a", .int 2), ("b", .int 3)] (by simp)
  exact absurd hperm (by decide)

end Table

end SqlFilter

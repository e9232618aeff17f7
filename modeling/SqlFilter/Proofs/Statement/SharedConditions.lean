/-
**Statements that meet the same rows.**

Rows are counted before they are changed or removed, and the three statements must mean the same
rows.  Counting and removing compile the conditions behind no parameter, changing compiles them
behind the new values.  Since the offset renumbers placeholders and does nothing else, the three
statements have one clause over one list of parameters, up to the numbers.

Main definitions:

* `SqlFilter.Table.MeetsSameRows`: a statement changes the rows that are counted and removed.

Main results:

* `SqlFilter.Table.conditions_renumbered`: **conditions behind other parameters** are the same
  conditions with their placeholders shifted, in a tree and in the statements of a table.
-/

import SqlFilter.Proofs.Condition.Renumbering
import SqlFilter.Proofs.Statement.Alignment

set_option relaxedAutoImplicit false
set_option autoImplicit false

namespace SqlFilter.Table

open Value (bound)

/-- The statement `f` sets the columns of a row, and its conditions are those of the statements that
remove and that count: the same clause over the same parameters, numbered on behind the parameters
of the row.  When no dollar sign comes in with a key, the clause is found by shifting the text. -/
def MeetsSameRows (table : Table) (conditions : Conditions) (row : Row) (f : Fragment) : Prop :=
  ∃ (values : List Value) (items : List String) (p q : Predicate),
    List.Forall₂ table.Encodes row values ∧
      table.assignments 0 row = .ok (items, bound values) ∧
      f = ⟨"UPDATE " ++ table.quotedName ++ " SET " ++ ", ".intercalate items ++ q.whereClause,
        bound values ++ p.params⟩ ∧
      table.delete conditions =
          .ok ⟨"DELETE FROM " ++ table.quotedName ++ p.whereClause, p.params⟩ ∧
        table.count conditions =
            .ok ⟨"SELECT COUNT(*) FROM " ++ table.quotedName ++ p.whereClause, p.params⟩ ∧
          Renumbered 0 (bound values).length p.params.length p.whereClause q.whereClause ∧
            (Identifier.validate table.name = .ok () →
              Dollarless (Conditions.allKeys conditions) →
                q.whereClause.toList =
                  shiftPlaceholders (bound values).length p.whereClause.toList)

variable {table : Table}

theorem delete_of_compileConditions {conditions : Conditions} {p : Predicate}
    (h : table.compileConditions conditions 0 none = .ok p) :
    table.delete conditions =
      .ok ⟨"DELETE FROM " ++ table.quotedName ++ p.whereClause, p.params⟩ := by
  rw [delete, h]

theorem count_of_compileConditions {conditions : Conditions} {p : Predicate}
    (h : table.compileConditions conditions 0 none = .ok p) :
    table.count conditions =
      .ok ⟨"SELECT COUNT(*) FROM " ++ table.quotedName ++ p.whereClause, p.params⟩ := by
  rw [count, h]

theorem meetsSameRows_update {conditions : Conditions} {row : Row} {f : Fragment}
    (h : table.update conditions row = .ok f) : table.MeetsSameRows conditions row f := by
  obtain ⟨items, params, q, hitems, hq, rfl⟩ := update_eq_ok h
  obtain ⟨values, hvalues, rfl⟩ := params_assignments hitems
  have hcompile := compileConditions_of_ok hq
  -- what compiles behind the new values compiles behind nothing, since failures do not move
  obtain ⟨hfails, hruns⟩ := table.scope.compile_add conditions 0 (bound values).length
  rw [Nat.zero_add] at hfails hruns
  cases hp : table.scope.compile conditions 0 with
  | error e =>
      have herror := (hfails e).1 hp
      rw [← hcompile, hq] at herror
      cases herror
  | ok p =>
      obtain ⟨q', hq', hparams, -, hsql, hshift⟩ := hruns p hp
      rw [hcompile, hq'] at hq
      cases hq
      have hzero : table.compileConditions conditions 0 none = .ok p := (hcompile 0).trans hp
      refine ⟨values, items, p, q, hvalues, hitems, by rw [hparams],
        delete_of_compileConditions hzero, count_of_compileConditions hzero, hsql.whereClause,
        fun hname hkeys => ?_⟩
      exact toList_whereClause_of_shiftPlaceholders hsql.eq_empty_iff
        (hshift hkeys (dollar_not_mem_quotedName hname))

/-- **Conditions behind other parameters.**  A tree that is compiled behind `k` more parameters
fails with the same error, or has the same parameters and the same text with `k` added to its
placeholders.  So the statement that changes rows has the clause of the statements that remove and
count them, shifted by the number of parameters of the new values. -/
theorem conditions_renumbered :
    (∀ (scope : Scope) (conditions : Conditions) (offset k : Nat),
      (∀ e, scope.compile conditions offset = .error e ↔
        scope.compile conditions (offset + k) = .error e) ∧
      ∀ p, scope.compile conditions offset = .ok p →
        ∃ q, scope.compile conditions (offset + k) = .ok q ∧ q.params = p.params ∧
          q.nextOffset = p.nextOffset + k ∧ Renumbered offset k p.params.length p.sql q.sql ∧
            (Dollarless (Conditions.allKeys conditions) → '$' ∉ scope.qualifier.toList →
              q.sql.toList = shiftPlaceholders k p.sql.toList)) ∧
    ∀ (table : Table) (conditions : Conditions) (row : Row) (f : Fragment),
      table.update conditions row = .ok f → table.MeetsSameRows conditions row f := by
  refine ⟨?_, ?_⟩
  · intro scope conditions offset k
    exact scope.compile_add conditions offset k
  · intro table conditions row f h
    exact meetsSameRows_update h

/-- Orders by their numbers, or by one of their tags. -/
def lateOrders : Conditions :=
  [("or", .group [[("id", .value (.array [.int 1, .null]))], [("tags", .value (.text "late"))]])]

theorem conditions_renumbered_lateOrders :
    orders.scope.compile lateOrders 0 = .ok
        ⟨"((\"id\" IN ($1, NULL)) OR ($2 = ANY(\"tags\")))", [.int 1, .text "late"], 2⟩ ∧
      (∃ q, orders.scope.compile lateOrders 9 = .ok q ∧ q.params = [.int 1, .text "late"] ∧
        q.nextOffset = 11 ∧ q.sql.toList =
          shiftPlaceholders 9 "((\"id\" IN ($1, NULL)) OR ($2 = ANY(\"tags\")))".toList) ∧
      ∃ f, orders.update lateOrders [("note", .null), ("id", .int 7)] = .ok f ∧
        orders.MeetsSameRows lateOrders [("note", .null), ("id", .int 7)] f ∧ f.sql =
          "UPDATE \"shop\".\"orders\" SET \"note\" = NULL, \"id\" = $1 " ++
            "WHERE ((\"id\" IN ($2, NULL)) OR ($3 = ANY(\"tags\")))" := by
  have hcompile : orders.scope.compile lateOrders 0 = .ok
      ⟨"((\"id\" IN ($1, NULL)) OR ($2 = ANY(\"tags\")))", [.int 1, .text "late"], 2⟩ := rfl
  have hupdate : orders.update lateOrders [("note", .null), ("id", .int 7)] = .ok
      ⟨"UPDATE \"shop\".\"orders\" SET \"note\" = NULL, \"id\" = $1 " ++
          "WHERE ((\"id\" IN ($2, NULL)) OR ($3 = ANY(\"tags\")))",
        [.int 7, .int 1, .text "late"]⟩ := rfl
  obtain ⟨hruns, hrows⟩ := conditions_renumbered
  obtain ⟨q, hq, hparams, hnext, -, hshift⟩ := (hruns orders.scope lateOrders 0 9).2 _ hcompile
  exact ⟨hcompile, ⟨q, hq, hparams, hnext, hshift (by decide) (by decide)⟩, _, hupdate,
    hrows _ _ _ _ hupdate, rfl⟩

end SqlFilter.Table

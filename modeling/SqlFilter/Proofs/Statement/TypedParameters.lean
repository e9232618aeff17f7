/-
**The parameters of statements have types.**

A statement binds the values of its rows and those of its conditions.  Of a row, null and empty
lists are left out of the parameters, whatever the values were before they were prepared for their
columns; of conditions, the empty lists among the members of a list are the only values without a
type that are bound.  So an inserting statement has none, and any other statement has those of its
conditions.

Main results:

* `SqlFilter.Table.typedBut_bound`: the parameters that values become;
* `SqlFilter.Table.parameters_typed`: **the parameters of all statements**;
* `SqlFilter.Table.emptyList_mem_params`: a tree that binds an empty list.
-/

import SqlFilter.Proofs.Condition.TypedParameters
import SqlFilter.Proofs.Statement.Alignment

set_option relaxedAutoImplicit false
set_option autoImplicit false

namespace SqlFilter.Table

open Value (bound)

variable {table : Table}

/-- The parameters that values become have types. -/
theorem typedBut_bound (values : List Value) : TypedBut False (bound values) := by
  have hinline : ∀ v : Value, v.isInline = true → v ∉ bound values := by
    intro v hv hmem
    rw [bound, List.mem_filter, hv] at hmem
    cases hmem.2
  exact ⟨hinline _ rfl, iff_of_false (hinline _ rfl) id⟩

/-! ### Statements with conditions -/

theorem typedBut_compileConditions {conditions : Conditions} {offset : Nat}
    {skipUndefined : Option Bool} {p : Predicate}
    (h : table.compileConditions conditions offset skipUndefined = .ok p) :
    TypedBut (table.scope.HasEmptyMember conditions) p.params :=
  Scope.typedBut_compile (compile_of_compileConditions h)

theorem typedBut_select {conditions : Conditions} {options : QueryOptions} {f : Fragment}
    (h : table.select conditions options = .ok f) :
    TypedBut (table.scope.HasEmptyMember conditions) f.params := by
  obtain ⟨fields, predicate, tail, -, hpredicate, -, rfl⟩ := select_eq_ok h
  exact typedBut_compileConditions hpredicate

theorem typedBut_count {conditions : Conditions} {f : Fragment}
    (h : table.count conditions = .ok f) :
    TypedBut (table.scope.HasEmptyMember conditions) f.params := by
  obtain ⟨predicate, hpredicate, rfl⟩ := count_eq_ok h
  exact typedBut_compileConditions hpredicate

theorem typedBut_delete {conditions : Conditions} {f : Fragment}
    (h : table.delete conditions = .ok f) :
    TypedBut (table.scope.HasEmptyMember conditions) f.params := by
  obtain ⟨predicate, hpredicate, rfl⟩ := delete_eq_ok h
  exact typedBut_compileConditions hpredicate

/-- The new values of a row have types, and so have the parameters of the conditions behind them. -/
theorem typedBut_update {conditions : Conditions} {row : Row} {f : Fragment}
    (h : table.update conditions row = .ok f) :
    TypedBut (table.scope.HasEmptyMember conditions) f.params := by
  obtain ⟨items, params, predicate, hitems, hpredicate, rfl⟩ := update_eq_ok h
  obtain ⟨values, -, rfl⟩ := params_assignments hitems
  have hboth := (typedBut_bound values).append (typedBut_compileConditions hpredicate)
  exact hboth.congr (by rw [false_or])

/-! ### Inserting -/

theorem typedBut_insert {row : Row} {f : Fragment} (h : table.insert row = .ok f) :
    TypedBut False f.params := by
  obtain ⟨names, values, -, -, rfl⟩ := insert_eq_ok h
  exact typedBut_bound values

theorem typedBut_insertMany {rows : List Row} {f : Fragment} (h : table.insertMany rows = .ok f) :
    TypedBut False f.params := by
  obtain ⟨first, names, values, -, -, -, rfl⟩ := insertMany_eq_ok h
  exact typedBut_bound values.flatten

/-! ### All statements -/

/-- **The parameters of all statements.**  No parameter is ever null.  An empty list is a parameter
of a compiled tree, and of a statement with conditions, exactly if it is a member of a list that
some entry asks membership of; an inserting statement has no such parameter. -/
theorem parameters_typed (scope : Scope) (table : Table) :
    (∀ conditions offset p, scope.compile conditions offset = .ok p →
      TypedBut (scope.HasEmptyMember conditions) p.params) ∧
    (∀ conditions options f, table.select conditions options = .ok f →
      TypedBut (table.scope.HasEmptyMember conditions) f.params) ∧
    (∀ conditions f, table.count conditions = .ok f →
      TypedBut (table.scope.HasEmptyMember conditions) f.params) ∧
    (∀ conditions row f, table.update conditions row = .ok f →
      TypedBut (table.scope.HasEmptyMember conditions) f.params) ∧
    (∀ conditions f, table.delete conditions = .ok f →
      TypedBut (table.scope.HasEmptyMember conditions) f.params) ∧
    (∀ row f, table.insert row = .ok f → TypedBut False f.params) ∧
    ∀ rows f, table.insertMany rows = .ok f → TypedBut False f.params := by
  refine ⟨?_, ?_, ?_, ?_, ?_, ?_, ?_⟩
  · intro conditions offset p h
    exact Scope.typedBut_compile h
  · intro conditions options f h
    exact typedBut_select h
  · intro conditions f h
    exact typedBut_count h
  · intro conditions row f h
    exact typedBut_update h
  · intro conditions f h
    exact typedBut_delete h
  · intro row f h
    exact typedBut_insert h
  · intro rows f h
    exact typedBut_insertMany h

/-- Null and empty lists of all kinds, none of which is a parameter. -/
theorem parameters_typed_orders :
    (∃ f, orders.insertMany newOrders = .ok f ∧ f.params.length = 4 ∧ TypedBut False f.params) ∧
      ∃ f, orders.update [("id", .value (.array [.int 1, .null, .int 2])), ("note", .value .null)]
          [("note", .null), ("tags", .array [])] = .ok f ∧ f.params = [.int 1, .int 2] ∧
        ¬ orders.scope.HasEmptyMember
          [("id", .value (.array [.int 1, .null, .int 2])), ("note", .value .null)] := by
  have hinsert : orders.insertMany newOrders = .ok
      ⟨"INSERT INTO \"shop\".\"orders\" (\"id\", \"tags\", \"note\") " ++
          "VALUES ($1, '{}', NULL), ($2, $3, $4) RETURNING *",
        [.int 1, .int 2, .array [.text "new"], .json (.string "late")]⟩ :=
    rfl
  have hupdate : orders.update
      [("id", .value (.array [.int 1, .null, .int 2])), ("note", .value .null)]
      [("note", .null), ("tags", .array [])] = .ok
      ⟨"UPDATE \"shop\".\"orders\" SET \"note\" = NULL, \"tags\" = '{}' " ++
          "WHERE \"id\" IN ($1, NULL, $2) AND \"note\" IS NULL",
        [.int 1, .int 2]⟩ :=
    rfl
  obtain ⟨-, -, -, hset, -, -, hmany⟩ := parameters_typed orders.scope orders
  refine ⟨⟨_, hinsert, rfl, hmany _ _ hinsert⟩, _, hupdate, rfl, ?_⟩
  intro hmember
  have hmem := (hset _ _ _ hupdate).empty.2 hmember
  simp at hmem

/-- An empty list among the members of a list is bound. -/
theorem emptyList_mem_params :
    ∃ p, plain.scope.compile [("id", .value (.array [.array [], .bigInt 1]))] 0 = .ok p ∧
      p.sql = "\"id\" IN ($1, $2)" ∧ .array [] ∈ p.params :=
  ⟨⟨"\"id\" IN ($1, $2)", [.array [], .bigInt 1], 2⟩, rfl, rfl, List.mem_cons_self⟩

end SqlFilter.Table

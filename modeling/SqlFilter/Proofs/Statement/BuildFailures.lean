/-
**Why a statement cannot be built.**

Building a statement checks names, options, conditions and values, and each check has errors of its
own.  All of them are found before anything is sent, and every one has to be on the list of the
errors that are told apart by that.  The proof goes through the parts of a statement: each part
fails, if it does, with an error on the list, and so does what is put together from such parts.

Main definitions:

* `SqlFilter.FailsEarly`: a run whose errors are compile errors.

Main results:

* `SqlFilter.Scope.failsEarly_compile`, `SqlFilter.QueryOptions.failsEarly_compileFields`,
  `SqlFilter.QueryOptions.failsEarly_compileTail`: conditions and options;
* `SqlFilter.Table.failsEarly_select`, `SqlFilter.Table.failsEarly_count`,
  `SqlFilter.Table.failsEarly_insert`, `SqlFilter.Table.failsEarly_insertMany`,
  `SqlFilter.Table.failsEarly_update`, `SqlFilter.Table.failsEarly_delete`: **the statements**.
-/

import SqlFilter.Proofs.Condition.Failures
import SqlFilter.Proofs.Statement.UndefinedPolicy
import SqlFilter.Statement.Insert

set_option relaxedAutoImplicit false
set_option autoImplicit false

namespace SqlFilter

/-! ### Runs with compile errors only -/

/-- The run fails, if it does, with a compile error. -/
def FailsEarly {α : Type} (run : Except Error α) : Prop :=
  ∀ e, run = .error e → e.isCompileError = true

namespace FailsEarly

variable {α β : Type} {run : Except Error α}

theorem ok (a : α) : FailsEarly (.ok a) := fun _ h => nomatch h

theorem error {e : Error} (h : e.isCompileError = true) : FailsEarly (.error e : Except Error α) :=
  fun e' he => by
    cases he
    exact h

/-- The error of a part is passed on. -/
theorem of_eq_error (h : FailsEarly run) {e : Error} (he : run = .error e) :
    FailsEarly (.error e : Except Error β) := error (h e he)

theorem map (h : FailsEarly run) (f : α → β) : FailsEarly (run.map f) := by
  cases run with
  | error e => exact h.of_eq_error rfl
  | ok a => exact ok (f a)

theorem bind (h : FailsEarly run) {next : α → Except Error β} (hnext : ∀ a, FailsEarly (next a)) :
    FailsEarly (run.bind next) := by
  cases run with
  | error e => exact h.of_eq_error rfl
  | ok a => exact hnext a

theorem mapAll {f : α → Except Error β} (h : ∀ a, FailsEarly (f a)) (xs : List α) :
    FailsEarly (mapAll f xs) := by
  induction xs with
  | nil => exact ok []
  | cons x xs ih =>
      rw [SqlFilter.mapAll]
      split
      · next he => exact (h x).of_eq_error he
      · split
        · next he => exact ih.of_eq_error he
        · exact ok _

end FailsEarly

/-! ### Conditions and values -/

/-- What a key with its value can raise is found early. -/
theorem Error.ConcernsEntry.isCompileError {e : Error} (h : e.ConcernsEntry) :
    e.isCompileError = true := by
  cases e with
  | invalidConditionKey | unsupportedOperator | emptyArray | invalidValue => rfl
  | _ => exact h.elim

/-- Conditions fail as their first failing entry does, and an entry fails early. -/
theorem Scope.failsEarly_compile (scope : Scope) (conditions : Conditions) (offset : Nat) :
    FailsEarly (scope.compile conditions offset) := by
  intro e he
  have hfirst := failureOf_compile scope conditions offset
  rw [he, failureOf_error] at hfirst
  obtain ⟨⟨key, node⟩, -, hentry⟩ := List.exists_of_findSome?_eq_some hfirst.symm
  cases node with
  | undefined => cases hentry
  | value v =>
      rw [failure?] at hentry
      split at hentry
      · cases hentry
        rfl
      · exact (concernsEntry_of_entry (failureOf_eq_some_iff.1 hentry)).isCompileError
  | group elements =>
      rw [failure?] at hentry
      split at hentry
      · cases hentry
      · cases hentry
        rfl

theorem Value.failsEarly_encode (kind : ColumnKind) (v : Value) : FailsEarly (v.encode kind) := by
  unfold encode
  split
  · exact .ok v
  · cases kind with
    | time => exact fun e he => (concernsEntry_of_toInstant he).isCompileError
    | _ => exact .ok _

/-! ### Names and options -/

theorem Identifier.failsEarly_escape (name : String) : FailsEarly (escape name) := by
  rw [escape]
  split
  · exact .error rfl
  · exact .ok _

theorem Identifier.failsEarly_checkPlain (text : String) : FailsEarly (checkPlain text) := by
  simp only [checkPlain]
  split
  · exact .error rfl
  · split
    · exact .error rfl
    · exact .ok ()

theorem failsEarly_columnReference (column : String) (escape : Bool) :
    FailsEarly (columnReference column escape) := by
  rw [columnReference]
  split
  · exact Identifier.failsEarly_escape column
  · split
    · next he => exact (Identifier.failsEarly_checkPlain column).of_eq_error he
    · exact .ok column

namespace SortItem

theorem failsEarly_ofTarget (cs : List Char) (direction : SortDirection) :
    FailsEarly (ofTarget cs direction) := by
  have htarget : FailsEarly (SortTarget.ofChars (Text.trim cs)) := by
    rw [SortTarget.ofChars]
    split
    · exact .error rfl
    · split
      · exact .ok _
      · exact .ok _
  rw [ofTarget]
  split
  · next he => exact htarget.of_eq_error he
  · exact .ok _

theorem failsEarly_parse (text : String) : FailsEarly (parse text) := by
  rw [parse, ofChars]
  split
  · exact failsEarly_ofTarget _ _
  · exact failsEarly_ofTarget _ _
  · split
    · split
      · exact failsEarly_ofTarget _ _
      · exact failsEarly_ofTarget _ _
    · exact failsEarly_ofTarget _ _

theorem failsEarly_ofPair (pair : String × String) : FailsEarly (ofPair pair) := by
  rw [ofPair]
  split
  · exact failsEarly_ofTarget _ _
  · exact .error rfl

end SortItem

theorem SortTarget.failsEarly_render (target : SortTarget) (escape : Bool) :
    FailsEarly (target.render escape) := by
  cases target with
  | position digits => exact .ok digits
  | column name => exact failsEarly_columnReference name escape

theorem SortItem.failsEarly_render (escape : Bool) (nulls : String) (item : SortItem) :
    FailsEarly (item.render escape nulls) := by
  rw [render]
  split
  · next he => exact (item.target.failsEarly_render escape).of_eq_error he
  · exact .ok _

theorem SortList.failsEarly_items (list : SortList) : FailsEarly list.items := by
  cases list with
  | expression text => exact .mapAll SortItem.failsEarly_parse _
  | columns items => exact .mapAll SortItem.failsEarly_parse items
  | directions pairs distinct => exact .mapAll SortItem.failsEarly_ofPair pairs

theorem failsEarly_groupByClause (list : Option GroupList) (escape : Bool) :
    FailsEarly (groupByClause list escape) := by
  have hitem : ∀ text, FailsEarly (groupItem escape text) := by
    intro text
    rw [groupItem]
    split
    · next he => exact (SortItem.failsEarly_parse text).of_eq_error he
    · exact SortTarget.failsEarly_render _ escape
  cases list with
  | none => exact .ok ""
  | some list => exact (FailsEarly.mapAll hitem list.items).map _

theorem failsEarly_orderByClause (list : Option SortList) (nullsFirst : Option Bool)
    (escape : Bool) : FailsEarly (orderByClause list nullsFirst escape) := by
  cases list with
  | none => exact .ok ""
  | some list =>
      have hitems : FailsEarly (orderItems list nullsFirst escape) := by
        rw [orderItems]
        split
        · next he => exact list.failsEarly_items.of_eq_error he
        · exact .mapAll (SortItem.failsEarly_render escape _) _
      exact hitems.map _

theorem failsEarly_countClause (keyword : String) (count : Option Int64) :
    FailsEarly (countClause keyword count) := by
  cases count with
  | none => exact .ok ""
  | some n =>
      rw [countClause]
      split
      · exact .error rfl
      · exact .ok _

namespace QueryOptions

variable (options : QueryOptions) (escaping : Escaping)

theorem failsEarly_compileFields : FailsEarly (options.compileFields escaping) := by
  have hlist : ∀ escape, FailsEarly (options.selectList escape) := by
    intro escape
    rw [selectList]
    split
    · exact .ok "*"
    · exact .ok "*"
    · exact (FailsEarly.mapAll (fun name => failsEarly_columnReference name escape) _).map _
    · split
      · next he => exact (Identifier.failsEarly_checkPlain _).of_eq_error he
      · exact .ok _
  exact (hlist _).map _

theorem failsEarly_compileTail : FailsEarly (options.compileTail escaping) := by
  simp only [compileTail]
  split
  · next he => exact (failsEarly_groupByClause options.groupBy _).of_eq_error he
  · split
    · next he => exact (failsEarly_orderByClause options.orderBy _ _).of_eq_error he
    · split
      · next he => exact (failsEarly_countClause "LIMIT" options.limit).of_eq_error he
      · split
        · next he => exact (failsEarly_countClause "OFFSET" options.offset).of_eq_error he
        · exact .ok _

end QueryOptions

/-! ### Statements -/

namespace Table

variable (table : Table)

theorem failsEarly_compileConditions (conditions : Conditions) (offset : Nat)
    (skipUndefined : Option Bool) :
    FailsEarly (table.compileConditions conditions offset skipUndefined) := by
  rw [compileConditions]
  split
  · exact .error rfl
  · exact table.scope.failsEarly_compile conditions offset

theorem failsEarly_count (conditions : Conditions) : FailsEarly (table.count conditions) := by
  rw [count_eq_bind]
  exact (table.failsEarly_compileConditions conditions 0 none).bind fun _ => .ok _

theorem failsEarly_delete (conditions : Conditions) : FailsEarly (table.delete conditions) := by
  rw [delete_eq_bind]
  exact (table.failsEarly_compileConditions conditions 0 none).bind fun _ => .ok _

theorem failsEarly_select (conditions : Conditions) (options : QueryOptions) :
    FailsEarly (table.select conditions options) := by
  simp only [select]
  split
  · next he => exact (options.failsEarly_compileFields _).of_eq_error he
  · split
    · next he => exact (table.failsEarly_compileConditions conditions 0 _).of_eq_error he
    · split
      · next he => exact (options.failsEarly_compileTail _).of_eq_error he
      · exact .ok _

theorem failsEarly_insert (row : Row) : FailsEarly (table.insert row) := by
  have hvalues : FailsEarly (table.encodeRow row) :=
    .mapAll (fun pair => pair.2.failsEarly_encode _) row
  rw [insert]
  split
  · exact .error rfl
  · split
    · next he => exact (FailsEarly.mapAll Identifier.failsEarly_escape _).of_eq_error he
    · split
      · next he => exact hvalues.of_eq_error he
      · exact .ok _

/-- A row lacks a column, or one of its values does not go with its column. -/
theorem failsEarly_arrange (index : Nat) (row : Row) (columns : List String) :
    FailsEarly (table.arrange index row columns) := by
  induction columns with
  | nil => exact .ok []
  | cons column columns ih =>
      rw [arrange]
      split
      · exact .error rfl
      · next v _ =>
          split
          · next he => exact (v.failsEarly_encode _).of_eq_error he
          · split
            · next he => exact ih.of_eq_error he
            · exact .ok _

theorem failsEarly_arrangeAll (columns : List String) (index : Nat) (rows : List Row) :
    FailsEarly (table.arrangeAll columns index rows) := by
  induction rows generalizing index with
  | nil => exact .ok []
  | cons row rows ih =>
      rw [arrangeAll]
      split
      · exact .error rfl
      · split
        · next he => exact (table.failsEarly_arrange index row columns).of_eq_error he
        · split
          · next he => exact (ih (index + 1)).of_eq_error he
          · exact .ok _

theorem failsEarly_insertMany (rows : List Row) : FailsEarly (table.insertMany rows) := by
  unfold insertMany
  split
  · exact .error rfl
  · exact .error rfl
  · simp only []
    split
    · next he => exact (FailsEarly.mapAll Identifier.failsEarly_escape _).of_eq_error he
    · split
      · next he => exact (table.failsEarly_arrangeAll _ 0 _).of_eq_error he
      · exact .ok _

theorem failsEarly_assignments (offset : Nat) (row : Row) :
    FailsEarly (table.assignments offset row) := by
  induction row generalizing offset with
  | nil => exact .ok ([], [])
  | cons pair row ih =>
      obtain ⟨column, v⟩ := pair
      rw [assignments]
      split
      · next he => exact (v.failsEarly_encode _).of_eq_error he
      · split
        · next he => exact (Identifier.failsEarly_escape column).of_eq_error he
        · simp only []
          split
          · next he => exact (ih _).of_eq_error he
          · exact .ok _

theorem failsEarly_update (conditions : Conditions) (row : Row) :
    FailsEarly (table.update conditions row) := by
  rw [update]
  split
  · exact .error rfl
  · split
    · next he => exact (table.failsEarly_assignments 0 row).of_eq_error he
    · split
      · next he => exact (table.failsEarly_compileConditions conditions _ none).of_eq_error he
      · exact .ok _

end Table

end SqlFilter

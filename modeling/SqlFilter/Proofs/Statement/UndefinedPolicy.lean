/-
**The policy for entries without a value.**

Under the strict policy a forgotten value must not widen a statement: any entry without a value, at
any depth and also where the tree is wrong in other ways, refuses the statement, and the error names
the first such entry.  Under the other policy, and of a tree without such entries, nothing is to be
seen of them: the result is that of the pruned tree, be it a statement or an error.

Main definitions:

* `SqlFilter.UndefinedPolicy.GovernsRun`: a run on conditions keeps to a policy.

Main results:

* `SqlFilter.Table.governsRun_compileConditions`: the conditions of a statement keep to the policy;
* `SqlFilter.Table.undefinedPolicy_governs`: **every statement with conditions keeps to it**.
-/

import SqlFilter.Proofs.Condition.Pruning
import SqlFilter.Statement.Select
import SqlFilter.Statement.Update

set_option relaxedAutoImplicit false
set_option autoImplicit false

namespace SqlFilter

open Conditions (allEntries pruned undefinedKeys FirstUndefined)

/-! ### Runs on conditions -/

namespace UndefinedPolicy

/-- A run on conditions keeps to a policy: where entries without a value are refused, the first one
is the error, whatever else is wrong; in every other case the run does what it does on the pruned
tree. -/
structure GovernsRun {α : Type} (policy : UndefinedPolicy) (conditions : Conditions)
    (run : Conditions → Except Error α) : Prop where
  refuses : policy = .refuse → (∃ key, (key, Node.undefined) ∈ allEntries conditions) →
    ∃ key, FirstUndefined conditions key ∧ run conditions = .error (.undefinedValue key)
  prunes : ¬(policy = .refuse ∧ ∃ key, (key, Node.undefined) ∈ allEntries conditions) →
    run conditions = run (pruned conditions)

/-- What is done with the result of a run changes nothing. -/
theorem GovernsRun.andThen {α β : Type} {policy : UndefinedPolicy} {conditions : Conditions}
    {run : Conditions → Except Error α} (h : policy.GovernsRun conditions run)
    {next : α → Except Error β} {whole : Conditions → Except Error β}
    (hwhole : ∀ c, whole c = (run c).bind next) : policy.GovernsRun conditions whole := by
  refine ⟨fun hpolicy hsome => ?_, fun hother => ?_⟩
  · obtain ⟨key, hfirst, hrun⟩ := h.refuses hpolicy hsome
    exact ⟨key, hfirst, by rw [hwhole, hrun]; rfl⟩
  · rw [hwhole, hwhole, h.prunes hother]

end UndefinedPolicy

/-! ### Statements -/

namespace Table

variable {table : Table}

/-- Unless the policy refuses an entry, the conditions are compiled. -/
theorem compileConditions_eq_compile {conditions : Conditions} {skipUndefined : Option Bool}
    (h : ¬(table.configuration.undefinedPolicy.resolve skipUndefined = .refuse ∧
      undefinedKeys conditions ≠ [])) (offset : Nat) :
    table.compileConditions conditions offset skipUndefined =
      table.scope.compile conditions offset := by
  rw [compileConditions]
  split
  · next hpolicy hkeys => exact absurd ⟨hpolicy, by simp [hkeys]⟩ h
  · rfl

/-- The conditions of a statement keep to the policy. -/
theorem governsRun_compileConditions (table : Table) (conditions : Conditions) (offset : Nat)
    (skipUndefined : Option Bool) :
    (table.configuration.undefinedPolicy.resolve skipUndefined).GovernsRun conditions
      fun c => table.compileConditions c offset skipUndefined := by
  refine ⟨fun hpolicy hsome => ?_, fun hother => ?_⟩
  · rw [← Conditions.undefinedKeys_ne_nil_iff] at hsome
    obtain ⟨key, keys, hkeys⟩ := List.exists_cons_of_ne_nil hsome
    refine ⟨key, Conditions.firstUndefined_of_undefinedKeys hkeys, ?_⟩
    simp only [compileConditions, hpolicy, hkeys]
  · rw [← Conditions.undefinedKeys_ne_nil_iff] at hother
    -- nothing is left to refuse in the pruned tree, whatever the policy is
    have hpruned : ¬(table.configuration.undefinedPolicy.resolve skipUndefined = .refuse ∧
        undefinedKeys (pruned conditions) ≠ []) := fun h =>
      h.2 (Conditions.undefinedKeys_pruned conditions)
    rw [compileConditions_eq_compile hother, compileConditions_eq_compile hpruned,
      Scope.compile_pruned]

/-! ### Statements behind their conditions -/

theorem count_eq_bind (table : Table) (conditions : Conditions) :
    table.count conditions = (table.compileConditions conditions 0 none).bind fun p =>
      .ok ⟨"SELECT COUNT(*) FROM " ++ table.quotedName ++ p.whereClause, p.params⟩ := by
  rw [count]
  cases table.compileConditions conditions 0 none with
  | error e => rfl
  | ok p => rfl

theorem delete_eq_bind (table : Table) (conditions : Conditions) :
    table.delete conditions = (table.compileConditions conditions 0 none).bind fun p =>
      .ok ⟨"DELETE FROM " ++ table.quotedName ++ p.whereClause, p.params⟩ := by
  rw [delete]
  cases table.compileConditions conditions 0 none with
  | error e => rfl
  | ok p => rfl

theorem select_eq_bind {options : QueryOptions} {fields : String}
    (hfields : options.compileFields table.configuration.escaping = .ok fields)
    (conditions : Conditions) :
    table.select conditions options =
      (table.compileConditions conditions 0 options.skipUndefined).bind fun p =>
        (options.compileTail table.configuration.escaping).bind fun tail =>
          .ok ⟨"SELECT " ++ fields ++ " FROM " ++ table.quotedName ++ p.whereClause ++ tail,
            p.params⟩ := by
  simp only [select, hfields]
  cases table.compileConditions conditions 0 options.skipUndefined with
  | error e => rfl
  | ok p =>
      cases options.compileTail table.configuration.escaping with
      | error e => rfl
      | ok tail => rfl

theorem update_eq_bind {row : Row} (hrow : row ≠ []) {items : List String} {params : List Value}
    (hassigned : table.assignments 0 row = .ok (items, params)) (conditions : Conditions) :
    table.update conditions row =
      (table.compileConditions conditions params.length none).bind fun p =>
        .ok ⟨"UPDATE " ++ table.quotedName ++ " SET " ++ ", ".intercalate items ++ p.whereClause,
          params ++ p.params⟩ := by
  rw [update, if_neg hrow, hassigned]
  simp only []
  cases table.compileConditions conditions params.length none with
  | error e => rfl
  | ok p => rfl

/-- **Every statement with conditions keeps to the policy**: counting and removing always, selecting
once its list of fields compiles, changing once its new values do. -/
theorem undefinedPolicy_governs (table : Table) (conditions : Conditions) :
    (∀ offset skipUndefined,
      (table.configuration.undefinedPolicy.resolve skipUndefined).GovernsRun conditions
        fun c => table.compileConditions c offset skipUndefined) ∧
    (table.configuration.undefinedPolicy.resolve none).GovernsRun conditions table.count ∧
    (table.configuration.undefinedPolicy.resolve none).GovernsRun conditions table.delete ∧
    (∀ (options : QueryOptions) (fields : String),
      options.compileFields table.configuration.escaping = .ok fields →
        (table.configuration.undefinedPolicy.resolve options.skipUndefined).GovernsRun conditions
          fun c => table.select c options) ∧
    ∀ (row : Row) (items : List String) (params : List Value), row ≠ [] →
      table.assignments 0 row = .ok (items, params) →
        (table.configuration.undefinedPolicy.resolve none).GovernsRun conditions
          fun c => table.update c row := by
  have hgoverns := governsRun_compileConditions table conditions
  refine ⟨hgoverns, ?_, ?_, ?_, ?_⟩
  · exact (hgoverns 0 none).andThen table.count_eq_bind
  · exact (hgoverns 0 none).andThen table.delete_eq_bind
  · intro options fields hfields
    exact (hgoverns 0 options.skipUndefined).andThen (select_eq_bind hfields)
  · intro row items params hrow hassigned
    exact (hgoverns params.length none).andThen (update_eq_bind hrow hassigned)

/-- Accounts, of which no value may be forgotten. -/
def accounts : Table := ⟨"accounts", .empty, .strict⟩

/-- A condition without an operator for its value, a group that is out of place, and a missing value
inside that group and behind it. -/
def halfFilled : Conditions :=
  [("name like", .value .null), ("owner", .group [[("id", .value (.int 1)), ("key", .undefined)]]),
    ("id", .undefined)]

/-- The first missing value is the error where none may be missing; elsewhere the group is. -/
theorem undefinedPolicy_governs_halfFilled :
    accounts.assignments 0 [("open", .bool true)] = .ok (["\"open\" = $1"], [.bool true]) ∧
      (∃ key, (key, Node.undefined) ∈ allEntries halfFilled) ∧
        (FirstUndefined halfFilled "key" ∧
          accounts.update halfFilled [("open", .bool true)] = .error (.undefinedValue "key")) ∧
          accounts.compileConditions halfFilled 0 (some true) =
            accounts.compileConditions (pruned halfFilled) 0 (some true) := by
  have hassigned : accounts.assignments 0 [("open", .bool true)] =
      .ok (["\"open\" = $1"], [.bool true]) := rfl
  have hmissing : ∃ key, (key, Node.undefined) ∈ allEntries halfFilled :=
    ⟨"id", by simp [halfFilled, allEntries, Conditions.entriesAt]⟩
  obtain ⟨hconditions, -, -, -, hupdate⟩ := undefinedPolicy_governs accounts halfFilled
  have hrun : accounts.update halfFilled [("open", .bool true)] = .error (.undefinedValue "key") :=
    rfl
  obtain ⟨key, hfirst, herror⟩ := (hupdate _ _ _ (by simp) hassigned).refuses rfl hmissing
  cases hrun.symm.trans herror
  exact ⟨hassigned, hmissing, ⟨hfirst, hrun⟩,
    (hconditions 0 (some true)).prunes fun h => nomatch h.1⟩

end Table

end SqlFilter

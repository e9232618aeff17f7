/-
**What a compiled tree is made from.**

A tree compiles exactly when its parts do, each behind the parameters of the ones in front of it,
and its text and parameters are put together from theirs.  One lemma for each form of a tree says
so, in both directions; proofs about compiled trees take results apart with these and leave the
compiler itself closed.

Main results:

* `SqlFilter.Scope.compile_eq_ok_iff`: a compiled tree is its predicates, joined;
* `SqlFilter.Scope.predicates_cons_eq_ok_iff`, `SqlFilter.Scope.group_cons_eq_ok_iff`: entries and
  elements stand one behind the other;
* `SqlFilter.Scope.node_value_eq_ok_iff`, `SqlFilter.Scope.node_group_eq_ok_iff`: the predicate of
  an entry;
* `SqlFilter.Scope.entry_eq_ok_iff`: the predicate of a key and a value.
-/

import SqlFilter.Condition.Predicate

set_option relaxedAutoImplicit false
set_option autoImplicit false

namespace SqlFilter.Scope

variable {scope : Scope} {offset : Nat}

/-! ### One entry -/

theorem members_cons_of_null {kind : ColumnKind} {v : Value} {vs : List Value}
    (hnull : v.isNull = true) {r : List String × List Value} :
    members kind offset (v :: vs) = .ok r ↔
      ∃ a, members kind offset vs = .ok a ∧ r = ("NULL" :: a.1, a.2) := by
  simp only [members, hnull, if_true]
  cases members kind offset vs with
  | error e => simp
  | ok a => simp [eq_comm]

theorem members_cons_of_not_null {kind : ColumnKind} {v : Value} {vs : List Value}
    (hnull : v.isNull = false) {r : List String × List Value} :
    members kind offset (v :: vs) = .ok r ↔
      ∃ member a, memberValue kind v = .ok member ∧ members kind (offset + 1) vs = .ok a ∧
        r = (placeholder offset :: a.1, member :: a.2) := by
  simp only [members, hnull, Bool.false_eq_true, if_false]
  cases memberValue kind v with
  | error e => simp
  | ok member =>
      cases members kind (offset + 1) vs with
      | error e => simp
      | ok a => simp [eq_comm]

theorem membership_eq_ok_iff {key : Key} {kind : ColumnKind} {values : List Value}
    {f : Fragment} :
    membership key kind offset values = .ok f ↔
      values ≠ [] ∧ ∃ a, members kind offset values = .ok a ∧
        f = ⟨key.reference ++ " " ++ (if key.comparison = .equal then "IN" else "NOT IN") ++ " (" ++
          ", ".intercalate a.1 ++ ")", a.2⟩ := by
  rw [membership]
  by_cases h : values = []
  · simp [h]
  · rw [if_neg h]
    cases members kind offset values with
    | error e => simp
    | ok a => simp [h, eq_comm]

theorem entry_eq_ok_iff {raw : String} {v : Value} {f : Fragment} :
    scope.entry raw offset v = .ok f ↔
      ∃ key, Key.parse raw = .ok key ∧ scope.keyed key offset v = .ok f := by
  rw [entry]
  cases Key.parse raw with
  | error e => simp
  | ok key => simp

/-! ### Trees -/

theorem node_undefined {key : String} :
    scope.node key offset .undefined = .ok ([], []) := by rw [node]

theorem node_value_eq_ok_iff {key : String} {v : Value} {r : List String × List Value} :
    scope.node key offset (.value v) = .ok r ↔
      isGroupKey key = false ∧
        ∃ f, scope.entry key offset v = .ok f ∧ r = ([f.sql], f.params) := by
  rw [node]
  by_cases h : isGroupKey key = true
  · simp [h]
  · rw [if_neg h]
    cases scope.entry key offset v with
    | error e => simp
    | ok f => simp [h, eq_comm]

/-- A group with elements gives one predicate, one without gives none. -/
theorem node_group_eq_ok_iff {key : String} {elements : List (List (String × Node))}
    {r : List String × List Value} :
    scope.node key offset (.group elements) = .ok r ↔
      isGroupKey key = true ∧ ∃ a, scope.group offset elements = .ok a ∧
        r = if a.1 = [] then ([], []) else (["(" ++ (joiner key).intercalate a.1 ++ ")"], a.2) := by
  rw [node]
  by_cases h : isGroupKey key = true
  · rw [if_pos h]
    cases scope.group offset elements with
    | error e => simp
    | ok a =>
        by_cases ha : a.1 = []
        · simp [h, ha, eq_comm]
        · simp [h, ha, eq_comm]
  · simp [h]

theorem predicates_cons_eq_ok_iff {key : String} {value : Node} {entries : List (String × Node)}
    {r : List String × List Value} :
    scope.predicates offset ((key, value) :: entries) = .ok r ↔
      ∃ a b, scope.node key offset value = .ok a ∧
        scope.predicates (offset + a.2.length) entries = .ok b ∧
          r = (a.1 ++ b.1, a.2 ++ b.2) := by
  rw [predicates_cons]
  cases scope.node key offset value with
  | error e => simp
  | ok a =>
      simp only []
      cases hb : scope.predicates (offset + a.2.length) entries with
      | error e => simp [hb]
      | ok b =>
          constructor
          · intro h
            cases h
            exact ⟨a, b, rfl, hb, rfl⟩
          · rintro ⟨a', b', ha', hb', rfl⟩
            cases ha'
            cases hb.symm.trans hb'
            rfl

theorem group_nil : scope.group offset [] = .ok ([], []) := by rw [group]

theorem group_cons_eq_ok_iff {element : List (String × Node)}
    {elements : List (List (String × Node))} {r : List String × List Value} :
    scope.group offset (element :: elements) = .ok r ↔
      ∃ a b, scope.predicates offset element = .ok a ∧
        scope.group (offset + a.2.length) elements = .ok b ∧
          r = (elementSql a.1 :: b.1, a.2 ++ b.2) := by
  rw [group]
  cases scope.predicates offset element with
  | error e => simp
  | ok a =>
      simp only []
      cases hb : scope.group (offset + a.2.length) elements with
      | error e => simp [hb]
      | ok b =>
          constructor
          · intro h
            cases h
            exact ⟨a, b, rfl, hb, rfl⟩
          · rintro ⟨a', b', ha', hb', rfl⟩
            cases ha'
            cases hb.symm.trans hb'
            rfl

theorem compile_eq_ok_iff {conditions : Conditions} {p : Predicate} :
    scope.compile conditions offset = .ok p ↔
      ∃ a, scope.predicates offset conditions = .ok a ∧
        p = ⟨" AND ".intercalate a.1, a.2, offset + a.2.length⟩ := by
  rw [compile]
  cases scope.predicates offset conditions with
  | error e => simp
  | ok a => simp [eq_comm]

end SqlFilter.Scope

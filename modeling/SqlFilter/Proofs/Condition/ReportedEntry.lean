/-
**What a failure reports.**

Two errors of a condition tree name the field of an entry: the operator means nothing for the column
and the value, or the list of values is empty.  Which operators mean something is a matter of the
kind of the column and the shape of the value, and it is given here by one table of operators for
each of the cases.  A tree fails with one of the two errors exactly when its first failing entry,
depth first and in document order, is not in the table, or compares a column with an empty list; and
the error reports that entry: its field, its operator and the shape of its value.  It also reports
the kind of the column, except for null, where every column is reported as a plain one.

Main definitions:

* `SqlFilter.Key.Applies`: the operator of a key means something for a kind and a shape;
* `SqlFilter.Scope.FirstFailing`: the first failing entry of a tree;
* `SqlFilter.Scope.ReportsOperator`, `SqlFilter.Scope.ReportsEmptyList`: what the errors report.

Main results:

* `SqlFilter.Scope.compile_eq_error_iff`: the error of a tree is that of its first failing entry;
* `SqlFilter.Scope.keyed_eq_unsupported_iff`, `SqlFilter.Scope.keyed_eq_emptyArray_iff`: exactly
  when a key and a value raise the errors;
* `SqlFilter.Scope.compile_reports`: **the errors report the first failing entry**;
* `SqlFilter.Scope.not_reports_kindOf_null`: the kind that is reported for null is not that of the
  column.
-/

import SqlFilter.Proofs.Condition.Failures

set_option relaxedAutoImplicit false
set_option autoImplicit false

namespace SqlFilter

/-! ### What operators apply to -/

namespace Comparison

/-- The operators that compare with null. -/
def onNull : List Comparison := [.equal, .notEqual, .bangEqual, .isNot, .distinct, .notDistinct]

/-- The operators that compare a column of a kind with a list. -/
def onList : ColumnKind → List Comparison
  | .json => [.hasAnyKey, .hasAllKeys, .contains, .containedIn, .overlaps]
  | .array =>
      [.equal, .notEqual, .bangEqual, .less, .greater, .lessEqual, .greaterEqual, .contains,
        .containedIn, .overlaps]
  | .scalar | .time | .searchVector =>
      [.equal, .notEqual, .bangEqual, .like, .caselessLike, .similar, .regex, .caselessRegex,
        .notLike, .notCaselessLike, .notSimilar, .notRegex, .notCaselessRegex]

/-- The operators that compare the elements of an array with a single value. -/
def onElements : List Comparison :=
  [.equal, .notEqual, .bangEqual, .like, .caselessLike, .notLike, .notCaselessLike, .similar,
    .notSimilar]

theorem mem_onNull_iff (op : Comparison) : op ∈ onNull ↔ op.nullSql? ≠ none := by
  cases op <;> decide

theorem mem_onList_json_iff (op : Comparison) :
    op ∈ onList .json ↔ op.isKeyQuestion = true ∨ op.isSetRelation = true := by
  cases op <;> decide

theorem mem_onList_array_iff (op : Comparison) :
    op ∈ onList .array ↔ (op.isEquality || op.isOrder || op.isSetRelation) = true := by
  cases op <;> decide

theorem mem_onList_scalar_iff (op : Comparison) :
    op ∈ onList .scalar ↔ op.isEquality = true ∨ op.quantifier? ≠ none := by
  cases op <;> decide

theorem mem_onElements_iff (op : Comparison) :
    op ∈ onElements ↔ op.isEquality = true ∨ op.isWildcard = true := by
  cases op <;> decide

end Comparison

/-- The operator of a key means something for a column of a kind and a value of a shape.  Any value
but null and lists can be compared with any column but arrays; and an array has no lower case. -/
def Key.Applies (key : Key) (kind : ColumnKind) : ValueShape → Prop
  | .null => key.comparison ∈ Comparison.onNull
  | .array => key.comparison ∈ Comparison.onList kind ∧ (kind = .array → key.lowersField = false)
  | .scalar => kind = .array → key.comparison ∈ Comparison.onElements ∧ key.lowersField = false

/-- The kinds of columns with single values: a list is compared with them member by member. -/
def ColumnKind.single : List ColumnKind := [.scalar, .time, .searchVector]

theorem ColumnKind.eq_json_or_array_or_single (kind : ColumnKind) :
    kind = .json ∨ kind = .array ∨ kind ∈ single := by
  cases kind <;> decide

theorem Key.applies_array_iff {key : Key} {kind : ColumnKind} (hkind : kind ∈ ColumnKind.single) :
    key.Applies kind .array ↔
      key.comparison.isEquality = true ∨ key.comparison.quantifier? ≠ none := by
  rw [← Comparison.mem_onList_scalar_iff]
  cases kind with
  | scalar | time | searchVector => exact ⟨And.left, fun h => ⟨h, nofun⟩⟩
  | array | json => exact absurd hkind (by decide)

theorem Key.parse_eq_error {raw : String} {e : Error} (h : Key.parse raw = .error e) :
    e = .invalidConditionKey raw := by
  rw [Key.parse] at h
  split at h
  · cases h
  · cases h
    rfl

/-- The errors that report the field of an entry. -/
def Error.HasField : Error → Prop
  | .unsupportedOperator _ _ _ _ | .emptyArray _ => True
  | _ => False

/-! ### The error of a key and a value -/

namespace Scope

variable {scope : Scope} {offset : Nat} {key : Key} {kind reported : ColumnKind}
  {shape : ValueShape} {field operator : String}

theorem nullPredicate_eq_error_iff {e : Error} :
    nullPredicate key = .error e ↔
      ¬key.Applies kind .null ∧ unsupported key .scalar .null = e := by
  rw [Key.Applies, Comparison.mem_onNull_iff, nullPredicate]
  cases key.comparison.nullSql? with
  | none => simp
  | some sql => simp

/-- On columns of single values an operator of equality asks for membership, a pattern operator goes
through the list, and no other operator means anything. -/
theorem listPredicate_of_single (hkind : kind ∈ ColumnKind.single) (values : List Value) :
    listPredicate key kind offset values =
      if key.comparison.isEquality then membership key kind offset values
      else
        match key.comparison.quantifier? with
        | some quantifier =>
            let operand := Fragment.bindList offset values
            .ok (binary key ⟨quantifier.sql ++ "(" ++ operand.sql ++ ")", operand.params⟩)
        | none => .error (unsupported key kind .array) := by
  cases kind with
  | scalar | time | searchVector => rfl
  | array | json => exact absurd hkind (by decide)

theorem membership_ne_unsupported {values : List Value} :
    membership key kind offset values ≠
      .error (.unsupportedOperator field operator reported shape) := by
  intro h
  rcases membership_eq_error h with ⟨-, he⟩ | ⟨-, detail, he⟩
  · cases he
  · cases he

theorem listPredicate_eq_unsupported_iff {values : List Value} :
    listPredicate key kind offset values =
        .error (.unsupportedOperator field operator reported shape) ↔
      ¬key.Applies kind .array ∧
        unsupported key kind .array = .unsupportedOperator field operator reported shape := by
  rcases kind.eq_json_or_array_or_single with rfl | rfl | hsingle
  · rw [Key.Applies, Comparison.mem_onList_json_iff, listPredicate]
    cases hkeys : key.comparison.isKeyQuestion with
    | true => simp
    | false =>
        cases hset : key.comparison.isSetRelation with
        | true => simp
        | false => simp
  · rw [Key.Applies, Comparison.mem_onList_array_iff, listPredicate]
    cases hlowers : key.lowersField with
    | true => simp
    | false =>
        cases hop : key.comparison.isEquality || key.comparison.isOrder ||
            key.comparison.isSetRelation with
        | true => simp
        | false => simp
  · rw [Key.applies_array_iff hsingle, listPredicate_of_single hsingle]
    cases hequality : key.comparison.isEquality with
    | true => simp [membership_ne_unsupported]
    | false =>
        cases hquantifier : key.comparison.quantifier? with
        | some quantifier => simp
        | none => simp

/-- Only a membership list has to have elements. -/
theorem listPredicate_eq_emptyArray_iff {values : List Value} :
    listPredicate key kind offset values = .error (.emptyArray field) ↔
      values = [] ∧ kind ∈ ColumnKind.single ∧ key.comparison.isEquality = true ∧
        field = key.field := by
  rcases kind.eq_json_or_array_or_single with rfl | rfl | hsingle
  · have hnot : ColumnKind.json ∉ ColumnKind.single := by decide
    rw [listPredicate]
    split
    · simp [hnot]
    · split
      · simp [hnot]
      · simp [hnot, unsupported]
  · have hnot : ColumnKind.array ∉ ColumnKind.single := by decide
    rw [listPredicate]
    split
    · simp [hnot]
    · simp [hnot, unsupported]
  · rw [listPredicate_of_single hsingle]
    cases hequality : key.comparison.isEquality with
    | true =>
        simp only [if_true, hsingle, true_and]
        constructor
        · intro h
          rcases membership_eq_error h with ⟨hempty, he⟩ | ⟨-, detail, he⟩
          · cases he
            exact ⟨hempty, rfl⟩
          · cases he
        · rintro ⟨rfl, rfl⟩
          rfl
    | false =>
        cases key.comparison.quantifier? with
        | some quantifier => simp
        | none => simp [unsupported]

/-- A value that is neither null nor a list is refused on arrays alone, or it is invalid. -/
theorem scalarPredicate_eq_error {v : Value} {e : Error}
    (h : scope.scalarPredicate key kind offset v = .error e) :
    (¬key.Applies kind .scalar ∧ unsupported key kind .scalar = e) ∨
      ∃ detail, e = .invalidValue detail := by
  cases kind with
  | array =>
      rw [Key.Applies, Comparison.mem_onElements_iff]
      rw [scalarPredicate] at h
      split at h
      · next hlowers =>
          cases h
          exact .inl ⟨by simp [hlowers], rfl⟩
      · split at h
        · cases h
        · next hequality =>
            split at h
            · cases h
            · next hwildcard =>
                cases h
                exact .inl ⟨by simp [hequality, hwildcard], rfl⟩
  | time =>
      rw [scalarPredicate] at h
      split at h
      · next e' he =>
          cases h
          exact .inr (Value.isUndatable_of_toInstant he).1
      · cases h
  | scalar | json | searchVector => cases h

theorem scalarPredicate_eq_unsupported_iff {v : Value} :
    scope.scalarPredicate key kind offset v =
        .error (.unsupportedOperator field operator reported shape) ↔
      ¬key.Applies kind .scalar ∧
        unsupported key kind .scalar = .unsupportedOperator field operator reported shape := by
  constructor
  · intro h
    rcases scalarPredicate_eq_error h with hrefused | ⟨detail, he⟩
    · exact hrefused
    · cases he
  · rintro ⟨hnot, he⟩
    rw [← he]
    obtain rfl : kind = .array := by
      by_contra hother
      exact hnot fun harray => absurd harray hother
    rw [Key.Applies, Comparison.mem_onElements_iff] at hnot
    rw [scalarPredicate]
    cases hlowers : key.lowersField with
    | true => simp
    | false =>
        obtain ⟨hequality, hwildcard⟩ : key.comparison.isEquality = false ∧
            key.comparison.isWildcard = false := by simpa [hlowers] using hnot
        simp [hequality, hwildcard]

/-- A key and a value are compared as the shape of the adjusted value says. -/
theorem keyed_cases (scope : Scope) (key : Key) (offset : Nat) (v : Value) :
    (adjusted key v = .null ∧ scope.keyed key offset v = nullPredicate key) ∨
    (∃ values, adjusted key v = .array values ∧
      scope.keyed key offset v = listPredicate key (scope.kindOf key.field) offset values) ∨
    ((adjusted key v).shape = .scalar ∧ scope.keyed key offset v =
      scope.scalarPredicate key (scope.kindOf key.field) offset (adjusted key v)) := by
  rw [keyed]
  cases hv : adjusted key v with
  | null => exact .inl ⟨rfl, rfl⟩
  | array values => exact .inr (.inl ⟨values, rfl, rfl⟩)
  | _ => exact .inr (.inr ⟨rfl, rfl⟩)

/-! ### What is reported -/

/-- What the error for an operator says of a key and a value. -/
structure ReportsOperator (scope : Scope) (key : Key) (v : Value) (field operator : String)
    (kind : ColumnKind) (shape : ValueShape) : Prop where
  field_eq : field = key.field
  operator_eq : operator = key.comparison.sql
  /-- The value is looked at as the operator compares it. -/
  shape_eq : shape = (adjusted key v).shape
  /-- For null every column is reported as a plain one. -/
  kind_eq : kind = if shape = .null then .scalar else scope.kindOf key.field
  not_applies : ¬key.Applies (scope.kindOf key.field) shape

/-- What the error for an empty list says of a key and a value. -/
structure ReportsEmptyList (scope : Scope) (key : Key) (v : Value) (field : String) : Prop where
  field_eq : field = key.field
  value_eq : v = .array []
  isEquality : key.comparison.isEquality = true
  kind_mem : scope.kindOf key.field ∈ ColumnKind.single

theorem adjusted_eq_array_nil_iff {v : Value} : adjusted key v = .array [] ↔ v = .array [] := by
  rw [adjusted]
  cases key.adjustment with
  | none => exact Iff.rfl
  | some adjustment =>
      cases v with
      | array values => simp
      | _ => cases adjustment <;> simp [ValueAdjustment.apply]

theorem reportsOperator_iff {v : Value} :
    scope.ReportsOperator key v field operator reported shape ↔
      ¬key.Applies (scope.kindOf key.field) (adjusted key v).shape ∧
        unsupported key
            (if (adjusted key v).shape = .null then .scalar else scope.kindOf key.field)
            (adjusted key v).shape =
          .unsupportedOperator field operator reported shape := by
  constructor
  · rintro ⟨rfl, rfl, rfl, rfl, hnot⟩
    exact ⟨hnot, rfl⟩
  · rintro ⟨hnot, he⟩
    cases he
    exact ⟨rfl, rfl, rfl, rfl, hnot⟩

/-- Exactly when a key and a value raise the error for an operator. -/
theorem keyed_eq_unsupported_iff {v : Value} :
    scope.keyed key offset v = .error (.unsupportedOperator field operator reported shape) ↔
      scope.ReportsOperator key v field operator reported shape := by
  rw [reportsOperator_iff]
  rcases scope.keyed_cases key offset v with ⟨hv, h⟩ | ⟨values, hv, h⟩ | ⟨hshape, h⟩
  · rw [h, hv, nullPredicate_eq_error_iff]
    rfl
  · rw [h, hv, listPredicate_eq_unsupported_iff]
    rfl
  · rw [h, hshape, scalarPredicate_eq_unsupported_iff]
    rfl

/-- Exactly when a key and a value raise the error for an empty list. -/
theorem keyed_eq_emptyArray_iff {v : Value} :
    scope.keyed key offset v = .error (.emptyArray field) ↔
      scope.ReportsEmptyList key v field := by
  have hreports : scope.ReportsEmptyList key v field ↔
      adjusted key v = .array [] ∧ scope.kindOf key.field ∈ ColumnKind.single ∧
        key.comparison.isEquality = true ∧ field = key.field := by
    rw [adjusted_eq_array_nil_iff]
    exact ⟨fun h => ⟨h.value_eq, h.kind_mem, h.isEquality, h.field_eq⟩,
      fun ⟨hv, hkind, hop, hfield⟩ => ⟨hfield, hv, hop, hkind⟩⟩
  rw [hreports]
  rcases scope.keyed_cases key offset v with ⟨hv, h⟩ | ⟨values, hv, h⟩ | ⟨hshape, h⟩
  · rw [h, hv]
    constructor
    · intro herror
      have hrefused : ¬key.Applies .scalar .null ∧ unsupported key .scalar .null = _ :=
        nullPredicate_eq_error_iff.1 herror
      cases hrefused.2
    · rintro ⟨hlist, -⟩
      cases hlist
  · rw [h, hv, listPredicate_eq_emptyArray_iff, Value.array.injEq]
  · have hne : adjusted key v ≠ .array [] := by
      intro hv
      rw [hv] at hshape
      cases hshape
    rw [h, iff_false_right fun hall => hne hall.1]
    intro herror
    rcases scalarPredicate_eq_error herror with ⟨-, he⟩ | ⟨detail, he⟩
    · cases he
    · cases he

/-! ### The first failing entry -/

/-- An entry is the first failing one of a tree, depth first and in document order. -/
structure FirstFailing (scope : Scope) (conditions : Conditions) (entry : String × Node) :
    Prop where
  fails : scope.failure? entry ≠ none
  first : ∃ front back, Conditions.allEntries conditions = front ++ entry :: back ∧
    ∀ earlier ∈ front, scope.failure? earlier = none

/-- The error of a tree is that of its first failing entry. -/
theorem compile_eq_error_iff {conditions : Conditions} {e : Error} :
    scope.compile conditions offset = .error e ↔
      ∃ entry, scope.FirstFailing conditions entry ∧ scope.failure? entry = some e := by
  rw [← failureOf_eq_some_iff, failureOf_compile, List.findSome?_eq_some_iff]
  constructor
  · rintro ⟨front, entry, back, hsplit, he, hfront⟩
    exact ⟨entry, ⟨by simp [he], front, back, hsplit, hfront⟩, he⟩
  · rintro ⟨entry, ⟨-, front, back, hsplit, hfront⟩, he⟩
    exact ⟨front, entry, back, hsplit, he, hfront⟩

/-- An error with a field is raised by a key and a value, under a key that joins no group. -/
theorem failure?_eq_some_iff {entry : String × Node} {e : Error} (he : e.HasField) :
    scope.failure? entry = some e ↔
      ∃ raw v key, entry = (raw, .value v) ∧ isGroupKey raw = false ∧ Key.parse raw = .ok key ∧
        scope.keyed key 0 v = .error e := by
  constructor
  · intro h
    obtain ⟨raw, node⟩ := entry
    cases node with
    | undefined => cases h
    | group elements =>
        rw [failure?] at h
        split at h
        · cases h
        · cases h
          exact he.elim
    | value v =>
        rw [failure?] at h
        split at h
        · cases h
          exact he.elim
        · next hkey =>
            rw [failureOf_eq_some_iff, Scope.entry] at h
            cases hparse : Key.parse raw with
            | error e' =>
                rw [hparse] at h
                cases h
                cases Key.parse_eq_error hparse
                exact he.elim
            | ok key =>
                rw [hparse] at h
                exact ⟨raw, v, key, rfl, by simpa using hkey, hparse, h⟩
  · rintro ⟨raw, v, key, rfl, hkey, hparse, h⟩
    have hentry : scope.entry raw 0 v = .error e := by
      rw [Scope.entry, hparse]
      exact h
    rw [failure?, hkey, hentry]
    rfl

/-- **The errors report the first failing entry.**  A tree fails for an operator exactly when the
operator of its first failing entry means nothing for the column and the value, and for an empty
list exactly when its first failing entry asks a column of single values to be equal to one of no
values, or to none; and the errors report this entry. -/
theorem compile_reports (scope : Scope) (conditions : Conditions) (offset : Nat) :
    (∀ field operator kind shape,
      scope.compile conditions offset =
          .error (.unsupportedOperator field operator kind shape) ↔
        ∃ raw v key, scope.FirstFailing conditions (raw, .value v) ∧ isGroupKey raw = false ∧
          Key.parse raw = .ok key ∧ scope.ReportsOperator key v field operator kind shape) ∧
    ∀ field,
      scope.compile conditions offset = .error (.emptyArray field) ↔
        ∃ raw v key, scope.FirstFailing conditions (raw, .value v) ∧ isGroupKey raw = false ∧
          Key.parse raw = .ok key ∧ scope.ReportsEmptyList key v field := by
  -- an error with a field is that of a key and a value at the first failing entry
  have hcompile : ∀ e : Error, e.HasField → (scope.compile conditions offset = .error e ↔
      ∃ raw v key, scope.FirstFailing conditions (raw, .value v) ∧ isGroupKey raw = false ∧
        Key.parse raw = .ok key ∧ scope.keyed key 0 v = .error e) := by
    intro e he
    rw [compile_eq_error_iff]
    constructor
    · rintro ⟨entry, hfirst, hfailure⟩
      obtain ⟨raw, v, key, rfl, hkey, hparse, h⟩ := (failure?_eq_some_iff he).1 hfailure
      exact ⟨raw, v, key, hfirst, hkey, hparse, h⟩
    · rintro ⟨raw, v, key, hfirst, hkey, hparse, h⟩
      exact ⟨_, hfirst, (failure?_eq_some_iff he).2 ⟨raw, v, key, rfl, hkey, hparse, h⟩⟩
  constructor
  · intro field operator kind shape
    simp only [hcompile (.unsupportedOperator field operator kind shape) trivial,
      keyed_eq_unsupported_iff]
  · intro field
    simp only [hcompile (.emptyArray field) trivial, keyed_eq_emptyArray_iff]

/-- **The kind that is reported for null is not that of the column**: the report of a column of
documents calls it a plain one. -/
theorem not_reports_kindOf_null :
    ¬∀ (kinds : ColumnKinds) conditions offset field operator kind shape,
      Scope.compile ⟨kinds.kindOf, ""⟩ conditions offset =
          .error (.unsupportedOperator field operator kind shape) →
        ∃ raw v key, Scope.FirstFailing ⟨kinds.kindOf, ""⟩ conditions (raw, .value v) ∧
          Key.parse raw = .ok key ∧ field = key.field ∧ kind = kinds.kindOf key.field := by
  intro h
  obtain ⟨-, -, key, -, -, hfield, hkind⟩ := h (.ofList [("data", .json)])
    [("data >", .value .null)] 0 "data" ">" .scalar .null rfl
  rw [← hfield] at hkind
  exact absurd hkind (by decide)

end Scope

end SqlFilter

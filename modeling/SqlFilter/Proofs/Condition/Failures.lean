/-
**Where a tree fails.**

The compiler walks through a tree and stops at the first entry that fails.  Whether an entry fails
can be said of the entry alone: it has a value under a key that joins a group, or a group under any
other key, or a value that its own key and column do not go with.  How many parameters stand in
front of the entry does not matter, nor do its neighbours.  So the failure of a tree is that of the
first failing entry, depth first and in document order.

Main definitions:

* `SqlFilter.failureOf`: the error of a run, if it fails;
* `SqlFilter.Scope.failure?`: what is wrong with an entry by itself;
* `SqlFilter.Error.ConcernsEntry`: the errors that a key with its value can raise.

Main results:

* `SqlFilter.Scope.failureOf_compile`: **a tree fails as its first failing entry does**;
* `SqlFilter.Scope.concernsEntry_of_entry`: what a key with its value can raise.
-/

import SqlFilter.Proofs.Condition.Inversion
import SqlFilter.Proofs.Condition.Uniform
import SqlFilter.Proofs.Value.DatedValue

set_option relaxedAutoImplicit false
set_option autoImplicit false

namespace SqlFilter

/-- The error of a run, if it fails. -/
def failureOf {α : Type} : Except Error α → Option Error
  | .error e => some e
  | .ok _ => none

@[simp] theorem failureOf_error {α : Type} (e : Error) :
    failureOf (.error e : Except Error α) = some e := rfl

@[simp] theorem failureOf_ok {α : Type} (a : α) : failureOf (.ok a) = none := rfl

theorem failureOf_eq_some_iff {α : Type} {result : Except Error α} {e : Error} :
    failureOf result = some e ↔ result = .error e := by
  cases result <;> simp [failureOf]

/-! ### What a key with its value can raise -/

/-- The errors that a key with its value can raise: the key cannot be read, its operator does not go
with the column or the value, a list is empty, or a value is no point in time. -/
def Error.ConcernsEntry : Error → Prop
  | .invalidConditionKey _ | .unsupportedOperator _ _ _ _ | .emptyArray _ | .invalidValue _ => True
  | _ => False

theorem Value.concernsEntry_of_toInstant {v : Value} {e : Error} (h : v.toInstant = .error e) :
    e.ConcernsEntry := by
  obtain ⟨⟨detail, rfl⟩, -⟩ := isUndatable_of_toInstant h
  trivial

namespace Scope

variable {scope : Scope} {offset : Nat} {e : Error}

/-- The elements of a membership list can only be invalid. -/
theorem invalidValue_of_members {kind : ColumnKind} {values : List Value}
    (h : members kind offset values = .error e) : ∃ detail, e = .invalidValue detail := by
  induction values generalizing offset with
  | nil => cases h
  | cons v vs ih =>
      rw [members] at h
      split at h
      · split at h
        · next e' he =>
            cases h
            exact ih he
        · cases h
      · split at h
        · next e' he =>
            cases h
            rw [memberValue] at he
            split at he
            · exact (Value.isUndatable_of_toInstant he).1
            · cases he
        · split at h
          · next e' he =>
              cases h
              exact ih he
          · cases h

/-- A membership list is refused when it has no elements, or for an element that is invalid. -/
theorem membership_eq_error {key : Key} {kind : ColumnKind} {values : List Value}
    (h : membership key kind offset values = .error e) :
    (values = [] ∧ e = .emptyArray key.field) ∨
      values ≠ [] ∧ ∃ detail, e = .invalidValue detail := by
  rw [membership] at h
  split at h
  · next hempty =>
      cases h
      exact .inl ⟨hempty, rfl⟩
  · next hne =>
      split at h
      · next e' he =>
          cases h
          exact .inr ⟨hne, invalidValue_of_members he⟩
      · cases h

theorem concernsEntry_of_listPredicate {key : Key} {kind : ColumnKind} {values : List Value}
    (h : listPredicate key kind offset values = .error e) : e.ConcernsEntry := by
  cases kind with
  | json =>
      simp only [listPredicate] at h
      split at h
      · cases h
      · split at h
        · cases h
        · cases h
          trivial
  | array =>
      simp only [listPredicate] at h
      split at h
      · cases h
      · cases h
        trivial
  | _ =>
      simp only [listPredicate] at h
      split at h
      · rcases membership_eq_error h with ⟨-, rfl⟩ | ⟨-, detail, rfl⟩
        · trivial
        · trivial
      · split at h
        · cases h
        · cases h
          trivial

theorem concernsEntry_of_scalarPredicate {key : Key} {kind : ColumnKind} {v : Value}
    (h : scope.scalarPredicate key kind offset v = .error e) : e.ConcernsEntry := by
  cases kind with
  | array =>
      simp only [scalarPredicate] at h
      split at h
      · cases h
        trivial
      · split at h
        · cases h
        · split at h
          · cases h
          · cases h
            trivial
  | time =>
      simp only [scalarPredicate] at h
      split at h
      · next e' he =>
          cases h
          exact Value.concernsEntry_of_toInstant he
      · cases h
  | _ => cases h

/-- What a key with its value can raise. -/
theorem concernsEntry_of_entry {raw : String} {v : Value}
    (h : scope.entry raw offset v = .error e) : e.ConcernsEntry := by
  rw [entry] at h
  split at h
  · next e' he =>
      cases h
      rw [Key.parse] at he
      split at he
      · cases he
      · cases he
        trivial
  · simp only [keyed] at h
    split at h
    · rw [nullPredicate] at h
      split at h
      · cases h
      · cases h
        trivial
    · exact concernsEntry_of_listPredicate h
    · exact concernsEntry_of_scalarPredicate h

/-! ### The first failing entry -/

/-- What is wrong with an entry by itself, if anything is. -/
def failure? (scope : Scope) : String × Node → Option Error
  | (_, .undefined) => none
  | (key, .value v) =>
      if isGroupKey key then some (misplacedValue key) else failureOf (scope.entry key 0 v)
  | (key, .group _) => if isGroupKey key then none else some (misplacedGroup key)

/-- How many parameters stand in front of an entry does not matter to its failure. -/
theorem failureOf_entry (scope : Scope) (raw : String) (v : Value) (offset : Nat) :
    failureOf (scope.entry raw offset v) = failureOf (scope.entry raw 0 v) := by
  rcases uniform_entry scope raw v with ⟨e, he⟩ | ⟨fragment, -, hrun⟩
  · exact congrArg failureOf ((he offset).trans (he 0).symm)
  · have hall : ∀ n, failureOf (scope.entry raw n v) = none := fun n => congrArg failureOf (hrun n)
    rw [hall offset, hall 0]

mutual

theorem failureOf_node (scope : Scope) (key : String) :
    (node : Node) → ∀ offset, failureOf (scope.node key offset node) =
      (Conditions.entriesAt key node).findSome? scope.failure?
  | .undefined, offset => by rw [node_undefined]; rfl
  | .value v, offset => by
      rw [node, Conditions.entriesAt, List.findSome?_singleton, failure?,
        ← failureOf_entry scope key v offset]
      split
      · rfl
      · cases scope.entry key offset v with
        | error e => rfl
        | ok f => rfl
  | .group elements, offset => by
      have hgroup := failureOf_group scope elements offset
      rw [node, Conditions.entriesAt, List.findSome?_cons, failure?]
      split
      · rw [← hgroup]
        cases scope.group offset elements with
        | error e => rfl
        | ok a =>
            simp only []
            split
            · rfl
            · rfl
      · rfl

/-- The predicates of a tree fail as its first failing entry does. -/
theorem failureOf_predicates (scope : Scope) :
    (entries : List (String × Node)) → ∀ offset, failureOf (scope.predicates offset entries) =
      (Conditions.allEntries entries).findSome? scope.failure?
  | [], _ => rfl
  | (key, node) :: entries, offset => by
      rw [predicates_cons, Conditions.allEntries, List.findSome?_append,
        ← failureOf_node scope key node offset]
      cases scope.node key offset node with
      | error e => rfl
      | ok a =>
          rw [failureOf_ok, Option.none_or,
            ← failureOf_predicates scope entries (offset + a.2.length)]
          simp only []
          cases scope.predicates (offset + a.2.length) entries with
          | error e => rfl
          | ok b => rfl

theorem failureOf_group (scope : Scope) :
    (elements : List (List (String × Node))) → ∀ offset,
      failureOf (scope.group offset elements) =
        (Conditions.entriesInGroup elements).findSome? scope.failure?
  | [], _ => by rw [group_nil]; rfl
  | element :: elements, offset => by
      rw [group, Conditions.entriesInGroup, List.findSome?_append,
        ← failureOf_predicates scope element offset]
      cases scope.predicates offset element with
      | error e => rfl
      | ok a =>
          rw [failureOf_ok, Option.none_or,
            ← failureOf_group scope elements (offset + a.2.length)]
          simp only []
          cases scope.group (offset + a.2.length) elements with
          | error e => rfl
          | ok b => rfl

end

/-- **A tree fails as its first failing entry does**, depth first and in document order. -/
theorem failureOf_compile (scope : Scope) (conditions : Conditions) (offset : Nat) :
    failureOf (scope.compile conditions offset) =
      (Conditions.allEntries conditions).findSome? scope.failure? := by
  rw [← failureOf_predicates scope conditions offset, compile]
  cases scope.predicates offset conditions with
  | error e => rfl
  | ok a => rfl

end Scope

end SqlFilter

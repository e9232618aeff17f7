/-
**Entries without a value.**

An entry without a value asks for nothing: a tree compiles as the tree that is left when all such
entries are taken out, with the same text, the same parameters and the same failures.  The elements
of groups stay when they are emptied, since an empty element still is a part of its group.

The keys of these entries are found by another walk through the tree than the one that compiles it.
Here both are compared with one list, that of all entries, depth first and in document order.

Main definitions:

* `SqlFilter.Conditions.FirstUndefined`: the key of the first entry without a value.

Main results:

* `SqlFilter.Conditions.undefinedKeys_eq_filterMap`: the walk finds the entries without a value
  among all entries, in their order;
* `SqlFilter.Scope.compile_pruned`: **a pruned tree compiles as the tree**.
-/

import SqlFilter.Proofs.Condition.Composition
import SqlFilter.Proofs.Condition.Leaves

set_option relaxedAutoImplicit false
set_option autoImplicit false

namespace SqlFilter

/-! ### Finding entries without a value -/

namespace Conditions

/-- The key of an entry, if it has no value. -/
def undefinedKey? : String × Node → Option String
  | (key, .undefined) => some key
  | _ => none

theorem undefinedKey?_eq_some_iff {entry : String × Node} {key : String} :
    undefinedKey? entry = some key ↔ entry = (key, .undefined) := by
  obtain ⟨k, node⟩ := entry
  cases node <;> simp [undefinedKey?]

/-- The key of the first entry without a value, depth first and in document order. -/
def FirstUndefined (conditions : Conditions) (key : String) : Prop :=
  ∃ front back, allEntries conditions = front ++ (key, .undefined) :: back ∧
    ∀ other, (other, Node.undefined) ∉ front

mutual

theorem undefinedAt_eq_filterMap (key : String) :
    (node : Node) → undefinedAt key node = (entriesAt key node).filterMap undefinedKey?
  | .undefined => rfl
  | .value _ => rfl
  | .group elements => by
      rw [undefinedAt, entriesAt, List.filterMap_cons_none rfl,
        undefinedInGroup_eq_filterMap elements]

/-- The walk finds the entries without a value among all entries, in their order. -/
theorem undefinedKeys_eq_filterMap :
    (entries : List (String × Node)) →
      undefinedKeys entries = (allEntries entries).filterMap undefinedKey?
  | [] => rfl
  | (key, node) :: entries => by
      rw [undefinedKeys, allEntries, List.filterMap_append, undefinedAt_eq_filterMap key node,
        undefinedKeys_eq_filterMap entries]

theorem undefinedInGroup_eq_filterMap :
    (elements : List (List (String × Node))) →
      undefinedInGroup elements = (entriesInGroup elements).filterMap undefinedKey?
  | [] => rfl
  | element :: elements => by
      rw [undefinedInGroup, entriesInGroup, List.filterMap_append,
        undefinedKeys_eq_filterMap element, undefinedInGroup_eq_filterMap elements]

end

/-- The walk finds something exactly when there is an entry without a value at some depth. -/
theorem undefinedKeys_ne_nil_iff {conditions : Conditions} :
    undefinedKeys conditions ≠ [] ↔ ∃ key, (key, Node.undefined) ∈ allEntries conditions := by
  rw [undefinedKeys_eq_filterMap]
  constructor
  · intro h
    obtain ⟨key, hkey⟩ := List.exists_mem_of_ne_nil _ h
    obtain ⟨entry, hentry, hundefined⟩ := List.mem_filterMap.1 hkey
    rw [undefinedKey?_eq_some_iff.1 hundefined] at hentry
    exact ⟨key, hentry⟩
  · rintro ⟨key, hmem⟩
    exact List.ne_nil_of_mem (List.mem_filterMap.2 ⟨_, hmem, rfl⟩)

/-- The walk finds the first one first. -/
theorem firstUndefined_of_undefinedKeys {conditions : Conditions} {key : String}
    {keys : List String} (h : undefinedKeys conditions = key :: keys) :
    FirstUndefined conditions key := by
  rw [undefinedKeys_eq_filterMap, List.filterMap_eq_cons_iff] at h
  obtain ⟨front, entry, back, hentries, hfront, hentry, -⟩ := h
  rw [undefinedKey?_eq_some_iff.1 hentry] at hentries
  exact ⟨front, back, hentries, fun other hmem => nomatch hfront _ hmem⟩

end Conditions

/-! ### Compiling a pruned tree -/

namespace Scope

open Conditions (pruned prunedEntry prunedGroup)

/-- A tree of one entry. -/
theorem predicates_singleton (scope : Scope) (offset : Nat) (key : String) (node : Node) :
    scope.predicates offset [(key, node)] = scope.node key offset node := by
  rw [predicates_cons]
  cases scope.node key offset node with
  | error e => rfl
  | ok a => simp [predicates_nil]

mutual

theorem predicates_prunedEntry (scope : Scope) (offset : Nat) (key : String) :
    (node : Node) → scope.predicates offset (prunedEntry key node) = scope.node key offset node
  | .undefined => by rw [prunedEntry, predicates_nil, node_undefined]
  | .value v => by rw [prunedEntry, predicates_singleton]
  | .group elements => by
      rw [prunedEntry, predicates_singleton, node, node, group_pruned scope offset elements]

/-- A pruned tree has the predicates of the tree. -/
theorem predicates_pruned (scope : Scope) (offset : Nat) :
    (entries : List (String × Node)) →
      scope.predicates offset (pruned entries) = scope.predicates offset entries
  | [] => rfl
  | (key, node) :: entries => by
      rw [pruned, predicates_append, predicates_cons, predicates_prunedEntry scope offset key node]
      cases scope.node key offset node with
      | error e => rfl
      | ok a =>
          simp only [predicates_pruned scope (offset + a.2.length) entries]
          cases scope.predicates (offset + a.2.length) entries with
          | error e => rfl
          | ok b => rfl

theorem group_pruned (scope : Scope) (offset : Nat) :
    (elements : List (List (String × Node))) →
      scope.group offset (prunedGroup elements) = scope.group offset elements
  | [] => rfl
  | element :: elements => by
      rw [prunedGroup, group, group, predicates_pruned scope offset element]
      cases scope.predicates offset element with
      | error e => rfl
      | ok a => simp only [group_pruned scope (offset + a.2.length) elements]

end

/-- **A pruned tree compiles as the tree**, or fails as the tree. -/
theorem compile_pruned (scope : Scope) (conditions : Conditions) (offset : Nat) :
    scope.compile (pruned conditions) offset = scope.compile conditions offset := by
  rw [compile, compile, predicates_pruned]

end Scope

end SqlFilter

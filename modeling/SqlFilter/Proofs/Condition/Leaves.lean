/-
**Keys and leaves of a condition tree.**

What stands in a tree at any depth, in document order: its keys, and the entries that compare with a
value.  Groups and entries without a value have keys but are no leaves.

Main definitions:

* `SqlFilter.Conditions.allKeys`: the keys of a tree at every depth;
* `SqlFilter.Conditions.leaves`: the keys and values of the entries that have a value;
* `SqlFilter.Conditions.allEntries`: the entries of a tree at every depth.
-/

import SqlFilter.Condition.Tree

set_option relaxedAutoImplicit false
set_option autoImplicit false

namespace SqlFilter.Conditions

mutual

/-- The keys at and below an entry. -/
def keysAt (key : String) : Node → List String
  | .undefined => [key]
  | .value _ => [key]
  | .group elements => key :: keysInGroup elements

/-- The keys of a tree at every depth, in document order. -/
def allKeys : List (String × Node) → List String
  | [] => []
  | (key, node) :: entries => keysAt key node ++ allKeys entries

/-- The same for the elements of a group. -/
def keysInGroup : List (List (String × Node)) → List String
  | [] => []
  | element :: elements => allKeys element ++ keysInGroup elements

end

mutual

/-- The leaves at and below an entry. -/
def leavesAt (key : String) : Node → List (String × Value)
  | .undefined => []
  | .value v => [(key, v)]
  | .group elements => leavesInGroup elements

/-- The entries that have a value, at every depth and in document order. -/
def leaves : List (String × Node) → List (String × Value)
  | [] => []
  | (key, node) :: entries => leavesAt key node ++ leaves entries

/-- The same for the elements of a group. -/
def leavesInGroup : List (List (String × Node)) → List (String × Value)
  | [] => []
  | element :: elements => leaves element ++ leavesInGroup elements

end

mutual

/-- The entries at and below an entry, itself in front. -/
def entriesAt (key : String) : Node → List (String × Node)
  | .undefined => [(key, .undefined)]
  | .value v => [(key, .value v)]
  | .group elements => (key, .group elements) :: entriesInGroup elements

/-- The entries of a tree at every depth, depth first and in document order. -/
def allEntries : List (String × Node) → List (String × Node)
  | [] => []
  | (key, node) :: entries => entriesAt key node ++ allEntries entries

/-- The same for the elements of a group. -/
def entriesInGroup : List (List (String × Node)) → List (String × Node)
  | [] => []
  | element :: elements => allEntries element ++ entriesInGroup elements

end

/-- The key of an entry is the first key at it. -/
theorem mem_keysAt_self (key : String) (node : Node) : key ∈ keysAt key node := by
  cases node <;> simp [keysAt]

end SqlFilter.Conditions

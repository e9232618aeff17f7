/-
**Condition trees.**

Conditions are entries under keys: a value to compare with, nothing at all, or, under the keys `and`
and `or`, a group of further conditions.  The entries keep the order in which their keys came in,
which is the order of the placeholders of the statement.

Main definitions:

* `SqlFilter.Node`, `SqlFilter.Conditions`: an entry's side of the tree and the tree;
* `SqlFilter.Conditions.insert`, `SqlFilter.Conditions.get?`: setting and finding an entry;
* `SqlFilter.Conditions.undefinedKeys`: the keys of the entries without a value, in document order;
* `SqlFilter.Conditions.pruned`: the tree without those entries;
* `SqlFilter.Conditions.ofJson`: the tree of a document.

Main results:

* `SqlFilter.Conditions.undefinedKeys_pruned`: a pruned tree has no entries without a value.
-/

import SqlFilter.Entries
import SqlFilter.Json.Printer
import SqlFilter.Value.Document

set_option relaxedAutoImplicit false
set_option autoImplicit false

namespace SqlFilter

/-- What stands under a key. -/
inductive Node where
  /-- No value was given; the entry asks for nothing. -/
  | undefined
  | value (value : Value)
  /-- Further conditions, to be joined as the key says. -/
  | group (elements : List (List (String × Node)))
  deriving Repr

instance : Inhabited Node := ⟨.undefined⟩

/-- Entries in the order of their keys. -/
abbrev Conditions := List (String × Node)

/-- Whether a key joins a group of conditions. -/
def isGroupKey (key : String) : Bool := key == "and" || key == "or"

namespace Conditions

/-! ### Entries -/

/-- No conditions. -/
def empty : Conditions := []

/-- Sets the entry of a key, in place if there is one. -/
def insert (conditions : Conditions) (key : String) (node : Node) : Conditions :=
  Entries.put key node conditions

/-- Asks for a value. -/
def withValue (conditions : Conditions) (key : String) (v : Value) : Conditions :=
  conditions.insert key (.value v)

/-- Asks for null. -/
def withNull (conditions : Conditions) (key : String) : Conditions :=
  conditions.insert key (.value .null)

/-- Leaves an entry without a value. -/
def withUndefined (conditions : Conditions) (key : String) : Conditions :=
  conditions.insert key .undefined

/-- Asks for all of a group. -/
def withAll (conditions : Conditions) (elements : List Conditions) : Conditions :=
  conditions.insert "and" (.group elements)

/-- Asks for one of a group. -/
def withAny (conditions : Conditions) (elements : List Conditions) : Conditions :=
  conditions.insert "or" (.group elements)

/-- What stands under a key. -/
def get? (conditions : Conditions) (key : String) : Option Node := Entries.get? key conditions

/-! ### Entries without a value -/

mutual

/-- The keys of the entries without a value at and below an entry. -/
def undefinedAt (key : String) : Node → List String
  | .undefined => [key]
  | .value _ => []
  | .group elements => undefinedInGroup elements

/-- The keys of the entries without a value, in document order. -/
def undefinedKeys : List (String × Node) → List String
  | [] => []
  | (key, node) :: entries => undefinedAt key node ++ undefinedKeys entries

/-- The same for the elements of a group. -/
def undefinedInGroup : List (List (String × Node)) → List String
  | [] => []
  | element :: elements => undefinedKeys element ++ undefinedInGroup elements

end

mutual

/-- What is left of an entry: nothing if it has no value. -/
def prunedEntry (key : String) : Node → List (String × Node)
  | .undefined => []
  | .value v => [(key, .value v)]
  | .group elements => [(key, .group (prunedGroup elements))]

/-- The tree without the entries that have no value; the elements of groups stay, also when nothing
is left of them. -/
def pruned : List (String × Node) → List (String × Node)
  | [] => []
  | (key, node) :: entries => prunedEntry key node ++ pruned entries

/-- The same for the elements of a group. -/
def prunedGroup : List (List (String × Node)) → List (List (String × Node))
  | [] => []
  | element :: elements => pruned element :: prunedGroup elements

end

theorem undefinedKeys_append (xs ys : List (String × Node)) :
    undefinedKeys (xs ++ ys) = undefinedKeys xs ++ undefinedKeys ys := by
  induction xs with
  | nil => rfl
  | cons e xs ih => simp only [List.cons_append, undefinedKeys, ih, List.append_assoc]

mutual

theorem undefinedKeys_prunedEntry (key : String) :
    (node : Node) → undefinedKeys (prunedEntry key node) = []
  | .undefined => rfl
  | .value _ => rfl
  | .group elements => by
      simp only [prunedEntry, undefinedKeys, undefinedAt, undefinedInGroup_pruned elements,
        List.append_nil]

/-- A pruned tree has no entries without a value. -/
theorem undefinedKeys_pruned :
    (entries : List (String × Node)) → undefinedKeys (pruned entries) = []
  | [] => rfl
  | (key, node) :: entries => by
      rw [pruned, undefinedKeys_append, undefinedKeys_prunedEntry key node,
        undefinedKeys_pruned entries, List.append_nil]

theorem undefinedInGroup_pruned :
    (elements : List (List (String × Node))) → undefinedInGroup (prunedGroup elements) = []
  | [] => rfl
  | element :: elements => by
      rw [prunedGroup, undefinedInGroup, undefinedKeys_pruned element,
        undefinedInGroup_pruned elements, List.append_nil]

end

/-! ### Documents -/

/-- A document of conditions is not an object. -/
def notAnObject (document : Json) : Error :=
  .invalidCondition ("conditions must be a JSON object, got " ++ document.render)

/-- A group is neither an object nor a list. -/
def notAGroup (key : String) (document : Json) : Error :=
  .invalidCondition
    ("'" ++ key ++ "' expects an object or a list of objects, got " ++ document.render)

/-- An element of a group is not an object. -/
def notAnElement (key : String) (document : Json) : Error :=
  .invalidCondition ("'" ++ key ++ "' expects objects, got " ++ document.render)

mutual

/-- The entries of the members of an object. -/
def ofMembers : List (String × Json) → Except Error (List (String × Node))
  | [] => .ok []
  | (key, document) :: members =>
      match nodeOfMember key document with
      | .error e => .error e
      | .ok node =>
          match ofMembers members with
          | .error e => .error e
          | .ok entries => .ok ((key, node) :: entries)

/-- The entry's side of a member: a group under a group key, else a value. -/
def nodeOfMember (key : String) (document : Json) : Except Error Node :=
  if isGroupKey key then
    match document with
    | .object members =>
        match ofMembers members with
        | .error e => .error e
        | .ok element => .ok (.group [element])
    | .array items =>
        match elementsOfItems key items with
        | .error e => .error e
        | .ok elements => .ok (.group elements)
    | other => .error (notAGroup key other)
  else .ok (.value (Value.ofJson document))

/-- The elements of a group that is written as a list. -/
def elementsOfItems (key : String) : List Json → Except Error (List (List (String × Node)))
  | [] => .ok []
  | item :: items =>
      match elementOfItem key item with
      | .error e => .error e
      | .ok element =>
          match elementsOfItems key items with
          | .error e => .error e
          | .ok elements => .ok (element :: elements)

/-- One element of such a group. -/
def elementOfItem (key : String) : Json → Except Error (List (String × Node))
  | .object members => ofMembers members
  | other => .error (notAnElement key other)

end

/-- The tree of a document. -/
def ofJson : Json → Except Error Conditions
  | .object members => ofMembers members
  | other => .error (notAnObject other)

end Conditions

end SqlFilter

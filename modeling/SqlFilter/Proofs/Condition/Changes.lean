/-
**Conditions that are changed.**

Conditions start empty or as the tree of a document, and are changed one entry at a time: a value, a
null, nothing, a group, or any of these is set under a key.  Whatever the changes are, each is a put
of one entry under one key.  So the conditions stay entries under distinct keys: under each key
stands what was set last, and the keys stand in the order in which they came in first, those of the
document in front.

The tree of a document is made without looking for keys that stand twice.  It has distinct keys
because the document does, and a document that was read from a text always does.

Main definitions:

* `SqlFilter.Conditions.Change`, `SqlFilter.Conditions.run`: a change, and many of them in order;
* `SqlFilter.Conditions.lastSet?`: what the last change of a key sets;
* `SqlFilter.Conditions.StartsAs`: the conditions that changes start from.

Main results:

* `SqlFilter.Conditions.get?_rel_of_mirrors`: the entries of a tree are found as the members of its
  document are;
* `SqlFilter.Conditions.run_keeps_order`: **what holds after any changes**.
-/

import Mathlib.Data.Finset.Card
import SqlFilter.Json.Document
import SqlFilter.Proofs.Condition.Documents

set_option relaxedAutoImplicit false
set_option autoImplicit false

namespace SqlFilter

namespace Conditions

/-! ### Changes -/

/-- The ways to set an entry. -/
inductive Change where
  | insert (key : String) (node : Node)
  | value (key : String) (value : Value)
  | null (key : String)
  | undefined (key : String)
  | all (elements : List Conditions)
  | any (elements : List Conditions)

namespace Change

/-- The key whose entry is set. -/
def key : Change → String
  | .insert key _ | .value key _ | .null key | .undefined key => key
  | .all _ => "and"
  | .any _ => "or"

/-- What is set there. -/
def node : Change → Node
  | .insert _ node => node
  | .value _ v => .value v
  | .null _ => .value .null
  | .undefined _ => .undefined
  | .all elements | .any elements => .group elements

/-- Makes a change. -/
def apply (conditions : Conditions) : Change → Conditions
  | .insert key node => conditions.insert key node
  | .value key v => conditions.withValue key v
  | .null key => conditions.withNull key
  | .undefined key => conditions.withUndefined key
  | .all elements => conditions.withAll elements
  | .any elements => conditions.withAny elements

/-- Every change is a put. -/
theorem apply_eq_put (conditions : Conditions) (change : Change) :
    change.apply conditions = Entries.put change.key change.node conditions := by
  cases change <;> rfl

end Change

/-- Makes changes one after the other. -/
def run (start : Conditions) (changes : List Change) : Conditions :=
  changes.foldl Change.apply start

/-- What the last change of a key sets. -/
def lastSet? (key : String) (changes : List Change) : Option Node :=
  (changes.reverse.find? fun change => change.key == key).map Change.node

/-- A change as the pair that it puts. -/
def Change.pair (change : Change) : String × Node := (change.key, change.node)

theorem run_eq_putAll (start : Conditions) (changes : List Change) :
    run start changes = Entries.putAll start (changes.map Change.pair) := by
  induction changes generalizing start with
  | nil => rfl
  | cons change changes ih =>
      rw [run, List.foldl_cons, ← run, ih, Change.apply_eq_put, List.map_cons, Entries.putAll,
        Entries.putAll, List.foldl_cons]
      rfl

theorem get?_map_pair (key : String) (changes : List Change) :
    Entries.get? key (changes.map Change.pair) =
      (changes.find? fun change => change.key == key).map Change.node := by
  induction changes with
  | nil => rfl
  | cons change changes ih =>
      rw [List.map_cons, Change.pair, Entries.get?, ih]
      by_cases h : change.key = key
      · simp [h]
      · simp [h]

/-- Under each key stands what was set last, or what the conditions had there before. -/
theorem get?_run (key : String) (start : Conditions) (changes : List Change) :
    (run start changes).get? key = (lastSet? key changes).or (start.get? key) := by
  rw [get?, get?, run_eq_putAll, Entries.get?_putAll, ← List.map_reverse, get?_map_pair, lastSet?]

/-- Distinct keys stay distinct. -/
theorem nodup_keys_run {start : Conditions} (h : (Entries.keys start).Nodup)
    (changes : List Change) : (Entries.keys (run start changes)).Nodup := by
  rw [run_eq_putAll]
  exact Entries.nodup_keys_putAll h

/-- The keys stand in the order in which they came in first. -/
theorem keys_run {start : Conditions} (h : (Entries.keys start).Nodup) (changes : List Change) :
    Entries.keys (run start changes) =
      (Entries.keys start ++ changes.map Change.key).eraseDups := by
  rw [run_eq_putAll, Entries.keys_putAll h, Entries.keys, Entries.keys, List.map_map]
  rfl

/-- Changes of different keys that are there already commute. -/
theorem apply_comm {conditions : Conditions} {first second : Change} (hne : first.key ≠ second.key)
    (hfirst : first.key ∈ Entries.keys conditions)
    (hsecond : second.key ∈ Entries.keys conditions) :
    first.apply (second.apply conditions) = second.apply (first.apply conditions) := by
  simp only [Change.apply_eq_put]
  exact Entries.put_comm hne _ _ hfirst hsecond

/-! ### Where changes start -/

/-- The conditions that changes start from, with the members of the document that they were made
of: no conditions, the tree of a document in which no key stands twice, or the tree of a document
that was read from a text. -/
inductive StartsAs : List (String × Json) → Conditions → Prop
  | empty : StartsAs [] Conditions.empty
  | document {members : List (String × Json)} {start : Conditions} :
      (Json.object members).HasDistinctKeys → ofJson (.object members) = .ok start →
        StartsAs members start
  | text {raw : String} {members : List (String × Json)} {start : Conditions} :
      Json.parse? raw = some (.object members) → ofJson (.object members) = .ok start →
        StartsAs members start

/-- The start mirrors the members, whose keys are distinct. -/
theorem StartsAs.mirrors {members : List (String × Json)} {start : Conditions}
    (h : StartsAs members start) :
    (Entries.keys members).Nodup ∧ List.Forall₂ MirrorsMember members start := by
  cases h with
  | empty => exact ⟨List.nodup_nil, .nil⟩
  | document hdistinct hread =>
      exact ⟨hdistinct.1, mirrors_object_iff.1 (ofJson_eq_ok_iff.1 hread)⟩
  | text hparse hread =>
      exact ⟨(Json.hasDistinctKeys_of_parse? hparse).1,
        mirrors_object_iff.1 (ofJson_eq_ok_iff.1 hread)⟩

/-- The entries of a tree are found as the members of its document are, and mirror them. -/
theorem get?_rel_of_mirrors {members : List (String × Json)} {start : Conditions}
    (h : List.Forall₂ MirrorsMember members start) (key : String) :
    Option.Rel (fun document node => MirrorsMember (key, document) (key, node))
      (Entries.get? key members) (start.get? key) := by
  induction h with
  | nil => exact .none
  | @cons member entry members start hentry _ ih =>
      obtain ⟨k, document⟩ := member
      obtain ⟨k', node⟩ := entry
      obtain rfl : k' = k := congrArg Prod.fst hentry.eq_mk
      rw [get?, Entries.get?, Entries.get?]
      split
      · next hk => exact .some (hk ▸ hentry)
      · exact ih

/-! ### After any changes -/

/-- **What holds after any changes**, and so at every step of them, since the steps in between are
the ends of shorter runs.  The keys are distinct; under each key stands what the last change of it
set, or what mirrors the member of the document if there was no such change; the keys stand in the
order in which they first came in, and there are as many entries as there are keys.  Two changes of
different keys that are there commute. -/
theorem run_keeps_order {members : List (String × Json)} {start : Conditions}
    (hstart : StartsAs members start) (changes : List Change) :
    (Entries.keys (run start changes)).Nodup ∧
    (∀ key, (run start changes).get? key = (lastSet? key changes).or (start.get? key) ∧
      Option.Rel (fun document node => MirrorsMember (key, document) (key, node))
        (Entries.get? key members) (start.get? key)) ∧
    Entries.keys (run start changes) =
      (Entries.keys members ++ changes.map Change.key).eraseDups ∧
    (run start changes).length =
      (Entries.keys members ++ changes.map Change.key).toFinset.card ∧
    ∀ first second : Change, first.key ≠ second.key →
      first.key ∈ Entries.keys (run start changes) →
      second.key ∈ Entries.keys (run start changes) →
        run start (changes ++ [first, second]) = run start (changes ++ [second, first]) := by
  obtain ⟨hmembers, hmirrors⟩ := hstart.mirrors
  have hkeys : Entries.keys start = Entries.keys members := keys_eq_of_mirrors hmirrors
  have hnodup : (Entries.keys start).Nodup := hkeys ▸ hmembers
  have horder := keys_run hnodup changes
  rw [hkeys] at horder
  have hdistinct := nodup_keys_run hnodup changes
  refine ⟨hdistinct, fun key => ⟨get?_run key start changes, get?_rel_of_mirrors hmirrors key⟩,
    horder, ?_, ?_⟩
  · have hsame : (Entries.keys (run start changes)).toFinset =
        (Entries.keys members ++ changes.map Change.key).toFinset := by
      ext key
      rw [horder, List.mem_toFinset, List.mem_toFinset, List.mem_eraseDups]
    rw [← hsame, List.toFinset_card_of_nodup hdistinct, Entries.keys, List.length_map]
  · intro first second hne hfirst hsecond
    rw [run, run, List.foldl_append, List.foldl_append, ← run]
    exact apply_comm (Ne.symm hne) hsecond hfirst

/-- A document in which a key is repeated. -/
def repeatedKey : String := r#"{"name":null,"or":[{}],"age >":true,"name":"Ada"}"#

/-- The members that are read from it: the repeated key has its first place and its last value. -/
def readMembers : List (String × Json) :=
  [("name", .string "Ada"), ("or", .array [.object []]), ("age >", .bool true)]

/-- Their tree. -/
def readConditions : Conditions :=
  [("name", .value (.text "Ada")), ("or", .group [[]]), ("age >", .value (.bool true))]

/-- Changes of the keys of the document and of a new one, which is set twice. -/
def someChanges : List Change :=
  [.value "age >" (.int 3), .any [], .undefined "city", .null "name", .value "city" (.text "Rome")]

/-- The keys of the document keep their places, and the new key stands behind them. -/
theorem run_keeps_order_repeatedKey :
    Json.parse? repeatedKey = some (.object readMembers) ∧
      ofJson (.object readMembers) = .ok readConditions ∧
      Entries.keys (run readConditions someChanges) = ["name", "or", "age >", "city"] ∧
      (run readConditions someChanges).get? "city" = some (.value (.text "Rome")) ∧
      (run readConditions someChanges).length = 4 := by
  have hparse : Json.parse? repeatedKey = some (.object readMembers) := by
    rw [Json.parse?, repeatedKey, String.toList_ofList]
    rfl
  have hread : ofJson (.object readMembers) = .ok readConditions := rfl
  obtain ⟨-, hget, horder, hlength, -⟩ := run_keeps_order (.text hparse hread) someChanges
  refine ⟨hparse, hread, horder.trans (by decide), ?_, hlength.trans (by decide)⟩
  rw [(hget "city").1]
  rfl

end Conditions

end SqlFilter

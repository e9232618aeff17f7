/-
**Documents of conditions.**

A document is one of conditions if it is an object, and under each of its keys that join a group
stands such a document again or a list of such documents; under any other key anything may stand.
Exactly these documents are read, and the tree of a document mirrors it: entry by entry in the order
of the members, and with a group exactly where the keys ask for one.  So the two ways to misplace a
group, which the compiler refuses, cannot come in with a document.

Main definitions:

* `SqlFilter.Json.IsConditions`: the documents of conditions;
* `SqlFilter.Conditions.Mirrors`: a tree mirrors a document;
* `SqlFilter.Conditions.WellFormed`: distinct keys at every level, nothing without a value, and
  groups where they belong.

Main results:

* `SqlFilter.Conditions.ofJson_eq_ok_iff`: a document is read as the tree that mirrors it;
* `SqlFilter.Conditions.isConditions_iff`: the documents of conditions are those that a tree
  mirrors;
* `SqlFilter.Conditions.WellFormed.compile_ne_invalidCondition`: the compiler never refuses a
  well-formed tree for a misplaced value or group;
* `SqlFilter.Conditions.ofJson_grammar`: **exactly the documents of conditions are read**, and only
  well-formed trees come out.
-/

import SqlFilter.Proofs.Condition.Failures
import SqlFilter.Proofs.Condition.Pruning
import SqlFilter.Proofs.Query.Clauses

set_option relaxedAutoImplicit false
set_option autoImplicit false

namespace SqlFilter

namespace Json

/-! ### The grammar -/

mutual

/-- The documents of conditions: objects with a group under each key that joins one. -/
inductive IsConditions : Json → Prop
  | object {members : List (String × Json)}
      (groups : ∀ member ∈ members, isGroupKey member.1 = true → IsGroup member.2) :
      IsConditions (.object members)

/-- The documents of groups: conditions, or a list of conditions. -/
inductive IsGroup : Json → Prop
  | one {document : Json} : IsConditions document → IsGroup document
  | many {items : List Json} : (∀ item ∈ items, IsConditions item) → IsGroup (.array items)

end

end Json

namespace Conditions

open Json (IsConditions IsGroup)

/-! ### Trees of documents -/

mutual

/-- A tree mirrors a document: it has one entry for each member, in the order of the members. -/
inductive Mirrors : Json → List (String × Node) → Prop
  | object {members : List (String × Json)} {entries : List (String × Node)} :
      List.Forall₂ MirrorsMember members entries → Mirrors (.object members) entries

/-- An entry mirrors a member: under a key that joins a group it has one element for an object and
as many as there are items for a list; under any other key it has the value of the document. -/
inductive MirrorsMember : String × Json → String × Node → Prop
  | value {key : String} {document : Json} : isGroupKey key = false →
      MirrorsMember (key, document) (key, .value (Value.ofJson document))
  | one {key : String} {document : Json} {element : List (String × Node)} :
      isGroupKey key = true → Mirrors document element →
        MirrorsMember (key, document) (key, .group [element])
  | many {key : String} {items : List Json} {elements : List (List (String × Node))} :
      isGroupKey key = true → List.Forall₂ Mirrors items elements →
        MirrorsMember (key, .array items) (key, .group elements)

end

mutual

/-- No key stands twice at any level, and every entry at every depth has what its key asks for. -/
inductive WellFormed : List (String × Node) → Prop
  | entries {entries : List (String × Node)} : (Entries.keys entries).Nodup →
      (∀ entry ∈ entries, WellPlaced entry) → WellFormed entries

/-- An entry has a group under a key that joins one, and a value under any other key. -/
inductive WellPlaced : String × Node → Prop
  | value {key : String} {v : Value} : isGroupKey key = false → WellPlaced (key, .value v)
  | group {key : String} {elements : List (List (String × Node))} : isGroupKey key = true →
      (∀ element ∈ elements, WellFormed element) → WellPlaced (key, .group elements)

end

/-! ### Reading a document -/

theorem mirrors_object_iff {members : List (String × Json)} {entries : List (String × Node)} :
    Mirrors (.object members) entries ↔ List.Forall₂ MirrorsMember members entries := by
  constructor
  · rintro ⟨h⟩
    exact h
  · exact Mirrors.object

/-- Under a key that joins no group, any document is mirrored by its value. -/
theorem mirrorsMember_value_iff {key : String} (hkey : isGroupKey key = false) {document : Json}
    {node : Node} :
    MirrorsMember (key, document) (key, node) ↔ node = .value (Value.ofJson document) := by
  constructor
  · intro h
    cases h with
    | value _ => rfl
    | one hgroup _ | many hgroup _ => exact absurd (hkey.symm.trans hgroup) (by decide)
  · rintro rfl
    exact .value hkey

/-- Under a key that joins a group, a document is mirrored as one element or as a list of them. -/
theorem mirrorsMember_group_iff {key : String} (hkey : isGroupKey key = true) {document : Json}
    {node : Node} :
    MirrorsMember (key, document) (key, node) ↔
      (∃ element, Mirrors document element ∧ node = .group [element]) ∨
      ∃ items elements, document = .array items ∧ List.Forall₂ Mirrors items elements ∧
        node = .group elements := by
  constructor
  · intro h
    cases h with
    | value hvalue => exact absurd (hvalue.symm.trans hkey) (by decide)
    | one _ helement => exact .inl ⟨_, helement, rfl⟩
    | many _ helements => exact .inr ⟨_, _, rfl, helements, rfl⟩
  · rintro (⟨element, helement, rfl⟩ | ⟨items, elements, rfl, helements, rfl⟩)
    · exact .one hkey helement
    · exact .many hkey helements

/-- It is enough to look at the keys that join a group. -/
theorem nodeOfMember_eq_ok_iff_of_group {key : String} {document : Json} {node : Node}
    (hgroup : isGroupKey key = true →
      (nodeOfMember key document = .ok node ↔ MirrorsMember (key, document) (key, node))) :
    nodeOfMember key document = .ok node ↔ MirrorsMember (key, document) (key, node) := by
  cases hkey : isGroupKey key with
  | true => exact hgroup hkey
  | false =>
      have hnode : nodeOfMember key document = .ok (.value (Value.ofJson document)) := by
        cases document with
        | _ => simp [nodeOfMember, hkey]
      rw [mirrorsMember_value_iff hkey, hnode, Except.ok.injEq, eq_comm]

mutual

/-- The members of an object are read entry by entry. -/
theorem ofMembers_eq_ok_iff : (members : List (String × Json)) → ∀ entries,
    ofMembers members = .ok entries ↔ List.Forall₂ MirrorsMember members entries
  | [], entries => by simp [ofMembers, eq_comm]
  | (key, document) :: members, entries => by
      rw [ofMembers, List.forall₂_cons_left_iff]
      -- the reader goes from left to right, so a failure of the head hides the rest
      have hhead := nodeOfMember_eq_ok_iff key document
      have htail := ofMembers_eq_ok_iff members
      constructor
      · intro h
        split at h
        · cases h
        · next node hnode =>
            split at h
            · cases h
            · next others hothers =>
                cases h
                exact ⟨_, _, (hhead node).1 hnode, (htail others).1 hothers, rfl⟩
      · rintro ⟨entry, others, hentry, hothers, rfl⟩
        obtain ⟨node, rfl⟩ : ∃ node, entry = (key, node) := by
          cases hentry with
          | _ => exact ⟨_, rfl⟩
        rw [(hhead node).2 hentry, (htail others).2 hothers]

/-- A member is read as the entry that mirrors it. -/
theorem nodeOfMember_eq_ok_iff (key : String) : (document : Json) → ∀ node,
    nodeOfMember key document = .ok node ↔ MirrorsMember (key, document) (key, node)
  | .object members, node => nodeOfMember_eq_ok_iff_of_group fun hkey => by
      have hmembers := ofMembers_eq_ok_iff members
      simp only [mirrorsMember_group_iff hkey, mirrors_object_iff, ← hmembers]
      rw [nodeOfMember, if_pos hkey]
      cases ofMembers members with
      | error e => simp
      | ok element => simp [eq_comm]
  | .array items, node => nodeOfMember_eq_ok_iff_of_group fun hkey => by
      have hitems := elementsOfItems_eq_ok_iff key items
      -- a list is no object, so it stands for its items only
      have hone : ∀ element, ¬ Mirrors (.array items) element := nofun
      simp only [mirrorsMember_group_iff hkey, hone, false_and, exists_false, false_or]
      rw [nodeOfMember, if_pos hkey]
      cases h : elementsOfItems key items with
      | error e => simp [← hitems, h]
      | ok elements => simp [← hitems, h, eq_comm]
  | .null, _ | .bool _, _ | .number _, _ | .string _, _ =>
      nodeOfMember_eq_ok_iff_of_group fun hkey => by
        rw [mirrorsMember_group_iff hkey]
        refine iff_of_false (by simp [nodeOfMember, hkey]) ?_
        rintro (⟨_, ⟨⟩, _⟩ | ⟨_, _, ⟨⟩, _⟩)

/-- The items of a list are read element by element. -/
theorem elementsOfItems_eq_ok_iff (key : String) : (items : List Json) → ∀ elements,
    elementsOfItems key items = .ok elements ↔ List.Forall₂ Mirrors items elements
  | [], elements => by simp [elementsOfItems, eq_comm]
  | item :: items, elements => by
      rw [elementsOfItems, List.forall₂_cons_left_iff]
      have hhead := elementOfItem_eq_ok_iff key item
      have htail := elementsOfItems_eq_ok_iff key items
      constructor
      · intro h
        split at h
        · cases h
        · next element helement =>
            split at h
            · cases h
            · next others hothers =>
                cases h
                exact ⟨_, _, (hhead element).1 helement, (htail others).1 hothers, rfl⟩
      · rintro ⟨element, others, helement, hothers, rfl⟩
        rw [(hhead element).2 helement, (htail others).2 hothers]

/-- An item is read as the tree that mirrors it. -/
theorem elementOfItem_eq_ok_iff (key : String) : (item : Json) → ∀ element,
    elementOfItem key item = .ok element ↔ Mirrors item element
  | .object members, element => by
      rw [elementOfItem, mirrors_object_iff]
      exact ofMembers_eq_ok_iff members element
  | .null, _ | .bool _, _ | .number _, _ | .string _, _ | .array _, _ =>
      iff_of_false nofun nofun

end

/-- A document is read as the tree that mirrors it. -/
theorem ofJson_eq_ok_iff {document : Json} {conditions : Conditions} :
    ofJson document = .ok conditions ↔ Mirrors document conditions := by
  cases document with
  | object members =>
      rw [mirrors_object_iff]
      exact ofMembers_eq_ok_iff members conditions
  | _ => exact iff_of_false nofun nofun

/-! ### The documents that are read -/

theorem isConditions_object_iff {members : List (String × Json)} :
    IsConditions (.object members) ↔
      ∀ member ∈ members, isGroupKey member.1 = true → IsGroup member.2 := by
  constructor
  · rintro ⟨h⟩
    exact h
  · exact IsConditions.object

theorem isGroup_object_iff {members : List (String × Json)} :
    IsGroup (.object members) ↔ IsConditions (.object members) := by
  constructor
  · rintro ⟨h⟩
    exact h
  · exact IsGroup.one

theorem isGroup_array_iff {items : List Json} :
    IsGroup (.array items) ↔ ∀ item ∈ items, IsConditions item := by
  constructor
  · rintro (⟨⟨⟩⟩ | h)
    exact h
  · exact IsGroup.many

theorem exists_forall₂_cons_iff {α β : Type} {R : α → β → Prop} {x : α} {xs : List α} :
    (∃ ys, List.Forall₂ R (x :: xs) ys) ↔ (∃ y, R x y) ∧ ∃ ys, List.Forall₂ R xs ys := by
  simp only [List.forall₂_cons_left_iff]
  constructor
  · rintro ⟨_, y, ys, hy, hys, -⟩
    exact ⟨⟨y, hy⟩, ys, hys⟩
  · rintro ⟨⟨y, hy⟩, ys, hys⟩
    exact ⟨_, y, ys, hy, hys, rfl⟩

/-- The entry of a member stands under the key of the member. -/
theorem MirrorsMember.eq_mk {member : String × Json} {entry : String × Node}
    (h : MirrorsMember member entry) : entry = (member.1, entry.2) := by
  cases h with
  | _ => rfl

theorem exists_mirrorsMember_iff {key : String} {document : Json} :
    (∃ entry, MirrorsMember (key, document) entry) ↔
      (isGroupKey key = true → ∃ node, MirrorsMember (key, document) (key, node)) := by
  constructor
  · rintro ⟨entry, h⟩ -
    exact ⟨entry.2, h.eq_mk ▸ h⟩
  · intro h
    cases hkey : isGroupKey key with
    | false => exact ⟨_, .value hkey⟩
    | true => exact (h hkey).imp' _ fun _ => id

mutual

/-- The documents of conditions are those that a tree mirrors. -/
theorem isConditions_iff : (document : Json) → IsConditions document ↔ ∃ tree, Mirrors document tree
  | .object members => by
      simp only [isConditions_object_iff, mirrors_object_iff]
      exact groups_iff members
  | .null | .bool _ | .number _ | .string _ | .array _ => iff_of_false nofun fun ⟨_, h⟩ => nomatch h

theorem groups_iff : (members : List (String × Json)) →
    (∀ member ∈ members, isGroupKey member.1 = true → IsGroup member.2) ↔
      ∃ entries, List.Forall₂ MirrorsMember members entries
  | [] => iff_of_true nofun ⟨[], .nil⟩
  | (key, document) :: members => by
      rw [List.forall_mem_cons, exists_forall₂_cons_iff, groups_iff members,
        exists_mirrorsMember_iff]
      exact and_congr_left' (imp_congr_right fun hkey => isGroup_iff hkey document)

theorem isGroup_iff {key : String} (hkey : isGroupKey key = true) : (document : Json) →
    IsGroup document ↔ ∃ node, MirrorsMember (key, document) (key, node)
  | .object members => by
      rw [isGroup_object_iff, isConditions_object_iff, groups_iff members]
      simp [mirrorsMember_group_iff hkey, mirrors_object_iff]
  | .array items => by
      have hone : ∀ element, ¬ Mirrors (.array items) element := nofun
      rw [isGroup_array_iff, items_iff items]
      simp [mirrorsMember_group_iff hkey, hone]
  | .null | .bool _ | .number _ | .string _ => by
      refine iff_of_false (by rintro ⟨⟨⟩⟩) ?_
      simp only [mirrorsMember_group_iff hkey]
      rintro ⟨_, ⟨_, ⟨⟩, _⟩ | ⟨_, _, ⟨⟩, _⟩⟩

theorem items_iff : (items : List Json) →
    (∀ item ∈ items, IsConditions item) ↔ ∃ elements, List.Forall₂ Mirrors items elements
  | [] => iff_of_true nofun ⟨[], .nil⟩
  | item :: items => by
      rw [List.forall_mem_cons, exists_forall₂_cons_iff, isConditions_iff item, items_iff items]

end

/-! ### Refusals -/

mutual

theorem invalidCondition_of_ofMembers {e : Error} : (members : List (String × Json)) →
    ofMembers members = .error e → ∃ detail, e = .invalidCondition detail
  | [], h => nomatch h
  | (key, document) :: members, h => by
      rw [ofMembers] at h
      split at h
      · next he =>
          cases h
          exact invalidCondition_of_nodeOfMember key document he
      · split at h
        · next he =>
            cases h
            exact invalidCondition_of_ofMembers members he
        · cases h

theorem invalidCondition_of_nodeOfMember {e : Error} (key : String) : (document : Json) →
    nodeOfMember key document = .error e → ∃ detail, e = .invalidCondition detail
  | .object members, h => by
      rw [nodeOfMember] at h
      split at h
      · split at h
        · next he =>
            cases h
            exact invalidCondition_of_ofMembers members he
        · cases h
      · cases h
  | .array items, h => by
      rw [nodeOfMember] at h
      split at h
      · split at h
        · next he =>
            cases h
            exact invalidCondition_of_elementsOfItems key items he
        · cases h
      · cases h
  | .null, h | .bool _, h | .number _, h | .string _, h => by
      simp only [nodeOfMember] at h
      split at h
      · cases h
        exact ⟨_, rfl⟩
      · cases h

theorem invalidCondition_of_elementsOfItems {e : Error} (key : String) : (items : List Json) →
    elementsOfItems key items = .error e → ∃ detail, e = .invalidCondition detail
  | [], h => nomatch h
  | item :: items, h => by
      rw [elementsOfItems] at h
      split at h
      · next he =>
          cases h
          exact invalidCondition_of_elementOfItem key item he
      · split at h
        · next he =>
            cases h
            exact invalidCondition_of_elementsOfItems key items he
        · cases h

theorem invalidCondition_of_elementOfItem {e : Error} (key : String) : (item : Json) →
    elementOfItem key item = .error e → ∃ detail, e = .invalidCondition detail
  | .object members, h => invalidCondition_of_ofMembers members h
  | .null, h | .bool _, h | .number _, h | .string _, h | .array _, h => by
      cases h
      exact ⟨_, rfl⟩

end

/-- A document that is not read is refused as a condition. -/
theorem invalidCondition_of_ofJson {document : Json} {e : Error}
    (h : ofJson document = .error e) : ∃ detail, e = .invalidCondition detail := by
  cases document with
  | object members => exact invalidCondition_of_ofMembers members h
  | _ =>
      cases h
      exact ⟨_, rfl⟩

/-! ### Well-formed trees -/

theorem keys_eq_of_mirrors {members : List (String × Json)} {entries : List (String × Node)}
    (h : List.Forall₂ MirrorsMember members entries) :
    Entries.keys entries = Entries.keys members := by
  induction h with
  | nil => rfl
  | cons hentry _ ih =>
      rw [Entries.keys, List.map_cons, hentry.eq_mk]
      exact congrArg (_ :: ·) ih

theorem wellFormed_of_members {members : List (String × Json)} {entries : List (String × Node)}
    (hkeys : (Entries.keys members).Nodup) (h : List.Forall₂ MirrorsMember members entries)
    (hplaced : ∀ entry ∈ entries, WellPlaced entry) : WellFormed entries :=
  .entries (keys_eq_of_mirrors h ▸ hkeys) hplaced

mutual

/-- A tree that mirrors a document is well formed. -/
theorem Mirrors.wellFormed {tree : List (String × Node)} : (document : Json) →
    document.HasDistinctKeys → Mirrors document tree → WellFormed tree
  | .object members, hdistinct, h => by
      rw [mirrors_object_iff] at h
      exact wellFormed_of_members hdistinct.1 h (wellPlaced_of_members members hdistinct.2 h)
  | .null, _, h | .bool _, _, h | .number _, _, h | .string _, _, h | .array _, _, h => nomatch h

theorem wellPlaced_of_members {entries : List (String × Node)} : (members : List (String × Json)) →
    Json.HasDistinctKeys.membersDistinct members → List.Forall₂ MirrorsMember members entries →
      ∀ entry ∈ entries, WellPlaced entry
  | [], _, .nil => nofun
  | (key, document) :: members, hdistinct, .cons hhead htail =>
      List.forall_mem_cons.2 ⟨wellPlaced_of_member key document hdistinct.1 hhead,
        wellPlaced_of_members members hdistinct.2 htail⟩

theorem wellPlaced_of_member {entry : String × Node} (key : String) : (document : Json) →
    document.HasDistinctKeys → MirrorsMember (key, document) entry → WellPlaced entry
  | .object members, hdistinct, h => by
      cases h with
      | value hkey => exact .value hkey
      | one hkey helement =>
          rw [mirrors_object_iff] at helement
          have hplaced := wellPlaced_of_members members hdistinct.2 helement
          refine .group hkey fun element hmem => ?_
          rw [List.mem_singleton.1 hmem]
          exact wellFormed_of_members hdistinct.1 helement hplaced
  | .array items, hdistinct, h => by
      cases h with
      | value hkey => exact .value hkey
      | one _ helement => cases helement
      | many hkey helements => exact .group hkey (wellFormed_of_items items hdistinct helements)
  | .null, _, h | .bool _, _, h | .number _, _, h | .string _, _, h => by
      cases h with
      | value hkey => exact .value hkey
      | one _ helement => cases helement

theorem wellFormed_of_items {elements : List (List (String × Node))} : (items : List Json) →
    Json.HasDistinctKeys.allDistinct items → List.Forall₂ Mirrors items elements →
      ∀ element ∈ elements, WellFormed element
  | [], _, .nil => nofun
  | item :: items, hdistinct, .cons hhead htail =>
      List.forall_mem_cons.2 ⟨hhead.wellFormed item hdistinct.1,
        wellFormed_of_items items hdistinct.2 htail⟩

end

mutual

theorem wellPlaced_of_mem_entriesAt (key : String) : (node : Node) → WellPlaced (key, node) →
    ∀ entry ∈ entriesAt key node, WellPlaced entry
  | .undefined, h => nomatch h
  | .value _, h => List.forall_mem_singleton.2 h
  | .group elements, h => by
      rw [entriesAt, List.forall_mem_cons]
      cases h with
      | group hkey helements =>
          exact ⟨.group hkey helements, wellPlaced_of_mem_entriesInGroup elements helements⟩

theorem wellPlaced_of_mem_allEntries : (entries : List (String × Node)) →
    (∀ entry ∈ entries, WellPlaced entry) → ∀ entry ∈ allEntries entries, WellPlaced entry
  | [], _ => nofun
  | (key, node) :: entries, h => by
      rw [List.forall_mem_cons] at h
      rw [allEntries, List.forall_mem_append]
      exact ⟨wellPlaced_of_mem_entriesAt key node h.1, wellPlaced_of_mem_allEntries entries h.2⟩

theorem wellPlaced_of_mem_entriesInGroup : (elements : List (List (String × Node))) →
    (∀ element ∈ elements, WellFormed element) →
      ∀ entry ∈ entriesInGroup elements, WellPlaced entry
  | [], _ => nofun
  | element :: elements, h => by
      rw [List.forall_mem_cons] at h
      rw [entriesInGroup, List.forall_mem_append]
      obtain ⟨-, hplaced⟩ := h.1
      exact ⟨wellPlaced_of_mem_allEntries element hplaced,
        wellPlaced_of_mem_entriesInGroup elements h.2⟩

end

namespace WellFormed

variable {conditions : Conditions}

/-- In a well-formed tree every entry at every depth has what its key asks for. -/
theorem wellPlaced (h : WellFormed conditions) : ∀ entry ∈ allEntries conditions,
    WellPlaced entry := by
  obtain ⟨-, hplaced⟩ := h
  exact wellPlaced_of_mem_allEntries conditions hplaced

/-- No entry of a well-formed tree is without a value. -/
theorem undefinedKeys_eq_nil (h : WellFormed conditions) : undefinedKeys conditions = [] := by
  by_contra hne
  obtain ⟨key, hmem⟩ := undefinedKeys_ne_nil_iff.1 hne
  exact nomatch h.wellPlaced _ hmem

/-- A well-formed tree is never refused for a misplaced value or a misplaced group. -/
theorem compile_ne_invalidCondition (h : WellFormed conditions) (scope : Scope) (offset : Nat)
    (detail : String) : scope.compile conditions offset ≠ .error (.invalidCondition detail) := by
  intro hcompile
  -- the error is that of some entry, and at a placed entry it is not one of the tree
  have hfirst := scope.failureOf_compile conditions offset
  rw [hcompile, failureOf_error] at hfirst
  obtain ⟨entry, hmem, hfailure⟩ := List.exists_of_findSome?_eq_some hfirst.symm
  cases h.wellPlaced entry hmem with
  | value hkey =>
      rw [Scope.failure?, hkey] at hfailure
      exact Scope.concernsEntry_of_entry (failureOf_eq_some_iff.1 hfailure)
  | group hkey _ =>
      rw [Scope.failure?, hkey] at hfailure
      cases hfailure

end WellFormed

/-! ### The grammar is the domain of the reader -/

/-- **Exactly the documents of conditions are read**, and only well-formed trees come out. -/
theorem ofJson_grammar (document : Json) (hdistinct : document.HasDistinctKeys) :
    ((∃ conditions, ofJson document = .ok conditions) ↔ document.IsConditions) ∧
    (∀ e, ofJson document = .error e → ∃ detail, e = .invalidCondition detail) ∧
    ∀ conditions, ofJson document = .ok conditions →
      Mirrors document conditions ∧ WellFormed conditions ∧ undefinedKeys conditions = [] ∧
      ∀ (scope : Scope) offset detail,
        scope.compile conditions offset ≠ .error (.invalidCondition detail) := by
  refine ⟨?_, fun e he => invalidCondition_of_ofJson he, fun conditions h => ?_⟩
  · simp only [ofJson_eq_ok_iff]
    exact (isConditions_iff document).symm
  · have hmirrors := ofJson_eq_ok_iff.1 h
    have hwell := hmirrors.wellFormed document hdistinct
    exact ⟨hmirrors, hwell, hwell.undefinedKeys_eq_nil, hwell.compile_ne_invalidCondition⟩

/-- The conditions of a name and of one group in another, which is written as a list. -/
def nestedDocument : Json :=
  .object
    [("name", .string "Ada"),
      ("and", .array
        [.object [("or", .object [("city", .null), ("tags", .array [.bool true])])], .object []])]

/-- The tree of these conditions. -/
def nestedConditions : Conditions :=
  [("name", .value (.text "Ada")),
    ("and", .group
      [[("or", .group [[("city", .value .null), ("tags", .value (.array [.bool true]))]])], []])]

theorem ofJson_grammar_nested :
    nestedDocument.IsConditions ∧ ofJson nestedDocument = .ok nestedConditions ∧
      Mirrors nestedDocument nestedConditions ∧ WellFormed nestedConditions ∧
      undefinedKeys nestedConditions = [] ∧ ∀ (scope : Scope) offset detail,
        scope.compile nestedConditions offset ≠ .error (.invalidCondition detail) := by
  have hread : ofJson nestedDocument = .ok nestedConditions := by cbv
  have hdistinct : nestedDocument.HasDistinctKeys := by
    simp [nestedDocument, Json.HasDistinctKeys, Json.HasDistinctKeys.allDistinct,
      Json.HasDistinctKeys.membersDistinct, Entries.keys]
  have hgrammar := ofJson_grammar nestedDocument hdistinct
  exact ⟨hgrammar.1.1 ⟨_, hread⟩, hread, hgrammar.2.2 _ hread⟩

end Conditions

end SqlFilter

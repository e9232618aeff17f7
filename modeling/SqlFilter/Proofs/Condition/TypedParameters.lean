/-
**The parameters of a tree have types.**

Null has no type of its own, and neither has a list without elements.  Where one of them is bound,
it is bound as text, and the server does not compare texts with columns of other types; so the
compiler writes both out.  It does so for the value of an entry, and for null among the members of a
list.  A list without elements that is a member of a list itself is not written out: it is the one
value without a type that becomes a parameter.

Values are changed before they are bound, but never in what matters here: their outlines stay.

Main definitions:

* `SqlFilter.TypedBut`: parameters have types, but for empty lists where a condition holds;
* `SqlFilter.Scope.ListsEmpty`, `SqlFilter.Scope.HasEmptyMember`: an entry, or some entry of a tree,
  asks for membership of a list with an empty list in it.

Main results:

* `SqlFilter.Value.outline_toInstant`: a value keeps its outline as a point in time;
* `SqlFilter.Scope.typedBut_members`: null among the members of a list is no parameter;
* `SqlFilter.Scope.typedBut_compile`: **the parameters of a compiled tree**.
-/

import SqlFilter.Proofs.Condition.Leaves
import SqlFilter.Proofs.Condition.Outline
import SqlFilter.Proofs.Value.DatedValue

set_option relaxedAutoImplicit false
set_option autoImplicit false

namespace SqlFilter

/-! ### Outlines -/

namespace Value

theorem outline_eq_null_iff {v : Value} : v.outline = .null ↔ v = .null := by
  cases v <;> simp [outline]

theorem outline_eq_list_nil_iff {v : Value} : v.outline = .list [] ↔ v = .array [] := by
  cases v <;> simp [outline]

/-- Whether a list has an empty list in it can be seen from the outlines of its elements. -/
theorem emptyList_mem_congr {vs ws : List Value} (h : vs.map outline = ws.map outline) :
    .array [] ∈ vs ↔ .array [] ∈ ws := by
  have key : ∀ us : List Value, .array [] ∈ us ↔ .list [] ∈ us.map outline := by
    intro us
    rw [List.mem_map]
    constructor
    · intro hmem
      exact ⟨_, hmem, rfl⟩
    · rintro ⟨v, hmem, hv⟩
      rwa [outline_eq_list_nil_iff.1 hv] at hmem
  rw [key, key, h]

theorem outline_apply (adjustment : ValueAdjustment) (v : Value) :
    (adjustment.apply v).outline = v.outline := by
  cases v with
  | text s => cases adjustment <;> rfl
  | _ => cases adjustment <;> rfl

/-- A value has the outline of what it was before its leaves became points in time. -/
theorem Dated.outline_eq {v w : Value} (h : Dated v w) : w.outline = v.outline := by
  cases h with
  | null | kept _ => rfl
  | read h =>
      have hshape := h.shape_eq
      cases v with
      | null | array values => cases hshape
      | _ => rfl
  | array hdated =>
      rw [outline, outline, Outline.list.injEq]
      induction hdated with
      | nil => rfl
      | @cons v w _ _ h _ ih =>
          have hnull : w.isNull = v.isNull := by
            rw [Bool.eq_iff_iff, isNull_iff, isNull_iff, h.eq_null_iff]
          rw [List.map_cons, List.map_cons, ih, hnull]

/-- A value keeps its outline as a point in time. -/
theorem outline_toInstant {v w : Value} (h : v.toInstant = .ok w) : w.outline = v.outline :=
  (dated_of_toInstant h).outline_eq

end Value

/-! ### Typed parameters -/

/-- No parameter is null, and an empty list is one exactly if the condition holds. -/
structure TypedBut (exempt : Prop) (params : List Value) : Prop where
  null : .null ∉ params
  empty : .array [] ∈ params ↔ exempt

namespace TypedBut

variable {exempt other : Prop} {xs ys : List Value}

theorem nil : TypedBut False [] := ⟨List.not_mem_nil, by simp⟩

theorem singleton {v : Value} (hnull : v ≠ .null) (hempty : v ≠ .array []) :
    TypedBut False [v] := by
  constructor
  · rw [List.mem_singleton]
    exact hnull.symm
  · rw [List.mem_singleton, iff_false]
    exact hempty.symm

theorem append (h : TypedBut exempt xs) (h' : TypedBut other ys) :
    TypedBut (exempt ∨ other) (xs ++ ys) := by
  constructor
  · rw [List.mem_append, not_or]
    exact ⟨h.null, h'.null⟩
  · rw [List.mem_append, h.empty, h'.empty]

theorem congr (h : TypedBut exempt xs) (hiff : exempt ↔ other) : TypedBut other xs :=
  ⟨h.null, h.empty.trans hiff⟩

/-- A value that is neither null nor a list has a type. -/
theorem of_outline {v : Value} (h : v.outline = .scalar) : TypedBut False [v] := by
  refine singleton ?_ ?_
  · rintro rfl
    cases h
  · rintro rfl
    cases h

theorem bindList (offset : Nat) (values : List Value) :
    TypedBut False (Fragment.bindList offset values).params := by
  cases values with
  | nil => exact nil
  | cons v vs => exact singleton (by simp) (by simp)

end TypedBut

/-! ### One entry -/

/-- Under a column of this kind the key asks whether the column is a member of a list. -/
def Key.AsksMembership (key : Key) (kind : ColumnKind) : Prop :=
  kind ≠ .json ∧ kind ≠ .array ∧ key.comparison.isEquality = true

namespace Scope

/-- An entry asks for membership of a list that has an empty list in it. -/
def ListsEmpty (scope : Scope) (leaf : String × Value) : Prop :=
  ∃ key values, Key.parse leaf.1 = .ok key ∧ key.AsksMembership (scope.kindOf key.field) ∧
    leaf.2 = .array values ∧ .array [] ∈ values

/-- At some depth of a tree there is such an entry. -/
def HasEmptyMember (scope : Scope) (conditions : Conditions) : Prop :=
  ∃ leaf ∈ Conditions.leaves conditions, scope.ListsEmpty leaf

variable {scope : Scope} {offset : Nat}

theorem outline_memberValue {kind : ColumnKind} {v w : Value} (h : memberValue kind v = .ok w) :
    w.outline = v.outline := by
  rw [memberValue] at h
  split at h
  · exact Value.outline_toInstant h
  · cases h
    rfl

/-- Null among the members of a list is no parameter, but a list without elements is one. -/
theorem typedBut_members {kind : ColumnKind} {values : List Value} {a : List String × List Value}
    (h : members kind offset values = .ok a) : TypedBut (.array [] ∈ values) a.2 := by
  induction values generalizing offset a with
  | nil =>
      cases h
      exact TypedBut.nil.congr (by simp)
  | cons v vs ih =>
      cases hnull : v.isNull with
      | true =>
          obtain ⟨b, hb, rfl⟩ := (members_cons_of_null hnull).1 h
          obtain rfl := (Value.isNull_iff v).1 hnull
          exact (ih hb).congr (by simp)
      | false =>
          obtain ⟨member, b, hmember, hb, rfl⟩ := (members_cons_of_not_null hnull).1 h
          have houtline : member.outline = v.outline := outline_memberValue hmember
          constructor
          · rw [List.mem_cons, not_or]
            refine ⟨?_, (ih hb).null⟩
            rintro rfl
            have hv : v = .null := Value.outline_eq_null_iff.1 houtline.symm
            rw [hv] at hnull
            cases hnull
          · rw [List.mem_cons, List.mem_cons, (ih hb).empty]
            exact or_congr_left (by
              rw [eq_comm, ← Value.outline_eq_list_nil_iff, houtline,
                Value.outline_eq_list_nil_iff, eq_comm])

theorem typedBut_listPredicate {key : Key} {kind : ColumnKind} {values : List Value} {f : Fragment}
    (h : listPredicate key kind offset values = .ok f) :
    TypedBut (key.AsksMembership kind ∧ .array [] ∈ values) f.params := by
  have hlist : ∀ g : Fragment, g.params = (Fragment.bindList offset values).params →
      ¬ key.AsksMembership kind →
        TypedBut (key.AsksMembership kind ∧ .array [] ∈ values) g.params := by
    intro g hg hkind
    rw [hg]
    exact (TypedBut.bindList offset values).congr (iff_of_false id fun h => hkind h.1)
  cases kind with
  | json =>
      simp only [listPredicate] at h
      split at h
      · cases h
        exact hlist _ rfl fun h => h.1 rfl
      · split at h
        · cases h
          exact (TypedBut.singleton (by simp) (by simp)).congr
            (iff_of_false id fun h => h.1.1 rfl)
        · cases h
  | array =>
      simp only [listPredicate] at h
      split at h
      · cases h
        exact hlist _ rfl fun h => h.2.1 rfl
      · cases h
  | _ =>
      simp only [listPredicate] at h
      split at h
      · next hequality =>
          obtain ⟨-, a, ha, rfl⟩ := membership_eq_ok_iff.1 h
          exact (typedBut_members ha).congr
            (and_iff_right ⟨by simp, by simp, hequality⟩).symm
      · next hequality =>
          split at h
          · cases h
            exact hlist _ rfl fun h => hequality h.2.2
          · cases h

/-- A value that is neither null nor a list is bound with its type. -/
theorem typedBut_scalarPredicate {key : Key} {kind : ColumnKind} {v : Value} {f : Fragment}
    (hv : v.outline = .scalar) (h : scope.scalarPredicate key kind offset v = .ok f) :
    TypedBut False f.params := by
  cases kind with
  | array =>
      simp only [scalarPredicate] at h
      split at h
      · cases h
      · split at h
        · cases h
          exact .of_outline hv
        · split at h
          · cases h
            exact .of_outline hv
          · cases h
  | time =>
      simp only [scalarPredicate] at h
      split at h
      · cases h
      · next moment hmoment =>
          cases h
          exact .of_outline ((Value.outline_toInstant hmoment).trans hv)
  | _ =>
      cases h
      exact .of_outline hv

/-- Adjusting a list adjusts its elements, and each of them keeps its outline. -/
theorem outlines_adjusted {key : Key} {values ws : List Value}
    (h : adjusted key (.array values) = .array ws) :
    ws.map Value.outline = values.map Value.outline := by
  rw [adjusted] at h
  split at h
  · cases h
    rfl
  · cases h
    simp [Value.outline_apply]

/-- The parameters of one entry. -/
theorem typedBut_entry {raw : String} {v : Value} {f : Fragment}
    (h : scope.entry raw offset v = .ok f) : TypedBut (scope.ListsEmpty (raw, v)) f.params := by
  obtain ⟨key, hkey, hf⟩ := entry_eq_ok_iff.1 h
  have houtline : (adjusted key v).outline = v.outline := Value.outline_adjusted key v
  -- only a list can have an empty list in it
  have hother : (∀ values, v ≠ .array values) → ¬ scope.ListsEmpty (raw, v) := by
    rintro hv ⟨-, values, -, -, hvalues, -⟩
    exact hv values hvalues
  cases hadjusted : adjusted key v with
  | null =>
      rw [hadjusted] at houtline
      obtain rfl := Value.outline_eq_null_iff.1 houtline.symm
      simp only [keyed, hadjusted, nullPredicate] at hf
      split at hf
      · cases hf
        exact TypedBut.nil.congr (iff_of_false id (hother (by simp)))
      · cases hf
  | array ws =>
      simp only [keyed, hadjusted] at hf
      rw [hadjusted] at houtline
      cases v with
      | array values =>
          have hmem := Value.emptyList_mem_congr (outlines_adjusted hadjusted)
          refine (typedBut_listPredicate hf).congr ?_
          constructor
          · rintro ⟨hasks, hempty⟩
            exact ⟨key, values, hkey, hasks, rfl, hmem.1 hempty⟩
          · rintro ⟨key', values', hkey', hasks, hvalues, hempty⟩
            cases hkey.symm.trans hkey'
            cases hvalues
            exact ⟨hasks, hmem.2 hempty⟩
      | _ => cases houtline
  | _ =>
      have hscalar : (adjusted key v).outline = .scalar := by rw [hadjusted]; rfl
      rw [keyed_of_scalar hscalar] at hf
      refine (typedBut_scalarPredicate hscalar hf).congr (iff_of_false id (hother ?_))
      rintro values rfl
      cases houtline.symm.trans hscalar

/-! ### Trees -/

mutual

theorem typedBut_node {key : String} {r : List String × List Value} :
    {offset : Nat} → (node : Node) → scope.node key offset node = .ok r →
      TypedBut (∃ leaf ∈ Conditions.leavesAt key node, scope.ListsEmpty leaf) r.2
  | _, .undefined, h => by
      cases node_undefined.symm.trans h
      exact TypedBut.nil.congr (by simp [Conditions.leavesAt])
  | _, .value v, h => by
      obtain ⟨-, f, hf, rfl⟩ := node_value_eq_ok_iff.1 h
      exact (typedBut_entry hf).congr (by simp [Conditions.leavesAt])
  | _, .group elements, h => by
      obtain ⟨-, a, ha, rfl⟩ := node_group_eq_ok_iff.1 h
      have hgroup := typedBut_group elements ha
      split
      · -- a group without predicates has no elements
        next hnil =>
          cases elements with
          | nil =>
              exact TypedBut.nil.congr (by simp [Conditions.leavesAt, Conditions.leavesInGroup])
          | cons element elements =>
              obtain ⟨b, c, -, -, rfl⟩ := group_cons_eq_ok_iff.1 ha
              cases hnil
      · exact hgroup

theorem typedBut_predicates {r : List String × List Value} :
    {offset : Nat} → (entries : List (String × Node)) → scope.predicates offset entries = .ok r →
      TypedBut (∃ leaf ∈ Conditions.leaves entries, scope.ListsEmpty leaf) r.2
  | _, [], h => by
      cases h
      exact TypedBut.nil.congr (by simp [Conditions.leaves])
  | _, (key, node) :: entries, h => by
      obtain ⟨a, b, ha, hb, rfl⟩ := predicates_cons_eq_ok_iff.1 h
      refine ((typedBut_node node ha).append (typedBut_predicates entries hb)).congr ?_
      rw [Conditions.leaves]
      simp only [List.mem_append, or_and_right, exists_or]

theorem typedBut_group {r : List String × List Value} :
    {offset : Nat} → (elements : List (List (String × Node))) →
      scope.group offset elements = .ok r →
        TypedBut (∃ leaf ∈ Conditions.leavesInGroup elements, scope.ListsEmpty leaf) r.2
  | _, [], h => by
      cases group_nil.symm.trans h
      exact TypedBut.nil.congr (by simp [Conditions.leavesInGroup])
  | _, element :: elements, h => by
      obtain ⟨a, b, ha, hb, rfl⟩ := group_cons_eq_ok_iff.1 h
      refine ((typedBut_predicates element ha).append (typedBut_group elements hb)).congr ?_
      rw [Conditions.leavesInGroup]
      simp only [List.mem_append, or_and_right, exists_or]

end

/-- **The parameters of a compiled tree** have types but for the empty lists that are members of
lists. -/
theorem typedBut_compile {conditions : Conditions} {p : Predicate}
    (h : scope.compile conditions offset = .ok p) :
    TypedBut (scope.HasEmptyMember conditions) p.params := by
  obtain ⟨a, ha, rfl⟩ := compile_eq_ok_iff.1 h
  exact typedBut_predicates conditions ha

end Scope

end SqlFilter

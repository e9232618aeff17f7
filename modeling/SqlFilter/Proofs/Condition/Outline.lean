/-
**Values stay out of the text.**

Two trees with the same keys, the same groups and the same entries without a value may compare with
quite different values: as long as the values have the same *outline*, the compiled texts are the
same.  The outline of a value says whether it is null, a list, or anything else, and of a list how
long it is and which of its elements are null; nothing more of a value can be seen in a text.

The proof runs the compiler on both trees at once.  What a value is turned into on its way (lower
case, a pattern, a point in time, a document) may differ between the runs, and even fail in one of
them; its outline does not.

Main definitions:

* `SqlFilter.Value.outline`: what a text may depend on;
* `SqlFilter.Conditions.alike`: trees that differ in values of the same outline only;
* `SqlFilter.Fragment.SameText`, `SqlFilter.Scope.SameTexts`: results of two runs that differ in
  their parameters only.

Main results:

* `SqlFilter.Value.outline_adjusted`: adjusting a value keeps its outline;
* `SqlFilter.Scope.sameText_entry`: the predicates of values of the same outline have the same text;
* `SqlFilter.Scope.compile_alike`: **the text of a compiled tree does not depend on its values**.
-/

import SqlFilter.Proofs.Condition.Inversion

set_option relaxedAutoImplicit false
set_option autoImplicit false

namespace SqlFilter

/-! ### Outlines -/

/-- What can be seen of a value in a text. -/
inductive Outline where
  | null
  | scalar
  /-- For each element of a list, whether it is null. -/
  | list (nulls : List Bool)
  deriving Repr, DecidableEq

namespace Value

/-- The outline of a value. -/
def outline : Value → Outline
  | .null => .null
  | .array values => .list (values.map isNull)
  | _ => .scalar

theorem isNull_apply (adjustment : ValueAdjustment) (v : Value) :
    (adjustment.apply v).isNull = v.isNull := by
  cases adjustment <;> cases v <;> rfl

/-- Adjusting a value for its operator keeps its outline. -/
theorem outline_adjusted (key : Key) (v : Value) : (Scope.adjusted key v).outline = v.outline := by
  cases hadj : key.adjustment with
  | none => simp only [Scope.adjusted, hadj]
  | some adjustment =>
      cases v with
      | array values => simp [Scope.adjusted, hadj, outline, isNull_apply, Function.comp_def]
      | _ => cases adjustment <;> simp [Scope.adjusted, hadj, ValueAdjustment.apply, outline]

end Value

namespace Conditions

mutual

/-- Entries' sides that differ in values of the same outline only. -/
def alikeNode : Node → Node → Prop
  | .undefined, .undefined => True
  | .value v, .value w => v.outline = w.outline
  | .group xs, .group ys => alikeGroup xs ys
  | _, _ => False

/-- Trees with the same keys in the same order, the same groups and the same entries without a
value, that differ in values of the same outline only. -/
def alike : List (String × Node) → List (String × Node) → Prop
  | [], [] => True
  | (key, node) :: xs, (key', node') :: ys => key = key' ∧ alikeNode node node' ∧ alike xs ys
  | _, _ => False

/-- The same for the elements of groups. -/
def alikeGroup : List (List (String × Node)) → List (List (String × Node)) → Prop
  | [], [] => True
  | x :: xs, y :: ys => alike x y ∧ alikeGroup xs ys
  | _, _ => False

end

end Conditions

/-! ### Two runs -/

/-- The same text with as many parameters. -/
def Fragment.SameText (f g : Fragment) : Prop :=
  f.sql = g.sql ∧ f.params.length = g.params.length

namespace Scope

variable {scope : Scope} {offset : Nat}

/-- The same texts with as many parameters. -/
def SameTexts (a b : List String × List Value) : Prop :=
  a.1 = b.1 ∧ a.2.length = b.2.length

/-! ### One entry -/

theorem sameText_binary (key : Key) {f g : Fragment} (h : f.SameText g) :
    (binary key f).SameText (binary key g) :=
  ⟨by simp only [binary, h.1], h.2⟩

theorem sameText_bindList (offset : Nat) {vs ws : List Value} (h : vs.length = ws.length) :
    (Fragment.bindList offset vs).SameText (Fragment.bindList offset ws) := by
  cases vs with
  | nil =>
      cases ws with
      | nil => exact ⟨rfl, rfl⟩
      | cons w ws => simp at h
  | cons v vs =>
      cases ws with
      | nil => simp at h
      | cons w ws => exact ⟨rfl, rfl⟩

theorem sameTexts_members {kind : ColumnKind} {vs ws : List Value} {a b : List String × List Value}
    (h : vs.map Value.isNull = ws.map Value.isNull) (ha : members kind offset vs = .ok a)
    (hb : members kind offset ws = .ok b) : SameTexts a b := by
  induction vs generalizing ws offset a b with
  | nil =>
      cases ws with
      | nil =>
          cases ha.symm.trans hb
          exact ⟨rfl, rfl⟩
      | cons w ws => simp at h
  | cons v vs ih =>
      cases ws with
      | nil => simp at h
      | cons w ws =>
          simp only [List.map_cons, List.cons.injEq] at h
          obtain ⟨hnull, hrest⟩ := h
          cases hv : v.isNull with
          | true =>
              obtain ⟨c, hc, rfl⟩ := (members_cons_of_null hv).1 ha
              obtain ⟨d, hd, rfl⟩ := (members_cons_of_null (hnull ▸ hv)).1 hb
              obtain ⟨hsqls, hparams⟩ := ih hrest hc hd
              exact ⟨by simp [hsqls], hparams⟩
          | false =>
              -- what the two elements become may differ: only that they are bound counts
              obtain ⟨_, c, -, hc, rfl⟩ := (members_cons_of_not_null hv).1 ha
              obtain ⟨_, d, -, hd, rfl⟩ := (members_cons_of_not_null (hnull ▸ hv)).1 hb
              obtain ⟨hsqls, hparams⟩ := ih hrest hc hd
              exact ⟨by simp [hsqls], by simp [hparams]⟩

theorem sameText_membership {key : Key} {kind : ColumnKind} {vs ws : List Value} {f g : Fragment}
    (h : vs.map Value.isNull = ws.map Value.isNull) (hf : membership key kind offset vs = .ok f)
    (hg : membership key kind offset ws = .ok g) : f.SameText g := by
  obtain ⟨-, a, ha, rfl⟩ := membership_eq_ok_iff.1 hf
  obtain ⟨-, b, hb, rfl⟩ := membership_eq_ok_iff.1 hg
  obtain ⟨hsqls, hparams⟩ := sameTexts_members h ha hb
  exact ⟨by simp only [hsqls], hparams⟩

theorem sameText_listPredicate {key : Key} {kind : ColumnKind} {vs ws : List Value}
    {f g : Fragment} (h : vs.map Value.isNull = ws.map Value.isNull)
    (hf : listPredicate key kind offset vs = .ok f)
    (hg : listPredicate key kind offset ws = .ok g) : f.SameText g := by
  have hlist := sameText_bindList offset (by simpa using congrArg List.length h)
  cases kind with
  | array =>
      simp only [listPredicate] at hf hg
      split at hf
      · cases hf
        cases (if_pos ‹_›).symm.trans hg
        exact sameText_binary key hlist
      · cases hf
  | json =>
      simp only [listPredicate] at hf hg
      split at hf
      · cases hf
        cases (if_pos ‹_›).symm.trans hg
        exact sameText_binary key hlist
      · rw [if_neg ‹_›] at hg
        split at hf
        · cases hf
          cases (if_pos ‹_›).symm.trans hg
          exact sameText_binary key ⟨rfl, rfl⟩
        · cases hf
  | _ =>
      simp only [listPredicate] at hf hg
      split at hf
      · rw [if_pos ‹_›] at hg
        exact sameText_membership h hf hg
      · rw [if_neg ‹_›] at hg
        cases hquantifier : key.comparison.quantifier? with
        | none =>
            rw [hquantifier] at hf
            cases hf
        | some quantifier =>
            rw [hquantifier] at hf hg
            cases hf
            cases hg
            exact sameText_binary key ⟨by rw [hlist.1], hlist.2⟩

/-- Of a value that is neither null nor a list the text shows nothing at all. -/
theorem sameText_scalarPredicate {key : Key} {kind : ColumnKind} {v w : Value} {f g : Fragment}
    (hf : scope.scalarPredicate key kind offset v = .ok f)
    (hg : scope.scalarPredicate key kind offset w = .ok g) : f.SameText g := by
  cases kind with
  | array =>
      simp only [scalarPredicate] at hf hg
      split at hf
      · cases hf
      · rw [if_neg ‹_›] at hg
        split at hf
        · cases hf
          cases (if_pos ‹_›).symm.trans hg
          exact ⟨rfl, rfl⟩
        · rw [if_neg ‹_›] at hg
          split at hf
          · cases hf
            cases (if_pos ‹_›).symm.trans hg
            exact ⟨rfl, rfl⟩
          · cases hf
  | time =>
      simp only [scalarPredicate] at hf hg
      split at hf
      · cases hf
      · split at hg
        · cases hg
        · cases hf
          cases hg
          exact ⟨rfl, rfl⟩
  | _ =>
      cases hf
      cases hg
      exact ⟨rfl, rfl⟩

/-- A value that is neither null nor a list goes the way of such values. -/
theorem keyed_of_scalar {key : Key} {v : Value} (h : (adjusted key v).outline = .scalar) :
    scope.keyed key offset v =
      scope.scalarPredicate key (scope.kindOf key.field) offset (adjusted key v) := by
  rw [keyed]
  split
  · next hnull => rw [hnull] at h; cases h
  · next values hvalues => rw [hvalues] at h; cases h
  · rfl

theorem sameText_keyed {key : Key} {v w : Value} {f g : Fragment} (h : v.outline = w.outline)
    (hf : scope.keyed key offset v = .ok f) (hg : scope.keyed key offset w = .ok g) :
    f.SameText g := by
  -- the compiler looks at the adjusted values only, and these have the same outline, too
  rw [← Value.outline_adjusted key v, ← Value.outline_adjusted key w] at h
  cases hv : adjusted key v with
  | null =>
      cases hw : adjusted key w <;>
        simp only [hv, hw, Value.outline, reduceCtorEq] at h
      simp only [keyed, hv, hw] at hf hg
      cases hf.symm.trans hg
      exact ⟨rfl, rfl⟩
  | array vs =>
      cases hw : adjusted key w <;>
        simp only [hv, hw, Value.outline, reduceCtorEq, Outline.list.injEq] at h
      simp only [keyed, hv, hw] at hf hg
      exact sameText_listPredicate h hf hg
  | _ =>
      have hscalar : (adjusted key v).outline = .scalar := by rw [hv]; rfl
      rw [keyed_of_scalar hscalar] at hf
      rw [keyed_of_scalar (h ▸ hscalar)] at hg
      exact sameText_scalarPredicate hf hg

/-- The predicates of one key for values of the same outline have the same text. -/
theorem sameText_entry {raw : String} {v w : Value} {f g : Fragment} (h : v.outline = w.outline)
    (hf : scope.entry raw offset v = .ok f) (hg : scope.entry raw offset w = .ok g) :
    f.SameText g := by
  obtain ⟨key, hkey, hf'⟩ := entry_eq_ok_iff.1 hf
  obtain ⟨key', hkey', hg'⟩ := entry_eq_ok_iff.1 hg
  cases hkey.symm.trans hkey'
  exact sameText_keyed h hf' hg'

/-! ### Trees -/

mutual

theorem sameTexts_node {offset : Nat} {key : String} {a b : List String × List Value} :
    {x y : Node} → Conditions.alikeNode x y → scope.node key offset x = .ok a →
      scope.node key offset y = .ok b → SameTexts a b
  | .undefined, .undefined, _, ha, hb => by
      cases ha.symm.trans hb
      exact ⟨rfl, rfl⟩
  | .value _, .value _, h, ha, hb => by
      obtain ⟨-, f, hf, rfl⟩ := node_value_eq_ok_iff.1 ha
      obtain ⟨-, g, hg, rfl⟩ := node_value_eq_ok_iff.1 hb
      obtain ⟨hsql, hparams⟩ := sameText_entry h hf hg
      exact ⟨by rw [hsql], hparams⟩
  | .group _, .group _, h, ha, hb => by
      obtain ⟨-, c, hc, rfl⟩ := node_group_eq_ok_iff.1 ha
      obtain ⟨-, d, hd, rfl⟩ := node_group_eq_ok_iff.1 hb
      obtain ⟨hsqls, hparams⟩ := sameTexts_group h hc hd
      rw [hsqls]
      split
      · exact ⟨rfl, rfl⟩
      · exact ⟨rfl, hparams⟩
  | .undefined, .value _, h, _, _ | .undefined, .group _, h, _, _ | .value _, .undefined, h, _, _
  | .value _, .group _, h, _, _ | .group _, .undefined, h, _, _ | .group _, .value _, h, _, _ =>
      h.elim

theorem sameTexts_predicates {offset : Nat} {a b : List String × List Value} :
    {xs ys : List (String × Node)} → Conditions.alike xs ys →
      scope.predicates offset xs = .ok a → scope.predicates offset ys = .ok b → SameTexts a b
  | [], [], _, ha, hb => by
      cases ha.symm.trans hb
      exact ⟨rfl, rfl⟩
  | (_, _) :: _, (_, _) :: _, h, ha, hb => by
      obtain ⟨rfl, hnode, hrest⟩ := h
      -- equal numbers of parameters in front keep the offsets of the two runs equal
      obtain ⟨a₁, a₂, ha₁, ha₂, rfl⟩ := predicates_cons_eq_ok_iff.1 ha
      obtain ⟨b₁, b₂, hb₁, hb₂, rfl⟩ := predicates_cons_eq_ok_iff.1 hb
      obtain ⟨hsqls, hparams⟩ := sameTexts_node hnode ha₁ hb₁
      rw [← hparams] at hb₂
      obtain ⟨hsqls', hparams'⟩ := sameTexts_predicates hrest ha₂ hb₂
      exact ⟨by simp [hsqls, hsqls'], by simp [hparams, hparams']⟩
  | [], _ :: _, h, _, _ | _ :: _, [], h, _, _ => h.elim

theorem sameTexts_group {offset : Nat} {a b : List String × List Value} :
    {xs ys : List (List (String × Node))} → Conditions.alikeGroup xs ys →
      scope.group offset xs = .ok a → scope.group offset ys = .ok b → SameTexts a b
  | [], [], _, ha, hb => by
      cases ha.symm.trans hb
      exact ⟨rfl, rfl⟩
  | _ :: _, _ :: _, h, ha, hb => by
      obtain ⟨a₁, a₂, ha₁, ha₂, rfl⟩ := group_cons_eq_ok_iff.1 ha
      obtain ⟨b₁, b₂, hb₁, hb₂, rfl⟩ := group_cons_eq_ok_iff.1 hb
      obtain ⟨hsqls, hparams⟩ := sameTexts_predicates h.1 ha₁ hb₁
      rw [← hparams] at hb₂
      obtain ⟨hsqls', hparams'⟩ := sameTexts_group h.2 ha₂ hb₂
      exact ⟨by simp [hsqls, hsqls'], by simp [hparams, hparams']⟩
  | [], _ :: _, h, _, _ | _ :: _, [], h, _, _ => h.elim

end

/-- **The text of a compiled tree does not depend on its values**: trees that differ in values of
the same outline only, compiled for the same table at the same offset, have the same text and the
same number of parameters, whenever both compile. -/
theorem compile_alike {xs ys : Conditions} {p q : Predicate} (h : Conditions.alike xs ys)
    (hp : scope.compile xs offset = .ok p) (hq : scope.compile ys offset = .ok q) :
    p.sql = q.sql ∧ p.nextOffset = q.nextOffset ∧ p.params.length = q.params.length := by
  obtain ⟨a, ha, rfl⟩ := compile_eq_ok_iff.1 hp
  obtain ⟨b, hb, rfl⟩ := compile_eq_ok_iff.1 hq
  obtain ⟨hsqls, hparams⟩ := sameTexts_predicates h ha hb
  exact ⟨by rw [hsqls], by rw [hparams], hparams⟩

/-- Neither a text that looks like a statement nor one that looks like a placeholder is seen. -/
theorem compile_alike_or :
    ∃ p q, (Scope.mk (fun _ => .scalar) "").compile
        [("or", .group [[("name =", .value (.text "' OR TRUE; --"))],
          [("id", .value (.array [.int 1, .null]))]])] 0 = .ok p ∧
      (Scope.mk (fun _ => .scalar) "").compile
        [("or", .group [[("name =", .value (.int 7))],
          [("id", .value (.array [.text "$1", .null]))]])] 0 = .ok q ∧
      p.params ≠ q.params ∧ p.sql = q.sql := by
  have hfirst : (Scope.mk (fun _ => .scalar) "").compile
      [("or", .group [[("name =", .value (.text "' OR TRUE; --"))],
        [("id", .value (.array [.int 1, .null]))]])] 0 = .ok
      ⟨"((\"name\" = $1) OR (\"id\" IN ($2, NULL)))", [.text "' OR TRUE; --", .int 1], 2⟩ := rfl
  have hsecond : (Scope.mk (fun _ => .scalar) "").compile
      [("or", .group [[("name =", .value (.int 7))],
        [("id", .value (.array [.text "$1", .null]))]])] 0 = .ok
      ⟨"((\"name\" = $1) OR (\"id\" IN ($2, NULL)))", [.int 7, .text "$1"], 2⟩ := rfl
  have hsql := (compile_alike (by simp [Conditions.alike, Conditions.alikeNode,
    Conditions.alikeGroup, Value.outline, Value.isNull]) hfirst hsecond).1
  exact ⟨_, _, hfirst, hsecond, by simp, hsql⟩

end Scope

end SqlFilter

/-
**Compiled conditions are templates.**

Whether conditions compile, with which parameters, and where the placeholders stand does not depend
on how many parameters come before them: the offset only says from where the placeholders are
numbered.  So every step of the compiler is a *uniform* run: at every offset it fails with one
error, or it fills one template and gives one list of parameters, one for each gap.

Main definitions:

* `SqlFilter.Fragment.Drawn`: a fragment that is a template, filled, at every offset;
* `SqlFilter.Scope.Uniform`, `SqlFilter.Scope.UniformAll`: uniform runs, with one text or several;
* `SqlFilter.Scope.DollarIn`, `SqlFilter.Scope.DollarAmong`: where a dollar sign in a template can
  come from.

Main results:

* `SqlFilter.Scope.uniform_entry`: the predicate of a key and a value is a uniform run;
* `SqlFilter.Scope.uniform_predicates`: so are the predicates of a tree;
* `SqlFilter.Scope.compile_uniform`: a tree fails with one error or is one template, at every
  offset.
-/

import SqlFilter.Proofs.Condition.Leaves
import SqlFilter.Proofs.Condition.Reference
import SqlFilter.Proofs.Template

set_option relaxedAutoImplicit false
set_option autoImplicit false

namespace SqlFilter

open Template (Sound fillAll ofText)

/-! ### Fragments -/

namespace Fragment

/-- The fragment is the template, filled, at every offset, always with the same parameters. -/
structure Draws (fragment : Nat → Fragment) (t : Template) (params : List Value) : Prop where
  gaps : t.gaps = params.length
  sql : ∀ offset, (fragment offset).sql.toList = t.fill offset
  params : ∀ offset, (fragment offset).params = params

/-- Some template from which placeholders can be read back is the fragment at every offset. -/
def Drawn (source : Prop) (fragment : Nat → Fragment) : Prop :=
  ∃ t params, Sound source t ∧ Draws fragment t params

theorem drawn_text {source : Prop} {sql : String} (h : '$' ∈ sql.toList → source) :
    Drawn source fun _ => ⟨sql, []⟩ :=
  ⟨ofText sql.toList, [], Sound.ofText h, by simp, fun offset => by simp, fun _ => rfl⟩

theorem drawn_bind (source : Prop) (v : Value) : Drawn source fun offset => bind offset v :=
  ⟨Template.gap, [v], Sound.gap, by simp, fun offset => by simp [bind], fun _ => rfl⟩

theorem drawn_bindList (source : Prop) (values : List Value) :
    Drawn source fun offset => bindList offset values := by
  cases values with
  | nil => exact drawn_text fun h => absurd h (by decide)
  | cons v vs => exact drawn_bind source _

/-- Text in front of a fragment. -/
theorem Drawn.behind {source : Prop} {fragment : Nat → Fragment} (h : Drawn source fragment)
    {front : String} (hfront : '$' ∈ front.toList → source) :
    Drawn source fun offset => ⟨front ++ (fragment offset).sql, (fragment offset).params⟩ := by
  obtain ⟨t, params, ht, hdraws⟩ := h
  refine ⟨ofText front.toList ++ t, params, ht.text_append hfront, ?_, ?_, hdraws.params⟩
  · simp [hdraws.gaps]
  · intro offset
    simp [hdraws.sql]

/-- Text behind a fragment; it must not start with a digit, which could go on with a number. -/
theorem Drawn.before {source : Prop} {fragment : Nat → Fragment} (h : Drawn source fragment)
    {back : String} (hback : '$' ∈ back.toList → source)
    (hfirst : ∀ c ∈ back.toList.head?, c.isDigit = false) :
    Drawn source fun offset => ⟨(fragment offset).sql ++ back, (fragment offset).params⟩ := by
  obtain ⟨t, params, ht, hdraws⟩ := h
  refine ⟨t ++ ofText back.toList, params, ht.append (Sound.ofText hback) ?_, ?_, ?_,
    hdraws.params⟩
  · exact Template.noDigitFirst_ofText hfirst
  · simp [hdraws.gaps]
  · intro offset
    simp [hdraws.sql]

end Fragment

namespace Scope

open Fragment (Drawn)

/-! ### Uniform runs -/

/-- At every offset the run fails with one error, or fills one template with one list of
parameters. -/
def Uniform (source : Prop) (run : Nat → Except Error Fragment) : Prop :=
  (∃ e, ∀ offset, run offset = .error e) ∨
    ∃ fragment, Drawn source fragment ∧ ∀ offset, run offset = .ok (fragment offset)

/-- The texts are templates, filled one behind the other, always with the same parameters. -/
structure DrawAll (sqls : Nat → List String) (ts : List Template) (params : List Value) : Prop where
  gaps : Template.gaps ts.flatten = params.length
  sqls : ∀ offset, (sqls offset).map String.toList = fillAll offset ts

/-- The same for a run that gives several texts. -/
def UniformAll (source : Prop) (run : Nat → Except Error (List String × List Value)) : Prop :=
  (∃ e, ∀ offset, run offset = .error e) ∨
    ∃ ts params sqls, (∀ t ∈ ts, Sound source t) ∧ DrawAll sqls ts params ∧
      ∀ offset, run offset = .ok (sqls offset, params)

theorem uniform_error (source : Prop) (e : Error) : Uniform source fun _ => .error e :=
  Or.inl ⟨e, fun _ => rfl⟩

theorem uniform_ok {source : Prop} {fragment : Nat → Fragment} (h : Drawn source fragment) :
    Uniform source fun offset => .ok (fragment offset) :=
  Or.inr ⟨fragment, h, fun _ => rfl⟩

theorem uniformAll_nil (source : Prop) : UniformAll source fun _ => .ok ([], []) :=
  Or.inr ⟨[], [], fun _ => [], fun t ht => by simp at ht, ⟨rfl, fun _ => rfl⟩, fun _ => rfl⟩

theorem Uniform.mono {source other : Prop} (himp : source → other)
    {run : Nat → Except Error Fragment} (h : Uniform source run) : Uniform other run := by
  rcases h with h | ⟨fragment, ⟨t, params, ht, hdraws⟩, hrun⟩
  · exact Or.inl h
  · exact Or.inr ⟨fragment, ⟨t, params, ht.mono himp, hdraws⟩, hrun⟩

theorem UniformAll.mono {source other : Prop} (himp : source → other)
    {run : Nat → Except Error (List String × List Value)} (h : UniformAll source run) :
    UniformAll other run := by
  rcases h with h | ⟨ts, params, sqls, hts, hdraws, hrun⟩
  · exact Or.inl h
  · exact Or.inr ⟨ts, params, sqls, fun t ht => (hts t ht).mono himp, hdraws, hrun⟩

/-- There are no texts at any offset if there are no templates. -/
theorem DrawAll.eq_nil_iff {sqls : Nat → List String} {ts : List Template} {params : List Value}
    (h : DrawAll sqls ts params) (offset : Nat) : sqls offset = [] ↔ ts = [] := by
  rw [← Template.fillAll_eq_nil_iff offset ts, ← h.sqls offset, List.map_eq_nil_iff]

/-- Texts drawn one behind the other. -/
theorem DrawAll.append {sqls moreSqls : Nat → List String} {ts us : List Template}
    {params moreParams : List Value} (h : DrawAll sqls ts params)
    (hmore : DrawAll moreSqls us moreParams) :
    DrawAll (fun offset => sqls offset ++ moreSqls (offset + params.length)) (ts ++ us)
      (params ++ moreParams) := by
  refine ⟨by simp [h.gaps, hmore.gaps], fun offset => ?_⟩
  rw [List.map_append, h.sqls, hmore.sqls, Template.fillAll_append, h.gaps]

/-- Texts that are joined to one. -/
theorem DrawAll.intercalate {sqls : Nat → List String} {ts : List Template} {params : List Value}
    (h : DrawAll sqls ts params) (sep : String) :
    Fragment.Draws (fun offset => ⟨sep.intercalate (sqls offset), params⟩)
      ((ofText sep.toList).intercalate ts) params := by
  refine ⟨by rw [Template.gaps_intercalate, h.gaps], fun offset => ?_, fun _ => rfl⟩
  rw [String.toList_intercalate, h.sqls, Template.intercalate_fillAll]

/-! ### One entry -/

/-- A dollar sign stands in the reference of a key or in the name of the table. -/
def DollarIn (scope : Scope) (key : Key) : Prop :=
  '$' ∈ key.reference.toList ∨ '$' ∈ scope.qualifier.toList

theorem dollar_not_mem_sql (op : Comparison) : '$' ∉ op.sql.toList := by
  cases op <;> decide

/-- The text in front of an operand has no dollar sign but those of the reference. -/
theorem dollar_mem_binary {key : Key} (h : '$' ∈ (key.reference ++ " " ++ key.comparison.sql ++
    " ").toList) : '$' ∈ key.reference.toList := by
  simpa [dollar_not_mem_sql] using h

theorem drawn_binary {source : Prop} {key : Key} (hkey : '$' ∈ key.reference.toList → source)
    {fragment : Nat → Fragment} (h : Drawn source fragment) :
    Drawn source fun offset => binary key (fragment offset) :=
  h.behind fun hmem => hkey (dollar_mem_binary hmem)

theorem uniform_nullPredicate (scope : Scope) (key : Key) :
    Uniform (scope.DollarIn key) fun _ => nullPredicate key := by
  have hsql : ∀ op : Comparison, ∀ sql, op.nullSql? = some sql → '$' ∉ sql.toList := by
    intro op sql h
    cases op <;> simp only [Comparison.nullSql?, Option.some.injEq, reduceCtorEq] at h <;>
      subst h <;> decide
  cases h : key.comparison.nullSql? with
  | none => simpa [nullPredicate, h] using uniform_error _ _
  | some sql =>
      simp only [nullPredicate, h]
      refine uniform_ok (Fragment.drawn_text fun hmem => Or.inl ?_)
      simpa [hsql _ _ h] using hmem

theorem uniform_members (source : Prop) (kind : ColumnKind) (values : List Value) :
    UniformAll source fun offset => members kind offset values := by
  induction values with
  | nil => exact uniformAll_nil source
  | cons v vs ih =>
      by_cases hnull : v.isNull = true
      · simp only [members, hnull, if_true]
        rcases ih with ⟨e, he⟩ | ⟨ts, params, sqls, hts, hdraws, hrun⟩
        · exact Or.inl ⟨e, fun offset => by simp only [he]⟩
        · refine Or.inr ⟨ofText "NULL".toList :: ts, params, fun offset => "NULL" :: sqls offset,
            ?_, ⟨by simpa using hdraws.gaps, fun offset => ?_⟩, fun offset => by simp only [hrun]⟩
          · intro t ht
            rcases List.mem_cons.1 ht with rfl | ht
            · exact Sound.ofText fun h => absurd h (by decide)
            · exact hts t ht
          · simp [fillAll, hdraws.sqls]
      · simp only [members, if_neg hnull]
        cases hv : memberValue kind v with
        | error e => exact Or.inl ⟨e, fun offset => rfl⟩
        | ok member =>
            simp only []
            rcases ih with ⟨e, he⟩ | ⟨ts, params, sqls, hts, hdraws, hrun⟩
            · exact Or.inl ⟨e, fun offset => by simp only [he]⟩
            · refine Or.inr ⟨Template.gap :: ts, member :: params,
                fun offset => placeholder offset :: sqls (offset + 1), ?_, ⟨?_, fun offset => ?_⟩,
                fun offset => by simp only [hrun]⟩
              · intro t ht
                rcases List.mem_cons.1 ht with rfl | ht
                · exact Sound.gap
                · exact hts t ht
              · simp [hdraws.gaps, Nat.add_comm]
              · simp [fillAll, hdraws.sqls]

theorem uniform_membership {source : Prop} {key : Key} (hkey : '$' ∈ key.reference.toList → source)
    (kind : ColumnKind) (values : List Value) :
    Uniform source fun offset => membership key kind offset values := by
  by_cases hempty : values = []
  · simpa [membership, hempty] using uniform_error source (.emptyArray key.field)
  · simp only [membership, if_neg hempty]
    rcases uniform_members source kind values with ⟨e, he⟩ | ⟨ts, params, sqls, hts, hdraws, hrun⟩
    · exact Or.inl ⟨e, fun offset => by simp only [he]⟩
    · simp only [hrun]
      have hlist : Drawn source fun offset => ⟨", ".intercalate (sqls offset), params⟩ :=
        ⟨_, params, Sound.intercalate (by decide) (by decide) hts, hdraws.intercalate ", "⟩
      have hword : '$' ∉ (if key.comparison = .equal then "IN" else "NOT IN").toList := by
        split <;> decide
      refine uniform_ok ((hlist.behind fun hmem => hkey ?_).before (fun hmem => ?_) ?_)
      · simpa [hword] using hmem
      · exact absurd hmem (by decide)
      · simp

/-- The predicate for a list is a uniform run. -/
theorem uniform_listPredicate {source : Prop} {key : Key}
    (hkey : '$' ∈ key.reference.toList → source) (kind : ColumnKind) (values : List Value) :
    Uniform source fun offset => listPredicate key kind offset values := by
  have hlist : Drawn source fun offset => binary key (.bindList offset values) :=
    drawn_binary hkey (Fragment.drawn_bindList source values)
  cases kind with
  | json =>
      simp only [listPredicate]
      split
      · exact uniform_ok hlist
      · split
        · exact uniform_ok (drawn_binary hkey (Fragment.drawn_bind source _))
        · exact uniform_error _ _
  | array =>
      simp only [listPredicate]
      split
      · exact uniform_ok hlist
      · exact uniform_error _ _
  | _ =>
      simp only [listPredicate]
      split
      · exact uniform_membership hkey _ values
      · split
        · next quantifier _ =>
            have hfront : '$' ∉ (quantifier.sql ++ "(").toList := by cases quantifier <;> decide
            exact uniform_ok (drawn_binary hkey
              (((Fragment.drawn_bindList source values).behind fun h => absurd h hfront).before
                (fun h => absurd h (by decide)) (by simp)))
        · exact uniform_error _ _

/-- The predicate for a value that is neither null nor a list is a uniform run. -/
theorem uniform_scalarPredicate (scope : Scope) (key : Key) (kind : ColumnKind) (v : Value) :
    Uniform (scope.DollarIn key) fun offset => scope.scalarPredicate key kind offset v := by
  have hbinary : ∀ w : Value, Drawn (scope.DollarIn key) fun offset =>
      binary key (.bind offset w) := fun w => drawn_binary Or.inl (Fragment.drawn_bind _ w)
  cases kind with
  | scalar => exact uniform_ok (hbinary v)
  | json => exact uniform_ok (hbinary v)
  | searchVector => exact uniform_ok (hbinary v)
  | time =>
      simp only [scalarPredicate]
      cases v.toInstant with
      | error e => exact uniform_error _ e
      | ok moment => exact uniform_ok (hbinary moment)
  | array =>
      simp only [scalarPredicate]
      split
      · exact uniform_error _ _
      · split
        · -- the number of a placeholder in front of an operator ends at the blank between them
          have hback :
              '$' ∈ (" " ++ (key.comparison.sql ++ (" ANY(" ++ (key.reference ++ ")")))).toList →
                scope.DollarIn key := by
            intro hmem
            exact Or.inl (by simpa [dollar_not_mem_sql] using hmem)
          have hdrawn := (Fragment.drawn_bind (scope.DollarIn key) v).before hback (by simp)
          simpa only [Fragment.bind, String.append_assoc] using uniform_ok hdrawn
        · split
          · have hqualified :
                '$' ∈ (scope.qualified key.reference).toList → scope.DollarIn key := by
              intro hmem
              rw [qualified] at hmem
              split at hmem
              · exact Or.inl hmem
              · have hor : '$' ∈ scope.qualifier.toList ∨ '$' ∈ key.reference.toList := by
                  simpa using hmem
                exact hor.symm
            refine uniform_ok (((Fragment.drawn_bind _ v).behind fun hmem => hqualified ?_).before
              (fun hmem => absurd hmem (by decide)) (by simp))
            simpa [dollar_not_mem_sql] using hmem
          · exact uniform_error _ _

theorem uniform_keyed (scope : Scope) (key : Key) (v : Value) :
    Uniform (scope.DollarIn key) fun offset => scope.keyed key offset v := by
  simp only [keyed]
  split
  · exact uniform_nullPredicate scope key
  · exact uniform_listPredicate Or.inl _ _
  · exact uniform_scalarPredicate scope key _ _

/-- **The predicate of a key and a value is a uniform run**, and a dollar sign in it comes from the
key or from the name of the table. -/
theorem uniform_entry (scope : Scope) (raw : String) (v : Value) :
    Uniform ('$' ∈ raw.toList ∨ '$' ∈ scope.qualifier.toList) fun offset =>
      scope.entry raw offset v := by
  simp only [entry]
  split
  · exact uniform_error _ _
  · next key hkey =>
      refine (uniform_keyed scope key v).mono fun h => h.imp_left fun hmem => ?_
      exact (Key.mem_reference hkey hmem).resolve_right (by decide)

/-! ### Trees -/

/-- A dollar sign stands in one of the keys or in the name of the table. -/
def DollarAmong (scope : Scope) (keys : List String) : Prop :=
  (∃ key ∈ keys, '$' ∈ key.toList) ∨ '$' ∈ scope.qualifier.toList

theorem DollarAmong.mono {scope : Scope} {keys others : List String} (hsub : keys ⊆ others)
    (h : scope.DollarAmong keys) : scope.DollarAmong others :=
  h.imp_left fun ⟨key, hkey, hmem⟩ => ⟨key, hsub hkey, hmem⟩

/-- A run that gives one text. -/
theorem Uniform.single {source : Prop} {run : Nat → Except Error Fragment}
    (h : Uniform source run) :
    UniformAll source fun offset =>
      match run offset with
      | .error e => .error e
      | .ok fragment => .ok ([fragment.sql], fragment.params) := by
  rcases h with ⟨e, he⟩ | ⟨fragment, ⟨t, params, ht, hdraws⟩, hrun⟩
  · exact Or.inl ⟨e, fun offset => by simp only [he]⟩
  · refine Or.inr ⟨[t], params, fun offset => [(fragment offset).sql], by simpa using ht,
      ⟨by simpa using hdraws.gaps, fun offset => ?_⟩, fun offset => ?_⟩
    · simp [fillAll, hdraws.sql]
    · simp only [hrun, hdraws.params]

/-- One run behind another: the second goes on behind the parameters of the first. -/
theorem UniformAll.seq {source : Prop}
    {first second : Nat → Except Error (List String × List Value)}
    (h : UniformAll source first) (hsecond : UniformAll source second) :
    UniformAll source fun offset =>
      match first offset with
      | .error e => .error e
      | .ok (sqls, params) =>
          match second (offset + params.length) with
          | .error e => .error e
          | .ok (moreSqls, moreParams) => .ok (sqls ++ moreSqls, params ++ moreParams) := by
  rcases h with ⟨e, he⟩ | ⟨ts, params, sqls, hts, hdraws, hrun⟩
  · exact Or.inl ⟨e, fun offset => by simp only [he]⟩
  · rcases hsecond with ⟨e, he⟩ | ⟨us, moreParams, moreSqls, hus, hmore, hrun'⟩
    · exact Or.inl ⟨e, fun offset => by simp only [hrun, he]⟩
    · refine Or.inr ⟨ts ++ us, params ++ moreParams, _, fun t ht => ?_, hdraws.append hmore,
        fun offset => by simp only [hrun, hrun']⟩
      exact (List.mem_append.1 ht).elim (hts t) (hus t)

/-- Joined texts in parentheses. -/
theorem DrawAll.enclose {source : Prop} {sqls : Nat → List String} {ts : List Template}
    {params : List Value} (h : DrawAll sqls ts params) (hts : ∀ t ∈ ts, Sound source t)
    (sep : String) (hsep : '$' ∉ sep.toList) (hhead : sep.toList.head? = some ' ') :
    Drawn source fun offset => ⟨"(" ++ sep.intercalate (sqls offset) ++ ")", params⟩ := by
  have hjoined : Sound source ((ofText sep.toList).intercalate ts) := by
    cases hcs : sep.toList with
    | nil => simp [hcs] at hhead
    | cons c cs =>
        have hc : c = ' ' := by simpa [hcs] using hhead
        rw [hcs] at hsep
        exact Sound.intercalate (by rw [hc]; decide) hsep hts
  have hdrawn : Drawn source fun offset => ⟨sep.intercalate (sqls offset), params⟩ :=
    ⟨_, params, hjoined, h.intercalate sep⟩
  exact (hdrawn.behind fun hmem => absurd hmem (by decide)).before
    (fun hmem => absurd hmem (by decide)) (by simp)

theorem joiner_toList (key : String) :
    '$' ∉ (joiner key).toList ∧ (joiner key).toList.head? = some ' ' := by
  rw [joiner]
  split <;> decide

/-- The texts of an element, as one. -/
theorem UniformAll.element {source : Prop} {run : Nat → Except Error (List String × List Value)}
    (h : UniformAll source run) :
    UniformAll source fun offset =>
      match run offset with
      | .error e => .error e
      | .ok (sqls, params) => .ok ([elementSql sqls], params) := by
  rcases h with ⟨e, he⟩ | ⟨ts, params, sqls, hts, hdraws, hrun⟩
  · exact Or.inl ⟨e, fun offset => by simp only [he]⟩
  · have hdrawn : Drawn source fun offset => ⟨elementSql (sqls offset), params⟩ := by
      by_cases hnil : ts = []
      · have hsqls : ∀ offset, sqls offset = [] := fun offset =>
          (hdraws.eq_nil_iff offset).2 hnil
        have hparams : params = [] :=
          List.length_eq_zero_iff.1 (by simpa [hnil] using hdraws.gaps.symm)
        have htrue : Drawn source fun _ => ⟨"(TRUE)", []⟩ :=
          Fragment.drawn_text fun hmem => absurd hmem (by decide)
        simpa [elementSql, hsqls, hparams] using htrue
      · have hsqls : ∀ offset, sqls offset ≠ [] := fun offset =>
          mt (hdraws.eq_nil_iff offset).1 hnil
        simpa only [elementSql, if_neg (hsqls _)] using
          hdraws.enclose hts " AND " (by decide) (by decide)
    simpa only [hrun] using (uniform_ok hdrawn).single

/-- The texts of a group, joined as its key says. -/
theorem UniformAll.joined {source : Prop} {run : Nat → Except Error (List String × List Value)}
    (h : UniformAll source run) (key : String) :
    UniformAll source fun offset =>
      match run offset with
      | .error e => .error e
      | .ok (sqls, params) =>
          if sqls = [] then .ok ([], [])
          else .ok (["(" ++ (joiner key).intercalate sqls ++ ")"], params) := by
  rcases h with ⟨e, he⟩ | ⟨ts, params, sqls, hts, hdraws, hrun⟩
  · exact Or.inl ⟨e, fun offset => by simp only [he]⟩
  · by_cases hnil : ts = []
    · have hsqls : ∀ offset, sqls offset = [] := fun offset => (hdraws.eq_nil_iff offset).2 hnil
      simpa [hrun, hsqls] using uniformAll_nil source
    · have hsqls : ∀ offset, sqls offset ≠ [] := fun offset => mt (hdraws.eq_nil_iff offset).1 hnil
      obtain ⟨hdollar, hhead⟩ := joiner_toList key
      simpa only [hrun, if_neg (hsqls _)] using
        (uniform_ok (hdraws.enclose hts (joiner key) hdollar hhead)).single

mutual

/-- The predicates of an entry are a uniform run. -/
theorem uniform_node (scope : Scope) (key : String) :
    (node : Node) → UniformAll (scope.DollarAmong (Conditions.keysAt key node)) fun offset =>
      scope.node key offset node
  | .undefined => uniformAll_nil _
  | .value v => by
      simp only [Scope.node]
      split
      · exact Or.inl ⟨_, fun _ => rfl⟩
      · refine (uniform_entry scope key v).single.mono fun h => h.imp_left fun hmem => ?_
        exact ⟨key, Conditions.mem_keysAt_self key _, hmem⟩
  | .group elements => by
      simp only [Scope.node]
      split
      · refine ((uniform_group scope elements).joined key).mono fun h => h.mono ?_
        exact List.subset_cons_self _ _
      · exact Or.inl ⟨_, fun _ => rfl⟩

/-- **The predicates of a tree are a uniform run**, and a dollar sign in them comes from a key or
from the name of the table. -/
theorem uniform_predicates (scope : Scope) :
    (entries : List (String × Node)) →
      UniformAll (scope.DollarAmong (Conditions.allKeys entries)) fun offset =>
        scope.predicates offset entries
  | [] => uniformAll_nil _
  | (key, node) :: entries => by
      simp only [predicates_cons]
      exact ((uniform_node scope key node).mono fun h => h.mono (List.subset_append_left _ _)).seq
        ((uniform_predicates scope entries).mono fun h => h.mono (List.subset_append_right _ _))

/-- The predicates of the elements of a group are a uniform run. -/
theorem uniform_group (scope : Scope) :
    (elements : List (List (String × Node))) →
      UniformAll (scope.DollarAmong (Conditions.keysInGroup elements)) fun offset =>
        scope.group offset elements
  | [] => uniformAll_nil _
  | element :: elements => by
      have hseq := (((uniform_predicates scope element).mono fun h =>
          h.mono (List.subset_append_left _ (Conditions.keysInGroup elements))).element).seq
        ((uniform_group scope elements).mono fun h => h.mono (List.subset_append_right _ _))
      refine cast (congrArg _ (funext fun offset => ?_)) hseq
      rw [group]
      cases scope.predicates offset element with
      | error e => rfl
      | ok result => rfl

end

/-- **A tree fails with one error at every offset, or it is one template with one list of
parameters**, filled from the offset on. -/
theorem compile_uniform (scope : Scope) (conditions : Conditions) :
    (∃ e, ∀ offset, scope.compile conditions offset = .error e) ∨
      ∃ t params, Sound (scope.DollarAmong (Conditions.allKeys conditions)) t ∧
        t.gaps = params.length ∧ ∀ offset, scope.compile conditions offset =
          .ok ⟨String.ofList (t.fill offset), params, offset + params.length⟩ := by
  rcases uniform_predicates scope conditions with ⟨e, he⟩ | ⟨ts, params, sqls, hts, hdraws, hrun⟩
  · exact Or.inl ⟨e, fun offset => by simp only [compile, he]⟩
  · have hjoined := hdraws.intercalate " AND "
    have hsound : Sound (scope.DollarAmong (Conditions.allKeys conditions))
        ((ofText " AND ".toList).intercalate ts) := Sound.intercalate (by decide) (by decide) hts
    refine Or.inr ⟨_, params, hsound, hjoined.gaps, fun offset => ?_⟩
    simp only [compile, hrun]
    rw [← hjoined.sql offset, String.ofList_toList]

end Scope

end SqlFilter

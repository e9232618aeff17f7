/-
**The text of a condition tree means what the tree means.**

A tree is a boolean expression over its leaves: the entries of a tree and the elements of an `and`
are joined by conjunction, the elements of an `or` by disjunction, and whatever asks for nothing is
true.  A compiled text is read as such an expression, too, with quotes, parentheses and the
precedence of the connectives heeded.  Whatever the truth values of the leaves are, the two agree.

Names of columns and keys of documents may hold connectives and parentheses; they stand in quotes.

Main definitions:

* `SqlFilter.Conditions.meaning`: the value of a tree;
* `SqlFilter.Scope.IsAtomOf`: the atom of a leaf;
* `SqlFilter.Scope.ReadAs`: predicates with the expressions that they are read as.

Main results:

* `SqlFilter.Scope.factor_elementSql`, `SqlFilter.Scope.factor_groupSql`: elements and groups are
  closed by their parentheses;
* `SqlFilter.Scope.ofSql_compile`: **the meaning of a compiled tree**.
-/

import SqlFilter.Proofs.Condition.Leaves
import SqlFilter.Proofs.Condition.Phrases

set_option relaxedAutoImplicit false
set_option autoImplicit false

namespace SqlFilter

open SqlFilter.Sql (Truth Formula Token Factor Whole tokens)

/-! ### The value of a tree -/

namespace Conditions

mutual

/-- The value of an entry whose first leaf has the number `i`, if the leaves have the values `σ`. -/
def meaningAt (σ : Nat → Truth) (i : Nat) (key : String) : Node → Truth
  | .undefined => .true
  | .value _ => σ i
  | .group elements =>
      if elements.isEmpty then .true
      else if key = "or" then meaningAny σ i elements
      else meaningAll σ i elements

/-- The value of a tree: all of its entries. -/
def meaning (σ : Nat → Truth) (i : Nat) : List (String × Node) → Truth
  | [] => .true
  | (key, node) :: entries =>
      (meaningAt σ i key node).and (meaning σ (i + (leavesAt key node).length) entries)

/-- All elements of a group. -/
def meaningAll (σ : Nat → Truth) (i : Nat) : List (List (String × Node)) → Truth
  | [] => .true
  | element :: elements =>
      (meaning σ i element).and (meaningAll σ (i + (leaves element).length) elements)

/-- One element of a group. -/
def meaningAny (σ : Nat → Truth) (i : Nat) : List (List (String × Node)) → Truth
  | [] => .false
  | element :: elements =>
      (meaning σ i element).or (meaningAny σ (i + (leaves element).length) elements)

end

end Conditions

namespace Scope

open Conditions (allKeys keysAt keysInGroup leaves leavesAt leavesInGroup meaning meaningAt
  meaningAll meaningAny)

/-! ### Elements and groups -/

/-- An element is all of its predicates, also when it has none. -/
theorem factor_elementSql {sqls : List String} {es : List Formula}
    (h : List.Forall₂ Factor (sqls.map String.toList) es) :
    Factor (elementSql sqls).toList (.conjoin es) := by
  cases sqls with
  | nil =>
      cases h
      have htokens : tokens "TRUE".toList = some [.word "TRUE".toList] := by decide
      have htrue : Whole "TRUE".toList .always :=
        ⟨_, _, Sql.Reads.token htokens (by decide) (by decide), rfl⟩
      exact htrue.parens
  | cons sql sqls =>
      have hwhole := Sql.whole_conjoin h (by simp)
      rw [elementSql, if_neg (List.cons_ne_nil sql sqls)]
      simpa using hwhole.parens

/-- What the elements of a group are joined to. -/
def joined (key : String) (es : List Formula) : Formula :=
  if key = "or" then .disjoin es else .conjoin es

/-- A group is closed by its parentheses. -/
theorem factor_groupSql (key : String) {sqls : List String} {es : List Formula}
    (h : List.Forall₂ Factor (sqls.map String.toList) es) (hne : sqls ≠ []) :
    Factor ("(" ++ (joiner key).intercalate sqls ++ ")").toList (joined key es) := by
  have hne' : sqls.map String.toList ≠ [] := by simpa using hne
  have hwhole : Whole ((joiner key).intercalate sqls).toList (joined key es) := by
    rw [joiner, joined, String.toList_intercalate]
    split
    · exact Sql.whole_disjoin h hne'
    · exact Sql.whole_conjoin h hne'
  simpa using hwhole.parens

theorem atoms_joined (key : String) (es : List Formula) :
    (joined key es).atoms = es.flatMap Formula.atoms := by
  rw [joined]
  split
  · exact Formula.atoms_disjoin es
  · exact Formula.atoms_conjoin es

/-! ### Trees -/

/-- The atom of a leaf: the tokens of its predicate, which has its numbers from some offset on. -/
def IsAtomOf (scope : Scope) (leaf : String × Value) (ts : List Token) : Prop :=
  ∃ offset f, scope.entry leaf.1 offset leaf.2 = .ok f ∧ tokens f.sql.toList = some ts

/-- Predicates are read as expressions, whose atoms are those of the leaves. -/
structure ReadAs (scope : Scope) (sqls : List String) (leaves : List (String × Value))
    (es : List Formula) : Prop where
  factors : List.Forall₂ Factor (sqls.map String.toList) es
  atoms : List.Forall₂ scope.IsAtomOf leaves (es.flatMap Formula.atoms)

/-- Keys without quotes. -/
def Quoteless (keys : List String) : Prop :=
  ∀ key ∈ keys, '"' ∉ key.toList ∧ '\'' ∉ key.toList

variable {scope : Scope}

theorem ReadAs.nil : scope.ReadAs [] [] [] := ⟨.nil, .nil⟩

theorem ReadAs.append {sqls sqls' : List String} {ls ls' : List (String × Value)}
    {es es' : List Formula} (h : scope.ReadAs sqls ls es) (h' : scope.ReadAs sqls' ls' es') :
    scope.ReadAs (sqls ++ sqls') (ls ++ ls') (es ++ es') where
  factors := by
    rw [List.map_append]
    exact List.rel_append h.factors h'.factors
  atoms := by
    rw [List.flatMap_append]
    exact List.rel_append h.atoms h'.atoms

/-- The leaves of expressions are counted by their atoms. -/
theorem ReadAs.length_atoms {sqls : List String} {ls : List (String × Value)} {es : List Formula}
    (h : scope.ReadAs sqls ls es) : (es.flatMap Formula.atoms).length = ls.length :=
  h.atoms.length_eq.symm

theorem Quoteless.append {keys others : List String} (h : Quoteless (keys ++ others)) :
    Quoteless keys ∧ Quoteless others :=
  ⟨fun key hkey => h key (List.mem_append_left _ hkey),
    fun key hkey => h key (List.mem_append_right _ hkey)⟩

mutual

/-- An entry is read as nothing or as one expression, which has its value. -/
theorem readAs_node (hscope : scope.HasQuotedQualifier) {offset : Nat} {key : String}
    {r : List String × List Value} :
    (n : Node) → Quoteless (keysAt key n) → scope.node key offset n = .ok r →
      ∃ es, scope.ReadAs r.1 (leavesAt key n) es ∧
        ∀ σ i, Formula.evalAll σ i es = meaningAt σ i key n
  | .undefined, _, h => by
      cases node_undefined.symm.trans h
      exact ⟨[], ReadAs.nil, fun σ i => rfl⟩
  | .value v, hkeys, h => by
      obtain ⟨-, f, hf, rfl⟩ := node_value_eq_ok_iff.1 h
      obtain ⟨hdouble, hsingle⟩ := hkeys key (Conditions.mem_keysAt_self key _)
      -- the predicate of a leaf is an atom, so it takes the one value that is given for it
      obtain ⟨xs, ys, hsql, hxs, hys⟩ := inPhrases_entry hscope hdouble hsingle hf
      obtain ⟨ts, hts, hfactor⟩ := Sql.factor_atom hxs hys
      rw [← hsql] at hts hfactor
      refine ⟨[.atom ts], ⟨.cons hfactor .nil, ?_⟩, fun σ i => ?_⟩
      · exact .cons ⟨offset, f, hf, hts⟩ .nil
      · simp [Formula.evalAll, Formula.eval, meaningAt]
  | .group elements, hkeys, h => by
      obtain ⟨-, a, ha, rfl⟩ := node_group_eq_ok_iff.1 h
      have hkeys' : Quoteless (keysInGroup elements) := fun k hk =>
        hkeys k (by simp [keysAt, hk])
      obtain ⟨es, hreads, hall, hany⟩ := readAs_group hscope elements hkeys' ha
      cases elements with
      | nil =>
          cases group_nil.symm.trans ha
          exact ⟨[], ReadAs.nil, fun σ i => rfl⟩
      | cons element elements =>
          -- each element has a predicate, so there is something to join
          obtain ⟨b, c, -, -, rfl⟩ := group_cons_eq_ok_iff.1 ha
          have hes : es ≠ [] := by
            rintro rfl
            cases hreads.factors
          refine ⟨[joined key es], ⟨?_, ?_⟩, fun σ i => ?_⟩
          · rw [if_neg (List.cons_ne_nil _ _)]
            exact .cons (factor_groupSql key hreads.factors (List.cons_ne_nil _ _)) .nil
          · rw [List.flatMap_singleton, atoms_joined]
            exact hreads.atoms
          · rw [Formula.evalAll, Formula.evalAll, Truth.and_true, joined, meaningAt,
              List.isEmpty_cons, if_neg Bool.false_ne_true]
            split
            · rw [Formula.eval_disjoin σ i hes, hany]
            · rw [Formula.eval_conjoin, hall]

/-- The predicates of a tree are read as expressions, all of which have its value. -/
theorem readAs_predicates (hscope : scope.HasQuotedQualifier) {offset : Nat}
    {r : List String × List Value} :
    (entries : List (String × Node)) → Quoteless (allKeys entries) →
      scope.predicates offset entries = .ok r →
      ∃ es, scope.ReadAs r.1 (leaves entries) es ∧
        ∀ σ i, Formula.evalAll σ i es = meaning σ i entries
  | [], _, h => by
      cases h
      exact ⟨[], ReadAs.nil, fun σ i => rfl⟩
  | (key, node) :: entries, hkeys, h => by
      obtain ⟨a, b, ha, hb, rfl⟩ := predicates_cons_eq_ok_iff.1 h
      obtain ⟨hnode, hrest⟩ := Quoteless.append hkeys
      obtain ⟨es, hreads, heval⟩ := readAs_node hscope node hnode ha
      obtain ⟨es', hreads', heval'⟩ := readAs_predicates hscope entries hrest hb
      refine ⟨es ++ es', hreads.append hreads', fun σ i => ?_⟩
      rw [Formula.evalAll_append, heval, heval', hreads.length_atoms, meaning]

/-- The elements of a group are read as one expression each. -/
theorem readAs_group (hscope : scope.HasQuotedQualifier) {offset : Nat}
    {r : List String × List Value} :
    (elements : List (List (String × Node))) → Quoteless (keysInGroup elements) →
      scope.group offset elements = .ok r →
      ∃ es, scope.ReadAs r.1 (leavesInGroup elements) es ∧
        (∀ σ i, Formula.evalAll σ i es = meaningAll σ i elements) ∧
          ∀ σ i, Formula.evalAny σ i es = meaningAny σ i elements
  | [], _, h => by
      cases group_nil.symm.trans h
      exact ⟨[], ReadAs.nil, fun σ i => rfl, fun σ i => rfl⟩
  | element :: elements, hkeys, h => by
      obtain ⟨a, b, ha, hb, rfl⟩ := group_cons_eq_ok_iff.1 h
      obtain ⟨helement, hrest⟩ := Quoteless.append hkeys
      obtain ⟨es, hreads, heval⟩ := readAs_predicates hscope element helement ha
      obtain ⟨es', hreads', hall, hany⟩ := readAs_group hscope elements hrest hb
      have hatoms : (Formula.conjoin es).atoms = es.flatMap Formula.atoms :=
        Formula.atoms_conjoin es
      refine ⟨.conjoin es :: es', ⟨.cons (factor_elementSql hreads.factors) hreads'.factors, ?_⟩,
        fun σ i => ?_, fun σ i => ?_⟩
      · rw [List.flatMap_cons, hatoms]
        exact List.rel_append hreads.atoms hreads'.atoms
      · rw [Formula.evalAll, Formula.eval_conjoin, heval, hall, hatoms, hreads.length_atoms,
          meaningAll]
      · rw [Formula.evalAny, Formula.eval_conjoin, heval, hany, hatoms, hreads.length_atoms,
          meaningAny]

end

/-- **The meaning of a compiled tree**: its text is read as an expression, the atoms of which are
those of the leaves in the order of the tree, and whatever values the leaves have, the expression
has the value of the tree. -/
theorem ofSql_compile {conditions : Conditions} {offset : Nat} {p : Predicate}
    (hscope : scope.HasQuotedQualifier) (hkeys : Quoteless (allKeys conditions))
    (h : scope.compile conditions offset = .ok p) :
    ∃ e, Formula.ofSql p.sql.toList = some e ∧
      List.Forall₂ scope.IsAtomOf (leaves conditions) e.atoms ∧
        ∀ σ, e.eval σ 0 = meaning σ 0 conditions := by
  obtain ⟨a, ha, rfl⟩ := compile_eq_ok_iff.1 h
  obtain ⟨es, hreads, heval⟩ := readAs_predicates hscope conditions hkeys ha
  refine ⟨.conjoin es, ?_, ?_, fun σ => ?_⟩
  · rw [String.toList_intercalate]
    by_cases hne : a.1 = []
    · -- nothing is asked for, and the text is empty
      have hes : es = [] := by
        have hfactors := hreads.factors
        rw [hne] at hfactors
        cases hfactors
        rfl
      rw [hne, hes]
      rfl
    · exact (Sql.whole_conjoin hreads.factors (by simpa using hne)).ofSql
  · rw [Formula.atoms_conjoin]
    exact hreads.atoms
  · rw [Formula.eval_conjoin, heval]

/-- A column and a key of a document that look like connectives, and an element without a
predicate. -/
def connectiveNames : Conditions :=
  [("or", .group [[("x) OR (y", .value (.int 1)), ("b", .undefined)],
      [("and", .group [[("data->k AND l", .value (.text "t"))], []])]]),
    ("c", .value (.array [.int 1, .null]))]

theorem ofSql_compile_connectiveNames :
    ∃ p e, (Scope.mk (fun _ => .scalar) "\"users\"").compile connectiveNames 0 = .ok p ∧
      Formula.ofSql p.sql.toList = some e ∧ e.atoms.length = 3 ∧
        ∀ σ, e.eval σ 0 = ((σ 0).or (σ 1)).and (σ 2) := by
  have hor : (Scope.mk (fun _ => .scalar) "\"users\"").node "or" 0
      (.group [[("x) OR (y", .value (.int 1)), ("b", .undefined)],
        [("and", .group [[("data->k AND l", .value (.text "t"))], []])]]) = .ok
      (["((\"x) OR (y\" = $1) OR (((\"data\"->'k AND l' = $2) AND (TRUE))))"],
        [.int 1, .text "t"]) := rfl
  have hlist : (Scope.mk (fun _ => .scalar) "\"users\"").predicates 2
      [("c", .value (.array [.int 1, .null]))] = .ok (["\"c\" IN ($3, NULL)"], [.int 1]) := rfl
  have hcompile : (Scope.mk (fun _ => .scalar) "\"users\"").compile connectiveNames 0 = .ok
      ⟨"((\"x) OR (y\" = $1) OR (((\"data\"->'k AND l' = $2) AND (TRUE)))) AND \"c\" IN ($3, NULL)",
        [.int 1, .text "t", .int 1], 3⟩ := by
    rw [connectiveNames, compile, predicates_cons, hor]
    simp only [List.length_cons, List.length_nil, Nat.zero_add, Nat.reduceAdd, hlist]
    rfl
  have hscope : (Scope.mk (fun _ => .scalar) "\"users\"").HasQuotedQualifier :=
    Or.inr ⟨["users".toList], by decide, by decide⟩
  have hkeys : Quoteless (allKeys connectiveNames) := by
    unfold Quoteless
    decide
  obtain ⟨e, he, hatoms, heval⟩ := ofSql_compile hscope hkeys hcompile
  refine ⟨_, e, hcompile, he, hatoms.length_eq.symm, fun σ => ?_⟩
  rw [heval]
  simp [connectiveNames, meaning, meaningAt, meaningAll, meaningAny, leavesAt, leaves,
    leavesInGroup]

end Scope

end SqlFilter

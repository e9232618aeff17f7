/-
**Compiling a tree piece by piece.**

A tree can be cut between any two of its entries: the front is compiled first, the back goes on
behind its placeholders, and the two predicates are joined.  A group is compiled in the same way,
element by element, each one by itself and behind the placeholders of the one in front of it.  The
first piece that fails makes the whole fail, with its own error.

Text is joined by the predicates of the single entries, and an empty text stands for no predicate.
The two agree because no entry has an empty predicate.

Main definitions:

* `SqlFilter.Predicate.andThen`: two compiled pieces as one;
* `SqlFilter.Predicate.inParens`: a compiled element of a group;
* `SqlFilter.Scope.compileEach`: the elements of a group, one behind the other;
* `SqlFilter.Predicate.ofElements`: compiled elements as a group.

Main results:

* `SqlFilter.Scope.predicates_append`: entries that are cut into two lists;
* `SqlFilter.Scope.ne_empty_of_predicates`: no predicate of a tree is empty;
* `SqlFilter.Scope.compile_pieces`: **a tree is compiled piece by piece**.
-/

import SqlFilter.Proofs.Condition.Inversion

set_option relaxedAutoImplicit false
set_option autoImplicit false

namespace SqlFilter

/-! ### Compiled pieces -/

namespace Predicate

/-- Two texts, joined as conditions that are both asked for; an empty one asks for nothing. -/
def conjoined (front back : String) : String :=
  if front = "" then back else if back = "" then front else front ++ " AND " ++ back

/-- Two compiled pieces, of which the second one goes on behind the first. -/
def andThen (p q : Predicate) : Predicate :=
  ⟨conjoined p.sql q.sql, p.params ++ q.params, q.nextOffset⟩

/-- A compiled element of a group in its parentheses. -/
def inParens (p : Predicate) : String := if p.sql = "" then "(TRUE)" else "(" ++ p.sql ++ ")"

/-- The placeholders up to the end of compiled elements that start behind `offset` others. -/
def lastOffset (offset : Nat) : List Predicate → Nat
  | [] => offset
  | p :: ps => lastOffset p.nextOffset ps

/-- Compiled elements that start behind `offset` placeholders, joined to a group. -/
def ofElements (offset : Nat) (joiner : String) (ps : List Predicate) : Predicate :=
  ⟨"(" ++ joiner.intercalate (ps.map inParens) ++ ")", ps.flatMap params, lastOffset offset ps⟩

end Predicate

namespace Scope

/-- Compiles the elements of a group, each behind the placeholders of the one in front of it; the
first failure counts. -/
def compileEach (scope : Scope) (offset : Nat) : List Conditions → Except Error (List Predicate)
  | [] => .ok []
  | element :: elements =>
      match scope.compile element offset with
      | .error e => .error e
      | .ok p =>
          match scope.compileEach p.nextOffset elements with
          | .error e => .error e
          | .ok ps => .ok (p :: ps)

variable {scope : Scope} {offset : Nat}

/-! ### No predicate is empty -/

theorem ne_empty_of_blank {sql : String} (h : ' ' ∈ sql.toList) : sql ≠ "" := by
  rintro rfl
  simp at h

theorem blank_mem_binary (key : Key) (operand : Fragment) :
    ' ' ∈ (binary key operand).sql.toList := by
  simp [binary]

theorem blank_mem_listPredicate {key : Key} {kind : ColumnKind} {values : List Value}
    {f : Fragment} (h : listPredicate key kind offset values = .ok f) : ' ' ∈ f.sql.toList := by
  cases kind with
  | json =>
      simp only [listPredicate] at h
      split at h
      · cases h
        exact blank_mem_binary _ _
      · split at h
        · cases h
          exact blank_mem_binary _ _
        · cases h
  | array =>
      simp only [listPredicate] at h
      split at h
      · cases h
        exact blank_mem_binary _ _
      · cases h
  | _ =>
      simp only [listPredicate] at h
      split at h
      · obtain ⟨-, a, -, rfl⟩ := membership_eq_ok_iff.1 h
        simp
      · split at h
        · cases h
          exact blank_mem_binary _ _
        · cases h

theorem blank_mem_scalarPredicate {key : Key} {kind : ColumnKind} {v : Value} {f : Fragment}
    (h : scope.scalarPredicate key kind offset v = .ok f) : ' ' ∈ f.sql.toList := by
  cases kind with
  | array =>
      simp only [scalarPredicate] at h
      split at h
      · cases h
      · split at h
        · cases h
          simp
        · split at h
          · cases h
            simp
          · cases h
  | time =>
      simp only [scalarPredicate] at h
      split at h
      · cases h
      · cases h
        exact blank_mem_binary _ _
  | _ =>
      cases h
      exact blank_mem_binary _ _

/-- Every predicate of an entry has a blank in it, next to its operator. -/
theorem blank_mem_entry {raw : String} {v : Value} {f : Fragment}
    (h : scope.entry raw offset v = .ok f) : ' ' ∈ f.sql.toList := by
  obtain ⟨key, -, hkeyed⟩ := entry_eq_ok_iff.1 h
  simp only [keyed] at hkeyed
  split at hkeyed
  · rw [nullPredicate] at hkeyed
    split at hkeyed
    · cases hkeyed
      simp
    · cases hkeyed
  · exact blank_mem_listPredicate hkeyed
  · exact blank_mem_scalarPredicate hkeyed

theorem ne_empty_of_node {key : String} {n : Node} {r : List String × List Value}
    (h : scope.node key offset n = .ok r) : ∀ sql ∈ r.1, sql ≠ "" := by
  cases n with
  | undefined =>
      cases node_undefined.symm.trans h
      simp
  | value v =>
      obtain ⟨-, f, hf, rfl⟩ := node_value_eq_ok_iff.1 h
      simpa using ne_empty_of_blank (blank_mem_entry hf)
  | group elements =>
      obtain ⟨-, a, -, rfl⟩ := node_group_eq_ok_iff.1 h
      split
      · simp
      · simp

/-- No predicate of a tree is empty. -/
theorem ne_empty_of_predicates {entries : List (String × Node)} {r : List String × List Value}
    (h : scope.predicates offset entries = .ok r) : ∀ sql ∈ r.1, sql ≠ "" := by
  induction entries generalizing offset r with
  | nil =>
      cases h
      simp
  | cons entry entries ih =>
      obtain ⟨a, b, ha, hb, rfl⟩ := predicates_cons_eq_ok_iff.1 h
      intro sql hsql
      exact (List.mem_append.1 hsql).elim (ne_empty_of_node ha sql) (ih hb sql)

/-- The joined text is empty only if there is nothing to join. -/
theorem intercalate_eq_empty_iff {sep : String} {sqls : List String}
    (h : ∀ sql ∈ sqls, sql ≠ "") : sep.intercalate sqls = "" ↔ sqls = [] := by
  cases sqls with
  | nil => simp
  | cons sql sqls =>
      have hsql := h sql (by simp)
      cases sqls with
      | nil => simpa using hsql
      | cons other sqls => simp [String.append_eq_empty_iff, hsql]

/-! ### Entries -/

/-- Entries that are cut into two lists: the second list goes on behind the parameters of the
first. -/
theorem predicates_append (scope : Scope) (offset : Nat) (front back : List (String × Node)) :
    scope.predicates offset (front ++ back) =
      match scope.predicates offset front with
      | .error e => .error e
      | .ok a =>
          match scope.predicates (offset + a.2.length) back with
          | .error e => .error e
          | .ok b => .ok (a.1 ++ b.1, a.2 ++ b.2) := by
  induction front generalizing offset with
  | nil =>
      rw [List.nil_append, predicates_nil]
      simp only [List.length_nil, Nat.add_zero, List.nil_append]
      cases scope.predicates offset back with
      | error e => rfl
      | ok b => rfl
  | cons entry front ih =>
      obtain ⟨key, node⟩ := entry
      rw [List.cons_append, predicates_cons, predicates_cons]
      cases scope.node key offset node with
      | error e => rfl
      | ok a =>
          simp only [ih]
          cases scope.predicates (offset + a.2.length) front with
          | error e => rfl
          | ok b =>
              simp only [List.length_append, ← Nat.add_assoc]
              cases scope.predicates (offset + a.2.length + b.2.length) back with
              | error e => rfl
              | ok c => simp

/-- The predicates of two lists of entries, joined, are their joined texts, joined. -/
theorem intercalate_append_eq_conjoined {xs ys : List String} (hxs : ∀ sql ∈ xs, sql ≠ "")
    (hys : ∀ sql ∈ ys, sql ≠ "") :
    " AND ".intercalate (xs ++ ys) =
      Predicate.conjoined (" AND ".intercalate xs) (" AND ".intercalate ys) := by
  rw [Predicate.conjoined]
  simp only [intercalate_eq_empty_iff hxs, intercalate_eq_empty_iff hys]
  split
  · next hnil => rw [hnil, List.nil_append]
  · next hxs' =>
      split
      · next hnil => rw [hnil, List.append_nil]
      · next hys' => exact String.intercalate_append_of_ne_nil hxs' hys'

/-- A tree that is cut into two: the second part is compiled behind the placeholders of the
first. -/
theorem compile_append_eq (scope : Scope) (offset : Nat) (front back : Conditions) :
    scope.compile (front ++ back) offset =
      match scope.compile front offset with
      | .error e => .error e
      | .ok p =>
          match scope.compile back p.nextOffset with
          | .error e => .error e
          | .ok q => .ok (p.andThen q) := by
  simp only [compile]
  rw [predicates_append]
  cases hfront : scope.predicates offset front with
  | error e => rfl
  | ok a =>
      simp only []
      cases hback : scope.predicates (offset + a.2.length) back with
      | error e => rfl
      | ok b =>
          have hjoin := intercalate_append_eq_conjoined (ne_empty_of_predicates hfront)
            (ne_empty_of_predicates hback)
          simp only [Predicate.andThen, hjoin, List.length_append, Nat.add_assoc]

/-! ### Groups -/

/-- An element in its parentheses, by its predicates and by its compiled text. -/
theorem elementSql_eq_inParens {sqls : List String} (h : ∀ sql ∈ sqls, sql ≠ "")
    (params : List Value) (next : Nat) :
    elementSql sqls = Predicate.inParens ⟨" AND ".intercalate sqls, params, next⟩ := by
  simp only [elementSql, Predicate.inParens, intercalate_eq_empty_iff h]

theorem compileEach_cons (scope : Scope) (offset : Nat) (element : Conditions)
    (elements : List Conditions) :
    scope.compileEach offset (element :: elements) =
      match scope.compile element offset with
      | .error e => .error e
      | .ok p =>
          match scope.compileEach p.nextOffset elements with
          | .error e => .error e
          | .ok ps => .ok (p :: ps) := rfl

/-- The elements of a group, by their predicates and by their compiled texts. -/
theorem group_eq_compileEach (scope : Scope) (offset : Nat) (elements : List Conditions) :
    scope.group offset elements = (scope.compileEach offset elements).map fun ps =>
      (ps.map Predicate.inParens, ps.flatMap Predicate.params) := by
  induction elements generalizing offset with
  | nil => rw [group_nil]; rfl
  | cons element elements ih =>
      rw [group, compileEach_cons, compile]
      cases helement : scope.predicates offset element with
      | error e => rfl
      | ok a =>
          simp only [ih]
          cases scope.compileEach (offset + a.2.length) elements with
          | error e => rfl
          | ok ps =>
              have hparens := elementSql_eq_inParens (ne_empty_of_predicates helement) a.2
                (offset + a.2.length)
              simp [Except.map, hparens]

/-- Elements end behind all of their parameters. -/
theorem lastOffset_of_compileEach {elements : List Conditions} {ps : List Predicate}
    (h : scope.compileEach offset elements = .ok ps) :
    Predicate.lastOffset offset ps = offset + (ps.flatMap Predicate.params).length := by
  induction elements generalizing offset ps with
  | nil =>
      cases h
      rfl
  | cons element elements ih =>
      rw [compileEach_cons] at h
      cases hp : scope.compile element offset with
      | error e =>
          rw [hp] at h
          cases h
      | ok p =>
          rw [hp] at h
          simp only [] at h
          cases hps : scope.compileEach p.nextOffset elements with
          | error e =>
              rw [hps] at h
              cases h
          | ok rest =>
              rw [hps] at h
              cases h
              obtain ⟨a, -, rfl⟩ := compile_eq_ok_iff.1 hp
              rw [Predicate.lastOffset, ih hps]
              simp [Nat.add_assoc]

/-- A group with elements: they are compiled one behind the other and joined. -/
theorem compile_group_eq (scope : Scope) (offset : Nat) {key : String}
    (hkey : isGroupKey key = true) {elements : List Conditions} (hne : elements ≠ []) :
    scope.compile [(key, .group elements)] offset =
      (scope.compileEach offset elements).map (Predicate.ofElements offset (joiner key)) := by
  have hnode : scope.node key offset (.group elements) =
      (scope.compileEach offset elements).map fun ps =>
        (["(" ++ (joiner key).intercalate (ps.map Predicate.inParens) ++ ")"],
          ps.flatMap Predicate.params) := by
    rw [node, if_pos hkey, group_eq_compileEach]
    cases heach : scope.compileEach offset elements with
    | error e => rfl
    | ok ps =>
        have hps : ps.map Predicate.inParens ≠ [] := by
          obtain ⟨element, elements, rfl⟩ := List.exists_cons_of_ne_nil hne
          rw [compileEach_cons] at heach
          rintro hnil
          rw [List.map_eq_nil_iff] at hnil
          subst hnil
          split at heach
          · cases heach
          · split at heach <;> cases heach
        simp only [Except.map, if_neg hps]
  rw [compile, predicates_cons, hnode]
  cases heach : scope.compileEach offset elements with
  | error e => rfl
  | ok ps =>
      simp [Except.map, predicates_nil, Predicate.ofElements, lastOffset_of_compileEach heach]

/-- **A tree is compiled piece by piece.**  Cut anywhere between its entries, its front is compiled
first and its back behind the placeholders of the front, and their texts are joined; a group with
elements is compiled element by element, each behind the placeholders of the one in front of it, and
joined as its key says.  The first piece that fails gives the error of the whole. -/
theorem compile_pieces (scope : Scope) (offset : Nat) :
    (∀ front back : Conditions, scope.compile (front ++ back) offset =
      match scope.compile front offset with
      | .error e => .error e
      | .ok p =>
          match scope.compile back p.nextOffset with
          | .error e => .error e
          | .ok q => .ok (p.andThen q)) ∧
    ∀ (element : Conditions) (elements : List Conditions),
      scope.compile [("and", .group (element :: elements))] offset =
          (scope.compileEach offset (element :: elements)).map
            (Predicate.ofElements offset " AND ") ∧
        scope.compile [("or", .group (element :: elements))] offset =
          (scope.compileEach offset (element :: elements)).map
            (Predicate.ofElements offset " OR ") := by
  refine ⟨compile_append_eq scope offset, fun element elements => ⟨?_, ?_⟩⟩
  · exact compile_group_eq scope offset (by decide) (List.cons_ne_nil element elements)
  · exact compile_group_eq scope offset (by decide) (List.cons_ne_nil element elements)

end Scope

end SqlFilter

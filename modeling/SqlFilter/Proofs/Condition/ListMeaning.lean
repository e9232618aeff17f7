/-
**A list means what its elements mean.**

Conditions on a plain column with a list are compiled in another way than those with one value: to
`IN` and `NOT IN` with all elements between parentheses, where null stands as `NULL`.  Here both are
read as questions that a row answers.  A row is accepted by a list as by one of its elements that is
not null, and by the inequality with a list as by the inequalities with all of its elements.

Null is where the two ways part.  By itself it asks whether the column is null, but among other
values it is one more comparison, which is unknown: so a list never accepts a row for its null, and
an inequality with a list that has one accepts no row at all.

Main definitions:

* `SqlFilter.Scope.Answers`: the answer of a row to a compiled condition;
* `SqlFilter.Scope.asked`: what a condition with a value asks.

Main results:

* `SqlFilter.Scope.isOperand_members`: the members of a list stand for its elements;
* `SqlFilter.Scope.asks_keyed`: the predicate of a value asks what the value means;
* `SqlFilter.Scope.answers_iff`: **the answer of a row**;
* `SqlFilter.Scope.accepts_list`: **a list means what its elements mean**;
* `SqlFilter.Scope.not_accepts_nullMember`: a list with null.
-/

import SqlFilter.Proofs.Condition.Phrases
import SqlFilter.Proofs.Condition.PlainColumn
import SqlFilter.Proofs.Sql.Question

set_option relaxedAutoImplicit false
set_option autoImplicit false

namespace SqlFilter.Scope

open Sql (IsOperand Phrase Question Record Truth listValues?_of_isOperand
  isOperand_null isOperand_placeholder tokens tokens_quoted tokens_spaced truthOf?
  truthOf?_of_factor)
open Text (doubled enclosed)

/-! ### Answers -/

/-- A row gives this answer to the condition that a value stands under a key, if it is compiled
behind the given parameters. -/
def Answers (scope : Scope) (record : Record) (before : List Value) (raw : String) (v : Value)
    (t : Truth) : Prop :=
  ∃ p, scope.compile [(raw, .value v)] before.length = .ok p ∧
    truthOf? record (before ++ p.params) p.sql.toList = some t

/-- What a condition with a value asks: equality, or its opposite. -/
def asked (negated : Bool) : Value → Question
  | .null => if negated then .notNull else .null
  | .array values => if negated then .notAmong values else .among values
  | v => if negated then .notEqual v else .equal v

/-- The operator that asks it. -/
def equality (negated : Bool) : Comparison := if negated then .notEqual else .equal

/-- The predicate is one atom, which asks this of the column. -/
def Asks (before : List Value) (column : String) (q : Question) (f : Fragment) : Prop :=
  f.InPhrases ∧ ∃ ts, tokens f.sql.toList = some (.quoted .double column.toList :: ts) ∧
    Question.read? (before ++ f.params) ts = some q

variable {scope : Scope} {record : Record} {before : List Value} {column : String}

/-! ### Members -/

/-- The members of a list that is not of points in time are its elements; they stand for them behind
as many parameters as were there before. -/
theorem isOperand_members (before after values : List Value) :
    ∃ a, members .scalar before.length values = .ok a ∧
      List.Forall₂ (fun sql v => IsOperand (before ++ a.2 ++ after) sql.toList v) a.1 values := by
  induction values generalizing before with
  | nil => exact ⟨([], []), rfl, .nil⟩
  | cons v vs ih =>
      cases hnull : v.isNull with
      | true =>
          obtain ⟨a, ha, hoperands⟩ := ih before
          obtain rfl := (Value.isNull_iff v).1 hnull
          exact ⟨_, (members_cons_of_null rfl).2 ⟨a, ha, rfl⟩, .cons isOperand_null hoperands⟩
      | false =>
          have hrest := ih (before ++ [v])
          rw [List.length_append, List.length_singleton] at hrest
          obtain ⟨a, ha, hoperands⟩ := hrest
          refine ⟨_, (members_cons_of_not_null hnull).2 ⟨v, a, rfl, ha, rfl⟩, ?_⟩
          refine .cons (isOperand_placeholder ?_) ?_
          · simp
          · simpa using hoperands

/-! ### Predicates -/

theorem phrase_ofColumn (h : Key.IsPlainColumn column) (comparison : Comparison) :
    Phrase (Key.ofColumn column comparison).reference.toList := by
  rw [Key.ofColumn, String.toList_ofList]
  exact Key.phrase_enclosed .double h.quoteless

theorem tokens_ofColumn (h : Key.IsPlainColumn column) (comparison : Comparison) :
    tokens (Key.ofColumn column comparison).reference.toList =
      some [.quoted .double column.toList] := by
  have hquoted : tokens (enclosed '"' (doubled '"' column.toList)) =
      some [.quoted .double column.toList] := tokens_quoted .double column.toList
  rw [Text.doubled_eq_self h.quoteless] at hquoted
  rw [Key.ofColumn, String.toList_ofList]
  exact hquoted

theorem asks_null (h : Key.IsPlainColumn column) (negated : Bool) :
    ∃ f, nullPredicate (Key.ofColumn column (equality negated)) = .ok f ∧
      Asks before column (asked negated .null) f := by
  have hphrase := phrase_ofColumn h (equality negated)
  have htokens := tokens_ofColumn h (equality negated)
  cases negated with
  | false =>
      refine ⟨_, rfl, inPhrases_nullPredicate hphrase rfl, [.word "IS".toList, .word "NULL".toList],
        ?_, rfl⟩
      have htest : tokens "IS NULL".toList = some [.word "IS".toList, .word "NULL".toList] := by
        decide
      simpa using tokens_spaced htokens htest
  | true =>
      refine ⟨_, rfl, inPhrases_nullPredicate hphrase rfl,
        [.word "IS".toList, .word "NOT".toList, .word "NULL".toList], ?_, rfl⟩
      have htest : tokens "IS NOT NULL".toList =
          some [.word "IS".toList, .word "NOT".toList, .word "NULL".toList] := by
        decide
      simpa using tokens_spaced htokens htest

theorem toList_binary (key : Key) (operand : Fragment) :
    (binary key operand).sql.toList =
      key.reference.toList ++ ' ' :: (key.comparison.sql.toList ++ ' ' :: operand.sql.toList) := by
  simp [binary]

/-- A comparison with one value asks about that value. -/
theorem asks_scalar (h : Key.IsPlainColumn column) (negated : Bool) {v : Value}
    (hv : v.shape = .scalar) :
    Asks before column (asked negated v)
      (binary (Key.ofColumn column (equality negated)) (.bind before.length v)) := by
  have htokens := tokens_ofColumn h (equality negated)
  obtain ⟨t, ht, hoperand⟩ : IsOperand (before ++ [v]) (placeholder before.length).toList v :=
    isOperand_placeholder (by simp)
  have hasked : asked negated v = if negated then .notEqual v else .equal v := by
    cases v <;> first | rfl | cases hv
  refine ⟨inPhrases_binary (phrase_ofColumn h _) (Sql.phrase_placeholder before.length), ?_⟩
  rw [hasked, toList_binary]
  cases negated with
  | false =>
      have hmark : tokens (equality false).sql.toList = some [.mark '='] := by decide
      refine ⟨[.mark '=', t], tokens_spaced htokens (tokens_spaced hmark ht), ?_⟩
      exact Question.read?_equal hoperand
  | true =>
      have hmarks : tokens (equality true).sql.toList = some [.mark '<', .mark '>'] := by decide
      refine ⟨[.mark '<', .mark '>', t], tokens_spaced htokens (tokens_spaced hmarks ht), ?_⟩
      exact Question.read?_notEqual hoperand

theorem toList_membership (reference word : String) (sqls : List String) :
    (reference ++ " " ++ word ++ " (" ++ ", ".intercalate sqls ++ ")").toList =
      reference.toList ++ ' ' :: (word.toList ++ ' ' ::
        ('(' :: ", ".toList.intercalate (sqls.map String.toList) ++ [')'])) := by
  simp

/-- A membership test asks about the elements of the list. -/
theorem asks_list (before : List Value) (h : Key.IsPlainColumn column) (negated : Bool)
    {values : List Value} (hne : values ≠ []) :
    ∃ f, membership (Key.ofColumn column (equality negated)) .scalar before.length values = .ok f ∧
      Asks before column (asked negated (.array values)) f := by
  have htokens := tokens_ofColumn h (equality negated)
  obtain ⟨a, ha, hoperands⟩ := isOperand_members before [] values
  rw [List.append_nil] at hoperands
  obtain ⟨ts, hlist, hvalues⟩ :=
    listValues?_of_isOperand (List.forall₂_map_left_iff.2 hoperands) hne
  have hf : membership (Key.ofColumn column (equality negated)) .scalar before.length values =
      .ok _ := membership_eq_ok_iff.2 ⟨hne, a, ha, rfl⟩
  refine ⟨_, hf, inPhrases_membership (phrase_ofColumn h _) hf, ?_⟩
  rw [toList_membership]
  cases negated with
  | false =>
      have hword : tokens "IN".toList = some [.word "IN".toList] := by decide
      exact ⟨_, tokens_spaced htokens (tokens_spaced hword hlist), Question.read?_among hvalues⟩
  | true =>
      have hwords : tokens "NOT IN".toList = some [.word "NOT".toList, .word "IN".toList] := by
        decide
      exact ⟨_, tokens_spaced htokens (tokens_spaced hwords hlist), Question.read?_notAmong hvalues⟩

/-- **The predicate of a value asks what the value means**, for every value but the empty list. -/
theorem asks_keyed (before : List Value) (h : Key.IsPlainColumn column)
    (hkind : scope.kindOf column = .scalar) (negated : Bool) {v : Value} (hv : v ≠ .array []) :
    ∃ f, scope.keyed (Key.ofColumn column (equality negated)) before.length v = .ok f ∧
      Asks before column (asked negated v) f := by
  -- the key adjusts nothing, so the value is compiled as it stands
  cases v with
  | null => exact asks_null h negated
  | array values =>
      have hne : values ≠ [] := fun hnil => hv (by rw [hnil])
      obtain ⟨f, hf, hasks⟩ := asks_list before h negated hne
      refine ⟨f, ?_, hasks⟩
      show listPredicate _ (scope.kindOf column) _ values = .ok f
      rw [hkind, ← hf]
      cases negated <;> rfl
  | _ =>
      refine ⟨_, ?_, asks_scalar h negated rfl⟩
      show scope.scalarPredicate _ (scope.kindOf column) _ _ = _
      rw [hkind]
      rfl

/-! ### The answer of a row -/

/-- The key that asks equality with a column, or its opposite. -/
def rawKey (column : String) (negated : Bool) : String :=
  if negated then column ++ " <>" else column

theorem parse_rawKey (h : Key.IsPlainColumn column) (negated : Bool) :
    Key.parse (rawKey column negated) = .ok (Key.ofColumn column (equality negated)) := by
  cases negated with
  | false => exact Key.parse_of_isPlainColumn h
  | true => exact Key.parse_append_notEqual h

theorem isGroupKey_rawKey (h : Key.IsPlainColumn column) (negated : Bool) :
    isGroupKey (rawKey column negated) = false := by
  cases negated with
  | false => exact h.ungrouped
  | true => exact Key.isGroupKey_append_notEqual column

/-- A condition alone is compiled to the predicate of its entry. -/
theorem compile_entry {raw : String} {v : Value} {offset : Nat} {f : Fragment}
    (hraw : isGroupKey raw = false) (h : scope.entry raw offset v = .ok f) :
    scope.compile [(raw, .value v)] offset = .ok ⟨f.sql, f.params, offset + f.params.length⟩ := by
  have hnode := node_value_eq_ok_iff.2 ⟨hraw, f, h, rfl⟩
  have hpredicates := predicates_cons_eq_ok_iff.2 ⟨_, ([], []), hnode, predicates_nil _ _, rfl⟩
  refine compile_eq_ok_iff.2 ⟨_, hpredicates, ?_⟩
  simp

/-- **The answer of a row** to a condition on a plain column: that to the question that the value
asks.  In particular there is one. -/
theorem answers_iff (h : Key.IsPlainColumn column) (hkind : scope.kindOf column = .scalar)
    (negated : Bool) {v : Value} (hv : v ≠ .array []) {t : Truth} :
    scope.Answers record before (rawKey column negated) v t ↔
      t = (asked negated v).answer record (record.value column) := by
  obtain ⟨f, hf, ⟨xs, ys, hsql, hxs, hys⟩, ts, htokens, hread⟩ :=
    asks_keyed before h hkind negated hv
  have hcompile := compile_entry (isGroupKey_rawKey h negated)
    (entry_eq_ok_iff.2 ⟨_, parse_rawKey h negated, hf⟩)
  obtain ⟨us, hus, hfactor⟩ := Sql.factor_atom hxs hys
  rw [← hsql] at hus hfactor
  -- the tokens of the atom are those that were looked at
  cases hus.symm.trans htokens
  have htruth := truthOf?_of_factor record hfactor hread
  rw [String.ofList_toList] at htruth
  constructor
  · rintro ⟨p, hp, ht⟩
    cases hp.symm.trans hcompile
    exact Option.some.inj (ht.symm.trans htruth)
  · rintro rfl
    exact ⟨_, hcompile, htruth⟩

/-! ### Lists -/

theorem equals_null (record : Record) (x : Value) : record.equals x .null = .unknown := by
  simp [Record.equals]

/-- What a value asks that is neither null nor a list. -/
theorem answer_asked_scalar (record : Record) (x : Value) {v : Value} (hnull : v ≠ .null)
    (hlist : v.shape ≠ .array) :
    (asked false v).answer record x = record.equals x v ∧
      (asked true v).answer record x = (record.equals x v).not := by
  cases v with
  | null => exact absurd rfl hnull
  | array values => exact absurd rfl hlist
  | _ => exact ⟨rfl, rfl⟩

/-- A row accepts a list for an element that is not null. -/
theorem accepted_iff_exists (record : Record) (x : Value) {values : List Value}
    (hvalues : ∀ v ∈ values, v.shape ≠ .array) :
    (asked false (.array values)).answer record x = .true ↔
      ∃ v ∈ values, v ≠ .null ∧ (asked false v).answer record x = .true := by
  show Truth.any (values.map (record.equals x)) = .true ↔ _
  rw [Truth.any_eq_true_iff, List.mem_map]
  constructor
  · rintro ⟨v, hv, heq⟩
    have hnull : v ≠ .null := by
      rintro rfl
      rw [equals_null] at heq
      cases heq
    exact ⟨v, hv, hnull, (answer_asked_scalar record x hnull (hvalues v hv)).1.trans heq⟩
  · rintro ⟨v, hv, hnull, htrue⟩
    rw [(answer_asked_scalar record x hnull (hvalues v hv)).1] at htrue
    exact ⟨v, hv, htrue⟩

/-- It accepts the inequality with a list for all elements, none of which may be null. -/
theorem accepted_iff_forall (record : Record) (x : Value) {values : List Value}
    (hvalues : ∀ v ∈ values, v.shape ≠ .array) :
    (asked true (.array values)).answer record x = .true ↔
      .null ∉ values ∧ ∀ v ∈ values, (asked true v).answer record x = .true := by
  show (Truth.any (values.map (record.equals x))).not = .true ↔ _
  -- one comparison that is unknown keeps all of them together from being false
  rw [Truth.not_eq_true_iff, Truth.any_eq_false_iff, List.forall_mem_map]
  constructor
  · intro hfalse
    have hnull : .null ∉ values := by
      intro hmem
      have hunknown := hfalse .null hmem
      rw [equals_null] at hunknown
      cases hunknown
    refine ⟨hnull, fun v hv => ?_⟩
    have hne : v ≠ .null := fun h => hnull (h ▸ hv)
    rw [(answer_asked_scalar record x hne (hvalues v hv)).2, Truth.not_eq_true_iff]
    exact hfalse v hv
  · rintro ⟨hnull, htrue⟩ v hv
    have hne : v ≠ .null := fun h => hnull (h ▸ hv)
    rw [← Truth.not_eq_true_iff, ← (answer_asked_scalar record x hne (hvalues v hv)).2]
    exact htrue v hv

/-- **A list means what its elements mean.**  On a plain column of the scalar kind, a list of values
that are no lists themselves is compiled, also for inequality, and so is each of its elements; a row
has an answer to each of these conditions.  The row is accepted by the list exactly
if it is accepted by an element that is not null, and by the inequality with the list exactly if no
element is null and it is accepted by the inequality with every element. -/
theorem accepts_list (scope : Scope) (record : Record) (before : List Value) {column : String}
    (hcolumn : Key.IsPlainColumn column) (hkind : scope.kindOf column = .scalar)
    {values : List Value} (hne : values ≠ []) (hvalues : ∀ v ∈ values, v.shape ≠ .array) :
    (∀ v ∈ .array values :: values, (∃ t, scope.Answers record before column v t) ∧
      ∃ t, scope.Answers record before (column ++ " <>") v t) ∧
    (scope.Answers record before column (.array values) .true ↔
      ∃ v ∈ values, v ≠ .null ∧ scope.Answers record before column v .true) ∧
    (scope.Answers record before (column ++ " <>") (.array values) .true ↔
      .null ∉ values ∧ ∀ v ∈ values, scope.Answers record before (column ++ " <>") v .true) := by
  have hnonempty : ∀ v ∈ .array values :: values, v ≠ .array [] := by
    rw [List.forall_mem_cons]
    refine ⟨fun h => hne (Value.array.inj h), ?_⟩
    rintro v hv rfl
    exact hvalues _ hv rfl
  have hequal : ∀ v ∈ .array values :: values, ∀ t, scope.Answers record before column v t ↔
      t = (asked false v).answer record (record.value column) :=
    fun v hv t => answers_iff hcolumn hkind false (hnonempty v hv)
  have hnotEqual : ∀ v ∈ .array values :: values, ∀ t,
      scope.Answers record before (column ++ " <>") v t ↔
        t = (asked true v).answer record (record.value column) :=
    fun v hv t => answers_iff hcolumn hkind true (hnonempty v hv)
  refine ⟨?_, ?_, ?_⟩
  · intro v hv
    exact ⟨⟨_, (hequal v hv _).2 rfl⟩, ⟨_, (hnotEqual v hv _).2 rfl⟩⟩
  · rw [hequal _ List.mem_cons_self, eq_comm, accepted_iff_exists _ _ hvalues]
    refine exists_congr fun v => and_congr_right fun hv => and_congr_right fun _ => ?_
    rw [hequal v (List.mem_cons_of_mem _ hv), eq_comm]
  · rw [hnotEqual _ List.mem_cons_self, eq_comm, accepted_iff_forall _ _ hvalues]
    refine and_congr_right fun _ => forall₂_congr fun v hv => ?_
    rw [hnotEqual v (List.mem_cons_of_mem _ hv), eq_comm]

/-- Whole numbers that are the same. -/
def sameInt : Value → Value → Bool
  | .int a, .int b => a == b
  | _, _ => false

/-- A row with a number in every column. -/
def numbered (n : Int32) : Record := ⟨fun _ => .int n, sameInt⟩

/-- No column is described. -/
def undescribed : Scope := ⟨fun _ => .scalar, ""⟩

theorem accepts_list_numbers :
    Key.IsPlainColumn "id" ∧
      undescribed.Answers (numbered 2) [.text "x"] "id" (.array [.int 1, .null, .int 2]) .true ∧
        ¬ undescribed.Answers (numbered 3) [.text "x"] "id <>" (.array [.int 1, .null]) .true := by
  have hcolumn : Key.IsPlainColumn "id" := by
    refine ⟨by decide, by decide, by decide, ?_, by decide, by decide⟩
    intro op
    cases op <;> decide
  have hthree : ∀ v ∈ [Value.int 1, .null, .int 2], v.shape ≠ .array := by simp [Value.shape]
  have htwo : ∀ v ∈ [Value.int 1, .null], v.shape ≠ .array := by simp [Value.shape]
  obtain ⟨-, haccepts, -⟩ :=
    accepts_list undescribed (numbered 2) [.text "x"] hcolumn rfl (List.cons_ne_nil _ _) hthree
  obtain ⟨-, -, hexcludes⟩ :=
    accepts_list undescribed (numbered 3) [.text "x"] hcolumn rfl (List.cons_ne_nil _ _) htwo
  refine ⟨hcolumn, ?_, ?_⟩
  · refine haccepts.2 ⟨.int 2, by simp, by simp, ⟨"\"id\" = $2", [.int 2], 2⟩, rfl, ?_⟩
    decide
  · intro h
    exact (hexcludes.1 h).1 (by simp)

/-- With null in it a list does not accept the rows that null accepts by itself, and the inequality
with it accepts no row, whatever its elements accept. -/
theorem not_accepts_nullMember :
    (undescribed.Answers ⟨fun _ => .null, sameInt⟩ [] "id" .null .true ∧
      ¬ undescribed.Answers ⟨fun _ => .null, sameInt⟩ [] "id" (.array [.int 1, .null]) .true) ∧
    (∀ v ∈ [Value.int 1, .null], undescribed.Answers (numbered 2) [] "id <>" v .true) ∧
      ¬ undescribed.Answers (numbered 2) [] "id <>" (.array [.int 1, .null]) .true := by
  have hlist : undescribed.compile [("id", .value (.array [.int 1, .null]))] 0 =
      .ok ⟨"\"id\" IN ($1, NULL)", [.int 1], 1⟩ := rfl
  have hexcluded : undescribed.compile [("id <>", .value (.array [.int 1, .null]))] 0 =
      .ok ⟨"\"id\" NOT IN ($1, NULL)", [.int 1], 1⟩ := rfl
  refine ⟨⟨⟨⟨"\"id\" IS NULL", [], 0⟩, rfl, by decide⟩, ?_⟩, ?_, ?_⟩
  · rintro ⟨p, hp, htrue⟩
    cases hlist.symm.trans hp
    exact absurd htrue (by decide)
  · simp only [List.forall_mem_cons, List.not_mem_nil, IsEmpty.forall_iff, implies_true, and_true]
    exact ⟨⟨⟨"\"id\" <> $1", [.int 1], 1⟩, rfl, by decide⟩,
      ⟨"\"id\" IS NOT NULL", [], 0⟩, rfl, by decide⟩
  · rintro ⟨p, hp, htrue⟩
    cases hexcluded.symm.trans hp
    exact absurd htrue (by decide)

end SqlFilter.Scope

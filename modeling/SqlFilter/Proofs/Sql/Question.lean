/-
**What conditions ask of a row.**

An atom that starts with the name of a column asks something of the value of that column: whether it
equals a value, whether it is among some values, or whether it is null.  Values are written as
placeholders, which take them from the parameters of the statement, or as `NULL`.  The reader below
finds the question of an atom, and a row answers it: with the equality of the server, whatever that
is, for values that are not null, and with neither yes nor no where a null is compared.

Main definitions:

* `SqlFilter.Sql.Truth.not`, `SqlFilter.Sql.Truth.any`: more connectives;
* `SqlFilter.Sql.Record`: a row with the equality of the server;
* `SqlFilter.Sql.Question`, `SqlFilter.Sql.Question.answer`: what can be asked of a column;
* `SqlFilter.Sql.Question.read?`: the question of an atom;
* `SqlFilter.Sql.truthOf?`: the value of a whole text for a row.

Main results:

* `SqlFilter.Sql.Truth.any_eq_true_iff`, `SqlFilter.Sql.Truth.any_eq_false_iff`: when one of some
  values is true, and when all of them are false;
* `SqlFilter.Sql.isOperand_placeholder`: a placeholder stands for its parameter;
* `SqlFilter.Sql.listValues?_of_isOperand`: a list of operands is read as the list of their values;
* `SqlFilter.Sql.truthOf?_of_factor`: **the value of an atom** that asks something of a column.
-/

import SqlFilter.Proofs.Number.Digits
import SqlFilter.Proofs.Sql.Reading
import SqlFilter.Proofs.Template

set_option relaxedAutoImplicit false
set_option autoImplicit false

namespace SqlFilter.Sql

/-! ### Truth values -/

namespace Truth

/-- True and false change places. -/
def not : Truth → Truth
  | .true => .false
  | .false => .true
  | .unknown => .unknown

/-- One of some values. -/
def any : List Truth → Truth
  | [] => .false
  | a :: as => a.or (any as)

/-- A truth value that is known. -/
def ofBool (b : Bool) : Truth := if b then .true else .false

theorem not_eq_true_iff {a : Truth} : a.not = .true ↔ a = .false := by
  cases a <;> decide

theorem or_eq_true_iff {a b : Truth} : a.or b = .true ↔ a = .true ∨ b = .true := by
  cases a <;> cases b <;> decide

theorem or_eq_false_iff {a b : Truth} : a.or b = .false ↔ a = .false ∧ b = .false := by
  cases a <;> cases b <;> decide

/-- One of some values is true when a true one is among them. -/
theorem any_eq_true_iff {as : List Truth} : any as = .true ↔ .true ∈ as := by
  induction as with
  | nil => simp [any]
  | cons a as ih => rw [any, or_eq_true_iff, ih, List.mem_cons, eq_comm]

/-- It is false only when all of them are; an unknown one leaves it open. -/
theorem any_eq_false_iff {as : List Truth} : any as = .false ↔ ∀ a ∈ as, a = .false := by
  induction as with
  | nil => simp [any]
  | cons a as ih => rw [any, or_eq_false_iff, ih, List.forall_mem_cons]

end Truth

/-! ### Questions -/

/-- A row, as conditions see it: the values of its columns, and which values the server holds to be
equal if neither is null. -/
structure Record where
  value : String → Value
  same : Value → Value → Bool

/-- The comparison of two values; with a null it is unknown. -/
def Record.equals (record : Record) (x v : Value) : Truth :=
  if x.isNull || v.isNull then .unknown else .ofBool (record.same x v)

/-- What can be asked of a column. -/
inductive Question where
  | equal (v : Value)
  | notEqual (v : Value)
  | among (values : List Value)
  | notAmong (values : List Value)
  | null
  | notNull

/-- The answer of a row that has the value `x` in the column. -/
def Question.answer (record : Record) (x : Value) : Question → Truth
  | .equal v => record.equals x v
  | .notEqual v => (record.equals x v).not
  | .among values => .any (values.map (record.equals x))
  | .notAmong values => (Truth.any (values.map (record.equals x))).not
  | .null => .ofBool x.isNull
  | .notNull => .ofBool !x.isNull

/-! ### Reading questions -/

/-- The value of an operand: the parameter of a placeholder, which are numbered from one on, or
null. -/
def operandValue? (params : List Value) (t : Token) : Option Value :=
  match t with
  | .word ('$' :: digits) =>
      match Number.unsignedNumber? digits with
      | some (n + 1) => params[n]?
      | _ => none
  | _ => if t.isKeyword "NULL" then some .null else none

/-- The values of operands with commas between them, up to a closing parenthesis. -/
def listValues? (params : List Value) : List Token → Option (List Value)
  | [t, .mark ')'] => (operandValue? params t).map fun v => [v]
  | t :: .mark ',' :: ts =>
      match operandValue? params t, listValues? params ts with
      | some v, some values => some (v :: values)
      | _, _ => none
  | _ => none

/-- The question that is asked behind the name of a column. -/
def Question.read? (params : List Value) : List Token → Option Question
  | [.mark '=', t] => (operandValue? params t).map .equal
  | [.mark '<', .mark '>', t] => (operandValue? params t).map .notEqual
  | verb :: .mark '(' :: ts =>
      if verb.isKeyword "IN" then (listValues? params ts).map .among else none
  | negation :: verb :: .mark '(' :: ts =>
      if negation.isKeyword "NOT" && verb.isKeyword "IN" then (listValues? params ts).map .notAmong
      else none
  | [verb, t] => if verb.isKeyword "IS" && t.isKeyword "NULL" then some .null else none
  | [verb, negation, t] =>
      if verb.isKeyword "IS" && negation.isKeyword "NOT" && t.isKeyword "NULL" then some .notNull
      else none
  | _ => none

/-- The value of an atom that asks something of a column. -/
def atomTruth? (record : Record) (params : List Value) : List Token → Option Truth
  | .quoted .double column :: ts =>
      (Question.read? params ts).map (Question.answer record (record.value (String.ofList column)))
  | _ => none

/-- The value of an expression whose atoms have values. -/
def Formula.truth? (atom : List Token → Option Truth) : Formula → Option Truth
  | .always => some .true
  | .atom ts => atom ts
  | .and left right =>
      match left.truth? atom, right.truth? atom with
      | some a, some b => some (a.and b)
      | _, _ => none
  | .or left right =>
      match left.truth? atom, right.truth? atom with
      | some a, some b => some (a.or b)
      | _, _ => none

/-- The value of a text for a row, given the parameters of the statement. -/
def truthOf? (record : Record) (params : List Value) (text : List Char) : Option Truth :=
  (Formula.ofSql text).bind (Formula.truth? (atomTruth? record params))

/-! ### Operands -/

variable {params : List Value}

/-- A text that is read as an operand with this value. -/
def IsOperand (params : List Value) (text : List Char) (v : Value) : Prop :=
  ∃ t, tokens text = some [t] ∧ operandValue? params t = some v

theorem isOperand_null : IsOperand params "NULL".toList .null :=
  ⟨.word "NULL".toList, by decide, rfl⟩

/-- A placeholder stands for the parameter of its number. -/
theorem isOperand_placeholder {offset : Nat} {v : Value} (h : params[offset]? = some v) :
    IsOperand params (placeholder offset).toList v := by
  refine ⟨.word (placeholder offset).toList, ?_, ?_⟩
  · rw [toList_placeholder]
    refine tokens_word (List.cons_ne_nil _ _) fun c hc => ?_
    rcases List.mem_cons.1 hc with rfl | hc
    · decide
    · exact isWordChar_of_isDigit (Nat.isDigit_of_mem_toDigits (by decide) (by decide) hc)
  · rw [toList_placeholder]
    simp only [operandValue?, Number.unsignedNumber?_toDigits]
    exact h

/-! ### Questions by their first words -/

theorem Question.read?_equal {t : Token} {v : Value} (h : operandValue? params t = some v) :
    read? params [.mark '=', t] = some (.equal v) := by
  show (operandValue? params t).map Question.equal = _
  rw [h, Option.map_some]

theorem Question.read?_notEqual {t : Token} {v : Value} (h : operandValue? params t = some v) :
    read? params [.mark '<', .mark '>', t] = some (.notEqual v) := by
  show (operandValue? params t).map Question.notEqual = _
  rw [h, Option.map_some]

theorem Question.read?_among {ts : List Token} {values : List Value}
    (h : listValues? params ts = some values) :
    read? params (.word "IN".toList :: .mark '(' :: ts) = some (.among values) := by
  show (listValues? params ts).map Question.among = _
  rw [h, Option.map_some]

theorem Question.read?_notAmong {ts : List Token} {values : List Value}
    (h : listValues? params ts = some values) :
    read? params (.word "NOT".toList :: .word "IN".toList :: .mark '(' :: ts) =
      some (.notAmong values) := by
  show (listValues? params ts).map Question.notAmong = _
  rw [h, Option.map_some]

/-! ### Texts side by side -/

theorem tokens_spaced {xs ys : List Char} {ts us : List Token} (hxs : tokens xs = some ts)
    (hys : tokens ys = some us) : tokens (xs ++ ' ' :: ys) = some (ts ++ us) := by
  have hblank : tokens (' ' :: ys) = some us := by rw [tokens_blank, hys]
  exact tokens_append hxs hblank (breaks_cons (by decide) (by decide))

/-- A list of operands in parentheses is read as the list of their values. -/
theorem listValues?_of_isOperand {xss : List (List Char)} {values : List Value}
    (h : List.Forall₂ (IsOperand params) xss values) (hne : values ≠ []) :
    ∃ ts, tokens ('(' :: ", ".toList.intercalate xss ++ [')']) = some (.mark '(' :: ts) ∧
      listValues? params ts = some values := by
  -- the closing parenthesis comes behind the last operand, so it is there from the start
  have key : ∃ ts, tokens (", ".toList.intercalate xss ++ [')']) = some ts ∧
      listValues? params ts = some values := by
    induction h with
    | nil => exact absurd rfl hne
    | @cons xs v xss values hfirst hrest ih =>
        obtain ⟨t, ht, hv⟩ := hfirst
        cases hrest with
        | nil =>
            have hclose : tokens [')'] = some [.mark ')'] := by decide
            refine ⟨[t, .mark ')'], ?_, ?_⟩
            · rw [List.intercalate_singleton]
              exact tokens_append ht hclose (breaks_cons (by decide) (by decide))
            · simp only [listValues?, hv, Option.map_some]
        | @cons ys w xss values hsecond hrest =>
            obtain ⟨ts, hts, hvalues⟩ := ih (List.cons_ne_nil w values)
            have hcomma : tokens (',' :: ' ' :: (", ".toList.intercalate (ys :: xss) ++ [')'])) =
                some (.mark ',' :: ts) := by
              rw [tokens_mark (by decide), tokens_blank, hts, Option.map_some]
            refine ⟨t :: .mark ',' :: ts, ?_, ?_⟩
            · rw [List.intercalate_cons_cons, List.append_assoc, List.append_assoc]
              exact tokens_append ht hcomma (breaks_cons (by decide) (by decide))
            · simp only [listValues?, hv, hvalues]
  obtain ⟨ts, hts, hvalues⟩ := key
  refine ⟨ts, ?_, hvalues⟩
  rw [List.cons_append, tokens_mark (by decide), hts, Option.map_some]

/-! ### Atoms -/

/-- **The value of an atom** that asks something of a column is the answer of the row. -/
theorem truthOf?_of_factor (record : Record) {text column : List Char} {ts : List Token}
    {q : Question} (hfactor : Factor text (.atom (.quoted .double column :: ts)))
    (hread : Question.read? params ts = some q) :
    truthOf? record params text = some (q.answer record (record.value (String.ofList column))) := by
  have hwhole := whole_conjoin (.cons hfactor .nil) (List.cons_ne_nil text [])
  rw [List.intercalate_singleton] at hwhole
  rw [truthOf?, hwhole.ofSql, Option.bind_some, Formula.conjoin, Formula.truth?, atomTruth?, hread,
    Option.map_some]

end SqlFilter.Sql

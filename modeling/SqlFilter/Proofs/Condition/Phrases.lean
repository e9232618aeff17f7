/-
**The predicate of an entry is an atom.**

Whatever the operator and the kind of a column, the predicate of an entry has no connective outside
of quotes and parentheses, and its parentheses are closed.  Names of columns and keys of documents
stand in quotes, where nothing counts, as long as the key has no quotes of its own.

Main definitions:

* `SqlFilter.Identifier.IsQuoted`: names in quotes, with points between them;
* `SqlFilter.Fragment.InPhrases`: predicates of two phrases;
* `SqlFilter.Scope.HasQuotedQualifier`: what is asked of the name of the table.

Main results:

* `SqlFilter.Key.phrase_reference`: a reference has no connective;
* `SqlFilter.Scope.inPhrases_entry`: **the predicate of an entry** is two phrases side by side.
-/

import SqlFilter.Identifier
import SqlFilter.Proofs.Condition.Inversion
import SqlFilter.Proofs.Condition.Reference
import SqlFilter.Proofs.Sql.Reading
import SqlFilter.Proofs.Template

set_option relaxedAutoImplicit false
set_option autoImplicit false

namespace SqlFilter

open SqlFilter.Sql (Phrase Quote Breaks breaks_cons isWordChar)
open SqlFilter.Text (doubled enclosed trim trimEnd)

/-! ### Words, marks and lists -/

namespace Sql

theorem toUpper_of_isDigit {c : Char} (h : c.isDigit = true) : c.toUpper = c := by
  simp only [Char.isDigit, Bool.and_eq_true, decide_eq_true_eq, UInt32.le_iff_toNat_le,
    ge_iff_le] at h
  have hnine : '9'.val.toNat = 57 := rfl
  have ha : 'a'.val.toNat = 97 := rfl
  refine dif_neg ?_
  rw [UInt32.le_iff_toNat_le, UInt32.le_iff_toNat_le]
  omega

/-- A word that does not start like a connective. -/
theorem phrase_word {c : Char} {cs : List Char} (hword : ∀ d ∈ c :: cs, isWordChar d = true)
    (hand : c.toUpper ≠ 'A') (hor : c.toUpper ≠ 'O') : Phrase (c :: cs) := by
  refine Phrase.token (tokens_word (List.cons_ne_nil c cs) hword) (by simp) (by simp) ?_ ?_
  · simp [Token.isKeyword, hand]
  · simp [Token.isKeyword, hor]

theorem phrase_digits {cs : List Char} (hne : cs ≠ []) (h : ∀ c ∈ cs, c.isDigit = true) :
    Phrase cs := by
  obtain ⟨c, cs, rfl⟩ := List.exists_cons_of_ne_nil hne
  have hc : c.isDigit = true := h c (by simp)
  have hupper : c.toUpper.isDigit = true := by rwa [toUpper_of_isDigit hc]
  refine phrase_word (fun d hd => isWordChar_of_isDigit (h d hd)) ?_ ?_
  · rintro heq
    rw [heq] at hupper
    exact absurd hupper (by decide)
  · rintro heq
    rw [heq] at hupper
    exact absurd hupper (by decide)

theorem phrase_placeholder (offset : Nat) : Phrase (placeholder offset).toList := by
  rw [toList_placeholder]
  refine phrase_word (fun d hd => ?_) (by decide) (by decide)
  rcases List.mem_cons.1 hd with rfl | hd
  · decide
  · exact isWordChar_of_isDigit (Nat.isDigit_of_mem_toDigits (by decide) (by decide) hd)

/-- A call: a name with its argument in parentheses. -/
theorem phrase_call {name argument : List Char} (hname : Phrase name) (h : Phrase argument) :
    Phrase (name ++ '(' :: argument ++ [')']) := by
  rw [List.append_assoc]
  exact hname.append h.parens (breaks_cons (by decide) (by decide))

/-- Phrases with commas between them. -/
theorem phrase_commas {xss : List (List Char)} (hne : xss ≠ []) (h : ∀ xs ∈ xss, Phrase xs) :
    Phrase (", ".toList.intercalate xss) := by
  induction xss with
  | nil => exact absurd rfl hne
  | cons xs xss ih =>
      have hxs := h xs (by simp)
      cases xss with
      | nil => rwa [List.intercalate_singleton]
      | cons ys xss =>
          have hrest := ih (List.cons_ne_nil ys xss) fun zs hzs => h zs (by simp [hzs])
          rw [List.intercalate_cons_cons, List.append_assoc]
          exact hxs.append (hrest.blank.mark (by decide) (by decide) (by decide))
            (breaks_cons (by decide) (by decide))

end Sql

/-! ### Names of tables -/

namespace Identifier

/-- A name in quotes: its parts, each in quotes of its own, with points between them. -/
def IsQuoted (name : String) : Prop :=
  ∃ parts : List (List Char), parts ≠ [] ∧
    name.toList = ['.'].intercalate (parts.map fun part => enclosed '"' (doubled '"' part))

theorem phrase_of_isQuoted {name : String} (h : IsQuoted name) : Phrase name.toList := by
  obtain ⟨parts, hne, hname⟩ := h
  rw [hname]
  clear hname
  induction parts with
  | nil => exact absurd rfl hne
  | cons part parts ih =>
      have hpart : Phrase (enclosed '"' (doubled '"' part)) := Phrase.quoted .double part
      cases parts with
      | nil => rwa [List.map_singleton, List.intercalate_singleton]
      | cons other parts =>
          have hrest := ih (List.cons_ne_nil other parts)
          rw [List.map_cons] at hrest ⊢
          rw [List.map_cons, List.intercalate_cons_cons, List.append_assoc]
          exact hpart.append (hrest.mark (by decide) (by decide) (by decide))
            (breaks_cons (by decide) (by decide))

end Identifier

/-! ### References -/

namespace Key

theorem phrase_enclosed (quote : Quote) {cs : List Char} (h : quote.char ∉ cs) :
    Phrase (enclosed quote.char cs) := by
  have hquoted := Phrase.quoted quote cs
  rwa [Text.doubled_eq_self h] at hquoted

theorem phrase_spelling (op : PathOperator) {cs : List Char} (h : Phrase cs) :
    Phrase (op.spelling ++ cs) := by
  have hminus : ∀ ds, Phrase ds → Phrase ('-' :: ds) := fun _ hds =>
    hds.mark (by decide) (by decide) (by decide)
  have hhash : ∀ ds, Phrase ds → Phrase ('#' :: ds) := fun _ hds =>
    hds.mark (by decide) (by decide) (by decide)
  have harrow : ∀ ds, Phrase ds → Phrase ('>' :: ds) := fun _ hds =>
    hds.mark (by decide) (by decide) (by decide)
  cases op with
  | member => exact hminus _ (harrow _ h)
  | memberText => exact hminus _ (harrow _ (harrow _ h))
  | path => exact hhash _ (harrow _ h)
  | pathText => exact hhash _ (harrow _ (harrow _ h))

theorem breaks_spelling (op : PathOperator) (cs : List Char) : Breaks (op.spelling ++ cs) := by
  cases op <;> exact breaks_cons (by decide) (by decide)

/-- The key of a step is an index or stands in quotes. -/
theorem phrase_renderSegment {segment : List Char} (hne : segment ≠ []) (h : '\'' ∉ segment) :
    Phrase (renderSegment segment) := by
  rw [renderSegment]
  split
  · next hdigits => exact Sql.phrase_digits hne (List.all_eq_true.1 hdigits)
  · split
    · next hquoted =>
        simp only [isQuoted, Bool.and_eq_true, beq_iff_eq] at hquoted
        exact absurd (List.mem_of_mem_head? hquoted.1.2) h
    · exact Phrase.quoted .single segment

theorem phrase_renderSteps? {steps : List (PathOperator × List Char)} {base path : List Char}
    (hbase : Phrase base) (hsteps : ∀ step ∈ steps, '\'' ∉ step.2)
    (hpath : renderSteps? steps = some path) : Phrase (base ++ path) := by
  induction steps generalizing base path with
  | nil =>
      simp only [renderSteps?, Option.some.injEq] at hpath
      rwa [← hpath, List.append_nil]
  | cons step steps ih =>
      obtain ⟨op, text⟩ := step
      simp only [renderSteps?] at hpath
      split at hpath
      · cases hpath
      · next hne =>
          obtain ⟨rest, hrest, rfl⟩ := Option.map_eq_some_iff.1 hpath
          have hquote : '\'' ∉ trim text := fun hmem =>
            hsteps (op, text) (by simp) ((Text.trim_sublist text).subset hmem)
          have hstep := phrase_spelling op (phrase_renderSegment hne hquote)
          rw [← List.append_assoc]
          exact ih (hbase.append hstep (breaks_spelling op _))
            (fun step hstep => hsteps step (by simp [hstep])) hrest

theorem phrase_reference? {field column reference : List Char} (hdouble : '"' ∉ field)
    (hsingle : '\'' ∉ field) (h : reference? field = some (column, reference)) :
    Phrase reference := by
  rw [reference?] at h
  split at h
  · cases h
  · split at h
    · simp only [Option.some.injEq, Prod.mk.injEq] at h
      rw [← h.2]
      exact phrase_enclosed .double hdouble
    · next front steps _ hsplit =>
        simp only at h
        split at h
        · cases h
        · obtain ⟨path, hpath, heq⟩ := Option.map_eq_some_iff.1 h
          simp only [Prod.mk.injEq] at heq
          rw [← heq.2]
          refine phrase_renderSteps? (phrase_enclosed .double fun hmem => hdouble ?_)
            (fun step hstep hmem => hsingle ?_) hpath
          · refine mem_splitPath_column ?_
            rw [hsplit]
            exact (Text.trimEnd_sublist front).subset hmem
          · exact mem_splitPath_step (by rw [hsplit]; exact hstep) hmem

/-- A reference has no connective, if its key has no quotes. -/
theorem phrase_reference {raw : String} {key : Key} (hdouble : '"' ∉ raw.toList)
    (hsingle : '\'' ∉ raw.toList) (h : parse raw = .ok key) : Phrase key.reference.toList := by
  obtain ⟨column, reference, op, href, rfl⟩ := parse_eq_ok h
  have hfield : ∀ c, c ∉ raw.toList → c ∉ (splitOperator (trim raw.toList)).1 := by
    intro c hc hmem
    exact hc ((field_sublist raw.toList).subset hmem)
  have hphrase := phrase_reference? (hfield _ hdouble) (hfield _ hsingle) href
  rcases toList_reference_ofParts column reference op with heq | heq
  · rwa [heq]
  · have hname : Phrase "LOWER".toList := Sql.phrase_of_tokens (by decide)
    rw [heq]
    exact Sql.phrase_call hname hphrase

end Key

/-! ### Predicates -/

/-- A predicate whose text is two phrases with a blank between them. -/
def Fragment.InPhrases (f : Fragment) : Prop :=
  ∃ xs ys, f.sql.toList = xs ++ ' ' :: ys ∧ Phrase xs ∧ Phrase ys

namespace Scope

theorem phrase_comparison (c : Comparison) : Phrase c.sql.toList := by
  cases c <;> exact Sql.phrase_of_tokens (by decide)

theorem phrase_quantifier (q : Quantifier) : Phrase q.sql.toList := by
  cases q <;> exact Sql.phrase_of_tokens (by decide)

theorem phrase_bindList (offset : Nat) (values : List Value) :
    Phrase (Fragment.bindList offset values).sql.toList := by
  cases values with
  | nil =>
      have hempty : Phrase emptyArraySql.toList := Sql.phrase_of_tokens (by decide)
      exact hempty
  | cons v vs => exact Sql.phrase_placeholder offset

variable {scope : Scope} {key : Key} {kind : ColumnKind} {offset : Nat}

theorem inPhrases_binary {operand : Fragment} (hkey : Phrase key.reference.toList)
    (hoperand : Phrase operand.sql.toList) : (binary key operand).InPhrases :=
  ⟨key.reference.toList, key.comparison.sql.toList ++ ' ' :: operand.sql.toList,
    by simp [binary], hkey, (phrase_comparison key.comparison).spaced hoperand⟩

theorem inPhrases_nullPredicate {f : Fragment} (hkey : Phrase key.reference.toList)
    (h : nullPredicate key = .ok f) : f.InPhrases := by
  rw [nullPredicate] at h
  split at h
  · next sql hsql =>
      cases h
      have hphrase : Phrase (sql ++ " NULL").toList := by
        cases hc : key.comparison <;> rw [hc] at hsql <;> cases hsql <;>
          exact Sql.phrase_of_tokens (by decide)
      exact ⟨key.reference.toList, (sql ++ " NULL").toList, by simp, hkey, hphrase⟩
  · cases h

/-- The members of a list are placeholders and nulls, one for each element. -/
theorem phrase_members {values : List Value} {r : List String × List Value}
    (h : members kind offset values = .ok r) :
    r.1.length = values.length ∧ ∀ sql ∈ r.1, Phrase sql.toList := by
  induction values generalizing offset r with
  | nil =>
      cases h
      simp
  | cons v vs ih =>
      cases hnull : v.isNull with
      | true =>
          obtain ⟨a, ha, rfl⟩ := (members_cons_of_null hnull).1 h
          obtain ⟨hlength, hphrase⟩ := ih ha
          refine ⟨by simp [hlength], fun sql hsql => ?_⟩
          rcases List.mem_cons.1 hsql with rfl | hsql
          · exact Sql.phrase_of_tokens (by decide)
          · exact hphrase sql hsql
      | false =>
          obtain ⟨member, a, -, ha, rfl⟩ := (members_cons_of_not_null hnull).1 h
          obtain ⟨hlength, hphrase⟩ := ih ha
          refine ⟨by simp [hlength], fun sql hsql => ?_⟩
          rcases List.mem_cons.1 hsql with rfl | hsql
          · exact Sql.phrase_placeholder offset
          · exact hphrase sql hsql

theorem inPhrases_membership {values : List Value} {f : Fragment}
    (hkey : Phrase key.reference.toList) (h : membership key kind offset values = .ok f) :
    f.InPhrases := by
  obtain ⟨hne, a, ha, rfl⟩ := membership_eq_ok_iff.1 h
  obtain ⟨hlength, hphrase⟩ := phrase_members ha
  have hmembers : Phrase (", ".toList.intercalate (a.1.map String.toList)) := by
    refine Sql.phrase_commas ?_ fun xs hxs => ?_
    · intro hnil
      rw [List.map_eq_nil_iff] at hnil
      rw [hnil] at hlength
      exact hne (List.eq_nil_of_length_eq_zero hlength.symm)
    · obtain ⟨sql, hsql, rfl⟩ := List.mem_map.1 hxs
      exact hphrase sql hsql
  have hword : Phrase (if key.comparison = .equal then "IN" else "NOT IN").toList := by
    split <;> exact Sql.phrase_of_tokens (by decide)
  exact ⟨key.reference.toList, _, by simp, hkey, hword.spaced hmembers.parens⟩

theorem inPhrases_listPredicate {values : List Value} {f : Fragment}
    (hkey : Phrase key.reference.toList) (h : listPredicate key kind offset values = .ok f) :
    f.InPhrases := by
  have hlist := inPhrases_binary hkey (phrase_bindList offset values)
  cases kind with
  | json =>
      simp only [listPredicate] at h
      split at h
      · cases h
        exact hlist
      · split at h
        · cases h
          exact inPhrases_binary hkey (Sql.phrase_placeholder offset)
        · cases h
  | array =>
      simp only [listPredicate] at h
      split at h
      · cases h
        exact hlist
      · cases h
  | _ =>
      simp only [listPredicate] at h
      split at h
      · exact inPhrases_membership hkey h
      · split at h
        · next quantifier _ =>
            cases h
            have hcall := Sql.phrase_call (phrase_quantifier quantifier)
              (phrase_bindList offset values)
            exact inPhrases_binary hkey (by simpa using hcall)
        · cases h

/-- What is asked of the name of the table: if there is one, it stands in quotes. -/
def HasQuotedQualifier (scope : Scope) : Prop :=
  scope.qualifier = "" ∨ Identifier.IsQuoted scope.qualifier

theorem phrase_qualified {reference : String} (hscope : scope.HasQuotedQualifier)
    (h : Phrase reference.toList) : Phrase (scope.qualified reference).toList := by
  rw [qualified]
  split
  · exact h
  · next hne =>
      have hname := Identifier.phrase_of_isQuoted (hscope.resolve_left hne)
      have hpoint : Phrase ('.' :: reference.toList) :=
        h.mark (by decide) (by decide) (by decide)
      have hphrase := hname.append hpoint (breaks_cons (by decide) (by decide))
      simpa using hphrase

/-- Some element of a list column matches: the search through the elements is one phrase. -/
theorem inPhrases_exists {reference : String} {c : Comparison} (h : Phrase reference.toList)
    (params : List Value) :
    Fragment.InPhrases ⟨"EXISTS (SELECT * FROM (SELECT UNNEST(" ++ reference ++
      ") _el) _arr WHERE _arr._el " ++ c.sql ++ " " ++ placeholder offset ++ ")", params⟩ := by
  have hexists : Phrase "EXISTS".toList := Sql.phrase_of_tokens (by decide)
  have hfrom : Phrase "SELECT * FROM".toList := Sql.phrase_of_tokens (by decide)
  have hselect : Phrase "SELECT".toList := Sql.phrase_of_tokens (by decide)
  have hunnest : Phrase "UNNEST".toList := Sql.phrase_of_tokens (by decide)
  have helement : Phrase "_el".toList := Sql.phrase_of_tokens (by decide)
  have hwhere : Phrase "_arr WHERE _arr._el".toList := Sql.phrase_of_tokens (by decide)
  have helements := (hselect.spaced ((Sql.phrase_call hunnest h).spaced helement)).parens
  have hmatch := hwhere.spaced ((phrase_comparison c).spaced (Sql.phrase_placeholder offset))
  refine ⟨"EXISTS".toList, _, ?_, hexists, (hfrom.spaced (helements.spaced hmatch)).parens⟩
  simp

theorem inPhrases_scalarPredicate {v : Value} {f : Fragment} (hscope : scope.HasQuotedQualifier)
    (hkey : Phrase key.reference.toList)
    (h : scope.scalarPredicate key kind offset v = .ok f) : f.InPhrases := by
  have hplaceholder := Sql.phrase_placeholder offset
  cases kind with
  | array =>
      simp only [scalarPredicate] at h
      split at h
      · cases h
      · split at h
        · cases h
          have hany : Phrase "ANY".toList := Sql.phrase_of_tokens (by decide)
          refine ⟨_, _, ?_, hplaceholder,
            (phrase_comparison key.comparison).spaced (Sql.phrase_call hany hkey)⟩
          simp
        · split at h
          · cases h
            exact inPhrases_exists (phrase_qualified hscope hkey) _
          · cases h
  | time =>
      simp only [scalarPredicate] at h
      split at h
      · cases h
      · cases h
        exact inPhrases_binary hkey hplaceholder
  | _ =>
      cases h
      exact inPhrases_binary hkey hplaceholder

theorem inPhrases_keyed {v : Value} {f : Fragment} (hscope : scope.HasQuotedQualifier)
    (hkey : Phrase key.reference.toList) (h : scope.keyed key offset v = .ok f) :
    f.InPhrases := by
  simp only [keyed] at h
  split at h
  · exact inPhrases_nullPredicate hkey h
  · exact inPhrases_listPredicate hkey h
  · exact inPhrases_scalarPredicate hscope hkey h

/-- **The predicate of an entry** is two phrases side by side, if the key has no quotes. -/
theorem inPhrases_entry {raw : String} {v : Value} {f : Fragment}
    (hscope : scope.HasQuotedQualifier) (hdouble : '"' ∉ raw.toList) (hsingle : '\'' ∉ raw.toList)
    (h : scope.entry raw offset v = .ok f) : f.InPhrases := by
  obtain ⟨key, hkey, hkeyed⟩ := entry_eq_ok_iff.1 h
  exact inPhrases_keyed hscope (Key.phrase_reference hdouble hsingle hkey) hkeyed

end Scope

end SqlFilter

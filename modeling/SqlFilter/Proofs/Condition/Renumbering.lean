/-
**The offset renumbers placeholders and does nothing else.**

A tree can be compiled behind any number of parameters.  Two such runs on one tree end in the same
way: with the same error, or with the same parameters and with texts that differ in the numbers of
their placeholders only.  As a template this holds of every tree; as long as no dollar sign comes in
with a key or with the name of the table, one text is even found from the other without knowing the
tree, by adding the difference of the offsets to each number behind a dollar sign.

Main definitions:

* `SqlFilter.shiftPlaceholders`: a text with a number added to each of its placeholders;
* `SqlFilter.Renumbered`: two texts are one template, filled at two offsets.

Main results:

* `SqlFilter.Template.shiftPlaceholders_fill`: shifting a filled template fills it further on;
* `SqlFilter.Scope.compile_add`: **two runs at different offsets** fail alike or renumber;
* `SqlFilter.Renumbered.whereClause`: the same for the clauses of statements.
-/

import SqlFilter.Proofs.Condition.Uniform
import SqlFilter.Proofs.Query.Clauses

set_option relaxedAutoImplicit false
set_option autoImplicit false

namespace SqlFilter

open SqlFilter.Number (takeWhile_isDigit_append)

/-! ### Shifting the placeholders of a text -/

/-- A text with `k` added to the number of each placeholder; a dollar sign without digits is none
and stays. -/
def shiftPlaceholders (k : Nat) : List Char → List Char
  | [] => []
  | c :: cs =>
      if c = '$' ∧ cs.takeWhile Char.isDigit ≠ [] then
        '$' :: (Nat.toDigits 10 (Nat.ofDigitChars 10 (cs.takeWhile Char.isDigit) 0 + k) ++
          shiftPlaceholders k (cs.dropWhile Char.isDigit))
      else c :: shiftPlaceholders k cs
termination_by cs => cs.length
decreasing_by
  · exact Nat.lt_succ_of_le (List.dropWhile_suffix _).length_le
  · exact Nat.lt_succ_self _

@[simp] theorem shiftPlaceholders_nil (k : Nat) : shiftPlaceholders k [] = [] := by
  rw [shiftPlaceholders]

theorem shiftPlaceholders_cons_of_ne {c : Char} (h : c ≠ '$') (k : Nat) (cs : List Char) :
    shiftPlaceholders k (c :: cs) = c :: shiftPlaceholders k cs := by
  rw [shiftPlaceholders, if_neg fun hdollar => h hdollar.1]

/-- Text without dollar signs stays as it is. -/
theorem shiftPlaceholders_append_of_not_mem {cs : List Char} (h : '$' ∉ cs) (k : Nat)
    (rest : List Char) : shiftPlaceholders k (cs ++ rest) = cs ++ shiftPlaceholders k rest := by
  induction cs with
  | nil => rfl
  | cons c cs ih =>
      simp only [List.mem_cons, not_or] at h
      rw [List.cons_append, shiftPlaceholders_cons_of_ne (Ne.symm h.1), ih h.2, List.cons_append]

/-- A placeholder is shifted when no digit follows it. -/
theorem shiftPlaceholders_placeholder (k offset : Nat) {rest : List Char}
    (h : ∀ c ∈ rest.head?, c.isDigit = false) :
    shiftPlaceholders k ((placeholder offset).toList ++ rest) =
      (placeholder (offset + k)).toList ++ shiftPlaceholders k rest := by
  have hdigits : ∀ c ∈ Nat.toDigits 10 (offset + 1), c.isDigit = true :=
    fun c hc => Nat.isDigit_of_mem_toDigits (by decide) (by decide) hc
  have hrest : rest.takeWhile Char.isDigit = [] := takeWhile_isDigit_append [] h
  have htake : (Nat.toDigits 10 (offset + 1) ++ rest).takeWhile Char.isDigit =
      Nat.toDigits 10 (offset + 1) := by
    rw [List.takeWhile_append_of_pos hdigits, hrest, List.append_nil]
  have hdrop : (Nat.toDigits 10 (offset + 1) ++ rest).dropWhile Char.isDigit = rest := by
    have happend := List.takeWhile_append_dropWhile (p := Char.isDigit)
      (l := Nat.toDigits 10 (offset + 1) ++ rest)
    rw [htake] at happend
    exact List.append_cancel_left happend
  have hne : Nat.toDigits 10 (offset + 1) ≠ [] := Nat.toDigits_ne_nil
  rw [toList_placeholder, List.cons_append, shiftPlaceholders, htake, hdrop, if_pos ⟨rfl, hne⟩,
    Nat.ofDigitChars_ten_toDigits, toList_placeholder, Nat.add_right_comm, List.cons_append]

/-- **A template filled from an offset on, shifted, is the template filled from further on.** -/
theorem Template.shiftPlaceholders_fill {t : Template} (hsep : Separated t)
    (hdollar : some '$' ∉ t) (offset k : Nat) :
    shiftPlaceholders k (fill offset t) = fill (offset + k) t := by
  induction t generalizing offset with
  | nil => exact shiftPlaceholders_nil k
  | cons a t ih =>
      simp only [List.mem_cons, not_or] at hdollar
      cases a with
      | some c =>
          have hc : c ≠ '$' := fun h => hdollar.1 (by rw [h])
          rw [fill, fill, shiftPlaceholders_cons_of_ne hc, ih hsep hdollar.2]
      | none =>
          rw [fill, fill, shiftPlaceholders_placeholder k offset (head?_fill hsep.1 _),
            ih hsep.2 hdollar.2, Nat.add_right_comm]

/-! ### Two runs on one tree -/

/-- The texts are one template with a number of gaps, filled behind `offset` parameters and behind
`k` more. -/
def Renumbered (offset k gaps : Nat) (first second : String) : Prop :=
  ∃ t : Template, t.gaps = gaps ∧ first.toList = t.fill offset ∧ second.toList = t.fill (offset + k)

namespace Scope

/-- **Two runs at different offsets.**  A tree that fails behind some parameters fails behind `k`
more with the same error.  A tree that compiles there compiles here, too, with the same parameters
and with `k` added to the numbers; this can be seen from the text alone when no dollar sign comes in
with a key or with the name of the table. -/
theorem compile_add (scope : Scope) (conditions : Conditions) (offset k : Nat) :
    (∀ e, scope.compile conditions offset = .error e ↔
      scope.compile conditions (offset + k) = .error e) ∧
    ∀ p, scope.compile conditions offset = .ok p →
      ∃ q, scope.compile conditions (offset + k) = .ok q ∧ q.params = p.params ∧
        q.nextOffset = p.nextOffset + k ∧ Renumbered offset k p.params.length p.sql q.sql ∧
          (Dollarless (Conditions.allKeys conditions) → '$' ∉ scope.qualifier.toList →
            q.sql.toList = shiftPlaceholders k p.sql.toList) := by
  rcases compile_uniform scope conditions with ⟨e, he⟩ | ⟨t, params, hsound, hgaps, hcompile⟩
  · rw [he offset, he (offset + k)]
    exact ⟨fun e' => Iff.rfl, fun p h => nomatch h⟩
  · rw [hcompile offset, hcompile (offset + k)]
    refine ⟨fun e => by simp, fun p h => ?_⟩
    cases h
    refine ⟨_, rfl, rfl, Nat.add_right_comm _ _ _, ⟨t, hgaps, ?_, ?_⟩, fun hkeys hqualifier => ?_⟩
    · exact String.toList_ofList
    · exact String.toList_ofList
    · -- every dollar sign of the text belongs to a gap of the template
      have hdollar : some '$' ∉ t := fun hmem => by
        rcases hsound.dollar hmem with ⟨key, hkey, hmem'⟩ | hmem'
        · exact hkeys key hkey hmem'
        · exact hqualifier hmem'
      rw [String.toList_ofList, String.toList_ofList,
        Template.shiftPlaceholders_fill hsound.separated hdollar]

end Scope

/-! ### Clauses -/

theorem Template.fill_eq_nil_iff (offset : Nat) (t : Template) : t.fill offset = [] ↔ t = [] := by
  match t with
  | [] => simp
  | some c :: t => simp [fill]
  | none :: t => simp [fill, toList_placeholder]

/-- Of renumbered texts both are empty or none is. -/
theorem Renumbered.eq_empty_iff {offset k gaps : Nat} {first second : String}
    (h : Renumbered offset k gaps first second) : second = "" ↔ first = "" := by
  obtain ⟨t, -, hfirst, hsecond⟩ := h
  rw [← String.toList_eq_nil_iff, ← String.toList_eq_nil_iff, hfirst, hsecond,
    Template.fill_eq_nil_iff, Template.fill_eq_nil_iff]

/-- The clauses of renumbered predicates are renumbered, too. -/
theorem Renumbered.whereClause {offset k gaps : Nat} {p q : Predicate}
    (h : Renumbered offset k gaps p.sql q.sql) :
    Renumbered offset k gaps p.whereClause q.whereClause := by
  have hempty := h.eq_empty_iff
  rw [Predicate.whereClause, Predicate.whereClause]
  by_cases hp : p.sql = ""
  · rw [if_pos hp, if_pos (hempty.2 hp)]
    rwa [hp, hempty.2 hp] at h
  · rw [if_neg hp, if_neg (mt hempty.1 hp)]
    obtain ⟨t, hgaps, hfirst, hsecond⟩ := h
    refine ⟨Template.ofText " WHERE ".toList ++ t, by simp [hgaps], ?_, ?_⟩
    · simp [hfirst]
    · simp [hsecond]

/-- The clause of a shifted text is the shifted clause. -/
theorem toList_whereClause_of_shiftPlaceholders {k : Nat} {p q : Predicate}
    (hempty : q.sql = "" ↔ p.sql = "") (h : q.sql.toList = shiftPlaceholders k p.sql.toList) :
    q.whereClause.toList = shiftPlaceholders k p.whereClause.toList := by
  rw [Predicate.whereClause, Predicate.whereClause]
  by_cases hp : p.sql = ""
  · rw [if_pos hp, if_pos (hempty.2 hp)]
    exact (shiftPlaceholders_nil k).symm
  · rw [if_neg hp, if_neg (mt hempty.1 hp), String.toList_append, String.toList_append,
      shiftPlaceholders_append_of_not_mem (by decide), h]

end SqlFilter

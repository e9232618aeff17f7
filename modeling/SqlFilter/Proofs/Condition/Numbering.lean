/-
**The numbers of the placeholders.**

A compiled tree uses each number behind its offset exactly once and in the order of the text, so a
parameter is never skipped, never used twice and never out of place.  Groups number their elements
on from their parents, and what is written into the text (null, empty lists) takes no number.

Main results:

* `SqlFilter.Scope.compile_template`: a compiled tree is a template, filled;
* `SqlFilter.Scope.placeholderNumbers_compile`: **the placeholders of a compiled tree** are the
  numbers behind its offset, one for each parameter.
-/

import SqlFilter.Proofs.Condition.Uniform

set_option relaxedAutoImplicit false
set_option autoImplicit false

namespace SqlFilter.Scope

open Template (Sound)

/-- A compiled tree is a template with a gap for each parameter, filled from its offset on. -/
theorem compile_template {scope : Scope} {conditions : Conditions} {offset : Nat} {p : Predicate}
    (h : scope.compile conditions offset = .ok p) :
    ∃ t, Sound (scope.DollarAmong (Conditions.allKeys conditions)) t ∧ t.gaps = p.params.length ∧
      p.sql.toList = t.fill offset ∧ p.nextOffset = offset + p.params.length := by
  rcases compile_uniform scope conditions with ⟨e, he⟩ | ⟨t, params, hsound, hgaps, hcompile⟩
  · cases (he offset).symm.trans h
  · cases (hcompile offset).symm.trans h
    exact ⟨t, hsound, hgaps, String.toList_ofList, rfl⟩

/-- **The placeholders of a compiled tree** are numbered on from the offset, from left to right, one
for each parameter, when no dollar sign comes in with a key or with the name of the table. -/
theorem placeholderNumbers_compile {scope : Scope} {conditions : Conditions} {offset : Nat}
    {p : Predicate} (hkeys : ∀ key ∈ Conditions.allKeys conditions, '$' ∉ key.toList)
    (hqualifier : '$' ∉ scope.qualifier.toList) (h : scope.compile conditions offset = .ok p) :
    placeholderNumbers p.sql.toList = List.range' (offset + 1) p.params.length ∧
      p.nextOffset = offset + p.params.length := by
  obtain ⟨t, hsound, hgaps, hsql, hnext⟩ := compile_template h
  -- every dollar sign of the text belongs to a gap of the template
  have hdollar : some '$' ∉ t := fun hmem => by
    rcases hsound.dollar hmem with ⟨key, hkey, hmem'⟩ | hmem'
    · exact hkeys key hkey hmem'
    · exact hqualifier hmem'
  refine ⟨?_, hnext⟩
  rw [hsql, Template.placeholderNumbers_fill hsound.separated hdollar, hgaps]

/-- A table with a list of tags. -/
def users : Scope := ⟨fun column => if column = "tags" then .array else .scalar, "\"users\""⟩

/-- A null in a list, a group with an empty element, a list column, and a missing value. -/
def taggedUsers : Conditions :=
  [("id", .value (.array [.int 1, .null])),
    ("or", .group [[("tags ilike", .value (.text "fo%"))], [],
      [("a", .undefined), ("b >", .value (.bool true))]])]

theorem placeholderNumbers_taggedUsers :
    ∃ p, users.compile taggedUsers 2 = .ok p ∧ placeholderNumbers p.sql.toList = [3, 4, 5] ∧
      p.nextOffset = 5 := by
  have hcompile : users.compile taggedUsers 2 = .ok
      ⟨"\"id\" IN ($3, NULL) AND ((EXISTS (SELECT * FROM (SELECT UNNEST(\"users\".\"tags\") " ++
        "_el) _arr WHERE _arr._el ILIKE $4)) OR (TRUE) OR (\"b\" > $5))",
        [.int 1, .text "fo%", .bool true], 5⟩ := rfl
  exact ⟨_, hcompile, placeholderNumbers_compile (by decide) (by decide) hcompile⟩

end SqlFilter.Scope

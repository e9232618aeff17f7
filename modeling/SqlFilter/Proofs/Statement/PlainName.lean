/-
**Plain names.**

The name of a table is plain when each of its parts, one or two, is a letter or an underscore with
letters, digits and underscores behind it, short enough for the server to keep it whole, and none of
the names of the server's own catalogs.  The check of a name accepts exactly the plain ones, but it
looks at the name in its compatibility normalization form, and what is written in a statement is the
name as it was given.  So the normalized parts of an accepted name are plain always, and the written
ones are when normalization leaves them as they are.

Main definitions:

* `SqlFilter.Identifier.IsPlain`: a plain part;
* `SqlFilter.Identifier.IsPlainQuoted`: one or two plain parts, each in quotes.

Main results:

* `SqlFilter.Identifier.validateNormal_eq_ok_iff`: the check accepts exactly the plain parts;
* `SqlFilter.Table.isPlainQuoted_create`: **what is written of an accepted name**;
* `SqlFilter.Table.not_isPlainQuoted_fullWidth`: an accepted name that is written otherwise.
-/

import SqlFilter.Proofs.Statement.Name
import SqlFilter.Statement.Table

set_option relaxedAutoImplicit false
set_option autoImplicit false

namespace SqlFilter

open SqlFilter.Text (asciiLower compatible compatible_ascii enclosed lowerCase lowerCase_ascii
  splitOn)

namespace Identifier

/-! ### Plain parts -/

/-- A plain part of a name: a letter or an underscore, then letters, digits and underscores, all of
ASCII; at most 63 bytes; no name of a catalog, in any letter case. -/
structure IsPlain (part : List Char) : Prop where
  initial : ∃ c cs, part = c :: cs ∧ (c.isAlpha = true ∨ c = '_')
  inner : ∀ c ∈ part, c.isAlphanum = true ∨ c = '_'
  bytes_le : (String.ofList part).utf8ByteSize ≤ 63
  not_system : ¬"pg_".toList <+: asciiLower part
  not_schema : asciiLower part ≠ "information_schema".toList

theorem toNat_lt_of_isAlphanum {c : Char} (h : c.isAlphanum = true) : c.toNat < 0x80 := by
  delta Char.isAlphanum Char.isAlpha Char.isUpper Char.isLower Char.isDigit at h
  simp only [Bool.or_eq_true, Bool.and_eq_true, decide_eq_true_eq, UInt32.le_iff_toNat_le,
    ge_iff_le] at h
  have hcode : c.toNat = c.val.toNat := rfl
  have hZ : 'Z'.val.toNat = 90 := rfl
  have hz : 'z'.val.toNat = 122 := rfl
  have h9 : '9'.val.toNat = 57 := rfl
  omega

/-- Letters, digits and underscores are characters of ASCII. -/
theorem ascii_of_inner {part : List Char} (h : ∀ c ∈ part, c.isAlphanum = true ∨ c = '_') :
    ∀ c ∈ part, c.toNat < 0x80 := by
  intro c hc
  rcases h c hc with hword | rfl
  · exact toNat_lt_of_isAlphanum hword
  · decide

theorem isInitial_iff {c : Char} : isInitial c = true ↔ c.isAlpha = true ∨ c = '_' := by
  simp [isInitial]

theorem isInner_iff {c : Char} : isInner c = true ↔ c.isAlphanum = true ∨ c = '_' := by
  simp [isInner]

/-- On a text of ASCII the names of catalogs are found in any letter case. -/
theorem isCatalog_eq_false_iff {part : List Char} (h : ∀ c ∈ part, c.toNat < 0x80) :
    isCatalog part = false ↔
      ¬"pg_".toList <+: asciiLower part ∧ asciiLower part ≠ "information_schema".toList := by
  have hlower : lowerCase part = asciiLower part := lowerCase_ascii [] part h
  simp only [isCatalog, hlower]
  rw [← Bool.not_eq_true, Bool.or_eq_true, List.isPrefixOf_iff_prefix, beq_iff_eq, not_or]

/-- The check accepts exactly the plain parts. -/
theorem validateNormal_eq_ok_iff {part : List Char} :
    validateNormal part = .ok () ↔ IsPlain part := by
  constructor
  · intro h
    have hinner : ∀ c ∈ part, c.isAlphanum = true ∨ c = '_' := fun c hc =>
      isInner_iff.1 (isInner_of_validateNormal h c hc)
    cases part with
    | nil => cases h
    | cons c cs =>
        obtain ⟨hbytes, hinitial, -, hcatalog⟩ := validateNormal_cons_eq_ok_iff.1 h
        obtain ⟨hsystem, hschema⟩ := (isCatalog_eq_false_iff (ascii_of_inner hinner)).1 hcatalog
        exact ⟨⟨c, cs, rfl, isInitial_iff.1 hinitial⟩, hinner, hbytes, hsystem, hschema⟩
  · intro h
    obtain ⟨c, cs, rfl, hinitial⟩ := h.initial
    have hcatalog :=
      (isCatalog_eq_false_iff (ascii_of_inner h.inner)).2 ⟨h.not_system, h.not_schema⟩
    exact validateNormal_cons_eq_ok_iff.2 ⟨h.bytes_le, isInitial_iff.2 hinitial,
      fun d hd => isInner_iff.2 (h.inner d hd), hcatalog⟩

/-! ### Accepted names -/

/-- One or two plain parts, each in quotes, with a point between them. -/
def IsPlainQuoted (text : List Char) : Prop :=
  ∃ parts : List (List Char), (parts.length = 1 ∨ parts.length = 2) ∧
    text = ['.'].intercalate (parts.map (enclosed '"')) ∧ ∀ part ∈ parts, IsPlain part

/-- The normalized parts of an accepted name are plain. -/
theorem isPlain_compatible_of_validate {name : String} (h : validate name = .ok ()) :
    ∀ part ∈ splitOn '.' name.toList, IsPlain (compatible part) := by
  intro part hpart
  have hchecked := validatePart_of_validate h part hpart
  rw [validatePart] at hchecked
  split at hchecked
  · cases hchecked
  · rw [String.toList_ofList] at hchecked
    exact validateNormal_eq_ok_iff.1 hchecked

/-- An accepted name has one or two parts. -/
theorem length_splitOn_of_validate {name : String} (h : validate name = .ok ()) :
    (splitOn '.' name.toList).length = 1 ∨ (splitOn '.' name.toList).length = 2 := by
  rw [validate] at h
  split at h
  · cases h
  · rw [← List.length_map (f := String.ofList)]
    split at h
    · next heq => exact .inl (congrArg List.length heq)
    · next heq => exact .inr (congrArg List.length heq)
    · cases h

/-- Whatever stands in a part of a name stands in the quoted name. -/
theorem mem_quote_of_mem_part {name : String} {part : List Char} {c : Char}
    (hpart : part ∈ splitOn '.' name.toList) (hc : c ∈ part) : c ∈ (quote name).toList := by
  rw [quote, String.toList_ofList]
  refine Text.mem_intercalate_of_mem (List.mem_map_of_mem hpart) ?_
  simp [enclosed, hc]

/-- A quoted name of plain parts has characters of ASCII only. -/
theorem IsPlainQuoted.ascii {text : List Char} (h : IsPlainQuoted text) :
    ∀ c ∈ text, c.toNat < 0x80 := by
  obtain ⟨parts, -, rfl, hplain⟩ := h
  intro c hc
  rcases Text.mem_of_mem_intercalate hc with hpoint | ⟨piece, hpiece, hmem⟩
  · rw [List.mem_singleton.1 hpoint]
    decide
  · obtain ⟨part, hpart, rfl⟩ := List.mem_map.1 hpiece
    rcases Text.mem_enclosed hmem with rfl | hmem
    · decide
    · exact ascii_of_inner (hplain part hpart).inner c hmem

end Identifier

/-! ### Tables -/

namespace Table

open Identifier (IsPlain IsPlainQuoted)

/-- **What is written of an accepted name**: the name as it was given, each of its parts in quotes.
In normalized form its parts are plain; they are written as plain parts exactly when normalization
leaves them as they are. -/
theorem isPlainQuoted_create {name : String} {table : Table} (h : create name = .ok table) :
    table.name = name ∧ (∀ part ∈ splitOn '.' name.toList, IsPlain (compatible part)) ∧
      (IsPlainQuoted table.quotedName.toList ↔
        ∀ part ∈ splitOn '.' name.toList, compatible part = part) := by
  obtain ⟨hvalid, hname⟩ : Identifier.validate name = .ok () ∧ table.name = name := by
    rw [create] at h
    split at h
    · cases h
    · next hvalid =>
        cases h
        exact ⟨hvalid, rfl⟩
  have hplain := Identifier.isPlain_compatible_of_validate hvalid
  refine ⟨hname, hplain, fun hquoted part hpart => ?_, fun hnormal => ?_⟩
  · rw [quotedName, hname] at hquoted
    exact compatible_ascii fun c hc =>
      hquoted.ascii c (Identifier.mem_quote_of_mem_part hpart hc)
  · refine ⟨splitOn '.' name.toList, Identifier.length_splitOn_of_validate hvalid, ?_, ?_⟩
    · rw [quotedName, hname, Identifier.quote, String.toList_ofList]
    · intro part hpart
      rw [← hnormal part hpart]
      exact hplain part hpart

/-- A table in a schema is written with both names in quotes. -/
theorem isPlainQuoted_create_schema :
    create "public.Users" = .ok ⟨"public.Users", .empty, {}⟩ ∧
      (Table.mk "public.Users" .empty {}).quotedName = "\"public\".\"Users\"" ∧
        IsPlainQuoted "\"public\".\"Users\"".toList := by
  have hcreate : create "public.Users" = .ok ⟨"public.Users", .empty, {}⟩ := rfl
  have hquoted : (Table.mk "public.Users" .empty {}).quotedName = "\"public\".\"Users\"" := rfl
  refine ⟨hcreate, hquoted, ?_⟩
  rw [← hquoted]
  refine (isPlainQuoted_create hcreate).2.2.2 fun part hpart => compatible_ascii ?_
  have hparts : splitOn '.' "public.Users".toList = ["public".toList, "Users".toList] := by decide
  rw [hparts] at hpart
  obtain rfl | rfl : part = "public".toList ∨ part = "Users".toList := by simpa using hpart
  · simp
  · simp

/-- **An accepted name may be written in characters that no plain name has**: full-width letters are
checked as the letters that they stand for. -/
theorem not_isPlainQuoted_fullWidth :
    ¬∀ name table, create name = .ok table → IsPlainQuoted table.quotedName.toList := by
  intro h
  have hquoted := h "ｕｓｅｒｓ" ⟨"ｕｓｅｒｓ", .empty, {}⟩ rfl
  exact absurd (hquoted.ascii 'ｕ' (by decide)) (by decide)

end Table

end SqlFilter

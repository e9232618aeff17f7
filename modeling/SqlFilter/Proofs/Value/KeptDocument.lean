/-
**Documents that come back.**

A document is taken apart into values and put together from them again, by two walks that know
nothing of each other.  Texts, truth values, lists and whole objects are the same afterwards, and so
are the numbers, with one exception: a value has signed whole numbers only.  A whole number beyond
the signed words of 64 bits, which a document may well have, becomes the nearest double-precision
number and stays one.  An object is kept as a document, so nothing in it is changed.

Main definitions:

* `SqlFilter.Json.HasUnsigned`: a document with a number that no value can hold as it is.

Main results:

* `SqlFilter.Value.toJson_ofNumber_iff`: the numbers that come back;
* `SqlFilter.Value.toJson_ofJson_iff`: **exactly the documents without such a number come back**.
-/

import SqlFilter.Value.Document

set_option relaxedAutoImplicit false
set_option autoImplicit false

namespace SqlFilter

namespace Json

/-- The greatest whole number of the signed words of 64 bits. -/
def greatestSigned : Int := 9223372036854775807

/-- The document is a whole number beyond the signed words, or a list with such a number in it, at
any depth.  What stands in an object does not count. -/
inductive HasUnsigned : Json → Prop
  | number {n : Int} {value_mem : leastInteger ≤ n ∧ n ≤ greatestInteger} :
      greatestSigned < n → HasUnsigned (.number (.integer n value_mem))
  | item {items : List Json} {item : Json} : item ∈ items → HasUnsigned item →
      HasUnsigned (.array items)

theorem hasUnsigned_integer_iff {n : Int} {value_mem : leastInteger ≤ n ∧ n ≤ greatestInteger} :
    HasUnsigned (.number (.integer n value_mem)) ↔ greatestSigned < n := by
  constructor
  · intro h
    cases h with
    | number hn => exact hn
  · exact HasUnsigned.number

theorem hasUnsigned_array_iff {items : List Json} :
    HasUnsigned (.array items) ↔ ∃ item ∈ items, HasUnsigned item := by
  constructor
  · intro h
    cases h with
    | item hmem hitem => exact ⟨_, hmem, hitem⟩
  · rintro ⟨item, hmem, hitem⟩
    exact .item hmem hitem

/-- A double-precision number has no whole number as its document. -/
theorem ofBinary64_ne_integer (x : Number.Binary64) (n : Int)
    (value_mem : leastInteger ≤ n ∧ n ≤ greatestInteger) :
    ofBinary64 x ≠ .number (.integer n value_mem) := by
  intro h
  rw [ofBinary64, Number.ofBinary64?] at h
  by_cases hfinite : x.isFinite = true
  · simp [hfinite] at h
  · simp [hfinite] at h

end Json

namespace Value

open Json (HasUnsigned greatestSigned)

/-! ### Numbers -/

/-- A signed whole number comes back. -/
theorem toJson_ofNumber_of_le {n : Int}
    {value_mem : Json.leastInteger ≤ n ∧ n ≤ Json.greatestInteger} (h : n ≤ greatestSigned) :
    (ofNumber (.integer n value_mem)).toJson = .number (.integer n value_mem) := by
  have hlow : -2 ^ 63 ≤ n := value_mem.1
  have hhigh : n < 2 ^ 63 := Int.lt_of_le_of_lt h (by decide)
  have hword : (Int64.ofInt n).toInt = n := Int64.toInt_ofInt_of_le hlow hhigh
  have hsmall : n < Number.twoPow 63 := hhigh
  rw [ofNumber, if_pos hsmall, toJson, Json.ofInt64]
  simp only [hword]

/-- A whole number beyond the signed ones comes back as a double-precision number. -/
theorem toJson_ofNumber_of_lt {n : Int}
    {value_mem : Json.leastInteger ≤ n ∧ n ≤ Json.greatestInteger} (h : greatestSigned < n) :
    (ofNumber (.integer n value_mem)).toJson = Json.ofBinary64 (Number.Binary64.ofInt n) := by
  have hlarge : ¬ n < Number.twoPow 63 := Int.not_lt.2 (Int.add_one_le_of_lt h)
  rw [ofNumber, if_neg hlarge, toJson]

/-- The numbers that come back. -/
theorem toJson_ofNumber_iff (n : Json.Number) :
    (ofNumber n).toJson = .number n ↔ ¬ HasUnsigned (.number n) := by
  cases n with
  | integer n value_mem =>
      rw [Json.hasUnsigned_integer_iff, Int.not_lt]
      constructor
      · intro h
        refine Int.not_lt.1 fun hlarge => ?_
        rw [toJson_ofNumber_of_lt hlarge] at h
        exact Json.ofBinary64_ne_integer _ n value_mem h
      · exact toJson_ofNumber_of_le
  | double x isFinite =>
      have hsame : (ofNumber (.double x isFinite)).toJson = .number (.double x isFinite) := by
        simp [ofNumber, toJson, Json.ofBinary64, Json.Number.ofBinary64?, isFinite]
      exact iff_of_true hsame nofun

/-! ### Documents -/

/-- A list comes back when all of its items do. -/
theorem toJson_ofJson_array_iff (items : List Json) :
    (ofJson (.array items)).toJson = .array items ↔
      ∀ item ∈ items, (ofJson item).toJson = item := by
  rw [ofJson, toJson, Json.array.injEq, ofJsonList_eq_map, toJsonList_eq_map, List.map_map]
  induction items with
  | nil => simp
  | cons item items ih => rw [List.map_cons, List.cons.injEq, ih, List.forall_mem_cons]; rfl

/-- **Exactly the documents without a whole number beyond the signed words come back** from their
values: every number, text, truth value, null, list and object is the same, and in the same place.
-/
theorem toJson_ofJson_iff (document : Json) :
    (ofJson document).toJson = document ↔ ¬ HasUnsigned document := by
  match document with
  | .null | .bool _ | .string _ => exact iff_of_true rfl nofun
  | .number n => exact toJson_ofNumber_iff n
  | .array items =>
      -- the items are smaller documents
      have ih : ∀ item ∈ items, (ofJson item).toJson = item ↔ ¬ HasUnsigned item := by
        intro item hmem
        exact toJson_ofJson_iff item
      rw [toJson_ofJson_array_iff, Json.hasUnsigned_array_iff]
      constructor
      · rintro h ⟨item, hmem, hitem⟩
        exact (ih item hmem).1 (h item hmem) hitem
      · intro h item hmem
        refine (ih item hmem).2 ?_
        intro hitem
        exact h ⟨item, hmem, hitem⟩
  -- an object becomes a value as it is, numbers and all
  | .object _ => exact iff_of_true rfl nofun

/-- The greatest number of a document, in a list: it comes back as the power of two above it. -/
theorem toJson_ofJson_ne_greatestInteger :
    (ofJson (.array [.number (.integer 18446744073709551615 (by decide))])).toJson =
        .array [.number (.double ⟨0x43F0000000000000⟩ (by decide))] ∧
      (ofJson (.array [.number (.integer 18446744073709551615 (by decide))])).toJson ≠
        .array [.number (.integer 18446744073709551615 (by decide))] := by
  have hword : Number.Binary64.ofInt 18446744073709551615 = ⟨0x43F0000000000000⟩ := by
    decide +kernel
  have hback : (ofNumber (.integer 18446744073709551615 (by decide))).toJson =
      .number (.double ⟨0x43F0000000000000⟩ (by decide)) := by
    rw [toJson_ofNumber_of_lt (by decide), hword]
    rfl
  have hlist : (ofJson (.array [.number (.integer 18446744073709551615 (by decide))])).toJson =
      .array [.number (.double ⟨0x43F0000000000000⟩ (by decide))] := by
    simp only [ofJson, ofJsonList, toJson, toJsonList, hback]
  refine ⟨hlist, ?_⟩
  rw [hlist]
  simp

end Value

end SqlFilter

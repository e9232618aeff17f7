/-
**JSON documents.**

A document is null, a truth value, a number, a text, a list or an object whose members keep their
order.  A number is a whole number of at most 64 bits, signed or unsigned, or a finite
double-precision number.

Main definitions:

* `SqlFilter.Json.Number`: a whole number or a finite one;
* `SqlFilter.Json`: a document;
* `SqlFilter.Json.HasDistinctKeys`: in no object does a key stand twice.
-/

import SqlFilter.Entries
import SqlFilter.Number.Floating

set_option relaxedAutoImplicit false
set_option autoImplicit false

namespace SqlFilter

open SqlFilter.Number (Binary64)

/-- The least whole number of a document, which is that of the signed words of 64 bits. -/
def Json.leastInteger : Int := -9223372036854775808

/-- The greatest whole number of a document, which is that of the unsigned words of 64 bits. -/
def Json.greatestInteger : Int := 18446744073709551615

/-- A number of a document. -/
inductive Json.Number where
  | integer (value : Int) (value_mem : leastInteger ≤ value ∧ value ≤ greatestInteger)
  | double (value : Binary64) (isFinite : value.isFinite = true)
  deriving Repr, DecidableEq

/-- A document. -/
inductive Json where
  | null
  | bool (value : Bool)
  | number (value : Json.Number)
  | string (value : String)
  | array (items : List Json)
  | object (members : List (String × Json))
  deriving Repr

namespace Json

instance : Inhabited Json := ⟨.null⟩

/-- The number of a whole number, if it has at most 64 bits. -/
def Number.ofInt? (n : Int) : Option Number :=
  if h : leastInteger ≤ n ∧ n ≤ greatestInteger then some (.integer n h) else none

/-- The number of a double-precision number, if it is finite. -/
def Number.ofBinary64? (x : Binary64) : Option Number :=
  if h : x.isFinite = true then some (.double x h) else none

/-- A signed number of 64 bits is a whole number of a document. -/
theorem toInt_mem (n : Int64) : leastInteger ≤ n.toInt ∧ n.toInt ≤ greatestInteger := by
  have hleast := n.le_toInt
  have hgreatest := n.toInt_lt
  simp only [leastInteger, greatestInteger]
  omega

/-- The document of a signed number of 64 bits. -/
def ofInt64 (n : Int64) : Json := .number (.integer n.toInt (toInt_mem n))

/-- The document of a double-precision number; without a finite one it is null. -/
def ofBinary64 (x : Binary64) : Json :=
  match Number.ofBinary64? x with
  | some n => .number n
  | none => .null

/-- In no object does a key stand twice. -/
def HasDistinctKeys : Json → Prop
  | .array items => allDistinct items
  | .object members => (Entries.keys members).Nodup ∧ membersDistinct members
  | _ => True
where
  /-- The same for every document of a list. -/
  allDistinct : List Json → Prop
    | [] => True
    | item :: items => HasDistinctKeys item ∧ allDistinct items
  /-- The same for every member. -/
  membersDistinct : List (String × Json) → Prop
    | [] => True
    | (_, value) :: members => HasDistinctKeys value ∧ membersDistinct members

end Json

end SqlFilter

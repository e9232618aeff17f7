/-
**Reading JSON documents.**

What a spelled text means as a document.  A whole number that fits 64 bits is kept as it is.  Of any
other number the digits that fit 64 bits are the significand; it is rounded to double precision and
then scaled by the nearest power of ten, which rounds again, so the result can be a neighbour of the
nearest number.  A number that is out of range is refused, as are texts with an unpaired surrogate
and texts nested too deeply.  In an object a repeated key keeps its first place and takes its last
value.

Main definitions:

* `SqlFilter.Json.mostOpen`: how many brackets may be open at once;
* `SqlFilter.Json.Numeral.number?`: the number behind its digits;
* `SqlFilter.Json.Spelling.document?`: the document behind a spelled text;
* `SqlFilter.Json.ofChars?`, `SqlFilter.Json.parse?`: reading a document.

Main results:

* `SqlFilter.Json.hasDistinctKeys_of_parse?`: in a document that was read no key stands twice.
-/

import SqlFilter.Json.Spelling
import SqlFilter.Number.Arithmetic
import SqlFilter.Number.Numeric
import SqlFilter.Number.Power

set_option relaxedAutoImplicit false
set_option autoImplicit false

namespace SqlFilter.Json

open SqlFilter.Number (Binary64 digitsValue twoPow)
open SqlFilter.Number.Numeric (digitValue)

/-- How many brackets may be open at once. -/
def mostOpen : Nat := 127

/-! ### Numbers -/

/-- Whether a number is spelled with neither fraction nor exponent. -/
def Numeral.isWhole (n : Numeral) : Bool := n.fraction.isEmpty && n.exponent.isNone

/-- The whole number that is spelled, if one is; a zero with a minus sign is not one. -/
def Numeral.int? (n : Numeral) : Option Int :=
  let magnitude := digitsValue n.whole
  if !n.isWhole || (n.negative && magnitude == 0) then none
  else some (if n.negative then -(magnitude : Int) else magnitude)

/-- The digits that fit into 64 bits behind a significand, and how many are left over. -/
def takeFitting (significand : Nat) : List Char → Nat × Nat
  | [] => (significand, 0)
  | c :: cs =>
      let next := 10 * significand + digitValue c
      if next < twoPow 64 then takeFitting next cs else (significand, (c :: cs).length)

/-- The significand of a number and the power of ten that belongs to it.  Whole digits that do not
fit still count in the power; digits of the fraction that do not fit mean nothing. -/
def Numeral.scaled (n : Numeral) : Nat × Int :=
  let (whole, left) := takeFitting 0 n.whole
  let (significand, ignored) := takeFitting whole n.fraction
  (significand, left - (n.fraction.length - ignored : Nat) + n.exponent.getD 0)

/-- The largest power of ten that is a double-precision number. -/
def largestPower : Nat := 308

/-- Divides by a power of ten, in steps when it is not a double-precision number. -/
def scaledDown : Nat → Binary64 → Nat → Binary64
  | 0, x, _ => x
  | fuel + 1, x, power =>
      if power ≤ largestPower then x.div (.powerOfTen power)
      else if x.isZero then x
      else scaledDown fuel (x.div (.powerOfTen largestPower)) (power - largestPower)

/-- The magnitude of a significand with a power of ten, if it is in range. -/
def magnitude? (significand : Nat) (power : Int) : Option Binary64 :=
  let x := Binary64.ofInt significand
  if power < 0 then some (scaledDown (power.natAbs / largestPower + 1) x power.natAbs)
  else if power ≤ (largestPower : Int) then
    let scaled := x.mul (.powerOfTen power.toNat)
    if scaled.isFinite then some scaled else none
  else if x.isZero then some x
  else none

/-- The double-precision number behind its digits, if it is in range. -/
def Numeral.double? (n : Numeral) : Option Binary64 :=
  (magnitude? n.scaled.1 n.scaled.2).map fun x => if n.negative then x.negate else x

/-- The number behind its digits, if it is in range. -/
def Numeral.number? (n : Numeral) : Option Number :=
  match n.int?.bind Number.ofInt? with
  | some whole => some whole
  | none => n.double?.bind Number.ofBinary64?

/-! ### Documents -/

namespace Spelling

mutual

/-- The document behind a spelled text, in which at most `room` more brackets may be open. -/
def document? (room : Nat) : Spelling → Option Json
  | .null => some .null
  | .bool b => some (.bool b)
  | .number n => n.number?.map .number
  | .string units => (textOf? units).map .string
  | .array items => if room = 0 then none else (documents? (room - 1) items).map .array
  | .object members =>
      if room = 0 then none
      else (memberDocuments? (room - 1) members).map fun pairs => .object (Entries.collect pairs)

/-- The documents behind the items of a list. -/
def documents? (room : Nat) : List Spelling → Option (List Json)
  | [] => some []
  | item :: items =>
      match document? room item, documents? room items with
      | some document, some documents => some (document :: documents)
      | _, _ => none

/-- The members of an object, repeated keys included. -/
def memberDocuments? (room : Nat) : List (List Nat × Spelling) → Option (List (String × Json))
  | [] => some []
  | (key, value) :: members =>
      match textOf? key, document? room value, memberDocuments? room members with
      | some key, some document, some pairs => some ((key, document) :: pairs)
      | _, _, _ => none

end

/-- Whether the spelled text is a document, in which at most `room` brackets may be open. -/
def isDocument (room : Nat) (s : Spelling) : Bool := (s.document? room).isSome

end Spelling

/-- Reads a document. -/
def ofChars? (cs : List Char) : Option Json :=
  (Spelling.ofChars? cs).bind (Spelling.document? mostOpen)

/-- Reads a document from a string. -/
def parse? (text : String) : Option Json := ofChars? text.toList

/-! ### Distinct keys -/

theorem membersDistinct_put {key : String} {value : Json} {entries : List (String × Json)}
    (hv : value.HasDistinctKeys) (he : HasDistinctKeys.membersDistinct entries) :
    HasDistinctKeys.membersDistinct (Entries.put key value entries) := by
  induction entries with
  | nil => exact ⟨hv, trivial⟩
  | cons e rest ih =>
      rw [Entries.put]
      split
      · exact ⟨hv, he.2⟩
      · exact ⟨he.1, ih he.2⟩

theorem membersDistinct_putAll {entries pairs : List (String × Json)}
    (he : HasDistinctKeys.membersDistinct entries)
    (hp : HasDistinctKeys.membersDistinct pairs) :
    HasDistinctKeys.membersDistinct (Entries.putAll entries pairs) := by
  induction pairs generalizing entries with
  | nil => exact he
  | cons p ps ih => exact ih (membersDistinct_put hp.1 he) hp.2

namespace Spelling

mutual

/-- In a document that was read no key stands twice in one object. -/
theorem hasDistinctKeys_of_document? {room : Nat} {s : Spelling} {j : Json}
    (h : s.document? room = some j) : j.HasDistinctKeys := by
  cases s with
  | null => cases h; trivial
  | bool b => cases h; trivial
  | number n =>
      simp only [document?, Option.map_eq_some_iff] at h
      obtain ⟨n, -, rfl⟩ := h
      trivial
  | string units =>
      simp only [document?, Option.map_eq_some_iff] at h
      obtain ⟨t, -, rfl⟩ := h
      trivial
  | array items =>
      simp only [document?] at h
      split at h
      · cases h
      · simp only [Option.map_eq_some_iff] at h
        obtain ⟨js, hjs, rfl⟩ := h
        exact allDistinct_of_documents? hjs
  | object members =>
      simp only [document?] at h
      split at h
      · cases h
      · simp only [Option.map_eq_some_iff] at h
        obtain ⟨pairs, hp, rfl⟩ := h
        refine ⟨Entries.nodup_keys_collect pairs, ?_⟩
        exact membersDistinct_putAll (by trivial) (membersDistinct_of_members? hp)

theorem allDistinct_of_documents? {room : Nat} {items : List Spelling} {js : List Json}
    (h : documents? room items = some js) : HasDistinctKeys.allDistinct js := by
  cases items with
  | nil => cases h; trivial
  | cons item items =>
      simp only [documents?] at h
      split at h
      · cases h
        exact ⟨hasDistinctKeys_of_document? ‹_›, allDistinct_of_documents? ‹_›⟩
      · cases h

theorem membersDistinct_of_members? {room : Nat} {members : List (List Nat × Spelling)}
    {pairs : List (String × Json)} (h : memberDocuments? room members = some pairs) :
    HasDistinctKeys.membersDistinct pairs := by
  cases members with
  | nil => cases h; trivial
  | cons m members =>
      simp only [memberDocuments?] at h
      split at h
      · cases h
        exact ⟨hasDistinctKeys_of_document? ‹_›, membersDistinct_of_members? ‹_›⟩
      · cases h

end

end Spelling

/-- A text is read as a document in which no key stands twice. -/
theorem hasDistinctKeys_of_parse? {text : String} {document : Json}
    (h : parse? text = some document) : document.HasDistinctKeys := by
  rw [parse?, ofChars?, Option.bind_eq_some_iff] at h
  obtain ⟨spelling, -, hdocument⟩ := h
  exact Spelling.hasDistinctKeys_of_document? hdocument

end SqlFilter.Json

/-
**Texts of columns that are read back.**

The server prints a value in the way of its type, and an array as its elements between braces.  An
element is put in quotes when it has no characters, when it spells null in any letter case, and when
one of its characters means something in a literal or is blank.

What is read from a printed text is the value itself, and from a printed array its values in order,
with nulls where they stood.  The array is split first, which gives back the texts of its elements
whatever they are; so all that is left is one text of one type, and those are read back type by
type.

Main definitions:

* `SqlFilter.Compound.serverElement`, `SqlFilter.Compound.serverArray`: arrays as they are printed;
* `SqlFilter.ScalarType`, `SqlFilter.ScalarType.Carrier`: types and the values that they hold;
* `SqlFilter.ScalarType.output`: a value as it is printed.

Main results:

* `SqlFilter.Compound.decodeArray_serverArray`: a printed array is split into its elements;
* `SqlFilter.ScalarType.decode_output`: a printed value is read back;
* `SqlFilter.ScalarType.decodeText_output`: **reading undoes printing**, for values and for arrays.
-/

import SqlFilter.Proofs.Calendar.Spelling
import SqlFilter.Proofs.Compound.ArrayLiteral
import SqlFilter.Value.Decode
import SqlFilter.Value.Document

set_option relaxedAutoImplicit false
set_option autoImplicit false

namespace SqlFilter

open SqlFilter.Calendar (Date Moment Time)
open SqlFilter.Number (twoPow wholeNumber?_toString)
open SqlFilter.Text (asciiLower hexDigit hexValue? hexValue?_hexDigit)

/-! ### Printed arrays -/

namespace Compound

/-- The characters that the server takes for blank: the controls from tab to carriage return, and
the space. -/
def isServerBlank (c : Char) : Bool := (9 ≤ c.toNat && c.toNat ≤ 13) || c == ' '

/-- Whether the server puts an element in quotes. -/
def needsQuotes (cs : List Char) : Bool :=
  cs = [] || asciiLower cs = "null".toList || cs.any fun c => isSpecial c || isServerBlank c

/-- What the server does not put in quotes may stand bare. -/
theorem isPlain_of_needsQuotes {cs : List Char} (h : needsQuotes cs = false) :
    isPlain cs = true := by
  simp only [needsQuotes, Bool.or_eq_false_iff, decide_eq_false_iff_not, List.any_eq_false] at h
  obtain ⟨⟨hne, hnull⟩, hchars⟩ := h
  have hupper : cs ≠ Kind.array.nullText := by
    rintro rfl
    exact hnull (by decide)
  have hspecial : (cs.all fun c => !isSpecial c) = true := by
    refine List.all_eq_true.2 fun c hc => ?_
    have hordinary : isSpecial c = false ∧ isServerBlank c = false := by simpa using hchars c hc
    rw [hordinary.1]
    rfl
  simp [isPlain, hne, hupper, hspecial]

/-- An element as the server prints it. -/
def serverElement : Option String → ArrayElement
  | none => .null
  | some text =>
      if h : needsQuotes text.toList = false then .bare text (isPlain_of_needsQuotes h)
      else .quoted text

/-- An array as the server prints it. -/
def serverArray (elements : List (Option String)) : String :=
  arrayLiteral (elements.map serverElement)

@[simp] theorem content_serverElement (element : Option String) :
    (serverElement element).content = element := by
  cases element with
  | none => rfl
  | some text =>
      rw [serverElement]
      split
      · rfl
      · rfl

/-- A printed array is split into its elements. -/
theorem decodeArray_serverArray (elements : List (Option String)) :
    decodeArray (serverArray elements) = .ok elements := by
  rw [serverArray, decodeArray_eq_content, List.map_map]
  simp [Function.comp_def]

example : decodeArray r#"{"Null",NULL,"","a b",x}"# =
    .ok [some "Null", none, some "", some "a b", some "x"] := by cbv

end Compound

/-! ### Types and their values -/

/-- The types whose printed texts hold their values whole. -/
inductive ScalarType where
  | bool
  | int2
  | int4
  | int8
  | text
  | uuid
  | bytea
  | date
  | time
  | timestamp
  deriving Repr, DecidableEq

namespace ScalarType

/-- The name of a type on the server. -/
def name : ScalarType → String
  | .bool => "bool"
  | .int2 => "int2"
  | .int4 => "int4"
  | .int8 => "int8"
  | .text => "text"
  | .uuid => "uuid"
  | .bytea => "bytea"
  | .date => "date"
  | .time => "time"
  | .timestamp => "timestamp"

/-- What a column of a type holds.  The years are those that are printed without a sign or an era,
and the seconds those that the server counts, in microseconds. -/
def Carrier : ScalarType → Type
  | .bool => Bool
  | .int2 => Int16
  | .int4 => Int32
  | .int8 => Int64
  | .text => String
  | .uuid => Uuid
  | .bytea => List UInt8
  | .date => {d : Date // d.IsCommon}
  | .time => {t : Time // t.IsMicro}
  | .timestamp => {m : Moment // m.date.IsCommon ∧ m.time.IsMicro}

/-- What a column holds, as a value. -/
def value : (type : ScalarType) → type.Carrier → Value
  | .bool, b => .bool b
  | .int2, n => .smallInt n
  | .int4, n => .int n
  | .int8, n => .bigInt n
  | .text, s => .text s
  | .uuid, u => .uuid u
  | .bytea, bs => .bytes bs
  | .date, d => .date d.val
  | .time, t => .time t.val
  | .timestamp, m => .timestamp m.val

/-- What a column holds, as the server prints it. -/
def output : (type : ScalarType) → type.Carrier → String
  | .bool, true => "t"
  | .bool, false => "f"
  | .int2, n => toString (Int16.toInt n)
  | .int4, n => toString (Int32.toInt n)
  | .int8, n => toString (Int64.toInt n)
  | .text, s => s
  | .uuid, u => Uuid.render u
  | .bytea, bs => "\\x" ++ String.ofList (List.flatMap Value.hexByte bs)
  | .date, d => d.val.render
  | .time, t => t.val.serverText
  | .timestamp, m => m.val.serverText

end ScalarType

/-! ### Numbers and bytes -/

namespace TextType

/-- What was read is the value. -/
theorem expect_map {α : Type} {read : Option α} {a : α} {f : α → Value} {v : Value}
    (hread : read = some a) (hvalue : f a = v) (typeName text : String) :
    expect typeName text (read.map f) = .ok v := by
  rw [hread, ← hvalue]
  rfl

/-- A written number that has its place in so many bits is read back. -/
theorem signed?_toString {bits : Nat} {n : Int} (hlow : -twoPow (bits - 1) ≤ n)
    (hhigh : n < twoPow (bits - 1)) : signed? bits (toString n).toList = some n := by
  rw [signed?, wholeNumber?_toString]
  exact if_pos ⟨hlow, hhigh⟩

/-- The two digits of a byte are read back. -/
theorem byte?_hexDigit (b : UInt8) :
    byte? (hexDigit (b.toNat / 16)) (hexDigit (b.toNat % 16)) = some b := by
  have hlt : b.toNat < 256 := b.toNat_lt
  have hplus : ∀ n : Fin 16, hexDigit n.val ≠ '+' := by decide
  have hhalves : 16 * (b.toNat / 16) + b.toNat % 16 = b.toNat := Nat.div_add_mod _ _
  rw [byte?, if_neg (hplus ⟨b.toNat / 16, by omega⟩), hexValue?_hexDigit (by omega),
    hexValue?_hexDigit (by omega)]
  simp [hhalves]

/-- The digits of bytes are read back. -/
theorem bytes?_flatMap_hexByte (bs : List UInt8) : bytes? (bs.flatMap Value.hexByte) = some bs := by
  induction bs with
  | nil => rfl
  | cons b bs ih =>
      rw [List.flatMap_cons, Value.hexByte]
      simp [bytes?, byte?_hexDigit, ih]

/-- Printed bytes are read back. -/
theorem byteString?_output (bs : List UInt8) :
    byteString? (ScalarType.output .bytea bs).toList = some bs := by
  have htext : (ScalarType.output .bytea bs).toList =
      '\\' :: 'x' :: bs.flatMap Value.hexByte := by
    simp [ScalarType.output]
  rw [htext]
  exact bytes?_flatMap_hexByte bs

end TextType

/-! ### Reading back -/

namespace ScalarType

/-- The type that is read under the name of a type. -/
def textType : ScalarType → TextType
  | .bool => .bool
  | .int2 => .int2
  | .int4 => .int4
  | .int8 => .int8
  | .text => .text
  | .uuid => .uuid
  | .bytea => .bytea
  | .date => .date
  | .time => .time
  | .timestamp => .timestamp

/-- The name of a type is not that of an array. -/
theorem decodeText_name (type : ScalarType) (text : String) :
    Value.decodeText type.name (some text) = type.textType.decode text := by
  cases type <;> rfl

/-- Behind an underscore, the name of a type is that of its arrays. -/
theorem decodeText_array (type : ScalarType) (literal : String) :
    Value.decodeText ("_" ++ type.name) (some literal) =
      (Compound.decodeArrayWith (fun text => Value.decodeText type.name (some text)) literal).map
        fun values => .array (values.map fun value => value.getD .null) := by
  cases type <;> rfl

/-- A printed value is read back. -/
theorem decode_output (type : ScalarType) (x : type.Carrier) :
    type.textType.decode (type.output x) = .ok (type.value x) := by
  cases type with
  | bool =>
      cases x with
      | false => rfl
      | true => rfl
  | int2 =>
      have hread : TextType.signed? 16 (toString (Int16.toInt x)).toList = some (Int16.toInt x) :=
        TextType.signed?_toString (Int16.le_toInt x) (Int16.toInt_lt x)
      have hback : Int16.ofInt (Int16.toInt x) = x := Int16.ofInt_toInt x
      exact TextType.expect_map hread (congrArg Value.smallInt hback) _ _
  | int4 =>
      have hread : TextType.signed? 32 (toString (Int32.toInt x)).toList = some (Int32.toInt x) :=
        TextType.signed?_toString (Int32.le_toInt x) (Int32.toInt_lt x)
      have hback : Int32.ofInt (Int32.toInt x) = x := Int32.ofInt_toInt x
      exact TextType.expect_map hread (congrArg Value.int hback) _ _
  | int8 =>
      have hread : TextType.signed? 64 (toString (Int64.toInt x)).toList = some (Int64.toInt x) :=
        TextType.signed?_toString (Int64.le_toInt x) (Int64.toInt_lt x)
      have hback : Int64.ofInt (Int64.toInt x) = x := Int64.ofInt_toInt x
      exact TextType.expect_map hread (congrArg Value.bigInt hback) _ _
  | text => rfl
  | uuid => exact TextType.expect_map (Uuid.ofChars?_render x) rfl _ _
  | bytea => exact TextType.expect_map (TextType.byteString?_output x) rfl _ _
  | date =>
      obtain ⟨d, -⟩ := x
      simp only [textType, output, TextType.decode]
      exact TextType.expect_map (Date.ofChars?_render d) rfl _ _
  | time =>
      obtain ⟨t, hmicro⟩ := x
      simp only [textType, output, TextType.decode]
      exact TextType.expect_map (Time.ofChars?_serverText hmicro) rfl _ _
  | timestamp =>
      obtain ⟨m, -, hmicro⟩ := x
      simp only [textType, output, TextType.decode]
      exact TextType.expect_map (Moment.ofChars?_serverText hmicro) rfl _ _

/-- **Reading undoes printing**: what is read from a printed value under the name of its type is the
value, and from a printed array under the name of its array type the values of its elements in
order, with null for each one that is missing. -/
theorem decodeText_output (type : ScalarType) :
    (∀ items : List (Option type.Carrier),
      Value.decodeText ("_" ++ type.name)
          (some (Compound.serverArray (items.map fun item => item.map type.output))) =
        .ok (.array (items.map fun item => (item.map type.value).getD .null))) ∧
    ∀ x, Value.decodeText type.name (some (type.output x)) = .ok (type.value x) := by
  have hvalue : ∀ x, Value.decodeText type.name (some (type.output x)) = .ok (type.value x) := by
    intro x
    rw [decodeText_name, decode_output]
  refine ⟨fun items => ?_, hvalue⟩
  have hread : Compound.decodeArrayWith (fun text => Value.decodeText type.name (some text))
      (Compound.serverArray (items.map fun item => item.map type.output)) =
        .ok (items.map fun item => item.map type.value) := by
    rw [Compound.decodeArrayWith, Compound.decodeArray_serverArray]
    exact Compound.readPresent_map hvalue items
  rw [decodeText_array, hread]
  simp [Except.map]

end ScalarType

end SqlFilter

/-
**Columns of whole numbers.**

The server has four types of whole numbers: three with a sign, of different widths, and the
identifiers of its objects, which have none.  A number is printed with its digits, whatever its type
is, and so the type alone decides which of the printed numbers can stand in a column.

What is read under the names of the first three types is exactly what they hold, and everything else
is refused.  The identifiers of objects are read as numbers of the same width with a sign: those of
the upper half are refused, and negative numbers accepted, which identify nothing.

Main definitions:

* `SqlFilter.IntegerType`, `SqlFilter.IntegerType.names`: the types and their names;
* `SqlFilter.IntegerType.Holds`, `SqlFilter.IntegerType.Reads`: the numbers of a type, and those
  that are read under its names;
* `SqlFilter.IntegerType.Misreads`: where the two differ;
* `SqlFilter.Value.integer?`, `SqlFilter.Value.StandsFor`: the number that a value denotes.

Main results:

* `SqlFilter.IntegerType.reads_iff_holds`: the two differ for object identifiers only;
* `SqlFilter.IntegerType.decode_toString`: what is read from the digits of a number;
* `SqlFilter.IntegerType.decodeText_integer`: **columns of whole numbers are read over their whole
  range**, and arrays of them, too;
* `SqlFilter.IntegerType.decodeText_oid_upperHalf`: object identifiers are not.
-/

import SqlFilter.Proofs.Value.ColumnText

set_option relaxedAutoImplicit false
set_option autoImplicit false

namespace SqlFilter

open SqlFilter.Number (twoPow wholeNumber?_toString)
open SqlFilter.Text (asciiLower)

/-! ### Numbers as values -/

/-- The whole number that a value denotes, if it is one. -/
def Value.integer? : Value → Option Int
  | .smallInt n => some n.toInt
  | .int n => some n.toInt
  | .bigInt n => some n.toInt
  | _ => none

/-- A value stands for a number that it denotes, and null for a missing one. -/
def Value.StandsFor : Option Int → Value → Prop
  | none, v => v = .null
  | some n, v => v.integer? = some n

/-! ### The types -/

/-- The types of whole numbers on the server; the last one is that of object identifiers. -/
inductive IntegerType where
  | smallint
  | integer
  | bigint
  | oid
  deriving Repr, DecidableEq

namespace IntegerType

/-- The names of a type, in small letters. -/
def names : IntegerType → List String
  | .smallint => ["int2", "smallint"]
  | .integer => ["int4", "integer", "int"]
  | .bigint => ["int8", "bigint"]
  | .oid => ["oid"]

/-- A text is a name of the type, in any letter case. -/
def IsNamed (type : IntegerType) (name : String) : Prop :=
  String.ofList (asciiLower name.toList) ∈ type.names

instance (type : IntegerType) (name : String) : Decidable (type.IsNamed name) :=
  inferInstanceAs (Decidable (_ ∈ _))

/-- The least number of a type. -/
def least : IntegerType → Int
  | .smallint => -32768
  | .integer => -2147483648
  | .bigint => -9223372036854775808
  | .oid => 0

/-- The greatest number of a type. -/
def greatest : IntegerType → Int
  | .smallint => 32767
  | .integer => 2147483647
  | .bigint => 9223372036854775807
  | .oid => 4294967295

/-- A number is one of the type. -/
def Holds (type : IntegerType) (n : Int) : Prop := type.least ≤ n ∧ n ≤ type.greatest

instance (type : IntegerType) (n : Int) : Decidable (type.Holds n) :=
  inferInstanceAs (Decidable (_ ∧ _))

/-! ### What is read -/

/-- The number of bits of a type. -/
def bits : IntegerType → Nat
  | .smallint => 16
  | .integer => 32
  | .bigint => 64
  | .oid => 32

/-- The type that is read under the names of a type. -/
def textType : IntegerType → TextType
  | .smallint => .int2
  | .integer => .int4
  | .bigint => .int8
  | .oid => .int4

/-- The name of that type in errors. -/
def label : IntegerType → String
  | .smallint => "SMALLINT"
  | .integer => "INTEGER"
  | .bigint => "BIGINT"
  | .oid => "INTEGER"

/-- A number as a value of that type. -/
def value : IntegerType → Int → Value
  | .smallint, n => .smallInt (Int16.ofInt n)
  | .integer, n => .int (Int32.ofInt n)
  | .bigint, n => .bigInt (Int64.ofInt n)
  | .oid, n => .int (Int32.ofInt n)

/-- A number is read under the names of the type: it has its place in the bits, with a sign. -/
def Reads (type : IntegerType) (n : Int) : Prop :=
  -twoPow (type.bits - 1) ≤ n ∧ n < twoPow (type.bits - 1)

instance (type : IntegerType) (n : Int) : Decidable (type.Reads n) :=
  inferInstanceAs (Decidable (_ ∧ _))

/-- A number is taken for an object identifier that is none, or an object identifier for none. -/
def Misreads (type : IntegerType) (n : Int) : Prop :=
  type = .oid ∧ (-2147483648 ≤ n ∧ n < 0 ∨ 2147483648 ≤ n ∧ n ≤ 4294967295)

instance (type : IntegerType) (n : Int) : Decidable (type.Misreads n) :=
  inferInstanceAs (Decidable (_ ∧ _))

variable {type : IntegerType} {n : Int}

theorem reads_smallint : smallint.Reads n ↔ -32768 ≤ n ∧ n < 32768 := Iff.rfl

theorem reads_integer : integer.Reads n ↔ -2147483648 ≤ n ∧ n < 2147483648 := Iff.rfl

theorem reads_bigint :
    bigint.Reads n ↔ -9223372036854775808 ≤ n ∧ n < 9223372036854775808 := Iff.rfl

theorem reads_oid : oid.Reads n ↔ -2147483648 ≤ n ∧ n < 2147483648 := Iff.rfl

/-- What is read is what the type holds, but for object identifiers. -/
theorem reads_iff_holds (h : ¬type.Misreads n) : type.Reads n ↔ type.Holds n := by
  unfold Holds
  cases type with
  | smallint =>
      rw [reads_smallint, least, greatest]
      omega
  | integer =>
      rw [reads_integer, least, greatest]
      omega
  | bigint =>
      rw [reads_bigint, least, greatest]
      omega
  | oid =>
      have hplaces : ¬(-2147483648 ≤ n ∧ n < 0 ∨ 2147483648 ≤ n ∧ n ≤ 4294967295) := by
        intro hplace
        exact h ⟨rfl, hplace⟩
      rw [reads_oid, least, greatest]
      omega

/-- Of the numbers that are mistaken the negative ones are read. -/
theorem reads_iff_neg (h : type.Misreads n) : type.Reads n ↔ n < 0 := by
  obtain ⟨rfl, hplace⟩ := h
  rw [reads_oid]
  omega

/-- What is read is not changed. -/
theorem integer?_value (h : type.Reads n) : (type.value n).integer? = some n := by
  cases type with
  | smallint => exact congrArg some (Int16.toInt_ofInt_of_le h.1 h.2)
  | integer => exact congrArg some (Int32.toInt_ofInt_of_le h.1 h.2)
  | bigint => exact congrArg some (Int64.toInt_ofInt_of_le h.1 h.2)
  | oid => exact congrArg some (Int32.toInt_ofInt_of_le h.1 h.2)

/-! ### Reading one -/

theorem decode_eq (type : IntegerType) (text : String) :
    type.textType.decode text =
      TextType.expect type.label text
        ((TextType.signed? type.bits text.toList).map type.value) := by
  cases type with
  | smallint => rfl
  | integer => rfl
  | bigint => rfl
  | oid => rfl

/-- **What is read from the digits of a number**: the number, if it has its place, and otherwise
nothing. -/
theorem decode_toString (type : IntegerType) (n : Int) :
    type.textType.decode (toString n) =
      if type.Reads n then .ok (type.value n)
      else .error (TextType.invalid type.label (toString n)) := by
  have hsigned : TextType.signed? type.bits (toString n).toList =
      if type.Reads n then some n else none := by
    rw [TextType.signed?, wholeNumber?_toString]
    rfl
  rw [decode_eq, hsigned]
  by_cases h : type.Reads n
  · rw [if_pos h, if_pos h]
    rfl
  · rw [if_neg h, if_neg h]
    rfl

/-- A name in any letter case is that of the type. -/
theorem decodeText_name {name : String} (hname : type.IsNamed name) (text : String) :
    Value.decodeText name (some text) = type.textType.decode text := by
  have hread : ∀ known ∈ type.names, Value.decodeNamed known.toList text =
      type.textType.decode text := by
    intro known hknown
    cases type with
    | smallint =>
        simp only [names, List.mem_cons, List.not_mem_nil, or_false] at hknown
        rcases hknown with rfl | rfl
        · rfl
        · rfl
    | integer =>
        simp only [names, List.mem_cons, List.not_mem_nil, or_false] at hknown
        rcases hknown with rfl | rfl | rfl
        · rfl
        · rfl
        · rfl
    | bigint =>
        simp only [names, List.mem_cons, List.not_mem_nil, or_false] at hknown
        rcases hknown with rfl | rfl
        · rfl
        · rfl
    | oid =>
        rw [List.mem_singleton.1 hknown]
        rfl
  have hlower := hread _ hname
  rwa [String.toList_ofList] at hlower

/-- Behind an underscore, a name in any letter case is that of the arrays of the type. -/
theorem decodeText_array {name : String} (hname : type.IsNamed name) (literal : String) :
    Value.decodeText ("_" ++ name) (some literal) =
      (Compound.decodeArrayWith type.textType.decode literal).map
        fun values => .array (values.map fun value => value.getD .null) := by
  have hlower : asciiLower ("_" ++ name).toList = '_' :: asciiLower name.toList := by
    rw [String.toList_append]
    rfl
  have hread : (fun text => Value.decodeNamed (asciiLower name.toList) text) =
      type.textType.decode := funext (decodeText_name hname)
  show Value.decodeNamed (asciiLower ("_" ++ name).toList) literal = _
  rw [hlower, Value.decodeNamed, hread]

/-! ### Columns and arrays -/

/-- An array of numbers, some of which may be missing, as the server prints it. -/
def arrayText (items : List (Option Int)) : String :=
  Compound.serverArray (items.map fun item => item.map toString)

/-- The values of numbers that are read stand for them. -/
theorem standsFor_values {items : List (Option Int)} (h : ∀ n, some n ∈ items → type.Reads n) :
    List.Forall₂ Value.StandsFor items
      ((items.map fun item => item.map type.value).map fun value => value.getD .null) := by
  induction items with
  | nil => exact .nil
  | cons item items ih =>
      refine .cons ?_ (ih fun n hn => h n (List.mem_cons_of_mem item hn))
      cases item with
      | none => rfl
      | some n => exact integer?_value (h n List.mem_cons_self)

/-- An array is read when all of its numbers are. -/
theorem decodeText_arrayText {name : String} (hname : type.IsNamed name)
    {items : List (Option Int)} (h : ∀ n, some n ∈ items → type.Reads n) :
    ∃ values, Value.decodeText ("_" ++ name) (some (arrayText items)) = .ok (.array values) ∧
      List.Forall₂ Value.StandsFor items values := by
  have hread : Compound.readPresent type.textType.decode
      (items.map fun item => item.map toString) =
        .ok (items.map fun item => item.map type.value) := by
    refine Compound.readPresent_map_of_mem fun n hn => ?_
    rw [decode_toString, if_pos (h n hn)]
  refine ⟨_, ?_, standsFor_values h⟩
  rw [decodeText_array hname, Compound.decodeArrayWith, arrayText,
    Compound.decodeArray_serverArray]
  dsimp only
  rw [hread]
  rfl

/-- An array is refused for the first of its numbers that is not read. -/
theorem decodeText_arrayText_of_first {name : String} (hname : type.IsNamed name)
    {front behind : List (Option Int)} (hfront : ∀ k, some k ∈ front → type.Reads k)
    (hn : ¬type.Reads n) :
    Value.decodeText ("_" ++ name) (some (arrayText (front ++ some n :: behind))) =
      .error (TextType.invalid type.label (toString n)) := by
  have hread : ∀ k, some k ∈ front →
      type.textType.decode (toString k) = .ok (type.value k) := by
    intro k hk
    rw [decode_toString, if_pos (hfront k hk)]
  have herror : type.textType.decode (toString n) =
      .error (TextType.invalid type.label (toString n)) := by
    rw [decode_toString, if_neg hn]
  rw [decodeText_array hname, Compound.decodeArrayWith, arrayText,
    Compound.decodeArray_serverArray]
  dsimp only
  rw [Compound.readPresent_map_of_error hread herror behind]
  rfl

/-- **Columns of whole numbers are read over their whole range.**  Under every name of a type, in
any letter case, the digits of a number of the type are read as a value that denotes it, and those
of any other number are an error that names them; and an array of numbers and nulls is read as
values for them, in order, when all of them are of the type, and is otherwise refused for the first
one that is not.  The exception are object identifiers: those of the upper half are refused, and
negative numbers are read in their place, down to the least of 32 bits. -/
theorem decodeText_integer {name : String} (hname : type.IsNamed name) :
    (∀ n, ¬type.Misreads n →
      (type.Holds n → ∃ v, Value.decodeText name (some (toString n)) = .ok v ∧
        v.integer? = some n) ∧
      (¬type.Holds n → Value.decodeText name (some (toString n)) =
        .error (TextType.invalid type.label (toString n)))) ∧
    (∀ items, (∀ n, some n ∈ items → ¬type.Misreads n) →
      ((∀ n, some n ∈ items → type.Holds n) →
        ∃ values, Value.decodeText ("_" ++ name) (some (arrayText items)) = .ok (.array values) ∧
          List.Forall₂ Value.StandsFor items values) ∧
      (¬(∀ n, some n ∈ items → type.Holds n) →
        ∃ front n behind, items = front ++ some n :: behind ∧
          (∀ k, some k ∈ front → type.Holds k) ∧ ¬type.Holds n ∧
            Value.decodeText ("_" ++ name) (some (arrayText items)) =
              .error (TextType.invalid type.label (toString n)))) ∧
    ∀ n, type.Misreads n →
      (n < 0 → ∃ v, Value.decodeText name (some (toString n)) = .ok v ∧ v.integer? = some n) ∧
      (0 ≤ n → Value.decodeText name (some (toString n)) =
        .error (TextType.invalid type.label (toString n))) := by
  have hread : ∀ n, type.Reads n →
      ∃ v, Value.decodeText name (some (toString n)) = .ok v ∧ v.integer? = some n := by
    intro n h
    refine ⟨type.value n, ?_, integer?_value h⟩
    rw [decodeText_name hname, decode_toString, if_pos h]
  have hrefused : ∀ n, ¬type.Reads n → Value.decodeText name (some (toString n)) =
      .error (TextType.invalid type.label (toString n)) := by
    intro n h
    rw [decodeText_name hname, decode_toString, if_neg h]
  refine ⟨?_, ?_, ?_⟩
  · intro n hn
    rw [← reads_iff_holds hn]
    exact ⟨hread n, hrefused n⟩
  · intro items hitems
    constructor
    · intro hall
      exact decodeText_arrayText hname fun n hn => (reads_iff_holds (hitems n hn)).2 (hall n hn)
    · intro hnot
      rcases Compound.forall_or_exists_first type.Holds items with
        hall | ⟨front, n, behind, rfl, hfront, hn⟩
      · exact absurd hall hnot
      · have hmem : some n ∈ front ++ some n :: behind :=
          List.mem_append_right front List.mem_cons_self
        refine ⟨front, n, behind, rfl, hfront, hn, decodeText_arrayText_of_first hname ?_ ?_⟩
        · intro k hk
          exact (reads_iff_holds (hitems k (List.mem_append_left _ hk))).2 (hfront k hk)
        · rwa [reads_iff_holds (hitems n hmem)]
  · intro n hn
    rw [← reads_iff_neg hn]
    refine ⟨hread n, ?_⟩
    intro hnonneg
    refine hrefused n ?_
    rw [reads_iff_neg hn]
    omega

/-- The least number of a type under a name in mixed case, an array with a number beyond the
greatest one, and the greatest object identifier of the lower half. -/
theorem decodeText_integer_ends :
    (smallint.IsNamed "SmallInt" ∧ smallint.Holds (-32768) ∧
      ∃ v, Value.decodeText "SmallInt" (some "-32768") = .ok v ∧ v.integer? = some (-32768)) ∧
    (¬smallint.Holds 32768 ∧ ∃ detail,
      Value.decodeText "_SmallInt" (some "{7,NULL,32768}") = .error (.decode detail)) ∧
    oid.IsNamed "OID" ∧ ¬oid.Misreads 2147483647 ∧
      ∃ v, Value.decodeText "OID" (some "2147483647") = .ok v ∧
        v.integer? = some 2147483647 := by
  have hsmall : smallint.IsNamed "SmallInt" := by decide
  have hoid : oid.IsNamed "OID" := by decide
  have hwell : ∀ n, ¬smallint.Misreads n := by
    rintro n ⟨htype, -⟩
    cases htype
  have hlower : ¬oid.Misreads 2147483647 := by decide
  have hbeyond : ¬smallint.Holds 32768 := by decide
  have hleast := ((decodeText_integer hsmall).1 (-32768) (hwell _)).1 (by decide)
  have harray := ((decodeText_integer hsmall).2.1 [some 7, none, some 32768]
    fun n _ => hwell n).2 fun hall => hbeyond (hall 32768 (by simp))
  have hidentifier := ((decodeText_integer hoid).1 2147483647 hlower).1 (by decide)
  have hleast_text : toString (-32768 : Int) = "-32768" := rfl
  have hidentifier_text : toString (2147483647 : Int) = "2147483647" := rfl
  have harray_text : arrayText [some 7, none, some 32768] = "{7,NULL,32768}" := rfl
  rw [hleast_text] at hleast
  rw [hidentifier_text] at hidentifier
  rw [harray_text] at harray
  obtain ⟨-, n, -, -, -, -, herror⟩ := harray
  exact ⟨⟨hsmall, by decide, hleast⟩, ⟨hbeyond, _, herror⟩, hoid, hlower, hidentifier⟩

/-- **The upper half of the object identifiers is refused**, and negative numbers are read, which
are none. -/
theorem decodeText_oid_upperHalf :
    (oid.Holds 4294967295 ∧ Value.decodeText "oid" (some "4294967295") =
      .error (.decode "Invalid INTEGER value '4294967295'")) ∧
    ¬oid.Holds (-1) ∧ Value.decodeText "oid" (some "-1") = .ok (.int (-1)) := by
  exact ⟨⟨by decide, rfl⟩, by decide, rfl⟩

end IntegerType

end SqlFilter

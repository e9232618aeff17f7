/-
**The arguments that lists are bound as.**

The type of a list is picked from its first element that is not null, and then all elements are
compared with that pick.  So the first element seems to matter; but a pick that does not go with all
of them is given up for a document, whichever it was, and a pick that does is the only one that can.
What is left is a rule about which variants occur among the elements: the order of the elements, how
often each occurs, and where nulls stand between them do not count.

The content does depend on all of them.  A native array has the elements of its list in their order,
with the nulls in their places, so that the list can be read off it again; and what is no list is
sent whole.

Main definitions:

* `SqlFilter.ElementType.Holds`: the values that an element type stands for;
* `SqlFilter.Value.BindsAs`: the type of a list, as the variants of its elements decide it;
* `SqlFilter.Value.Occurs`: a variant occurs in a list;
* `SqlFilter.Argument.value`: the value that an argument stands for.

Main results:

* `SqlFilter.Value.bindsAs_type_ofList`, `SqlFilter.Value.BindsAs.unique`: every list has exactly
  one such type, the one that it is bound as;
* `SqlFilter.Value.type_ofList_congr`: **only the variants that occur count** for the type;
* `SqlFilter.Value.value_argument`: **the argument of a value stands for that value**, unless it is
  a list that is sent as a document;
* `SqlFilter.Value.bindAll?_lists`: parameters are bound one by one, and lists by this rule.
-/

import SqlFilter.Value.Binding

set_option relaxedAutoImplicit false
set_option autoImplicit false

namespace SqlFilter

/-! ### Elements -/

namespace ElementType

/-- The values that an element type stands for: those of one variant. -/
inductive Holds : ElementType → Value → Prop
  | bool (b : Bool) : Holds .bool (.bool b)
  | int2 (n : Int16) : Holds .int2 (.smallInt n)
  | int4 (n : Int32) : Holds .int4 (.int n)
  | int8 (n : Int64) : Holds .int8 (.bigInt n)
  | float8 (x : Number.Binary64) : Holds .float8 (.double x)
  | text (s : String) : Holds .text (.text s)
  | uuid (u : Uuid) : Holds .uuid (.uuid u)
  | date (d : Calendar.Date) : Holds .date (.date d)
  | timestamptz (m : Calendar.Moment) : Holds .timestamptz (.instant m)

theorem holds_iff {element : ElementType} {v : Value} :
    element.Holds v ↔ v.elementType? = some element := by
  constructor
  · intro h
    cases h <;> rfl
  · intro h
    cases v <;> cases h <;> constructor

/-- The element type for the variant with a type name. -/
def ofTypeName? : String → Option ElementType
  | "BOOLEAN" => some .bool
  | "SMALLINT" => some .int2
  | "INTEGER" => some .int4
  | "BIGINT" => some .int8
  | "DOUBLE PRECISION" => some .float8
  | "TEXT" => some .text
  | "UUID" => some .uuid
  | "DATE" => some .date
  | "TIMESTAMPTZ" => some .timestamptz
  | _ => none

theorem ofTypeName?_typeName (v : Value) : ofTypeName? v.typeName = v.elementType? := by
  cases v <;> rfl

/-- Whether an element type stands for a value can be told from its variant. -/
theorem Holds.congr {element : ElementType} {v w : Value} (h : element.Holds v)
    (hname : v.typeName = w.typeName) : element.Holds w := by
  rw [holds_iff, ← ofTypeName?_typeName] at h ⊢
  rwa [← hname]

/-- The value of an element of a native array. -/
def value : (element : ElementType) → Option element.Item → Value
  | _, none => .null
  | .bool, some b => .bool b
  | .int2, some n => .smallInt n
  | .int4, some n => .int n
  | .int8, some n => .bigInt n
  | .float8, some x => .double x
  | .text, some s => .text s
  | .uuid, some u => .uuid u
  | .date, some d => .date d
  | .timestamptz, some m => .instant m

end ElementType

/-- The value that an argument stands for. -/
def Argument.value : Argument → Value
  | ⟨.text, none⟩ => .null
  | ⟨.text, some s⟩ => .text s
  | ⟨.bool, b⟩ => .bool b
  | ⟨.int2, n⟩ => .smallInt n
  | ⟨.int4, n⟩ => .int n
  | ⟨.int8, n⟩ => .bigInt n
  | ⟨.float4, x⟩ => .float x
  | ⟨.float8, x⟩ => .double x
  | ⟨.bytea, bs⟩ => .bytes bs
  | ⟨.uuid, u⟩ => .uuid u
  | ⟨.date, d⟩ => .date d
  | ⟨.time, t⟩ => .time t
  | ⟨.timestamp, m⟩ => .timestamp m
  | ⟨.timestamptz, m⟩ => .instant m
  | ⟨.jsonb, j⟩ => .json j
  | ⟨.numeric, n⟩ => .numeric n
  | ⟨.array element, items⟩ => .array (items.map element.value)

namespace Value

theorem fits_iff {element : ElementType} {v : Value} :
    fits element v = true ↔ (v ≠ .null → element.Holds v) := by
  rw [fits, Bool.or_eq_true, isNull_iff, beq_iff_eq, ElementType.holds_iff,
    Classical.or_iff_not_imp_left]

/-! ### The rule -/

/-- The type of a list, as the variants of its elements decide it: a native array for elements of
one variant that has one, a document for all others, and an array of texts where there is nothing
but nulls. -/
inductive BindsAs (values : List Value) : BindingType → Prop
  | nulls : (∀ v ∈ values, v = .null) → BindsAs values (.array .text)
  | native {element : ElementType} : (∃ v ∈ values, v ≠ .null) →
      (∀ v ∈ values, v ≠ .null → element.Holds v) → BindsAs values (.array element)
  | document : (∃ v ∈ values, v ≠ .null) →
      (∀ element : ElementType, ∃ v ∈ values, v ≠ .null ∧ ¬ element.Holds v) →
        BindsAs values .jsonb

variable {values others : List Value}

/-- What is picked from the first element is what the rule asks for. -/
theorem ofList_cases (values : List Value) :
    (∃ element, BindsAs values (.array element) ∧
      Argument.ofList values = .native element values) ∨
    BindsAs values .jsonb ∧ Argument.ofList values = .document values := by
  rw [Argument.ofList]
  split
  · next hfind =>
      refine .inl ⟨.text, .nulls fun v hv => ?_, rfl⟩
      simpa using List.find?_eq_none.1 hfind v hv
  · next first hfind =>
      have hmem : first ∈ values := List.mem_of_find?_eq_some hfind
      have hfirst : first ≠ .null := by
        intro hnull
        simpa [hnull, isNull] using List.find?_some hfind
      have hpresent : ∃ v ∈ values, v ≠ .null := ⟨first, hmem, hfirst⟩
      split
      · next helement =>
          refine .inr ⟨.document hpresent fun _ => ⟨first, hmem, hfirst, fun hholds => ?_⟩, rfl⟩
          rw [ElementType.holds_iff, helement] at hholds
          cases hholds
      · next element helement =>
          split
          · next hall =>
              refine .inl ⟨element, .native hpresent fun v hv => ?_, rfl⟩
              exact fits_iff.1 (List.all_eq_true.1 hall v hv)
          · next hall =>
              refine .inr ⟨.document hpresent fun other => ?_, rfl⟩
              by_cases hother : other = element
              · -- some element goes against the pick
                obtain ⟨v, hv, hfits⟩ : ∃ v ∈ values, ¬ fits element v = true := by
                  simpa using hall
                rw [fits_iff, Classical.not_imp] at hfits
                exact ⟨v, hv, hother ▸ hfits⟩
              · -- the first element goes against all other types
                refine ⟨first, hmem, hfirst, fun hholds => hother ?_⟩
                rw [ElementType.holds_iff, helement, Option.some.injEq] at hholds
                exact hholds.symm

/-- The type that is picked from the first element is the one that the rule asks for. -/
theorem bindsAs_type_ofList (values : List Value) :
    BindsAs values (Argument.ofList values).type := by
  obtain ⟨element, hrule, heq⟩ | ⟨hrule, heq⟩ := ofList_cases values
  · rw [heq]
    exact hrule
  · rw [heq]
    exact hrule

/-- The rule leaves no choice. -/
theorem BindsAs.unique {t t' : BindingType} (h : BindsAs values t) (h' : BindsAs values t') :
    t = t' := by
  have habsurd : (∀ v ∈ values, v = .null) → ¬ ∃ v ∈ values, v ≠ .null := by
    rintro hnull ⟨v, hv, hne⟩
    exact hne (hnull v hv)
  cases h with
  | nulls hnull =>
      cases h' with
      | nulls _ => rfl
      | native hpresent _ | document hpresent _ => exact absurd hpresent (habsurd hnull)
  | native hpresent hall =>
      cases h' with
      | nulls hnull => exact absurd hpresent (habsurd hnull)
      | native _ hall' =>
          obtain ⟨v, hv, hne⟩ := hpresent
          have hsame := ElementType.holds_iff.1 (hall v hv hne)
          rw [ElementType.holds_iff.1 (hall' v hv hne), Option.some.injEq] at hsame
          rw [hsame]
      | document _ hnone =>
          obtain ⟨v, hv, hne, hnot⟩ := hnone _
          exact absurd (hall v hv hne) hnot
  | document hpresent hnone =>
      cases h' with
      | nulls hnull => exact absurd hpresent (habsurd hnull)
      | native _ hall =>
          obtain ⟨v, hv, hne, hnot⟩ := hnone _
          exact absurd (hall v hv hne) hnot
      | document _ _ => rfl

theorem type_ofList_eq_iff {t : BindingType} :
    (Argument.ofList values).type = t ↔ BindsAs values t := by
  constructor
  · rintro rfl
    exact bindsAs_type_ofList values
  · exact (bindsAs_type_ofList values).unique

/-! ### What counts -/

/-- An element that is not null is of the variant with a type name. -/
def Occurs (name : String) (values : List Value) : Prop :=
  ∃ v ∈ values, v ≠ .null ∧ v.typeName = name

/-- The rule looks at nothing but the variants that occur. -/
theorem BindsAs.congr {t : BindingType} (hsame : ∀ name, Occurs name values ↔ Occurs name others)
    (h : BindsAs values t) : BindsAs others t := by
  -- every element of one list has one of its variant in the other
  have hleft : ∀ v ∈ values, v ≠ .null → ∃ w ∈ others, w ≠ .null ∧ w.typeName = v.typeName :=
    fun v hv hne => (hsame v.typeName).1 ⟨v, hv, hne, rfl⟩
  have hright : ∀ w ∈ others, w ≠ .null → ∃ v ∈ values, v ≠ .null ∧ v.typeName = w.typeName :=
    fun w hw hne => (hsame w.typeName).2 ⟨w, hw, hne, rfl⟩
  have hpresent : (∃ v ∈ values, v ≠ .null) → ∃ w ∈ others, w ≠ .null := by
    rintro ⟨v, hv, hne⟩
    obtain ⟨w, hw, hne', -⟩ := hleft v hv hne
    exact ⟨w, hw, hne'⟩
  cases h with
  | nulls hnull =>
      refine .nulls fun w hw => Classical.byContradiction fun hne => ?_
      obtain ⟨v, hv, hne', -⟩ := hright w hw hne
      exact hne' (hnull v hv)
  | native hsome hall =>
      refine .native (hpresent hsome) fun w hw hne => ?_
      obtain ⟨v, hv, hne', hname⟩ := hright w hw hne
      exact (hall v hv hne').congr hname
  | document hsome hnone =>
      refine .document (hpresent hsome) fun element => ?_
      obtain ⟨v, hv, hne, hnot⟩ := hnone element
      obtain ⟨w, hw, hne', hname⟩ := hleft v hv hne
      exact ⟨w, hw, hne', fun hholds => hnot (hholds.congr hname)⟩

/-- **Only the variants that occur count** for the type that a list is bound as. -/
theorem type_ofList_congr (hsame : ∀ name, Occurs name values ↔ Occurs name others) :
    (Argument.ofList values).type = (Argument.ofList others).type :=
  type_ofList_eq_iff.2 ((bindsAs_type_ofList others).congr fun name => (hsame name).symm)

theorem occurs_filter_iff (values : List Value) {name : String} :
    Occurs name (values.filter fun v => !v.isNull) ↔ Occurs name values := by
  simp [Occurs, and_assoc, ← isNull_iff]

/-! ### Contents -/

/-- A null and a value of an element type can be read off a native array. -/
theorem value_item? {element : ElementType} {v : Value} (h : v ≠ .null → element.Holds v) :
    element.value (item? element v) = v := by
  by_cases hnull : v = .null
  · rw [hnull]
    cases element <;> rfl
  · cases h hnull <;> rfl

theorem BindsAs.holds {element : ElementType} (h : BindsAs values (.array element)) :
    ∀ v ∈ values, v ≠ .null → element.Holds v := by
  cases h with
  | nulls hnull => exact fun v hv hne => absurd (hnull v hv) hne
  | native _ hall => exact hall

/-- A list can be read off its native array. -/
theorem value_native {element : ElementType} (h : ∀ v ∈ values, v ≠ .null → element.Holds v) :
    (Argument.native element values).value = .array values := by
  rw [Argument.native, Argument.value, List.map_map, Value.array.injEq]
  exact (List.map_congr_left fun v hv => value_item? (h v hv)).trans (List.map_id values)

/-- A list that the rule makes a document is sent as that document. -/
theorem argument_of_document (h : BindsAs values .jsonb) :
    (Value.array values).argument = .document values := by
  rw [argument]
  obtain ⟨element, hrule, -⟩ | ⟨-, heq⟩ := ofList_cases values
  · cases hrule.unique h
  · exact heq

/-- **The argument of a value stands for that value**, unless it is a list that the rule makes a
document. -/
theorem value_argument {v : Value} (h : ∀ values, v = .array values → ¬ BindsAs values .jsonb) :
    v.argument.value = v := by
  cases v with
  | array values =>
      rw [argument]
      obtain ⟨element, hrule, heq⟩ | ⟨hrule, -⟩ := ofList_cases values
      · rw [heq, value_native hrule.holds]
      · exact absurd hrule (h values rfl)
  | _ => rfl

/-! ### Parameters -/

/-- **Parameters are bound one by one, and lists by the variants of their elements.**  When no value
is refused, every parameter is bound in its place, and its argument stands for it; only a list that
the rule makes a document is sent as the documents of its elements.  The type of a list is the one
that the rule gives; it is the same for another list with the same elements, in any order and with
any nulls between them, and more generally for any list with the same variants in it. -/
theorem bindAll?_lists {refusal : Value → Option String} {params : List Value}
    (h : ∀ v ∈ params, refusal v = none) :
    (∃ arguments, bindAll? refusal params = .ok arguments ∧ arguments.length = params.length ∧
      ∀ (i : Nat) (v : Value), params[i]? = some v → arguments[i]? = some v.argument) ∧
    (∀ v : Value, (∀ values, v = .array values → ¬ BindsAs values .jsonb) →
      v.argument.value = v) ∧
    (∀ values, BindsAs values .jsonb → (Value.array values).argument = .document values) ∧
    (∀ values t, (Value.array values).bindingType = t ↔ BindsAs values t) ∧
    (∀ values others, (values.filter fun v => !v.isNull).Perm (others.filter fun v => !v.isNull) →
      (Value.array values).bindingType = (Value.array others).bindingType) ∧
    ∀ values others, (∀ name, Occurs name values ↔ Occurs name others) →
      (Value.array values).bindingType = (Value.array others).bindingType := by
  refine ⟨⟨bindAll params, bindAll?_of_accepted h, ?_, ?_⟩, ?_, ?_, ?_, ?_, ?_⟩
  · rw [bindAll, List.length_map]
  · intro i v hv
    rw [bindAll, List.getElem?_map, hv, Option.map_some]
  · intro v
    exact value_argument
  · intro values
    exact argument_of_document
  · intro values t
    exact type_ofList_eq_iff
  · intro values others hperm
    refine type_ofList_congr fun name => ?_
    rw [← occurs_filter_iff values, ← occurs_filter_iff others, Occurs, Occurs]
    simp only [hperm.mem_iff]
  · intro values others
    exact type_ofList_congr

/-- Whole numbers between nulls, a whole number with a text, single-precision numbers, and nulls
alone. -/
def mixedLists : List Value :=
  [.array [.null, .int 1, .null, .int 2], .array [.int 1, .text "a"], .array [.float ⟨0⟩],
    .array [.null, .null]]

/-- The nulls in front do not hide the whole numbers behind them, and stay where they are; the text
spoils the list that starts with a whole number, and single precision has no native array. -/
theorem bindAll?_lists_mixed :
    (∀ v ∈ mixedLists, (fun _ => none : Value → Option String) v = none) ∧
      ∃ arguments, bindAll? (fun _ => none) mixedLists = .ok arguments ∧ arguments.length = 4 ∧
        arguments[0]? = some ⟨.array .int4, [none, some 1, none, some 2]⟩ ∧
        arguments[1]? = some ⟨.jsonb, .array [.ofInt64 1, .string "a"]⟩ ∧
        arguments[2]? = some ⟨.jsonb, .array [.ofBinary64 ⟨0⟩]⟩ ∧
        arguments[3]? = some ⟨.array .text, [none, none]⟩ := by
  have haccepted : ∀ v ∈ mixedLists, (fun _ => none : Value → Option String) v = none :=
    fun _ _ => rfl
  obtain ⟨⟨arguments, hbound, hlength, hplaces⟩, -⟩ := bindAll?_lists haccepted
  exact ⟨haccepted, arguments, hbound, hlength, hplaces 0 _ rfl, hplaces 1 _ rfl, hplaces 2 _ rfl,
    hplaces 3 _ rfl⟩

end Value

end SqlFilter

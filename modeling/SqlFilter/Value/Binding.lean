/-
**The arguments that values are bound as.**

A value is sent with a type and the content that the type asks for.  A list is sent as a native
array when all its elements that are not null are of one kind that has an array type, and a null
keeps its place there; otherwise the list is sent as a JSON document.  A list without such elements
is sent as an array of texts.

Main definitions:

* `SqlFilter.ElementType`: the kinds of elements that have a native array type;
* `SqlFilter.BindingType`: the types that a value can be bound as;
* `SqlFilter.Argument`: a type and a content of that type;
* `SqlFilter.Value.argument`, `SqlFilter.Value.bindingType`: the argument that a value is bound as,
  and its type;
* `SqlFilter.Value.bindAll?`: binding parameters when some values may be refused.

Main results:

* `SqlFilter.Value.bindAll?_of_accepted`: parameters are bound when no value is refused;
* `SqlFilter.Value.bindAll?_of_refused`: otherwise the first refused one is named.
-/

import SqlFilter.Value.Document

set_option relaxedAutoImplicit false
set_option autoImplicit false

namespace SqlFilter

open SqlFilter.Calendar (Date Moment Time)
open SqlFilter.Number (Binary32 Binary64 Numeric)

/-! ### Types -/

/-- The elements of native arrays. -/
inductive ElementType where
  | bool
  | int2
  | int4
  | int8
  | float8
  | text
  | uuid
  | date
  | timestamptz
  deriving Repr, DecidableEq

/-- The name of the native array type of elements. -/
def ElementType.arrayName : ElementType → String
  | .bool => "BOOL[]"
  | .int2 => "INT2[]"
  | .int4 => "INT4[]"
  | .int8 => "INT8[]"
  | .float8 => "FLOAT8[]"
  | .text => "TEXT[]"
  | .uuid => "UUID[]"
  | .date => "DATE[]"
  | .timestamptz => "TIMESTAMPTZ[]"

/-- The elements of a native array that are not null. -/
abbrev ElementType.Item : ElementType → Type
  | .bool => Bool
  | .int2 => Int16
  | .int4 => Int32
  | .int8 => Int64
  | .float8 => Binary64
  | .text => String
  | .uuid => Uuid
  | .date => Date
  | .timestamptz => Moment

/-- The types that a value can be bound as. -/
inductive BindingType where
  | text
  | bool
  | int2
  | int4
  | int8
  | float4
  | float8
  | bytea
  | uuid
  | date
  | time
  | timestamp
  | timestamptz
  | jsonb
  | numeric
  | array (element : ElementType)
  deriving Repr, DecidableEq

/-- What is sent along with a type.  A text may be missing, and so may the elements of an array. -/
abbrev BindingType.Content : BindingType → Type
  | .text => Option String
  | .bool => Bool
  | .int2 => Int16
  | .int4 => Int32
  | .int8 => Int64
  | .float4 => Binary32
  | .float8 => Binary64
  | .bytea => List UInt8
  | .uuid => Uuid
  | .date => Date
  | .time => Time
  | .timestamp => Moment
  | .timestamptz => Moment
  | .jsonb => Json
  | .numeric => Numeric
  | .array element => List (Option element.Item)

/-- What one parameter is sent as. -/
structure Argument where
  type : BindingType
  content : type.Content

/-- Arguments can stand where only their types are looked at. -/
instance : CoeTail (List Argument) (List BindingType) := ⟨List.map Argument.type⟩

/-! ### Lists -/

namespace Value

/-- The element type that a value stands for, if it has one. -/
def elementType? : Value → Option ElementType
  | .bool _ => some .bool
  | .smallInt _ => some .int2
  | .int _ => some .int4
  | .bigInt _ => some .int8
  | .double _ => some .float8
  | .text _ => some .text
  | .uuid _ => some .uuid
  | .date _ => some .date
  | .instant _ => some .timestamptz
  | _ => none

/-- Whether a value can be an element of a native array. -/
def fits (element : ElementType) (v : Value) : Bool := v.isNull || v.elementType? == some element

/-- The content of a value as an element of a native array. -/
def item? : (element : ElementType) → Value → Option element.Item
  | .bool, .bool b => some b
  | .int2, .smallInt n => some n
  | .int4, .int n => some n
  | .int8, .bigInt n => some n
  | .float8, .double x => some x
  | .text, .text s => some s
  | .uuid, .uuid u => some u
  | .date, .date d => some d
  | .timestamptz, .instant m => some m
  | _, _ => none

end Value

/-- A list as a native array; what is not of its elements counts as null. -/
def Argument.native (element : ElementType) (values : List Value) : Argument :=
  ⟨.array element, values.map (Value.item? element)⟩

/-- A list as a JSON document. -/
def Argument.document (values : List Value) : Argument := ⟨.jsonb, .array (values.map Value.toJson)⟩

/-- What a list is bound as, which its first element that is not null suggests. -/
def Argument.ofList (values : List Value) : Argument :=
  match values.find? fun v => !v.isNull with
  | none => .native .text values
  | some first =>
      match first.elementType? with
      | none => .document values
      | some element =>
          if values.all (Value.fits element) then .native element values else .document values

namespace Value

/-! ### Parameters -/

/-- What a value is bound as; null is bound as a text that is missing. -/
def argument : Value → Argument
  | .null => ⟨.text, none⟩
  | .bool b => ⟨.bool, b⟩
  | .smallInt n => ⟨.int2, n⟩
  | .int n => ⟨.int4, n⟩
  | .bigInt n => ⟨.int8, n⟩
  | .float x => ⟨.float4, x⟩
  | .double x => ⟨.float8, x⟩
  | .text s => ⟨.text, some s⟩
  | .bytes bs => ⟨.bytea, bs⟩
  | .uuid u => ⟨.uuid, u⟩
  | .date d => ⟨.date, d⟩
  | .time t => ⟨.time, t⟩
  | .timestamp m => ⟨.timestamp, m⟩
  | .instant m => ⟨.timestamptz, m⟩
  | .json j => ⟨.jsonb, j⟩
  | .array values => .ofList values
  | .numeric n => ⟨.numeric, n⟩

/-- The type that a value is bound as. -/
def bindingType (v : Value) : BindingType := v.argument.type

/-- The arguments that parameters are bound as, in order. -/
def bindAll (params : List Value) : List Argument := params.map argument

/-! ### Refused values -/

/-- What a value is called when it cannot be bound. -/
def bindingName : Value → String
  | .array [] => "empty ARRAY"
  | .array values =>
      match (Argument.ofList values).type with
      | .array element => element.arrayName
      | _ => "ARRAY as JSON"
  | v => v.typeName

/-- A value cannot be bound. -/
def bindFailure (v : Value) (reason : String) : Error :=
  .query ("Failed to bind " ++ v.bindingName ++ ": " ++ reason)

/-- Binds parameters in order.  `refusal` gives the reason why a value cannot be encoded, if there
is one; behind a refused value no other is looked at. -/
def bindAll? (refusal : Value → Option String) : List Value → Except Error (List Argument)
  | [] => .ok []
  | v :: vs =>
      match refusal v with
      | some reason => .error (v.bindFailure reason)
      | none =>
          match bindAll? refusal vs with
          | .error e => .error e
          | .ok arguments => .ok (v.argument :: arguments)

variable {refusal : Value → Option String} {params : List Value}

/-- Parameters are bound when no value is refused. -/
theorem bindAll?_of_accepted (h : ∀ v ∈ params, refusal v = none) :
    bindAll? refusal params = .ok (bindAll params) := by
  induction params with
  | nil => rfl
  | cons v vs ih =>
      rw [List.forall_mem_cons] at h
      rw [bindAll?, h.1, ih h.2]
      rfl

/-- The first refused parameter is named. -/
theorem bindAll?_of_refused {front back : List Value} {v : Value} {reason : String}
    (hfront : ∀ w ∈ front, refusal w = none) (hv : refusal v = some reason) :
    bindAll? refusal (front ++ v :: back) = .error (v.bindFailure reason) := by
  induction front with
  | nil => rw [List.nil_append, bindAll?, hv]
  | cons w ws ih =>
      rw [List.forall_mem_cons] at hfront
      rw [List.cons_append, bindAll?, hfront.1, ih hfront.2]

/-- A failure to bind is an error of the building of the statement. -/
theorem query_of_bindAll? {e : Error} (h : bindAll? refusal params = .error e) :
    ∃ detail, e = .query detail := by
  induction params with
  | nil => cases h
  | cons v vs ih =>
      rw [bindAll?] at h
      split at h
      · cases h
        exact ⟨_, rfl⟩
      · split at h
        · next he =>
            cases h
            exact ih he
        · cases h

end Value

end SqlFilter

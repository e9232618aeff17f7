/-
**Errors.**

Everything that can go wrong while a statement is compiled, a value is read or a statement runs.  An
error is a category with what it is about; the wording is in one function.

Main definitions:

* `SqlFilter.Error`: the categories;
* `SqlFilter.Error.message`: the wording;
* `SqlFilter.Error.isRetryable`: whether the same statement may succeed when it is sent again;
* `SqlFilter.Error.isCompileError`: whether the error was found before anything was sent.

Main results:

* `SqlFilter.Error.isRetryable_eq_false`: no compile error is retryable.
-/

import SqlFilter.Column

set_option relaxedAutoImplicit false
set_option autoImplicit false

namespace SqlFilter

/-- The shape of a value, as far as operators tell values apart. -/
inductive ValueShape where
  | null
  | scalar
  | array
  deriving Repr, DecidableEq

/-- The name of a shape. -/
def ValueShape.name : ValueShape → String
  | .null => "null"
  | .scalar => "scalar"
  | .array => "array"

/-- What went wrong. -/
inductive Error where
  /-- The operator means nothing for a column of the kind and a value of the shape. -/
  | unsupportedOperator (field operator : String) (kind : ColumnKind) (shape : ValueShape)
  /-- A list condition has no elements. -/
  | emptyArray (field : String)
  /-- The number is not held exactly by a double-precision number. -/
  | numericPrecision (text : String)
  | invalidIdentifier (detail : String)
  | invalidOrderBy (detail : String)
  | invalidLimitOffset (detail : String)
  | invalidConditionKey (key : String)
  | invalidCondition (detail : String)
  /-- A value is undefined where undefined values are not allowed. -/
  | undefinedValue (key : String)
  | decode (detail : String)
  | invalidValue (detail : String)
  /-- A JSON text is not what it should be. -/
  | serialization (detail : String)
  /-- A statement cannot be built from its parts. -/
  | query (detail : String)
  | database (detail : String)
  | connection (detail : String)
  /-- The statement violates a uniqueness or exclusion constraint. -/
  | conflict (detail : String)
  /-- No connection was free in time. -/
  | timeout (detail : String)
  /-- The server gave the statement up for a reason that may pass. -/
  | transient (detail : String)
  deriving Repr, DecidableEq

namespace Error

instance : Inhabited Error := ⟨.query ""⟩

/-- The wording of an error. -/
def message : Error → String
  | .unsupportedOperator field operator kind shape =>
      "Operator '" ++ operator ++ "' is not supported for " ++ kind.name ++ " field '" ++ field ++
        "' with " ++ shape.name ++ " value"
  | .emptyArray field => "Empty array given for IN condition on field '" ++ field ++ "'"
  | .numericPrecision text =>
      "Number '" ++ text ++ "' exceeds the exact integer range of a double"
  | .invalidIdentifier detail => "Invalid identifier: " ++ detail
  | .invalidOrderBy detail => "Invalid ORDER BY: " ++ detail
  | .invalidLimitOffset detail => "Invalid LIMIT/OFFSET: " ++ detail
  | .invalidConditionKey key => "Invalid condition key '" ++ key ++ "'"
  | .invalidCondition detail => "Invalid condition: " ++ detail
  | .undefinedValue key => "Undefined value for condition key '" ++ key ++ "'"
  | .decode detail => "Decode error: " ++ detail
  | .invalidValue detail => "Invalid value: " ++ detail
  | .serialization detail => "Serialization error: " ++ detail
  | .query detail => "Query error: " ++ detail
  | .database detail => "Database error: " ++ detail
  | .connection detail => "Connection error: " ++ detail
  | .conflict detail => "Conflict: " ++ detail
  | .timeout detail => "Timeout: " ++ detail
  | .transient detail => "Transient error: " ++ detail

/-- Whether the same statement may succeed when it is sent again. -/
def isRetryable : Error → Bool
  | .timeout _ | .transient _ => true
  | _ => false

/-- Whether the error was found while a statement was compiled, before anything was sent. -/
def isCompileError : Error → Bool
  | .unsupportedOperator _ _ _ _ | .emptyArray _ | .invalidIdentifier _ | .invalidOrderBy _
  | .invalidLimitOffset _ | .invalidConditionKey _ | .invalidCondition _ | .undefinedValue _
  | .invalidValue _ | .query _ => true
  | _ => false

/-- No compile error is retryable. -/
theorem isRetryable_eq_false {e : Error} (h : e.isCompileError = true) : e.isRetryable = false := by
  cases e <;> simp_all [isCompileError, isRetryable]

end Error

end SqlFilter

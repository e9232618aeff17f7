/-
**Faults of the database.**

What the connection to the database can answer instead of a result, and the error each such fault is
for the user.  Faults that the server reports are told apart by the class of their code: violated
constraints, given-up transactions, lost connections, a server that goes down.

Main definitions:

* `SqlFilter.Fault`: the faults;
* `SqlFilter.Fault.message`: their wording;
* `SqlFilter.Fault.toError`: the error that each one is.

Main results:

* `SqlFilter.Fault.isCompileError_toError`: no fault is a compile error.
-/

import SqlFilter.Error

set_option relaxedAutoImplicit false
set_option autoImplicit false

namespace SqlFilter

/-- What the connection to the database can answer instead of a result. -/
inductive Fault where
  | configuration (detail : String)
  /-- The server reports an error, mostly with a code of five characters. -/
  | server (code : Option String) (detail : String)
  | io (detail : String)
  | tls (detail : String)
  | protocol (detail : String)
  | rowNotFound
  | typeNotFound (name : String)
  | columnNotFound (name : String)
  | columnDecode (index detail : String)
  | encode (detail : String)
  | decode (detail : String)
  | invalidArgument (detail : String)
  | workerCrashed
  | poolTimedOut
  | poolClosed
  /-- A fault of any other kind, of which no more than its wording is known. -/
  | other (wording : String)
  deriving Repr, DecidableEq

namespace Fault

/-- The wording of a fault. -/
def message : Fault → String
  | .configuration detail => "error with configuration: " ++ detail
  | .server _ detail => "error returned from database: " ++ detail
  | .io detail => "error communicating with database: " ++ detail
  | .tls detail =>
      "error occurred while attempting to establish a TLS connection: " ++ detail
  | .protocol detail => "encountered unexpected or invalid data: " ++ detail
  | .rowNotFound => "no rows returned by a query that expected to return at least one row"
  | .typeNotFound name => "type named " ++ name ++ " not found"
  | .columnNotFound name => "no column found for name: " ++ name
  | .columnDecode index detail =>
      "error occurred while decoding column " ++ index ++ ": " ++ detail
  | .encode detail => "error occurred while encoding a value: " ++ detail
  | .decode detail => "error occurred while decoding: " ++ detail
  | .invalidArgument detail => detail
  | .workerCrashed => "attempted to communicate with a crashed background worker"
  | .poolTimedOut => "Connection pool timed out"
  | .poolClosed => "Connection pool closed"
  | .other wording => wording

/-! ### Codes -/

/-- What the code of the server says of an error. -/
inductive CodeClass where
  | conflict
  | transient
  | connection
  | other
  deriving Repr, DecidableEq

/-- Whether a code is of the class that its first characters name. -/
def hasClass (name : String) (code : String) : Bool := name.toList.isPrefixOf code.toList

/-- The codes of violated uniqueness and exclusion constraints. -/
def conflictCodes : List String := ["23505", "23P01"]

/-- The codes of a server that goes down or is not up yet. -/
def shutdownCodes : List String := ["57P01", "57P02", "57P03"]

/-- What a code says: a constraint, a transaction that was rolled back, a connection, or a server
that goes down. -/
def classOf (code : String) : CodeClass :=
  if code ∈ conflictCodes then .conflict
  else if hasClass "40" code then .transient
  else if hasClass "08" code then .connection
  else if code ∈ shutdownCodes then .transient
  else .other

/-- The error that a code stands for. -/
def ofClass (detail : String) : CodeClass → Error
  | .conflict => .conflict detail
  | .transient => .transient detail
  | .connection => .connection detail
  | .other => .database detail

/-- The error that a fault is. -/
def toError (fault : Fault) : Error :=
  match fault with
  | .server (some code) _ => ofClass fault.message (classOf code)
  | .configuration _ | .io _ | .tls _ | .protocol _ | .poolClosed => .connection fault.message
  | .columnDecode _ _ | .decode _ | .typeNotFound _ => .decode fault.message
  | .poolTimedOut => .timeout fault.message
  | _ => .database fault.message

/-- No fault is a compile error. -/
theorem isCompileError_toError (fault : Fault) : fault.toError.isCompileError = false := by
  cases fault with
  | server code detail =>
      cases code with
      | none => rfl
      | some code => cases h : classOf code <;> simp [toError, ofClass, h, Error.isCompileError]
  | _ => rfl

end Fault

end SqlFilter

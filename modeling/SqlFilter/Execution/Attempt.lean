/-
**Attempts.**

An attempt at a statement binds the parameters first and sends the statement only when all of them
are bound.  What the database then answers with a fault is an error for the user.

Main definitions:

* `SqlFilter.attempt`: an attempt, given what the database would answer.

Main results:

* `SqlFilter.attempt_eq_ok_iff`, `SqlFilter.attempt_eq_error_iff`: the results of an attempt;
* `SqlFilter.Server.attempt_eq`: an attempt at a scripted server, which refuses no value.
-/

import SqlFilter.Execution.Server

set_option relaxedAutoImplicit false
set_option autoImplicit false

namespace SqlFilter

variable {α : Type}

/-- An answer of the database, whose fault is an error. -/
def answered : Except Fault α → Except Error α
  | .error fault => .error fault.toError
  | .ok a => .ok a

/-- An attempt, given what the database would answer.  `refusal` gives the reason why a value cannot
be encoded, if there is one. -/
def attempt (refusal : Value → Option String) (params : List Value) (reply : Except Fault α) :
    Except Error α :=
  match Value.bindAll? refusal params with
  | .error e => .error e
  | .ok _ => answered reply

variable {refusal : Value → Option String} {params : List Value} {reply : Except Fault α}

/-- An attempt succeeds with the answer of the database. -/
theorem attempt_eq_ok_iff {a : α} :
    attempt refusal params reply = .ok a ↔
      (∃ arguments, Value.bindAll? refusal params = .ok arguments) ∧ reply = .ok a := by
  rw [attempt]
  cases Value.bindAll? refusal params with
  | error e => simp
  | ok arguments => cases reply <;> simp [answered]

/-- An attempt fails as the binding of its parameters does, or with a fault of the database. -/
theorem attempt_eq_error_iff {e : Error} :
    attempt refusal params reply = .error e ↔
      Value.bindAll? refusal params = .error e ∨
      (∃ arguments, Value.bindAll? refusal params = .ok arguments) ∧
        ∃ fault, reply = .error fault ∧ fault.toError = e := by
  rw [attempt]
  cases Value.bindAll? refusal params with
  | error e' => simp
  | ok arguments => cases reply <;> simp [answered]

/-- What a statement meets at a scripted server, read as a result. -/
def Server.outcome (read : Step → Except Fault α) (server : Server) : Except Fault α :=
  server.answer.1.bind read

/-- An attempt at a scripted server, which refuses no value. -/
theorem Server.attempt_eq (read : Step → Except Fault α) (server : Server) (params : List Value) :
    server.attempt read =
      (SqlFilter.attempt (fun _ => none) params (server.outcome read), server.answer.2) := by
  rw [SqlFilter.attempt, Value.bindAll?_of_accepted fun _ _ => rfl, Server.attempt, Server.outcome]
  cases server.answer with
  | mk answer after =>
      cases answer with
      | error fault => rfl
      | ok step =>
          simp only [Except.bind]
          cases read step <;> rfl

end SqlFilter

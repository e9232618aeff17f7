/-
**A server that follows a script.**

A pool of connections to a server whose answers are written down beforehand.  A closed pool gives no
connection, nor does a busy one; a connection can be made only when the network reaches the server.
Each statement that gets through takes the next step of the script.

Main definitions:

* `SqlFilter.Server`: the pool, the network and the script;
* `SqlFilter.Server.answer`: what one statement meets;
* `SqlFilter.Server.fetchAll`, `SqlFilter.Server.fetchCount`, `SqlFilter.Server.execute`: running a
  statement with retries.
-/

import SqlFilter.Execution.Fault
import SqlFilter.Execution.Retry
import SqlFilter.Value.Binding

set_option relaxedAutoImplicit false
set_option autoImplicit false

namespace SqlFilter

/-- The state of a pool of connections. -/
inductive Pool where
  | closed
  | busy
  | ready
  deriving Repr, DecidableEq

/-- One step of a script: an error with its code, rows of one number each, or a number of changed
rows. -/
inductive Step where
  | failure (code message : String)
  | rows (values : List (Option Int))
  | affected (count : Nat)
  deriving Repr

/-- A pool of connections to a server. -/
structure Server where
  pool : Pool
  /-- Whether the network reaches the server. -/
  reachable : Bool
  script : List Step
  deriving Repr

namespace Server

/-- Whether the pool is closed. -/
def isClosed (server : Server) : Bool := server.pool == .closed

/-- The network does not reach the server. -/
def unreachable : Fault := .io "Network is unreachable (os error 101)"

/-- The script has no more steps. -/
def scriptEnded : Fault := .server (some "XX000") "script ended"

/-- What one statement meets. -/
def answer (server : Server) : Except Fault Step × Server :=
  match server.pool with
  | .closed => (.error .poolClosed, server)
  | .busy => (.error (if server.reachable then .poolTimedOut else unreachable), server)
  | .ready =>
      if !server.reachable then (.error unreachable, server)
      else
        match server.script with
        | [] => (.error scriptEnded, server)
        | .failure code message :: script =>
            (.error (.server (some code) message), { server with script := script })
        | step :: script => (.ok step, { server with script := script })

/-! ### Results -/

/-- How many rows a step gives. -/
def rowCount : Step → Nat
  | .rows values => values.length
  | _ => 0

/-- The number in the first row of a step. -/
def firstNumber : Step → Except Fault Int
  | .rows (some n :: _) => .ok n
  | .rows (none :: _) =>
      .error (.columnDecode "0" "unexpected null; try decoding as an \x60Option\x60")
  | _ => .error .rowNotFound

/-- How many rows a step changes. -/
def changedCount : Step → Nat
  | .affected n => n
  | .rows values => values.length
  | .failure _ _ => 0

/-- One attempt, whose result is read off the step it meets. -/
def attempt {α : Type} (read : Step → Except Fault α) (server : Server) :
    Except Error α × Server :=
  match server.answer with
  | (.error fault, after) => (.error fault.toError, after)
  | (.ok step, after) =>
      match read step with
      | .error fault => (.error fault.toError, after)
      | .ok result => (.ok result, after)

/-! ### Running statements -/

/-- The number of rows of a statement. -/
def fetchAll (policy : RetryPolicy) (sql : String) (elapsed : Nat) (server : Server) :
    RetryPolicy.Outcome Server Nat :=
  policy.run sql elapsed (attempt fun step => .ok (rowCount step)) server

/-- The number that a statement asks for. -/
def fetchCount (policy : RetryPolicy) (sql : String) (elapsed : Nat) (server : Server) :
    RetryPolicy.Outcome Server Int :=
  policy.run sql elapsed (attempt firstNumber) server

/-- The number of rows that a statement changes, which is reported too. -/
def execute (policy : RetryPolicy) (sql : String) (elapsed : Nat) (server : Server) :
    RetryPolicy.Outcome Server Nat :=
  let outcome := policy.run sql elapsed (attempt fun step => .ok (changedCount step)) server
  match outcome.result with
  | .ok affected => { outcome with events := outcome.events ++ [.executed affected] }
  | .error _ => outcome

end Server

end SqlFilter

/-
**Running statements.**

A statement is built first and handed to an executor only when that succeeds; an error of the
building never reaches the executor.  An executor may keep a state of its own.

Main definitions:

* `SqlFilter.Executor`: what can run statements;
* `SqlFilter.Table.find`, `SqlFilter.Table.runCount`, `SqlFilter.Table.runInsert`,
  `SqlFilter.Table.runUpdate`, `SqlFilter.Table.runDelete`: building and running a statement;
* `SqlFilter.Executor.recording`: an executor that also keeps what it was handed;
* `SqlFilter.Canned.executor`: an executor with prepared answers.
-/

import SqlFilter.Statement.Insert
import SqlFilter.Statement.Select
import SqlFilter.Statement.Update

set_option relaxedAutoImplicit false
set_option autoImplicit false

namespace SqlFilter

/-- What can run statements: for their rows, for a number, or for how many rows they changed. -/
structure Executor (State Result : Type) where
  fetchAll : Fragment → State → Except Error (List Result) × State
  fetchCount : Fragment → State → Except Error Int × State
  execute : Fragment → State → Except Error Nat × State

/-- Hands a statement over if it was built. -/
def handOver {State α : Type} (run : Fragment → State → Except Error α × State)
    (built : Except Error Fragment) (state : State) : Except Error α × State :=
  match built with
  | .error e => (.error e, state)
  | .ok statement => run statement state

namespace Table

variable {State Result : Type}

/-- Finds the rows that meet conditions. -/
def find (table : Table) (executor : Executor State Result) (conditions : Conditions)
    (options : QueryOptions) : State → Except Error (List Result) × State :=
  handOver executor.fetchAll (table.select conditions options)

/-- Counts the rows that meet conditions. -/
def runCount (table : Table) (executor : Executor State Result) (conditions : Conditions) :
    State → Except Error Int × State :=
  handOver executor.fetchCount (table.count conditions)

/-- Inserts a row and gives it back. -/
def runInsert (table : Table) (executor : Executor State Result) (row : Row) :
    State → Except Error (List Result) × State :=
  handOver executor.fetchAll (table.insert row)

/-- Changes the rows that meet conditions. -/
def runUpdate (table : Table) (executor : Executor State Result) (conditions : Conditions)
    (row : Row) : State → Except Error Nat × State :=
  handOver executor.execute (table.update conditions row)

/-- Removes the rows that meet conditions. -/
def runDelete (table : Table) (executor : Executor State Result) (conditions : Conditions) :
    State → Except Error Nat × State :=
  handOver executor.execute (table.delete conditions)

end Table

/-! ### Executors -/

/-- The ways to run a statement. -/
inductive Method where
  | fetchAll
  | fetchCount
  | execute
  deriving Repr, DecidableEq

/-- A statement with the way it was to be run. -/
structure Request where
  method : Method
  statement : Fragment
  deriving Repr

namespace Executor

variable {State Result : Type}

/-- Runs statements with another executor and keeps the requests, the last one at the end. -/
def recording (executor : Executor State Result) : Executor (State × List Request) Result where
  fetchAll statement state :=
    let (result, inner) := executor.fetchAll statement state.1
    (result, inner, state.2 ++ [⟨.fetchAll, statement⟩])
  fetchCount statement state :=
    let (result, inner) := executor.fetchCount statement state.1
    (result, inner, state.2 ++ [⟨.fetchCount, statement⟩])
  execute statement state :=
    let (result, inner) := executor.execute statement state.1
    (result, inner, state.2 ++ [⟨.execute, statement⟩])

end Executor

/-- Prepared answers: rows, a number of changed rows, or an error instead of both. -/
structure Canned (Result : Type) where
  rows : List Result := []
  affected : Nat := 0
  failure : Option Error := none

namespace Canned

variable {Result : Type}

/-- The prepared error, or a result. -/
def orFailure {α : Type} (canned : Canned Result) (result : α) : Except Error α :=
  match canned.failure with
  | some e => .error e
  | none => .ok result

/-- The executor that gives prepared answers. -/
def executor (canned : Canned Result) : Executor Unit Result where
  fetchAll _ state := (canned.orFailure canned.rows, state)
  fetchCount _ state := (canned.orFailure (canned.rows.length : Int), state)
  execute _ state := (canned.orFailure canned.affected, state)

end Canned

end SqlFilter

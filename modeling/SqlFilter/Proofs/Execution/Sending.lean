/-
**What an executor receives.**

A call on a table builds its statement and has it run.  Whatever an executor does with a statement,
and whatever became of the calls in front, the executor receives one request for each call whose
statement can be built, in the order of the calls, and nothing for the others: those come back with
an error that says the statement was at fault.

The step is one call, which either leaves the executor alone or is one request; the run is a
sequence of calls.  What an executor receives is seen by one that keeps its requests and is an
executor like any other besides.

Main definitions:

* `SqlFilter.Call`, `SqlFilter.Call.build`, `SqlFilter.Call.run`: the calls;
* `SqlFilter.Call.request?`: the request of a call whose statement can be built;
* `SqlFilter.Call.runAll`: calls one after the other.

Main results:

* `SqlFilter.Call.run_eq`: a call is its request, or an error;
* `SqlFilter.Call.runAll_recording`: what a sequence of calls leaves in the record;
* `SqlFilter.Call.received_runAll`: **an executor receives what can be built, and nothing else**.
-/

import SqlFilter.Execution.Executor
import SqlFilter.Execution.Fault
import SqlFilter.Proofs.Statement.BuildFailures

set_option relaxedAutoImplicit false
set_option autoImplicit false

namespace SqlFilter

variable {State Result : Type}

/-- A call on a table. -/
inductive Call where
  | find (conditions : Conditions) (options : QueryOptions)
  | count (conditions : Conditions)
  | insert (row : Row)
  | update (conditions : Conditions) (row : Row)
  | delete (conditions : Conditions)

/-- What a call gives back. -/
inductive Answer (Result : Type) where
  | rows (rows : List Result)
  | number (n : Int)
  | affected (n : Nat)

/-! ### Requests -/

/-- The result of a run as an answer. -/
def Answer.ofRun {α : Type} (answer : α → Answer Result) (run : Except Error α × State) :
    Except Error (Answer Result) × State :=
  (run.1.map answer, run.2)

/-- Runs a request. -/
def Executor.serve (executor : Executor State Result) (request : Request) (state : State) :
    Except Error (Answer Result) × State :=
  match request.method with
  | .fetchAll => Answer.ofRun .rows (executor.fetchAll request.statement state)
  | .fetchCount => Answer.ofRun .number (executor.fetchCount request.statement state)
  | .execute => Answer.ofRun .affected (executor.execute request.statement state)

/-- An executor that keeps its requests does what it did without that, and keeps one more. -/
theorem Executor.serve_recording (executor : Executor State Result) (request : Request)
    (state : State) (log : List Request) :
    executor.recording.serve request (state, log) =
      ((executor.serve request state).1, (executor.serve request state).2, log ++ [request]) := by
  obtain ⟨method, statement⟩ := request
  cases method with
  | fetchAll => rfl
  | fetchCount => rfl
  | execute => rfl

namespace Call

/-! ### One call -/

/-- The statement of a call. -/
def build (table : Table) : Call → Except Error Fragment
  | find conditions options => table.select conditions options
  | count conditions => table.count conditions
  | insert row => table.insert row
  | update conditions row => table.update conditions row
  | delete conditions => table.delete conditions

/-- The way the statement of a call is run. -/
def method : Call → Method
  | find _ _ | insert _ => .fetchAll
  | count _ => .fetchCount
  | update _ _ | delete _ => .execute

/-- The request of a call, if its statement can be built. -/
def request? (table : Table) (call : Call) : Option Request :=
  match call.build table with
  | .ok statement => some ⟨call.method, statement⟩
  | .error _ => none

/-- Makes a call. -/
def run (table : Table) (executor : Executor State Result) (state : State) :
    Call → Except Error (Answer Result) × State
  | find conditions options => Answer.ofRun .rows (table.find executor conditions options state)
  | count conditions => Answer.ofRun .number (table.runCount executor conditions state)
  | insert row => Answer.ofRun .rows (table.runInsert executor row state)
  | update conditions row => Answer.ofRun .affected (table.runUpdate executor conditions row state)
  | delete conditions => Answer.ofRun .affected (table.runDelete executor conditions state)

/-- A call is its request, or an error that the executor never sees. -/
theorem run_eq (table : Table) (executor : Executor State Result) (state : State) (call : Call) :
    call.run table executor state =
      match call.build table with
      | .error e => (.error e, state)
      | .ok statement => executor.serve ⟨call.method, statement⟩ state := by
  -- each call hands over what it builds, and handing over is by cases on that
  cases call with
  | find conditions options =>
      rw [run, Table.find, build]
      cases table.select conditions options with
      | error e => rfl
      | ok statement => rfl
  | count conditions =>
      rw [run, Table.runCount, build]
      cases table.count conditions with
      | error e => rfl
      | ok statement => rfl
  | insert row =>
      rw [run, Table.runInsert, build]
      cases table.insert row with
      | error e => rfl
      | ok statement => rfl
  | update conditions row =>
      rw [run, Table.runUpdate, build]
      cases table.update conditions row with
      | error e => rfl
      | ok statement => rfl
  | delete conditions =>
      rw [run, Table.runDelete, build]
      cases table.delete conditions with
      | error e => rfl
      | ok statement => rfl

/-- A call whose statement cannot be built leaves the executor alone. -/
theorem run_of_error {table : Table} {call : Call} {e : Error} (h : call.build table = .error e)
    (executor : Executor State Result) (state : State) :
    call.run table executor state = (.error e, state) := by
  rw [run_eq, h]

/-- The record grows by the request of the call, if it has one. -/
theorem run_recording (table : Table) (executor : Executor State Result) (state : State)
    (log : List Request) (call : Call) :
    call.run table executor.recording (state, log) =
      ((call.run table executor state).1, (call.run table executor state).2,
        log ++ (call.request? table).toList) := by
  rw [run_eq, run_eq, request?]
  cases call.build table with
  | error e => simp
  | ok statement => exact executor.serve_recording _ state log

/-- The statement of a call fails early. -/
theorem failsEarly_build (table : Table) (call : Call) : FailsEarly (call.build table) := by
  cases call with
  | find conditions options => exact table.failsEarly_select conditions options
  | count conditions => exact table.failsEarly_count conditions
  | insert row => exact table.failsEarly_insert row
  | update conditions row => exact table.failsEarly_update conditions row
  | delete conditions => exact table.failsEarly_delete conditions

/-! ### Sequences of calls -/

/-- Makes calls one after the other, whatever becomes of them. -/
def runAll (table : Table) (executor : Executor State Result) :
    List Call → State → List (Except Error (Answer Result)) × State
  | [], state => ([], state)
  | call :: calls, state =>
      let first := call.run table executor state
      let others := runAll table executor calls first.2
      (first.1 :: others.1, others.2)

/-- A sequence of calls leaves in the record the requests of the calls that have one, in order, and
else goes as it does without a record. -/
theorem runAll_recording (table : Table) (executor : Executor State Result) (calls : List Call)
    (state : State) (log : List Request) :
    runAll table executor.recording calls (state, log) =
      ((runAll table executor calls state).1, (runAll table executor calls state).2,
        log ++ calls.filterMap (request? table)) := by
  induction calls generalizing state log with
  | nil => simp [runAll]
  | cons call calls ih =>
      have hlog : (call.request? table).toList ++ calls.filterMap (request? table) =
          (call :: calls).filterMap (request? table) := by
        cases h : call.request? table with
        | none => simp [h]
        | some request => simp [h]
      rw [runAll, run_recording]
      simp only [ih, List.append_assoc, hlog]
      rfl

/-- **An executor receives what can be built, and nothing else**: one request for each call whose
statement can be built, in order, with that statement.  A call whose statement cannot be built comes
back with its error and leaves the executor as it was; the error is a compile error, and nothing to
try again, and so is that of several rows to insert.  No fault of the database is taken for one. -/
theorem received_runAll (table : Table) (executor : Executor State Result) (calls : List Call)
    (state : State) :
    runAll table executor.recording calls (state, []) =
        ((runAll table executor calls state).1, (runAll table executor calls state).2,
          calls.filterMap (request? table)) ∧
      (∀ call e, build table call = .error e →
        call.run table executor state = (.error e, state) ∧
          e.isCompileError = true ∧ e.isRetryable = false) ∧
      (∀ rows e, table.insertMany rows = .error e →
        e.isCompileError = true ∧ e.isRetryable = false) ∧
      ∀ fault : Fault, fault.toError.isCompileError = false := by
  refine ⟨runAll_recording table executor calls state [], fun call e he => ?_, fun rows e he => ?_,
    Fault.isCompileError_toError⟩
  · have hcompile := failsEarly_build table call e he
    exact ⟨run_of_error he executor state, hcompile, Error.isRetryable_eq_false hcompile⟩
  · have hcompile := table.failsEarly_insertMany rows e he
    exact ⟨hcompile, Error.isRetryable_eq_false hcompile⟩

/-- Members, with the time at which they joined. -/
def memberTable : Table := ⟨"members", .ofList [("joined", .time)], .strict⟩

/-- A condition that is no time, a new member, and a condition without a value. -/
def memberCalls : List Call :=
  [.count [("joined >", .value (.text "soon"))], .insert [("name", .text "Ann")],
    .delete [("id", .undefined)]]

/-- Of three calls, of which one can be built, one reaches the executor. -/
theorem received_runAll_members :
    (runAll memberTable ({} : Canned Row).executor.recording memberCalls ((), [])).2.2 =
        [⟨.fetchAll, ⟨"INSERT INTO \"members\" (\"name\") VALUES ($1) RETURNING *",
          [.text "Ann"]⟩⟩] ∧
      (build memberTable (.delete [("id", .undefined)]) = .error (.undefinedValue "id") ∧
        (Error.undefinedValue "id").isCompileError = true) ∧
      memberTable.insertMany [[]] = .error (.query "Cannot insert with no rows") ∧
        (Error.query "Cannot insert with no rows").isRetryable = false := by
  obtain ⟨hrecord, hcalls, hrows, -⟩ :=
    received_runAll memberTable ({} : Canned Row).executor memberCalls ()
  have hbuild : build memberTable (.delete [("id", .undefined)]) =
      .error (.undefinedValue "id") := rfl
  have hmany : memberTable.insertMany [[]] = .error (.query "Cannot insert with no rows") := rfl
  refine ⟨?_, ⟨hbuild, (hcalls _ _ hbuild).2.1⟩, hmany, (hrows _ _ hmany).2⟩
  have hcount : request? memberTable (.count [("joined >", .value (.text "soon"))]) = none :=
    Option.isNone_iff_eq_none.1 (by decide +kernel)
  have hdelete : request? memberTable (.delete [("id", .undefined)]) = none := rfl
  have hinsert : request? memberTable (.insert [("name", .text "Ann")]) =
      some ⟨.fetchAll, ⟨"INSERT INTO \"members\" (\"name\") VALUES ($1) RETURNING *",
        [.text "Ann"]⟩⟩ := rfl
  rw [hrecord, memberCalls, List.filterMap_cons_none hcount, List.filterMap_cons_some hinsert,
    List.filterMap_cons_none hdelete, List.filterMap_nil]

end Call

end SqlFilter

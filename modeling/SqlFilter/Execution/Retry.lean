/-
**Sending statements again.**

A statement that failed for a reason that may pass is sent again, after a pause that grows from one
attempt to the next up to a bound.  Any other failure, and a success, end the run.

Main definitions:

* `SqlFilter.RetryPolicy`: how often and after which pauses;
* `SqlFilter.RetryPolicy.delay`: the pause behind an attempt;
* `SqlFilter.Event`: what is reported of a run;
* `SqlFilter.RetryPolicy.run`: a run with its report.

Main results:

* `SqlFilter.RetryPolicy.delay_le`: no pause is longer than the bound.
-/

import SqlFilter.Error
import SqlFilter.Number.Arithmetic

set_option relaxedAutoImplicit false
set_option autoImplicit false

namespace SqlFilter

open SqlFilter.Number (Binary64)

/-- How often a statement is sent again, and after which pauses; times are in milliseconds. -/
structure RetryPolicy where
  maxRetries : Nat := 3
  initialDelay : Nat := 50
  maxDelay : Nat := 2000
  /-- The factor by which the pause grows. -/
  backoff : Binary64 := .ofInt 2
  /-- From this time on a statement counts as slow. -/
  slowThreshold : Nat := 1000
  deriving Repr, DecidableEq

/-- What is reported of a run.  Attempts are counted from zero; of a statement only its start is
shown. -/
inductive Event where
  | failed (attempt : Nat) (error : Error) (sql : String)
  | delay (millis : Nat)
  | completed (attempt : Nat) (sql : String)
  | slow (attempt threshold : Nat) (sql : String)
  | executed (affected : Nat)
  deriving Repr, DecidableEq

/-- The start of a text. -/
def preview (most : Nat) (text : String) : String := String.ofList (text.toList.take most)

namespace RetryPolicy

/-- Nothing is sent again. -/
def noRetry : RetryPolicy := { maxRetries := 0 }

/-- The pause behind an attempt.  The number of the attempt is the exponent of the factor, read as a
signed word of 32 bits. -/
def delay (policy : RetryPolicy) (attempt : Nat) : Nat :=
  let growth := policy.backoff.integerPower (Int32.ofNat attempt).toInt
  min ((Binary64.ofInt policy.initialDelay).mul growth).toUInt64 policy.maxDelay

/-- No pause is longer than the bound. -/
theorem delay_le (policy : RetryPolicy) (attempt : Nat) :
    policy.delay attempt ≤ policy.maxDelay := Nat.min_le_right _ _

/-- The report of a success that took some milliseconds. -/
def completion (policy : RetryPolicy) (sql : String) (attempt elapsed : Nat) : Event :=
  if policy.slowThreshold ≤ elapsed then .slow attempt policy.slowThreshold (preview 100 sql)
  else .completed attempt (preview 100 sql)

/-- A run: its result, its report, and the state it leaves. -/
structure Outcome (State α : Type) where
  result : Except Error α
  events : List Event
  state : State

/-- Puts events in front of a report. -/
def Outcome.behind {State α : Type} (events : List Event) (outcome : Outcome State α) :
    Outcome State α :=
  { outcome with events := events ++ outcome.events }

/-- Continues a run with an attempt that may be repeated `left` times.  `send` is one attempt;
`elapsed` is how long each attempt takes. -/
def runFrom {State α : Type} (policy : RetryPolicy) (sql : String) (elapsed : Nat)
    (send : State → Except Error α × State) (attempt left : Nat) (state : State) :
    Outcome State α :=
  match send state with
  | (.ok result, after) => ⟨.ok result, [policy.completion sql attempt elapsed], after⟩
  | (.error e, after) =>
      let failure := Event.failed attempt e (preview 50 sql)
      if e.isRetryable then
        match left with
        | 0 => ⟨.error e, [failure], after⟩
        | left + 1 =>
            (policy.runFrom sql elapsed send (attempt + 1) left after).behind
              [failure, .delay (policy.delay attempt)]
      else ⟨.error e, [failure], after⟩
termination_by structural left

/-- Runs a statement. -/
def run {State α : Type} (policy : RetryPolicy) (sql : String) (elapsed : Nat)
    (send : State → Except Error α × State) (state : State) : Outcome State α :=
  policy.runFrom sql elapsed send 0 policy.maxRetries state

end RetryPolicy

end SqlFilter

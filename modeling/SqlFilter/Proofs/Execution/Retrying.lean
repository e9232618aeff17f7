/-
**Runs with retries.**

A run is decided by its script, the outcomes that its attempts would have one after the other.  It
ends with the first attempt that succeeds, or fails for good, or is the last one that the policy
allows; its result is the outcome of that attempt, and it pauses behind every attempt before.  So a
statement goes out again only behind a failure that may pass, and of the faults of the database only
those of a full pool, a rolled-back transaction and a server that goes down are such failures.

Main definitions:

* `SqlFilter.Fault.Passes`: the faults that may pass;
* `SqlFilter.RetryPolicy.follow`: attempts that meet a script;
* `SqlFilter.RetryPolicy.Ends`: a run ends with an attempt;
* `SqlFilter.RetryPolicy.Outcome.pauses`: the pauses of a run.

Main results:

* `SqlFilter.Fault.isRetryable_toError_iff`: the faults that may pass are the retryable errors;
* `SqlFilter.RetryPolicy.run_eq`: every run is one along the script of its attempts;
* `SqlFilter.RetryPolicy.resume_of_ends`, `SqlFilter.RetryPolicy.resume_of_not_ends`: one attempt of
  a run;
* `SqlFilter.RetryPolicy.run_stops`: **a run stops at the first attempt that ends it**, and only
  failures that may pass are behind an attempt that is made again.
-/

import Mathlib.Data.Nat.Find
import Mathlib.Order.Bounds.Basic
import SqlFilter.Execution.Attempt

set_option relaxedAutoImplicit false
set_option autoImplicit false

namespace SqlFilter

/-! ### Failures that may pass -/

theorem Error.isRetryable_iff {e : Error} :
    e.isRetryable = true ↔ (∃ detail, e = .timeout detail) ∨ ∃ detail, e = .transient detail := by
  cases e <;> simp [isRetryable]

namespace Fault

/-- The faults that may pass: no connection was free in time, or the server rolled a transaction
back, or it goes down or is not up yet. -/
inductive Passes : Fault → Prop
  | pool : Passes .poolTimedOut
  | rollback {code detail : String} : "40".toList <+: code.toList →
      Passes (.server (some code) detail)
  | shutdown {code detail : String} : code = "57P01" ∨ code = "57P02" ∨ code = "57P03" →
      Passes (.server (some code) detail)

theorem classOf_eq_transient_iff {code : String} :
    classOf code = .transient ↔
      "40".toList <+: code.toList ∨ code = "57P01" ∨ code = "57P02" ∨ code = "57P03" := by
  constructor
  · intro h
    rw [classOf] at h
    split at h
    · cases h
    · split at h
      · next hclass => exact .inl (List.isPrefixOf_iff_prefix.1 hclass)
      · split at h
        · cases h
        · split at h
          · next hshutdown => exact .inr (by simpa [shutdownCodes] using hshutdown)
          · cases h
  · rintro (hclass | rfl | rfl | rfl)
    · -- constraints are asked for before the class, but none of their codes is of it
      have hconflict : code ∉ conflictCodes := by
        intro hmem
        rw [conflictCodes, List.mem_cons, List.mem_singleton] at hmem
        rcases hmem with rfl | rfl
        · exact absurd hclass (by decide)
        · exact absurd hclass (by decide)
      have hrollback : hasClass "40" code = true := List.isPrefixOf_iff_prefix.2 hclass
      rw [classOf, if_neg hconflict, if_pos hrollback]
    · decide
    · decide
    · decide

theorem isRetryable_ofClass {detail : String} {c : CodeClass} :
    (ofClass detail c).isRetryable = true ↔ c = .transient := by
  cases c <;> simp [ofClass, Error.isRetryable]

/-- The faults that may pass are those that are retryable errors. -/
theorem isRetryable_toError_iff {fault : Fault} :
    fault.toError.isRetryable = true ↔ fault.Passes := by
  constructor
  · intro h
    match fault with
    | .poolTimedOut => exact .pool
    | .server (some code) detail =>
        rcases classOf_eq_transient_iff.1 (isRetryable_ofClass.1 h) with hclass | hshutdown
        · exact .rollback hclass
        · exact .shutdown hshutdown
  · rintro (_ | hclass | hshutdown)
    · rfl
    · exact isRetryable_ofClass.2 (classOf_eq_transient_iff.2 (.inl hclass))
    · exact isRetryable_ofClass.2 (classOf_eq_transient_iff.2 (.inr hshutdown))

end Fault

/-- An attempt fails for a reason that may pass only when its parameters were bound and the database
answered with a fault that may pass. -/
theorem passes_of_attempt {α : Type} {refusal : Value → Option String} {params : List Value}
    {reply : Except Fault α} {e : Error} (h : attempt refusal params reply = .error e)
    (he : e.isRetryable = true) :
    (∃ arguments, Value.bindAll? refusal params = .ok arguments) ∧
      ∃ fault, reply = .error fault ∧ fault.Passes := by
  rcases attempt_eq_error_iff.1 h with hbind | ⟨hbind, fault, hreply, rfl⟩
  · -- a failure to bind is there to stay
    obtain ⟨detail, rfl⟩ := Value.query_of_bindAll? hbind
    cases he
  · exact ⟨hbind, fault, hreply, Fault.isRetryable_toError_iff.1 he⟩

/-! ### Scripts -/

/-- The pause that an event reports. -/
def Event.pause? : Event → Option Nat
  | .delay millis => some millis
  | _ => none

namespace RetryPolicy

variable {State α : Type}

/-- The pauses of a run, in order. -/
def Outcome.pauses (outcome : Outcome State α) : List Nat := outcome.events.filterMap Event.pause?

/-- Attempts that have the outcomes of a script.  The state is how many of them were made. -/
def follow (script : ℕ → Except Error α) (made : ℕ) : Except Error α × ℕ :=
  (script made, made + 1)

/-- The state behind a number of attempts. -/
def after (send : State → Except Error α × State) (state : State) (made : ℕ) : State :=
  (fun s => (send s).2)^[made] state

/-- The script of the outcomes that attempts would have, one after the other. -/
def scriptOf (send : State → Except Error α × State) (state : State) (made : ℕ) :
    Except Error α := (send (after send state made)).1

variable (policy : RetryPolicy) (sql : String) (elapsed : ℕ)

theorem send_after (send : State → Except Error α × State) (state : State) (made : ℕ) :
    send (after send state made) = (scriptOf send state made, after send state (made + 1)) := by
  rw [after, after, Function.iterate_succ_apply']
  rfl

/-- Every run is one along a script, with the state that the number of attempts leads to. -/
theorem runFrom_after (send : State → Except Error α × State) (state : State)
    (attempt left made : ℕ) :
    policy.runFrom sql elapsed send attempt left (after send state made) =
      let outcome := policy.runFrom sql elapsed (follow (scriptOf send state)) attempt left made
      ⟨outcome.result, outcome.events, after send state outcome.state⟩ := by
  -- the state of the run is always the one behind the attempts made so far
  induction left generalizing attempt made with
  | zero =>
      rw [runFrom, runFrom, send_after send, follow]
      cases scriptOf send state made with
      | ok a => rfl
      | error e => cases h : e.isRetryable <;> simp [h]
  | succ left ih =>
      rw [runFrom, runFrom, send_after send, follow]
      cases scriptOf send state made with
      | ok a => rfl
      | error e => cases h : e.isRetryable <;> simp [h, ih, Outcome.behind]

/-- Every run is one along the script of its attempts. -/
theorem run_eq (send : State → Except Error α × State) (state : State) :
    policy.run sql elapsed send state =
      let outcome := policy.run sql elapsed (follow (scriptOf send state)) 0
      ⟨outcome.result, outcome.events, after send state outcome.state⟩ :=
  runFrom_after policy sql elapsed send state 0 policy.maxRetries 0

/-! ### One attempt -/

/-- A run ends with an attempt that succeeds or fails for good, and with the last attempt. -/
def Ends (script : ℕ → Except Error α) (n : ℕ) : Prop :=
  (∃ a, script n = .ok a) ∨ (∃ e, script n = .error e ∧ e.isRetryable = false) ∨
    n = policy.maxRetries

/-- The run from an attempt on. -/
def resume (script : ℕ → Except Error α) (attempt : ℕ) : Outcome ℕ α :=
  policy.runFrom sql elapsed (follow script) attempt (policy.maxRetries - attempt) attempt

variable {policy sql elapsed} {script : ℕ → Except Error α} {attempt n : ℕ}

/-- Behind an attempt that does not end the run comes another, and the failure may pass. -/
theorem exists_retryable_of_not_ends (h : ¬ policy.Ends script attempt) :
    ∃ e, script attempt = .error e ∧ e.isRetryable = true := by
  cases hscript : script attempt with
  | ok a => exact absurd (.inl ⟨a, hscript⟩) h
  | error e =>
      refine ⟨e, rfl, ?_⟩
      by_contra hfinal
      exact h (.inr (.inl ⟨e, hscript, Bool.eq_false_iff.2 hfinal⟩))

/-- Only the last attempt that is allowed ends a run with a failure that may pass. -/
theorem Ends.eq_maxRetries (h : policy.Ends script attempt) {e : Error}
    (hscript : script attempt = .error e) (hretryable : e.isRetryable = true) :
    attempt = policy.maxRetries := by
  rcases h with ⟨a, ha⟩ | ⟨e', he, hfinal⟩ | hlast
  · rw [hscript] at ha
    cases ha
  · rw [hscript] at he
    cases he
    rw [hretryable] at hfinal
    cases hfinal
  · exact hlast

variable (sql elapsed)

theorem pause?_completion : (policy.completion sql attempt elapsed).pause? = none := by
  rw [completion]
  split <;> rfl

/-- An attempt that ends the run is its only one. -/
theorem resume_of_ends (h : policy.Ends script attempt) :
    ∃ event, Event.pause? event = none ∧
      policy.resume sql elapsed script attempt = ⟨script attempt, [event], attempt + 1⟩ := by
  rw [resume, runFrom]
  simp only [follow]
  cases hscript : script attempt with
  | ok a => exact ⟨_, pause?_completion sql elapsed, rfl⟩
  | error e =>
      refine ⟨.failed attempt e (preview 50 sql), rfl, ?_⟩
      simp only []
      split
      · next hretryable => rw [h.eq_maxRetries hscript hretryable, Nat.sub_self]
      · rfl

/-- Any other attempt is followed by a pause and by the run from the next attempt on. -/
theorem resume_of_not_ends (h : ¬ policy.Ends script attempt) (hlt : attempt < policy.maxRetries) :
    ∃ e, policy.resume sql elapsed script attempt =
      (policy.resume sql elapsed script (attempt + 1)).behind
        [.failed attempt e (preview 50 sql), .delay (policy.delay attempt)] := by
  obtain ⟨e, hscript, hretryable⟩ := exists_retryable_of_not_ends h
  have hleft : policy.maxRetries - attempt = policy.maxRetries - (attempt + 1) + 1 := by omega
  refine ⟨e, ?_⟩
  rw [resume, hleft, runFrom]
  simp only [follow, hscript, hretryable, if_true]
  rfl

/-! ### Whole runs -/

/-- A run from an attempt on goes on to a later one: that one is its last, its outcome is the
result, and behind each attempt before it there is the pause of that attempt. -/
structure GoesOnTo (policy : RetryPolicy) (script : ℕ → Except Error α) (attempt n : ℕ)
    (outcome : Outcome ℕ α) : Prop where
  made : outcome.state = n + 1
  result : outcome.result = script n
  pauses : outcome.pauses = (List.range' attempt (n - attempt)).map policy.delay

theorem goesOnTo_self (h : policy.Ends script n) :
    policy.GoesOnTo script n n (policy.resume sql elapsed script n) := by
  obtain ⟨event, hevent, hresume⟩ := resume_of_ends sql elapsed h
  rw [hresume]
  refine ⟨rfl, rfl, ?_⟩
  rw [Nat.sub_self, Outcome.pauses, List.filterMap_cons_none hevent]
  rfl

theorem GoesOnTo.of_succ (hnext : policy.GoesOnTo script (attempt + 1) n
      (policy.resume sql elapsed script (attempt + 1)))
    (h : ¬ policy.Ends script attempt) (hlt : attempt < n) (hn : n ≤ policy.maxRetries) :
    policy.GoesOnTo script attempt n (policy.resume sql elapsed script attempt) := by
  obtain ⟨e, hresume⟩ := resume_of_not_ends sql elapsed h (hlt.trans_le hn)
  have hleft : n - attempt = n - (attempt + 1) + 1 := by omega
  rw [hresume]
  refine ⟨hnext.made, hnext.result, ?_⟩
  rw [hleft, List.range'_succ, List.map_cons, ← hnext.pauses]
  rfl

/-- From any attempt before the first one that ends it, a run goes on to that one. -/
theorem goesOnTo_of_isLeast (hn : IsLeast {i | policy.Ends script i} n) (hle : attempt ≤ n) :
    policy.GoesOnTo script attempt n (policy.resume sql elapsed script attempt) := by
  have hmax : n ≤ policy.maxRetries := hn.2 (.inr (.inr rfl))
  -- downward from the last attempt: each one puts its pause in front of those behind it
  induction hle using Nat.decreasingInduction with
  | self => exact goesOnTo_self sql elapsed hn.1
  | of_succ k hk ih =>
      have hends : ¬ policy.Ends script k := fun h => absurd (hn.2 h) (Nat.not_le.2 hk)
      exact ih.of_succ sql elapsed hends hk hmax

theorem exists_isLeast_ends (policy : RetryPolicy) (script : ℕ → Except Error α) :
    ∃ n, IsLeast {i | policy.Ends script i} n := by
  classical
  have h : ∃ i, policy.Ends script i := ⟨policy.maxRetries, .inr (.inr rfl)⟩
  exact ⟨Nat.find h, Nat.find_spec h, fun i hi => Nat.find_min' h hi⟩

/-- A run along a script makes its attempts up to the first one that ends it. -/
theorem exists_goesOnTo_run (policy : RetryPolicy) (script : ℕ → Except Error α) :
    ∃ n, IsLeast {i | policy.Ends script i} n ∧
      policy.GoesOnTo script 0 n (policy.run sql elapsed (follow script) 0) := by
  obtain ⟨n, hn⟩ := exists_isLeast_ends policy script
  exact ⟨n, hn, goesOnTo_of_isLeast sql elapsed hn n.zero_le⟩

/-- Behind an attempt that is made again there is a failure that may pass. -/
theorem retryable_of_lt_state (policy : RetryPolicy) (script : ℕ → Except Error α)
    (h : attempt + 1 < (policy.run sql elapsed (follow script) 0).state) :
    ∃ e, script attempt = .error e ∧ e.isRetryable = true := by
  obtain ⟨n, hn, hrun⟩ := exists_goesOnTo_run sql elapsed policy script
  rw [hrun.made] at h
  exact exists_retryable_of_not_ends fun hends => absurd (hn.2 hends) (by omega)

/-- A scripted server, too, is sent a statement again only behind a fault that may pass. -/
theorem passes_of_lt_state_server (policy : RetryPolicy) (read : Step → Except Fault α)
    (server : Server) (h : attempt + 1 <
      (policy.run sql elapsed (follow (scriptOf (Server.attempt read) server)) 0).state) :
    ∃ fault, (after (Server.attempt read) server attempt).outcome read = .error fault ∧
      fault.Passes := by
  obtain ⟨e, he, hretryable⟩ := retryable_of_lt_state sql elapsed policy _ h
  -- a scripted server binds nothing, so any parameters will do
  rw [scriptOf, Server.attempt_eq read _ []] at he
  dsimp only at he
  exact (passes_of_attempt he hretryable).2

/-- **A run stops at the first attempt that ends it**: at a success, at a failure for good, or at
the last attempt that is allowed.  Its result is the outcome of that attempt, and it makes the pause
of each attempt before it.  A statement goes out again only when its parameters were bound and the
database answered with a fault that may pass. -/
theorem run_stops (policy : RetryPolicy) (script : ℕ → Except Error α)
    (refusal : ℕ → Value → Option String) (params : List Value) (replies : ℕ → Except Fault α) :
    (∃ n, IsLeast {i | policy.Ends script i} n ∧
      (policy.run sql elapsed (follow script) 0).state = n + 1 ∧
      (policy.run sql elapsed (follow script) 0).result = script n ∧
      (policy.run sql elapsed (follow script) 0).pauses = (List.range n).map policy.delay) ∧
    (∀ i, policy.delay i ≤ policy.maxDelay) ∧
    ∀ i, i + 1 < (policy.run sql elapsed
        (follow fun i => SqlFilter.attempt (refusal i) params (replies i)) 0).state →
      (∃ arguments, Value.bindAll? (refusal i) params = .ok arguments) ∧
        ∃ fault, replies i = .error fault ∧ fault.Passes ∧
          ((∃ detail, fault.toError = .timeout detail) ∨
            ∃ detail, fault.toError = .transient detail) := by
  refine ⟨?_, policy.delay_le, fun i hi => ?_⟩
  · obtain ⟨n, hn, hrun⟩ := exists_goesOnTo_run sql elapsed policy script
    refine ⟨n, hn, hrun.made, hrun.result, ?_⟩
    rw [hrun.pauses, Nat.sub_zero, List.range_eq_range']
  · obtain ⟨e, he, hretryable⟩ := retryable_of_lt_state sql elapsed policy _ hi
    obtain ⟨hbound, fault, hreply, hpasses⟩ := passes_of_attempt he hretryable
    have hclass := Error.isRetryable_iff.1 (Fault.isRetryable_toError_iff.2 hpasses)
    exact ⟨hbound, fault, hreply, hpasses, hclass⟩

/-- Answers of a database whose pool is full at first, which then rolls the transaction back, and
then changes seven rows. -/
def hesitantReplies : ℕ → Except Fault ℕ
  | 0 => .error .poolTimedOut
  | 1 => .error (.server (some "40001") "could not serialize access")
  | _ => .ok 7

/-- The outcomes of attempts at such a database with one parameter. -/
def hesitantScript (i : ℕ) : Except Error ℕ :=
  SqlFilter.attempt (fun _ => none) [.int 1] (hesitantReplies i)

/-- The default policy makes three attempts at such a database. -/
theorem run_stops_hesitant :
    (IsLeast {i | Ends {} hesitantScript i} 2 ∧
      (run {} "DELETE" 5 (follow hesitantScript) 0).result = .ok 7 ∧
      (run {} "DELETE" 5 (follow hesitantScript) 0).pauses = [delay {} 0, delay {} 1]) ∧
    1 + 1 < (run {} "DELETE" 5 (follow hesitantScript) 0).state ∧
      ∃ fault, hesitantReplies 1 = .error fault ∧ fault.Passes ∧
        ((∃ detail, fault.toError = .timeout detail) ∨
          ∃ detail, fault.toError = .transient detail) := by
  have hstate : (run {} "DELETE" 5 (follow hesitantScript) 0).state = 3 := by decide
  have hstops :=
    run_stops "DELETE" 5 {} hesitantScript (fun _ _ => none) [.int 1] hesitantReplies
  have hagain : 1 + 1 < (run {} "DELETE" 5 (follow hesitantScript) 0).state := by
    rw [hstate]
    decide
  obtain ⟨n, hleast, hmade, hresult, hpauses⟩ := hstops.1
  obtain rfl : n = 2 := by omega
  exact ⟨⟨hleast, hresult, hpauses⟩, hagain, (hstops.2.2 1 hagain).2⟩

end RetryPolicy

end SqlFilter

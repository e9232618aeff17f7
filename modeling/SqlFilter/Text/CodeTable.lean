/-
**Tables over code points.**

The tables of the Unicode standard assign values to code points, and neighbouring code points
mostly carry neighbouring values.  A table is therefore a sorted sequence of *spans*; it is written
down as rows of text and looked up by halving.

An entry reads `41-5A 61`: the code points from 41 to 5A, of which the first has the value 61.  In
a table that maps code points to code points the next has 62, and so on; in a table of classes all
have 61.  `41-5A/2 61` takes every second code point of the span.  A single code point may carry
several values (`FB03 66 66 69`), and a table of a plain property carries none.

Main definitions:

* `SqlFilter.Text.Span`: one entry;
* `SqlFilter.Text.CodeTable`: a sorted table of them;
* `SqlFilter.Text.CodeTable.ofRows`: reading a table;
* `SqlFilter.Text.CodeTable.spanOf?`: the entry of a code point;
* `SqlFilter.Text.CodeTable.find?`: the values of a code point.
-/

import SqlFilter.Text.Hex
import SqlFilter.Text.Pieces

set_option relaxedAutoImplicit false
set_option autoImplicit false

namespace SqlFilter.Text

/-! ### Spans -/

/-- The code points `first`, `first + step`, … up to `last`, and the values of the first of them. -/
structure Span where
  first : Nat
  last : Nat
  step : Nat
  image : List Nat

/-- Whether the code point is one of the span. -/
def Span.covers (s : Span) (n : Nat) : Bool :=
  s.first ≤ n && n ≤ s.last && (n - s.first) % s.step == 0

/-- The values that a span gives to a code point of its own: a single value moves along. -/
def Span.imageAt (s : Span) (n : Nat) : List Nat :=
  match s.image with
  | [v] => [v + (n - s.first)]
  | vs => vs

/-- Reads `first-last/step`, of which only the first number has to be there. -/
def Span.ofBounds? (cs : List Char) : Option (Nat × Nat × Nat) := do
  let (bounds, step) ←
    match splitOn '/' cs with
    | [b] => some (b, 1)
    | [b, s] => (hexNumber? s).map fun k => (b, k)
    | _ => none
  match splitOn '-' bounds with
  | [a] => (hexNumber? a).map fun n => (n, n, step)
  | [a, b] =>
      match hexNumber? a, hexNumber? b with
      | some n, some m => some (n, m, step)
      | _, _ => none
  | _ => none

/-- Reads one entry of a row. -/
def Span.ofEntry? (cs : List Char) : Option Span :=
  match splitOn ' ' cs with
  | [] => none
  | bounds :: values =>
      match Span.ofBounds? bounds, values.mapM hexNumber? with
      | some (first, last, step), some image => some ⟨first, last, step, image⟩
      | _, _ => none

/-! ### Tables -/

/-- Spans in ascending order, none overlapping another. -/
structure CodeTable where
  spans : Array Span

namespace CodeTable

/-- Reads the rows of a table. -/
def ofRows (rows : List String) : CodeTable :=
  ⟨(rows.flatMap fun row => (splitOn ';' row.toList).filterMap Span.ofEntry?).toArray⟩

/-- The last of the spans from `lo` up to `hi` that starts at `n` or before, by halving. -/
def lastStarting (t : CodeTable) (n lo hi : Nat) : Option Span :=
  if lo + 1 < hi then
    let mid := (lo + hi) / 2
    match t.spans[mid]? with
    | some s => if s.first ≤ n then lastStarting t n mid hi else lastStarting t n lo mid
    | none => none
  else t.spans[lo]?
termination_by hi - lo

/-- The span that has the code point. -/
def spanOf? (t : CodeTable) (n : Nat) : Option Span :=
  (t.lastStarting n 0 t.spans.size).filter fun s => s.covers n

/-- Whether the table has the code point. -/
def contains (t : CodeTable) (n : Nat) : Bool := (t.spanOf? n).isSome

/-- The values of a code point in a table whose values move along with the code points. -/
def find? (t : CodeTable) (n : Nat) : Option (List Nat) := (t.spanOf? n).map fun s => s.imageAt n

end CodeTable

end SqlFilter.Text

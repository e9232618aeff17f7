/-
**Hexadecimal digits.**

One digit at a time, in both directions; identifiers, byte strings, string escapes and the rows of
code tables are all read with them.

Main definitions:

* `SqlFilter.Text.hexValue?`: the value of a digit, in either case;
* `SqlFilter.Text.hexDigit`: the small-letter digit of a value;
* `SqlFilter.Text.hexNumber?`: the number that a non-empty run of digits denotes.

Main results:

* `SqlFilter.Text.hexValue?_hexDigit`: a written digit reads back.
-/

set_option relaxedAutoImplicit false
set_option autoImplicit false

namespace SqlFilter.Text

/-- The value of a hexadecimal digit in either case. -/
def hexValue? (c : Char) : Option Nat :=
  if '0' ≤ c ∧ c ≤ '9' then some (c.toNat - '0'.toNat)
  else if 'a' ≤ c ∧ c ≤ 'f' then some (c.toNat - 'a'.toNat + 10)
  else if 'A' ≤ c ∧ c ≤ 'F' then some (c.toNat - 'A'.toNat + 10)
  else none

/-- The small-letter digit of a value below sixteen. -/
def hexDigit (n : Nat) : Char :=
  if n < 10 then Char.ofNat ('0'.toNat + n) else Char.ofNat ('a'.toNat + (n - 10))

/-- A written digit reads back as its value. -/
theorem hexValue?_hexDigit {n : Nat} (h : n < 16) : hexValue? (hexDigit n) = some n := by
  have key : ∀ m : Fin 16, hexValue? (hexDigit m.val) = some m.val := by decide
  exact key ⟨n, h⟩

/-- The number behind a run of digits, most significant first, continued from `n`. -/
def hexFrom? (n : Nat) : List Char → Option Nat
  | [] => some n
  | c :: cs =>
      match hexValue? c with
      | some d => hexFrom? (16 * n + d) cs
      | none => none

/-- The number that a non-empty run of digits denotes. -/
def hexNumber? (cs : List Char) : Option Nat :=
  if cs = [] then none else hexFrom? 0 cs

end SqlFilter.Text

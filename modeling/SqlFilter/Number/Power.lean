/-
**Powers of two and of ten.**

The binary formats scale by powers of two and the decimal ones by powers of ten.

Main definitions:

* `SqlFilter.Number.twoPow`, `SqlFilter.Number.tenPow`: the powers.

Main results:

* `SqlFilter.Number.twoPow_succ`, `SqlFilter.Number.tenPow_succ`: the next power;
* `SqlFilter.Number.twoPow_add`, `SqlFilter.Number.tenPow_add`: the power with a sum as exponent;
* `SqlFilter.Number.twoPow_pos`, `SqlFilter.Number.tenPow_pos`: no power is zero.
-/

set_option relaxedAutoImplicit false
set_option autoImplicit false

namespace SqlFilter.Number

/-- The power of two with an exponent. -/
def twoPow (n : Nat) : Nat := Nat.pow 2 n

/-- The power of ten with an exponent. -/
def tenPow (n : Nat) : Nat := Nat.pow 10 n

@[simp] theorem tenPow_zero : tenPow 0 = 1 := rfl

/-- The next power of two is twice as large. -/
theorem twoPow_succ (n : Nat) : twoPow (n + 1) = 2 * twoPow n := by
  rw [twoPow, twoPow, Nat.mul_comm]
  rfl

/-- The next power of ten is ten times as large. -/
theorem tenPow_succ (n : Nat) : tenPow (n + 1) = 10 * tenPow n := by
  rw [tenPow, tenPow, Nat.mul_comm]
  rfl

/-- The power with a sum as exponent is the product of the powers. -/
theorem twoPow_add (m n : Nat) : twoPow (m + n) = twoPow m * twoPow n := Nat.pow_add 2 m n

theorem tenPow_add (m n : Nat) : tenPow (m + n) = tenPow m * tenPow n := Nat.pow_add 10 m n

/-- No power of two is zero. -/
theorem twoPow_pos (n : Nat) : 0 < twoPow n := Nat.pow_pos (by decide)

/-- No power of ten is zero. -/
theorem tenPow_pos (n : Nat) : 0 < tenPow n := Nat.pow_pos (by decide)

end SqlFilter.Number

import Mathlib.Algebra.Order.Ring.Nat
import Mathlib.Tactic.Ring

/-!
# Natural numbers in a binary float format

A natural number is rounded to the nearest one with a significand of `precision`
bits, to an even significand when there are two.
-/

namespace RmttGo

namespace FloatRounding

def spacing (precision n : Nat) : Nat :=
  2 ^ (n.log2 + 1 - precision)

def nearest (precision n : Nat) : Nat :=
  let unit := spacing precision n
  let below := n / unit
  if 2 * (n % unit) < unit ∨ 2 * (n % unit) = unit ∧ below % 2 = 0 then
    below * unit
  else
    (below + 1) * unit

variable {precision n : Nat}

theorem spacing_pos : 0 < spacing precision n :=
  Nat.two_pow_pos _

theorem nearest_of_lt (small : n < 2 ^ precision) : nearest precision n = n := by
  by_cases zero : n = 0
  · simp [nearest, zero, spacing_pos]
  · have log := (Nat.log2_lt zero).mpr small
    have unit : spacing precision n = 1 := by
      rw [spacing, show n.log2 + 1 - precision = 0 by omega, pow_zero]
    simp [nearest, unit, Nat.mod_one]

theorem two_mul_le_nearest :
    2 * n ≤ 2 * nearest precision n + spacing precision n := by
  have parts := Nat.div_add_mod n (spacing precision n)
  have remainder := Nat.mod_lt n (@spacing_pos precision n)
  rw [mul_comm] at parts
  unfold nearest
  simp only
  split_ifs
  · omega
  · rw [add_mul]
    omega

theorem spacing_le (large : 2 ^ precision ≤ n) :
    spacing precision n * 2 ^ precision ≤ 2 * n := by
  have nonzero : n ≠ 0 := by
    have := Nat.two_pow_pos precision
    omega
  have log : precision ≤ n.log2 := (Nat.le_log2 nonzero).mpr large
  calc spacing precision n * 2 ^ precision = 2 ^ (n.log2 + 1) := by
        rw [spacing, ← pow_add]
        congr 1
        omega
    _ = 2 * 2 ^ n.log2 := by ring
    _ ≤ 2 * n := Nat.mul_le_mul_left 2 (Nat.log2_self_le nonzero)

/-- The relative error is at most half of the last bit of the significand. -/
theorem le_nearest :
    2 ^ precision * n ≤ 2 ^ precision * nearest precision n + n := by
  rcases Nat.lt_or_ge n (2 ^ precision) with small | large
  · rw [nearest_of_lt small]
    omega
  · have error := Nat.mul_le_mul_left (2 ^ precision)
      (@two_mul_le_nearest precision n)
    have spaced := spacing_le large
    rw [mul_add, mul_left_comm, mul_left_comm (2 ^ precision) 2,
      mul_comm (2 ^ precision) (spacing precision n)] at error
    omega

end FloatRounding

end RmttGo

import Mathlib.Algebra.Order.Ring.Nat
import Mathlib.Tactic.Common

/-!
Natural numbers in a binary floating-point format, given by its precision.

A number goes to the nearest one with that many significant bits, and to the even one of
two that are equally near.
-/

namespace Rounding

/-- The distance of neighbours of precision `p` around `n`. -/
def ulp (p n : Nat) : Nat := 2 ^ (Nat.log2 n + 1 - p)

def toEven (p n : Nat) : Nat :=
  let below := n / ulp p n
  let rest := 2 * (n % ulp p n)
  (if rest < ulp p n ∨ rest = ulp p n ∧ below % 2 = 0 then below else below + 1) * ulp p n

variable {p n k : Nat}

/-- What fits the precision is not changed. -/
theorem toEven_eq (h : n < 2 ^ p) : toEven p n = n := by
  by_cases zero : n = 0
  · have pos : 0 < ulp p 0 := Nat.two_pow_pos _
    subst zero
    simp [toEven, pos]
  · have fits := (Nat.log2_lt zero).mpr h
    have one : ulp p n = 1 := by
      rw [ulp, Nat.sub_eq_zero_of_le fits, Nat.pow_zero]
    simp [toEven, one, Nat.mod_one]

/-- Rounding does not cross a number that fits the precision. -/
theorem le_toEven (hp : 0 < p) (fits : k ≤ 2 ^ p) (h : k ≤ n) : k ≤ toEven p n := by
  by_cases small : n < 2 ^ p
  · rw [toEven_eq small]
    exact h
  · have nonzero : n ≠ 0 := by
      rintro rfl
      exact small (Nat.two_pow_pos p)
    have large : p ≤ Nat.log2 n := (Nat.le_log2 nonzero).mpr (Nat.not_lt.mp small)
    have whole : ulp p n ∣ 2 ^ Nat.log2 n := Nat.pow_dvd_pow 2 (by omega)
    calc k ≤ 2 ^ p := fits
      _ ≤ 2 ^ Nat.log2 n := Nat.pow_le_pow_right (by decide) large
      _ = 2 ^ Nat.log2 n / ulp p n * ulp p n := (Nat.div_mul_cancel whole).symm
      _ ≤ n / ulp p n * ulp p n :=
          Nat.mul_le_mul_right _ (Nat.div_le_div_right (Nat.log2_self_le nonzero))
      _ ≤ toEven p n := by
          unfold toEven
          dsimp only
          apply Nat.mul_le_mul_right
          split <;> omega

end Rounding

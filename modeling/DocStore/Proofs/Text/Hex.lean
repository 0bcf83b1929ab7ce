import DocStore.Text.Hex
import Mathlib.Algebra.Group.Nat.Defs
/-!
Numbers in hexadecimal digits are read back, as far as the digits reach.
-/
namespace DocStore.Hex

theorem value?_digit {n : Nat} (h : n < 16) : value? (digit n) = some n := by
  have hdigits : ∀ k : Fin 16, value? (digit k) = some k.val := by decide
  exact hdigits ⟨n, h⟩

theorem length_fixed (width n : Nat) : (fixed width n).length = width := by
  induction width generalizing n with
  | zero => rfl
  | succ width ih => rw [fixed, List.length_append, ih, List.length_singleton]

theorem number?_fixed (width n : Nat) : number? (fixed width n) = some (n % 16 ^ width) := by
  induction width generalizing n with
  | zero => rw [Nat.pow_zero, Nat.mod_one, fixed, number?, List.foldl_nil]
  | succ width ih =>
    have hlast : n % 16 < 16 := Nat.mod_lt n (by decide)
    rw [number?] at ih
    rw [fixed, number?, List.foldl_append, ih, List.foldl_cons, List.foldl_nil,
      value?_digit hlast]
    have hpow : n % 16 ^ (width + 1) = n % 16 + 16 * (n / 16 % 16 ^ width) := by
      rw [Nat.pow_succ', Nat.mod_mul]
    rw [hpow, Nat.add_comm]
    rfl

end DocStore.Hex

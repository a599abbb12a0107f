import Mathlib.Algebra.Order.Field.Rat
import Mathlib.Algebra.GroupWithZero.Units.Basic
import Mathlib.Algebra.Order.GroupWithZero.Unbundled
import Mathlib.Tactic.Ring
import Mathlib.Algebra.Order.Ring.Cast

/-! Exact decimal arithmetic of `gopkg.in/inf.v0`, the `inf.Dec` values that
resource quantities become with `AsDec`. A value is an unscaled integer with a
scale and denotes `unscaled × 10^(-scale)`; `Add`, `Sub` and `Cmp` first bring
both operands to the greater scale, so no digit is ever rounded away. `val`
reads a decimal as a rational, and each operation is the rational one. -/
namespace ImageScan

/-- `inf.Dec`: the value `unscaled × 10^(-scale)`. -/
structure Dec where
  unscaled : Int
  scale : Int
  deriving DecidableEq, Repr

namespace Dec

/-- The zero value `inf.Dec{}`. -/
def zero : Dec := ⟨0, 0⟩

/-- The integer a decimal is written with at scale `s`; exact when `s` is at
least its own scale, which is the only way `upscale` uses it. -/
def rescale (x : Dec) (s : Int) : Int := x.unscaled * 10 ^ (s - x.scale).toNat

/-- `Dec.Add`: the sum, written at the greater of the two scales. -/
def add (x y : Dec) : Dec :=
  ⟨x.rescale (max x.scale y.scale) + y.rescale (max x.scale y.scale), max x.scale y.scale⟩

/-- `Dec.Sub`: the difference, written at the greater of the two scales. -/
def sub (x y : Dec) : Dec :=
  ⟨x.rescale (max x.scale y.scale) - y.rescale (max x.scale y.scale), max x.scale y.scale⟩

/-- `Dec.Cmp`: `-1`, `0` or `+1` as `x` is below, equal to or above `y`. -/
def cmp (x y : Dec) : Int :=
  let s := max x.scale y.scale
  if x.rescale s < y.rescale s then -1 else if x.rescale s = y.rescale s then 0 else 1

/-- The rational number a decimal denotes. -/
def val (x : Dec) : ℚ := x.unscaled * (10 : ℚ) ^ (-x.scale)

theorem rescale_val (x : Dec) {s : Int} (le : x.scale ≤ s) :
    (x.rescale s : ℚ) * 10 ^ (-s) = x.val := by
  have exponent : (((s - x.scale).toNat : ℤ) : ℤ) + -s = -x.scale := by
    rw [Int.toNat_of_nonneg (by omega)]; ring
  rw [rescale, val, Int.cast_mul, Int.cast_pow, Int.cast_ofNat, mul_assoc, ← zpow_natCast,
    ← zpow_add₀ (by norm_num), exponent]

@[simp] theorem val_zero : zero.val = 0 := by simp [zero, val]

@[simp] theorem val_add (x y : Dec) : (add x y).val = x.val + y.val := by
  rw [← rescale_val x (le_max_left x.scale y.scale), ← rescale_val y (le_max_right x.scale y.scale)]
  simp only [add, val, Int.cast_add, add_mul]

@[simp] theorem val_sub (x y : Dec) : (sub x y).val = x.val - y.val := by
  rw [← rescale_val x (le_max_left x.scale y.scale), ← rescale_val y (le_max_right x.scale y.scale)]
  simp only [sub, val, Int.cast_sub, sub_mul]

private theorem rescale_le_iff (x y : Dec) :
    y.rescale (max x.scale y.scale) ≤ x.rescale (max x.scale y.scale) ↔ y.val ≤ x.val := by
  rw [← rescale_val x (le_max_left x.scale y.scale), ← rescale_val y (le_max_right x.scale y.scale),
    mul_le_mul_right (zpow_pos (by norm_num) _)]
  exact Int.cast_le.symm

/-- `x.Cmp(y) >= 0` is `y ≤ x` on the values. -/
theorem cmp_nonneg_iff (x y : Dec) : 0 ≤ x.cmp y ↔ y.val ≤ x.val := by
  rw [← rescale_le_iff]
  simp only [cmp]
  split_ifs <;> omega

end Dec

end ImageScan

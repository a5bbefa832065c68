import Mathlib.Data.Int.Log
import Mathlib.Data.Rat.Floor
import Mathlib.Tactic.FieldSimp
import Mathlib.Tactic.Linarith
import Mathlib.Tactic.Ring

/-!
Arithmetic that rounds the result of each operation.

* `Rounding` bounds the error by a part of the exact result, and `Rounding.le_round` is what is
  left of a result that is not negative;
* `Rounding.exact` rounds nothing, and `Rounding.binary` rounds to so many binary digits, to the
  even one of two that are as near. Its exponents have no bounds.
-/

namespace Roundings

structure Rounding where
  round : Rat → Rat
  /-- the part of the exact result by which the rounded one may be off -/
  unit : Rat
  unit_nonneg : 0 ≤ unit
  unit_lt_one : unit < 1
  close : ∀ x, |round x - x| ≤ unit * |x|

namespace Rounding

variable (r : Rounding) {x : Rat}

theorem le_round (h : 0 ≤ x) : x * (1 - r.unit) ≤ r.round x := by
  have hclose := r.close x
  rw [abs_of_nonneg h] at hclose
  have hlow := (abs_le.mp hclose).1
  linarith

theorem round_nonneg (h : 0 ≤ x) : 0 ≤ r.round x :=
  (mul_nonneg h (sub_nonneg.mpr r.unit_lt_one.le)).trans (r.le_round h)

theorem round_pos (h : 0 < x) : 0 < r.round x :=
  (mul_pos h (sub_pos.mpr r.unit_lt_one)).trans_le (r.le_round h.le)

def exact : Rounding where
  round x := x
  unit := 0
  unit_nonneg := le_refl 0
  unit_lt_one := zero_lt_one
  close x := by simp

@[simp] theorem exact_round (x : Rat) : exact.round x = x := rfl

end Rounding

/-! ## Binary digits -/

/-- The nearest integer, and the even one of two that are as near. -/
def halfEven (x : Rat) : Int :=
  if x - ⌊x⌋ < 1 / 2 then ⌊x⌋
  else if 1 / 2 < x - ⌊x⌋ then ⌊x⌋ + 1
  else if ⌊x⌋ % 2 = 0 then ⌊x⌋ else ⌊x⌋ + 1

theorem abs_halfEven_sub_le (x : Rat) : |(halfEven x : Rat) - x| ≤ 1 / 2 := by
  have hfloor := Int.floor_le x
  have hnext := Int.lt_floor_add_one x
  rw [abs_le]
  unfold halfEven
  split_ifs <;> push_cast <;> constructor <;> linarith

/-- The last of the digits behind the first one, where there are `digits` of them. -/
def lastPlace (digits : Nat) (x : Rat) : Rat := 2 ^ (Int.log 2 |x| - digits)

theorem lastPlace_pos (digits : Nat) (x : Rat) : 0 < lastPlace digits x :=
  zpow_pos two_pos _

theorem lastPlace_le (digits : Nat) {x : Rat} (h : x ≠ 0) :
    lastPlace digits x ≤ |x| / 2 ^ digits := by
  have hlog : ((2 : Nat) : Rat) ^ Int.log 2 |x| ≤ |x| :=
    Int.zpow_log_le_self one_lt_two (abs_pos.mpr h)
  rw [lastPlace, zpow_sub₀ two_ne_zero, zpow_natCast]
  exact div_le_div_of_nonneg_right hlog (pow_nonneg zero_le_two _)

def roundBinary (digits : Nat) (x : Rat) : Rat :=
  halfEven (x / lastPlace digits x) * lastPlace digits x

theorem roundBinary_close (digits : Nat) (x : Rat) :
    |roundBinary digits x - x| ≤ 1 / 2 ^ (digits + 1) * |x| := by
  by_cases hzero : x = 0
  · subst hzero
    simp [roundBinary, halfEven]
  · have hpos := lastPlace_pos digits x
    have hdiff : roundBinary digits x - x =
        (halfEven (x / lastPlace digits x) - x / lastPlace digits x) * lastPlace digits x := by
      rw [roundBinary, sub_mul, div_mul_cancel₀ _ hpos.ne']
    calc |roundBinary digits x - x|
        = |(halfEven (x / lastPlace digits x) : Rat) - x / lastPlace digits x| *
            lastPlace digits x := by rw [hdiff, abs_mul, abs_of_pos hpos]
      _ ≤ 1 / 2 * lastPlace digits x :=
          mul_le_mul_of_nonneg_right (abs_halfEven_sub_le _) hpos.le
      _ ≤ 1 / 2 * (|x| / 2 ^ digits) :=
          mul_le_mul_of_nonneg_left (lastPlace_le digits hzero) one_half_pos.le
      _ = 1 / 2 ^ (digits + 1) * |x| := by
          rw [pow_succ]
          field_simp

def Rounding.binary (digits : Nat) : Rounding where
  round := roundBinary digits
  unit := 1 / 2 ^ (digits + 1)
  unit_nonneg := by positivity
  unit_lt_one := by
    rw [div_lt_one (by positivity)]
    exact one_lt_pow₀ one_lt_two (Nat.succ_ne_zero digits)
  close := roundBinary_close digits

/-- The numbers of 64 bits. -/
def Rounding.binary64 : Rounding := .binary 52

end Roundings

import Mathlib.Algebra.Order.Floor.Semiring
import Mathlib.Data.Rat.Floor

/-! 64-bit arithmetic that saturates, and the ranges it keeps. -/

namespace SensorGateway.Lib.Saturating

/-- `u64::MAX`. -/
def u64Max : Nat := 2 ^ 64 - 1

/-- `u64::saturating_add`. -/
def saturatingAdd (a b : UInt64) : UInt64 := UInt64.ofNat (min (a.toNat + b.toNat) u64Max)

/-- `u64::saturating_sub`. -/
def saturatingSub (a b : UInt64) : UInt64 := UInt64.ofNat (a.toNat - b.toNat)

/-- `x as u64` drops the fraction and saturates at both ends. -/
def asU64 (x : ℚ) : UInt64 := UInt64.ofNat (min ⌊x⌋₊ u64Max)

/-- `f64::clamp` asserts that its bounds are in order. -/
def clamp (x low high : ℚ) : Option ℚ :=
  if low ≤ high then some (if x < low then low else if high < x then high else x) else none

theorem toNat_le_u64Max (a : UInt64) : a.toNat ≤ u64Max := by
  have bound := a.toNat_lt
  unfold u64Max
  omega

theorem toNat_ofNat_of_le {n : Nat} (small : n ≤ u64Max) : (UInt64.ofNat n).toNat = n := by
  unfold u64Max at small
  rw [UInt64.toNat_ofNat', Nat.mod_eq_of_lt (by omega)]

theorem toNat_min (a b : UInt64) : (min a b).toNat = min a.toNat b.toNat := by
  show (if a ≤ b then a else b).toNat = _
  by_cases ordered : a ≤ b
  · rw [if_pos ordered, Nat.min_eq_left (UInt64.le_iff_toNat_le.mp ordered)]
  · rw [if_neg ordered]
    rw [UInt64.le_iff_toNat_le] at ordered
    omega

theorem toNat_max (a b : UInt64) : (max a b).toNat = max a.toNat b.toNat := by
  show (if a ≤ b then b else a).toNat = _
  by_cases ordered : a ≤ b
  · rw [if_pos ordered, Nat.max_eq_right (UInt64.le_iff_toNat_le.mp ordered)]
  · rw [if_neg ordered]
    rw [UInt64.le_iff_toNat_le] at ordered
    omega

theorem toNat_saturatingAdd (a b : UInt64) :
    (saturatingAdd a b).toNat = min (a.toNat + b.toNat) u64Max :=
  toNat_ofNat_of_le (Nat.min_le_right _ _)

theorem toNat_saturatingSub (a b : UInt64) : (saturatingSub a b).toNat = a.toNat - b.toNat := by
  have bound := toNat_le_u64Max a
  exact toNat_ofNat_of_le (by omega)

/-- Whole bounds may be applied before or after the fraction is dropped. -/
theorem toNat_asU64_clamped {low high : UInt64} (ordered : low.toNat ≤ high.toNat) (x : ℚ) :
    (asU64 (max (low.toNat : ℚ) (min (high.toNat : ℚ) x))).toNat =
      max low.toNat (min high.toNat ⌊x⌋₊) := by
  have bound := toNat_le_u64Max high
  have floors : ⌊max (low.toNat : ℚ) (min (high.toNat : ℚ) x)⌋₊ =
      max low.toNat (min high.toNat ⌊x⌋₊) := by
    rw [Nat.floor_mono.map_max, Nat.floor_mono.map_min, Nat.floor_natCast, Nat.floor_natCast]
  rw [asU64, toNat_ofNat_of_le (Nat.min_le_right _ _), floors]
  omega

/-- With bounds in order `clamp` returns. -/
theorem clamp_eq_some {low high : ℚ} (ordered : low ≤ high) (x : ℚ) :
    clamp x low high = some (max low (min high x)) := by
  unfold clamp
  rw [if_pos ordered]
  by_cases under : x < low
  · rw [if_pos under, min_eq_right (under.le.trans ordered), max_eq_left under.le]
  · rw [if_neg under]
    by_cases beyond : high < x
    · rw [if_pos beyond, min_eq_left beyond.le, max_eq_right ordered]
    · rw [if_neg beyond, min_eq_right (not_lt.mp beyond), max_eq_right (not_lt.mp under)]

theorem clamp_eq_none {low high : ℚ} (crossed : high < low) (x : ℚ) : clamp x low high = none := by
  rw [clamp, if_neg (not_le.mpr crossed)]

end SensorGateway.Lib.Saturating

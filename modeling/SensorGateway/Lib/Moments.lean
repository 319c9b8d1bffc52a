import Mathlib.Algebra.BigOperators.Group.List.Basic
import Mathlib.Algebra.Order.BigOperators.Group.List
import Mathlib.Algebra.Order.Field.Basic
import Mathlib.Data.List.MinMax
import Mathlib.Tactic.FieldSimp
import Mathlib.Tactic.Linarith
import Mathlib.Tactic.Positivity
import Mathlib.Tactic.Ring

/-! The mean of a list, and the sum of squared distances from it. Both depend on three sums that
add up when lists are appended: the length, the sum, and the sum of squares. -/

namespace SensorGateway.Lib.Moments
variable {K : Type*} [Field K]

def mean (xs : List K) : K := xs.sum / xs.length

def squares (xs : List K) : K := (xs.map fun x => x ^ 2).sum

/-- The sum of squared distances from the mean. -/
def deviation (xs : List K) : K := (xs.map fun x => (x - mean xs) ^ 2).sum

theorem squares_append (xs ys : List K) : squares (xs ++ ys) = squares xs + squares ys := by
  simp [squares]

theorem sum_sq_sub (xs : List K) (c : K) :
    (xs.map fun x => (x - c) ^ 2).sum = squares xs - 2 * c * xs.sum + xs.length * c ^ 2 := by
  induction xs with
  | nil => simp [squares]
  | cons x rest ih =>
    have tail : squares (x :: rest) = x ^ 2 + squares rest := by simp [squares]
    rw [List.map_cons, List.sum_cons, ih, tail, List.sum_cons, List.length_cons, Nat.cast_succ]
    ring

theorem mean_perm {xs ys : List K} (perm : xs.Perm ys) : mean xs = mean ys := by
  rw [mean, mean, perm.sum_eq, perm.length_eq]

theorem deviation_perm {xs ys : List K} (perm : xs.Perm ys) : deviation xs = deviation ys := by
  rw [deviation, deviation, mean_perm perm]
  exact (perm.map _).sum_eq

theorem mean_singleton (x : K) : mean [x] = x := by
  simp [mean]

theorem deviation_singleton (x : K) : deviation [x] = 0 := by
  simp [deviation, mean_singleton]

section CharZero
variable [CharZero K]

theorem length_ne_zero {xs : List K} (some : xs ≠ []) : (xs.length : K) ≠ 0 := by
  rw [Nat.cast_ne_zero]
  exact List.length_pos_iff.mpr some |>.ne'

theorem deviation_eq {xs : List K} (some : xs ≠ []) :
    deviation xs = squares xs - xs.sum ^ 2 / xs.length := by
  have nonzero := length_ne_zero some
  rw [deviation, sum_sq_sub, mean]
  field_simp
  ring

/-- The mean of both parts, moved from the one by its distance to the other. -/
theorem mean_append {xs ys : List K} (first : xs ≠ []) (second : ys ≠ []) :
    mean (xs ++ ys) =
      mean xs + (mean ys - mean xs) * (ys.length / ((xs.length : K) + ys.length)) := by
  have total : ((xs.length : K) + ys.length) ≠ 0 := by
    have nonempty : xs ++ ys ≠ [] := List.append_ne_nil_of_left_ne_nil first ys
    have sum := length_ne_zero nonempty
    rwa [List.length_append, Nat.cast_add] at sum
  have left := length_ne_zero first
  have right := length_ne_zero second
  unfold mean
  rw [List.sum_append, List.length_append, Nat.cast_add]
  field_simp
  ring

theorem deviation_append {xs ys : List K} (first : xs ≠ []) (second : ys ≠ []) :
    deviation (xs ++ ys) = deviation xs + deviation ys +
      (mean ys - mean xs) * (mean ys - mean xs) *
        (xs.length * ys.length / ((xs.length : K) + ys.length)) := by
  have nonempty : xs ++ ys ≠ [] := List.append_ne_nil_of_left_ne_nil first ys
  have total : ((xs.length : K) + ys.length) ≠ 0 := by
    have sum := length_ne_zero nonempty
    rwa [List.length_append, Nat.cast_add] at sum
  have left := length_ne_zero first
  have right := length_ne_zero second
  rw [deviation_eq nonempty, deviation_eq first, deviation_eq second, squares_append]
  unfold mean
  rw [List.sum_append, List.length_append, Nat.cast_add]
  field_simp
  ring

/-- One more value moves the mean by its share of the distance. -/
theorem mean_concat {xs : List K} (some : xs ≠ []) (x : K) :
    mean (xs ++ [x]) = mean xs + (x - mean xs) / ((xs.length + 1 : ℕ) : K) := by
  rw [mean_append some (List.cons_ne_nil x []), mean_singleton, List.length_singleton,
    Nat.cast_one, Nat.cast_succ]
  ring

/-- One more value adds the product of its distances from the old and from the new mean. -/
theorem deviation_concat {xs : List K} (some : xs ≠ []) (x : K) :
    deviation (xs ++ [x]) = deviation xs + (x - mean xs) * (x - mean (xs ++ [x])) := by
  have total : ((xs.length : K) + 1) ≠ 0 := by exact_mod_cast Nat.succ_ne_zero xs.length
  rw [deviation_append some (List.cons_ne_nil x []), mean_concat some, deviation_singleton,
    mean_singleton, List.length_singleton, Nat.cast_one, Nat.cast_succ]
  field_simp
  ring

/-- What is left of the distance from the mean when the value counts towards the mean itself. -/
theorem sub_mean_concat {xs : List K} (some : xs ≠ []) (x : K) :
    x - mean (xs ++ [x]) = (x - mean xs) * (xs.length / ((xs.length : K) + 1)) := by
  have total : ((xs.length : K) + 1) ≠ 0 := by exact_mod_cast Nat.succ_ne_zero xs.length
  rw [mean_concat some, Nat.cast_succ]
  field_simp
  ring

end CharZero

/-! Two groups pooled, each given by its size, its mean and its deviation. -/

def pooledMean (n a m b : K) : K := a + (b - a) * (m / (n + m))

def pooledDeviation (n a s m b t : K) : K := s + t + (b - a) * (b - a) * (n * m / (n + m))

section Pooled
variable {n m k : K} (a b c s t u : K)

theorem pooledMean_comm (total : n + m ≠ 0) : pooledMean n a m b = pooledMean m b n a := by
  have swapped : m + n ≠ 0 := by rwa [add_comm]
  unfold pooledMean
  field_simp
  ring

theorem pooledDeviation_comm : pooledDeviation n a s m b t = pooledDeviation m b t n a s := by
  unfold pooledDeviation
  rw [add_comm m n]
  ring

theorem pooledMean_right_comm (first : n + m ≠ 0) (second : n + k ≠ 0) (all : n + m + k ≠ 0) :
    pooledMean (n + m) (pooledMean n a m b) k c = pooledMean (n + k) (pooledMean n a k c) m b := by
  have all' : n + k + m ≠ 0 := by rwa [add_right_comm]
  unfold pooledMean
  field_simp
  ring

theorem pooledDeviation_right_comm (first : n + m ≠ 0) (second : n + k ≠ 0)
    (all : n + m + k ≠ 0) :
    pooledDeviation (n + m) (pooledMean n a m b) (pooledDeviation n a s m b t) k c u =
      pooledDeviation (n + k) (pooledMean n a k c) (pooledDeviation n a s k c u) m b t := by
  have all' : n + k + m ≠ 0 := by rwa [add_right_comm]
  unfold pooledDeviation pooledMean
  field_simp
  ring

end Pooled

section Ordered
variable [LinearOrder K] [IsStrictOrderedRing K]

theorem deviation_nonneg (xs : List K) : 0 ≤ deviation xs := by
  apply List.sum_nonneg
  intro y member
  obtain ⟨x, -, rfl⟩ := List.mem_map.mp member
  exact sq_nonneg _

theorem le_mean {xs : List K} (some : xs ≠ []) {low : K} (below : ∀ x ∈ xs, low ≤ x) :
    low ≤ mean xs := by
  have positive : (0 : K) < xs.length := by exact_mod_cast List.length_pos_iff.mpr some
  rw [mean, le_div_iff₀ positive, mul_comm, ← nsmul_eq_mul]
  exact List.card_nsmul_le_sum xs low below

theorem mean_le {xs : List K} (some : xs ≠ []) {high : K} (above : ∀ x ∈ xs, x ≤ high) :
    mean xs ≤ high := by
  have positive : (0 : K) < xs.length := by exact_mod_cast List.length_pos_iff.mpr some
  rw [mean, div_le_iff₀ positive, mul_comm, ← nsmul_eq_mul]
  exact List.sum_le_card_nsmul xs high above

theorem mean_const {xs : List K} (some : xs ≠ []) {c : K} (same : ∀ x ∈ xs, x = c) : mean xs = c :=
  le_antisymm (mean_le some fun x member => (same x member).le)
    (le_mean some fun x member => (same x member).ge)

theorem deviation_const {xs : List K} (some : xs ≠ []) {c : K} (same : ∀ x ∈ xs, x = c) :
    deviation xs = 0 := by
  apply List.sum_eq_zero
  intro y member
  obtain ⟨x, at_x, rfl⟩ := List.mem_map.mp member
  rw [mean_const some same, same x at_x, sub_self]
  exact zero_pow two_ne_zero

/-- The variance and the squared distance of a value that counts towards both, by its distance from
the mean of the others. -/
theorem variance_concat {xs : List K} (some : xs ≠ []) (x : K) :
    deviation (xs ++ [x]) / xs.length =
      deviation xs / xs.length + (x - mean xs) ^ 2 / ((xs.length : K) + 1) := by
  have nonzero := length_ne_zero some (K := K)
  have total : ((xs.length : K) + 1) ≠ 0 := by exact_mod_cast Nat.succ_ne_zero xs.length
  rw [deviation_concat some, sub_mean_concat some]
  field_simp

theorem variance_concat_of_const {xs : List K} (some : xs ≠ []) {c : K} (same : ∀ y ∈ xs, y = c)
    (x : K) : deviation (xs ++ [x]) / xs.length = (x - c) ^ 2 / ((xs.length : K) + 1) := by
  rw [variance_concat some, deviation_const some same, mean_const some same, zero_div, zero_add]

/-- However far a value lies, it is no further from a mean it counts towards than this many times the
spread it adds to. -/
theorem outlier_bound {xs : List K} (some : xs ≠ []) {x t : K}
    (far : t ^ 2 * (deviation (xs ++ [x]) / xs.length) < (x - mean (xs ++ [x])) ^ 2) :
    t ^ 2 * ((xs.length : K) + 1) < xs.length ^ 2 := by
  have positive : (0 : K) < xs.length := by exact_mod_cast List.length_pos_iff.mpr some
  have total : (0 : K) < (xs.length : K) + 1 := by linarith
  have spread : 0 ≤ t ^ 2 * (deviation xs / xs.length) :=
    mul_nonneg (sq_nonneg t) (div_nonneg (deviation_nonneg xs) positive.le)
  rw [variance_concat some, sub_mean_concat some] at far
  by_contra bound
  have near : xs.length ^ 2 ≤ t ^ 2 * ((xs.length : K) + 1) := not_lt.mp bound
  have scaled : (x - mean xs) ^ 2 / ((xs.length : K) + 1) ^ 2 * xs.length ^ 2 ≤
      (x - mean xs) ^ 2 / ((xs.length : K) + 1) ^ 2 * (t ^ 2 * ((xs.length : K) + 1)) :=
    mul_le_mul_of_nonneg_left near (by positivity)
  have inner : t ^ 2 * ((x - mean xs) ^ 2 / ((xs.length : K) + 1)) =
      (x - mean xs) ^ 2 / ((xs.length : K) + 1) ^ 2 * (t ^ 2 * ((xs.length : K) + 1)) := by
    field_simp
  have outer : ((x - mean xs) * (xs.length / ((xs.length : K) + 1))) ^ 2 =
      (x - mean xs) ^ 2 / ((xs.length : K) + 1) ^ 2 * xs.length ^ 2 := by
    field_simp
  rw [mul_add, inner, outer] at far
  linarith

/-- After values that are all the same, that bound is reached by any other. -/
theorem outlier_of_const {xs : List K} (some : xs ≠ []) {c x t : K} (same : ∀ y ∈ xs, y = c)
    (differs : x ≠ c) (bound : t ^ 2 * ((xs.length : K) + 1) < xs.length ^ 2) :
    t ^ 2 * (deviation (xs ++ [x]) / xs.length) < (x - mean (xs ++ [x])) ^ 2 := by
  have total : (0 : K) < (xs.length : K) + 1 := by
    have positive : (0 : K) < xs.length := by exact_mod_cast List.length_pos_iff.mpr some
    linarith
  have apart : (x - c) ^ 2 / ((xs.length : K) + 1) ^ 2 > 0 := by
    have nonzero := sub_ne_zero.mpr differs
    positivity
  rw [variance_concat_of_const some same, sub_mean_concat some, mean_const some same]
  calc
    t ^ 2 * ((x - c) ^ 2 / ((xs.length : K) + 1)) =
        (x - c) ^ 2 / ((xs.length : K) + 1) ^ 2 * (t ^ 2 * ((xs.length : K) + 1)) := by
      field_simp
    _ < (x - c) ^ 2 / ((xs.length : K) + 1) ^ 2 * xs.length ^ 2 :=
      mul_lt_mul_of_pos_left bound apart
    _ = ((x - c) * (xs.length / ((xs.length : K) + 1))) ^ 2 := by
      field_simp

end Ordered

end SensorGateway.Lib.Moments

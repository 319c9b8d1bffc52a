import Mathlib.Algebra.Order.Archimedean.Basic
import Mathlib.Algebra.Order.Field.Basic
import Mathlib.Tactic.Linarith
import Mathlib.Tactic.Ring

/-! Exponential smoothing of a sequence of samples. What the smoothed value remembers of its start
shrinks by one factor with each sample. -/

namespace SensorGateway.Lib.Smoothing

section
variable {K : Type*} [Field K]

/-- The weighted mean of the value so far and one sample. -/
def mix (weight value sample : K) : K := (1 - weight) * value + weight * sample

def smooth (weight value : K) (samples : List K) : K := samples.foldl (mix weight) value

@[simp] theorem smooth_nil (weight value : K) : smooth weight value [] = value := rfl

@[simp] theorem smooth_cons (weight value sample : K) (samples : List K) :
    smooth weight value (sample :: samples) = smooth weight (mix weight value sample) samples := rfl

theorem mix_neg (weight value sample : K) :
    mix weight (-value) (-sample) = -mix weight value sample := by
  unfold mix
  ring

theorem smooth_neg (weight value : K) (samples : List K) :
    smooth weight (-value) (samples.map (- ·)) = -smooth weight value samples := by
  induction samples generalizing value with
  | nil => rfl
  | cons sample rest ih =>
    rw [List.map_cons, smooth_cons, smooth_cons, mix_neg]
    exact ih _

end

section
variable {K : Type*} [Field K] [LinearOrder K] [IsStrictOrderedRing K]

theorem mix_mono {weight : K} (nonneg : 0 ≤ weight) (atMost : weight ≤ 1) {a b x y : K}
    (values : a ≤ b) (samples : x ≤ y) : mix weight a x ≤ mix weight b y := by
  have rest : 0 ≤ 1 - weight := by linarith
  exact add_le_add (mul_le_mul_of_nonneg_left values rest)
    (mul_le_mul_of_nonneg_left samples nonneg)

theorem smooth_mono {weight : K} (nonneg : 0 ≤ weight) (atMost : weight ≤ 1) (samples : List K)
    {a b : K} (values : a ≤ b) : smooth weight a samples ≤ smooth weight b samples := by
  induction samples generalizing a b with
  | nil => exact values
  | cons sample rest ih => exact ih (mix_mono nonneg atMost values (le_refl sample))

/-- Samples at or above a level pull the value up to it, from wherever it starts. -/
theorem le_smooth {weight level : K} (value : K) (nonneg : 0 ≤ weight) (atMost : weight ≤ 1)
    {samples : List K} (above : ∀ sample ∈ samples, level ≤ sample) :
    level - (1 - weight) ^ samples.length * (level - value) ≤ smooth weight value samples := by
  induction samples generalizing value with
  | nil =>
    rw [smooth_nil, List.length_nil, pow_zero, one_mul]
    linarith
  | cons sample rest ih =>
    have later := ih (mix weight value level)
      (fun other member => above other (List.mem_cons_of_mem _ member))
    have first := mix_mono nonneg atMost (le_refl value) (above sample List.mem_cons_self)
    have gap : level - mix weight value level = (1 - weight) * (level - value) := by
      unfold mix
      ring
    rw [gap] at later
    calc
      level - (1 - weight) ^ (sample :: rest).length * (level - value)
          = level - (1 - weight) ^ rest.length * ((1 - weight) * (level - value)) := by
        rw [List.length_cons, pow_succ]
        ring
      _ ≤ smooth weight (mix weight value level) rest := later
      _ ≤ smooth weight (mix weight value sample) rest := smooth_mono nonneg atMost rest first

/-- Samples at or below a level pull the value down to it. -/
theorem smooth_le {weight level : K} (value : K) (nonneg : 0 ≤ weight) (atMost : weight ≤ 1)
    {samples : List K} (below : ∀ sample ∈ samples, sample ≤ level) :
    smooth weight value samples ≤ level + (1 - weight) ^ samples.length * (value - level) := by
  have above : ∀ sample ∈ samples.map (- ·), -level ≤ sample := by
    intro sample member
    obtain ⟨other, inside, rfl⟩ := List.mem_map.mp member
    exact neg_le_neg (below other inside)
  have mirrored := le_smooth (-value) nonneg atMost above
  rw [smooth_neg, List.length_map] at mirrored
  have turned : -level - (1 - weight) ^ samples.length * (-level - -value) =
      -(level + (1 - weight) ^ samples.length * (value - level)) := by
    ring
  rw [turned] at mirrored
  exact neg_le_neg_iff.mp mirrored

/-- With some weight on the samples, the start is forgotten up to any tolerance. -/
theorem exists_forgotten [Archimedean K] {weight : K} (positive : 0 < weight) (atMost : weight ≤ 1)
    {tolerance : K} (room : 0 < tolerance) :
    ∃ enough : Nat, ∀ n, enough ≤ n → (1 - weight) ^ n ≤ tolerance := by
  have kept : 0 ≤ 1 - weight := by linarith
  have shrinks : 1 - weight < 1 := by linarith
  obtain ⟨enough, small⟩ := exists_pow_lt_of_lt_one room shrinks
  refine ⟨enough, ?_⟩
  intro n more
  exact (pow_le_pow_of_le_one kept shrinks.le more).trans small.le

end

end SensorGateway.Lib.Smoothing

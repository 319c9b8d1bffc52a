import SensorGateway.Engine.Reduce
import SensorGateway.Statistics.Summary

/-! Batches of readings summarized apart and merged in any bracketing and any order come to what the
readings taken in one after another come to. -/

namespace SensorGateway.Statistics.Reduction
open SensorGateway.Lib.ExtendedRat SensorGateway.Lib.Moments SensorGateway.Lib.Saturating
open SensorGateway.Lib.Keyed SensorGateway.Types Extended Summary Engine.Reduce

/-- A way to bracket the merges of some batches. -/
inductive Bracketing where
  | batch (xs : List ℚ)
  | merge (left right : Bracketing)

def Bracketing.batches : Bracketing → List (List ℚ)
  | batch xs => [xs]
  | merge left right => left.batches ++ right.batches

def Bracketing.reduce : Bracketing → SensorStats Extended
  | batch xs => collect xs
  | merge left right => left.reduce.merge right.reduce

theorem reduce_summarize (bracketing : Bracketing)
    (small : bracketing.batches.flatten.length ≤ u64Max) :
    bracketing.reduce = summarize bracketing.batches.flatten := by
  induction bracketing with
  | batch xs =>
    rw [Bracketing.reduce, collect_eq, Bracketing.batches, List.flatten_singleton]
  | merge left right ihLeft ihRight =>
    have split : (Bracketing.merge left right).batches.flatten =
        left.batches.flatten ++ right.batches.flatten := List.flatten_append
    rw [split] at small ⊢
    rw [List.length_append] at small
    rw [Bracketing.reduce, ihLeft (by omega), ihRight (by omega), merge_summarize small]

/-- The mean lies between the extremes, and the sum of squared distances is no less than zero. -/
structure Describes (stats : SensorStats Extended) (xs : List ℚ) : Prop where
  count : stats.count = xs.length
  min : stats.min = ofMinimum xs.minimum
  max : stats.max = ofMaximum xs.maximum
  mean : xs ≠ [] → stats.mean = finite (xs.sum / xs.length)
  m2 : xs ≠ [] →
    stats.m2 = finite (xs.map fun x => (x - xs.sum / xs.length) ^ 2).sum
  nonneg : xs ≠ [] → ∃ m2, stats.m2 = finite m2 ∧ 0 ≤ m2
  between : xs ≠ [] → ∃ low mean high, stats.min = finite low ∧ stats.mean = finite mean ∧
    stats.max = finite high ∧ low ≤ mean ∧ mean ≤ high

theorem summarize_describes (xs : List ℚ) : Describes (summarize xs) xs where
  count := rfl
  min := rfl
  max := rfl
  mean := fun _ => rfl
  m2 := fun _ => rfl
  nonneg := fun _ => ⟨deviation xs, rfl, deviation_nonneg xs⟩
  between := by
    intro some
    obtain ⟨low, lowest⟩ := coe_minimum some
    obtain ⟨high, highest⟩ := coe_maximum some
    have below := (List.minimum_eq_coe_iff.mp lowest).2
    have above := (List.maximum_eq_coe_iff.mp highest).2
    exact ⟨low, Lib.Moments.mean xs, high, by rw [summarize, lowest, ofMinimum_coe], rfl,
      by rw [summarize, highest, ofMaximum_coe], le_mean some below, mean_le some above⟩

/-- The statistics are those of the data, and merging them is putting the data together. -/
theorem statistics_of_concatenation :
    (∀ xs : List ℚ, Describes (collect xs) xs) ∧
      (∀ xs : List ℚ, SensorStats.default.merge (collect xs) = collect xs ∧
        (collect xs).merge SensorStats.default = collect xs) ∧
      ∀ (bracketing : Bracketing) (batches : List (List ℚ)),
        bracketing.batches.Perm batches → batches.flatten.length ≤ u64Max →
          bracketing.reduce = collect batches.flatten := by
  refine ⟨?_, ?_, ?_⟩
  · intro xs
    rw [collect_eq]
    exact summarize_describes xs
  · intro xs
    rw [collect_eq]
    exact ⟨SensorStats.merge_default _, merge_nil xs⟩
  · intro bracketing batches order small
    have same := order.flatten
    rw [reduce_summarize bracketing (by rwa [same.length_eq]), collect_eq]
    exact summarize_perm same

theorem statistics_of_concatenation_three :
    (Bracketing.merge (.batch [3]) (.merge (.batch []) (.batch [1, 2]))).reduce =
      collect [1, 2, 3] := by
  apply statistics_of_concatenation.2.2 _ [[1, 2], [], [3]]
  · decide
  · decide

end SensorGateway.Statistics.Reduction

import SensorGateway.Lib.Moments
import SensorGateway.Types

/-! `SensorStats` in exact arithmetic: what the code keeps of a list of readings is the summary of
the list, however the list is cut up and put together again. -/

namespace SensorGateway.Statistics.Summary
open SensorGateway.Lib.ExtendedRat SensorGateway.Lib.Moments SensorGateway.Lib.Saturating
open SensorGateway.Types Extended

/-- What a list of readings comes to. -/
def summarize (xs : List ℚ) : SensorStats Extended where
  count := xs.length
  min := ofMinimum xs.minimum
  max := ofMaximum xs.maximum
  mean := finite (mean xs)
  m2 := finite (deviation xs)

/-- The readings taken in one after another. -/
def collect (xs : List ℚ) : SensorStats Extended :=
  xs.foldl (fun stats x => stats.update (finite x)) SensorStats.default

theorem summarize_nil : summarize [] = SensorStats.default := by
  simp [summarize, SensorStats.default, mean, deviation, ofMinimum, ofMaximum, F64.infinity,
    F64.negInfinity, zero_eq]

theorem minimum_perm {xs ys : List ℚ} (perm : xs.Perm ys) : xs.minimum = ys.minimum :=
  le_antisymm (List.minimum_anti perm.symm.subset) (List.minimum_anti perm.subset)

theorem maximum_perm {xs ys : List ℚ} (perm : xs.Perm ys) : xs.maximum = ys.maximum :=
  le_antisymm (List.maximum_mono perm.subset) (List.maximum_mono perm.symm.subset)

theorem summarize_perm {xs ys : List ℚ} (perm : xs.Perm ys) : summarize xs = summarize ys := by
  rw [summarize, summarize, perm.length_eq, minimum_perm perm, maximum_perm perm, mean_perm perm,
    deviation_perm perm]

theorem coe_minimum {xs : List ℚ} (some : xs ≠ []) : ∃ low, xs.minimum = (low : ℚ) :=
  ⟨_, (List.coe_minimum_of_length_pos (List.length_pos_iff.mpr some)).symm⟩

theorem coe_maximum {xs : List ℚ} (some : xs ≠ []) : ∃ high, xs.maximum = (high : ℚ) :=
  ⟨_, (List.coe_maximum_of_length_pos (List.length_pos_iff.mpr some)).symm⟩

theorem length_zero_iff {xs : List ℚ} : (summarize xs).count = 0 ↔ xs = [] := List.length_eq_zero_iff

/-- The Welford step keeps the summary. -/
theorem update_summarize (xs : List ℚ) (x : ℚ) :
    (summarize xs).update (finite x) = summarize (xs ++ [x]) := by
  unfold SensorStats.update
  by_cases none : xs = []
  · subst none
    rw [if_pos (length_zero_iff.mpr rfl)]
    simp [summarize, mean_singleton, deviation_singleton, zero_eq]
  · rw [if_neg (fun zero => none (length_zero_iff.mp zero))]
    obtain ⟨low, lowest⟩ := coe_minimum none
    obtain ⟨high, highest⟩ := coe_maximum none
    have counted : ((xs.length + 1 : ℕ) : ℚ) ≠ 0 := by exact_mod_cast Nat.succ_ne_zero xs.length
    have smallest : (if finite x < finite low then finite x else finite low) =
        ofMinimum (xs ++ [x]).minimum := by
      rw [List.minimum_concat, lowest, ← WithTop.coe_min, ofMinimum_coe, min_comm, min_def_lt]
      split <;> rename_i less <;> simp only [finite_lt] at less <;> simp [less]
    have largest : (if finite high < finite x then finite x else finite high) =
        ofMaximum (xs ++ [x]).maximum := by
      rw [List.maximum_concat, highest, ← WithBot.coe_max, ofMaximum_coe, max_def_lt]
      split <;> rename_i less <;> simp only [finite_lt] at less <;> simp [less]
    simp only [summarize, lowest, highest, ofMinimum_coe, ofMaximum_coe, F64.ofCount, finite_sub,
      finite_div _ counted, finite_add, finite_mul, smallest, largest, List.length_append,
      List.length_singleton, mean_concat none, deviation_concat none]

theorem collect_eq (xs : List ℚ) : collect xs = summarize xs := by
  induction xs using List.reverseRecOn with
  | nil => exact summarize_nil.symm
  | append_singleton rest x ih =>
    rw [← update_summarize, ← ih, collect, collect, List.foldl_append]
    rfl

theorem merge_nil (xs : List ℚ) : (summarize xs).merge SensorStats.default = summarize xs := by
  unfold SensorStats.merge
  by_cases none : xs = []
  · rw [if_pos (length_zero_iff.mpr none), none, summarize_nil]
  · rw [if_neg (fun zero => none (length_zero_iff.mp zero))]
    exact if_pos rfl

/-- Chan's merge keeps the summary, as long as the count can be converted. -/
theorem merge_summarize {xs ys : List ℚ} (small : xs.length + ys.length ≤ u64Max) :
    (summarize xs).merge (summarize ys) = summarize (xs ++ ys) := by
  unfold SensorStats.merge
  by_cases first : xs = []
  · subst first
    rw [if_pos (length_zero_iff.mpr rfl), List.nil_append]
  · rw [if_neg (fun zero => first (length_zero_iff.mp zero))]
    by_cases second : ys = []
    · rw [if_pos (length_zero_iff.mpr second), second, List.append_nil]
    · rw [if_neg (fun zero => second (length_zero_iff.mp zero))]
      obtain ⟨low, lowest⟩ := coe_minimum first
      obtain ⟨low', lowest'⟩ := coe_minimum second
      obtain ⟨high, highest⟩ := coe_maximum first
      obtain ⟨high', highest'⟩ := coe_maximum second
      have total : ((xs.length : ℚ) + ys.length) ≠ 0 := by
        have positive := List.length_pos_iff.mpr first
        exact_mod_cast (by omega : xs.length + ys.length ≠ 0)
      have counted : toNat u64Max (finite ((xs.length : ℚ) + ys.length)) =
          xs.length + ys.length := by
        rw [← Nat.cast_add, toNat_natCast small]
      simp only [summarize, lowest, lowest', highest, highest', ofMinimum_coe, ofMaximum_coe,
        F64.ofCount, F64.toCount, F64.least, F64.greatest, finite_sub, finite_add, finite_mul,
        finite_div _ total, finite_least, finite_greatest, counted, List.length_append,
        List.minimum_append, List.maximum_append, mean_append first second,
        deviation_append first second, ← WithTop.coe_min, ← WithBot.coe_max]

end SensorGateway.Statistics.Summary

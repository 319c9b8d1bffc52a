import Mathlib.Analysis.Real.Sqrt
import Mathlib.Data.EReal.Inv
import SensorGateway.Engine.Reduce
import SensorGateway.Lib.Moments

/-! What the z-score test can see. A reading counts towards the mean and the deviation it is tested
against, so that no reading is more than so many deviations away, however extreme it is. -/

namespace SensorGateway.Statistics.DetectionLimit
open SensorGateway.Lib.Moments SensorGateway.Lib.Saturating SensorGateway.Types Engine.Reduce

/-- `f64` as the real numbers with both infinities. The square root is the true one. -/
noncomputable instance realF64 : F64 EReal where
  decLt := inferInstance
  infinity := ⊤
  negInfinity := ⊥
  least := min
  greatest := max
  ofCount := fun n => ((n : ℝ) : EReal)
  toCount := fun x => if x = ⊤ then u64Max else min ⌊x.toReal⌋₊ u64Max
  sqrt := fun x => if x = ⊤ then ⊤ else (Real.sqrt x.toReal : EReal)
  abs := fun x => if x < 0 then -x else x
  isFinite := fun x => decide (x ≠ ⊤ ∧ x ≠ ⊥)

theorem sqrt_coe (x : ℝ) : F64.sqrt (x : EReal) = (Real.sqrt x : EReal) :=
  if_neg (EReal.coe_ne_top x)

theorem abs_coe (x : ℝ) : F64.abs (x : EReal) = ((|x| : ℝ) : EReal) := by
  show (if (x : EReal) < 0 then -(x : EReal) else x) = _
  by_cases below : x < 0
  · rw [if_pos (EReal.coe_neg'.mpr below), abs_of_neg below, EReal.coe_neg]
  · rw [if_neg (mt EReal.coe_neg'.mp below), abs_of_nonneg (not_lt.mp below)]

theorem isFinite_coe (x : ℝ) : F64.isFinite (x : EReal) = true :=
  decide_eq_true ⟨EReal.coe_ne_top x, EReal.coe_ne_bot x⟩

theorem coe_div (x y : ℝ) : ((x / y : ℝ) : EReal) = (x : EReal) / y := by
  rw [div_eq_mul_inv, EReal.coe_mul, EReal.coe_inv, div_eq_mul_inv]

/-- A reading with a finite value. -/
def finite (r : ReadingEnvelope ℝ) : ReadingEnvelope EReal := ⟨r.sensorId, r.ts, r.value⟩

/-- The statistics keep the count, the mean and the deviation of some readings. -/
structure Summarizes (stats : SensorStats EReal) (xs : List ℝ) : Prop where
  count : stats.count = xs.length
  mean : stats.mean = ((mean xs : ℝ) : EReal)
  m2 : stats.m2 = ((deviation xs : ℝ) : EReal)

theorem summarizes_singleton (x : ℝ) : Summarizes (SensorStats.default.update (x : EReal)) [x] where
  count := rfl
  mean := by
    rw [mean_singleton]
    rfl
  m2 := by
    rw [deviation_singleton]
    rfl

theorem Summarizes.update {stats : SensorStats EReal} {xs : List ℝ} (summarizes : Summarizes stats xs)
    (some : xs ≠ []) (x : ℝ) : Summarizes (stats.update (x : EReal)) (xs ++ [x]) := by
  have counted : stats.count ≠ 0 := by
    rw [summarizes.count]
    exact List.length_pos_iff.mpr some |>.ne'
  have moved : stats.mean + ((x : EReal) - stats.mean) / F64.ofCount (stats.count + 1) =
      ((Lib.Moments.mean (xs ++ [x]) : ℝ) : EReal) := by
    rw [mean_concat some, summarizes.mean, summarizes.count, EReal.coe_add, coe_div, EReal.coe_sub]
    rfl
  unfold SensorStats.update
  rw [if_neg counted]
  refine ⟨?_, moved, ?_⟩
  · rw [List.length_append, List.length_singleton, summarizes.count]
  · show stats.m2 + ((x : EReal) - stats.mean) * ((x : EReal) - _) = _
    rw [moved, deviation_concat some, summarizes.m2, summarizes.mean, EReal.coe_add, EReal.coe_mul,
      EReal.coe_sub, EReal.coe_sub]

/-- The readings folded in one after another. -/
theorem summarizes_foldl (group : List (ReadingEnvelope ℝ)) (some : group ≠ []) :
    Summarizes ((group.map finite).foldl (fun stats r => stats.update r.value) SensorStats.default)
      (group.map ReadingEnvelope.value) := by
  induction group using List.reverseRecOn with
  | nil => exact absurd rfl some
  | append_singleton rest r ih =>
    rw [List.map_append, List.foldl_append, List.map_append]
    by_cases first : rest = []
    · subst first
      exact summarizes_singleton r.value
    · exact (ih first).update (by simpa using first) r.value

/-- What a worker tests a reading against: it has been folded in already. -/
theorem summarizes_updated (d : Detection EReal) (earlier : List (ReadingEnvelope ℝ))
    (r : ReadingEnvelope ℝ) :
    Summarizes (updated (sequential d (earlier.map finite)).bucket[r.sensorId]? (finite r))
      ((ofSensor earlier r.sensorId).map ReadingEnvelope.value ++ [r.value]) := by
  have readings : ofSensor (earlier.map finite) r.sensorId =
      (ofSensor earlier r.sensorId).map finite := List.filter_map
  rw [bucket_sequential, summary, readings]
  cases group : ofSensor earlier r.sensorId with
  | nil => exact summarizes_singleton r.value
  | cons first rest =>
    exact (summarizes_foldl (first :: rest) (List.cons_ne_nil _ _)).update
      (List.cons_ne_nil _ _) r.value

theorem detect_cases (d : Detection EReal) (entry : SensorStats EReal) (r : ReadingEnvelope EReal) :
    detect d entry r = [] ∨ ∃ z, detect d entry r = [⟨r.sensorId, r.ts, r.value, z⟩] := by
  unfold detect
  dsimp only
  split_ifs
  · exact Or.inr ⟨_, rfl⟩
  · exact Or.inl rfl
  · exact Or.inl rfl
  · exact Or.inl rfl

/-- With one reading there is no deviation to compare with. -/
theorem detect_singleton {entry : SensorStats EReal} {x : ℝ} (summarizes : Summarizes entry [x])
    (d : Detection EReal) (r : ReadingEnvelope EReal) : detect d entry r = [] := by
  have flat : entry.stddevSample = ((0 : ℝ) : EReal) := by
    rw [SensorStats.stddevSample, SensorStats.varianceSample,
      if_pos (show entry.count ≤ 1 from summarizes.count.le)]
    show F64.sqrt ((0 : ℝ) : EReal) = _
    rw [sqrt_coe, Real.sqrt_zero]
  have level : ¬(F64.isFinite entry.stddevSample = true ∧ 0 < entry.stddevSample) := by
    rintro ⟨-, spread⟩
    rw [flat] at spread
    exact lt_irrefl _ spread
  unfold detect
  rw [if_neg level, ite_self]

/-- The settings of the detection, with a finite threshold. -/
def settings (t : ℝ) (anomalyMinSamples : Nat) : Detection EReal := ⟨t, anomalyMinSamples⟩

/-- The deviation of a window of at least two readings. -/
theorem Summarizes.stddevSample {entry : SensorStats EReal} {xs : List ℝ} (some : xs ≠ []) {x : ℝ}
    (summarizes : Summarizes entry (xs ++ [x])) :
    entry.stddevSample = (Real.sqrt (deviation (xs ++ [x]) / xs.length) : EReal) := by
  have counted : entry.count = xs.length + 1 := by
    rw [summarizes.count, List.length_append, List.length_singleton]
  have positive := List.length_pos_iff.mpr some
  have variance : entry.varianceSample = ((deviation (xs ++ [x]) / xs.length : ℝ) : EReal) := by
    rw [SensorStats.varianceSample, if_neg (by omega), summarizes.m2, counted, Nat.add_sub_cancel,
      coe_div]
    rfl
  rw [SensorStats.stddevSample, variance, sqrt_coe]

/-- The comparison of the score, with squares. -/
theorem lt_abs_div_sqrt_iff {t v : ℝ} (nonneg : 0 ≤ t) (spread : 0 < v) (y : ℝ) :
    t < |y| / Real.sqrt v ↔ t ^ 2 * v < y ^ 2 := by
  have root := Real.sqrt_pos.mpr spread
  rw [lt_div_iff₀ root, ← sq_abs y, ← sq_lt_sq₀ (mul_nonneg nonneg root.le) (abs_nonneg _), mul_pow,
    Real.sq_sqrt spread.le]

/-- With more, comparing the score to the threshold is comparing squares. -/
theorem detect_iff {entry : SensorStats EReal} {xs : List ℝ} (some : xs ≠ []) {x : ℝ}
    (summarizes : Summarizes entry (xs ++ [x])) {t : ℝ} (nonneg : 0 ≤ t) (anomalyMinSamples : Nat)
    (r : ReadingEnvelope EReal) (value : r.value = (x : EReal)) :
    detect (settings t anomalyMinSamples) entry r ≠ [] ↔
      anomalyMinSamples ≤ xs.length + 1 ∧ 0 < deviation (xs ++ [x]) / xs.length ∧
        t ^ 2 * (deviation (xs ++ [x]) / xs.length) < (x - mean (xs ++ [x])) ^ 2 := by
  have counted : entry.count = xs.length + 1 := by
    rw [summarizes.count, List.length_append, List.length_singleton]
  have deviates := summarizes.stddevSample some
  generalize deviation (xs ++ [x]) / xs.length = v at deviates ⊢
  unfold detect settings
  rw [counted, deviates]
  by_cases enough : anomalyMinSamples ≤ xs.length + 1
  · rw [if_pos enough]
    by_cases spread : 0 < v
    · have root := Real.sqrt_pos.mpr spread
      have level : F64.isFinite (Real.sqrt v : EReal) = true ∧ (0 : EReal) < (Real.sqrt v : EReal) :=
        ⟨isFinite_coe _, EReal.coe_pos.mpr root⟩
      rw [if_pos level]
      have score : F64.abs (r.value - entry.mean) / (Real.sqrt v : EReal) =
          ((|x - mean (xs ++ [x])| / Real.sqrt v : ℝ) : EReal) := by
        rw [value, summarizes.mean, coe_div, ← abs_coe, EReal.coe_sub]
      dsimp only
      rw [score]
      simp only [enough, spread, true_and, ← lt_abs_div_sqrt_iff nonneg spread]
      by_cases beyond : t < |x - mean (xs ++ [x])| / Real.sqrt v
      · rw [if_pos (EReal.coe_lt_coe_iff.mpr beyond)]
        simp [beyond]
      · rw [if_neg (mt EReal.coe_lt_coe_iff.mp beyond)]
        simp [beyond]
    · have level : ¬(F64.isFinite (Real.sqrt v : EReal) = true ∧ (0 : EReal) < (Real.sqrt v : EReal)) := by
        rintro ⟨-, root⟩
        exact spread (Real.sqrt_pos.mp (EReal.coe_pos.mp root))
      rw [if_neg level]
      simp [spread]
  · rw [if_neg enough]
    simp [enough]

/-- The worker records the reading that comes next in its window. -/
def Recorded (d : Detection EReal) (earlier : List (ReadingEnvelope ℝ)) (r : ReadingEnvelope ℝ) :
    Prop :=
  ∃ z, (observe d (sequential d (earlier.map finite)) (finite r)).anomalies =
    (sequential d (earlier.map finite)).anomalies ++ [⟨r.sensorId, r.ts, r.value, z⟩]

theorem recorded_iff (d : Detection EReal) (earlier : List (ReadingEnvelope ℝ))
    (r : ReadingEnvelope ℝ) : Recorded d earlier r ↔
      detect d (updated (sequential d (earlier.map finite)).bucket[r.sensorId]? (finite r))
        (finite r) ≠ [] := by
  constructor
  · rintro ⟨z, recorded⟩ none
    have record := List.append_cancel_left recorded
    exact List.cons_ne_nil _ _ (record.symm.trans none)
  · intro detects
    rcases detect_cases d (updated (sequential d (earlier.map finite)).bucket[r.sensorId]? (finite r))
      (finite r) with none | ⟨z, found⟩
    · exact absurd none detects
    · exact ⟨z, congrArg _ found⟩

/-- The window may hold readings of other sensors too; `n` counts those of the reading's own, with
itself. -/
theorem detection_limit (t : ℝ) (nonneg : 0 ≤ t) (anomalyMinSamples : Nat)
    (earlier : List (ReadingEnvelope ℝ)) (r : ReadingEnvelope ℝ) (n : Nat)
    (nth : (ofSensor earlier r.sensorId).length + 1 = n) :
    (Recorded (settings t anomalyMinSamples) earlier r → t ^ 2 * n < ((n : ℝ) - 1) ^ 2) ∧
      ∀ c, (∀ e ∈ ofSensor earlier r.sensorId, e.value = c) → 1 ≤ n - 1 → anomalyMinSamples ≤ n →
        r.value ≠ c → t ^ 2 * n < ((n : ℝ) - 1) ^ 2 → Recorded (settings t anomalyMinSamples) earlier r := by
  have summarizes := summarizes_updated (settings t anomalyMinSamples) earlier r
  have size : ((ofSensor earlier r.sensorId).map ReadingEnvelope.value).length + 1 = n := by
    rw [List.length_map, nth]
  have least : n = ((ofSensor earlier r.sensorId).map ReadingEnvelope.value).length + 1 := size.symm
  have values : ∀ c, (∀ e ∈ ofSensor earlier r.sensorId, e.value = c) →
      ∀ y ∈ (ofSensor earlier r.sensorId).map ReadingEnvelope.value, y = c := by
    intro c same y member
    obtain ⟨e, at_e, rfl⟩ := List.mem_map.mp member
    exact same e at_e
  rw [recorded_iff]
  generalize (ofSensor earlier r.sensorId).map ReadingEnvelope.value = xs
    at summarizes least values
  subst least
  rw [Nat.cast_add, Nat.cast_one, add_sub_cancel_right, Nat.add_sub_cancel]
  by_cases first : xs = []
  · subst first
    rw [detect_singleton summarizes]
    exact ⟨fun recorded => absurd rfl recorded, fun c _ more => absurd more (by decide)⟩
  · rw [detect_iff first summarizes nonneg anomalyMinSamples (finite r) rfl]
    constructor
    · rintro ⟨-, -, far⟩
      exact outlier_bound first far
    · intro c same _ enough differs bound
      have far := outlier_of_const first (values c same) differs bound
      refine ⟨enough, ?_, far⟩
      have apart := sub_ne_zero.mpr differs
      rw [variance_concat_of_const first (values c same)]
      positivity

/-- Nineteen readings of 20, and a twentieth a little above, under the default settings. -/
theorem detection_limit_twentieth :
    Recorded (settings 3 20) (List.replicate 19 ⟨"temp", 0, 20⟩) ⟨"temp", 1, 20.1⟩ := by
  have group : ofSensor (List.replicate 19 (⟨"temp", 0, 20⟩ : ReadingEnvelope ℝ)) "temp" =
      List.replicate 19 ⟨"temp", 0, 20⟩ := by
    simp [ofSensor]
  refine (detection_limit 3 (by norm_num) 20 _ ⟨"temp", 1, 20.1⟩ 20 ?_).2 20 ?_ (by decide)
    (by decide) (by norm_num) (by norm_num)
  · rw [group, List.length_replicate]
  · intro e member
    rw [group] at member
    rw [List.eq_of_mem_replicate member]

end SensorGateway.Statistics.DetectionLimit

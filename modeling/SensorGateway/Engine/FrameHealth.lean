import SensorGateway.Engine.Exactness
import SensorGateway.Statistics.DetectionLimit
import SensorGateway.Storage.Encoding

/-! What the engine makes of readings with finite values, in real numbers: the statistics of a frame are
those of its readings, and its anomalies are the readings that lie too far from the mean. -/

namespace SensorGateway.Engine.FrameHealth
open SensorGateway.Lib.Moments SensorGateway.Lib.Transition SensorGateway.Types
open SensorGateway.Statistics.DetectionLimit SensorGateway.Storage.Encoding
open Reduce Threads Window Exactness

/-- The values of the sensor's readings. -/
def valuesOf (readings : List (ReadingEnvelope ℝ)) (sensor : String) : List ℝ :=
  (ofSensor readings sensor).map ReadingEnvelope.value

theorem exists_real {readings : List (ReadingEnvelope EReal)}
    (numeric : ∀ r ∈ readings, F64.isFinite r.value = true) :
    ∃ rs : List (ReadingEnvelope ℝ), readings = rs.map finite := by
  induction readings with
  | nil => exact ⟨[], rfl⟩
  | cons r rest ih =>
    obtain ⟨here, others⟩ := List.forall_mem_cons.mp numeric
    obtain ⟨rs, rfl⟩ := ih others
    obtain ⟨notTop, notBot⟩ := of_decide_eq_true here
    lift r.value to ℝ using ⟨notTop, notBot⟩ with x value
    refine ⟨⟨r.sensorId, r.ts, x⟩ :: rs, ?_⟩
    rw [List.map_cons, finite, value]

theorem finite_injective : Function.Injective finite := by
  rintro ⟨sensor, ts, x⟩ ⟨sensor', ts', y⟩ same
  cases same
  rfl

theorem ofSensor_finite (rs : List (ReadingEnvelope ℝ)) (sensor : String) :
    ofSensor (rs.map finite) sensor = (ofSensor rs sensor).map finite := List.filter_map

/-- The least and the greatest of some values. -/
structure Extremes (stats : SensorStats EReal) (xs : List ℝ) : Prop where
  min : ∃ low ∈ xs, stats.min = (low : EReal) ∧ ∀ x ∈ xs, low ≤ x
  max : ∃ high ∈ xs, stats.max = (high : EReal) ∧ ∀ x ∈ xs, x ≤ high

theorem extremes_singleton (x : ℝ) : Extremes (SensorStats.default.update (x : EReal)) [x] where
  min := ⟨x, List.mem_singleton_self x, rfl, fun _ member => (List.mem_singleton.mp member).ge⟩
  max := ⟨x, List.mem_singleton_self x, rfl, fun _ member => (List.mem_singleton.mp member).le⟩

theorem Extremes.update {stats : SensorStats EReal} {xs : List ℝ} (extremes : Extremes stats xs)
    (counted : stats.count ≠ 0) (x : ℝ) : Extremes (stats.update (x : EReal)) (xs ++ [x]) := by
  obtain ⟨⟨low, lowest, least, below⟩, ⟨high, highest, greatest, above⟩⟩ := extremes
  unfold SensorStats.update
  rw [if_neg counted]
  constructor
  · by_cases less : x < low
    · refine ⟨x, List.mem_concat_self, ?_, ?_⟩
      · show (if (x : EReal) < stats.min then (x : EReal) else stats.min) = x
        rw [least, if_pos (EReal.coe_lt_coe_iff.mpr less)]
      · rw [List.forall_mem_append, List.forall_mem_singleton]
        exact ⟨fun y member => less.le.trans (below y member), le_rfl⟩
    · refine ⟨low, List.mem_append_left _ lowest, ?_, ?_⟩
      · show (if (x : EReal) < stats.min then (x : EReal) else stats.min) = low
        rw [least, if_neg (mt EReal.coe_lt_coe_iff.mp less)]
      · rw [List.forall_mem_append, List.forall_mem_singleton]
        exact ⟨below, not_lt.mp less⟩
  · by_cases more : high < x
    · refine ⟨x, List.mem_concat_self, ?_, ?_⟩
      · show (if stats.max < (x : EReal) then (x : EReal) else stats.max) = x
        rw [greatest, if_pos (EReal.coe_lt_coe_iff.mpr more)]
      · rw [List.forall_mem_append, List.forall_mem_singleton]
        exact ⟨fun y member => (above y member).trans more.le, le_rfl⟩
    · refine ⟨high, List.mem_append_left _ highest, ?_, ?_⟩
      · show (if stats.max < (x : EReal) then (x : EReal) else stats.max) = high
        rw [greatest, if_neg (mt EReal.coe_lt_coe_iff.mp more)]
      · rw [List.forall_mem_append, List.forall_mem_singleton]
        exact ⟨above, not_lt.mp more⟩

theorem extremes_foldl (group : List (ReadingEnvelope ℝ)) (some : group ≠ []) :
    Extremes ((group.map finite).foldl (fun stats r => stats.update r.value) SensorStats.default)
      (group.map ReadingEnvelope.value) := by
  induction group using List.reverseRecOn with
  | nil => exact absurd rfl some
  | append_singleton rest r ih =>
    rw [List.map_append, List.foldl_append, List.map_append]
    by_cases first : rest = []
    · subst first
      exact extremes_singleton r.value
    · have counted := (summarizes_foldl rest first).count
      rw [List.length_map] at counted
      exact (ih first).update (counted.trans_ne (List.length_pos_iff.mpr first).ne') r.value

/-- The statistics are those of some values: the count, both extremes, the mean and the sum of squared
distances from it. -/
structure Describes (stats : SensorStats EReal) (xs : List ℝ) : Prop extends
  Summarizes stats xs, Extremes stats xs

theorem summary_describes {rs : List (ReadingEnvelope ℝ)} {sensor : String} {stats : SensorStats EReal}
    (present : summary (rs.map finite) sensor = some stats) :
    valuesOf rs sensor ≠ [] ∧ Describes stats (valuesOf rs sensor) := by
  unfold summary at present
  rw [ofSensor_finite] at present
  rw [valuesOf]
  cases group : ofSensor rs sensor with
  | nil =>
    rw [group] at present
    cases present
  | cons r rest =>
    rw [group] at present
    obtain rfl := Option.some.inj present
    have some := List.cons_ne_nil r rest
    exact ⟨List.cons_ne_nil _ _, summarizes_foldl _ some, extremes_foldl _ some⟩

theorem Describes.ordered {stats : SensorStats EReal} {xs : List ℝ} (describes : Describes stats xs)
    (some : xs ≠ []) : stats.min ≤ stats.mean ∧ stats.mean ≤ stats.max ∧ 0 ≤ stats.m2 := by
  obtain ⟨low, -, least, below⟩ := describes.min
  obtain ⟨high, -, greatest, above⟩ := describes.max
  rw [least, greatest, describes.mean, describes.m2]
  exact ⟨EReal.coe_le_coe_iff.mpr (le_mean some below), EReal.coe_le_coe_iff.mpr (mean_le some above),
    EReal.coe_nonneg.mpr (deviation_nonneg xs)⟩

theorem Describes.written {stats : SensorStats EReal} {xs : List ℝ} (describes : Describes stats xs) :
    StatsWritten stats := by
  obtain ⟨low, -, least, -⟩ := describes.min
  obtain ⟨high, -, greatest, -⟩ := describes.max
  unfold StatsWritten
  rw [least, greatest, describes.mean, describes.m2]
  exact ⟨isFinite_coe _, isFinite_coe _, isFinite_coe _, isFinite_coe _⟩

/-- The standard deviation of a sample. -/
noncomputable def spread (xs : List ℝ) : ℝ := Real.sqrt (deviation xs / ((xs.length : ℝ) - 1))

/-- How many standard deviations `x` is away from the mean. -/
noncomputable def score (xs : List ℝ) (x : ℝ) : ℝ := |x - mean xs| / spread xs

/-- The value lies too far from the mean of the values, of which there are enough to tell. -/
structure Outlying (d : Detection EReal) (xs : List ℝ) (x : ℝ) : Prop where
  enough : d.anomalyMinSamples ≤ xs.length
  spread : 0 < spread xs
  far : d.anomalyZThreshold < (score xs x : EReal)

theorem stddevSample_eq {entry : SensorStats EReal} {xs : List ℝ} (summarizes : Summarizes entry xs)
    (some : xs ≠ []) : entry.stddevSample = (spread xs : EReal) := by
  induction xs using List.reverseRecOn with
  | nil => exact absurd rfl some
  | append_singleton rest x =>
    by_cases first : rest = []
    · subst first
      have alone : entry.varianceSample = ((0 : ℝ) : EReal) := if_pos summarizes.count.le
      rw [SensorStats.stddevSample, alone, sqrt_coe, List.nil_append, spread, deviation_singleton,
        zero_div]
    · rw [summarizes.stddevSample first, spread, List.length_append, List.length_singleton, Nat.cast_add,
        Nat.cast_one, add_sub_cancel_right]

theorem mem_detect {d : Detection EReal} {entry : SensorStats EReal} {xs : List ℝ}
    (summarizes : Summarizes entry xs) (some : xs ≠ []) (r : ReadingEnvelope ℝ)
    (record : AnomalyRecord EReal) : record ∈ detect d entry (finite r) ↔
      Outlying d xs r.value ∧ record = ⟨r.sensorId, r.ts, r.value, score xs r.value⟩ := by
  have spreads : F64.isFinite (spread xs : EReal) = true ∧ (0 : EReal) < (spread xs : EReal) ↔
      0 < spread xs := by
    rw [isFinite_coe, EReal.coe_pos]
    exact and_iff_right rfl
  have scored : F64.abs ((r.value : EReal) - entry.mean) / (spread xs : EReal) =
      (score xs r.value : EReal) := by
    rw [summarizes.mean, score, coe_div, ← abs_coe, EReal.coe_sub]
  have tested : detect d entry (finite r) =
      if d.anomalyMinSamples ≤ xs.length then
        if F64.isFinite (spread xs : EReal) = true ∧ (0 : EReal) < (spread xs : EReal) then
          if d.anomalyZThreshold < (score xs r.value : EReal) then
            [⟨r.sensorId, r.ts, r.value, score xs r.value⟩]
          else []
        else []
      else [] := by
    unfold detect
    rw [summarizes.count, stddevSample_eq summarizes some]
    dsimp only [finite]
    rw [scored]
  rw [tested]
  by_cases enough : d.anomalyMinSamples ≤ xs.length
  · rw [if_pos enough]
    by_cases wide : 0 < spread xs
    · rw [if_pos (spreads.mpr wide)]
      by_cases far : d.anomalyZThreshold < (score xs r.value : EReal)
      · rw [if_pos far, List.mem_singleton]
        exact (and_iff_right ⟨enough, wide, far⟩).symm
      · rw [if_neg far]
        exact iff_of_false List.not_mem_nil fun outlying => far outlying.1.far
    · rw [if_neg (mt spreads.mp wide)]
      exact iff_of_false List.not_mem_nil fun outlying => wide outlying.1.spread
  · rw [if_neg enough]
    exact iff_of_false List.not_mem_nil fun outlying => enough outlying.1.enough

/-- The record is about one of the readings, which is an outlier among the readings of its sensor up to
it, itself included. -/
def AboutReading (d : Detection EReal) (rs : List (ReadingEnvelope ℝ)) (record : AnomalyRecord EReal) :
    Prop :=
  ∃ before r after, rs = before ++ r :: after ∧
    Outlying d (valuesOf (before ++ [r]) r.sensorId) r.value ∧
    record = ⟨r.sensorId, r.ts, r.value, score (valuesOf (before ++ [r]) r.sensorId) r.value⟩

theorem valuesOf_concat (before : List (ReadingEnvelope ℝ)) (r : ReadingEnvelope ℝ) :
    valuesOf (before ++ [r]) r.sensorId = valuesOf before r.sensorId ++ [r.value] := by
  simp [valuesOf, ofSensor]

theorem aboutReading_concat {d : Detection EReal} {rs : List (ReadingEnvelope ℝ)}
    {r : ReadingEnvelope ℝ} {record : AnomalyRecord EReal} :
    AboutReading d (rs ++ [r]) record ↔ AboutReading d rs record ∨
      Outlying d (valuesOf (rs ++ [r]) r.sensorId) r.value ∧
        record = ⟨r.sensorId, r.ts, r.value, score (valuesOf (rs ++ [r]) r.sensorId) r.value⟩ := by
  constructor
  · rintro ⟨before, r', after, split, about⟩
    rcases List.eq_nil_or_concat after with rfl | ⟨after, last, rfl⟩
    · obtain ⟨rfl, rfl⟩ := List.append_singleton_inj.mp split
      exact Or.inr about
    · rw [List.concat_eq_append, ← List.cons_append, ← List.append_assoc] at split
      obtain ⟨rfl, rfl⟩ := List.append_singleton_inj.mp split
      exact Or.inl ⟨before, r', after, rfl, about⟩
  · rintro (⟨before, r', after, rfl, about⟩ | about)
    · exact ⟨before, r', after ++ [r], by rw [List.append_assoc, List.cons_append], about⟩
    · exact ⟨rs, r, [], rfl, about⟩

/-- One pass records every outlier, and nothing else. -/
theorem mem_anomalies_sequential (d : Detection EReal) (rs : List (ReadingEnvelope ℝ))
    (record : AnomalyRecord EReal) :
    record ∈ (sequential d (rs.map finite)).anomalies ↔ AboutReading d rs record := by
  induction rs using List.reverseRecOn with
  | nil =>
    refine iff_of_false List.not_mem_nil ?_
    rintro ⟨before, r, after, split, -⟩
    exact List.append_ne_nil_of_right_ne_nil before (List.cons_ne_nil r after) split.symm
  | append_singleton rest r ih =>
    have step : (sequential d ((rest ++ [r]).map finite)).anomalies =
        (sequential d (rest.map finite)).anomalies ++
          detect d (updated (sequential d (rest.map finite)).bucket[r.sensorId]? (finite r))
            (finite r) := by
      rw [List.map_append, sequential, List.foldl_append]
      rfl
    have summarizes := summarizes_updated d rest r
    rw [← valuesOf, ← valuesOf_concat] at summarizes
    have some : valuesOf (rest ++ [r]) r.sensorId ≠ [] := by
      rw [valuesOf_concat]
      exact List.concat_ne_nil _ _
    rw [step, List.mem_append, ih, mem_detect summarizes some, aboutReading_concat]

theorem AboutReading.written {d : Detection EReal} {rs : List (ReadingEnvelope ℝ)}
    {record : AnomalyRecord EReal} (about : AboutReading d rs record) : AnomalyWritten record := by
  obtain ⟨before, r, after, -, -, rfl⟩ := about
  exact ⟨isFinite_coe _, isFinite_coe _⟩

/-- The frame says what its readings say and nothing else, and JSON has every number of it. -/
structure Healthy (d : Detection EReal) (rs : List (ReadingEnvelope ℝ)) (frame : AggregatedFrame EReal) :
    Prop where
  sensors : ∀ sensor, frame.perSensor[sensor]? = none ↔ valuesOf rs sensor = []
  describes : ∀ sensor stats, frame.perSensor[sensor]? = some stats → Describes stats (valuesOf rs sensor)
  ordered : ∀ (sensor : String) (stats : SensorStats EReal), frame.perSensor[sensor]? = some stats →
    stats.min ≤ stats.mean ∧ stats.mean ≤ stats.max ∧ 0 ≤ stats.m2
  anomalies : ∀ record, record ∈ frame.anomalies ↔ AboutReading d rs record
  written : Written frame

theorem healthy_of_exact {d : Detection EReal} {k : Nat} {rs : List (ReadingEnvelope ℝ)}
    {frame : AggregatedFrame EReal} (exact_ : Exact d k (rs.map finite) frame) : Healthy d rs frame := by
  have entry (sensor : String) (stats : SensorStats EReal)
      (present : frame.perSensor[sensor]? = some stats) :
      valuesOf rs sensor ≠ [] ∧ Describes stats (valuesOf rs sensor) := by
    rw [exact_.perSensor] at present
    exact summary_describes present
  have recorded (record : AnomalyRecord EReal) :
      record ∈ frame.anomalies ↔ AboutReading d rs record := by
    have own : record ∈ anomaliesOf frame.anomalies record.sensorId ↔
        record ∈ anomaliesOf (sequential d (rs.map finite)).anomalies record.sensorId := by
      rw [exact_.anomalies]
    simpa [anomaliesOf, mem_anomalies_sequential] using own
  constructor
  · intro sensor
    rw [exact_.perSensor, summary, ofSensor_finite, valuesOf]
    cases ofSensor rs sensor with
    | nil => exact iff_of_true rfl rfl
    | cons r rest => exact iff_of_false (Option.some_ne_none _) (List.cons_ne_nil _ _)
  · exact fun sensor stats present => (entry sensor stats present).2
  · intro sensor stats present
    obtain ⟨some, describes⟩ := entry sensor stats present
    exact describes.ordered some
  · exact recorded
  · constructor
    · rintro ⟨sensor, stats⟩ member
      exact (entry sensor stats (Std.ExtTreeMap.mem_toList_iff_getElem?_eq_some.mp member)).2.written
    · exact fun record member => ((recorded record).mp member).written

/-- In every run of the engine on readings with finite values, every frame it makes is healthy. -/
theorem emitted_healthy (cfg : AggregationConfig EReal) (hash : String → Nat) (started : SystemTime)
    (s : State EReal cfg.workers) (reach : (engine cfg hash started).Reachable s)
    (numeric : ∀ r ∈ s.popped, F64.isFinite r.value = true) (k : Nat) (frame : AggregatedFrame EReal)
    (readings : List (ReadingEnvelope EReal)) (made : s.emitted[k]? = some (frame, readings)) :
    ∃ rs : List (ReadingEnvelope ℝ), readings = rs.map finite ∧ Healthy cfg.detection rs frame := by
  have recorded := recorded_reachable reach
  have among : ∀ r ∈ readings, F64.isFinite r.value = true := by
    intro r member
    apply numeric
    rw [recorded.popped]
    exact List.mem_append_left _
      (List.mem_flatMap.mpr ⟨(frame, readings), List.mem_of_getElem? made, member⟩)
  obtain ⟨rs, rfl⟩ := exists_real among
  exact ⟨rs, rfl, healthy_of_exact (recorded.exact k frame _ made)⟩

theorem outlying_second : Outlying ⟨((0 : ℝ) : EReal), 2⟩ [7, 9] 9 := by
  have middle : mean [(7 : ℝ), 9] = 8 := by norm_num [mean]
  have wide : deviation [(7 : ℝ), 9] = 2 := by norm_num [deviation, middle]
  have spreads : 0 < spread [7, 9] := by
    rw [spread, wide, Real.sqrt_pos]
    norm_num
  refine ⟨le_rfl, spreads, EReal.coe_lt_coe_iff.mpr (div_pos ?_ spreads)⟩
  rw [middle]
  norm_num

/-- The second of two readings that differ is an anomaly when the threshold is zero. -/
theorem emitted_healthy_second :
    ∃ (s : State EReal 2) (frame : AggregatedFrame EReal) (readings : List (ReadingEnvelope EReal)),
      s.emitted[0]? = some (frame, readings) ∧ frame.anomalies ≠ [] ∧
        Healthy ⟨((0 : ℝ) : EReal), 2⟩ [⟨"a", 1, 7⟩, ⟨"a", 2, 9⟩] frame := by
  let actions := twoReadings ⟨"a", 1, ((7 : ℝ) : EReal)⟩ ⟨"a", 2, ((9 : ℝ) : EReal)⟩ 7 3
  let system := engine (twoWorkers ((0 : ℝ) : EReal)) String.length 0
  let s := (system.run actions).get rfl
  have reach : system.Reachable s := System.reachable_of_run (Option.some_get _).symm
  have popped : s.popped = [⟨"a", 1, ((7 : ℝ) : EReal)⟩, ⟨"a", 2, ((9 : ℝ) : EReal)⟩] := rfl
  have numeric : ∀ r ∈ s.popped, F64.isFinite r.value = true := by
    rw [popped]
    simp [isFinite_coe]
  have made : s.emitted[0]?.map Prod.snd = some s.popped := rfl
  obtain ⟨⟨frame, readings⟩, there, rfl⟩ := Option.map_eq_some_iff.mp made
  obtain ⟨rs, same, healthy⟩ :=
    emitted_healthy (twoWorkers ((0 : ℝ) : EReal)) String.length 0 s reach numeric 0 frame s.popped there
  have known : rs = [⟨"a", 1, 7⟩, ⟨"a", 2, 9⟩] := by
    apply List.map_injective_iff.mpr finite_injective
    exact same.symm.trans popped
  subst known
  have about : AboutReading ⟨((0 : ℝ) : EReal), 2⟩ [⟨"a", 1, 7⟩, ⟨"a", 2, 9⟩]
      ⟨"a", 2, ((9 : ℝ) : EReal), score [7, 9] 9⟩ :=
    ⟨[⟨"a", 1, 7⟩], ⟨"a", 2, 9⟩, [], rfl, outlying_second, rfl⟩
  exact ⟨s, frame, s.popped, there, List.ne_nil_of_mem ((healthy.anomalies _).mpr about), healthy⟩

end SensorGateway.Engine.FrameHealth

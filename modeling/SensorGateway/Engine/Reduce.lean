import SensorGateway.Lib.Keyed
import SensorGateway.Types

/-! What the workers and the coordinator compute: the routing of a sensor, one worker's pass over its
readings, and the reduction of the workers' reports. -/

namespace SensorGateway.Engine.Reduce
open SensorGateway.Types SensorGateway.Lib.Keyed

/-- The anomaly detection settings of `AggregationConfig`. -/
structure Detection (F : Type) where
  anomalyZThreshold : F
  anomalyMinSamples : Nat

/-- A worker's `local_stats` and `anomalies`, which a rotation hands over. -/
structure WindowReport (F : Type) where
  bucket : SensorMap (SensorStats F)
  anomalies : List (AnomalyRecord F)

variable {F : Type}

/-- `hash` stands for the standard library's `DefaultHasher`. -/
def hashToWorker (hash : String → Nat) (sensorId : String) (workers : Nat) : Nat :=
  hash sensorId % workers

namespace WindowReport

/-- What `mem::take` leaves a worker with. -/
def empty : WindowReport F := ⟨∅, []⟩

end WindowReport

section Pass
variable [F64 F] (d : Detection F)

/-- The record a reading leaves, given the statistics it has just been folded into. -/
def detect (entry : SensorStats F) (r : ReadingEnvelope F) : List (AnomalyRecord F) :=
  if d.anomalyMinSamples ≤ entry.count then
    let std := entry.stddevSample
    if F64.isFinite std = true ∧ 0 < std then
      let z := F64.abs (r.value - entry.mean) / std
      if d.anomalyZThreshold < z then [⟨r.sensorId, r.ts, r.value, z⟩] else []
    else []
  else []

def updated (old : Option (SensorStats F)) (r : ReadingEnvelope F) : SensorStats F :=
  (old.getD SensorStats.default).update r.value

/-- A worker's handling of `WorkerMsg::Data`. -/
def observe (own : WindowReport F) (r : ReadingEnvelope F) : WindowReport F :=
  let entry := updated own.bucket[r.sensorId]? r
  ⟨own.bucket.insert r.sensorId entry, own.anomalies ++ detect d entry r⟩

/-- One pass over a list of readings, by a worker that starts with nothing. -/
def sequential (readings : List (ReadingEnvelope F)) : WindowReport F :=
  readings.foldl (observe d) WindowReport.empty

theorem tag_detect (entry : SensorStats F) (r : ReadingEnvelope F) (b : AnomalyRecord F)
    (member : b ∈ detect d entry r) : b.sensorId = r.sensorId := by
  simp only [detect] at member
  by_cases enough : d.anomalyMinSamples ≤ entry.count
  · rw [if_pos enough] at member
    by_cases spread : F64.isFinite entry.stddevSample = true ∧ 0 < entry.stddevSample
    · rw [if_pos spread] at member
      split at member
      · rw [List.mem_singleton.mp member]
      · cases member
    · rw [if_neg spread] at member
      cases member
  · rw [if_neg enough] at member
    cases member

/-- A worker keeps each sensor by itself. -/
def perSensor : KeyedFold (WindowReport F) (ReadingEnvelope F) String (SensorStats F)
    (AnomalyRecord F) where
  key := ReadingEnvelope.sensorId
  tag := AnomalyRecord.sensorId
  next := updated
  emit := detect d
  step := observe d
  get := fun own sensor => own.bucket[sensor]?
  out := WindowReport.anomalies
  get_step := by
    intro own r sensor
    by_cases same : r.sensorId = sensor
    · subst same
      simp [observe]
    · have apart : ¬compare r.sensorId sensor = Ordering.eq := by rwa [Std.compare_eq_iff_eq]
      simp only [observe, Std.ExtTreeMap.getElem?_insert, if_neg apart, if_neg same]
  out_step := fun _ _ => rfl
  tag_emit := tag_detect d

end Pass

/-- The readings of one sensor. -/
def ofSensor (readings : List (ReadingEnvelope F)) (sensor : String) : List (ReadingEnvelope F) :=
  readings.filter fun r => decide (r.sensorId = sensor)

/-- The anomalies of one sensor. -/
def anomaliesOf (anomalies : List (AnomalyRecord F)) (sensor : String) : List (AnomalyRecord F) :=
  anomalies.filter fun a => decide (a.sensorId = sensor)

section Summary
variable [F64 F]

/-- The readings of one sensor folded by `SensorStats::update` from the default state. -/
def summary (readings : List (ReadingEnvelope F)) (sensor : String) : Option (SensorStats F) :=
  match ofSensor readings sensor with
  | [] => none
  | group => some (group.foldl (fun stats r => stats.update r.value) SensorStats.default)

theorem foldl_updated (group : List (ReadingEnvelope F)) (stats : SensorStats F) :
    group.foldl (fun old r => some (updated old r)) (some stats) =
      some (group.foldl (fun stats r => stats.update r.value) stats) := by
  induction group generalizing stats with
  | nil => rfl
  | cons r rest ih =>
    rw [List.foldl_cons, List.foldl_cons]
    exact ih _

theorem count_foldl (group : List (ReadingEnvelope F)) (stats : SensorStats F) :
    (group.foldl (fun stats r => stats.update r.value) stats).count = stats.count + group.length := by
  induction group generalizing stats with
  | nil => rfl
  | cons r rest ih =>
    rw [List.foldl_cons, ih, SensorStats.count_update, List.length_cons]
    omega

/-- Every entry stands for as many readings as it counts, and for at least one. -/
theorem summary_count {readings : List (ReadingEnvelope F)} {sensor : String} {stats : SensorStats F}
    (present : summary readings sensor = some stats) :
    stats.count = (ofSensor readings sensor).length ∧ 1 ≤ stats.count := by
  unfold summary at present
  cases group : ofSensor readings sensor with
  | nil => simp [group] at present
  | cons r rest =>
    simp only [group, Option.some.injEq] at present
    subst present
    rw [count_foldl]
    simp [SensorStats.default]

theorem bucket_sequential (d : Detection F) (readings : List (ReadingEnvelope F)) (sensor : String) :
    (sequential d readings).bucket[sensor]? = summary readings sensor := by
  have folded := (perSensor d).get_run WindowReport.empty readings sensor
  have none : (perSensor d).get WindowReport.empty sensor = none := by
    simp [perSensor, WindowReport.empty]
  rw [none] at folded
  show (perSensor d).get ((perSensor d).run WindowReport.empty readings) sensor = _
  rw [folded]
  show (ofSensor readings sensor).foldl (fun old r => some (updated old r)) Option.none = _
  unfold summary
  cases ofSensor readings sensor with
  | nil => rfl
  | cons r rest => exact foldl_updated rest _

/-- Two passes that agree on a sensor's readings agree on its anomalies. -/
theorem anomalies_sequential (d : Detection F) {a b : List (ReadingEnvelope F)} {sensor : String}
    (same : ofSensor a sensor = ofSensor b sensor) :
    anomaliesOf (sequential d a).anomalies sensor = anomaliesOf (sequential d b).anomalies sensor := by
  have left := (perSensor d).filter_out_run WindowReport.empty a sensor
  have right := (perSensor d).filter_out_run WindowReport.empty b sensor
  have groups : (perSensor d).group sensor a = (perSensor d).group sensor b := same
  rw [groups, ← right] at left
  exact left

theorem anomalies_sequential_nil (d : Detection F) {readings : List (ReadingEnvelope F)}
    {sensor : String} (none : ofSensor readings sensor = []) :
    anomaliesOf (sequential d readings).anomalies sensor = [] :=
  anomalies_sequential d (b := []) (none.trans rfl)

/-- The body of the loop of `reduce_window_reports`. -/
def mergeReport (merged : SensorMap (SensorStats F) × List (AnomalyRecord F)) (rep : WindowReport F) :
    SensorMap (SensorStats F) × List (AnomalyRecord F) :=
  (mergeInto (fun old stats => (old.getD SensorStats.default).merge stats) merged.1 rep.bucket,
    merged.2 ++ rep.anomalies)

inductive WindowCollectError where
  | timeout
  | disconnected
  deriving DecidableEq, Repr

/-- What one `recv_timeout` on the report channel comes back with. -/
inductive Received (F : Type) where
  | report (rep : WindowReport F)
  | timeout
  | disconnected

/-- `reduce_window_reports` from what has been merged so far. The answers of the channel come in the
order given; where they end before the function does, it has no result yet. -/
def reduceFrom (merged : SensorMap (SensorStats F) × List (AnomalyRecord F)) :
    Nat → List (Received F) →
      Option (Except WindowCollectError (SensorMap (SensorStats F) × List (AnomalyRecord F)))
  | 0, _ => some (.ok merged)
  | _ + 1, [] => none
  | expected + 1, .report rep :: rest => reduceFrom (mergeReport merged rep) expected rest
  | _ + 1, .timeout :: _ => some (.error .timeout)
  | _ + 1, .disconnected :: _ => some (.error .disconnected)

def reduceWindowReports (answers : List (Received F)) (expectedReports : Nat) :
    Option (Except WindowCollectError (SensorMap (SensorStats F) × List (AnomalyRecord F))) :=
  reduceFrom (∅, []) expectedReports answers

/-- A sensor that only one report knows is taken over as it is. -/
theorem getElem?_mergeReport (merged : SensorMap (SensorStats F) × List (AnomalyRecord F))
    (rep : WindowReport F) (sensor : String)
    (apart : merged.1[sensor]? = none ∨ rep.bucket[sensor]? = none) :
    (mergeReport merged rep).1[sensor]? = (rep.bucket[sensor]?).or merged.1[sensor]? := by
  rw [mergeReport, getElem?_mergeInto]
  cases found : rep.bucket[sensor]? with
  | none => rfl
  | some stats =>
    have fresh : merged.1[sensor]? = none := apart.resolve_right (by simp [found])
    simp only [fresh, Option.getD_none, Option.some_or]
    rw [SensorStats.merge_default]

theorem anomaliesOf_mergeReport (merged : SensorMap (SensorStats F) × List (AnomalyRecord F))
    (rep : WindowReport F) (sensor : String) :
    anomaliesOf (mergeReport merged rep).2 sensor =
      anomaliesOf merged.2 sensor ++ anomaliesOf rep.anomalies sensor := List.filter_append ..

end Summary

end SensorGateway.Engine.Reduce

import Mathlib.Data.Fintype.Card
import SensorGateway.Engine.Steps

/-! What a window's readings have become at each point of the engine: counted by a worker, on their way
to it, reported or merged. No step loses one, counts one twice or takes one from another window. -/

namespace SensorGateway.Engine.Window
open SensorGateway.Types SensorGateway.Lib.Transition Reduce Threads Steps
variable {F : Type} [F64 F] (cfg : AggregationConfig F) (hash : String → Nat)

/-- A frame is what one sequential pass over the readings makes of them. -/
structure Exact (d : Detection F) (windowId : Nat) (readings : List (ReadingEnvelope F))
    (frame : AggregatedFrame F) : Prop where
  windowId : frame.windowId = windowId
  perSensor : ∀ sensor, frame.perSensor[sensor]? = summary readings sensor
  anomalies : ∀ sensor, anomaliesOf frame.anomalies sensor =
    anomaliesOf (sequential d readings).anomalies sensor
  positive : ∀ (sensor : String) (stats : SensorStats F),
    frame.perSensor[sensor]? = some stats → 1 ≤ stats.count

/-- The readings determine an exact frame, up to the order between anomalies of different sensors. -/
theorem Exact.agree {d : Detection F} {j k : Nat} {readings : List (ReadingEnvelope F)}
    {a b : AggregatedFrame F} (left : Exact d j readings a) (right : Exact d k readings b) :
    a.perSensor = b.perSensor ∧ a.anomalies.Perm b.anomalies := by
  classical
  constructor
  · apply Std.ExtTreeMap.ext_getElem?
    intro sensor
    rw [left.perSensor, right.perSensor]
  · rw [List.perm_iff_count]
    intro record
    have same : anomaliesOf a.anomalies record.sensorId = anomaliesOf b.anomalies record.sensorId := by
      rw [left.anomalies, right.anomalies]
    have counted : ∀ anomalies : List (AnomalyRecord F),
        (anomaliesOf anomalies record.sensorId).count record = anomalies.count record :=
      fun _ => List.count_filter (by simp)
    rw [← counted, same, counted]

/-- The readings that go to one worker. -/
def share (i : Fin cfg.workers) (readings : List (ReadingEnvelope F)) : List (ReadingEnvelope F) :=
  readings.filter fun r => decide (home cfg hash r.sensorId = i)

/-- What the worker has to report about the readings. -/
def goal (i : Fin cfg.workers) (readings : List (ReadingEnvelope F)) : WindowReport F :=
  sequential cfg.detection (share cfg hash i readings)

/-- What the coordinator has merged once the workers in `senders` have reported. -/
structure Merged (readings : List (ReadingEnvelope F)) (senders : List (Fin cfg.workers))
    (merged : SensorMap (SensorStats F) × List (AnomalyRecord F)) : Prop where
  perSensor : ∀ sensor, merged.1[sensor]? =
    if home cfg hash sensor ∈ senders then summary readings sensor else none
  anomalies : ∀ sensor, anomaliesOf merged.2 sensor =
    if home cfg hash sensor ∈ senders
    then anomaliesOf (sequential cfg.detection readings).anomalies sensor else []

omit [F64 F] in
theorem ofSensor_share (i : Fin cfg.workers) (readings : List (ReadingEnvelope F)) (sensor : String) :
    ofSensor (share cfg hash i readings) sensor =
      if home cfg hash sensor = i then ofSensor readings sensor else [] := by
  rw [ofSensor, share, List.filter_filter]
  by_cases mine : home cfg hash sensor = i
  · rw [if_pos mine, ofSensor]
    apply List.filter_congr
    intro r _
    by_cases same : r.sensorId = sensor
    · simp [same, mine]
    · simp [same]
  · rw [if_neg mine, List.filter_eq_nil_iff]
    intro r _ both
    simp only [Bool.and_eq_true, decide_eq_true_eq] at both
    exact mine (both.1 ▸ both.2)

theorem goal_bucket (i : Fin cfg.workers) (readings : List (ReadingEnvelope F)) (sensor : String) :
    (goal cfg hash i readings).bucket[sensor]? =
      if home cfg hash sensor = i then summary readings sensor else none := by
  rw [goal, bucket_sequential, summary, ofSensor_share]
  by_cases mine : home cfg hash sensor = i
  · simp only [if_pos mine, summary]
  · simp only [if_neg mine]

theorem goal_anomalies (i : Fin cfg.workers) (readings : List (ReadingEnvelope F)) (sensor : String) :
    anomaliesOf (goal cfg hash i readings).anomalies sensor =
      if home cfg hash sensor = i
      then anomaliesOf (sequential cfg.detection readings).anomalies sensor else [] := by
  have shared := ofSensor_share cfg hash i readings sensor
  by_cases mine : home cfg hash sensor = i
  · rw [if_pos mine] at shared ⊢
    exact anomalies_sequential cfg.detection shared
  · rw [if_neg mine] at shared ⊢
    exact anomalies_sequential_nil cfg.detection shared

theorem goal_append (i : Fin cfg.workers) (readings : List (ReadingEnvelope F)) (r : ReadingEnvelope F) :
    goal cfg hash i (readings ++ [r]) =
      if home cfg hash r.sensorId = i then observe cfg.detection (goal cfg hash i readings) r
      else goal cfg hash i readings := by
  by_cases mine : home cfg hash r.sensorId = i
  · simp [goal, share, sequential, mine]
  · simp [goal, share, mine]

theorem merged_nil (readings : List (ReadingEnvelope F)) : Merged cfg hash readings [] (∅, []) :=
  ⟨fun sensor => by simp, fun _ => rfl⟩

/-- A report of a worker that has not reported yet adds that worker's sensors. -/
theorem Merged.report {readings : List (ReadingEnvelope F)} {senders : List (Fin cfg.workers)}
    {merged : SensorMap (SensorStats F) × List (AnomalyRecord F)}
    (held : Merged cfg hash readings senders merged) {i : Fin cfg.workers} (fresh : i ∉ senders) :
    Merged cfg hash readings (senders ++ [i]) (mergeReport merged (goal cfg hash i readings)) := by
  constructor
  · intro sensor
    have apart : merged.1[sensor]? = none ∨ (goal cfg hash i readings).bucket[sensor]? = none := by
      rw [held.perSensor, goal_bucket]
      by_cases mine : home cfg hash sensor = i
      · exact Or.inl (if_neg (mine ▸ fresh))
      · exact Or.inr (if_neg mine)
    rw [getElem?_mergeReport merged _ sensor apart, held.perSensor, goal_bucket]
    by_cases mine : home cfg hash sensor = i
    · have absent : home cfg hash sensor ∉ senders := mine ▸ fresh
      simp only [mine, if_true, List.mem_append, List.mem_singleton, or_true]
      rw [if_neg fresh, Option.or_none]
    · simp [mine]
  · intro sensor
    rw [anomaliesOf_mergeReport, held.anomalies, goal_anomalies]
    by_cases mine : home cfg hash sensor = i
    · simp [mine, fresh]
    · simp [mine]

/-- Once every worker has reported, the merged parts make an exact frame. -/
theorem Merged.exact {readings : List (ReadingEnvelope F)} {senders : List (Fin cfg.workers)}
    {merged : SensorMap (SensorStats F) × List (AnomalyRecord F)}
    (held : Merged cfg hash readings senders merged) (all : ∀ i, i ∈ senders) (windowId : Nat)
    (windowStart windowEnd : SystemTime) :
    Exact cfg.detection windowId readings
      ⟨windowId, windowStart, windowEnd, merged.1, merged.2⟩ := by
  have perSensor : ∀ sensor, merged.1[sensor]? = summary readings sensor := by
    intro sensor
    rw [held.perSensor, if_pos (all _)]
  refine ⟨rfl, perSensor, ?_, ?_⟩
  · intro sensor
    rw [held.anomalies, if_pos (all _)]
  · intro sensor stats present
    rw [perSensor] at present
    exact (summary_count present).2

/-- A list without repetition that names as many workers as there are names them all. -/
theorem mem_of_nodup_of_length {W : Nat} {senders : List (Fin W)} (distinct : senders.Nodup)
    (many : W ≤ senders.length) (i : Fin W) : i ∈ senders := by
  have card : senders.toFinset.card = senders.length := List.toFinset_card_of_nodup distinct
  have whole : senders.toFinset = Finset.univ := by
    apply Finset.eq_univ_of_card
    have bound := senders.toFinset.card_le_univ
    rw [Fintype.card_fin] at bound ⊢
    omega
  rw [← List.mem_toFinset, whole]
  exact Finset.mem_univ i

theorem exists_not_mem_of_length {W : Nat} {senders : List (Fin W)} (few : senders.length < W) :
    ∃ i, i ∉ senders := by
  by_contra all
  have whole : senders.toFinset = Finset.univ := by
    apply Finset.eq_univ_of_forall
    intro i
    rw [List.mem_toFinset]
    by_contra missing
    exact all ⟨i, missing⟩
  have bound := senders.toFinset_card_le
  rw [whole, Finset.card_univ, Fintype.card_fin] at bound
  omega

end SensorGateway.Engine.Window

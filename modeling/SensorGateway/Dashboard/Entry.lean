import SensorGateway.Dashboard.Endpoints

/-! What the endpoints say about a sensor, in terms of the frame whose JSON they have read. -/

namespace SensorGateway.Dashboard.Entry
open SensorGateway.Lib.Codec SensorGateway.Lib.Json SensorGateway.Types
open Storage.Encoding Storage.Texts Endpoints
variable {F : Type} [F64 F]

/-- The whole seconds of the window's end. -/
def endSeconds (frame : AggregatedFrame F) : Nat := frame.windowEnd.toNat / 1000000000

/-- The standard deviation, unless it rests on a sum that JSON does not have. -/
def stddevValue (stats : SensorStats F) : Value F :=
  if stats.count ≤ 1 then encodeF64 0
  else if F64.isFinite stats.m2 = true then encodeF64 stats.stddevSample else .null

/-- A frame's entry for a sensor: its statistics and exactly its anomalies. -/
def frameEntry (frame : AggregatedFrame F) (sensorId : String) : Value F :=
  let stats := frame.perSensor[sensorId]?
  let anomalies := frame.anomalies.filter fun record => record.sensorId = sensorId
  object
    [("window_id", encodeU64 frame.windowId),
      ("window_start", encodeOption ((encodeTime frame.windowStart).map Document.canonical)),
      ("window_end", encodeOption ((encodeTime frame.windowEnd).map Document.canonical)),
      ("sensor_id", .string sensorId),
      ("stats", encodeOption (stats.map fun stats => (encodeStats stats).canonical)),
      ("stddev_sample", encodeOption (stats.map stddevValue)),
      ("anomalies", .array
        (anomalies.filterMap fun record => (encodeAnomaly record).map Document.canonical))]

theorem lookup_toList {V : Type} (map : SensorMap V) (id : String) : map.toList.lookup id = map[id]? := by
  cases found : map.toList.lookup id with
  | none =>
    rw [List.lookup_eq_none_iff] at found
    cases there : map[id]? with
    | none => rfl
    | some value =>
      have member := Std.ExtTreeMap.mem_toList_iff_getElem?_eq_some.mpr there
      exact absurd (found (id, value) member) (by simp)
  | some value =>
    obtain ⟨before, after, split, -⟩ := List.lookup_eq_some_iff.mp found
    have member : (id, value) ∈ map.toList := by
      rw [split]
      exact List.mem_append_right _ List.mem_cons_self
    exact (Std.ExtTreeMap.mem_toList_iff_getElem?_eq_some.mp member).symm

theorem get_encodeSensors (perSensor : SensorMap (SensorStats F)) (id : String) :
    (encodeSensors perSensor).canonical.get id =
      perSensor[id]?.map fun stats => (encodeStats stats).canonical := by
  have names : (perSensor.toList.map fun entry => (entry.1, encodeStats entry.2)).map Prod.fst =
      perSensor.keys := by
    rw [List.map_map, ← Std.ExtTreeMap.map_fst_toList_eq_keys]
    rfl
  have lookups (entries : List (String × SensorStats F)) :
      (entries.map fun entry => (entry.1, encodeStats entry.2)).lookup id =
        (entries.lookup id).map encodeStats := by
    induction entries with
    | nil => rfl
    | cons entry rest ih =>
      rw [List.map_cons, List.lookup_cons, List.lookup_cons]
      by_cases here : (id == entry.1) = true
      · rw [here]
        rfl
      · rw [Bool.eq_false_iff.mpr here]
        exact ih
  rw [encodeSensors, Document.get_canonical, lookups, lookup_toList, Option.map_map]
  · rfl
  · rw [names]
    exact Std.ExtTreeMap.nodup_keys

theorem canonical_encodeF64 (x : F) : (encodeF64 x).canonical = encodeF64 x := by
  unfold encodeF64
  split <;> rfl

/-- The five fields of a frame in its JSON. -/
structure Reads (frame : AggregatedFrame F) (v : Value F) : Prop where
  windowId : v.get "window_id" = some (encodeU64 frame.windowId)
  windowStart : v.get "window_start" = (encodeTime frame.windowStart).map Document.canonical
  windowEnd : v.get "window_end" = (encodeTime frame.windowEnd).map Document.canonical
  perSensor : v.get "per_sensor" = some (encodeSensors frame.perSensor).canonical
  anomalies : ∃ values, frame.anomalies.mapM encodeAnomaly = some values ∧
    v.get "anomalies" = some (.array (values.map Document.canonical))

theorem reads_of_encodeFrame {frame : AggregatedFrame F} {v : Value F}
    (encoded : encodeFrame frame = some v) : Reads frame v.canonical := by
  obtain ⟨windowStart, windowEnd, anomalies, started, ended, flagged, rfl⟩ := encodeFrame_eq_some encoded
  have distinct : (["window_id", "window_start", "window_end", "per_sensor", "anomalies"]).Nodup := by
    decide
  constructor
  · exact Document.get_canonical distinct
  · rw [started]
    exact Document.get_canonical distinct
  · rw [ended]
    exact Document.get_canonical distinct
  · exact Document.get_canonical distinct
  · refine ⟨anomalies, flagged, ?_⟩
    rw [← Document.canonicalItems_eq]
    exact Document.get_canonical distinct

/-- The code's deviation, from the JSON of the statistics. -/
theorem stddevFromStats_encodeStats (stats : SensorStats F) :
    encodeOption ((stddevFromStats (encodeStats stats).canonical).map encodeF64) = stddevValue stats := by
  have distinct : (["count", "min", "max", "mean", "m2"]).Nodup := by decide
  have count : (encodeStats stats).canonical.get "count" = some (encodeU64 stats.count) :=
    Document.get_canonical distinct
  have m2 : (encodeStats stats).canonical.get "m2" = some (encodeF64 stats.m2) := by
    rw [← canonical_encodeF64 stats.m2]
    exact Document.get_canonical distinct
  have number : (encodeU64 stats.count : Value F).asU64 = some stats.count := rfl
  unfold stddevFromStats stddevValue
  simp only [count, m2, number, Option.bind_eq_bind, Option.bind_some, decodeF64_encodeF64]
  by_cases few : stats.count ≤ 1
  · rw [if_pos few, if_pos few]
    rfl
  · rw [if_neg few, if_neg few]
    by_cases finite : F64.isFinite stats.m2 = true
    · rw [if_pos finite, if_pos finite, SensorStats.stddevSample, SensorStats.varianceSample, if_neg few]
      rfl
    · rw [if_neg finite, if_neg finite]
      rfl

/-- The JSON of the anomalies is filtered as the anomalies are. -/
theorem filter_anomalies {records : List (AnomalyRecord F)} {values : List (Value F)}
    (encoded : records.mapM encodeAnomaly = some values) (id : String) :
    (values.map Document.canonical).filter
        (fun item => (item.get "sensor_id").bind Document.asStr = some id) =
      (records.filter fun record => record.sensorId = id).filterMap
        fun record => (encodeAnomaly record).map Document.canonical := by
  induction records generalizing values with
  | nil =>
    cases encoded
    rfl
  | cons record rest ih =>
    obtain ⟨v, tail, first, others, rfl⟩ := mapM_cons_eq_some.mp encoded
    have named : (v.canonical.get "sensor_id").bind Document.asStr = some record.sensorId := by
      obtain ⟨ts, -, rfl⟩ := encodeAnomaly_eq_some first
      have distinct : (["sensor_id", "ts", "value", "z"]).Nodup := by decide
      rw [Document.get_canonical]
      · rfl
      · exact distinct
    have behind := ih others
    by_cases here : record.sensorId = id
    · simp [named, here, first, behind]
    · simp [named, here, behind]

theorem sensorEntry_eq {frame : AggregatedFrame F} {v : Value F} (reads : Reads frame v)
    {sensorId : String} {stats : SensorStats F} (found : frame.perSensor[sensorId]? = some stats) :
    sensorEntry v (encodeStats stats).canonical sensorId = frameEntry frame sensorId := by
  obtain ⟨values, encoded, listed⟩ := reads.anomalies
  have anomalies : sensorAnomalies v sensorId =
      (frame.anomalies.filter fun record => record.sensorId = sensorId).filterMap
        fun record => (encodeAnomaly record).map Document.canonical := by
    rw [sensorAnomalies, listed, Option.bind_some, Document.asArray]
    exact filter_anomalies encoded sensorId
  rw [sensorEntry, frameEntry, reads.windowId, reads.windowStart, reads.windowEnd, anomalies,
    stddevFromStats_encodeStats]
  simp only [found]
  rfl

theorem mem_reread {json : SerdeJson F} (frame : AggregatedFrame F) (id : String) :
    id ∈ (json.rereadFrame frame).perSensor ↔ id ∈ frame.perSensor :=
  Std.ExtTreeMap.mem_map

/-- What is answered about a sensor from a frame. -/
def frameAnswer (json : SerdeJson F) (frame : AggregatedFrame F) (sensorId : String) : HttpResponse :=
  if sensorId ∈ frame.perSensor then jsonValueResponse json .ok (frameEntry frame sensorId)
  else errorResponse json .notFound "sensor not found in latest"

theorem sensorInFrame_eq (json : SerdeJson F) {frame : AggregatedFrame F} {v : Value F}
    (reads : Reads frame v) (sensorId : String) :
    sensorInFrame json v sensorId = frameAnswer json frame sensorId := by
  unfold sensorInFrame frameAnswer
  rw [reads.perSensor, Option.bind_some, get_encodeSensors]
  cases found : frame.perSensor[sensorId]? with
  | none =>
    rw [if_neg (by simpa using found)]
    rfl
  | some stats =>
    have there : sensorId ∈ frame.perSensor := by
      rw [Std.ExtTreeMap.mem_iff_isSome_getElem?, found, Option.isSome_some]
    rw [if_pos there]
    simp only [Option.map_some, sensorEntry_eq reads found]

end SensorGateway.Dashboard.Entry

import SensorGateway.Lib.Codec
import SensorGateway.Lib.JsonText
import SensorGateway.Storage.Persist

/-! The JSON of the records of `types.rs`, as the derived `Serialize` and `Deserialize` have it, and
`serde_json` as a parameter. -/

namespace SensorGateway.Storage.Encoding
open SensorGateway.Lib SensorGateway.Lib.Codec SensorGateway.Lib.Json SensorGateway.Types Disk Persist

/-- The floating-point numbers that JSON has. -/
abbrev FiniteF64 (F : Type) [F64 F] := {x : F // F64.isFinite x = true}

/-- `serde_json::Value`, or a text as a tree. -/
abbrev Value (F : Type) [F64 F] := Document (FiniteF64 F)

variable {F : Type} [F64 F]

def encodeF64 (x : F) : Value F :=
  if finite : F64.isFinite x = true then .float ⟨x, finite⟩ else .null

def encodeU64 (n : Nat) : Value F := .int (.ofNat n)

/-- A time before the epoch is refused. -/
def encodeTime (t : SystemTime) : Option (Value F) :=
  if t < 0 then none
  else some (.object
    [("secs_since_epoch", encodeU64 (t.toNat / 1000000000)),
      ("nanos_since_epoch", encodeU64 (t.toNat % 1000000000))])

def encodeStats (stats : SensorStats F) : Value F :=
  .object
    [("count", encodeU64 stats.count), ("min", encodeF64 stats.min), ("max", encodeF64 stats.max),
      ("mean", encodeF64 stats.mean), ("m2", encodeF64 stats.m2)]

def encodeAnomaly (record : AnomalyRecord F) : Option (Value F) := do
  let ts ← encodeTime record.ts
  some (.object
    [("sensor_id", .string record.sensorId), ("ts", ts), ("value", encodeF64 record.value),
      ("z", encodeF64 record.z)])

def encodeSensors (perSensor : SensorMap (SensorStats F)) : Value F :=
  .object (perSensor.toList.map fun entry => (entry.1, encodeStats entry.2))

def encodeFrame (frame : AggregatedFrame F) : Option (Value F) := do
  let windowStart ← encodeTime frame.windowStart
  let windowEnd ← encodeTime frame.windowEnd
  let anomalies ← frame.anomalies.mapM encodeAnomaly
  some (.object
    [("window_id", encodeU64 frame.windowId), ("window_start", windowStart),
      ("window_end", windowEnd), ("per_sensor", encodeSensors frame.perSensor),
      ("anomalies", .array anomalies)])

def encodeOption (value : Option (Value F)) : Value F := value.getD .null

def fileNameText (name : FileName) : String :=
  let stem := match name.stem with
    | .hour unixHour => "hour-" ++ String.ofList (JsonText.intText unixHour)
    | .latest => "latest"
    | .stats => "stats"
    | .snapshot => "snapshot"
  match name.extension with
  | none => stem
  | some .json => stem ++ ".json"
  | some .jsonl => stem ++ ".jsonl"
  | some .tmp => stem ++ ".tmp"

/-- The `json!` object of `persist_runtime_artifacts`. -/
def encodeIndex (index : LatestIndex) : Value F :=
  Document.canonical (.object
    [("window_id", encodeU64 index.windowId),
      ("window_end_unix", encodeOption (index.windowEndUnix.map encodeU64)),
      ("hour_file", encodeOption (index.hourFile.map fun name => .string (fileNameText name)))])

/-- `RuntimeSnapshot`. -/
def encodeSnapshot (latest stats : Value F) : Value F := .object [("latest", latest), ("stats", stats)]

/-! Reading the records back. An integer is a valid `f64`; `null` is not. The overflow checks of
`SystemTime`, which no written time fails, are left out. -/

def decodeF64 : Value F → Option F
  | .float x => some x.1
  | .int (.ofNat n) => some (F64.ofCount n)
  | .int (.negSucc n) => some (0 - F64.ofCount (n + 1))
  | _ => none

/-- The one member of that name. -/
def onlyMember (members : List (String × Value F)) (name : String) : Option (Value F) :=
  match members.filter fun member => member.1 = name with
  | [member] => some member.2
  | _ => none

/-- The fields of a struct, from an object or from an array. -/
def structFields (names : List String) : Value F → Option (List (Value F))
  | .object members => names.mapM (onlyMember members)
  | .array items => if items.length = names.length then some items else none
  | _ => none

/-- A struct that refuses unknown fields. -/
def strictFields (names : List String) (value : Value F) : Option (List (Value F)) :=
  match value with
  | .object members =>
    if members.all fun member => member.1 ∈ names then structFields names value else none
  | _ => structFields names value

/-- The nanoseconds are a `u32`, and may be more than a second. -/
def decodeTime (value : Value F) : Option SystemTime := do
  let [secs, nanos] ← strictFields ["secs_since_epoch", "nanos_since_epoch"] value | none
  let secs ← secs.asU64
  let nanos ← nanos.asU64
  if nanos < 2 ^ 32 then some ((secs * 1000000000 + nanos : Nat) : Int) else none

def decodeStats (value : Value F) : Option (SensorStats F) := do
  let [count, min, max, mean, m2] ← structFields ["count", "min", "max", "mean", "m2"] value | none
  some ⟨← count.asU64, ← decodeF64 min, ← decodeF64 max, ← decodeF64 mean, ← decodeF64 m2⟩

def decodeAnomaly (v : Value F) : Option (AnomalyRecord F) := do
  let [sensorId, ts, value, z] ← structFields ["sensor_id", "ts", "value", "z"] v | none
  some ⟨← sensorId.asStr, ← decodeTime ts, ← decodeF64 value, ← decodeF64 z⟩

/-- A `HashMap` takes the last of several members of one name. -/
def decodeSensors : Value F → Option (SensorMap (SensorStats F))
  | .object members => do
    let entries ← members.mapM fun member => (decodeStats member.2).map fun stats => (member.1, stats)
    some (Std.ExtTreeMap.ofList entries compare)
  | _ => none

def decodeFrame (value : Value F) : Option (AggregatedFrame F) := do
  let [windowId, windowStart, windowEnd, perSensor, anomalies] ←
    structFields ["window_id", "window_start", "window_end", "per_sensor", "anomalies"] value | none
  some ⟨← windowId.asU64, ← decodeTime windowStart, ← decodeTime windowEnd,
    ← decodeSensors perSensor, ← (← anomalies.asArray).mapM decodeAnomaly⟩

/-- JSON has a number for each of the statistics. -/
def StatsWritten (stats : SensorStats F) : Prop :=
  F64.isFinite stats.min = true ∧ F64.isFinite stats.max = true ∧
    F64.isFinite stats.mean = true ∧ F64.isFinite stats.m2 = true

def AnomalyWritten (record : AnomalyRecord F) : Prop :=
  F64.isFinite record.value = true ∧ F64.isFinite record.z = true

/-- JSON has every number of the frame. -/
def Written (frame : AggregatedFrame F) : Prop :=
  (∀ entry ∈ frame.perSensor.toList, StatsWritten entry.2) ∧
    ∀ record ∈ frame.anomalies, AnomalyWritten record

instance statsWrittenDecidable : DecidablePred (StatsWritten (F := F)) :=
  fun _ => inferInstanceAs (Decidable (_ ∧ _))

instance anomalyWrittenDecidable : DecidablePred (AnomalyWritten (F := F)) :=
  fun _ => inferInstanceAs (Decidable (_ ∧ _))

instance writtenDecidable : DecidablePred (Written (F := F)) :=
  fun _ => inferInstanceAs (Decidable (_ ∧ _))

theorem decodeF64_encodeF64 (x : F) :
    decodeF64 (encodeF64 x) = if F64.isFinite x = true then some x else none := by
  unfold encodeF64
  split <;> rfl

theorem asU64_encodeU64 (n : Nat) : (encodeU64 n : Value F).asU64 = some n := rfl

theorem encodeTime_eq_some {t : SystemTime} {v : Value F} (encoded : encodeTime t = some v) :
    0 ≤ t ∧ v = .object
      [("secs_since_epoch", encodeU64 (t.toNat / 1000000000)),
        ("nanos_since_epoch", encodeU64 (t.toNat % 1000000000))] := by
  unfold encodeTime at encoded
  rw [Option.ite_none_left_eq_some, Option.some.injEq] at encoded
  exact ⟨Int.not_lt.mp encoded.1, encoded.2.symm⟩

theorem decodeTime_encodeTime {t : SystemTime} {v : Value F} (encoded : encodeTime t = some v) :
    decodeTime v = some t := by
  obtain ⟨after, rfl⟩ := encodeTime_eq_some encoded
  obtain ⟨n, rfl⟩ := Int.eq_ofNat_of_zero_le after
  have whole : n / 1000000000 * 1000000000 + n % 1000000000 = n := by omega
  have fields : strictFields ["secs_since_epoch", "nanos_since_epoch"]
      (.object
        [("secs_since_epoch", (encodeU64 (n / 1000000000) : Value F)),
          ("nanos_since_epoch", encodeU64 (n % 1000000000))]) =
      some [encodeU64 (n / 1000000000), encodeU64 (n % 1000000000)] := by
    simp [strictFields, structFields, onlyMember]
  have small : n % 1000000000 < 2 ^ 32 := by omega
  rw [decodeTime, Int.toNat_natCast, fields]
  simp only [Option.bind_eq_bind, Option.bind_some, asU64_encodeU64, if_pos small, whole]

theorem decodeStats_encodeStats (stats : SensorStats F) :
    decodeStats (encodeStats stats) = if StatsWritten stats then some stats else none := by
  have fields : structFields ["count", "min", "max", "mean", "m2"] (encodeStats stats) =
      some [encodeU64 stats.count, encodeF64 stats.min, encodeF64 stats.max, encodeF64 stats.mean,
        encodeF64 stats.m2] := by
    simp [encodeStats, structFields, onlyMember]
  rw [decodeStats, fields]
  simp only [Option.bind_eq_bind, Option.bind_some, asU64_encodeU64, decodeF64_encodeF64, guarded_bind,
    ← ite_and]
  rfl

theorem encodeAnomaly_eq_some {record : AnomalyRecord F} {v : Value F}
    (encoded : encodeAnomaly record = some v) :
    ∃ ts, encodeTime record.ts = some ts ∧ v = .object
      [("sensor_id", .string record.sensorId), ("ts", ts), ("value", encodeF64 record.value),
        ("z", encodeF64 record.z)] := by
  unfold encodeAnomaly at encoded
  cases time : encodeTime (F := F) record.ts with
  | none => simp [time] at encoded
  | some ts =>
    simp only [time, Option.bind_eq_bind, Option.bind_some, Option.some.injEq] at encoded
    exact ⟨ts, rfl, encoded.symm⟩

/-- An anomaly's time has always been written. -/
theorem decodeAnomaly_encodeAnomaly :
    ReadsBack (encodeAnomaly (F := F)) decodeAnomaly AnomalyWritten := by
  intro record v encoded
  obtain ⟨ts, time, rfl⟩ := encodeAnomaly_eq_some encoded
  have fields : structFields ["sensor_id", "ts", "value", "z"]
      (.object
        [("sensor_id", .string record.sensorId), ("ts", ts), ("value", encodeF64 record.value),
          ("z", encodeF64 record.z)]) =
      some [.string record.sensorId, ts, encodeF64 record.value, encodeF64 record.z] := by
    simp [structFields, onlyMember]
  rw [decodeAnomaly, fields]
  simp only [Option.bind_eq_bind, Option.bind_some, Document.asStr, decodeTime_encodeTime time,
    decodeF64_encodeF64, guarded_bind, ← ite_and]
  rfl

theorem ofList_toList {V : Type} (map : SensorMap V) : Std.ExtTreeMap.ofList map.toList compare = map := by
  apply Std.ExtTreeMap.ext_getElem?
  intro id
  cases found : map[id]? with
  | some value =>
    exact Std.ExtTreeMap.getElem?_ofList_of_mem Std.ReflCmp.compare_self map.distinct_keys_toList
      (Std.ExtTreeMap.mem_toList_iff_getElem?_eq_some.mpr found)
  | none =>
    apply Std.ExtTreeMap.getElem?_ofList_of_contains_eq_false
    rw [Std.ExtTreeMap.map_fst_toList_eq_keys, Std.ExtTreeMap.contains_keys,
      Std.ExtTreeMap.contains_eq_isSome_getElem?, found, Option.isSome_none]

theorem decodeSensors_encodeSensors (perSensor : SensorMap (SensorStats F)) :
    decodeSensors (encodeSensors perSensor) =
      if ∀ entry ∈ perSensor.toList, StatsWritten entry.2 then some perSensor else none := by
  have entries : ReadsBack
      (fun entry : String × SensorStats F => some (entry.1, encodeStats entry.2))
      (fun member => (decodeStats member.2).map fun stats => (member.1, stats))
      (fun entry => StatsWritten entry.2) := by
    rintro ⟨id, stats⟩ member encoded
    cases encoded
    simp only [decodeStats_encodeStats]
    by_cases survives : StatsWritten stats
    · rw [if_pos survives, if_pos survives, Option.map_some]
    · rw [if_neg survives, if_neg survives, Option.map_none]
  have all := entries.list perSensor.toList _ (List.mapM_pure ..)
  rw [encodeSensors, decodeSensors, all]
  by_cases survive : ∀ entry ∈ perSensor.toList, StatsWritten entry.2
  · rw [if_pos survive, if_pos survive]
    show some (Std.ExtTreeMap.ofList perSensor.toList compare) = _
    rw [ofList_toList]
  · rw [if_neg survive, if_neg survive]
    rfl

theorem encodeFrame_eq_some {frame : AggregatedFrame F} {v : Value F} (encoded : encodeFrame frame = some v) :
    ∃ windowStart windowEnd anomalies, encodeTime frame.windowStart = some windowStart ∧
      encodeTime frame.windowEnd = some windowEnd ∧
      frame.anomalies.mapM encodeAnomaly = some anomalies ∧
      v = .object
        [("window_id", encodeU64 frame.windowId), ("window_start", windowStart),
          ("window_end", windowEnd), ("per_sensor", encodeSensors frame.perSensor),
          ("anomalies", .array anomalies)] := by
  unfold encodeFrame at encoded
  cases started : encodeTime (F := F) frame.windowStart with
  | none => simp [started] at encoded
  | some windowStart =>
    cases ended : encodeTime (F := F) frame.windowEnd with
    | none => simp [started, ended] at encoded
    | some windowEnd =>
      cases flagged : frame.anomalies.mapM encodeAnomaly with
      | none => simp [started, ended, flagged] at encoded
      | some anomalies =>
        simp only [started, ended, flagged, Option.bind_eq_bind, Option.bind_some, Option.some.injEq]
          at encoded
        exact ⟨windowStart, windowEnd, anomalies, rfl, rfl, rfl, encoded.symm⟩

/-- A frame comes back from its JSON unless one of its numbers has none. -/
theorem decodeFrame_encodeFrame : ReadsBack (encodeFrame (F := F)) decodeFrame Written := by
  intro frame v encoded
  obtain ⟨windowStart, windowEnd, anomalies, started, ended, flagged, rfl⟩ := encodeFrame_eq_some encoded
  have fields : structFields ["window_id", "window_start", "window_end", "per_sensor", "anomalies"]
      (.object
        [("window_id", encodeU64 frame.windowId), ("window_start", windowStart),
          ("window_end", windowEnd), ("per_sensor", encodeSensors frame.perSensor),
          ("anomalies", .array anomalies)]) =
      some [encodeU64 frame.windowId, windowStart, windowEnd, encodeSensors frame.perSensor,
        .array anomalies] := by
    simp [structFields, onlyMember]
  have records := decodeAnomaly_encodeAnomaly.list frame.anomalies anomalies flagged
  rw [decodeFrame, fields]
  simp only [Option.bind_eq_bind, Option.bind_some, asU64_encodeU64, decodeTime_encodeTime started,
    decodeTime_encodeTime ended, decodeSensors_encodeSensors, Document.asArray, records, guarded_bind,
    ← ite_and]
  rfl

theorem depth_encodeF64 (x : F) : (encodeF64 x).depth = 0 := by
  unfold encodeF64
  split <;> rfl

theorem depth_encodeTime {t : SystemTime} {v : Value F} (encoded : encodeTime t = some v) :
    v.depth = 1 := by
  obtain ⟨-, rfl⟩ := encodeTime_eq_some encoded
  rfl

theorem depth_encodeStats (stats : SensorStats F) : (encodeStats stats).depth = 1 := by
  simp [encodeStats, Document.depth, Document.depthMembers, depth_encodeF64, encodeU64]

theorem depth_encodeSensors (perSensor : SensorMap (SensorStats F)) :
    (encodeSensors perSensor).depth ≤ 2 := by
  have members (entries : List (String × SensorStats F)) :
      Document.depthMembers (entries.map fun entry => (entry.1, encodeStats entry.2)) ≤ 1 := by
    induction entries with
    | nil => exact Nat.zero_le _
    | cons entry rest ih =>
      rw [List.map_cons, Document.depthMembers, depth_encodeStats]
      omega
  have bound := members perSensor.toList
  rw [encodeSensors, Document.depth]
  omega

theorem depth_encodeAnomaly {record : AnomalyRecord F} {v : Value F}
    (encoded : encodeAnomaly record = some v) : v.depth = 2 := by
  obtain ⟨ts, time, rfl⟩ := encodeAnomaly_eq_some encoded
  simp [Document.depth, Document.depthMembers, depth_encodeF64, depth_encodeTime time]

theorem depth_encodeAnomalies {records : List (AnomalyRecord F)} {values : List (Value F)}
    (encoded : records.mapM encodeAnomaly = some values) : Document.depthItems values ≤ 2 := by
  induction records generalizing values with
  | nil =>
    cases encoded
    exact Nat.zero_le _
  | cons record rest ih =>
    obtain ⟨v, tail, first, others, rfl⟩ := mapM_cons_eq_some.mp encoded
    have behind := ih others
    rw [Document.depthItems, depth_encodeAnomaly first]
    omega

theorem depth_encodeFrame {frame : AggregatedFrame F} {v : Value F} (encoded : encodeFrame frame = some v) :
    v.depth ≤ 4 := by
  obtain ⟨windowStart, windowEnd, anomalies, started, ended, flagged, rfl⟩ := encodeFrame_eq_some encoded
  have sensors := depth_encodeSensors frame.perSensor
  have records := depth_encodeAnomalies flagged
  simp only [Document.depth, Document.depthMembers, encodeU64, depth_encodeTime started,
    depth_encodeTime ended]
  omega

end SensorGateway.Storage.Encoding

import SensorGateway.Storage.Encoding

/-! A number that has been printed and parsed may be a neighbour of what it was. What that makes of the
records: their JSON has the other numbers, and nothing else changes. -/

namespace SensorGateway.Storage.Reread
open SensorGateway.Lib SensorGateway.Lib.Codec SensorGateway.Lib.Json SensorGateway.Types Persist Encoding
variable {F : Type} [F64 F] (reread : FiniteF64 F → FiniteF64 F)

/-- Numbers that JSON does not have are not printed. -/
def rereadF64 (x : F) : F := if finite : F64.isFinite x = true then (reread ⟨x, finite⟩).1 else x

def rereadStats (stats : SensorStats F) : SensorStats F :=
  ⟨stats.count, rereadF64 reread stats.min, rereadF64 reread stats.max, rereadF64 reread stats.mean,
    rereadF64 reread stats.m2⟩

def rereadAnomaly (record : AnomalyRecord F) : AnomalyRecord F :=
  ⟨record.sensorId, record.ts, rereadF64 reread record.value, rereadF64 reread record.z⟩

def rereadFrame (frame : AggregatedFrame F) : AggregatedFrame F :=
  ⟨frame.windowId, frame.windowStart, frame.windowEnd,
    frame.perSensor.map fun _ stats => rereadStats reread stats,
    frame.anomalies.map (rereadAnomaly reread)⟩

variable {reread}

theorem isFinite_rereadF64 (x : F) : F64.isFinite (rereadF64 reread x) = F64.isFinite x := by
  unfold rereadF64
  split
  · next finite => rw [finite, (reread ⟨x, finite⟩).2]
  · rfl

theorem encodeF64_reread (x : F) : encodeF64 (rereadF64 reread x) = (encodeF64 x).map reread := by
  by_cases finite : F64.isFinite x = true
  · have still : F64.isFinite (rereadF64 reread x) = true := (isFinite_rereadF64 x).trans finite
    rw [encodeF64, dif_pos still, encodeF64, dif_pos finite, Document.map]
    congr 2
    rw [rereadF64, dif_pos finite]
  · have still : ¬F64.isFinite (rereadF64 reread x) = true :=
      (isFinite_rereadF64 x).trans_ne finite
    rw [encodeF64, dif_neg still, encodeF64, dif_neg finite, Document.map]

theorem map_encodeTime {t : SystemTime} {v : Value F} (encoded : encodeTime t = some v) :
    v.map reread = v := by
  obtain ⟨-, rfl⟩ := encodeTime_eq_some encoded
  rfl

theorem encodeStats_reread (stats : SensorStats F) :
    encodeStats (rereadStats reread stats) = (encodeStats stats).map reread := by
  simp only [encodeStats, rereadStats, encodeF64_reread, Document.map, Document.mapMembers]
  rfl

theorem encodeAnomaly_reread (record : AnomalyRecord F) :
    encodeAnomaly (rereadAnomaly reread record) = (encodeAnomaly record).map (Document.map reread) := by
  unfold encodeAnomaly rereadAnomaly
  cases time : encodeTime (F := F) record.ts with
  | none => rfl
  | some ts =>
    simp only [Option.bind_eq_bind, Option.bind_some, Option.map_some, encodeF64_reread, Document.map,
      Document.mapMembers, map_encodeTime time]

theorem encodeSensors_reread (perSensor : SensorMap (SensorStats F)) :
    encodeSensors (perSensor.map fun _ stats => rereadStats reread stats) =
      (encodeSensors perSensor).map reread := by
  rw [encodeSensors, encodeSensors, Document.map, Document.mapMembers_eq, Std.ExtTreeMap.toList_map,
    List.map_map, List.map_map]
  congr 2
  funext entry
  exact congrArg (Prod.mk entry.1) (encodeStats_reread entry.2)

theorem mapM_encodeAnomaly_reread (records : List (AnomalyRecord F)) :
    (records.map (rereadAnomaly reread)).mapM encodeAnomaly =
      (records.mapM encodeAnomaly).map (List.map (Document.map reread)) := by
  induction records with
  | nil => rfl
  | cons record rest ih =>
    rw [List.map_cons, List.mapM_cons, List.mapM_cons, encodeAnomaly_reread, ih]
    cases encodeAnomaly record with
    | none => rfl
    | some v =>
      cases rest.mapM encodeAnomaly with
      | none => rfl
      | some values => rfl

/-- The JSON of a frame with its numbers read back. -/
theorem encodeFrame_reread (frame : AggregatedFrame F) :
    encodeFrame (rereadFrame reread frame) = (encodeFrame frame).map (Document.map reread) := by
  unfold encodeFrame rereadFrame
  simp only [mapM_encodeAnomaly_reread, encodeSensors_reread]
  cases started : encodeTime (F := F) frame.windowStart with
  | none => rfl
  | some windowStart =>
    cases ended : encodeTime (F := F) frame.windowEnd with
    | none => rfl
    | some windowEnd =>
      cases frame.anomalies.mapM encodeAnomaly with
      | none => rfl
      | some anomalies =>
        simp only [Option.bind_eq_bind, Option.bind_some, Option.map_some, Document.map,
          Document.mapMembers, Document.mapItems_eq, map_encodeTime started, map_encodeTime ended]
        rfl

theorem statsWritten_reread (stats : SensorStats F) :
    StatsWritten (rereadStats reread stats) ↔ StatsWritten stats := by
  simp only [StatsWritten, rereadStats, isFinite_rereadF64]

/-- Reading back loses no number that was there. -/
theorem written_reread (frame : AggregatedFrame F) :
    Written (rereadFrame reread frame) ↔ Written frame := by
  rw [Written, Written, rereadFrame, Std.ExtTreeMap.toList_map, List.forall_mem_map,
    List.forall_mem_map]
  simp only [statsWritten_reread, AnomalyWritten, rereadAnomaly, isFinite_rereadF64]

/-- Where every number is read back as it is, so is every frame. -/
theorem rereadFrame_of_fixed (fixed : ∀ x, reread x = x) (frame : AggregatedFrame F) :
    rereadFrame reread frame = frame := by
  have number (x : F) : rereadF64 reread x = x := by
    unfold rereadF64
    split
    · rw [fixed]
    · rfl
  have stats : (fun (_ : String) (stats : SensorStats F) => rereadStats reread stats) =
      fun _ stats => stats := by
    funext _ stats
    simp only [rereadStats, number]
  have anomaly : rereadAnomaly reread = id := by
    funext record
    simp only [rereadAnomaly, number, id]
  rw [rereadFrame, stats, anomaly, Std.ExtTreeMap.map_id, List.map_id]

end SensorGateway.Storage.Reread

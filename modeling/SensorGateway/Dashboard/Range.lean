import SensorGateway.Dashboard.Entry
import SensorGateway.Lib.Grouping
import SensorGateway.Storage.Collection

/-! The time range query against the stored log: the hour files it opens are those in which storage has
put the frames it is asked for. -/

namespace SensorGateway.Dashboard.Range
open SensorGateway.Lib.Codec SensorGateway.Lib.Grouping SensorGateway.Lib.Json
open SensorGateway.Lib.JsonText SensorGateway.Lib.Lines SensorGateway.Lib.Saturating
open SensorGateway.Lib.ExtendedRat SensorGateway.Lib.Transition SensorGateway.Types
open Storage.Disk Storage.Persist Storage.HourlyLog Storage.Encoding Storage.Reread Storage.Texts
open Storage.Collection
open Endpoints Entry
variable {F : Type} [F64 F]

/-- The frame ends in the range and knows the sensor. -/
def Matches (sensorId : String) (sinceS untilS : Nat) (frame : AggregatedFrame F) : Prop :=
  sinceS ≤ endSeconds frame ∧ endSeconds frame ≤ untilS ∧ sensorId ∈ frame.perSensor

instance matchesDecidable (sensorId : String) (sinceS untilS : Nat) :
    DecidablePred (Matches (F := F) sensorId sinceS untilS) :=
  fun _ => inferInstanceAs (Decidable (_ ∧ _))

/-- The frames of the range, once each, hour by hour and within an hour as they were stored. -/
structure Exactly (stored hits : List (AggregatedFrame F)) (wanted : AggregatedFrame F → Prop)
    [DecidablePred wanted] : Prop where
  perm : hits.Perm (stored.filter fun frame => wanted frame)
  hours : hits.Pairwise fun a b => frameHour a ≤ frameHour b
  order : ∀ hour, ofHour hits hour = (ofHour stored hour).filter fun frame => wanted frame

/-! The hours of the query. -/

theorem le_of_parseU64Opt {query : Option String} {n : Nat} (parsed : parseU64Opt query = some n) :
    n ≤ u64Max := by
  obtain ⟨s, -, parsed⟩ := Option.bind_eq_some_iff.mp parsed
  exact of_decide_eq_true (Option.filter_eq_some_iff.mp parsed).2

/-- No second of a `u64` lies in an hour that an `i64` does not have. -/
theorem asI64_hour {n : Nat} (small : n ≤ u64Max) : asI64 (n / 3600) = ((n / 3600 : Nat) : Int) := by
  unfold u64Max at small
  apply Int.bmod_eq_of_le <;> omega

theorem mem_hourRange {first last hour : Int} :
    hour ∈ hourRange first last ↔ first ≤ hour ∧ hour ≤ last := by
  rw [hourRange, List.mem_map]
  constructor
  · rintro ⟨n, small, rfl⟩
    rw [List.mem_range] at small
    omega
  · intro between
    refine ⟨(hour - first).toNat, ?_, ?_⟩
    · rw [List.mem_range]
      omega
    · omega

theorem hourRange_ordered (first last : Int) : (hourRange first last).Pairwise (· < ·) := by
  rw [hourRange, List.pairwise_map]
  apply List.pairwise_lt_range.imp
  intro a b less
  omega

theorem nodup_hourRange (first last : Int) : (hourRange first last).Nodup :=
  (hourRange_ordered first last).imp fun less => less.ne

theorem secs_encodeTime {t : SystemTime} {v : Value F} (encoded : encodeTime t = some v) :
    unixSecsFromSystemtimeValue v.canonical = some (t.toNat / 1000000000) := by
  obtain ⟨-, rfl⟩ := encodeTime_eq_some encoded
  have distinct : (["secs_since_epoch", "nanos_since_epoch"]).Nodup := by decide
  rw [unixSecsFromSystemtimeValue, Document.get_canonical]
  · rfl
  · exact distinct

theorem endSecs_eq {frame : AggregatedFrame F} {v : Value F} (encoded : encodeFrame frame = some v) :
    ((v.canonical.get "window_end").bind unixSecsFromSystemtimeValue).getD 0 = endSeconds frame := by
  have reads := reads_of_encodeFrame encoded
  obtain ⟨-, windowEnd, -, -, ended, -, -⟩ := encodeFrame_eq_some encoded
  rw [reads.windowEnd, ended, Option.map_some, Option.bind_some, secs_encodeTime ended]
  rfl

variable (json : SerdeJson F)

variable {json} in
theorem scanLine_eq {frame : AggregatedFrame F} {v : Value F} {line : Text}
    (encoded : encodeFrame frame = some v) (read : json.toValue line = some v.canonical)
    (sensorId : String) (sinceS untilS : Nat) :
    scanLine json sensorId sinceS untilS line =
      if Matches sensorId sinceS untilS frame then some (frameEntry frame sensorId) else none := by
  have reads := reads_of_encodeFrame encoded
  rw [scanLine, read]
  simp only [Option.bind_eq_bind, Option.bind_some, endSecs_eq encoded, reads.perSensor,
    get_encodeSensors]
  by_cases outside : endSeconds frame < sinceS ∨ untilS < endSeconds frame
  · rw [if_pos outside, if_neg]
    rintro ⟨late, early, -⟩
    omega
  · rw [if_neg outside]
    rw [not_or, not_lt, not_lt] at outside
    cases found : frame.perSensor[sensorId]? with
    | none =>
      rw [if_neg]
      · rfl
      · rintro ⟨-, -, there⟩
        rw [Std.ExtTreeMap.mem_iff_isSome_getElem?, found] at there
        cases there
    | some stats =>
      have there : sensorId ∈ frame.perSensor := by
        rw [Std.ExtTreeMap.mem_iff_isSome_getElem?, found, Option.isSome_some]
      rw [if_pos ⟨outside.1, outside.2, there⟩, Option.map_some, Option.bind_some,
        sensorEntry_eq reads found]

/-- What an hour file says about a frame that matches, with its numbers as they are read back. -/
theorem scanLine_frameText (sensorId : String) (sinceS untilS : Nat) :
    ReadsAs json.frameText (scanLine json sensorId sinceS untilS) (Matches sensorId sinceS untilS)
      fun frame => frameEntry (json.rereadFrame frame) sensorId := by
  intro frame line written
  obtain ⟨v, encoded, rfl⟩ := json.frameText_eq_some.mp written
  rw [scanLine_eq (json.encodeFrame_reread encoded) (json.toValue_frame encoded)]
  have same : Matches sensorId sinceS untilS (json.rereadFrame frame) ↔
      Matches sensorId sinceS untilS frame :=
    and_congr_right fun _ => and_congr_right fun _ => mem_reread frame sensorId
  simp only [same]

theorem scanLine_return (sensorId : String) (sinceS untilS : Nat) :
    IgnoresReturns (scanLine json sensorId sinceS untilS) := by
  intro text
  rw [scanLine, scanLine, json.toValue_return text]

theorem scanLine_blank (sensorId : String) (sinceS untilS : Nat) (line : Text)
    (blank : isBlank line = true) : scanLine json sensorId sinceS untilS line = none := by
  rw [scanLine, json.toValue_blank line blank]
  rfl

variable {json}

/-- An hour file gives the entries of its matching frames, in their order. -/
theorem scanHour_eq {o : Observation} {stored : List (AggregatedFrame F)}
    (holding : Stored json.serde o stored) (sensorId : String) (sinceS untilS : Nat) (hour : Int) :
    scanHour json o sensorId sinceS untilS hour =
      (group frameHour (stored.filter fun frame => Matches sensorId sinceS untilS frame) hour).map
        fun frame => frameEntry (json.rereadFrame frame) sensorId := by
  have log := holding.log hour
  have scanned := filterMap_of_mapM (scanLine_frameText json sensorId sinceS untilS) log
  rw [← filter_group]
  refine Eq.trans ?_ scanned
  rw [scanHour, logAt]
  cases o.text (hourPath hour) with
  | none => rfl
  | some content =>
    exact (scanLine_return json sensorId sinceS untilS).filterMap_lines
      (scanLine_blank json sensorId sinceS untilS) content

/-- Storage puts a frame into the hour in which the query looks for it. -/
theorem frameHour_eq {frame : AggregatedFrame F} {v : Value F} (encoded : encodeFrame frame = some v) :
    frameHour frame = ((endSeconds frame / 3600 : Nat) : Int) := by
  obtain ⟨-, windowEnd, -, -, ended, -, -⟩ := encodeFrame_eq_some encoded
  obtain ⟨after, -⟩ := encodeTime_eq_some ended
  rw [frameHour, hourKeyFromSystemTime, unixSeconds, if_neg (Int.not_lt.mpr after), Option.getD_some,
    endSeconds]
  rfl

/-- The frames an hour range gives are exactly those that match. -/
theorem exactly_grouped {o : Observation} {stored : List (AggregatedFrame F)}
    (holding : Stored json.serde o stored) (sensorId : String) (sinceS untilS : Nat) :
    Exactly stored
      (grouped frameHour (stored.filter fun frame => Matches sensorId sinceS untilS frame)
        (hourRange ((sinceS / 3600 : Nat) : Int) ((untilS / 3600 : Nat) : Int)))
      (Matches sensorId sinceS untilS) := by
  have distinct := nodup_hourRange ((sinceS / 3600 : Nat) : Int) ((untilS / 3600 : Nat) : Int)
  have inside : ∀ frame ∈ stored.filter fun frame => decide (Matches sensorId sinceS untilS frame),
      frameHour frame ∈ hourRange ((sinceS / 3600 : Nat) : Int) ((untilS / 3600 : Nat) : Int) := by
    intro frame member
    obtain ⟨there, wanted⟩ := List.mem_filter.mp member
    obtain ⟨late, early, -⟩ := of_decide_eq_true wanted
    obtain ⟨line, serialized⟩ := holding.serialized there
    obtain ⟨v, encoded, -⟩ := json.frameText_eq_some.mp serialized
    rw [frameHour_eq encoded, mem_hourRange]
    have first := Nat.div_le_div_right (c := 3600) late
    have last := Nat.div_le_div_right (c := 3600) early
    omega
  constructor
  · refine (grouped_perm distinct).trans (.of_eq ?_)
    exact List.filter_eq_self.mpr fun frame member => decide_eq_true (inside frame member)
  · exact pairwise_grouped Int.le_refl
      ((hourRange_ordered _ _).imp fun less => Int.le_of_lt less)
  · intro hour
    have same : (ofHour stored hour).filter (fun frame => decide (Matches sensorId sinceS untilS frame)) =
        group frameHour (stored.filter fun frame => decide (Matches sensorId sinceS untilS frame)) hour :=
      filter_group stored hour _
    refine (group_grouped distinct hour).trans ?_
    rw [same]
    split
    · rfl
    · next outside =>
      symm
      rw [group, List.filter_eq_nil_iff]
      intro frame member here
      exact outside (of_decide_eq_true here ▸ inside frame member)

/-- A range is answered when its hours are at most 336 apart; a bound that is not given counts as the
least or greatest second there is. -/
theorem sensorRange_eq {o : Observation} {stored : List (AggregatedFrame F)}
    (holding : Stored json.serde o stored) (sensorId : String) {sinceOpt untilOpt : Option Nat}
    {sinceS untilS : Nat} (first : sinceOpt.getD 0 = sinceS) (last : untilOpt.getD u64Max = untilS)
    (ordered : sinceS ≤ untilS) (small : untilS ≤ u64Max)
    (short : untilS / 3600 - sinceS / 3600 ≤ 336) :
    sensorRange json o sensorId sinceOpt untilOpt =
      jsonValueResponse json .ok (rangeDocument sensorId sinceOpt untilOpt
        ((grouped frameHour (stored.filter fun frame => Matches sensorId sinceS untilS frame)
            (hourRange ((sinceS / 3600 : Nat) : Int) ((untilS / 3600 : Nat) : Int))).map
          fun frame => frameEntry (json.rereadFrame frame) sensorId)) := by
  have near : ¬(24 * 14 < i64SaturatingSub ((untilS / 3600 : Nat) : Int) ((sinceS / 3600 : Nat) : Int)) := by
    unfold i64SaturatingSub
    omega
  have out : (hourRange ((sinceS / 3600 : Nat) : Int) ((untilS / 3600 : Nat) : Int)).flatMap
      (scanHour json o sensorId sinceS untilS) =
      (grouped frameHour (stored.filter fun frame => Matches sensorId sinceS untilS frame)
        (hourRange ((sinceS / 3600 : Nat) : Int) ((untilS / 3600 : Nat) : Int))).map
          fun frame => frameEntry (json.rereadFrame frame) sensorId := by
    rw [grouped, List.map_flatMap]
    congr 1
    funext hour
    exact scanHour_eq holding sensorId sinceS untilS hour
  unfold sensorRange
  simp only [first, last, asI64_hour small, asI64_hour (ordered.trans small), if_neg near,
    if_neg (Nat.not_lt.mpr ordered), out]

/-- A range is too large when its hours are more than 336 apart. -/
theorem sensorRange_refused {o : Observation} (sensorId : String) {sinceOpt untilOpt : Option Nat}
    {sinceS untilS : Nat} (first : sinceOpt.getD 0 = sinceS) (last : untilOpt.getD u64Max = untilS)
    (small : untilS ≤ u64Max)
    (long : ¬untilS / 3600 - sinceS / 3600 ≤ 336) :
    sensorRange json o sensorId sinceOpt untilOpt =
      errorResponse json .badRequest "range too large (max 14 days)" := by
  have ordered : sinceS ≤ untilS := by omega
  have far : 24 * 14 < i64SaturatingSub ((untilS / 3600 : Nat) : Int) ((sinceS / 3600 : Nat) : Int) := by
    unfold i64SaturatingSub
    unfold u64Max at small
    omega
  unfold sensorRange
  simp only [first, last, asI64_hour small, asI64_hour (ordered.trans small), if_pos far,
    if_neg (Nat.not_lt.mpr ordered)]

theorem sensor_ranged {o : Observation} {sensorId : String} (named : sensorId ≠ "")
    {sinceQuery untilQuery : Option String}
    (ranged : (parseU64Opt sinceQuery).isSome ∨ (parseU64Opt untilQuery).isSome) :
    sensor json o (some sensorId) sinceQuery untilQuery =
      sensorRange json o sensorId (parseU64Opt sinceQuery) (parseU64Opt untilQuery) := by
  unfold sensor
  simp only [Option.getD_some, if_neg named, if_pos ranged]

/-- A range with both bounds, over whatever is stored. -/
theorem sensor_hits {o : Observation} {stored : List (AggregatedFrame F)}
    (holding : Stored json.serde o stored) {sensorId : String} (named : sensorId ≠ "")
    {sinceQuery untilQuery : String} {sinceS untilS : Nat}
    (since : parseU64Opt (some sinceQuery) = some sinceS)
    (til : parseU64Opt (some untilQuery) = some untilS) (ordered : sinceS ≤ untilS)
    (short : untilS / 3600 - sinceS / 3600 ≤ 336) :
    ∃ hits, Exactly stored hits (Matches sensorId sinceS untilS) ∧
      sensor json o (some sensorId) (some sinceQuery) (some untilQuery) =
        jsonValueResponse json .ok (rangeDocument sensorId (some sinceS) (some untilS)
          (hits.map fun frame => frameEntry (json.rereadFrame frame) sensorId)) := by
  refine ⟨_, exactly_grouped holding sensorId sinceS untilS, ?_⟩
  have first : (some sinceS).getD 0 = sinceS := rfl
  have last : (some untilS).getD u64Max = untilS := rfl
  rw [← sensorRange_eq holding sensorId first last ordered (le_of_parseU64Opt til) short,
    sensor_ranged named (by rw [since]; exact Or.inl rfl), since, til]

variable (json)

/-- For any accepted requests in an empty directory and any range the endpoint accepts. The entries have
the numbers of the frames as they are read back. -/
theorem range_exact (w : Worker F (Value F)) (reach : (worker json.serde fun _ => none).Reachable w)
    (all : AllAccepted w) (sensorId : String) (named : sensorId ≠ "") (sinceQuery untilQuery : String)
    (sinceS untilS : Nat) (since : parseU64Opt (some sinceQuery) = some sinceS)
    (til : parseU64Opt (some untilQuery) = some untilS) (ordered : sinceS ≤ untilS)
    (short : untilS / 3600 - sinceS / 3600 ≤ 336) :
    ∃ hits, Exactly (frames w) hits (Matches sensorId sinceS untilS) ∧
      sensor json w.store.now (some sensorId) (some sinceQuery) (some untilQuery) =
        jsonValueResponse json .ok (rangeDocument sensorId (some sinceS) (some untilS)
          (hits.map fun frame => frameEntry (json.rereadFrame frame) sensorId)) :=
  sensor_hits (reachable_kept reach all).stored named since til ordered short

/-- A frame of one sensor with an anomaly, and a request for it. -/
def anomalous (value : ℚ) : AggregatedFrame Extended :=
  ⟨0, 0, 0, (∅ : SensorMap (SensorStats Extended)).insert "thermo-1" ⟨1, .finite 20, .finite 20, .finite 20, 0⟩,
    [⟨"thermo-1", 0, .finite value, .finite 4⟩]⟩

def anomalyRequest : PersistRequest Extended (Value Extended) := ⟨anomalous printed, none, .none, 7⟩

theorem rereadFrame_anomalous : roundingJson.rereadFrame (anomalous printed) = anomalous parsed := by
  have others : ∀ q ∈ [(20 : ℚ), 0, 4], rereadF64 roundingJson.reread (.finite q) = .finite q := by
    intro q member
    rw [rereadF64_rounding, if_neg]
    rintro rfl
    norm_num [printed] at member
  have twenty := others 20 (by simp)
  have sensors : (anomalous printed).perSensor.map (fun _ stats =>
      rereadStats roundingJson.reread stats) = (anomalous parsed).perSensor := by
    apply Std.ExtTreeMap.ext_getElem?
    intro id
    rw [Std.ExtTreeMap.getElem?_map, anomalous, anomalous, Std.ExtTreeMap.getElem?_insert]
    split
    · simp only [Option.map_some, rereadStats, twenty]
      exact congrArg some (congrArg (SensorStats.mk 1 _ _ _) (others 0 (by simp)))
    · rfl
  have records : (anomalous printed).anomalies.map (rereadAnomaly roundingJson.reread) =
      (anomalous parsed).anomalies := by
    simp only [anomalous, List.map_cons, List.map_nil, rereadAnomaly, rereadF64_rounding printed,
      others 4 (by simp), if_true]
  rw [SerdeJson.rereadFrame, rereadFrame, sensors, records]
  rfl

/-- The value of the first anomaly of an entry. -/
def firstValue (entry : Value Extended) : Option Extended := do
  let record ← (← (← entry.get "anomalies").asArray).head?
  decodeF64 (← record.get "value")

theorem firstValue_anomalous (value : ℚ) :
    firstValue (frameEntry (anomalous value) "thermo-1") = some (.finite value) := by
  have entry : (["window_id", "window_start", "window_end", "sensor_id", "stats", "stddev_sample",
      "anomalies"]).Nodup := by decide
  have record : (["sensor_id", "ts", "value", "z"]).Nodup := by decide
  have anomalies : (frameEntry (anomalous value) "thermo-1").get "anomalies" =
      some (.array [(Document.object [("sensor_id", .string "thermo-1"),
        ("ts", .object [("secs_since_epoch", encodeU64 0), ("nanos_since_epoch", encodeU64 0)]),
        ("value", encodeF64 (.finite value)), ("z", encodeF64 (.finite 4))]).canonical]) := by
    rw [frameEntry, get_object]
    · simp [List.lookup_cons, anomalous, encodeAnomaly, encodeTime]
    · exact entry
  rw [firstValue, anomalies]
  simp only [Option.bind_eq_bind, Option.bind_some, Document.asArray, List.head?_cons]
  rw [Document.get_canonical]
  · rfl
  · exact record

/-- The entries of the two frames differ in the value of the anomaly. -/
theorem frameEntry_ne :
    frameEntry (anomalous parsed) "thermo-1" ≠ frameEntry (anomalous printed) "thermo-1" := by
  intro same
  have values := congrArg firstValue same
  rw [firstValue_anomalous, firstValue_anomalous, Option.some.injEq, Extended.finite.injEq] at values
  norm_num [parsed, printed] at values

/-- The answer does not have the anomaly that was stored. -/
theorem anomaly_not_kept :
    ∃ w, (worker roundingJson.serde fun _ => none).Reachable w ∧ AllAccepted w ∧
      frames w = [anomalous printed] ∧
      sensor roundingJson w.store.now (some "thermo-1") (some "0") (some "0") =
        jsonValueResponse roundingJson .ok (rangeDocument "thermo-1" (some 0) (some 0)
          [frameEntry (anomalous parsed) "thermo-1"]) ∧
      ∀ hits, Exactly (frames w) hits (Matches "thermo-1" 0 0) →
        sensor roundingJson w.store.now (some "thermo-1") (some "0") (some "0") ≠
          jsonValueResponse roundingJson .ok (rangeDocument "thermo-1" (some 0) (some 0)
            (hits.map fun frame => frameEntry frame "thermo-1")) := by
  obtain ⟨w, reach, all, wanted⟩ := exists_run roundingJson.serde [anomalyRequest]
    (List.forall_mem_singleton.mpr ⟨rfl, rfl⟩)
  have one : frames w = [anomalous printed] := by
    rw [frames, wanted]
    rfl
  have known : Matches "thermo-1" 0 0 (anomalous printed) :=
    ⟨by decide, by decide, Std.ExtTreeMap.mem_insert_self⟩
  have only {hits : List (AggregatedFrame Extended)}
      (exactly : Exactly (frames w) hits (Matches "thermo-1" 0 0)) : hits = [anomalous printed] := by
    have perm := exactly.perm
    rw [one, List.filter_singleton, decide_eq_true known] at perm
    exact List.perm_singleton.mp perm
  obtain ⟨hits, exactly, answer⟩ := sensor_hits (reachable_kept reach all).stored
    (show "thermo-1" ≠ "" by decide) (show parseU64Opt (some "0") = some 0 from rfl)
    (show parseU64Opt (some "0") = some 0 from rfl) (Nat.le_refl 0) (by decide)
  rw [only exactly, List.map_singleton, rereadFrame_anomalous] at answer
  refine ⟨w, reach, all, one, answer, ?_⟩
  intro others exactly' same
  rw [only exactly', List.map_singleton, answer] at same
  have document := roundingJson.toText_injective (congrArg HttpResponse.body same)
  have listed := congrArg (Document.get "frames") document
  rw [rangeDocument, rangeDocument, get_object (by simp), get_object (by simp)] at listed
  have items : Document.array [frameEntry (anomalous parsed) "thermo-1"] =
      .array [frameEntry (anomalous printed) "thermo-1"] := Option.some.inj listed
  exact frameEntry_ne (List.singleton_inj.mp (Document.array.inj items))

/-- A frame of one sensor whose window ends at the given second, and a request for it. -/
def readingRequest (windowId : Nat) (second : Nat) : PersistRequest Extended (Value Extended) :=
  ⟨⟨windowId, 0, (second * 1000000000 : Nat),
    (∅ : SensorMap (SensorStats Extended)).insert "thermo-1" ⟨1, .finite 20, .finite 20, .finite 20, 0⟩, []⟩,
    none, .none, 7⟩

/-- Two frames at the edges of the range and one behind it, the later hour first. -/
def unordered : List (PersistRequest Extended (Value Extended)) :=
  [readingRequest 0 7200, readingRequest 1 3599, readingRequest 2 7201]

theorem range_exact_unordered :
    ∃ w hits, AllAccepted w ∧ requests w = unordered ∧ hits.length = 2 ∧
      Exactly (frames w) hits (Matches "thermo-1" 3599 7200) ∧
      sensor exactJson w.store.now (some "thermo-1") (some "3599") (some "7200") =
        jsonValueResponse exactJson .ok (rangeDocument "thermo-1" (some 3599) (some 7200)
          (hits.map fun frame => frameEntry (exactJson.rereadFrame frame) "thermo-1")) := by
  have fine : ∀ request ∈ unordered, request.faults = .none ∧
      (exactJson.serde.frame request.frame).isSome = true := by
    intro request member
    simp only [unordered, List.mem_cons, List.not_mem_nil, or_false] at member
    rcases member with rfl | rfl | rfl
    all_goals exact ⟨rfl, rfl⟩
  obtain ⟨w, reach, all, wanted⟩ := exists_run exactJson.serde unordered fine
  obtain ⟨hits, exactly, answer⟩ := range_exact exactJson w reach all "thermo-1" (by decide) "3599"
    "7200" 3599 7200 rfl rfl (by decide) (by decide)
  refine ⟨w, hits, all, wanted, ?_, exactly, answer⟩
  have known (windowId second : Nat) :
      "thermo-1" ∈ (readingRequest windowId second).frame.perSensor := Std.ExtTreeMap.mem_insert_self
  have late : ¬Matches "thermo-1" 3599 7200 (readingRequest 2 7201).frame :=
    fun wanted => absurd wanted.2.1 (by decide)
  have first : Matches "thermo-1" 3599 7200 (readingRequest 0 7200).frame :=
    ⟨by decide, by decide, known 0 7200⟩
  have second : Matches "thermo-1" 3599 7200 (readingRequest 1 3599).frame :=
    ⟨by decide, by decide, known 1 3599⟩
  rw [exactly.perm.length_eq, frames, wanted]
  simp [unordered, first, second, late]

end SensorGateway.Dashboard.Range

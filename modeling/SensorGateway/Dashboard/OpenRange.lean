import SensorGateway.Dashboard.Range

/-! Ranges with one bound. The bound that is not given is the least or the greatest second there is, and
the range that comes of it is measured like any other. -/

namespace SensorGateway.Dashboard.OpenRange
open SensorGateway.Lib.ExtendedRat SensorGateway.Lib.Grouping SensorGateway.Lib.Saturating
open SensorGateway.Types
open Storage.Disk Storage.Persist Storage.Encoding Storage.Texts Storage.Collection
open Endpoints Entry Range
variable {F : Type} [F64 F]

/-- The frame knows the sensor and ends within the bounds there are. -/
def Contains (sensorId : String) (sinceOpt untilOpt : Option Nat) (frame : AggregatedFrame F) : Prop :=
  (∀ sinceS ∈ sinceOpt, sinceS ≤ endSeconds frame) ∧
    (∀ untilS ∈ untilOpt, endSeconds frame ≤ untilS) ∧ sensorId ∈ frame.perSensor

instance containsDecidable (sensorId : String) (sinceOpt untilOpt : Option Nat) :
    DecidablePred (Contains (F := F) sensorId sinceOpt untilOpt) :=
  fun _ => inferInstanceAs (Decidable (_ ∧ _))

variable (json : SerdeJson F)

/-- The request is answered with the frames of the sensor within the bounds it gives, as they are read
back, and no others. -/
def Answered (o : Observation) (stored : List (AggregatedFrame F)) (sensorId : String)
    (sinceQuery untilQuery : Option String) : Prop :=
  ∃ hits, Exactly stored hits
      (Contains sensorId (parseU64Opt sinceQuery) (parseU64Opt untilQuery)) ∧
    sensor json o (some sensorId) sinceQuery untilQuery =
      jsonValueResponse json .ok (rangeDocument sensorId (parseU64Opt sinceQuery)
        (parseU64Opt untilQuery)
        (hits.map fun frame => frameEntry (json.rereadFrame frame) sensorId))

variable {json} {o : Observation} {stored : List (AggregatedFrame F)}

omit [F64 F] in
/-- What is wanted counts only for frames that are stored. -/
theorem Exactly.congr {hits : List (AggregatedFrame F)} {P Q : AggregatedFrame F → Prop}
    [DecidablePred P] [DecidablePred Q] (exactly : Exactly stored hits P)
    (same : ∀ frame ∈ stored, (P frame ↔ Q frame)) : Exactly stored hits Q := by
  have filtered (frames : List (AggregatedFrame F)) (inside : ∀ frame ∈ frames, frame ∈ stored) :
      (frames.filter fun frame => P frame) = frames.filter fun frame => Q frame :=
    List.filter_congr fun frame member => decide_eq_decide.mpr (same frame (inside frame member))
  refine ⟨?_, exactly.hours, ?_⟩
  · rw [← filtered stored fun frame member => member]
    exact exactly.perm
  · intro hour
    rw [← filtered _ fun frame member => (mem_ofHour.mp member).1]
    exact exactly.order hour

/-- For bounds that are given or not: the frames do not decide whether there is an answer. -/
theorem answered_iff (holding : Stored json.serde o stored)
    (seconds : ∀ frame ∈ stored, endSeconds frame ≤ u64Max) {sensorId : String} (named : sensorId ≠ "")
    {sinceQuery untilQuery : Option String}
    (ranged : (parseU64Opt sinceQuery).isSome ∨ (parseU64Opt untilQuery).isSome)
    {sinceS untilS : Nat} (first : (parseU64Opt sinceQuery).getD 0 = sinceS)
    (last : (parseU64Opt untilQuery).getD u64Max = untilS) (ordered : sinceS ≤ untilS)
    (small : untilS ≤ u64Max) :
    Answered json o stored sensorId sinceQuery untilQuery ↔ untilS / 3600 - sinceS / 3600 ≤ 336 := by
  rw [Answered, sensor_ranged named ranged]
  constructor
  · rintro ⟨hits, -, answer⟩
    by_contra long
    rw [sensorRange_refused sensorId first last small long] at answer
    have same : StatusCode.badRequest = StatusCode.ok := congrArg HttpResponse.status answer
    cases same
  · intro short
    refine ⟨_, Exactly.congr (exactly_grouped holding sensorId sinceS untilS) ?_,
      sensorRange_eq holding sensorId first last ordered small short⟩
    intro frame member
    have bound := seconds frame member
    have late : sinceS ≤ endSeconds frame ↔
        ∀ given ∈ parseU64Opt sinceQuery, given ≤ endSeconds frame := by
      rw [← first]
      cases parseU64Opt sinceQuery <;> simp
    have early : endSeconds frame ≤ untilS ↔
        ∀ given ∈ parseU64Opt untilQuery, endSeconds frame ≤ given := by
      rw [← last]
      cases parseU64Opt untilQuery <;> simp [bound]
    rw [Matches, Contains, late, early]

variable (json)

/-- For every stored log and every bound, whatever frames lie behind it. The seconds of a system time are
a `u64`. -/
theorem open_range_iff (o : Observation) (stored : List (AggregatedFrame F))
    (holding : Stored json.serde o stored)
    (seconds : ∀ frame ∈ stored, endSeconds frame ≤ u64Max) (sensorId : String)
    (named : sensorId ≠ "") (query : String) (bound : Nat) (given : parseU64Opt (some query) = some bound) :
    (Answered json o stored sensorId (some query) none ↔ u64Max / 3600 - bound / 3600 ≤ 336) ∧
      (Answered json o stored sensorId none (some query) ↔ bound / 3600 ≤ 336) := by
  have small := le_of_parseU64Opt given
  constructor
  · refine answered_iff holding seconds named ?_ ?_ rfl small (Nat.le_refl _)
    · rw [given]
      exact Or.inl rfl
    · rw [given]
      rfl
  · have whole : Answered json o stored sensorId none (some query) ↔ bound / 3600 - 0 / 3600 ≤ 336 := by
      refine answered_iff holding seconds named ?_ rfl ?_ (Nat.zero_le _) small
      · rw [given]
        exact Or.inr rfl
      · rw [given]
        rfl
    simpa using whole

/-- All windows up to an end early in 1970. -/
theorem until_alone_answered :
    ∃ w, requests w = [readingRequest 0 7200] ∧
      Answered exactJson w.store.now (frames w) "thermo-1" none (some "7200") := by
  obtain ⟨w, reach, all, wanted⟩ := exists_run exactJson.serde [readingRequest 0 7200]
    (List.forall_mem_singleton.mpr ⟨rfl, rfl⟩)
  have seconds : ∀ frame ∈ frames w, endSeconds frame ≤ u64Max := by
    rw [frames, wanted]
    exact List.forall_mem_singleton.mpr (by decide)
  exact ⟨w, wanted, (open_range_iff exactJson _ _ (reachable_kept reach all).stored seconds "thermo-1"
    (by decide) "7200" 7200 rfl).2.mpr (by decide)⟩

/-- A log of one frame, close to either bound. -/
theorem open_ranges_refused :
    ∃ w, (worker exactJson.serde fun _ => none).Reachable w ∧ AllAccepted w ∧
      frames w = [(readingRequest 0 2000000).frame] ∧
      (∀ frame ∈ frames w, 1999000 ≤ endSeconds frame ∧ endSeconds frame ≤ 1999000 + 14 * 86400) ∧
      (∀ frame ∈ frames w, endSeconds frame ≤ 2000100 ∧ 2000100 ≤ endSeconds frame + 14 * 86400) ∧
      sensor exactJson w.store.now (some "thermo-1") (some "1999000") none =
        errorResponse exactJson .badRequest "range too large (max 14 days)" ∧
      sensor exactJson w.store.now (some "thermo-1") none (some "2000100") =
        errorResponse exactJson .badRequest "range too large (max 14 days)" := by
  obtain ⟨w, reach, all, wanted⟩ := exists_run exactJson.serde [readingRequest 0 2000000]
    (List.forall_mem_singleton.mpr ⟨rfl, rfl⟩)
  have one : frames w = [(readingRequest 0 2000000).frame] := by
    rw [frames, wanted]
    rfl
  refine ⟨w, reach, all, one, ?_, ?_, ?_, ?_⟩
  · rw [one]
    exact List.forall_mem_singleton.mpr (by decide)
  · rw [one]
    exact List.forall_mem_singleton.mpr (by decide)
  · have given : parseU64Opt (some "1999000") = some 1999000 := rfl
    rw [sensor_ranged (by decide) (by rw [given]; exact Or.inl rfl), given]
    exact sensorRange_refused _ rfl rfl (Nat.le_refl _) (by decide)
  · have given : parseU64Opt (some "2000100") = some 2000100 := rfl
    rw [sensor_ranged (by decide) (by rw [given]; exact Or.inr rfl), given]
    exact sensorRange_refused _ rfl rfl (by decide) (by decide)

end SensorGateway.Dashboard.OpenRange

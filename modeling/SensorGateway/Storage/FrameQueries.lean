import SensorGateway.Dashboard.Endpoints
import SensorGateway.Lib.Scan
import SensorGateway.Storage.Crashes
import SensorGateway.Storage.LatestFrames

/-! The queries of the web server for the frames of a sensor and of a time range, over what a storage
process that may fail and crash has left behind. -/

namespace SensorGateway.Storage.FrameQueries
open SensorGateway.Lib.ExtendedRat SensorGateway.Lib.Grouping SensorGateway.Lib.Scan
open SensorGateway.Lib.Transition SensorGateway.Types SensorGateway.Dashboard.Endpoints
open Disk Persist Encoding Texts LogFile Collection WindowLookup LatestFrames Crashes
variable {F : Type} [F64 F] (json : SerdeJson F)

/-! `main.rs`. -/

/-- `frame.per_sensor.contains_key(sensor_id)`. -/
def hasSensor (sensorId : String) (frame : AggregatedFrame F) : Bool := frame.perSensor.contains sensorId

def findFramesBySensor (o : Observation) (listing : List Path) (sensorId : String) :
    Except WebAppError (List (AggregatedFrame F)) :=
  scanAll (readJsonlFile json o) (hasSensor sensorId) (getDataFiles listing) []

/-- The start of the window is compared in whole seconds; one before the epoch counts as the epoch. -/
def inRange (start end_ : Option Nat) (frame : AggregatedFrame F) : Bool :=
  let windowStart := (unixSeconds frame.windowStart).getD 0
  match start, end_ with
  | some s, some e => decide (s ≤ windowStart ∧ windowStart ≤ e)
  | some s, none => decide (s ≤ windowStart)
  | none, some e => decide (windowStart ≤ e)
  | none, none => true

def findFramesInRange (o : Observation) (listing : List Path) (start end_ : Option Nat)
    (limit : Nat) : Except WebAppError (List (AggregatedFrame F)) :=
  scan (readJsonlFile json o) (inRange start end_) limit (getDataFiles listing) []

/-- A parameter that cannot be parsed counts as one that is not given. -/
def getFramesInRange (o : Observation) (listing : List Path) (params : String → Option String) :
    Except WebAppError (List (AggregatedFrame F)) :=
  findFramesInRange json o listing (parseU64Opt (params "start")) (parseU64Opt (params "end"))
    ((parseU64Opt (params "limit")).getD 100)

/-- The wanted frames, once each: file by file as the files are looked at, and in each file as they were
stored. -/
structure Answers (stored hits : List (AggregatedFrame F)) (wanted : AggregatedFrame F → Bool) :
    Prop where
  perm : hits.Perm (stored.filter wanted)
  files : hits.Pairwise fun a b => ¬Before (frameHour b) (frameHour a)
  order : ∀ hour, Collection.ofHour hits hour = (Collection.ofHour stored hour).filter wanted

/-- As many wanted frames are in the files that are looked at before the one of the hour. -/
def wantedBefore (stored : List (AggregatedFrame F)) (wanted : AggregatedFrame F → Bool) (hour : Int) :
    Nat :=
  stored.countP fun g => wanted g && decide (Before (frameHour g) hour)

variable {json} {o : Observation} {stored : List (AggregatedFrame F)} {listing files : List Path}
  {hours : List Int} {wanted : AggregatedFrame F → Bool}

omit [F64 F] in
theorem answers_grouped (known : Hours stored files hours) (wanted : AggregatedFrame F → Bool) :
    Answers stored ((grouped frameHour stored hours).filter wanted) wanted where
  perm := known.perm.filter wanted
  files := by
    apply List.Pairwise.filter
    have later := known.ordered.imp fun first => Before.asymm first
    exact pairwise_grouped (fun hour => lt_irrefl _) later
  order := by
    intro hour
    have same : Collection.ofHour ((grouped frameHour stored hours).filter wanted) hour =
        (group frameHour (grouped frameHour stored hours) hour).filter wanted :=
      (filter_group _ hour wanted).symm
    rw [same, group_grouped known.distinct]
    by_cases listed : hour ∈ hours
    · rw [if_pos listed]
      rfl
    · have none : Collection.ofHour stored hour = [] :=
        group_eq_nil fun g member same => listed ((known.covered hour).mpr ⟨g, member, same⟩)
      rw [if_neg listed, none]

/-- A file gives the frames of its hour as they are read back, or it has a number that JSON does not
have. -/
theorem reads_hour (holding : Stored json.serde o stored) (known : Hours stored files hours) :
    ∀ hour ∈ hours, Reads (fun hour => readJsonlFile json o (hourPath hour))
      (fun hour => (ofHour stored hour).map json.rereadFrame)
      (fun hour => ∀ g ∈ ofHour stored hour, Written g) hour :=
  fun hour member => readJsonlFile_cases holding (known.there holding hour member)

variable (json) in
/-- Whether a frame is wanted does not depend on its numbers. -/
def Regardless (wanted : AggregatedFrame F → Bool) : Prop :=
  ∀ frame, wanted (json.rereadFrame frame) = wanted frame

variable (json) in
theorem regardless_hasSensor (sensorId : String) : Regardless json (hasSensor sensorId) :=
  fun _ => Std.ExtTreeMap.contains_map

variable (json) in
theorem regardless_inRange (start end_ : Option Nat) : Regardless json (inRange start end_) :=
  fun _ => rfl

theorem filter_reread (blind : Regardless json wanted) (hours : List Int) :
    (hours.flatMap fun hour => (ofHour stored hour).map json.rereadFrame).filter wanted =
      ((grouped frameHour stored hours).filter wanted).map json.rereadFrame := by
  have same : wanted ∘ json.rereadFrame = wanted := funext blind
  have groups : (hours.flatMap fun hour => (ofHour stored hour).map json.rereadFrame) =
      (grouped frameHour stored hours).map json.rereadFrame := List.map_flatMap.symm
  rw [groups, List.filter_map, same]

theorem countP_reread (blind : Regardless json wanted) (hours : List Int) :
    (hours.flatMap fun hour => (ofHour stored hour).map json.rereadFrame).countP wanted =
      (grouped frameHour stored hours).countP wanted := by
  rw [List.countP_eq_length_filter, filter_reread blind, List.length_map,
    List.countP_eq_length_filter]

theorem findFramesBySensor_answers (holding : Stored json.serde o stored) (lists : Lists listing o)
    (sensorId : String) :
    ((∀ g ∈ stored, Written g) → ∃ hits, Answers stored hits (hasSensor sensorId) ∧
      findFramesBySensor json o listing sensorId = .ok (hits.map json.rereadFrame)) ∧
    ((¬∀ g ∈ stored, Written g) → ∃ e, findFramesBySensor json o listing sensorId = .error e) := by
  obtain ⟨hours, known⟩ := exists_hours holding lists
  obtain ⟨good, bad⟩ := scanAll_reads (hasSensor sensorId) (reads_hour holding known) []
  have readable : (∀ hour ∈ hours, ∀ g ∈ ofHour stored hour, Written g) ↔ ∀ g ∈ stored, Written g := by
    constructor
    · intro all g member
      have listed := (known.covered (frameHour g)).mpr ⟨g, member, rfl⟩
      exact all _ listed g (mem_ofHour.mpr ⟨member, rfl⟩)
    · exact fun all hour _ g inside => all g (mem_ofHour.mp inside).1
  rw [readable, List.nil_append, filter_reread (regardless_hasSensor json sensorId)] at good
  rw [readable] at bad
  unfold findFramesBySensor
  rw [known.files, scanAll_map]
  refine ⟨?_, bad⟩
  intro all
  exact ⟨_, answers_grouped known (hasSensor sensorId), good all⟩

/-- Every frame of a file that the query opens can be read back. -/
def RangeReadable (stored : List (AggregatedFrame F)) (wanted : AggregatedFrame F → Bool)
    (limit : Nat) : Prop :=
  ∀ g ∈ stored, wantedBefore stored wanted (frameHour g) < limit → Written g

omit [F64 F] in
theorem wantedBefore_eq {before after : List Int} {hour : Int} (known : Hours stored files hours)
    (split : hours = before ++ hour :: after) (wanted : AggregatedFrame F → Bool) :
    (grouped frameHour stored before).countP wanted = wantedBefore stored wanted hour := by
  have ordered : (before ++ hour :: after).Pairwise Before := split ▸ known.ordered
  have groups (some : List Int) : (grouped frameHour stored some).filter wanted =
      grouped frameHour (stored.filter wanted) some := by
    rw [grouped, List.filter_flatMap, grouped]
    congr 1
    funext k
    exact filter_group stored k wanted
  rw [List.countP_eq_length_filter, groups,
    length_grouped_before (fun _ _ => Before.asymm) ordered, wantedBefore, List.countP_filter]
  · congr 1
    funext g
    exact Bool.and_comm _ _
  · intro g member
    rw [← split]
    exact (known.covered _).mpr ⟨g, (List.mem_filter.mp member).1, rfl⟩

theorem opensReadable_iff (known : Hours stored files hours) (blind : Regardless json wanted)
    (limit : Nat) :
    OpensReadable wanted (fun hour => (ofHour stored hour).map json.rereadFrame)
      (fun hour => ∀ g ∈ ofHour stored hour, Written g) limit hours 0 ↔
        RangeReadable stored wanted limit := by
  constructor
  · intro all g member reached
    obtain ⟨before, after, split⟩ := known.place member
    refine all before _ after split ?_ g (mem_ofHour.mpr ⟨member, rfl⟩)
    rw [Nat.zero_add, countP_reread blind]
    exact (wantedBefore_eq known split wanted).trans_lt reached
  · intro all before hour after split reached g inside
    obtain ⟨member, rfl⟩ := mem_ofHour.mp inside
    rw [Nat.zero_add, countP_reread blind] at reached
    exact all g member ((wantedBefore_eq known split wanted).symm.trans_lt reached)

theorem findFramesInRange_answers (holding : Stored json.serde o stored) (lists : Lists listing o)
    (start end_ : Option Nat) (limit : Nat) :
    (RangeReadable stored (inRange start end_) limit →
      ∃ all, Answers stored all (inRange start end_) ∧
        findFramesInRange json o listing start end_ limit =
          .ok ((all.take limit).map json.rereadFrame)) ∧
    (¬RangeReadable stored (inRange start end_) limit →
      ∃ e, findFramesInRange json o listing start end_ limit = .error e) := by
  obtain ⟨hours, known⟩ := exists_hours holding lists
  have room : ([] : List (AggregatedFrame F)).length ≤ limit := Nat.zero_le limit
  have blind := regardless_inRange json start end_
  obtain ⟨good, bad⟩ := scan_reads (inRange start end_) (reads_hour holding known) room
  rw [List.length_nil, opensReadable_iff known blind] at good bad
  rw [List.nil_append, filter_reread blind, ← List.map_take] at good
  unfold findFramesInRange
  rw [known.files, scan_map]
  refine ⟨?_, bad⟩
  intro readable
  exact ⟨_, answers_grouped known (inRange start end_), good readable⟩

/-! The queries on a directory that was empty, whatever has failed or crashed since. -/

variable (json)

/-- For every sensor, once the storage process has gone through any failures and crashes. -/
theorem sensor_query_after_crashes (s : History F (Value F))
    (reach : (crashing json.serde fun _ => none).Reachable s) (listing : List Path)
    (lists : Lists listing s.worker.store.now) :
    ∃ stored, Retains s.sent stored ∧ ∀ sensorId,
      ((∀ g ∈ stored, Written g) → ∃ hits, Answers stored hits (hasSensor sensorId) ∧
        findFramesBySensor json s.worker.store.now listing sensorId =
          .ok (hits.map json.rereadFrame)) ∧
      ((¬∀ g ∈ stored, Written g) →
        ∃ e, findFramesBySensor json s.worker.store.now listing sensorId = .error e) := by
  obtain ⟨stored, holding, retains⟩ := stored_after_crashes json.serde s reach
  exact ⟨stored, retains, findFramesBySensor_answers holding lists⟩

/-- For every range and limit the request can ask for. -/
theorem range_query_after_crashes (s : History F (Value F))
    (reach : (crashing json.serde fun _ => none).Reachable s) (listing : List Path)
    (lists : Lists listing s.worker.store.now) :
    ∃ stored, Retains s.sent stored ∧ ∀ (params : String → Option String) (limit : Nat),
      (parseU64Opt (params "limit")).getD 100 = limit →
      let wanted := inRange (parseU64Opt (params "start")) (parseU64Opt (params "end"))
      (RangeReadable stored wanted limit → ∃ all, Answers stored all wanted ∧
        getFramesInRange json s.worker.store.now listing params =
          .ok ((all.take limit).map json.rereadFrame)) ∧
      (¬RangeReadable stored wanted limit →
        ∃ e, getFramesInRange json s.worker.store.now listing params = .error e) := by
  obtain ⟨stored, holding, retains⟩ := stored_after_crashes json.serde s reach
  refine ⟨stored, retains, ?_⟩
  rintro params limit rfl
  exact findFramesInRange_answers holding lists _ _ _

variable {json} in
theorem mem_of_retains {sent : List (Sent F (Value F))} (retains : Retains sent stored)
    {frame : AggregatedFrame F} (member : frame ∈ stored) : ∃ x ∈ sent, x.request.frame = frame := by
  have own := Collection.mem_ofHour.mpr ⟨member, rfl⟩
  obtain ⟨x, among, same⟩ := List.mem_map.mp ((retains (frameHour frame)).1.subset own)
  exact ⟨x, (Crashes.mem_ofHour.mp among).1, same⟩

/-- Two frames with a restart between them. -/
def restarted : List (Event Extended (Value Extended)) :=
  [.persist (sensorRequest twenty), .restart, .persist (sensorRequest twenty)]

theorem exists_restarted :
    ∃ s, (crashing exactJson.serde fun _ => none).Reachable s ∧
      (crashing exactJson.serde fun _ => none).run restarted = some s ∧
      (∃ listing, Lists listing s.worker.store.now) ∧ ∀ x ∈ s.sent, Written x.request.frame := by
  have frames : ((crashing exactJson.serde fun _ => none).run restarted).map (fun s =>
      s.sent.map fun x => x.request.frame) =
        some [(sensorRequest twenty).frame, (sensorRequest twenty).frame] := rfl
  obtain ⟨s, replay, sent⟩ := Option.map_eq_some_iff.mp frames
  have reach := System.reachable_of_run replay
  obtain ⟨stored, holding, -⟩ := stored_after_crashes exactJson.serde s reach
  refine ⟨s, reach, replay, ⟨_, lists_hours holding⟩, ?_⟩
  have written : Written (sensorRequest twenty).frame := sensorRequest_written.mpr (by decide)
  have all : ∀ frame ∈ s.sent.map (fun x => x.request.frame), Written frame := by
    rw [sent]
    exact List.forall_mem_cons.mpr ⟨written, List.forall_mem_singleton.mpr written⟩
  exact List.forall_mem_map.mp all

theorem sensor_query_after_restart :
    ∃ s listing, (crashing exactJson.serde fun _ => none).run restarted = some s ∧
      ∃ stored, Retains s.sent stored ∧ ∃ hits, Answers stored hits (hasSensor "thermo-1") ∧
        findFramesBySensor exactJson s.worker.store.now listing "thermo-1" =
          .ok (hits.map exactJson.rereadFrame) := by
  obtain ⟨s, reach, replay, ⟨listing, lists⟩, written⟩ := exists_restarted
  obtain ⟨stored, retains, answers⟩ := sensor_query_after_crashes exactJson s reach listing lists
  refine ⟨s, listing, replay, stored, retains, (answers "thermo-1").1 ?_⟩
  intro g member
  obtain ⟨x, among, rfl⟩ := mem_of_retains retains member
  exact written x among

theorem range_query_after_restart :
    ∃ s listing, (crashing exactJson.serde fun _ => none).run restarted = some s ∧
      ∃ stored, Retains s.sent stored ∧ ∃ all, Answers stored all (inRange none none) ∧
        getFramesInRange exactJson s.worker.store.now listing (fun _ => none) =
          .ok ((all.take 100).map exactJson.rereadFrame) := by
  obtain ⟨s, reach, replay, ⟨listing, lists⟩, written⟩ := exists_restarted
  obtain ⟨stored, retains, answers⟩ := range_query_after_crashes exactJson s reach listing lists
  refine ⟨s, listing, replay, stored, retains, (answers (fun _ => none) 100 rfl).1 ?_⟩
  intro g member _
  obtain ⟨x, among, rfl⟩ := mem_of_retains retains member
  exact written x among

end SensorGateway.Storage.FrameQueries

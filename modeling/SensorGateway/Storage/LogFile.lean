import SensorGateway.Storage.FailedPersist
import SensorGateway.Storage.Reliable
import SensorGateway.Storage.Texts

/-! `read_jsonl_file` on the hour files. What storage has accepted can be read back exactly when JSON
has every number of it and no line of a failed request comes with it. -/

namespace SensorGateway.Storage.LogFile
open SensorGateway.Lib.Codec SensorGateway.Lib.ExtendedRat SensorGateway.Lib.Lines
open SensorGateway.Lib.Transition SensorGateway.Types
open Disk Persist HourlyLog FailedPersist Encoding Texts
open Reliable (Accepted accepts level_new)
open Persist.HourlyWriter (At)

inductive WebAppError where
  | io
  | json
  deriving DecidableEq, Repr

/-- All of the items, if every line was one. -/
def gathered {A : Type} : Option (List A) → Except WebAppError (List A)
  | none => .error .json
  | some items => .ok items

theorem gathered_eq_ok {A : Type} {read : Option (List A)} {items : List A} :
    gathered read = .ok items ↔ read = some items := by
  cases read <;> simp [gathered]

variable {F : Type} [F64 F] (json : SerdeJson F)

/-- The loop of `read_jsonl_file`. -/
def readLines : List Text → Except WebAppError (List (AggregatedFrame F))
  | [] => .ok []
  | line :: rest =>
    if isBlank line then readLines rest
    else
      match json.toFrame line with
      | none => .error .json
      | some frame => (readLines rest).map (frame :: ·)

def readJsonlFile (o : Observation) (path : Path) : Except WebAppError (List (AggregatedFrame F)) :=
  match o.text path with
  | none => .error .io
  | some content => readLines json (lines content)

/-- The hour file can be read and holds these frames, or there is none yet. -/
def Holds (o : Observation) (hour : Int) (earlier : List (AggregatedFrame F)) : Prop :=
  readJsonlFile json o (hourPath hour) = .ok earlier ∨
    o.text (hourPath hour) = none ∧ earlier = []

theorem readLines_eq (rows : List Text) :
    readLines json rows =
      gathered ((rows.filter fun line => !isBlank line).mapM json.toFrame) := by
  induction rows with
  | nil => rfl
  | cons line rest ih =>
    rw [readLines]
    by_cases blank : isBlank line = true
    · rw [if_pos blank, List.filter_cons_of_neg (by simp [blank]), ih]
    · rw [if_neg blank, List.filter_cons_of_pos (by simp [blank]), List.mapM_cons, ih]
      cases json.toFrame line with
      | none => rfl
      | some frame =>
        cases (rest.filter fun line => !isBlank line).mapM json.toFrame with
        | none => rfl
        | some frames => rfl

/-- A file is read entry by entry, and one entry that is no frame makes all of it unreadable. -/
theorem readJsonlFile_some {o : Observation} {path : Path} {content : Text}
    (there : o.text path = some content) :
    readJsonlFile json o path = gathered ((entries content).mapM json.toFrame) := by
  rw [readJsonlFile, there]
  simp only [readLines_eq, json.toFrame_return.mapM_lines]

theorem Holds.frames {o : Observation} {hour : Int} {earlier : List (AggregatedFrame F)}
    (holds : Holds json o hour earlier) : (logAt o hour).mapM json.toFrame = some earlier := by
  obtain readable | ⟨absent, rfl⟩ := holds
  · cases there : o.text (hourPath hour) with
    | none => simp [readJsonlFile, there] at readable
    | some content =>
      rw [readJsonlFile_some json there, gathered_eq_ok] at readable
      rw [logAt, there, Option.map_some, Option.getD_some, readable]
  · rw [logAt, absent]
    rfl

/-- The writer has no line in its cache that is not in the log of the hour. -/
def Clear (w : Worker F (Value F)) (hour : Int) : Prop :=
  At w.store.hourly hour → cached w.store.hourly = logAt w.store.now hour

variable {json} {w : Worker F (Value F)} {request : PersistRequest F (Value F)}

theorem clear_iff (hour : Int) : cached (rotated w.store hour) = logAt w.store.now hour ↔ Clear w hour := by
  by_cases here : At w.store.hourly hour
  · rw [rotated, if_pos here]
    exact ⟨fun same _ => same, fun clear => clear here⟩
  · rw [cached_rotated here]
    exact ⟨fun _ there => absurd there here, fun _ => rfl⟩

theorem added_of_accepted (accepted : Accepted json.serde w request) (ahead : Ahead w.store) :
    ∃ line, Added json.serde w.store (serve json.serde w request).store request.frame line := by
  have served := serve_served json.serde ahead request
  have answered : (serve json.serde w request).answered = w.answered ++ [(request, .ok ())] := by
    rw [← accepted]
    rfl
  generalize serve json.serde w request = next at served answered
  cases served with
  | ok store metrics line goes rest added count => exact ⟨line, added⟩
  | late | early =>
    have same := List.append_cancel_left answered
    cases same

/-- What is read from the hour file once the request has been accepted. -/
theorem reads_of_accepted (accepted : Accepted json.serde w request) (ahead : Ahead w.store) :
    ∃ line, json.frameText request.frame = some line ∧
      readJsonlFile json (serve json.serde w request).store.now (hourPath (frameHour request.frame)) =
        gathered
          ((cached (rotated w.store (frameHour request.frame)) ++ [line]).mapM json.toFrame) := by
  obtain ⟨line, added⟩ := added_of_accepted accepted ahead
  refine ⟨line, added.serialized, ?_⟩
  have log := added.log
  cases there : (serve json.serde w request).store.now.text (hourPath (frameHour request.frame)) with
  | none => simp [logAt, there] at log
  | some content =>
    rw [logAt, there, Option.map_some, Option.getD_some] at log
    rw [readJsonlFile_some json there, log]

/-- The frame is read back behind the earlier ones exactly when JSON has its numbers and the writer has
no other line to put into the log. -/
theorem reads_back_iff (accepted : Accepted json.serde w request) (ahead : Ahead w.store)
    {earlier : List (AggregatedFrame F)}
    (holds : Holds json w.store.now (frameHour request.frame) earlier) :
    readJsonlFile json (serve json.serde w request).store.now (hourPath (frameHour request.frame)) =
        .ok (earlier ++ [json.rereadFrame request.frame]) ↔
      Written request.frame ∧ Clear w (frameHour request.frame) := by
  obtain ⟨line, written, reads⟩ := reads_of_accepted accepted ahead
  have before := holds.frames
  have back := json.toFrame_frameText request.frame line written
  rw [reads, gathered_eq_ok, mapM_append_singleton, ← clear_iff, back]
  constructor
  · rintro ⟨front, last⟩
    have survives : Written request.frame := by
      by_contra lost
      rw [if_neg lost] at last
      cases last
    refine ⟨survives, ?_⟩
    have lengths := (length_of_mapM front).symm.trans (length_of_mapM before)
    exact ((ahead.rotated (frameHour request.frame)).eq_of_length lengths.symm).symm
  · rintro ⟨survives, same⟩
    rw [same, if_pos survives]
    exact ⟨before, rfl⟩

variable (json)

/-- For every request storage accepts into an hour file that can be read, with whatever has failed
before, where JSON gives every number back as it is. -/
theorem accepted_reads_back (exact : json.RoundTrips) (initial : Files) (w : Worker F (Value F))
    (reach : (worker json.serde initial).Reachable w) (request : PersistRequest F (Value F))
    (accepted : Accepted json.serde w request) (earlier : List (AggregatedFrame F))
    (holds : Holds json w.store.now (frameHour request.frame) earlier) :
    readJsonlFile json (serve json.serde w request).store.now (hourPath (frameHour request.frame)) =
        .ok (earlier ++ [request.frame]) ↔
      Written request.frame ∧ Clear w (frameHour request.frame) := by
  have reads := reads_back_iff accepted (reachable_ahead json.serde reach) holds
  rwa [exact.rereadFrame] at reads

/-- A directory with an empty file for the first hour, and a request for a frame of one sensor. -/
def emptyHour : Files := Function.update (fun _ => none) (hourPath 0) (some ⟨[], false⟩)

def sensorRequest (stats : SensorStats Extended) : PersistRequest Extended (Value Extended) :=
  ⟨⟨0, 0, 0, (∅ : SensorMap (SensorStats Extended)).insert "thermo-1" stats, []⟩, none, .none, 7⟩

theorem sensorRequest_accepted (stats : SensorStats Extended) :
    Accepted exactJson.serde (worker exactJson.serde emptyHour).init (sensorRequest stats) :=
  accepts exactJson.serde (level_new rfl) rfl rfl

theorem sensorRequest_written {stats : SensorStats Extended} :
    Written (sensorRequest stats).frame ↔ StatsWritten stats := by
  constructor
  · intro written
    exact written.1 ("thermo-1", stats)
      (Std.ExtTreeMap.mem_toList_iff_getElem?_eq_some.mpr Std.ExtTreeMap.getElem?_insert_self)
  · intro written
    refine ⟨?_, fun record member => by cases member⟩
    rintro ⟨id, other⟩ member
    have found := Std.ExtTreeMap.mem_toList_iff_getElem?_eq_some.mp member
    rw [sensorRequest, Std.ExtTreeMap.getElem?_insert] at found
    split at found
    · cases found
      exact written
    · simp at found

theorem emptyHour_holds : Holds exactJson (worker exactJson.serde emptyHour).init.store.now 0 [] :=
  Or.inl rfl

def twenty : SensorStats Extended := ⟨1, .finite 20, .finite 20, .finite 20, 0⟩

def thirty : SensorStats Extended := ⟨1, .finite 30, .finite 30, .finite 30, 0⟩

/-- The second frame of an hour. -/
theorem accepted_reads_back_thirty :
    ∃ w : Worker Extended (Value Extended),
      readJsonlFile exactJson w.store.now (hourPath 0) = .ok [(sensorRequest twenty).frame] ∧
      readJsonlFile exactJson (serve exactJson.serde w (sensorRequest thirty)).store.now (hourPath 0) =
        .ok [(sensorRequest twenty).frame, (sensorRequest thirty).frame] := by
  let start := (worker exactJson.serde emptyHour).init
  have none : (worker exactJson.serde emptyHour).Reachable start := System.ReachesUnder.refl _
  have first := sensorRequest_accepted twenty
  obtain ⟨line, delivered⟩ := first.delivered (level_new rfl)
  have level := delivered.level
  have reach : (worker exactJson.serde emptyHour).Reachable
      (serve exactJson.serde start (sensorRequest twenty)) := none.tail rfl
  have earlier : readJsonlFile exactJson
      (serve exactJson.serde start (sensorRequest twenty)).store.now (hourPath 0) =
        .ok [(sensorRequest twenty).frame] :=
    (reads_back_iff first (reachable_ahead exactJson.serde none) emptyHour_holds).mpr
      ⟨sensorRequest_written.mpr (by decide), fun at_hour => by cases at_hour.1⟩
  refine ⟨_, earlier, (accepted_reads_back exactJson exactJson_roundTrips emptyHour _ reach
    (sensorRequest thirty) (accepts exactJson.serde level rfl rfl) _ (Or.inl earlier)).mpr ?_⟩
  exact ⟨sensorRequest_written.mpr (by decide), fun at_hour => level.cache _ at_hour.1⟩

/-- Empty statistics are written as null and not read back: the file can no longer be read. -/
theorem default_stats_unreadable :
    readJsonlFile exactJson (worker exactJson.serde emptyHour).init.store.now (hourPath 0) = .ok [] ∧
      Accepted exactJson.serde (worker exactJson.serde emptyHour).init (sensorRequest .default) ∧
      readJsonlFile exactJson
        (serve exactJson.serde (worker exactJson.serde emptyHour).init
          (sensorRequest .default)).store.now (hourPath 0) = .error .json := by
  have accepted := sensorRequest_accepted .default
  have ahead := reachable_ahead exactJson.serde
    (System.ReachesUnder.refl (worker exactJson.serde emptyHour).init)
  obtain ⟨line, written, reads⟩ := reads_of_accepted accepted ahead
  have lost : exactJson.toFrame line = none := by
    rw [exactJson.toFrame_frameText _ line written, if_neg]
    rw [sensorRequest_written]
    decide
  have alone : cached (rotated (worker exactJson.serde emptyHour).init.store
      (frameHour (sensorRequest .default).frame)) = [] := rfl
  refine ⟨rfl, accepted, reads.trans ?_⟩
  rw [alone, List.nil_append, List.mapM_cons, lost]
  rfl

end SensorGateway.Storage.LogFile

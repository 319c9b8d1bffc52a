import SensorGateway.Dashboard.Entry
import SensorGateway.Dashboard.RawSensor
import SensorGateway.Lib.Appends
import SensorGateway.Lib.Transition

/-! The text files of the single sensors: each reader appends its readings to the file of its sensor, and
the web server reads the files at any time. A write may be cut short, by an error or by the end of the
process, and the next one goes on where it has stopped. -/

namespace SensorGateway.Dashboard.SensorFile
open SensorGateway.Lib.Json SensorGateway.Lib.JsonText SensorGateway.Lib.Lines SensorGateway.Lib.Appends
open SensorGateway.Lib.ExtendedRat
open SensorGateway.Lib.Transition SensorGateway.Lib.UnixPath SensorGateway.Types
open Storage.Disk (IoError)
open Storage.Encoding Storage.Reread Storage.Texts Endpoints RawSensor

/-- The id of a sensor. It names a file in the data directory, and its characters are single bytes, so
that a write never ends within one. -/
structure SensorId where
  name : String
  single : '/' ∉ name.toList
  ascii : ∀ c ∈ name.toList, 0 < c.toNat ∧ c.toNat < 128
  deriving DecidableEq

theorem SensorId.ext {a b : SensorId} (same : a.name = b.name) : a = b := by
  cases a
  cases b
  cases same
  rfl

variable {F : Type} [F64 F]

/-- The `json!` object of a reading. -/
def readingValue (sensorId : String) (timestamp value : F) : Value F :=
  object [("sensor_id", .string sensorId), ("timestamp", encodeF64 timestamp),
    ("value", encodeF64 value)]

/-- A call of `write_sensor_reading_to_file`, and how much of its line is in the file. -/
abbrev Call (F : Type) [F64 F] := Entry (Value F)

structure State (F : Type) [F64 F] where
  files : Place → Option Text
  /-- The call of the sensor's reader, if it is in one. -/
  writing : SensorId → Option (Call F)
  /-- The calls that have ended, in this process or an earlier one. -/
  calls : SensorId → List (Call F)

inductive Action (F : Type) where
  /-- The directory and the file are there, or have been made, and the file is open. -/
  | enter (id : SensorId) (timestamp value : F)
  /-- One of them could not be made. -/
  | refuse (id : SensorId) (timestamp value : F)
  /-- The file takes the next `n` characters. -/
  | append (id : SensorId) (n : Nat)
  | finish (id : SensorId)
  /-- It takes no more. -/
  | fail (id : SensorId)
  /-- The process is killed, with all its readers. -/
  | kill

def place (cwd : Place) (id : SensorId) : Place := resolve cwd (sensorPath id.name)

namespace State

/-- All calls for a sensor so far. -/
def written (s : State F) (id : SensorId) : List (Call F) := s.calls id ++ (s.writing id).toList

/-- What the web server finds. -/
def host (s : State F) (cwd : Place) : Host := ⟨cwd, fun place => (s.files place).map .ok⟩

/-- The call ends as it is. -/
def leave (s : State F) (id : SensorId) (call : Call F) : State F :=
  { s with
    writing := Function.update s.writing id none
    calls := Function.update s.calls id (s.calls id ++ [call]) }

/-- What a killed process leaves. -/
def killed (s : State F) : State F := { s with writing := fun _ => none, calls := s.written }

end State

section Steps
variable (json : SerdeJson F) (cwd : Place)

def step (s : State F) : Action F → Option (State F)
  | .enter id timestamp value =>
    if s.writing id = none then
      let old := (s.files (place cwd id)).getD []
      some { s with
        files := Function.update s.files (place cwd id) (some old)
        writing := Function.update s.writing id (some ⟨readingValue id.name timestamp value, 0⟩) }
    else none
  | .refuse id timestamp value =>
    if s.writing id = none then some (s.leave id ⟨readingValue id.name timestamp value, 0⟩) else none
  | .append id n =>
    match s.writing id with
    | none => none
    | some call =>
      let line := json.toText call.value ++ ['\n']
      if 0 < n ∧ call.kept + n ≤ line.length then
        let old := (s.files (place cwd id)).getD []
        some { s with
          files := Function.update s.files (place cwd id) (some (old ++ (line.drop call.kept).take n))
          writing := Function.update s.writing id (some ⟨call.value, call.kept + n⟩) }
      else none
  | .finish id =>
    match s.writing id with
    | none => none
    | some call => if Whole json.toText call then some (s.leave id call) else none
  | .fail id =>
    match s.writing id with
    | none => none
    | some call => if Whole json.toText call then none else some (s.leave id call)
  | .kill => some s.killed

/-- A data directory in which no file has been made yet. -/
def recording : System (State F) (Action F) where
  init := ⟨fun _ => none, fun _ => none, fun _ => []⟩
  step := step json cwd

end Steps

/-! ## The file of a sensor -/

theorem place_eq (cwd : Place) (id : SensorId) :
    place cwd id = resolve cwd dataDir ++ [id.name.toList ++ ".txt".toList] := by
  have ordinary := ordinary_fileName id.name
  have suffix : '/' ∉ ".txt".toList := by decide
  obtain ⟨front, last⟩ := split_suffix id.name.toList suffix
  have whole := folder_append_fileName id.name.toList
  rw [folder_of_no_slash id.single, List.nil_append] at whole
  rw [place, sensorPath, resolve_join, resolve_fileName _ ordinary, front, last, whole,
    folder_of_no_slash id.single, resolve_nil]

/-- No two sensors share a file. -/
theorem place_injective {cwd : Place} {a b : SensorId} (same : place cwd a = place cwd b) : a = b := by
  rw [place_eq, place_eq] at same
  have names := List.singleton_inj.mp (List.append_cancel_left same)
  exact SensorId.ext (String.toList_inj.mp (List.append_cancel_right names))

theorem openedFile_eq (host : Host) (id : SensorId) :
    openedFile host id.name =
      if (host.files (place host.cwd id)).isSome then some (place host.cwd id) else none := by
  have clean : Char.ofNat 0 ∉ sensorPath id.name := by
    rw [nul_mem_sensorPath]
    intro bad
    exact absurd (id.ascii _ bad).1 (by decide)
  rw [openedFile, if_neg clean]
  rfl

section
variable (json : SerdeJson F)

theorem parseLines_eq (content : Text) :
    parseLines json content =
      (finished content).filterMap json.toValue ++ (json.toValue (unfinished content)).toList := by
  have dropped : (fun line => if (!isBlank line) = true then json.toValue line else none) =
      json.toValue := by
    funext line
    by_cases empty : isBlank line = true
    · simp [empty, json.toValue_blank line empty]
    · simp [empty]
  rw [parseLines, List.filterMap_filter, dropped,
    filterMap_lines json.toValue_return json.toValue_blank]

theorem readSensorFile_eq (s : State F) (cwd : Place) (id : SensorId) :
    readSensorFile json (s.host cwd) id.name =
      .ok (parseLines json ((s.files (place cwd id)).getD [])) := by
  rw [readSensorFile, openedFile_eq]
  cases there : s.files (place cwd id) with
  | none =>
    simp only [State.host, there]
    rfl
  | some content =>
    simp only [State.host, there, Option.map_some, Option.isSome_some, if_true, Option.getD_some]

omit json in
theorem sorted_reading (sensorId : String) (timestamp value : F) :
    Sorted [("sensor_id", Document.string sensorId), ("timestamp", encodeF64 timestamp),
      ("value", encodeF64 value)] := by
  have names : ["sensor_id", "timestamp", "value"].Pairwise (· < ·) := by decide
  exact List.pairwise_map.mp names

omit json in
theorem readingValue_eq (sensorId : String) (timestamp value : F) :
    readingValue sensorId timestamp value =
      .object [("sensor_id", .string sensorId), ("timestamp", encodeF64 timestamp),
        ("value", encodeF64 value)] :=
  congrArg Document.object (sortMembers_of_sorted (sorted_reading sensorId timestamp value))

/-- The JSON of a reading is read back as it is, but for its numbers. -/
theorem toValue_reading (sensorId : String) (timestamp value : F) :
    json.toValue (json.toText (readingValue sensorId timestamp value)) =
      some ((readingValue sensorId timestamp value).map json.reread) := by
  have flat (x : F) : (encodeF64 x).depth = 0 := by
    unfold encodeF64
    split <;> rfl
  have shallow : (readingValue sensorId timestamp value).depth ≤ recursionLimit := by
    rw [readingValue_eq]
    simp [Document.depth, Document.depthMembers, flat, recursionLimit]
  have kept : (readingValue sensorId timestamp value).canonical =
      readingValue sensorId timestamp value := by
    rw [readingValue_eq, Document.canonical,
      Document.canonicalMembers_of_sorted (sorted_reading sensorId timestamp value)]
    intro member there
    simp only [List.mem_cons, List.not_mem_nil, or_false] at there
    rcases there with rfl | rfl | rfl
    · rfl
    · exact Entry.canonical_encodeF64 timestamp
    · exact Entry.canonical_encodeF64 value
  rw [json.toValue_toText, if_pos shallow, Document.canonical_map, kept]

theorem single_toText (v : Value F) : '\n' ∉ json.toText v :=
  fun bad => absurd (json.plain v '\n' bad) (by decide)

end

/-! ## Whole runs -/

namespace State
variable (s : State F) (id other : SensorId) (call : Call F)

theorem written_leave : (s.leave id call).written other =
    if other = id then s.calls id ++ [call] else s.written other := by
  unfold written leave
  dsimp only
  by_cases same : other = id
  · rw [if_pos same, same, Function.update_self, Function.update_self, Option.toList_none,
      List.append_nil]
  · rw [if_neg same, Function.update_of_ne same, Function.update_of_ne same]

theorem written_update (files : Place → Option Text) :
    State.written { s with files, writing := Function.update s.writing id (some call) } other =
      if other = id then s.calls id ++ [call] else s.written other := by
  unfold written
  dsimp only
  by_cases same : other = id
  · rw [if_pos same, same, Function.update_self, Option.toList_some]
  · rw [if_neg same, Function.update_of_ne same]

theorem written_idle {s : State F} {id : SensorId} (idle : s.writing id = none) :
    s.written id = s.calls id := by rw [written, idle, Option.toList_none, List.append_nil]

theorem written_busy {s : State F} {id : SensorId} {call : Call F} (busy : s.writing id = some call) :
    s.written id = s.calls id ++ [call] := by rw [written, busy, Option.toList_some]

end State

/-- The value is a reading of the sensor. -/
def IsReading (id : SensorId) (v : Value F) : Prop :=
  ∃ timestamp value, v = readingValue id.name timestamp value

section
variable (json : SerdeJson F) (cwd : Place)

/-- The file of a sensor is what its calls have written, and they have written readings. -/
structure Holds (files : Place → Option Text) (id : SensorId) (calls : List (Call F)) : Prop where
  text : (files (place cwd id)).getD [] = content json.toText calls
  readings : ∀ call ∈ calls, IsReading id call.value

variable {json cwd}

theorem content_concat (calls : List (Call F)) (call : Call F) :
    content json.toText (calls ++ [call]) = content json.toText calls ++ written json.toText call := by
  rw [content_append]
  exact congrArg _ (List.append_nil _)

/-- A call that has not written anything yet. -/
theorem Holds.add {files : Place → Option Text} {id : SensorId} {calls : List (Call F)} {v : Value F}
    (holds : Holds json cwd files id calls) (reading : IsReading id v) :
    Holds json cwd files id (calls ++ [⟨v, 0⟩]) := by
  constructor
  · rw [content_concat, holds.text]
    exact (List.append_nil _).symm
  · intro call member
    obtain before | new := List.mem_append.mp member
    · exact holds.readings call before
    · rw [List.mem_singleton.mp new]
      exact reading

theorem Holds.more {files : Place → Option Text} {id : SensorId} {calls : List (Call F)} {call : Call F}
    (holds : Holds json cwd files id (calls ++ [call])) (n : Nat) :
    (files (place cwd id)).getD [] ++ ((json.toText call.value ++ ['\n']).drop call.kept).take n =
      content json.toText (calls ++ [⟨call.value, call.kept + n⟩]) := by
  rw [holds.text, content_concat, content_concat, written, written, List.append_assoc, List.take_add]

/-- What is done to the file of one sensor leaves the others. -/
theorem Holds.elsewhere {files : Place → Option Text} {id other : SensorId} {calls : List (Call F)}
    (holds : Holds json cwd files other calls) (apart : other ≠ id) (text : Text) :
    Holds json cwd (Function.update files (place cwd id) (some text)) other calls := by
  have places : place cwd other ≠ place cwd id := fun same => apart (place_injective same)
  refine ⟨?_, holds.readings⟩
  rw [Function.update_of_ne places]
  exact holds.text

theorem Holds.here {files : Place → Option Text} {id : SensorId} {calls : List (Call F)} {text : Text}
    (same : text = content json.toText calls) (readings : ∀ call ∈ calls, IsReading id call.value) :
    Holds json cwd (Function.update files (place cwd id) (some text)) id calls := by
  refine ⟨?_, readings⟩
  rw [Function.update_self, Option.getD_some, same]

theorem holds_step {s t : State F} {action : Action F}
    (holds : ∀ id, Holds json cwd s.files id (s.written id))
    (step : (recording json cwd).step s action = some t) (id : SensorId) :
    Holds json cwd t.files id (t.written id) := by
  have held := holds id
  cases action with
  | enter target timestamp value =>
    simp only [recording, SensorFile.step, Option.ite_none_right_eq_some, Option.some.injEq] at step
    obtain ⟨idle, rfl⟩ := step
    rw [State.written_update]
    by_cases same : id = target
    · subst same
      rw [if_pos rfl]
      rw [State.written_idle idle] at held
      have more := held.add ⟨timestamp, value, rfl⟩
      exact Holds.here more.text more.readings
    · rw [if_neg same]
      exact held.elsewhere same _
  | refuse target timestamp value =>
    simp only [recording, SensorFile.step, Option.ite_none_right_eq_some, Option.some.injEq] at step
    obtain ⟨idle, rfl⟩ := step
    rw [State.written_leave]
    by_cases same : id = target
    · subst same
      rw [if_pos rfl]
      rw [State.written_idle idle] at held
      exact held.add ⟨timestamp, value, rfl⟩
    · rw [if_neg same]
      exact held
  | append target n =>
    cases busy : s.writing target with
    | none => simp [recording, SensorFile.step, busy] at step
    | some call =>
      simp only [recording, SensorFile.step, busy, Option.ite_none_right_eq_some,
        Option.some.injEq] at step
      obtain ⟨-, rfl⟩ := step
      rw [State.written_update]
      by_cases same : id = target
      · subst same
        rw [if_pos rfl]
        rw [State.written_busy busy] at held
        apply Holds.here (held.more n)
        intro other member
        obtain before | new := List.mem_append.mp member
        · exact held.readings other (List.mem_append_left _ before)
        · rw [List.mem_singleton.mp new]
          exact held.readings call List.mem_concat_self
      · rw [if_neg same]
        exact held.elsewhere same _
  | finish target | fail target =>
    cases busy : s.writing target with
    | none => simp [recording, SensorFile.step, busy] at step
    | some call =>
      simp only [recording, SensorFile.step, busy, Option.ite_none_right_eq_some,
        Option.ite_none_left_eq_some, Option.some.injEq] at step
      obtain ⟨-, rfl⟩ := step
      rw [State.written_leave]
      by_cases same : id = target
      · subst same
        rw [if_pos rfl, ← State.written_busy busy]
        exact held
      · rw [if_neg same]
        exact held
  | kill =>
    cases step
    rw [State.written_idle rfl]
    exact held

theorem holds_reachable {s : State F} (reach : (recording json cwd).Reachable s) (id : SensorId) :
    Holds json cwd s.files id (s.written id) := by
  apply System.Reaches.invariant reach fun s => ∀ id, Holds json cwd s.files id (s.written id)
  · intro id
    exact ⟨rfl, fun call member => absurd member (List.not_mem_nil)⟩
  · intro u action v holds step
    exact holds_step holds step

theorem Holds.reads {files : Place → Option Text} {id : SensorId} {calls : List (Call F)}
    (holds : Holds json cwd files id calls) :
    ∀ call ∈ calls, json.toValue (json.toText call.value) = some (call.value.map json.reread) := by
  intro call member
  obtain ⟨timestamp, value, same⟩ := holds.readings call member
  rw [same]
  exact toValue_reading json id.name timestamp value

/-- A line that has not been ended gives one value at most. -/
theorem unfinished_length_le (json : SerdeJson F) (text : Text) :
    (json.toValue (unfinished text)).toList.length ≤ loose text := by
  unfold loose
  split
  · next ended => rw [ended, json.toValue_blank [] rfl, Option.toList_none, List.length_nil]
  · cases json.toValue (unfinished text) with
    | none => exact Nat.zero_le _
    | some v => exact Nat.le_refl _

/-- The calls that have come first and were not cut short are read first. -/
theorem Holds.begins {files : Place → Option Text} {id : SensorId} {first rest : List (Call F)}
    (holds : Holds json cwd files id (first ++ rest)) (whole : ∀ call ∈ first, Whole json.toText call) :
    (first.map fun call => call.value.map json.reread) <+:
      parseLines json ((files (place cwd id)).getD []) := by
  have reads := holds.reads
  have single (calls : List (Call F)) : ∀ call ∈ calls, '\n' ∉ json.toText call.value :=
    fun call _ => single_toText json call.value
  have reads_first : ∀ call ∈ first,
      json.toValue (json.toText call.value) = some (call.value.map json.reread) :=
    fun call member => reads call (List.mem_append_left _ member)
  have reads_rest : ∀ call ∈ rest,
      json.toValue (json.toText call.value) = some (call.value.map json.reread) :=
    fun call member => reads call (List.mem_append_right _ member)
  obtain ⟨added, values, -, -⟩ := finished_content (Document.map json.reread) (content json.toText first)
    (single rest) reads_rest
  rw [parseLines_eq, holds.text, content_append, values,
    finished_wholes (Document.map json.reread) (single first) reads_first whole, List.append_assoc]
  exact List.prefix_append _ _

/-- Where no call was cut short, the file is all of them. -/
theorem Holds.read_whole {files : Place → Option Text} {id : SensorId} {calls : List (Call F)}
    (holds : Holds json cwd files id calls) (whole : ∀ call ∈ calls, Whole json.toText call) :
    parseLines json ((files (place cwd id)).getD []) =
      calls.map fun call => call.value.map json.reread := by
  have single : ∀ call ∈ calls, '\n' ∉ json.toText call.value :=
    fun call _ => single_toText json call.value
  have ended := (intact_of_whole unfinished_nil single whole).2
  rw [List.nil_append] at ended
  rw [parseLines_eq, holds.text, ended, json.toValue_blank [] rfl, Option.toList_none, List.append_nil]
  exact finished_wholes (Document.map json.reread) single holds.reads whole

/-- In every run, however writes are interleaved, cut short and lost: reading the file of a sensor gives
every reading whose line was written to its end, in order and with its numbers as they are read back, but
for at most one behind each line that was cut short, and at most one value for each of those. -/
theorem files_read_back (json : SerdeJson F) (cwd : Place) (s : State F)
    (reach : (recording json cwd).Reachable s) (id : SensorId) :
    ∃ values, readSensorFile json (s.host cwd) id.name = .ok values ∧
      List.Sublist
        ((intact json.toText [] (s.written id)).map fun call => call.value.map json.reread) values ∧
      values.length ≤
        (intact json.toText [] (s.written id)).length + (cut json.toText (s.written id)).length ∧
      (wholes json.toText (s.written id)).length ≤
        (intact json.toText [] (s.written id)).length + (cut json.toText (s.written id)).length := by
  have holds := holds_reachable reach id
  have single : ∀ call ∈ s.written id, '\n' ∉ json.toText call.value :=
    fun call _ => single_toText json call.value
  obtain ⟨added, values, part, bound⟩ :=
    finished_content (Document.map json.reread) [] single holds.reads
  have clean : loose [] = 0 := rfl
  have last := unfinished_length_le json (content json.toText (s.written id))
  have lost := wholes_length_le [] single
  refine ⟨_, readSensorFile_eq json s cwd id, ?_, ?_, by omega⟩
  · rw [parseLines_eq, holds.text]
    rw [List.nil_append] at values
    rw [values]
    exact part.trans (List.sublist_append_left _ _)
  · rw [parseLines_eq, holds.text, List.length_append]
    rw [List.nil_append] at values bound
    rw [values]
    simp only [finished_nil, List.filterMap_nil, List.nil_append]
    omega

theorem calls_step {s t : State F} {action : Action F}
    (step : (recording json cwd).step s action = some t) (id : SensorId) : s.calls id <+: t.calls id := by
  have left (target : SensorId) (call : Call F) : s.calls id <+: (s.leave target call).calls id := by
    show s.calls id <+: Function.update s.calls target (s.calls target ++ [call]) id
    by_cases same : id = target
    · rw [same, Function.update_self]
      exact List.prefix_append _ _
    · exact ⟨[], (List.append_nil _).trans (Function.update_of_ne same _ _).symm⟩
  cases action with
  | enter target timestamp value =>
    simp only [recording, SensorFile.step, Option.ite_none_right_eq_some, Option.some.injEq] at step
    obtain ⟨-, rfl⟩ := step
    exact List.prefix_refl _
  | refuse target timestamp value =>
    simp only [recording, SensorFile.step, Option.ite_none_right_eq_some, Option.some.injEq] at step
    obtain ⟨-, rfl⟩ := step
    exact left target _
  | append target n =>
    cases busy : s.writing target with
    | none => simp [recording, SensorFile.step, busy] at step
    | some call =>
      simp only [recording, SensorFile.step, busy, Option.ite_none_right_eq_some,
        Option.some.injEq] at step
      obtain ⟨-, rfl⟩ := step
      exact List.prefix_refl _
  | finish target | fail target =>
    cases busy : s.writing target with
    | none => simp [recording, SensorFile.step, busy] at step
    | some call =>
      simp only [recording, SensorFile.step, busy, Option.ite_none_right_eq_some,
        Option.ite_none_left_eq_some, Option.some.injEq] at step
      obtain ⟨-, rfl⟩ := step
      exact left target call
  | kill =>
    cases step
    exact List.prefix_append _ _

/-- No call that has ended is forgotten. -/
theorem calls_grow {s t : State F} (reach : (recording json cwd).Reaches s t) (id : SensorId) :
    s.calls id <+: t.calls id := by
  apply System.Reaches.invariant reach fun t => s.calls id <+: t.calls id
  · exact List.prefix_refl _
  · intro u action v grown step
    exact grown.trans (calls_step step id)

/-- The endpoint shows the readings that have come first. Once the first ones it can show are in the file
with their whole lines, its answer is those as they are read back, and no later step of any run changes
it. -/
theorem raw_sensor_settles (json : SerdeJson F) (cwd : Place) (s t : State F)
    (reach : (recording json cwd).Reachable s) (later : (recording json cwd).Reaches s t)
    (id : SensorId) (limit : Option String)
    (enough : (parseU64Opt limit).getD 100 ≤ (s.calls id).length)
    (whole : ∀ call ∈ (s.calls id).take ((parseU64Opt limit).getD 100), Whole json.toText call) :
    getRawSensorData json (t.host cwd) id.name limit =
      .ok (object
        [("sensor_id", .string id.name), ("count", encodeU64 ((parseU64Opt limit).getD 100)),
          ("data", .array (((s.calls id).take ((parseU64Opt limit).getD 100)).map
            fun call => call.value.map json.reread))]) := by
  generalize shown : (parseU64Opt limit).getD 100 = n at enough whole
  have holds := holds_reachable (reach.trans later) id
  obtain ⟨more, grown⟩ := calls_grow later id
  have split : t.written id =
      (s.calls id).take n ++ ((s.calls id).drop n ++ (more ++ (t.writing id).toList)) := by
    rw [State.written, ← grown, ← List.append_assoc, List.take_append_drop, List.append_assoc]
  rw [split] at holds
  obtain ⟨others, values⟩ := holds.begins whole
  have counted : (((s.calls id).take n).map fun call => call.value.map json.reread).length = n := by
    rw [List.length_map, List.length_take, Nat.min_eq_left enough]
  have data : (parseLines json ((t.files (place cwd id)).getD [])).take n =
      ((s.calls id).take n).map fun call => call.value.map json.reread := by
    rw [← values]
    exact List.take_left' counted
  rw [getRawSensorData, readSensorFile_eq]
  simp only [shown, data, counted]

end

def thermo : SensorId where
  name := "thermo-1"
  single := by decide
  ascii := by simp

/-- The file takes the whole line of a reading. -/
def wholeCall (timestamp value : Extended) : List (Action Extended) :=
  let line := exactJson.toText (readingValue thermo.name timestamp value) ++ ['\n']
  [.enter thermo timestamp value, .append thermo line.length, .finish thermo]

/-- A reading that is cut short between two whole ones, and another on the line it has left. -/
def torn : List (Action Extended) :=
  wholeCall (.finite 1) (.finite 7) ++ [.enter thermo (.finite 2) (.finite 8), .append thermo 5, .kill] ++
    wholeCall (.finite 3) (.finite 9)

theorem files_read_back_torn :
    ∃ (s : State Extended) (values : List (Value Extended)),
      readSensorFile exactJson (s.host []) thermo.name = .ok values ∧
        (wholes exactJson.toText (s.written thermo)).length = 2 ∧
        (cut exactJson.toText (s.written thermo)).length = 1 ∧
        (intact exactJson.toText [] (s.written thermo)).length = 1 ∧ values.length ≤ 2 := by
  let s := ((recording exactJson []).run torn).get (by decide)
  have reach : (recording exactJson []).Reachable s :=
    System.reachable_of_run (Option.some_get _).symm
  obtain ⟨values, read, -, few, -⟩ := files_read_back exactJson [] s reach thermo
  have broken : (cut exactJson.toText (s.written thermo)).length = 1 := by decide
  have kept : (intact exactJson.toText [] (s.written thermo)).length = 1 := by decide
  refine ⟨s, values, read, by decide, broken, kept, ?_⟩
  rw [broken, kept] at few
  exact few

theorem raw_sensor_settles_torn :
    ∃ s t : State Extended, (s.calls thermo).length = 1 ∧ (t.calls thermo).length = 3 ∧
      getRawSensorData exactJson (t.host []) thermo.name (some "1") =
        .ok (object
          [("sensor_id", .string thermo.name), ("count", encodeU64 1),
            ("data", .array [readingValue thermo.name (.finite 1) (.finite 7)])]) := by
  let s := ((recording exactJson []).run (wholeCall (.finite 1) (.finite 7))).get (by decide)
  let t := ((recording exactJson []).runFrom s (torn.drop 3)).get (by decide)
  have reach : (recording exactJson []).Reachable s :=
    System.reachable_of_run (Option.some_get _).symm
  have later : (recording exactJson []).Reaches s t :=
    System.reaches_of_runFrom (Option.some_get _).symm
  exact ⟨s, t, by decide, by decide,
    raw_sensor_settles exactJson [] s t reach later thermo (some "1") (by decide) (by decide)⟩

end SensorGateway.Dashboard.SensorFile

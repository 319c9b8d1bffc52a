import SensorGateway.Dashboard.Endpoints
import SensorGateway.Lib.UnixPath

/-! `/api/raw-sensor/{id}` of the gateway's web server. The id comes percent-decoded, so it may hold any
character, and it is joined to the data directory as it is. -/

namespace SensorGateway.Dashboard.RawSensor
open SensorGateway.Lib.Json SensorGateway.Lib.JsonText SensorGateway.Lib.Lines
open SensorGateway.Lib.UnixPath SensorGateway.Types
open Storage.Disk (IoError)
open Storage.Encoding Storage.Texts Endpoints

/-- The machine the gateway runs on: its working directory, and what opening and reading the file at
a place gives, if there is one. -/
structure Host where
  cwd : Place
  files : Place → Option (Except IoError Text)

def dataDir : Text := "data".toList

/-- `PathBuf::from("data").join(format!(..))`. -/
def sensorPath (sensorId : String) : Text := join dataDir (sensorId.toList ++ ".txt".toList)

/-- The file that is opened: where the path leads, if something exists there. No path with a NUL
character exists. -/
def openedFile (host : Host) (sensorId : String) : Option Place :=
  let path := sensorPath sensorId
  let place := resolve host.cwd path
  if Char.ofNat 0 ∈ path then none
  else if (host.files place).isSome then some place
  else none

variable {F : Type} [F64 F] (json : SerdeJson F)

/-- A line that is no JSON is reported and left out. -/
def parseLines (content : Text) : List (Value F) :=
  ((lines content).filter fun line => !isBlank line).filterMap json.toValue

def readSensorFile (host : Host) (sensorId : String) : Except IoError (List (Value F)) :=
  match openedFile host sensorId with
  | none => .ok []
  | some place =>
    match host.files place with
    | none => .ok []
    | some (.error e) => .error e
    | some (.ok content) => .ok (parseLines json content)

def getRawSensorData (host : Host) (sensorId : String) (limit : Option String) :
    Except IoError (Value F) :=
  let limit := (parseU64Opt limit).getD 100
  match readSensorFile json host sensorId with
  | .ok data =>
    let data := data.take limit
    .ok (object
      [("sensor_id", .string sensorId), ("count", encodeU64 data.length), ("data", .array data)])
  | .error .notFound =>
    .ok (object
      [("sensor_id", .string sensorId), ("error", .string "Sensor data file not found"),
        ("count", encodeU64 0), ("data", .array [])])
  | .error e => .error e

/-! Where the opened file is. -/

def DirectChild (directory place : Place) : Prop := ∃ name, place = directory ++ [name]

/-- The part of the id up to its last slash leads from the data directory back to it; or the id has a
NUL character, and nothing is opened. -/
def Confined (cwd : Place) (sensorId : String) : Prop :=
  resolve (resolve cwd dataDir) (folder sensorId.toList) = resolve cwd dataDir ∨
    Char.ofNat 0 ∈ sensorId.toList

theorem ordinary_fileName (sensorId : String) :
    Ordinary (fileName (sensorId.toList ++ ".txt".toList)) := by
  rw [(split_suffix sensorId.toList (by decide)).2]
  generalize fileName sensorId.toList = name
  have longer : 4 ≤ (name ++ ".txt".toList).length := by
    rw [List.length_append]
    exact Nat.le_add_left ..
  constructor
  all_goals
    intro same
    rw [same] at longer
    exact absurd longer (by decide)

/-- The file is in the folder that the id itself names, seen from the data directory. -/
theorem resolve_sensorPath (cwd : Place) (sensorId : String) :
    ∃ name, resolve cwd (sensorPath sensorId) =
      resolve (resolve cwd dataDir) (folder sensorId.toList) ++ [name] := by
  refine ⟨fileName (sensorId.toList ++ ".txt".toList), ?_⟩
  rw [sensorPath, resolve_join, resolve_fileName _ (ordinary_fileName sensorId),
    (split_suffix sensorId.toList (by decide)).1]

theorem nul_mem_sensorPath (sensorId : String) :
    Char.ofNat 0 ∈ sensorPath sensorId ↔ Char.ofNat 0 ∈ sensorId.toList := by
  have suffix : Char.ofNat 0 ∉ ".txt".toList := by decide
  have directory : Char.ofNat 0 ∉ dataDir := by decide
  have slash : Char.ofNat 0 ≠ '/' := by decide
  unfold sensorPath join
  split
  · simp only [List.mem_append, suffix, or_false]
  · split
    · simp only [List.mem_append, directory, suffix, false_or, or_false]
    · simp only [List.mem_append, List.mem_cons, directory, slash, suffix, false_or, or_false]

/-- Whatever files there are, a request opens no file but a direct child of the data directory, exactly
when its id is confined. -/
theorem raw_sensor_confined_iff (cwd : Place) (sensorId : String) :
    (∀ files place, openedFile ⟨cwd, files⟩ sensorId = some place →
      DirectChild (resolve cwd dataDir) place) ↔ Confined cwd sensorId := by
  obtain ⟨name, leads⟩ := resolve_sensorPath cwd sensorId
  constructor
  · intro inside
    by_cases nul : Char.ofNat 0 ∈ sensorId.toList
    · exact Or.inr nul
    · left
      have opens : openedFile ⟨cwd, fun _ => some (.ok [])⟩ sensorId =
          some (resolve cwd (sensorPath sensorId)) := by
        rw [openedFile, if_neg (fun bad => nul ((nul_mem_sensorPath sensorId).mp bad))]
        rfl
      obtain ⟨child, same⟩ := inside _ _ opens
      rw [leads] at same
      exact (List.append_inj' same rfl).1
  · rintro (back | nul) files place opens
    · simp only [openedFile] at opens
      split at opens
      · cases opens
      · split at opens
        · rw [← Option.some.inj opens, leads, back]
          exact ⟨name, rfl⟩
        · cases opens
    · rw [openedFile, if_pos ((nul_mem_sensorPath sensorId).mpr nul)] at opens
      cases opens

/-- An id without a slash is confined, such as those of the program's own sensors. -/
theorem confined_of_no_slash (cwd : Place) {sensorId : String} (single : '/' ∉ sensorId.toList) :
    Confined cwd sensorId := by
  left
  rw [folder_of_no_slash single, resolve_nil]

/-- A file beside the data directory. -/
def neighbour : Host where
  cwd := ["srv".toList, "gateway".toList]
  files := fun place =>
    if place = ["srv".toList, "gateway".toList, "notes.txt".toList] then some (.ok "true\n".toList)
    else none

/-- The ids `../notes` and `/srv/gateway/notes` both open it, and its content is answered. -/
theorem neighbour_opened :
    openedFile neighbour "../notes" = some ["srv".toList, "gateway".toList, "notes.txt".toList] ∧
    openedFile neighbour "/srv/gateway/notes" =
      some ["srv".toList, "gateway".toList, "notes.txt".toList] ∧
    readSensorFile exactJson neighbour "../notes" = .ok [.bool true] ∧
    ¬ DirectChild (resolve neighbour.cwd dataDir)
      ["srv".toList, "gateway".toList, "notes.txt".toList] := by
  refine ⟨by decide, by decide, by rfl, ?_⟩
  rintro ⟨name, same⟩
  have shorter : (resolve neighbour.cwd dataDir).length = 3 := by decide
  have lengths := congrArg List.length same
  rw [List.length_append, shorter, List.length_singleton] at lengths
  exact absurd lengths (by decide)

end SensorGateway.Dashboard.RawSensor

import SensorGateway.Storage.Texts

/-! The endpoints of the dashboard that answer from the storage directory. A request finds the files as
some observation of the directory has them. -/

namespace SensorGateway.Dashboard.Endpoints
open SensorGateway.Lib.Json SensorGateway.Lib.JsonText SensorGateway.Lib.Lines
open SensorGateway.Lib.Saturating SensorGateway.Types
open Storage.Disk Storage.Persist Storage.Encoding Storage.Texts

inductive StatusCode where
  | ok
  | badRequest
  | notFound
  deriving DecidableEq, Repr

/-- A response with JSON in its body. -/
structure HttpResponse where
  status : StatusCode
  body : Text
  deriving DecidableEq, Repr

variable {F : Type} [F64 F]

/-! `helpers.rs`. -/

/-- `str::parse::<u64>`. -/
def parseU64 (text : Text) : Option Nat :=
  let digits := match text with
    | '+' :: rest => rest
    | _ => text
  (readNat digits).filter fun n => n ≤ u64Max

def parseU64Opt (s : Option String) : Option Nat := s.bind fun v => parseU64 v.toList

def unixSecsFromSystemtimeValue (v : Value F) : Option Nat :=
  (v.get "secs_since_epoch").bind Document.asU64

def stddevFromStats (stats : Value F) : Option F := do
  let count ← (← stats.get "count").asU64
  if count ≤ 1 then some 0
  else
    let m2 ← decodeF64 (← stats.get "m2")
    some (F64.sqrt (m2 / F64.ofCount (count - 1)))

/-! `lib.rs`. The paths it names are resolved to the storage directory. -/

/-- The `json!` object of the members. -/
def object (members : List (String × Value F)) : Value F := .object (sortMembers members)

theorem get_object {members : List (String × Value F)} (distinct : (members.map Prod.fst).Nodup)
    (key : String) : (object members).get key = members.lookup key :=
  lookup_sortMembers distinct key

variable (json : SerdeJson F)

/-- A `Value` can always be written. -/
def jsonValueResponse (status : StatusCode) (v : Value F) : HttpResponse := ⟨status, json.toText v⟩

def errorResponse (status : StatusCode) (message : String) : HttpResponse :=
  jsonValueResponse json status (object [("error", .string message)])

def jsonFileResponse (o : Observation) (path : Path) : HttpResponse :=
  match o.text path with
  | some bytes => ⟨.ok, bytes⟩
  | none => ⟨.notFound, "\x7b\"error\":\"not found\"\x7d".toList⟩

def readJsonValue (o : Observation) (path : Path) : Option (Value F) :=
  (o.text path).bind json.toValue

def readRuntimeSnapshotField (o : Observation) (key : String) : Option (Value F) :=
  (readJsonValue json o runtimeSnapshotPath).bind (·.get key)

/-- A field of the runtime snapshot, or else a file of its own. -/
def snapshotEndpoint (o : Observation) (key : String) (path : Path) : HttpResponse :=
  match readRuntimeSnapshotField json o key with
  | some v => jsonValueResponse json .ok v
  | none => jsonFileResponse o path

def latest (o : Observation) : HttpResponse := snapshotEndpoint json o "latest" latestSnapshotPath

def stats (o : Observation) : HttpResponse := snapshotEndpoint json o "stats" statsSnapshotPath

/-- The anomalies of one sensor, if the frame has any list of anomalies. -/
def sensorAnomalies (frame : Value F) (sensorId : String) : List (Value F) :=
  match (frame.get "anomalies").bind Document.asArray with
  | some items => items.filter fun item => (item.get "sensor_id").bind Document.asStr = some sensorId
  | none => []

/-- What is said about a sensor in a frame. -/
def sensorEntry (frame stats : Value F) (sensorId : String) : Value F :=
  object
    [("window_id", encodeOption (frame.get "window_id")),
      ("window_start", encodeOption (frame.get "window_start")),
      ("window_end", encodeOption (frame.get "window_end")),
      ("sensor_id", .string sensorId),
      ("stats", stats),
      ("stddev_sample", encodeOption ((stddevFromStats stats).map encodeF64)),
      ("anomalies", .array (sensorAnomalies frame sensorId))]

/-- The body of the loop over the lines of an hour file; `none` is `continue`. -/
def scanLine (sensorId : String) (sinceS untilS : Nat) (line : Text) : Option (Value F) := do
  let frame ← json.toValue line
  let endSecs := ((frame.get "window_end").bind unixSecsFromSystemtimeValue).getD 0
  if endSecs < sinceS ∨ untilS < endSecs then none
  else
    let perSensor ← frame.get "per_sensor"
    let stats ← perSensor.get sensorId
    some (sensorEntry frame stats sensorId)

def scanHour (o : Observation) (sensorId : String) (sinceS untilS : Nat) (unixHour : Int) :
    List (Value F) :=
  match o.text (hourPath unixHour) with
  | none => []
  | some content => (lines content).filterMap (scanLine json sensorId sinceS untilS)

/-- `n as i64`. -/
def asI64 (n : Nat) : Int := Int.bmod n (2 ^ 64)

/-- `i64::saturating_sub`. -/
def i64SaturatingSub (a b : Int) : Int := max (-2 ^ 63) (min (2 ^ 63 - 1) (a - b))

/-- `first..=last`. -/
def hourRange (first last : Int) : List Int :=
  (List.range (last + 1 - first).toNat).map fun n : Nat => first + n

def rangeDocument (sensorId : String) (sinceOpt untilOpt : Option Nat) (frames : List (Value F)) :
    Value F :=
  object
    [("sensor_id", .string sensorId), ("since", encodeOption (sinceOpt.map encodeU64)),
      ("until", encodeOption (untilOpt.map encodeU64)), ("frames", .array frames)]

/-- The range branch of `sensor`. -/
def sensorRange (o : Observation) (sensorId : String) (sinceOpt untilOpt : Option Nat) : HttpResponse :=
  let sinceS := sinceOpt.getD 0
  let untilS := untilOpt.getD u64Max
  if untilS < sinceS then errorResponse json .badRequest "since > until"
  else
    let startHour := asI64 (sinceS / 3600)
    let endHour := asI64 (untilS / 3600)
    if 24 * 14 < i64SaturatingSub endHour startHour then
      errorResponse json .badRequest "range too large (max 14 days)"
    else
      let out := (hourRange startHour endHour).flatMap (scanHour json o sensorId sinceS untilS)
      jsonValueResponse json .ok (rangeDocument sensorId sinceOpt untilOpt out)

def sensorInFrame (frame : Value F) (sensorId : String) : HttpResponse :=
  match (frame.get "per_sensor").bind (·.get sensorId) with
  | none => errorResponse json .notFound "sensor not found in latest"
  | some stats => jsonValueResponse json .ok (sensorEntry frame stats sensorId)

/-- The latest branch of `sensor`. -/
def sensorLatest (o : Observation) (sensorId : String) : HttpResponse :=
  match (readRuntimeSnapshotField json o "latest").or (readJsonValue json o latestSnapshotPath) with
  | none => errorResponse json .notFound "latest not found"
  | some frame => sensorInFrame json frame sensorId

/-- `/sensor/<id>` with the two query parameters it looks at. -/
def sensor (o : Observation) (id sinceQuery untilQuery : Option String) : HttpResponse :=
  let sensorId := id.getD ""
  if sensorId = "" then errorResponse json .badRequest "missing sensor id"
  else
    let sinceOpt := parseU64Opt sinceQuery
    let untilOpt := parseU64Opt untilQuery
    if sinceOpt.isSome ∨ untilOpt.isSome then sensorRange json o sensorId sinceOpt untilOpt
    else sensorLatest json o sensorId

end SensorGateway.Dashboard.Endpoints

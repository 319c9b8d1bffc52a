import SensorGateway.Lib.Transition
import SensorGateway.Storage.Disk
import SensorGateway.Types

/-! The storage worker: the hourly log with its line cache, the runtime artifacts and the metrics.
`serde_json` is a parameter. -/

namespace SensorGateway.Storage.Persist
open SensorGateway.Lib.Fallible SensorGateway.Lib.Lines SensorGateway.Lib.Transition
open SensorGateway.Types Disk

inductive StorageError where
  | channelClosed
  | workerFailed
  deriving DecidableEq, Repr

/-- The record written to `latest`. -/
structure LatestIndex where
  windowId : Nat
  windowEndUnix : Option Nat
  hourFile : Option FileName
  deriving DecidableEq, Repr

/-- Compact serialization of the records that storage writes; a value may be refused, as a
`SystemTime` before the epoch is. -/
structure Serde (F Value : Type) where
  frame : AggregatedFrame F → Option Text
  value : Value → Option Text
  snapshot : AggregatedFrame F → Value → Option Text
  index : LatestIndex → Option Text
  /-- Compact JSON of a record is one line in braces, with every control character escaped. -/
  compact : ∀ f line, frame f = some line → '\n' ∉ line ∧ '\r' ∉ line ∧ '{' ∈ line
  /-- A JSON value is never refused, and so neither is a record of parts that are not. -/
  pairable : ∀ f line stats, frame f = some line → ∃ text, snapshot f stats = some text
  indexable : ∀ i, ∃ text, index i = some text

/-- What becomes of the file operations of one request, and how long it takes. -/
structure Faults where
  read : Verdict
  hour : WriteFaults
  latest : WriteFaults
  stats : WriteFaults
  snapshot : WriteFaults
  index : WriteFaults
  deriving DecidableEq, Repr

def Faults.none : Faults := ⟨.ok, .none, .none, .none, .none, .none⟩

structure PersistRequest (F Value : Type) where
  frame : AggregatedFrame F
  statsSnapshot : Option Value
  faults : Faults
  persistUs : Nat

/-- `persisted_frames` is a `u64` that grows by one with a request, and taken to stay below its end. -/
structure StorageMetrics where
  persistedFrames : Nat
  lastPersistUs : Nat
  maxPersistUs : Nat
  lastWindowId : Option Nat
  currentHourFile : Option FileName
  lastError : Option IoError
  deriving DecidableEq, Repr

def StorageMetrics.default : StorageMetrics := ⟨0, 0, 0, none, none, none⟩

/-- Seconds since the epoch, unless the time is before it. -/
def unixSeconds (t : SystemTime) : Option Nat :=
  if t < 0 then none else some (t.toNat / 1000000000)

def hourKeyFromSystemTime (t : SystemTime) : Int × Nat × Nat × Nat :=
  let secs : Int := (unixSeconds t).getD 0
  (secs / 3600, 0, 0, 0)

def hourFilename (unixHour : Int) : FileName := ⟨.hour unixHour, some .jsonl⟩

def hourPath (unixHour : Int) : Path := ⟨.frames, hourFilename unixHour⟩

def latestSnapshotPath : Path := ⟨.base, .latest, some .json⟩
def latestIndexPath : Path := ⟨.base, .latest, none⟩
def statsSnapshotPath : Path := ⟨.base, .stats, some .json⟩
def runtimeSnapshotPath : Path := ⟨.base, .snapshot, some .json⟩

/-- The bytes of `atomic_write_json`. -/
def jsonBytes (serialized : Option Text) : Text := serialized.getD "{}".toList

def atomicWriteJson (path : Path) (serialized : Option Text) (faults : WriteFaults) : IoM Unit :=
  atomicWriteBytes path (jsonBytes serialized) faults

namespace HourlyWriter

def new : HourlyWriter := ⟨none, none, []⟩

/-- `rotate_if_needed` does nothing for the hour the writer is at. -/
def At (hourly : HourlyWriter) (unixHour : Int) : Prop :=
  hourly.currentUnixHour = some unixHour ∧ hourly.currentPath.isSome = true

instance (hourly : HourlyWriter) (unixHour : Int) : Decidable (At hourly unixHour) :=
  inferInstanceAs (Decidable (_ ∧ _))

def rotateIfNeeded (unixHour : Int) (read : Verdict) : IoM Unit := do
  let s ← get
  if At s.hourly unixHour then pure ()
  else
    let path := hourPath unixHour
    let existing ← tryCatch
      (do
        let content ← readToString path read
        pure ((lines content).filter fun line => !isBlank line))
      (fun
        | .notFound => pure []
        | e => throw e)
    modify fun s => { s with hourly := ⟨some unixHour, some path, existing⟩ }

def push (hourly : HourlyWriter) (line : Text) : HourlyWriter :=
  { hourly with currentLines := hourly.currentLines ++ [line] }

def flush (faults : WriteFaults) : IoM Unit := do
  let s ← get
  match s.hourly.currentPath with
  | none => pure ()
  | some path => atomicWriteBytes path (unlines s.hourly.currentLines) faults

def currentHourFile (hourly : HourlyWriter) : Option FileName :=
  hourly.currentUnixHour.map hourFilename

end HourlyWriter

variable {F Value : Type} (serde : Serde F Value)

def appendJsonl (unixHour : Int) (frame : AggregatedFrame F) (read : Verdict)
    (faults : WriteFaults) : IoM Unit := do
  HourlyWriter.rotateIfNeeded unixHour read
  match serde.frame frame with
  | none => throw .invalidData
  | some line =>
    modify fun s => { s with hourly := HourlyWriter.push s.hourly line }
    HourlyWriter.flush faults

def frameHour (frame : AggregatedFrame F) : Int := (hourKeyFromSystemTime frame.windowEnd).1

def latestIndex (frame : AggregatedFrame F) (hourFile : Option FileName) : LatestIndex :=
  ⟨frame.windowId, unixSeconds frame.windowEnd, hourFile⟩

/-- `persist_runtime_artifacts` once the hour file is in place. -/
def publishArtifacts (frame : AggregatedFrame F) (statsSnapshot : Option Value) (faults : Faults) :
    IoM Unit := do
  atomicWriteJson latestSnapshotPath (serde.frame frame) faults.latest
  match statsSnapshot with
  | none => pure ()
  | some stats =>
    atomicWriteJson statsSnapshotPath (serde.value stats) faults.stats
    atomicWriteJson runtimeSnapshotPath (serde.snapshot frame stats) faults.snapshot
  let s ← get
  let idx := latestIndex frame (HourlyWriter.currentHourFile s.hourly)
  atomicWriteJson latestIndexPath (serde.index idx) faults.index

def persistRuntimeArtifacts (frame : AggregatedFrame F) (statsSnapshot : Option Value)
    (faults : Faults) : IoM Unit := do
  appendJsonl serde (frameHour frame) frame faults.read faults.hour
  publishArtifacts serde frame statsSnapshot faults

/-- The worker thread between two requests, with every answer it has given. -/
structure Worker (F Value : Type) where
  store : Store
  metrics : StorageMetrics
  answered : List (PersistRequest F Value × Except StorageError Unit)

def persistWithMetrics (request : PersistRequest F Value) (w : Worker F Value) :
    Except StorageError Unit × Store × StorageMetrics :=
  let persist := persistRuntimeArtifacts serde request.frame request.statsSnapshot request.faults
  match persist.run.run w.store with
  | (.ok _, store) =>
    (.ok (), store,
      { persistedFrames := w.metrics.persistedFrames + 1
        lastPersistUs := request.persistUs
        maxPersistUs := max w.metrics.maxPersistUs request.persistUs
        lastWindowId := some request.frame.windowId
        currentHourFile := HourlyWriter.currentHourFile store.hourly
        lastError := none })
  | (.error err, store) => (.error .workerFailed, store, { w.metrics with lastError := some err })

/-- The worker serves one request and acknowledges it. -/
def serve (w : Worker F Value) (request : PersistRequest F Value) : Worker F Value :=
  let (answer, store, metrics) := persistWithMetrics serde request w
  { store, metrics, answered := w.answered ++ [(request, answer)] }

/-- The worker on a directory with the given files, and every sequence of requests. -/
def worker (initial : Files) : System (Worker F Value) (PersistRequest F Value) where
  init := { store := ⟨initial, HourlyWriter.new, [], [], [⟨initial, []⟩]⟩
            metrics := StorageMetrics.default, answered := [] }
  step := fun w request => some (serve serde w request)

/-! A serializer to run the worker with: `serde_json` on frames without readings. Stats snapshots are
given as their JSON text. The texts are spelled out as characters so that a run can be evaluated. -/

def jsonField (name value : Text) : Text := ['"'] ++ name ++ ['"', ':'] ++ value

def jsonObject (fields : List Text) : Text := ['{'] ++ [','].intercalate fields ++ ['}']

def timeText (t : SystemTime) : Text :=
  jsonObject
    [jsonField ['s', 'e', 'c', 's', '_', 's', 'i', 'n', 'c', 'e', '_', 'e', 'p', 'o', 'c', 'h']
        (Nat.toDigits 10 (t.toNat / 1000000000)),
      jsonField ['n', 'a', 'n', 'o', 's', '_', 's', 'i', 'n', 'c', 'e', '_', 'e', 'p', 'o', 'c', 'h']
        (Nat.toDigits 10 (t.toNat % 1000000000))]

def frameText (frame : AggregatedFrame Int) : Text :=
  jsonObject
    [jsonField ['w', 'i', 'n', 'd', 'o', 'w', '_', 'i', 'd'] (Nat.toDigits 10 frame.windowId),
      jsonField ['w', 'i', 'n', 'd', 'o', 'w', '_', 's', 't', 'a', 'r', 't']
        (timeText frame.windowStart),
      jsonField ['w', 'i', 'n', 'd', 'o', 'w', '_', 'e', 'n', 'd'] (timeText frame.windowEnd),
      jsonField ['p', 'e', 'r', '_', 's', 'e', 'n', 's', 'o', 'r'] (jsonObject []),
      jsonField ['a', 'n', 'o', 'm', 'a', 'l', 'i', 'e', 's'] ['[', ']']]

def indexText (index : LatestIndex) : Text :=
  let null := ['n', 'u', 'l', 'l']
  let hourFile := match index.hourFile with
    | some ⟨.hour (.ofNat n), _⟩ =>
      ['"', 'h', 'o', 'u', 'r', '-'] ++ Nat.toDigits 10 n ++ ['.', 'j', 's', 'o', 'n', 'l', '"']
    | _ => null
  let windowEnd := match index.windowEndUnix with
    | some secs => Nat.toDigits 10 secs
    | none => null
  jsonObject
    [jsonField ['h', 'o', 'u', 'r', '_', 'f', 'i', 'l', 'e'] hourFile,
      jsonField ['w', 'i', 'n', 'd', 'o', 'w', '_', 'e', 'n', 'd', '_', 'u', 'n', 'i', 'x']
        windowEnd,
      jsonField ['w', 'i', 'n', 'd', 'o', 'w', '_', 'i', 'd'] (Nat.toDigits 10 index.windowId)]

def frameJson (frame : AggregatedFrame Int) : Option Text :=
  let line := frameText frame
  if frame.perSensor.isEmpty ∧ 0 ≤ frame.windowStart ∧ 0 ≤ frame.windowEnd ∧
      '\n' ∉ line ∧ '\r' ∉ line ∧ '{' ∈ line then some line else none

theorem frameJson_compact (frame : AggregatedFrame Int) (line : Text)
    (written : frameJson frame = some line) : '\n' ∉ line ∧ '\r' ∉ line ∧ '{' ∈ line := by
  unfold frameJson at written
  rw [Option.ite_none_right_eq_some, Option.some.injEq] at written
  obtain ⟨⟨-, -, -, clean⟩, rfl⟩ := written
  exact clean

def plainSerde : Serde Int Text where
  frame := frameJson
  value := some
  snapshot := fun frame stats =>
    (frameJson frame).map fun line =>
      jsonObject
        [jsonField ['l', 'a', 't', 'e', 's', 't'] line,
          jsonField ['s', 't', 'a', 't', 's'] stats]
  index := fun index => some (indexText index)
  compact := frameJson_compact
  pairable := by
    intro frame line stats written
    rw [written]
    exact ⟨_, rfl⟩
  indexable := fun index => ⟨indexText index, rfl⟩

/-- A request for a frame without readings whose window ends at the given second. -/
def plainRequest (windowId : Nat) (second : Nat) (statsSnapshot : Option Text) (faults : Faults) :
    PersistRequest Int Text :=
  ⟨⟨windowId, 0, second * 1000000000, ∅, []⟩, statsSnapshot, faults, 7⟩

end SensorGateway.Storage.Persist

import SensorGateway.Storage.HourlyLog

/-! Storage whose file operations all go through. The writer's cache then stands for the file of its
hour, and a request either leaves all of its texts behind or, where its frame cannot be serialized,
leaves everything as it was. -/

namespace SensorGateway.Storage.Reliable
open SensorGateway.Lib.Fallible SensorGateway.Lib.Lines SensorGateway.Types
open Disk Persist HourlyLog
open Persist.HourlyWriter (At push)

/-- The writer's cache holds what the file of its hour holds. -/
structure Level (s : Store) : Prop where
  ahead : Ahead s
  cache : ∀ hour, s.hourly.currentUnixHour = some hour → cached s.hourly = logAt s.now hour

theorem level_new {s : Store} (new : s.hourly = HourlyWriter.new) : Level s where
  ahead := ⟨new ▸ consistent_new, fun hour there => by rw [new] at there; cases there⟩
  cache := fun hour there => by rw [new] at there; cases there

/-- Whether it rotates or not, the writer has the entries of the file. -/
theorem Level.rotated {s : Store} (level : Level s) (hour : Int) :
    cached (rotated s hour) = logAt s.now hour := by
  by_cases here : At s.hourly hour
  · rw [HourlyLog.rotated, if_pos here]
    exact level.cache hour here.1
  · exact cached_rotated here

theorem Level.rotate {s : Store} (level : Level s) (hour : Int) :
    Level { s with hourly := HourlyLog.rotated s hour } where
  ahead := level.ahead.rotate hour
  cache := by
    intro other there
    rw [eq_of_rotated there]
    exact level.rotated hour

theorem Level.sameLog {s t : Store} (level : Level s) (same : SameLog s t) : Level t where
  ahead := level.ahead.sameLog same
  cache := by
    intro hour there
    rw [same.1] at there ⊢
    rw [same.log, level.cache hour there]

variable {F Value : Type} (serde : Serde F Value)

/-- What an acknowledged request leaves in the directory. -/
structure Delivered (s t : Store) (frame : AggregatedFrame F) (statsSnapshot : Option Value)
    (line : Text) : Prop where
  serialized : serde.frame frame = some line
  level : Level t
  hour : ∃ text, t.now.text (hourPath (frameHour frame)) = some text ∧
    entries text = logAt s.now (frameHour frame) ++ [line]
  logs : ∀ path, path.name.extension = some .jsonl → path ≠ hourPath (frameHour frame) →
    t.now.text path = s.now.text path
  latest : t.now.text latestSnapshotPath = some line
  snapshot : t.now.text runtimeSnapshotPath =
    match statsSnapshot with
    | some stats => serde.snapshot frame stats
    | none => s.now.text runtimeSnapshotPath

variable {serde}

theorem Delivered.others {s t : Store} {frame : AggregatedFrame F} {statsSnapshot : Option Value}
    {line : Text} (delivered : Delivered serde s t frame statsSnapshot line) {hour : Int}
    (other : hour ≠ frameHour frame) : t.now.text (hourPath hour) = s.now.text (hourPath hour) :=
  delivered.logs (hourPath hour) rfl fun same => other (hourPath_inj same)

theorem Delivered.log {s t : Store} {frame : AggregatedFrame F} {statsSnapshot : Option Value}
    {line : Text} (delivered : Delivered serde s t frame statsSnapshot line) :
    logAt t.now (frameHour frame) = logAt s.now (frameHour frame) ++ [line] := by
  obtain ⟨text, there, content⟩ := delivered.hour
  rw [logAt, there, Option.map_some, Option.getD_some, content]

theorem Delivered.otherLogs {s t : Store} {frame : AggregatedFrame F} {statsSnapshot : Option Value}
    {line : Text} (delivered : Delivered serde s t frame statsSnapshot line) {hour : Int}
    (other : hour ≠ frameHour frame) : logAt t.now hour = logAt s.now hour := by
  rw [logAt, delivered.others other, logAt]

theorem atomicWriteJson_ensures (s : Store) {path : Path} (lasting : path.Lasting)
    (serialized : Option Text) (faults : WriteFaults) :
    Ensures (atomicWriteJson path serialized faults) s
      (fun _ t => Published s t ⟨path, jsonBytes serialized⟩) (fun _ _ => faults ≠ .none) := by
  apply (atomicWriteBytes_ensures s lasting (jsonBytes serialized) faults).mono
  · exact fun _ _ success => success.2
  · exact fun _ _ ended => ended.1

/-- The texts of the artifacts once they are all in place. -/
structure Artifacts (serde : Serde F Value) (s t : Store) (frame : AggregatedFrame F)
    (statsSnapshot : Option Value) : Prop where
  hourly : t.hourly = s.hourly
  logs : ∀ path, path.name.extension = some .jsonl → t.now.text path = s.now.text path
  latest : t.now.text latestSnapshotPath = some (jsonBytes (serde.frame frame))
  snapshot : t.now.text runtimeSnapshotPath =
    match statsSnapshot with
    | some stats => some (jsonBytes (serde.snapshot frame stats))
    | none => s.now.text runtimeSnapshotPath

theorem keepsLog {s t : Store} {target path : Path} {text : Text}
    (published : Published s t ⟨target, text⟩) (other : target.name.extension ≠ some .jsonl)
    (jsonl : path.name.extension = some .jsonl) : t.now.text path = s.now.text path := by
  apply published.keeps
  · rw [Path.Lasting, jsonl]
    decide
  · rintro rfl
    exact other jsonl

theorem publishArtifacts_ensures (s : Store) (frame : AggregatedFrame F)
    (statsSnapshot : Option Value) (faults : Faults) :
    Ensures (publishArtifacts serde frame statsSnapshot faults) s
      (fun _ t => Artifacts serde s t frame statsSnapshot) (fun _ _ => faults ≠ .none) := by
  unfold publishArtifacts
  refine Ensures.seq (atomicWriteJson_ensures s (by decide) _ _) ?_
    fun _ _ failed none => failed (none ▸ rfl)
  intro _ t latest
  cases statsSnapshot with
  | none =>
    simp only
    apply Ensures.bind
    apply Ensures.gets
    refine (atomicWriteJson_ensures t (by decide) _ _).mono ?_ fun _ _ failed none => failed (none ▸ rfl)
    intro _ u index
    constructor
    · rw [index.hourly, latest.hourly]
    · intro path jsonl
      rw [keepsLog index (by decide) jsonl, keepsLog latest (by decide) jsonl]
    · rw [index.keeps (by decide) (by decide)]
      exact latest.now.2.1
    · rw [index.keeps (by decide) (by decide), latest.keeps (by decide) (by decide)]
  | some stats =>
    simp only
    refine Ensures.seq (atomicWriteJson_ensures t (by decide) _ _) ?_
      fun _ _ failed none => failed (none ▸ rfl)
    intro _ u written
    refine Ensures.seq (atomicWriteJson_ensures u (by decide) _ _) ?_
      fun _ _ failed none => failed (none ▸ rfl)
    intro _ v paired
    apply Ensures.bind
    apply Ensures.gets
    refine (atomicWriteJson_ensures v (by decide) _ _).mono ?_ fun _ _ failed none => failed (none ▸ rfl)
    intro _ w index
    constructor
    · rw [index.hourly, paired.hourly, written.hourly, latest.hourly]
    · intro path jsonl
      rw [keepsLog index (by decide) jsonl, keepsLog paired (by decide) jsonl,
        keepsLog written (by decide) jsonl, keepsLog latest (by decide) jsonl]
    · rw [index.keeps (by decide) (by decide), paired.keeps (by decide) (by decide),
        written.keeps (by decide) (by decide)]
      exact latest.now.2.1
    · rw [index.keeps (by decide) (by decide)]
      exact paired.now.2.1

theorem hourPath_ne {path : Path} (base : path.folder = .base) (hour : Int) : hourPath hour ≠ path := by
  intro same
  rw [← same] at base
  cases base

/-- Nothing has changed but what the writer has cached. -/
structure Unmoved (s t : Store) : Prop where
  level : Level t
  now : t.now = s.now

/-- The line of the frame is in the hour file, and the artifacts are in place. -/
theorem delivered_of_published {s t u : Store} (level : Level s) {frame : AggregatedFrame F}
    {statsSnapshot : Option Value} {line : Text} (serialized : serde.frame frame = some line)
    (published : Published { s with hourly := push (rotated s (frameHour frame)) line } t
      (hourCall (push (rotated s (frameHour frame)) line) (frameHour frame)))
    (artifacts : Artifacts serde t u frame statsSnapshot) :
    Delivered serde s u frame statsSnapshot line := by
  have added := added_of_published serialized level.ahead.consistent published
  have same : SameLog t u := ⟨artifacts.hourly, fun hour => artifacts.logs (hourPath hour) rfl⟩
  refine ⟨serialized, ⟨added.ahead.sameLog same, ?_⟩, ?_, ?_, ?_, ?_⟩
  · intro hour there
    obtain ⟨-, plain, brace⟩ := serde.compact frame line serialized
    rw [artifacts.hourly, added.hourly] at there ⊢
    rw [eq_of_rotated there, same.log, added.log, cached_push _ (bright_of_brace brace) plain]
  · refine ⟨unlines (push (rotated s (frameHour frame)) line).currentLines, ?_, ?_⟩
    · rw [artifacts.logs _ rfl]
      exact published.now.2.1
    · have log := added.log
      have there : t.now.text (hourPath (frameHour frame)) = _ := published.now.2.1
      rw [logAt, there, Option.map_some, Option.getD_some] at log
      rw [← level.rotated]
      exact log
  · intro path jsonl other
    rw [artifacts.logs path jsonl]
    refine published.keeps ?_ other
    rw [Path.Lasting, jsonl]
    decide
  · rw [artifacts.latest, serialized]
    rfl
  · rw [artifacts.snapshot]
    cases statsSnapshot with
    | none => exact published.keeps (by decide) (hourPath_ne (by decide) _).symm
    | some stats =>
      obtain ⟨text, paired⟩ := serde.pairable frame line stats serialized
      simp only [paired, jsonBytes, Option.getD_some]

variable (serde) in
/-- A request that goes through delivers, whatever could have failed; without failures only a frame
that cannot be serialized is refused. -/
theorem persist_ensures {s : Store} (level : Level s) (frame : AggregatedFrame F)
    (statsSnapshot : Option Value) (faults : Faults) :
    Ensures (persistRuntimeArtifacts serde frame statsSnapshot faults) s
      (fun _ t => ∃ line, Delivered serde s t frame statsSnapshot line)
      (fun _ t => faults = .none → serde.frame frame = none ∧ Unmoved s t) := by
  unfold persistRuntimeArtifacts
  apply Ensures.seq (appendJsonl_ensures serde level.ahead.consistent frame _ _)
  · rintro _ t ⟨-, line, serialized, published⟩
    apply (publishArtifacts_ensures t frame statsSnapshot faults).mono
    · exact fun _ u artifacts => ⟨line, delivered_of_published level serialized published artifacts⟩
    · exact fun _ _ failed none => absurd none failed
  · rintro e t ⟨fails, stuck⟩ rfl
    have refused : serde.frame frame = none := by
      by_contra serializable
      exact fails ⟨Or.inr rfl, Option.isSome_iff_ne_none.mpr serializable, rfl⟩
    refine ⟨refused, ?_⟩
    cases stuck with
    | before => exact ⟨level, rfl⟩
    | rotated => exact ⟨level.rotate _, rfl⟩
    | pushed line serialized t abandoned => rw [refused] at serialized; cases serialized

/-- `persist_frame` returns `Ok`. -/
def Accepted (serde : Serde F Value) (w : Worker F Value) (request : PersistRequest F Value) : Prop :=
  (persistWithMetrics serde request w).1 = .ok ()

theorem Accepted.delivered {w : Worker F Value} {request : PersistRequest F Value}
    (accepted : Accepted serde w request) (level : Level w.store) :
    ∃ line, Delivered serde w.store (serve serde w request).store request.frame
      request.statsSnapshot line := by
  have ends := persist_ensures serde level request.frame request.statsSnapshot request.faults
  unfold Ensures at ends
  unfold Accepted persistWithMetrics at accepted
  unfold serve persistWithMetrics
  cases result : (persistRuntimeArtifacts serde request.frame request.statsSnapshot
      request.faults).run.run w.store with
  | mk answer store =>
    simp only [result] at ends accepted ⊢
    cases answer with
    | ok done => exact ends
    | error err => cases accepted

/-- How a request is answered, with the store and the metrics behind it. -/
inductive Answers (serde : Serde F Value) (w : Worker F Value) (request : PersistRequest F Value) :
    Except StorageError Unit × Store × StorageMetrics → Prop where
  | ok (store : Store) (metrics : StorageMetrics) (line : Text)
      (delivered : Delivered serde w.store store request.frame request.statsSnapshot line)
      (count : metrics.persistedFrames = w.metrics.persistedFrames + 1) :
      Answers serde w request (.ok (), store, metrics)
  | refused (store : Store) (metrics : StorageMetrics) (refused : serde.frame request.frame = none)
      (unmoved : Unmoved w.store store)
      (count : metrics.persistedFrames = w.metrics.persistedFrames) :
      Answers serde w request (.error .workerFailed, store, metrics)

theorem persistWithMetrics_answers {w : Worker F Value} (level : Level w.store)
    (request : PersistRequest F Value) (clean : request.faults = .none) :
    Answers serde w request (persistWithMetrics serde request w) := by
  have ends := persist_ensures serde level request.frame request.statsSnapshot request.faults
  unfold persistWithMetrics
  unfold Ensures at ends
  cases result : (persistRuntimeArtifacts serde request.frame request.statsSnapshot
      request.faults).run.run w.store with
  | mk answer store =>
    simp only [result] at ends ⊢
    cases answer with
    | ok done =>
      obtain ⟨line, delivered⟩ := ends
      exact Answers.ok store _ line delivered rfl
    | error err =>
      obtain ⟨refused, unmoved⟩ := ends clean
      exact Answers.refused store _ refused unmoved rfl

variable (serde)

theorem accepts {w : Worker F Value} (level : Level w.store) {request : PersistRequest F Value}
    (clean : request.faults = .none) (serializable : (serde.frame request.frame).isSome = true) :
    Accepted serde w request := by
  have answers : Answers serde w request _ := persistWithMetrics_answers level request clean
  unfold Accepted
  generalize persistWithMetrics serde request w = result at answers
  cases answers with
  | ok store metrics line delivered count => rfl
  | refused store metrics refused unmoved count => rw [refused] at serializable; cases serializable

end SensorGateway.Storage.Reliable

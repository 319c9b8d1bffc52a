import SensorGateway.Storage.Crashes

/-! What `metrics` tells of the requests that the running process has answered, over all failures,
crashes and restarts. -/

namespace SensorGateway.Storage.Metrics
open SensorGateway.Lib.Lines SensorGateway.Lib.Transition SensorGateway.Types Disk Persist HourlyLog Crashes
variable {F Value : Type} {serde : Serde F Value} {initial : Files}

/-- A request and the answer it was given. -/
abbrev Answer (F Value : Type) := PersistRequest F Value × Except StorageError Unit

def told (answer : Answer F Value) : Sent F Value := ⟨answer.1, some answer.2⟩

/-- The requests that were answered `Ok`. -/
def succeeded (answered : List (Answer F Value)) : List (PersistRequest F Value) :=
  (answered.filter fun answer => answer.2.isOk).map Prod.fst

/-- The error a request ends with, on the store it finds. -/
def failure (serde : Serde F Value) (store : Store) (request : PersistRequest F Value) : Option IoError :=
  match (persistRuntimeArtifacts serde request.frame request.statsSnapshot request.faults).run.run store with
  | (.ok _, _) => none
  | (.error err, _) => some err

/-- The metrics are about the requests that succeeded, and the error about the last request of all. -/
structure Tells (metrics : StorageMetrics) (answered : List (Answer F Value)) : Prop where
  persistedFrames : metrics.persistedFrames = (succeeded answered).length
  lastPersistUs : metrics.lastPersistUs =
    ((succeeded answered).getLast?.map PersistRequest.persistUs).getD 0
  maxPersistUs : metrics.maxPersistUs = ((succeeded answered).map PersistRequest.persistUs).foldl max 0
  lastWindowId : metrics.lastWindowId = (succeeded answered).getLast?.map fun r => r.frame.windowId
  currentHourFile : metrics.currentHourFile =
    (succeeded answered).getLast?.map fun r => hourFilename (frameHour r.frame)
  lastError : metrics.lastError = none ↔ ∀ answer ∈ answered.getLast?, answer.2.isOk = true

theorem succeeded_concat (answered : List (Answer F Value)) (answer : Answer F Value) :
    succeeded (answered ++ [answer]) =
      succeeded answered ++ if answer.2.isOk = true then [answer.1] else [] := by
  unfold succeeded
  rw [List.filter_append, List.map_append]
  by_cases ok : answer.2.isOk = true
  · simp [ok]
  · simp [ok]

theorem tells_nil : Tells StorageMetrics.default ([] : List (Answer F Value)) where
  persistedFrames := rfl
  lastPersistUs := rfl
  maxPersistUs := rfl
  lastWindowId := rfl
  currentHourFile := rfl
  lastError := by simp [StorageMetrics.default]

/-- A frame that was published is in the file the writer is at. -/
theorem currentHourFile_of_added {s t : Store} {frame : AggregatedFrame F} {line : Text}
    (added : Added serde s t frame line) :
    HourlyWriter.currentHourFile t.hourly = some (hourFilename (frameHour frame)) := by
  rw [HourlyWriter.currentHourFile, added.hourly]
  exact congrArg (Option.map hourFilename) (rotated_hour s (frameHour frame))

/-- The metrics after a request that succeeded. -/
def counted (metrics : StorageMetrics) (request : PersistRequest F Value) : StorageMetrics where
  persistedFrames := metrics.persistedFrames + 1
  lastPersistUs := request.persistUs
  maxPersistUs := max metrics.maxPersistUs request.persistUs
  lastWindowId := some request.frame.windowId
  currentHourFile := some (hourFilename (frameHour request.frame))
  lastError := none

/-- The two ways in which a request can end, as the metrics see them. -/
theorem serve_cases (serde : Serde F Value) {w : Worker F Value} (ahead : Ahead (watched w).store)
    (request : PersistRequest F Value) :
    (∃ store, serve serde (watched w) request =
      ⟨store, counted w.metrics request, w.answered ++ [(request, .ok ())]⟩) ∨
    (∃ store err, serve serde (watched w) request =
      ⟨store, { w.metrics with lastError := some err },
        w.answered ++ [(request, .error .workerFailed)]⟩) := by
  have shows : ShowsAll serde (watched w).store request.frame (serve serde (watched w) request).store ∧ _ :=
    serve_shows ahead request
  have done := shows.2
  cases result : (persistRuntimeArtifacts serde request.frame request.statsSnapshot
      request.faults).run.run (watched w).store with
  | mk answer store =>
    cases answer with
    | ok finished =>
      simp only [serve, persistWithMetrics, result] at done ⊢
      obtain ⟨line, added⟩ | ⟨-, failed⟩ := done
      · left
        refine ⟨store, ?_⟩
        rw [currentHourFile_of_added added]
        rfl
      · cases failed
    | error err =>
      right
      refine ⟨store, err, ?_⟩
      simp only [serve, persistWithMetrics, result]
      rfl

theorem Tells.ok {metrics : StorageMetrics} {answered : List (Answer F Value)}
    (tells : Tells metrics answered) (request : PersistRequest F Value) :
    Tells (counted metrics request) (answered ++ [(request, .ok ())]) := by
  have grown : succeeded (answered ++ [(request, .ok ())]) = succeeded answered ++ [request] :=
    succeeded_concat answered (request, .ok ())
  constructor
  · rw [grown, List.length_append, List.length_singleton]
    exact congrArg (· + 1) tells.persistedFrames
  · rw [grown, List.getLast?_concat]
    rfl
  · rw [grown, List.map_append, List.foldl_append]
    exact congrArg (max · request.persistUs) tells.maxPersistUs
  · rw [grown, List.getLast?_concat]
    rfl
  · rw [grown, List.getLast?_concat]
    rfl
  · rw [List.getLast?_concat]
    simp [counted, Except.isOk, Except.toBool]

theorem Tells.error {metrics : StorageMetrics} {answered : List (Answer F Value)}
    (tells : Tells metrics answered) (request : PersistRequest F Value) (err : IoError) :
    Tells { metrics with lastError := some err }
      (answered ++ [(request, .error .workerFailed)]) := by
  have same : succeeded (answered ++ [(request, .error .workerFailed)]) = succeeded answered :=
    (succeeded_concat answered (request, .error .workerFailed)).trans (List.append_nil _)
  constructor
  · rw [same]
    exact tells.persistedFrames
  · rw [same]
    exact tells.lastPersistUs
  · rw [same]
    exact tells.maxPersistUs
  · rw [same]
    exact tells.lastWindowId
  · rw [same]
    exact tells.currentHourFile
  · rw [List.getLast?_concat]
    simp [Except.isOk, Except.toBool]

theorem Tells.serve {w : Worker F Value} (tells : Tells w.metrics w.answered)
    (ahead : Ahead (watched w).store) (request : PersistRequest F Value) :
    Tells (Persist.serve serde (watched w) request).metrics
      (Persist.serve serde (watched w) request).answered := by
  obtain ⟨store, served⟩ | ⟨store, err, served⟩ := serve_cases serde ahead request
  · rw [served]
    exact tells.ok request
  · rw [served]
    exact tells.error request err

theorem lastError_serve (serde : Serde F Value) (w : Worker F Value) (request : PersistRequest F Value) :
    (serve serde w request).metrics.lastError = failure serde w.store request := by
  unfold failure
  cases result : (persistRuntimeArtifacts serde request.frame request.statsSnapshot
      request.faults).run.run w.store with
  | mk answer store =>
    cases answer <;> simp only [serve, persistWithMetrics, result]

/-- The last step of the process was the request, and the error is what the request ended with. -/
def EndedWith (serde : Serde F Value) (initial : Files) (s : History F Value)
    (request : PersistRequest F Value) (error : Option IoError) : Prop :=
  ∃ u, (crashing serde initial).Reachable u ∧
    (crashing serde initial).step u (.persist request) = some s ∧
    error = failure serde (watched u.worker).store request

/-- The process has its own answers at the end of all requests, and the metrics tell of these. -/
structure Current (serde : Serde F Value) (initial : Files) (s : History F Value) : Prop where
  own : s.worker.answered.map told <:+ s.sent
  tells : Tells s.worker.metrics s.worker.answered
  error : ∀ answer, s.worker.answered.getLast? = some answer →
    EndedWith serde initial s answer.1 s.worker.metrics.lastError

theorem current_reopened (o : Observation) (sent : List (Sent F Value)) :
    Current serde initial ⟨reopened o, sent⟩ :=
  ⟨List.nil_suffix, tells_nil, fun answer last => by cases last⟩

theorem current_reachable {s : History F Value} (reach : (crashing serde initial).Reachable s) :
    Current serde initial s := by
  apply System.ReachesUnder.invariant reach (Current serde initial)
  · exact ⟨List.nil_suffix, tells_nil, fun answer last => by cases last⟩
  · intro u event v before current _ moved
    have ahead := (Safe.watched (reachable_sound before).safe).ahead
    cases event with
    | persist request =>
      cases moved
      refine ⟨?_, current.tells.serve ahead request, ?_⟩
      · obtain ⟨earlier, split⟩ := current.own
        refine ⟨earlier, ?_⟩
        rw [← split, List.append_assoc]
        exact congrArg (earlier ++ ·) List.map_append
      · intro answer last
        obtain rfl : (request, (persistWithMetrics serde request (watched u.worker)).1) = answer :=
          Option.some.inj (List.getLast?_concat.symm.trans last)
        exact ⟨u, before, rfl, lastError_serve serde (watched u.worker) request⟩
    | crash request moment =>
      obtain ⟨o, -, rfl⟩ := Option.map_eq_some_iff.mp moved
      exact current_reopened o _
    | restart =>
      cases moved
      exact current_reopened _ _

/-- In every run, through failures, crashes and restarts: the metrics count the requests that the running
process has answered `Ok`, the window and the hour file they name are those of the last of these, the
error is the one the last request ended with, and the line of the window they name is in the log of the
hour they name. -/
theorem metrics_tell (serde : Serde F Value) (initial : Files) (s : History F Value)
    (reach : (crashing serde initial).Reachable s) :
    s.worker.answered.map told <:+ s.sent ∧ Tells s.worker.metrics s.worker.answered ∧
      (∀ answer, s.worker.answered.getLast? = some answer →
        EndedWith serde initial s answer.1 s.worker.metrics.lastError) ∧
      ∀ request : PersistRequest F Value, (succeeded s.worker.answered).getLast? = some request →
        ∃ line, serde.frame request.frame = some line ∧
          line ∈ logAt s.worker.store.now (frameHour request.frame) := by
  have current := current_reachable reach
  refine ⟨current.own, current.tells, current.error, ?_⟩
  intro request last
  obtain ⟨answer, ok, rfl⟩ := List.mem_map.mp (List.mem_of_getLast? last)
  obtain ⟨among, success⟩ := List.mem_filter.mp ok
  have sent : told answer ∈ s.sent := current.own.subset (List.mem_map_of_mem among)
  obtain ⟨kept, keeps⟩ := exists_kept reach (frameHour answer.1.frame)
  have logged : told answer ∈ kept :=
    keeps.acknowledged.subset (List.mem_filter.mpr ⟨mem_ofHour.mpr ⟨sent, rfl⟩, success⟩)
  obtain ⟨line, serialized⟩ := Option.isSome_iff_exists.mp (keeps.serialized _ logged)
  refine ⟨line, serialized, ?_⟩
  rw [keeps.log]
  exact List.mem_append_right _ (List.mem_filterMap.mpr ⟨told answer, logged, serialized⟩)

/-- The new name of the hour file is refused. -/
def unnamed : Faults := { Faults.none with hour := { WriteFaults.none with rename := .fail 0 } }

/-- A frame before a crash and one after it, and then one that fails. -/
def restartedThenFailed : List (Event Int Text) :=
  [.persist (plainRequest 1 5 none .none), .crash (plainRequest 2 6 none .none) 2,
    .persist (plainRequest 3 7 none .none), .persist (plainRequest 4 3605 none unnamed)]

set_option maxRecDepth 8000 in
theorem metrics_tell_restarted :
    ∃ s : History Int Text, (crashing plainSerde fun _ => none).run restartedThenFailed = some s ∧
      s.worker.metrics.persistedFrames = 1 ∧ s.worker.metrics.lastWindowId = some 3 ∧
      s.worker.metrics.lastError.isSome = true ∧ Tells s.worker.metrics s.worker.answered := by
  let s := ((crashing plainSerde fun _ => none).run restartedThenFailed).get (by decide)
  have replay : (crashing plainSerde fun _ => none).run restartedThenFailed = some s :=
    (Option.some_get _).symm
  exact ⟨s, replay, by decide, by decide, by decide,
    (metrics_tell plainSerde _ s (System.reachable_of_run replay)).2.1⟩

end SensorGateway.Storage.Metrics

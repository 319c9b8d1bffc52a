import SensorGateway.Buffer.Stats
import SensorGateway.Dashboard.Endpoints
import SensorGateway.Gateway.Pipeline
import SensorGateway.Polling.Scheduler
import SensorGateway.Storage.Metrics

/-! The stats snapshot that goes to storage with each frame. The consumer thread builds it from the frame
and from the metrics as they are before the frame is persisted. -/

namespace SensorGateway.Gateway.StatsSnapshot
open SensorGateway.Lib.ExtendedRat SensorGateway.Lib.Json SensorGateway.Lib.Lines
open SensorGateway.Lib.Transition SensorGateway.Types
open Dashboard.Endpoints Engine.Reduce Engine.Threads Engine.Window Gateway.Pipeline
open Polling.Control Polling.Governor Polling.Scheduler
open Storage.Crashes Storage.Disk Storage.Encoding Storage.Metrics Storage.Persist Storage.Publication
open Storage.Texts
variable {F : Type} [F64 F]

/-! The records as JSON. A `u128` of nanoseconds is written as a number, which `serde_json` does below
2^64. -/

def encodeBufferStats (stats : Buffer.Stats.BufferStats) : Value F :=
  object
    [("capacity", encodeU64 stats.capacity), ("len", encodeU64 stats.len),
      ("high_watermark", encodeU64 stats.highWatermark), ("total_pushed", encodeU64 stats.totalPushed),
      ("total_popped", encodeU64 stats.totalPopped), ("push_wait_count", encodeU64 stats.pushWaitCount),
      ("pop_wait_count", encodeU64 stats.popWaitCount),
      ("push_wait_ns_total", encodeU64 stats.pushWaitNsTotal),
      ("pop_wait_ns_total", encodeU64 stats.popWaitNsTotal), ("is_shutdown", .bool stats.isShutdown)]

def encodeGovernorMode : GovernorMode → Value F
  | .fastRecovery => .string "FastRecovery"
  | .tracking => .string "Tracking"
  | .economy => .string "Economy"
  | .failSafe => .string "FailSafe"

def encodeReaderControlMode : ReaderControlMode → Value F
  | .automatic => .string "Automatic"
  | .clampToNominal => .string "ClampToNominal"
  | .forceFastRecovery => .string "ForceFastRecovery"
  | .shutdownDrain => .string "ShutdownDrain"

section
variable (ratio : ℚ → F)

def encodeGovernorStats (stats : GovernorStats) : Value F :=
  object
    [("mode", encodeGovernorMode stats.mode),
      ("current_sleep_us", encodeU64 stats.currentSleepUs.toNat),
      ("updates", encodeU64 stats.updates.toNat), ("mode_switches", encodeU64 stats.modeSwitches.toNat),
      ("fast_recovery_entries", encodeU64 stats.fastRecoveryEntries.toNat),
      ("economy_entries", encodeU64 stats.economyEntries.toNat),
      ("tracking_entries", encodeU64 stats.trackingEntries.toNat),
      ("fail_safe_entries", encodeU64 stats.failSafeEntries.toNat),
      ("last_fill_ratio", encodeF64 (ratio stats.lastFillRatio)),
      ("smoothed_fill_ratio", encodeF64 (ratio stats.smoothedFillRatio)),
      ("last_sensor_available", encodeU64 stats.lastSensorAvailable),
      ("last_push_wait_delta_ns", encodeU64 stats.lastPushWaitDeltaNs),
      ("last_pop_wait_delta_ns", encodeU64 stats.lastPopWaitDeltaNs)]

def encodeReaderSnapshot (row : SchedulerReaderSnapshot) : Value F :=
  object
    [("last_available", encodeU64 row.lastAvailable), ("total_reads", encodeU64 row.totalReads),
      ("consecutive_warning_hits", encodeU64 row.consecutiveWarningHits),
      ("consecutive_critical_hits", encodeU64 row.consecutiveCriticalHits),
      ("last_command", encodeReaderControlMode row.lastCommand),
      ("last_governor_mode", encodeGovernorMode row.lastGovernorMode),
      ("last_governor_sleep_us", encodeU64 row.lastGovernorSleepUs.toNat),
      ("last_buffer_fill_ratio", encodeF64 (ratio row.lastBufferFillRatio)),
      ("read_idle_ms", encodeU64 row.readIdleMs),
      ("last_push_wait_count", encodeU64 row.lastPushWaitCount),
      ("last_pop_wait_count", encodeU64 row.lastPopWaitCount),
      ("reader_stale_ms", encodeU64 row.readerStaleMs), ("stalled", .bool row.stalled),
      ("draining", .bool row.draining)]

def encodeSchedulerStats (stats : SchedulerStats) : Value F :=
  object
    [("poll_interval_ms", encodeU64 stats.pollIntervalMs),
      ("warning_threshold", encodeU64 stats.warningThreshold),
      ("critical_threshold", encodeU64 stats.criticalThreshold),
      ("warning_consecutive_limit", encodeU64 stats.warningConsecutiveLimit),
      ("stale_reader_ms", encodeU64 stats.staleReaderMs),
      ("readers", object (stats.readers.toList.map fun row => (row.1, encodeReaderSnapshot ratio row.2)))]

end

/-- `message` is the text of an I/O error. -/
def encodeStorageMetrics (message : IoError → String) (metrics : StorageMetrics) : Value F :=
  object
    [("persisted_frames", encodeU64 metrics.persistedFrames),
      ("last_persist_us", encodeU64 metrics.lastPersistUs),
      ("max_persist_us", encodeU64 metrics.maxPersistUs),
      ("last_window_id", encodeOption (metrics.lastWindowId.map encodeU64)),
      ("current_hour_file",
        encodeOption (metrics.currentHourFile.map fun name => .string (fileNameText name))),
      ("last_error", encodeOption (metrics.lastError.map fun err => .string (message err)))]

/-- What the snapshot takes from the buffer, the readers and the scheduler. -/
structure Shared where
  buffer : Buffer.Stats.BufferStats
  maxT1 : Nat
  maxT2 : Nat
  maxA1 : Nat
  maxA2 : Nat
  maxF1 : Nat
  govT1 : GovernorStats
  govT2 : GovernorStats
  govA1 : GovernorStats
  govA2 : GovernorStats
  govF1 : GovernorStats
  scheduler : SchedulerStats

def buildStatsSnapshot (message : IoError → String) (ratio : ℚ → F) (frame : AggregatedFrame F)
    (shared : Shared) (metrics : StorageMetrics) : Value F :=
  object
    [("window_id", encodeU64 frame.windowId), ("sensors", encodeU64 frame.perSensor.size),
      ("anomalies", encodeU64 frame.anomalies.length), ("buffer", encodeBufferStats shared.buffer),
      ("sensor_max_available",
        object
          [("thermo-1", encodeU64 shared.maxT1), ("thermo-2", encodeU64 shared.maxT2),
            ("accel-1", encodeU64 shared.maxA1), ("accel-2", encodeU64 shared.maxA2),
            ("force-1", encodeU64 shared.maxF1)]),
      ("governor",
        object
          [("thermo-1", encodeGovernorStats ratio shared.govT1),
            ("thermo-2", encodeGovernorStats ratio shared.govT2),
            ("accel-1", encodeGovernorStats ratio shared.govA1),
            ("accel-2", encodeGovernorStats ratio shared.govA2),
            ("force-1", encodeGovernorStats ratio shared.govF1)]),
      ("scheduler", encodeSchedulerStats ratio shared.scheduler),
      ("storage", encodeStorageMetrics message metrics)]

section Steps
variable (message : IoError → String) (ratio : ℚ → F)

/-- The snapshot for the frame the consumer has, with the metrics of now. -/
def statsOf {W : Nat} (s : State F (Value F) W) (shared : Shared) : Value F :=
  match s.consumer with
  | .persist frame => buildStatsSnapshot message ratio frame shared s.storage.worker.metrics
  | _ => .null

/-- A request comes with the snapshot that is built from what is shared. -/
def withStats {W : Nat} (s : State F (Value F) W) : Action F Shared W → Action F (Value F) W
  | .engine action => .engine action
  | .stop => .stop
  | .consumer => .consumer
  | .persist shared faults persistUs => .persist (statsOf message ratio s shared) faults persistUs
  | .crash now => .crash now
  | .crashPersisting shared faults persistUs moment now =>
    .crashPersisting (statsOf message ratio s shared) faults persistUs moment now

variable (cfg : AggregationConfig F) (hash : String → Nat) (json : SerdeJson F)

def reporting (now : SystemTime) :
    System (State F (Value F) cfg.workers) (Action F Shared cfg.workers) where
  init := (pipeline cfg hash json.serde now).init
  step := fun s action => (pipeline cfg hash json.serde now).step s (withStats message ratio s action)

end Steps

/-- The `k`-th of the requests has the snapshot of its frame with the metrics of the answers before it. -/
def Built (message : IoError → String) (ratio : ℚ → F) (sent : List (Sent F (Value F))) (k : Nat)
    (x : Sent F (Value F)) : Prop :=
  ∃ shared metrics answered, Tells metrics answered ∧ answered.map told = sent.take k ∧
    x.request.statsSnapshot = some (buildStatsSnapshot message ratio x.request.frame shared metrics)

def AllBuilt (message : IoError → String) (ratio : ℚ → F) (sent : List (Sent F (Value F))) : Prop :=
  ∀ k x, sent[k]? = some x → Built message ratio sent k x

section
variable {message : IoError → String} {ratio : ℚ → F} {cfg : AggregationConfig F} {hash : String → Nat}
  {json : SerdeJson F} {now : SystemTime} {s t : State F (Value F) cfg.workers}

theorem allBuilt_nil : AllBuilt message ratio [] := by
  intro k x found
  cases found

theorem AllBuilt.concat {sent : List (Sent F (Value F))} (built : AllBuilt message ratio sent)
    {x : Sent F (Value F)} (last : Built message ratio (sent ++ [x]) sent.length x) :
    AllBuilt message ratio (sent ++ [x]) := by
  intro k y found
  by_cases earlier : k < sent.length
  · rw [List.getElem?_append_left earlier] at found
    obtain ⟨shared, metrics, answered, tells, before, snapshot⟩ := built k y found
    refine ⟨shared, metrics, answered, tells, ?_, snapshot⟩
    rw [List.take_append_of_le_length earlier.le]
    exact before
  · have here : k = sent.length := by
      have bound := (List.getElem?_eq_some_iff.mp found).1
      rw [List.length_append, List.length_singleton] at bound
      omega
    subst here
    rw [List.getElem?_concat_length] at found
    cases found
    exact last

/-- The running process has got all its answers, and all requests so far have been built like that. -/
structure Reports (message : IoError → String) (ratio : ℚ → F) (s : State F (Value F) cfg.workers) :
    Prop where
  answered : s.storage.worker.answered.map told = s.sent
  built : AllBuilt message ratio s.sent
  past : ∀ r ∈ s.past, AllBuilt message ratio r.sent

/-- A consumer that does not persist leaves storage alone. -/
theorem consumerStep_storage (moved : consumerStep cfg hash s = some t) :
    t.storage = s.storage ∧ t.sent = s.sent ∧ t.past = s.past := by
  unfold Pipeline.consumerStep at moved
  have engine {action : Engine.Threads.Action F cfg.workers} {consumer : Consumer F}
      {u : State F (Value F) cfg.workers}
      (moved : onEngine cfg hash u action consumer = some t) :
      t.storage = u.storage ∧ t.sent = u.sent ∧ t.past = u.past := by
    obtain ⟨engine, -, rfl⟩ := onEngine_cases moved
    exact ⟨rfl, rfl, rfl⟩
  cases here : s.consumer with
  | receive =>
    simp only [here] at moved
    split at moved
    · exact engine (u := { s with idleRounds := 0 }) moved
    · cases moved
      exact ⟨rfl, rfl, rfl⟩
  | persist frame => simp only [here, reduceCtorEq] at moved
  | failed | checkStop =>
    simp only [here] at moved
    cases moved
    exact ⟨rfl, rfl, rfl⟩
  | shutdownBuffer | shutdownEngine =>
    simp only [here] at moved
    exact engine moved
  | checkShut =>
    simp only [here] at moved
    split at moved <;> cases moved <;> exact ⟨rfl, rfl, rfl⟩
  | joinEngine =>
    simp only [here, Option.ite_none_right_eq_some] at moved
    obtain ⟨-, moved⟩ := moved
    cases moved
    exact ⟨rfl, rfl, rfl⟩
  | done => simp only [here, reduceCtorEq] at moved

theorem Reports.same (reports : Reports message ratio s)
    (same : t.storage = s.storage ∧ t.sent = s.sent ∧ t.past = s.past) : Reports message ratio t := by
  obtain ⟨storage, sent, past⟩ := same
  constructor
  · rw [storage, sent]
    exact reports.answered
  · rw [sent]
    exact reports.built
  · rw [past]
    exact reports.past

/-- The next request has the metrics of all answers so far. -/
theorem Reports.next (reports : Reports message ratio s)
    (tells : Tells s.storage.worker.metrics s.storage.worker.answered) {frame : AggregatedFrame F}
    (shared : Shared) (faults : Faults) (persistUs : Nat) (answer : Option (Except StorageError Unit))
    (here : s.consumer = .persist frame) :
    AllBuilt message ratio
      (s.sent ++ [⟨⟨frame, some (statsOf message ratio s shared), faults, persistUs⟩, answer⟩]) := by
  apply reports.built.concat
  refine ⟨shared, s.storage.worker.metrics, s.storage.worker.answered, tells, ?_, ?_⟩
  · rw [reports.answered, List.take_left]
  · rw [statsOf, here]

/-- The process that ends leaves its requests behind, and the next one has made none. -/
theorem Reports.ended (reports : Reports message ratio s) {sent : List (Sent F (Value F))}
    (built : AllBuilt message ratio sent) {event : Event F (Value F)} {now : SystemTime}
    (fresh : ∀ storage, (crashing json.serde fun _ => none).step s.storage event = some storage →
      storage.worker.answered = [])
    (moved : crashStep cfg hash json.serde s event sent now = some t) : Reports message ratio t := by
  obtain ⟨storage, stepped, rfl⟩ := Option.map_eq_some_iff.mp moved
  constructor
  · show storage.worker.answered.map told = []
    rw [fresh storage stepped]
    rfl
  · exact allBuilt_nil
  · intro r member
    rcases List.mem_append.mp member with old | last
    · exact reports.past r old
    · rw [List.mem_singleton.mp last]
      exact built

theorem Reports.step (reports : Reports message ratio s)
    (tells : Tells s.storage.worker.metrics s.storage.worker.answered)
    {action : Action F Shared cfg.workers}
    (moved : (reporting message ratio cfg hash json now).step s action = some t) :
    Reports message ratio t := by
  change Pipeline.step cfg hash json.serde s (withStats message ratio s action) = some t at moved
  cases action with
  | engine action =>
    rw [withStats, Pipeline.step, Option.ite_none_right_eq_some] at moved
    obtain ⟨engine, -, rfl⟩ := Option.map_eq_some_iff.mp moved.2
    exact reports.same ⟨rfl, rfl, rfl⟩
  | stop =>
    cases moved
    exact reports.same ⟨rfl, rfl, rfl⟩
  | consumer => exact reports.same (consumerStep_storage moved)
  | persist shared faults persistUs =>
    rw [withStats, Pipeline.step] at moved
    cases here : s.consumer with
    | persist frame =>
      simp only [here] at moved
      unfold persistStep at moved
      obtain ⟨storage, stepped, rfl⟩ := Option.map_eq_some_iff.mp moved
      cases stepped
      constructor
      · show (s.storage.worker.answered ++ [_]).map told = s.sent ++ [_]
        rw [List.map_append, reports.answered]
        rfl
      · exact reports.next tells shared faults persistUs _ here
      · exact reports.past
    | _ => simp only [here, reduceCtorEq] at moved
  | crash now =>
    refine reports.ended reports.built ?_ moved
    intro storage stepped
    cases stepped
    rfl
  | crashPersisting shared faults persistUs moment now =>
    rw [withStats, Pipeline.step] at moved
    cases here : s.consumer with
    | persist frame =>
      simp only [here] at moved
      refine reports.ended (reports.next tells shared faults persistUs none here) ?_ moved
      intro storage stepped
      obtain ⟨o, -, rfl⟩ := Option.map_eq_some_iff.mp stepped
      rfl
    | _ => simp only [here, reduceCtorEq] at moved

theorem pipeline_reachable (reach : (reporting message ratio cfg hash json now).Reachable s) :
    (pipeline cfg hash json.serde now).Reachable s := by
  apply System.Reaches.invariant reach (pipeline cfg hash json.serde now).Reachable
  · exact System.ReachesUnder.refl _
  · exact fun u action v before moved => before.tail moved

theorem reachable_reports (reach : (reporting message ratio cfg hash json now).Reachable s) :
    Reports message ratio s := by
  apply System.ReachesUnder.invariant reach (Reports message ratio)
  · exact ⟨rfl, allBuilt_nil, fun r member => absurd member List.not_mem_nil⟩
  · intro u action v before reports _ moved
    have sound := reachable_sound (pipeline_reachable before)
    exact reports.step (current_reachable sound.storage).tells moved

end

/-- The metrics of a process that has persisted so many frames without a failure. -/
structure Counts (k : Nat) (metrics : StorageMetrics) : Prop where
  persistedFrames : metrics.persistedFrames = k
  lastWindowId : metrics.lastWindowId = if k = 0 then none else some (k - 1)
  lastError : metrics.lastError = none

theorem succeeded_eq {answered : List (Answer F (Value F))}
    (all : ∀ answer ∈ answered, (told answer).acknowledged = true) :
    succeeded answered = answered.map Prod.fst := by
  have kept : answered.filter (fun answer => answer.2.isOk) = answered := List.filter_eq_self.mpr all
  rw [succeeded, kept]

/-- The answers to the requests for the first frames, and the windows of these. -/
theorem counts_of_tells {metrics : StorageMetrics} {answered : List (Answer F (Value F))}
    (tells : Tells metrics answered) (all : ∀ answer ∈ answered, (told answer).acknowledged = true)
    (windows : ∀ (i : Nat) (answer : Answer F (Value F)), answered[i]? = some answer →
      answer.1.frame.windowId = i) :
    Counts answered.length metrics := by
  have acknowledged := succeeded_eq all
  constructor
  · rw [tells.persistedFrames, acknowledged, List.length_map]
  · rw [tells.lastWindowId, acknowledged, List.getLast?_map, Option.map_map, List.getLast?_eq_getElem?]
    by_cases some_answer : answered.length = 0
    · rw [if_pos some_answer, List.length_eq_zero_iff.mp some_answer]
      rfl
    · have inside : answered.length - 1 < answered.length := by omega
      have last := windows _ _ (List.getElem?_eq_getElem inside)
      rw [if_neg some_answer, List.getElem?_eq_getElem inside, Option.map_some]
      exact congrArg some last
  · apply tells.lastError.mpr
    intro answer last
    exact all answer (List.mem_of_getLast? last)

section
variable {message : IoError → String} {ratio : ℚ → F} {cfg : AggregationConfig F} {hash : String → Nat}
  {json : SerdeJson F} {now : SystemTime} {s : State F (Value F) cfg.workers}

/-- The frame of the `k`-th request is exact for the `k`-th piece of the readings, and the snapshot
it goes with counts the `k` frames before it. -/
def Reported (message : IoError → String) (ratio : ℚ → F) (d : Detection F) (r : Run F (Value F))
    (k : Nat) (v : Value F) : Prop :=
  ∃ frame readings shared metrics, r.windows[k]? = some (frame, readings) ∧ Exact d k readings frame ∧
    Counts k metrics ∧ v = buildStatsSnapshot message ratio frame shared metrics

theorem reported_of_built {d : Detection F} {r : Run F (Value F)} (delivers : Delivers d r)
    {k : Nat} {x : Sent F (Value F)} (found : r.sent[k]? = some x)
    (built : Built message ratio r.sent k x) :
    ∃ v, x.request.statsSnapshot = some v ∧ Reported message ratio d r k v := by
  obtain ⟨shared, metrics, answered, tells, before, snapshot⟩ := built
  obtain ⟨readings, window, exact⟩ := frame_of_sent delivers found
  have bound := (List.getElem?_eq_some_iff.mp found).1
  have length : answered.length = k := by
    rw [← List.length_map (f := told), before, List.length_take]
    omega
  have all : ∀ answer ∈ answered, (told answer).acknowledged = true := by
    intro answer member
    apply delivers.answers
    have early : told answer ∈ r.sent.take k := before ▸ List.mem_map_of_mem member
    rw [List.dropLast_eq_take]
    exact (List.take_subset_take_left r.sent (by omega)) early
  have windows : ∀ (i : Nat) (answer : Answer F (Value F)), answered[i]? = some answer →
      answer.1.frame.windowId = i := by
    intro i answer here
    have there : (r.sent.take k)[i]? = some (told answer) := by
      rw [← before, List.getElem?_map, here, Option.map_some]
    rw [List.getElem?_take, Option.ite_none_right_eq_some] at there
    obtain ⟨readings, -, exact⟩ := frame_of_sent delivers there.2
    exact exact.windowId
  exact ⟨_, snapshot, x.request.frame, readings, shared, metrics, window, exact,
    length ▸ counts_of_tells tells all windows, rfl⟩

end

def idleGovernor : GovernorStats := ⟨.tracking, 100, 0, 0, 0, 0, 0, 0, 0, 0, 0, 0, 0⟩

def idle : Shared where
  buffer := ⟨16, 0, 2, 2, 2, 0, 0, 0, 0, false⟩
  maxT1 := 1
  maxT2 := 0
  maxA1 := 1
  maxA2 := 0
  maxF1 := 0
  govT1 := idleGovernor
  govT2 := idleGovernor
  govA1 := idleGovernor
  govA2 := idleGovernor
  govF1 := idleGovernor
  scheduler := .default

end SensorGateway.Gateway.StatsSnapshot

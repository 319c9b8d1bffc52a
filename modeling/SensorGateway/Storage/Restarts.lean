import SensorGateway.Storage.WindowLookup

/-! Gateway runs one after the other on the same directory. Every run numbers its windows from zero, so a
number alone does not say which frame is meant. -/

namespace SensorGateway.Storage.Restarts
open SensorGateway.Lib.ExtendedRat SensorGateway.Lib.Transition SensorGateway.Types
open Disk Persist Reliable Encoding Texts Collection WindowLookup
variable {F : Type} [F64 F] (json : SerdeJson F)

/-- The run going on, and the frames that storage has acknowledged in any run. -/
structure History (F : Type) [F64 F] where
  /-- The number the engine gives to the next window. -/
  windowId : Nat
  /-- The consumer goes on until a frame is not persisted. -/
  consuming : Bool
  worker : Worker F (Value F)
  acknowledged : List (AggregatedFrame F)

inductive Event (F : Type) [F64 F] where
  | window (windowStart windowEnd : SystemTime) (perSensor : SensorMap (SensorStats F))
      (anomalies : List (AnomalyRecord F)) (statsSnapshot : Option (Value F)) (persistUs : Nat)
  | restart

/-- A fresh engine and a fresh storage worker on the files there are. -/
def fresh (files : Files) (acknowledged : List (AggregatedFrame F)) : History F :=
  ⟨0, true, (worker json.serde files).init, acknowledged⟩

/-- The consumer persists the frame of the next window. -/
def persistWindow (s : History F) (request : PersistRequest F (Value F)) : History F :=
  let next := serve json.serde s.worker request
  match (persistWithMetrics json.serde request s.worker).1 with
  | .ok _ => ⟨s.windowId + 1, true, next, s.acknowledged ++ [request.frame]⟩
  | .error _ => ⟨s.windowId, false, next, s.acknowledged⟩

/-- All file operations go through; what a run is given by its clock and its sensors is arbitrary. -/
def gateway : System (History F) (Event F) where
  init := fresh json (fun _ => none) []
  step := fun s event =>
    match event with
    | .restart => some (fresh json s.worker.store.files s.acknowledged)
    | .window windowStart windowEnd perSensor anomalies statsSnapshot persistUs =>
      if s.consuming then
        some (persistWindow json s
          ⟨⟨s.windowId, windowStart, windowEnd, perSensor, anomalies⟩, statsSnapshot, .none, persistUs⟩)
      else none

/-- The directory holds the acknowledged frames of all runs. -/
structure Sound (s : History F) : Prop where
  level : Level s.worker.store
  stored : Stored json.serde s.worker.store.now s.acknowledged

variable {json} {s : History F}

theorem sound_fresh {files : Files} {acknowledged : List (AggregatedFrame F)}
    (stored : Stored json.serde ⟨files, []⟩ acknowledged) : Sound json (fresh json files acknowledged) :=
  ⟨level_new rfl, stored⟩

/-- Only the files count, not how they have come about. -/
theorem stored_files {o o' : Observation} {stored : List (AggregatedFrame F)} (same : o'.files = o.files)
    (holding : Stored json.serde o stored) : Stored json.serde o' stored := by
  have text (path : Path) : o'.text path = o.text path := by
    rw [Observation.text, same, Observation.text]
  constructor
  · intro hour
    rw [text]
    exact holding.hours hour
  · intro path jsonl there
    rw [text] at there
    exact holding.only path jsonl there

theorem Sound.persistWindow (sound : Sound json s) {request : PersistRequest F (Value F)}
    (clean : request.faults = .none) : Sound json (persistWindow json s request) := by
  have answers : Answers json.serde s.worker request _ :=
    persistWithMetrics_answers sound.level request clean
  have served : (serve json.serde s.worker request).store =
      (persistWithMetrics json.serde request s.worker).2.1 := rfl
  unfold Restarts.persistWindow
  generalize persistWithMetrics json.serde request s.worker = result at answers served
  cases answers with
  | ok store metrics line delivered count =>
    refine ⟨?_, ?_⟩
    · simp only [served]
      exact delivered.level
    · simp only [served]
      exact sound.stored.deliver delivered
  | refused store metrics refused unmoved count =>
    refine ⟨?_, ?_⟩
    · simp only [served]
      exact unmoved.level
    · simp only [served, unmoved.now]
      exact sound.stored

theorem Sound.step {t : History F} {event : Event F} (sound : Sound json s)
    (step : (gateway json).step s event = some t) : Sound json t := by
  cases event with
  | restart =>
    cases step
    exact sound_fresh (stored_files (o := s.worker.store.now) rfl sound.stored)
  | window windowStart windowEnd perSensor anomalies statsSnapshot persistUs =>
    simp only [gateway] at step
    split at step
    · cases step
      exact sound.persistWindow rfl
    · cases step

theorem sound_reachable (reach : (gateway json).Reachable s) : Sound json s := by
  apply System.Reaches.invariant reach (Sound json)
  · exact sound_fresh stored_empty
  · intro u event v sound step
    exact sound.step step

/-- A window that can be serialized is acknowledged. -/
theorem exists_window (reach : (gateway json).Reachable s) (consuming : s.consuming = true)
    (windowStart windowEnd : SystemTime) (perSensor : SensorMap (SensorStats F))
    (anomalies : List (AnomalyRecord F))
    (serializable : (json.frameText ⟨s.windowId, windowStart, windowEnd, perSensor, anomalies⟩).isSome) :
    ∃ t, (gateway json).Reachable t ∧ t.consuming = true ∧ t.windowId = s.windowId + 1 ∧
      t.acknowledged =
        s.acknowledged ++ [⟨s.windowId, windowStart, windowEnd, perSensor, anomalies⟩] := by
  let request : PersistRequest F (Value F) :=
    ⟨⟨s.windowId, windowStart, windowEnd, perSensor, anomalies⟩, none, .none, 7⟩
  have accepted : Accepted json.serde s.worker request :=
    accepts json.serde (sound_reachable reach).level rfl serializable
  have step : (gateway json).step s (.window windowStart windowEnd perSensor anomalies none 7) =
      some ⟨s.windowId + 1, true, serve json.serde s.worker request,
        s.acknowledged ++ [request.frame]⟩ := by
    unfold Accepted at accepted
    simp only [gateway, consuming, if_true, Restarts.persistWindow, request, accepted] at accepted ⊢
  exact ⟨_, reach.tail step, rfl, rfl, rfl⟩

theorem exists_restart (reach : (gateway json).Reachable s) :
    ∃ t, (gateway json).Reachable t ∧ t.consuming = true ∧ t.windowId = 0 ∧
      t.acknowledged = s.acknowledged :=
  have step : (gateway json).step s .restart = some (fresh json s.worker.store.files s.acknowledged) := rfl
  ⟨_, reach.tail step, rfl, rfl, rfl⟩

variable (json)

/-- After any history of runs, for any acknowledged frame and any order in which the directory is listed:
when the frame is found as it is read back from its line, and when it is found just as it was. -/
theorem lookup_returns (s : History F) (reach : (gateway json).Reachable s) (listing : List Path)
    (lists : Lists listing s.worker.store.now) (frame : AggregatedFrame F)
    (member : frame ∈ s.acknowledged) :
    (findFrameByWindowId json s.worker.store.now listing frame.windowId =
        .ok (some (json.rereadFrame frame)) ↔
      FirstOfItsNumber json s.acknowledged frame (json.rereadFrame frame)) ∧
    (findFrameByWindowId json s.worker.store.now listing frame.windowId = .ok (some frame) ↔
      FirstOfItsNumber json s.acknowledged frame frame) := by
  have stored := (sound_reachable reach).stored
  exact ⟨findFrame_iff stored lists member rfl, findFrame_iff stored lists member rfl⟩

/-- The frame of a window without readings that ends at the given second. -/
def quietWindow (windowId second : Nat) : AggregatedFrame Extended :=
  ⟨windowId, 0, second * 1000000000, ∅, []⟩

theorem quietWindow_written (windowId second : Nat) : Written (quietWindow windowId second) := by
  constructor
  · rintro ⟨id, stats⟩ member
    have found := Std.ExtTreeMap.mem_toList_iff_getElem?_eq_some.mp member
    simp [quietWindow] at found
  · intro record member
    cases member

theorem exists_quiet {s : History Extended} (reach : (gateway exactJson).Reachable s)
    (consuming : s.consuming = true) (second : Nat) :
    ∃ t, (gateway exactJson).Reachable t ∧ t.consuming = true ∧ t.windowId = s.windowId + 1 ∧
      t.acknowledged = s.acknowledged ++ [quietWindow s.windowId second] := by
  have after : ¬(second : Int) * 1000000000 < 0 := by omega
  apply exists_window reach consuming
  simp [SerdeJson.frameText, encodeFrame, encodeTime, after]

/-- Two windows of one run. -/
theorem exists_pair (first second : Nat) :
    ∃ s : History Extended, (gateway exactJson).Reachable s ∧
      s.acknowledged = [quietWindow 0 first, quietWindow 1 second] := by
  obtain ⟨s, reach, consuming, next, acknowledged⟩ :=
    exists_quiet (System.ReachesUnder.refl (gateway exactJson).init) rfl first
  obtain ⟨t, reach, -, -, both⟩ := exists_quiet reach consuming second
  rw [acknowledged, next] at both
  exact ⟨t, reach, both⟩

theorem pair_written (first second : Nat) :
    ∀ g ∈ [quietWindow 0 first, quietWindow 1 second], Written g :=
  List.forall_mem_cons.mpr ⟨quietWindow_written 0 first,
    List.forall_mem_singleton.mpr (quietWindow_written 1 second)⟩

/-- Two windows of one run, in two hours. -/
theorem lookup_returns_second :
    ∃ (s : History Extended) (listing : List Path),
      s.acknowledged = [quietWindow 0 1, quietWindow 1 3601] ∧
      findFrameByWindowId exactJson s.worker.store.now listing 1 = .ok (some (quietWindow 1 3601)) := by
  obtain ⟨t, reach, both⟩ := exists_pair 1 3601
  have lists := lists_hours (sound_reachable reach).stored
  have member : quietWindow 1 3601 ∈ t.acknowledged := by
    rw [both]
    exact List.mem_cons_of_mem _ (List.mem_singleton_self _)
  refine ⟨t, _, both, (lookup_returns exactJson t reach _ lists _ member).2.mpr ?_⟩
  rw [both]
  constructor
  · exact fun g inside _ => pair_written 1 3601 g inside
  · intro g inside early
    rcases List.mem_cons.mp inside with rfl | inside
    · exact Nat.zero_ne_one
    · rw [List.mem_singleton.mp inside] at early
      exact absurd early (lt_irrefl _)
  · rfl

/-- The first window of a second run, in the hour of the first: the search gives the frame of the first
run. -/
theorem restarted_window_lost :
    ∃ (s : History Extended) (listing : List Path), (gateway exactJson).Reachable s ∧
      Lists listing s.worker.store.now ∧
      s.acknowledged = [quietWindow 0 1, quietWindow 0 2] ∧
      findFrameByWindowId exactJson s.worker.store.now listing 0 = .ok (some (quietWindow 0 1)) ∧
      quietWindow 0 1 ≠ quietWindow 0 2 := by
  obtain ⟨s, reach, -, -, acknowledged⟩ :=
    exists_quiet (System.ReachesUnder.refl (gateway exactJson).init) rfl 1
  obtain ⟨t, reach, consuming, next, kept⟩ := exists_restart reach
  obtain ⟨u, reach, -, -, both⟩ := exists_quiet reach consuming 2
  rw [kept, acknowledged, next] at both
  have stored := (sound_reachable reach).stored
  have member : quietWindow 0 1 ∈ u.acknowledged := by
    rw [both]
    exact List.mem_append_left _ (List.mem_singleton_self _)
  refine ⟨u, _, reach, lists_hours stored, both,
    (findFrame_iff stored (lists_hours stored) member rfl).mpr ?_, ?_⟩
  · rw [both]
    constructor
    · intro g inside _
      rcases List.mem_cons.mp inside with rfl | inside
      · exact quietWindow_written 0 1
      · rw [List.mem_singleton.mp inside]
        exact quietWindow_written 0 2
    · intro g inside early
      rcases List.mem_cons.mp inside with rfl | inside
      · exact absurd early (lt_irrefl _)
      · rw [List.mem_singleton.mp inside] at early
        exact absurd early (lt_irrefl _)
    · rfl
  · intro same
    have ends := congrArg AggregatedFrame.windowEnd same
    exact absurd ends (by decide)

end SensorGateway.Storage.Restarts

import SensorGateway.Lib.Codec
import SensorGateway.Storage.Reliable

/-! What accepted requests have left in a directory that was empty: every hour file holds the frames of
its hour in order, and the two snapshot files hold the last frame and the last pair. -/

namespace SensorGateway.Storage.Collection
open SensorGateway.Lib.Codec SensorGateway.Lib.Lines SensorGateway.Lib.Transition SensorGateway.Types
open Disk Persist HourlyLog Reliable
variable {F Value : Type} (serde : Serde F Value)

/-- A log file and the frames it has been written from. -/
inductive Log : Option Text → List (AggregatedFrame F) → Prop where
  | absent : Log none []
  | present (text : Text) (frames : List (AggregatedFrame F)) (nonempty : frames ≠ [])
      (content : frames.mapM serde.frame = some (entries text)) : Log (some text) frames

def ofHour (frames : List (AggregatedFrame F)) (hour : Int) : List (AggregatedFrame F) :=
  frames.filter fun frame => decide (frameHour frame = hour)

/-- The log files hold these frames, and there are no others. -/
structure Stored (o : Observation) (frames : List (AggregatedFrame F)) : Prop where
  hours : ∀ hour, Log serde (o.text (hourPath hour)) (ofHour frames hour)
  only : ∀ path, path.name.extension = some .jsonl → (o.text path).isSome = true →
    ∃ hour, path = hourPath hour

theorem mem_ofHour {frames : List (AggregatedFrame F)} {frame : AggregatedFrame F} {hour : Int} :
    frame ∈ ofHour frames hour ↔ frame ∈ frames ∧ frameHour frame = hour := by
  rw [ofHour, List.mem_filter, decide_eq_true_eq]

theorem ofHour_append (frames : List (AggregatedFrame F)) (frame : AggregatedFrame F) (hour : Int) :
    ofHour (frames ++ [frame]) hour =
      if frameHour frame = hour then ofHour frames hour ++ [frame] else ofHour frames hour := by
  rw [ofHour, List.filter_append, ofHour]
  by_cases here : frameHour frame = hour
  · simp [here]
  · simp [here]

variable {serde}

theorem stored_empty : Stored serde ⟨fun _ => none, []⟩ [] where
  hours := fun _ => .absent
  only := fun _ _ there => by cases there

theorem Log.lines {text : Option Text} {frames : List (AggregatedFrame F)} (log : Log serde text frames) :
    frames.mapM serde.frame = some ((text.map entries).getD []) := by
  cases log with
  | absent => rfl
  | present text frames nonempty content => exact content

theorem Stored.log {o : Observation} {frames : List (AggregatedFrame F)} (stored : Stored serde o frames)
    (hour : Int) : (ofHour frames hour).mapM serde.frame = some (logAt o hour) :=
  (stored.hours hour).lines

theorem Stored.deliver {s t : Store} {frames : List (AggregatedFrame F)} {frame : AggregatedFrame F}
    {statsSnapshot : Option Value} {line : Text} (stored : Stored serde s.now frames)
    (delivered : Delivered serde s t frame statsSnapshot line) :
    Stored serde t.now (frames ++ [frame]) := by
  constructor
  · intro hour
    rw [ofHour_append]
    by_cases here : frameHour frame = hour
    · subst here
      obtain ⟨text, there, content⟩ := delivered.hour
      rw [if_pos rfl, there]
      refine .present text _ (List.append_ne_nil_of_right_ne_nil _ (List.cons_ne_nil _ _)) ?_
      rw [content]
      exact mapM_append_singleton.mpr ⟨stored.log _, delivered.serialized⟩
    · rw [if_neg here, delivered.others (Ne.symm here)]
      exact stored.hours hour
  · intro path jsonl there
    by_cases here : path = hourPath (frameHour frame)
    · exact ⟨_, here⟩
    · rw [delivered.logs path jsonl here] at there
      exact stored.only path jsonl there

/-! The worker on an empty directory. -/

def requests (w : Worker F Value) : List (PersistRequest F Value) := w.answered.map Prod.fst

def frames (w : Worker F Value) : List (AggregatedFrame F) := (requests w).map PersistRequest.frame

/-- Every request so far has been answered `Ok`. -/
def AllAccepted (w : Worker F Value) : Prop := ∀ entry ∈ w.answered, entry.2 = .ok ()

/-- The frame and the stats of a request that carries stats. -/
def pairOf (request : PersistRequest F Value) : Option (AggregatedFrame F × Value) :=
  request.statsSnapshot.map fun stats => (request.frame, stats)

/-- The last frame that came with stats. -/
def lastPair (requests : List (PersistRequest F Value)) : Option (AggregatedFrame F × Value) :=
  (requests.filterMap pairOf).getLast?

variable (serde)

structure Kept (w : Worker F Value) : Prop where
  level : Level w.store
  stored : Stored serde w.store.now (frames w)
  latest : w.store.now.text latestSnapshotPath =
    (frames w).getLast?.bind serde.frame
  snapshot : w.store.now.text runtimeSnapshotPath =
    (lastPair (requests w)).bind fun pair => serde.snapshot pair.1 pair.2

theorem lastPair_append (before : List (PersistRequest F Value)) (request : PersistRequest F Value) :
    lastPair (before ++ [request]) = (pairOf request).or (lastPair before) := by
  rw [lastPair, List.filterMap_append, lastPair]
  cases pair : pairOf request with
  | none => simp [pair]
  | some found => simp [pair]

variable {serde} {w : Worker F Value}

theorem Kept.serve (kept : Kept serde w) {request : PersistRequest F Value}
    (accepted : Accepted serde w request) : Kept serde (serve serde w request) := by
  obtain ⟨line, delivered⟩ := accepted.delivered kept.level
  have served : requests (Persist.serve serde w request) = requests w ++ [request] := List.map_append
  have behind : frames (Persist.serve serde w request) = frames w ++ [request.frame] := by
    rw [frames, served, List.map_append]
    rfl
  refine ⟨delivered.level, ?_, ?_, ?_⟩
  · rw [behind]
    exact kept.stored.deliver delivered
  · rw [delivered.latest, behind, List.getLast?_append, List.getLast?_singleton, Option.some_or,
      Option.bind_some, delivered.serialized]
  · rw [delivered.snapshot, served, lastPair_append, kept.snapshot, pairOf]
    cases request.statsSnapshot with
    | none => rfl
    | some stats => rfl

/-- A worker that has started with an empty directory and has accepted every request. -/
theorem reachable_kept (reach : (worker serde fun _ => none).Reachable w) (all : AllAccepted w) :
    Kept serde w := by
  apply System.Reaches.invariant reach (fun w => AllAccepted w → Kept serde w) ?_ ?_ all
  · intro _
    exact ⟨level_new rfl, stored_empty, rfl, rfl⟩
  · intro u request v kept moved all
    obtain rfl : serve serde u request = v := Option.some.inj moved
    have answered : (serve serde u request).answered =
        u.answered ++ [(request, (persistWithMetrics serde request u).1)] := rfl
    rw [AllAccepted, answered] at all
    have before : AllAccepted u := fun entry member => all entry (List.mem_append_left _ member)
    exact (kept before).serve (all _ (List.mem_append_right _ (List.mem_singleton_self _)))

theorem Stored.serialized {o : Observation} {frames : List (AggregatedFrame F)}
    (stored : Stored serde o frames) {frame : AggregatedFrame F} (member : frame ∈ frames) :
    ∃ line, serde.frame frame = some line :=
  exists_of_mapM (stored.log (frameHour frame)) (mem_ofHour.mpr ⟨member, rfl⟩)

theorem Log.isSome {text : Option Text} {frames : List (AggregatedFrame F)} (log : Log serde text frames)
    {frame : AggregatedFrame F} (member : frame ∈ frames) : text.isSome = true := by
  cases log with
  | absent => cases member
  | present text frames nonempty content => rfl

theorem Stored.isSome {o : Observation} {frames : List (AggregatedFrame F)}
    (stored : Stored serde o frames) {frame : AggregatedFrame F} (member : frame ∈ frames) :
    (o.text (hourPath (frameHour frame))).isSome = true :=
  (stored.hours (frameHour frame)).isSome (mem_ofHour.mpr ⟨member, rfl⟩)

/-- There is a log file for every hour that has a frame, and for no other. -/
theorem Stored.isSome_iff {o : Observation} {frames : List (AggregatedFrame F)}
    (stored : Stored serde o frames) {path : Path} (jsonl : path.name.extension = some .jsonl) :
    (o.text path).isSome = true ↔ ∃ frame ∈ frames, path = hourPath (frameHour frame) := by
  constructor
  · intro there
    obtain ⟨hour, rfl⟩ := stored.only path jsonl there
    have log := stored.hours hour
    generalize o.text (hourPath hour) = text at log there
    generalize inside : ofHour frames hour = group at log
    cases log with
    | absent => cases there
    | present text group nonempty content =>
      obtain ⟨frame, member⟩ := List.exists_mem_of_ne_nil group nonempty
      rw [← inside] at member
      obtain ⟨listed, rfl⟩ := mem_ofHour.mp member
      exact ⟨frame, listed, rfl⟩
  · rintro ⟨frame, member, rfl⟩
    exact stored.isSome member

/-- The frame of a pair is one of the frames. -/
theorem mem_of_lastPair {pair : AggregatedFrame F × Value} (last : lastPair (requests w) = some pair) :
    pair.1 ∈ frames w := by
  obtain ⟨request, member, paired⟩ := List.mem_filterMap.mp (List.mem_of_getLast? last)
  obtain ⟨stats, -, rfl⟩ := Option.map_eq_some_iff.mp paired
  exact List.mem_map_of_mem member

variable (serde)

/-- Requests without failures are all accepted when their frames can be serialized. -/
theorem exists_run (wanted : List (PersistRequest F Value))
    (fine : ∀ request ∈ wanted, request.faults = .none ∧ (serde.frame request.frame).isSome = true) :
    ∃ w, (worker serde fun _ => none).Reachable w ∧ AllAccepted w ∧ requests w = wanted := by
  induction wanted using List.reverseRecOn with
  | nil => exact ⟨_, System.ReachesUnder.refl _, fun entry member => (by cases member), rfl⟩
  | append_singleton before request ih =>
    obtain ⟨w, reach, all, same⟩ := ih fun r member => fine r (List.mem_append_left _ member)
    obtain ⟨clean, serializable⟩ := fine request (List.mem_append_right _ (List.mem_singleton_self _))
    have accepted := accepts serde (reachable_kept reach all).level clean serializable
    refine ⟨serve serde w request, reach.tail rfl, ?_, ?_⟩
    · intro entry member
      obtain old | new := List.mem_append.mp member
      · exact all entry old
      · rw [List.mem_singleton.mp new]
        exact accepted
    · rw [← same]
      exact List.map_append

end SensorGateway.Storage.Collection

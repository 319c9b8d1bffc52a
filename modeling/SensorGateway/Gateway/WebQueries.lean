import SensorGateway.Gateway.Pipeline
import SensorGateway.Storage.FrameQueries

/-! What the web server answers while the gateway runs, fails, crashes and starts again: the queries that go
through give frames the processes have made, each exact for its readings. -/

namespace SensorGateway.Gateway.WebQueries
open SensorGateway.Lib.ExtendedRat SensorGateway.Lib.Transition SensorGateway.Types
open SensorGateway.Dashboard.Endpoints
open Engine.Exactness (twoWorkers)
open Engine.Reduce Engine.Threads Engine.Window Pipeline
open Storage.Disk Storage.Persist Storage.Encoding Storage.Texts Storage.WindowLookup
open Storage.Crashes Storage.FrameQueries
variable {F : Type} [F64 F] {cfg : AggregationConfig F} {hash : String → Nat} {json : SerdeJson F}

/-- One of the processes has made the frame, and it is exact for its piece of the readings. -/
def MadeBy (d : Detection F) (runs : List (Run F (Value F))) (frame : AggregatedFrame F) : Prop :=
  ∃ r ∈ runs, ∃ k readings, r.windows[k]? = some (frame, readings) ∧ Exact d k readings frame

theorem madeBy_of_sent {d : Detection F} {runs : List (Run F (Value F))}
    (delivers : ∀ r ∈ runs, Delivers d r) {x : Sent F (Value F)} (member : x ∈ runs.flatMap Run.sent) :
    MadeBy d runs x.request.frame := by
  obtain ⟨r, among, inside⟩ := List.mem_flatMap.mp member
  obtain ⟨k, found⟩ := List.mem_iff_getElem?.mp inside
  obtain ⟨readings, made, exact⟩ := frame_of_sent (delivers r among) found
  exact ⟨r, among, k, readings, made, exact⟩

/-- Whatever has failed or crashed: the log holds frames that the processes have made, all acknowledged
ones among them, and a query gives those of them that it asks for unless it comes to a number that JSON does
not have. -/
theorem queries_answer (cfg : AggregationConfig F) (hash : String → Nat) (json : SerdeJson F)
    (now : SystemTime) (s : Pipeline.State F (Value F) cfg.workers)
    (reach : (pipeline cfg hash json.serde now).Reachable s) (listing : List Path)
    (lists : Lists listing s.storage.worker.store.now) :
    ∃ stored, Retains ((runs s).flatMap Run.sent) stored ∧
      (∀ frame ∈ stored, MadeBy cfg.detection (runs s) frame) ∧
      (∀ sensorId,
        ((∀ g ∈ stored, Written g) → ∃ hits, Answers stored hits (hasSensor sensorId) ∧
          findFramesBySensor json s.storage.worker.store.now listing sensorId =
            .ok (hits.map json.rereadFrame)) ∧
        ((¬∀ g ∈ stored, Written g) →
          ∃ e, findFramesBySensor json s.storage.worker.store.now listing sensorId = .error e)) ∧
      ∀ start end_ limit,
        (RangeReadable stored (inRange start end_) limit →
          ∃ all, Answers stored all (inRange start end_) ∧
            findFramesInRange json s.storage.worker.store.now listing start end_ limit =
              .ok ((all.take limit).map json.rereadFrame)) ∧
        (¬RangeReadable stored (inRange start end_) limit →
          ∃ e, findFramesInRange json s.storage.worker.store.now listing start end_ limit =
            .error e) := by
  have sound := reachable_sound reach
  obtain ⟨stored, holding, retains⟩ := stored_after_crashes json.serde s.storage sound.storage
  rw [sound.sent_runs] at retains
  refine ⟨stored, retains, ?_, findFramesBySensor_answers holding lists,
    findFramesInRange_answers holding lists⟩
  intro frame member
  obtain ⟨x, among, rfl⟩ := mem_of_retains retains member
  exact madeBy_of_sent sound.delivers_runs among

set_option maxRecDepth 8000 in
/-- One window goes to storage, and the process ends while the frame is persisted. -/
theorem queries_answer_oneWindow :
    ∃ s listing, (pipeline (twoWorkers 0) String.length exactJson.serde 0).run oneWindow = some s ∧
      ∃ stored, Retains ((runs s).flatMap Run.sent) stored ∧
        ∃ hits, Answers stored hits (hasSensor "a") ∧
          findFramesBySensor exactJson s.storage.worker.store.now listing "a" =
            .ok (hits.map exactJson.rereadFrame) := by
  let system := pipeline (twoWorkers 0) String.length exactJson.serde 0
  let s := (system.run oneWindow).get (by decide)
  have replay : system.run oneWindow = some s := (Option.some_get _).symm
  have reach := System.reachable_of_run replay
  have numbers : ∀ x ∈ (runs s).flatMap Run.sent, Written x.request.frame := by decide
  obtain ⟨stored, holding, -⟩ :=
    stored_after_crashes exactJson.serde s.storage (reachable_sound reach).storage
  obtain ⟨stored, retains, -, answers, -⟩ :=
    queries_answer (twoWorkers 0) String.length exactJson 0 s reach _ (lists_hours holding)
  refine ⟨s, _, replay, stored, retains, (answers "a").1 ?_⟩
  intro frame member
  obtain ⟨x, among, rfl⟩ := mem_of_retains retains member
  exact numbers x among

end SensorGateway.Gateway.WebQueries

import SensorGateway.Engine.Exactness
import SensorGateway.Storage.Crashes
import SensorGateway.Storage.Texts

/-! From the readings to the log: the engine, the consumer thread and storage, over any number of
gateway processes of which each can fail or crash anywhere. Every frame that storage is given is exact
for a piece of the readings of its process, and these pieces follow each other without gaps. -/

namespace SensorGateway.Gateway.Pipeline
open SensorGateway.Lib.ExtendedRat SensorGateway.Lib.Transition SensorGateway.Types
open Engine.Exactness (crossed twoWorkers)
open Engine.Reduce Engine.Threads Engine.Steps Engine.Window
open Storage.Disk Storage.Persist Storage.Crashes Storage.Texts
variable {F Value : Type}

/-! `main.rs`: the consumer thread. -/

inductive Consumer (F : Type) where
  /-- About to call `recv_frame_timeout`. -/
  | receive
  /-- About to call `persist_frame`, or inside it. -/
  | persist (frame : AggregatedFrame F)
  /-- The frame was not persisted: about to set `stop`. -/
  | failed
  /-- About to call `shutdown` on the buffer. -/
  | shutdownBuffer
  | checkStop
  | checkShut
  /-- Out of the loop, about to call `shutdown` on the engine. -/
  | shutdownEngine
  | joinEngine
  | done

/-- What one process has popped, made and given to storage. -/
structure Run (F Value : Type) where
  popped : List (ReadingEnvelope F)
  windows : List (AggregatedFrame F × List (ReadingEnvelope F))
  sent : List (Sent F Value)

structure State (F Value : Type) (W : Nat) where
  engine : Engine.Threads.State F W
  stop : Bool
  consumer : Consumer F
  idleRounds : Nat
  storage : History F Value
  /-- The requests this process has made. -/
  sent : List (Sent F Value)
  /-- The processes before this one. -/
  past : List (Run F Value)

inductive Action (F Value : Type) (W : Nat) where
  /-- A step of the engine's threads, a reading put into the buffer or the buffer's end. -/
  | engine (action : Engine.Threads.Action F W)
  | stop
  | consumer
  /-- `persist_frame` with what becomes of its file operations. -/
  | persist (statsSnapshot : Value) (faults : Faults) (persistUs : Nat)
  /-- The process ends outside a request, or inside one after so many changes to the files; the next
  one starts at the time `now`. -/
  | crash (now : SystemTime)
  | crashPersisting (statsSnapshot : Value) (faults : Faults) (persistUs moment : Nat)
      (now : SystemTime)

section Steps
variable [F64 F] (cfg : AggregationConfig F) (hash : String → Nat) (serde : Serde F Value)

/-- The steps that are not the consumer's. -/
def notConsumers {W : Nat} : Engine.Threads.Action F W → Bool
  | .recvFrame | .shutdown | .drop => false
  | _ => true

/-- The consumer calls the engine. -/
def onEngine (s : State F Value cfg.workers) (action : Engine.Threads.Action F cfg.workers)
    (consumer : Consumer F) : Option (State F Value cfg.workers) :=
  (Engine.Threads.step cfg hash s.engine action).map fun engine => { s with engine, consumer }

def consumerStep (s : State F Value cfg.workers) : Option (State F Value cfg.workers) :=
  match s.consumer with
  | .receive =>
    match s.engine.frames with
    | frame :: _ => onEngine cfg hash { s with idleRounds := 0 } .recvFrame (.persist frame)
    | [] => some { s with consumer := .checkStop }
  | .persist _ => none
  | .failed => some { s with consumer := .shutdownBuffer, stop := true }
  | .shutdownBuffer => onEngine cfg hash s .closeSource .shutdownEngine
  | .checkStop => some { s with consumer := if s.stop then .checkShut else .receive }
  | .checkShut =>
    if s.engine.sourceShut then
      some { s with
        consumer := if 4 ≤ s.idleRounds + 1 then .shutdownEngine else .receive
        idleRounds := s.idleRounds + 1 }
    else some { s with consumer := .receive }
  | .shutdownEngine => onEngine cfg hash s .shutdown .joinEngine
  | .joinEngine => if s.engine.caller = .done then some { s with consumer := .done } else none
  | .done => none

/-- The answer of `persist_frame` decides how the consumer goes on. -/
def persistStep (s : State F Value cfg.workers) (request : PersistRequest F Value) :
    Option (State F Value cfg.workers) :=
  let answer := (persistWithMetrics serde request (watched s.storage.worker)).1
  ((crashing serde fun _ => none).step s.storage (.persist request)).map fun storage =>
    { s with
      storage
      consumer := if answer.isOk then .receive else .failed
      sent := s.sent ++ [⟨request, some answer⟩] }

/-- A process that begins at the time `now`, on the storage that the others have left. -/
def started (storage : History F Value) (past : List (Run F Value)) (now : SystemTime) :
    State F Value cfg.workers where
  engine := (engine cfg hash now).init
  stop := false
  consumer := .receive
  idleRounds := 0
  storage := storage
  sent := []
  past := past

/-- What the process has made of its readings so far, with the given requests. -/
def run {W : Nat} (s : State F Value W) (sent : List (Sent F Value)) : Run F Value :=
  ⟨s.engine.popped, s.engine.emitted.take sent.length, sent⟩

/-- The process ends, and what storage goes through decides what the next one finds. -/
def crashStep (s : State F Value cfg.workers) (event : Event F Value) (sent : List (Sent F Value))
    (now : SystemTime) : Option (State F Value cfg.workers) :=
  ((crashing serde fun _ => none).step s.storage event).map fun storage =>
    started cfg hash storage (s.past ++ [run s sent]) now

def step (s : State F Value cfg.workers) :
    Action F Value cfg.workers → Option (State F Value cfg.workers)
  | .engine action =>
    if notConsumers action then
      (Engine.Threads.step cfg hash s.engine action).map fun engine => { s with engine }
    else none
  | .stop => some { s with stop := true }
  | .consumer => consumerStep cfg hash s
  | .persist statsSnapshot faults persistUs =>
    match s.consumer with
    | .persist frame => persistStep cfg serde s ⟨frame, some statsSnapshot, faults, persistUs⟩
    | _ => none
  | .crash now => crashStep cfg hash serde s .restart s.sent now
  | .crashPersisting statsSnapshot faults persistUs moment now =>
    match s.consumer with
    | .persist frame =>
      let request : PersistRequest F Value := ⟨frame, some statsSnapshot, faults, persistUs⟩
      crashStep cfg hash serde s (.crash request moment) (s.sent ++ [⟨request, none⟩]) now
    | _ => none

/-- The gateway on an empty directory. -/
def pipeline (now : SystemTime) :
    System (State F Value cfg.workers) (Action F Value cfg.workers) where
  init := started cfg hash (crashing serde fun _ => none).init [] now
  step := step cfg hash serde

end Steps

section Outputs
variable [F64 F] {cfg : AggregationConfig F} {hash : String → Nat}

/-- Frames are put on the output channel in the order in which they are made. -/
theorem outputs_step {s next : Engine.Threads.State F cfg.workers}
    {action : Engine.Threads.Action F cfg.workers} (moved : Moves cfg hash s action next)
    (keeps : action ≠ .recvFrame) :
    ∃ new, next.emitted = s.emitted ++ new ∧ next.frames = s.frames ++ new.map Prod.fst := by
  cases moved with
  | sentFinal go now e frame | sent go now e frame =>
    exact ⟨[(frame, s.window)], rfl, rfl⟩
  | recvFrame frame rest active head => exact absurd rfl keeps
  | _ => exact ⟨[], (List.append_nil _).symm, (List.append_nil _).symm⟩

theorem received_step {s next : Engine.Threads.State F cfg.workers} (moved : Moves cfg hash s .recvFrame next) :
    next.emitted = s.emitted ∧ ∃ frame, s.frames = frame :: next.frames := by
  cases moved with
  | recvFrame frame rest active head => exact ⟨rfl, frame, head⟩

end Outputs

/-- The frame the consumer has taken and storage has not answered for. -/
def inHand : Consumer F → List (AggregatedFrame F)
  | .persist frame => [frame]
  | _ => []

/-- Every frame given to storage is exact for its readings, these are consecutive pieces of what the
process has popped, and only the last request can have failed. -/
structure Delivers [F64 F] (d : Detection F) (r : Run F Value) : Prop where
  frames : r.windows.map Prod.fst = framesOf r.sent
  exact : ∀ (k : Nat) (frame : AggregatedFrame F) (readings : List (ReadingEnvelope F)),
    r.windows[k]? = some (frame, readings) → Exact d k readings frame
  pieces : r.windows.flatMap Prod.snd <+: r.popped
  answers : ∀ x ∈ r.sent.dropLast, x.acknowledged = true

/-- What has been sent is what has been made, one by one. -/
theorem frame_of_sent [F64 F] {d : Detection F} {r : Run F Value} (delivers : Delivers d r) {k : Nat}
    {x : Sent F Value} (found : r.sent[k]? = some x) :
    ∃ readings, r.windows[k]? = some (x.request.frame, readings) ∧ Exact d k readings x.request.frame := by
  have made : (r.windows.map Prod.fst)[k]? = some x.request.frame := by
    rw [delivers.frames, framesOf, List.getElem?_map, found, Option.map_some]
  rw [List.getElem?_map] at made
  obtain ⟨⟨frame, readings⟩, window, rfl⟩ := Option.map_eq_some_iff.mp made
  exact ⟨readings, window, delivers.exact k _ readings window⟩

/-- The consumer has had no failure so far. -/
def InLoop : Consumer F → Prop
  | .failed | .shutdownBuffer | .shutdownEngine | .joinEngine | .done => False
  | _ => True

/-- As many frames as there are requests have gone to storage, and the others follow them. -/
structure Handed {W : Nat} (s : State F Value W) : Prop where
  taken : (s.engine.emitted.take s.sent.length).map Prod.fst = framesOf s.sent
  ahead : (s.engine.emitted.drop s.sent.length).map Prod.fst = inHand s.consumer ++ s.engine.frames

structure Sound [F64 F] (cfg : AggregationConfig F) (hash : String → Nat) (serde : Serde F Value)
    (s : State F Value cfg.workers) : Prop where
  engine : ∃ now, (engine cfg hash now).Reachable s.engine
  storage : (crashing serde fun _ => none).Reachable s.storage
  handed : Handed s
  total : s.storage.sent = s.past.flatMap Run.sent ++ s.sent
  past : ∀ r ∈ s.past, Delivers cfg.detection r
  answers : ∀ x ∈ s.sent.dropLast, x.acknowledged = true
  all : InLoop s.consumer → ∀ x ∈ s.sent, x.acknowledged = true

section Steps
variable {W : Nat} {s : State F Value W}

theorem Handed.length_le (handed : Handed s) : s.sent.length ≤ s.engine.emitted.length := by
  have lengths := congrArg List.length handed.taken
  rw [List.length_map, List.length_take, framesOf, List.length_map] at lengths
  omega

/-- Frames behind those there are change nothing for the consumer. -/
theorem Handed.outputs (handed : Handed s) {engine : Engine.Threads.State F W}
    {new : List (AggregatedFrame F × List (ReadingEnvelope F))}
    (emitted : engine.emitted = s.engine.emitted ++ new)
    (frames : engine.frames = s.engine.frames ++ new.map Prod.fst) :
    Handed { s with engine } := by
  have enough := handed.length_le
  constructor
  · rw [emitted, List.take_append_of_le_length enough]
    exact handed.taken
  · rw [emitted, List.drop_append_of_le_length enough, List.map_append, handed.ahead, frames,
      List.append_assoc]

/-- The request for the frame in hand is one more frame gone to storage. -/
theorem Handed.persist (handed : Handed s) {frame : AggregatedFrame F}
    (here : s.consumer = .persist frame) {x : Sent F Value} (about : x.request.frame = frame) :
    (s.engine.emitted.take (s.sent ++ [x]).length).map Prod.fst = framesOf (s.sent ++ [x]) ∧
      (s.engine.emitted.drop (s.sent ++ [x]).length).map Prod.fst = s.engine.frames := by
  have ahead := handed.ahead
  rw [here, inHand, List.singleton_append] at ahead
  obtain ⟨made, rest, split, first, others⟩ := List.map_eq_cons_iff.mp ahead
  have longer : (s.sent ++ [x]).length = s.sent.length + 1 := List.length_append
  have next : s.engine.emitted[s.sent.length]? = some made := by
    rw [← List.head?_drop, split, List.head?_cons]
  rw [longer]
  constructor
  · rw [List.take_add_one, next, List.map_append, handed.taken, Option.toList_some,
      List.map_singleton, first, ← about, framesOf, framesOf, List.map_append, List.map_singleton]
  · rw [← List.tail_drop, split, List.tail_cons, others]

end Steps

section Preserved
variable [F64 F] {cfg : AggregationConfig F} {hash : String → Nat} {serde : Serde F Value}
  {s t : State F Value cfg.workers}

theorem reachable_engine (sound : Sound cfg hash serde s) {action : Engine.Threads.Action F cfg.workers}
    {engine : Engine.Threads.State F cfg.workers}
    (moved : Engine.Threads.step cfg hash s.engine action = some engine) :
    Moves cfg hash s.engine action engine ∧
      ∃ now, (Engine.Threads.engine cfg hash now).Reachable engine := by
  obtain ⟨now, reach⟩ := sound.engine
  have stepped : (Engine.Threads.engine cfg hash now).step s.engine action = some engine := moved
  exact ⟨step_moves cfg hash stepped, now, reach.tail moved⟩

/-- The consumer goes on without a request. -/
theorem Sound.goto (sound : Sound cfg hash serde s) {consumer : Consumer F} (stop : Bool) (idleRounds : Nat)
    (same : inHand consumer = inHand s.consumer) (loop : InLoop consumer → InLoop s.consumer) :
    Sound cfg hash serde { s with consumer, stop, idleRounds } where
  engine := sound.engine
  storage := sound.storage
  handed := ⟨sound.handed.taken, same ▸ sound.handed.ahead⟩
  total := sound.total
  past := sound.past
  answers := sound.answers
  all := fun inLoop => sound.all (loop inLoop)

theorem Sound.engineStep (sound : Sound cfg hash serde s)
    {action : Engine.Threads.Action F cfg.workers} (keeps : action ≠ .recvFrame)
    {engine : Engine.Threads.State F cfg.workers}
    (moved : Engine.Threads.step cfg hash s.engine action = some engine) :
    Sound cfg hash serde { s with engine } := by
  obtain ⟨moves, reach⟩ := reachable_engine sound moved
  obtain ⟨new, emitted, frames⟩ := outputs_step moves keeps
  exact { sound with engine := reach, handed := sound.handed.outputs emitted frames }

/-- The consumer takes the first frame there is. -/
theorem Sound.received (sound : Sound cfg hash serde s) (here : s.consumer = .receive)
    {frame : AggregatedFrame F} {rest : List (AggregatedFrame F)} (first : s.engine.frames = frame :: rest)
    {engine : Engine.Threads.State F cfg.workers}
    (moved : Engine.Threads.step cfg hash s.engine .recvFrame = some engine) :
    Sound cfg hash serde { s with engine, consumer := .persist frame, idleRounds := 0 } := by
  obtain ⟨moves, reach⟩ := reachable_engine sound moved
  obtain ⟨emitted, other, taken⟩ := received_step moves
  rw [first, List.cons.injEq] at taken
  constructor
  · exact reach
  · exact sound.storage
  · constructor
    · rw [emitted]
      exact sound.handed.taken
    · have ahead := sound.handed.ahead
      rw [here, first, taken.2] at ahead
      rw [emitted]
      exact ahead
  · exact sound.total
  · exact sound.past
  · exact sound.answers
  · exact fun _ => sound.all (here ▸ trivial)

theorem onEngine_cases {action : Engine.Threads.Action F cfg.workers} {consumer : Consumer F}
    (moved : onEngine cfg hash s action consumer = some t) :
    ∃ engine, Engine.Threads.step cfg hash s.engine action = some engine ∧
      { s with engine, consumer } = t :=
  Option.map_eq_some_iff.mp moved

theorem Sound.consumerStep (sound : Sound cfg hash serde s)
    (moved : consumerStep cfg hash s = some t) : Sound cfg hash serde t := by
  unfold Pipeline.consumerStep at moved
  cases here : s.consumer with
  | receive =>
    simp only [here] at moved
    cases first : s.engine.frames with
    | nil =>
      simp only [first] at moved
      cases moved
      exact sound.goto _ _ (by rw [here]; rfl) (fun _ => here ▸ trivial)
    | cons frame rest =>
      simp only [first] at moved
      obtain ⟨engine, stepped, rfl⟩ := onEngine_cases moved
      exact sound.received here first stepped
  | persist frame => simp only [here, reduceCtorEq] at moved
  | failed =>
    simp only [here] at moved
    cases moved
    exact sound.goto _ _ (by rw [here]; rfl) (fun inLoop => inLoop.elim)
  | shutdownBuffer =>
    simp only [here] at moved
    obtain ⟨engine, stepped, rfl⟩ := onEngine_cases moved
    have closed := sound.engineStep (by simp) stepped
    exact closed.goto _ _ (by rw [here]; rfl) (fun inLoop => inLoop.elim)
  | checkStop =>
    simp only [here] at moved
    cases moved
    refine sound.goto _ _ ?_ (fun _ => here ▸ trivial)
    rw [here]
    split <;> rfl
  | checkShut =>
    simp only [here] at moved
    split at moved
    · cases moved
      refine sound.goto _ _ ?_ (fun _ => here ▸ trivial)
      rw [here]
      split <;> rfl
    · cases moved
      exact sound.goto _ _ (by rw [here]; rfl) (fun _ => here ▸ trivial)
  | shutdownEngine =>
    simp only [here] at moved
    obtain ⟨engine, stepped, rfl⟩ := onEngine_cases moved
    have ended := sound.engineStep (by simp) stepped
    exact ended.goto _ _ (by rw [here]; rfl) (fun inLoop => inLoop.elim)
  | joinEngine =>
    simp only [here, Option.ite_none_right_eq_some] at moved
    obtain ⟨-, moved⟩ := moved
    cases moved
    exact sound.goto _ _ (by rw [here]; rfl) (fun inLoop => inLoop.elim)
  | done => simp only [here, reduceCtorEq] at moved

/-- What the process has made of its readings when it ends, or at any time before. -/
theorem Sound.delivers (sound : Sound cfg hash serde s) {sent : List (Sent F Value)}
    (taken : (s.engine.emitted.take sent.length).map Prod.fst = framesOf sent)
    (answers : ∀ x ∈ sent.dropLast, x.acknowledged = true) :
    Delivers cfg.detection (run s sent) := by
  obtain ⟨now, reach⟩ := sound.engine
  have recorded := Engine.Exactness.recorded_reachable reach
  constructor
  · exact taken
  · intro k frame readings found
    apply recorded.exact k frame readings
    rw [run, List.getElem?_take] at found
    split at found
    · exact found
    · cases found
  · have split : s.engine.popped = (s.engine.emitted.take sent.length).flatMap Prod.snd ++
        ((s.engine.emitted.drop sent.length).flatMap Prod.snd ++ s.engine.window) := by
      rw [recorded.popped, ← List.append_assoc, ← List.flatMap_append, List.take_append_drop]
    exact ⟨_, split.symm⟩
  · exact answers

/-- A process that begins after the others. -/
theorem Sound.restart (sound : Sound cfg hash serde s) {event : Event F Value} {sent : List (Sent F Value)}
    {now : SystemTime} (taken : (s.engine.emitted.take sent.length).map Prod.fst = framesOf sent)
    (answers : ∀ x ∈ sent.dropLast, x.acknowledged = true)
    (grows : ∀ storage, (crashing serde fun _ => none).step s.storage event = some storage →
      storage.sent = s.past.flatMap Run.sent ++ sent)
    (moved : crashStep cfg hash serde s event sent now = some t) : Sound cfg hash serde t := by
  obtain ⟨storage, stepped, rfl⟩ := Option.map_eq_some_iff.mp moved
  constructor
  · exact ⟨now, System.ReachesUnder.refl _⟩
  · exact sound.storage.tail stepped
  · exact ⟨rfl, rfl⟩
  · show storage.sent = (s.past ++ [run s sent]).flatMap Run.sent ++ []
    rw [grows storage stepped, List.flatMap_append, List.flatMap_singleton, List.append_nil]
    rfl
  · intro r member
    rcases List.mem_append.mp member with old | last
    · exact sound.past r old
    · rw [List.mem_singleton.mp last]
      exact sound.delivers taken answers
  · exact fun x member => absurd member List.not_mem_nil
  · exact fun _ x member => absurd member List.not_mem_nil

theorem Sound.persistStep (sound : Sound cfg hash serde s) {request : PersistRequest F Value}
    (here : s.consumer = .persist request.frame)
    (moved : persistStep cfg serde s request = some t) : Sound cfg hash serde t := by
  unfold Pipeline.persistStep at moved
  obtain ⟨storage, stepped, rfl⟩ := Option.map_eq_some_iff.mp moved
  let x : Sent F Value :=
    ⟨request, some (persistWithMetrics serde request (watched s.storage.worker)).1⟩
  obtain ⟨taken, ahead⟩ := sound.handed.persist (x := x) here rfl
  have inLoop : InLoop s.consumer := here ▸ trivial
  have grown : storage.sent = s.storage.sent ++ [x] := by
    cases stepped
    rfl
  constructor
  · exact sound.engine
  · exact sound.storage.tail stepped
  · refine ⟨taken, ahead.trans ?_⟩
    show s.engine.frames = inHand (if _ then _ else _) ++ s.engine.frames
    split <;> rfl
  · show storage.sent = s.past.flatMap Run.sent ++ (s.sent ++ [x])
    rw [grown, sound.total, List.append_assoc]
  · exact sound.past
  · intro y member
    rw [List.dropLast_concat] at member
    exact sound.all inLoop y member
  · intro going y member
    rcases List.mem_append.mp member with old | last
    · exact sound.all inLoop y old
    · rw [List.mem_singleton.mp last]
      by_cases ok : (persistWithMetrics serde request (watched s.storage.worker)).1.isOk = true
      · exact ok
      · simp only [if_neg ok] at going
        exact going.elim

theorem Sound.step (sound : Sound cfg hash serde s) {now : SystemTime}
    {action : Action F Value cfg.workers}
    (moved : (pipeline cfg hash serde now).step s action = some t) : Sound cfg hash serde t := by
  change Pipeline.step cfg hash serde s action = some t at moved
  cases action with
  | engine action =>
    rw [Pipeline.step, Option.ite_none_right_eq_some] at moved
    obtain ⟨other, moved⟩ := moved
    obtain ⟨engine, stepped, rfl⟩ := Option.map_eq_some_iff.mp moved
    refine sound.engineStep ?_ stepped
    rintro rfl
    cases other
  | stop =>
    cases moved
    exact sound.goto _ _ rfl id
  | consumer => exact sound.consumerStep moved
  | persist statsSnapshot faults persistUs =>
    rw [Pipeline.step] at moved
    cases here : s.consumer with
    | persist frame =>
      simp only [here] at moved
      exact sound.persistStep here moved
    | _ => simp only [here, reduceCtorEq] at moved
  | crash now =>
    refine sound.restart sound.handed.taken sound.answers ?_ moved
    intro storage stepped
    cases stepped
    exact sound.total
  | crashPersisting statsSnapshot faults persistUs moment now =>
    rw [Pipeline.step] at moved
    cases here : s.consumer with
    | persist frame =>
      simp only [here] at moved
      let x : Sent F Value := ⟨⟨frame, some statsSnapshot, faults, persistUs⟩, none⟩
      have inLoop : InLoop s.consumer := here ▸ trivial
      refine sound.restart (sound.handed.persist (x := x) here rfl).1 ?_ ?_ moved
      · intro y member
        rw [List.dropLast_concat] at member
        exact sound.all inLoop y member
      · intro storage stepped
        obtain ⟨o, -, rfl⟩ := Option.map_eq_some_iff.mp stepped
        show s.storage.sent ++ [x] = _
        rw [sound.total, List.append_assoc]
    | _ => simp only [here, reduceCtorEq] at moved

theorem reachable_sound {now : SystemTime} (reach : (pipeline cfg hash serde now).Reachable s) :
    Sound cfg hash serde s := by
  apply System.Reaches.invariant reach (Sound cfg hash serde)
  · exact ⟨⟨now, System.ReachesUnder.refl _⟩, System.ReachesUnder.refl _, ⟨rfl, rfl⟩, rfl,
      fun r member => absurd member List.not_mem_nil, fun x member => absurd member List.not_mem_nil,
      fun _ x member => absurd member List.not_mem_nil⟩
  · exact fun u action v sound moved => sound.step moved

end Preserved

/-- All processes so far, with the one that is running. -/
def runs {W : Nat} (s : State F Value W) : List (Run F Value) := s.past ++ [run s s.sent]

section Main
variable [F64 F] {cfg : AggregationConfig F} {hash : String → Nat} {serde : Serde F Value}
  {s : State F Value cfg.workers}

theorem Sound.delivers_runs (sound : Sound cfg hash serde s) :
    ∀ r ∈ runs s, Delivers cfg.detection r := by
  intro r member
  rcases List.mem_append.mp member with old | last
  · exact sound.past r old
  · rw [List.mem_singleton.mp last]
    exact sound.delivers sound.handed.taken sound.answers

theorem Sound.sent_runs (sound : Sound cfg hash serde s) :
    s.storage.sent = (runs s).flatMap Run.sent := by
  rw [sound.total, runs, List.flatMap_append, List.flatMap_singleton]
  rfl

end Main

/-- From the readings to the log, whatever fails and whenever a process ends: what every process has
given to storage are exact frames of consecutive pieces of the readings it has popped, all of them but
possibly the last acknowledged; and each hour's log holds these frames, once each and in their order,
except for some that were not acknowledged. -/
theorem readings_reach_log [F64 F] (cfg : AggregationConfig F) (hash : String → Nat)
    (serde : Serde F Value) (now : SystemTime) (s : State F Value cfg.workers)
    (reach : (pipeline cfg hash serde now).Reachable s) :
    (∀ r ∈ runs s, Delivers cfg.detection r) ∧
      ∀ hour, ∃ kept, Keeps serde (fun _ => none) s.storage.worker.store.now
        ((runs s).flatMap Run.sent) hour kept := by
  have sound := reachable_sound reach
  refine ⟨sound.delivers_runs, ?_⟩
  intro hour
  rw [← sound.sent_runs]
  exact exists_kept sound.storage hour

/-- One window goes to storage, and the process ends while the frame is persisted. -/
def oneWindow : List (Action Extended (Storage.Encoding.Value Extended) 2) :=
  (crossed (.finite 7) (.finite 9)).map .engine ++ [.consumer, .crashPersisting .null .none 7 0 9]

set_option maxRecDepth 8000 in
theorem readings_reach_log_oneWindow :
    ∃ s, (pipeline (twoWorkers 0) String.length exactJson.serde 0).run oneWindow = some s ∧
      (runs s).map (fun r => r.sent.length) = [1, 0] ∧
      ∀ r ∈ runs s, Delivers (twoWorkers 0).detection r := by
  let system := pipeline (twoWorkers 0) String.length exactJson.serde 0
  let s := (system.run oneWindow).get (by decide)
  have replay : system.run oneWindow = some s := (Option.some_get _).symm
  exact ⟨s, replay, by decide,
    (readings_reach_log _ _ _ 0 s (System.reachable_of_run replay)).1⟩

end SensorGateway.Gateway.Pipeline

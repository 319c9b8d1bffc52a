import SensorGateway.Engine.Steps
import SensorGateway.Gateway.Sections

/-! The gateway's dispatcher is the engine's, seen without its workers: whatever the engine's dispatcher
and workers do by themselves, the gateway does with the same effect on the source buffer, the engine's
flag and the output channel. -/

namespace SensorGateway.Gateway.Dispatch
open SensorGateway.Types SensorGateway.Lib.Transition Engine.Reduce Buffer.Manager Threads Sections
open Engine.Threads (AggregationConfig afterWorker_cases engine)
open Buffer.Threads (criticalSection moveThread moveThread_self threads)
variable {F : Type} {W : Nat}

/-- Where the engine's dispatcher is, seen without its workers. -/
def place : Engine.Threads.Dispatcher F W → Dispatcher
  | .exitFlag => .exitFlag
  | .exitShut => .exitShut
  | .exitLen => .exitLen
  | .drainedShut => .drainedShut
  | .drainedLen => .drainedLen
  | .pop => .pop
  | .route _ => .route
  | .expiry => .expiry
  | .rotate e _ => .emit e.final
  | .collect e _ _ => .emit e.final
  | .sendFrame e _ => .sendFrame e.final
  | .fail => .fail
  | .closing _ => .ended
  | .finished => .ended

/-- The gateway shows the engine, whose dispatcher is between two calls on the buffer. -/
structure Shows {readers : Nat} (g : State readers (ReadingEnvelope F)) (s : Engine.Threads.State F W) :
    Prop where
  dispatcher : g.dispatcher = place s.dispatcher
  flag : g.engineShutdown = s.shutdown
  sawData : g.sawData = s.sawData
  frames : g.frames = s.frames.length
  queue : g.buffer.inner.q = s.queue
  closed : g.buffer.inner.isShutdown = s.sourceShut
  outside : g.buffer.thread .dispatcher = .outside
  dropped : g.consumer = .done ↔ s.caller = .gone ∨ s.caller = .done

/-- The dispatcher or a worker moves, and a pop takes the reading that is there. -/
def Dispatching (s : Engine.Threads.State F W) : Engine.Threads.Action F W → Prop
  | .dispatcher go _ => place s.dispatcher = .pop → s.queue ≠ [] → go = true
  | .worker _ => True
  | _ => False

section Pop
variable {cfg : GatewayConfig} {g : State cfg.readers (ReadingEnvelope F)}
  {s : Engine.Threads.State F W}

theorem call_reaches (shows : Shows g s) (at_pc : s.dispatcher = .pop) :
    (gateway cfg).step g (.call .dispatcher) = some
      (lockStep g .dispatcher
        (SensorBufferManager.popTimeout cfg.sourcePopTimeout g.buffer.inner).1
        (SensorBufferManager.popTimeout cfg.sourcePopTimeout g.buffer.inner).2) := by
  have there : g.dispatcher = .pop := by rw [shows.dispatcher, at_pc]; rfl
  simp [gateway, step, nextCall, there, criticalSection, shows.outside, SensorBufferManager.enter]

theorem popped_shown (shows : Shows g s) (at_pc : s.dispatcher = .pop) {r : ReadingEnvelope F}
    {rest : List (ReadingEnvelope F)} (head : s.queue = r :: rest) :
    ∃ g', (gateway cfg).Reaches g g' ∧ Shows g'
      { s with
        dispatcher := .route r, queue := rest, window := s.window ++ [r], popped := s.popped ++ [r] } := by
  have section_eq : SensorBufferManager.popTimeout cfg.sourcePopTimeout g.buffer.inner =
      (.notifyOne .notFull (.popTimeout (some r)),
        { g.buffer.inner with q := rest, totalPopped := g.buffer.inner.totalPopped + 1 }) := by
    have queue : g.buffer.inner.q = r :: rest := shows.queue.trans head
    simp [SensorBufferManager.popTimeout, Inner.popFront, queue]
  have called := call_reaches shows at_pc
  rw [section_eq] at called
  obtain ⟨own, _⟩ := lockStep_thread g .dispatcher (.notifyOne .notFull (.popTimeout (some r)))
    { g.buffer.inner with q := rest, totalPopped := g.buffer.inner.totalPopped + 1 }
  obtain ⟨woken, buffer, notified, inner, _, outside⟩ := exists_notify own
  refine ⟨_, (System.Reaches.single called).tail notified, ?_⟩
  exact ⟨rfl, shows.flag, shows.sawData, shows.frames, congrArg Inner.q inner,
    (congrArg Inner.isShutdown inner).trans shows.closed, outside, shows.dropped⟩

/-- A pop that finds nothing returns at once or waits until its time is over. -/
theorem starved_shown (shows : Shows g s) (at_pc : s.dispatcher = .pop) (empty : s.queue = []) :
    ∃ g', (gateway cfg).Reaches g g' ∧ Shows g' { s with dispatcher := .expiry } := by
  have queue : g.buffer.inner.q = [] := shows.queue.trans empty
  have called := call_reaches shows at_pc
  by_cases idle : g.buffer.inner.isShutdown = false ∧ cfg.sourcePopTimeout ≠ 0
  · obtain ⟨isOpen, patient⟩ := idle
    have waits : SensorBufferManager.popTimeout cfg.sourcePopTimeout g.buffer.inner =
        (.wait (.popTimeout cfg.sourcePopTimeout),
          { g.buffer.inner with popWaitCount := g.buffer.inner.popWaitCount + 1 }) := by
      simp [SensorBufferManager.popTimeout, queue, isOpen, patient]
    rw [waits] at called
    let waiting := lockStep g .dispatcher (.wait (.popTimeout cfg.sourcePopTimeout))
      { g.buffer.inner with popWaitCount := g.buffer.inner.popWaitCount + 1 }
    let late := moveThread waiting.buffer .dispatcher (.ready (.popTimeout cfg.sourcePopTimeout) true)
    have inside : waiting.buffer.thread .dispatcher = .waiting (.popTimeout cfg.sourcePopTimeout) :=
      (lockStep_thread ..).1
    have timedOut : (gateway cfg).step waiting (.timeout .dispatcher) =
        some { waiting with buffer := late } := by
      simp [gateway, step, bufferStep, threads, Buffer.Threads.step, inside, late]
    have ready : late.thread .dispatcher = .ready (.popTimeout cfg.sourcePopTimeout) true :=
      moveThread_self ..
    have woken : (gateway cfg).step { waiting with buffer := late } (.wake .dispatcher 0) = some
        (lockStep { waiting with buffer := late } .dispatcher (.done (.popTimeout none))
          { late.inner with popWaitNsTotal := late.inner.popWaitNsTotal + 0 }) := by
      simp [gateway, step, criticalSection, ready, SensorBufferManager.resume]
    refine ⟨_, ((System.Reaches.single called).tail timedOut).tail woken, ?_⟩
    exact ⟨rfl, shows.flag, shows.sawData, shows.frames, shows.queue, shows.closed,
      (lockStep_thread ..).1, shows.dropped⟩
  · have ends : SensorBufferManager.popTimeout cfg.sourcePopTimeout g.buffer.inner =
        (.done (.popTimeout none), g.buffer.inner) := by
      unfold SensorBufferManager.popTimeout
      by_cases isOpen : g.buffer.inner.isShutdown = false
      · have hurried : cfg.sourcePopTimeout = 0 := by simpa [isOpen] using idle
        rw [if_pos ⟨queue, isOpen⟩, if_pos hurried]
      · rw [if_neg (fun both => isOpen both.2), Inner.popFront, queue]
    rw [ends] at called
    refine ⟨_, System.Reaches.single called, ?_⟩
    exact ⟨rfl, shows.flag, shows.sawData, shows.frames, shows.queue, shows.closed,
      (lockStep_thread ..).1, shows.dropped⟩

end Pop

section Simulation
variable [F64 F] {engineCfg : AggregationConfig F} {hash : String → Nat} {cfg : GatewayConfig}
  {g : State cfg.readers (ReadingEnvelope F)} {s next : Engine.Threads.State F engineCfg.workers}

omit [F64 F] in
/-- The gateway does not see inboxes, workers and reports. -/
theorem Shows.turn (shows : Shows g s) {pc : Dispatcher}
    {dispatcher : Engine.Threads.Dispatcher F engineCfg.workers} (same : pc = place dispatcher)
    {inbox : Fin engineCfg.workers → List (Engine.Threads.WorkerMsg F)}
    {worker : Fin engineCfg.workers → Engine.Threads.Worker F}
    {reports : List (Fin engineCfg.workers × WindowReport F)} :
    Shows { g with dispatcher := pc }
      { s with dispatcher := dispatcher, inbox := inbox, worker := worker, reports := reports } :=
  { shows with dispatcher := same }

omit [F64 F] in
/-- The dispatchers branch alike. -/
theorem Shows.branch (shows : Shows g s) {test test' : Prop} [Decidable test] [Decidable test']
    (alike : test ↔ test') {yes no : Engine.Threads.Dispatcher F engineCfg.workers} :
    Shows { g with dispatcher := if test then place yes else place no }
      { s with dispatcher := if test' then yes else no } := by
  apply shows.turn
  by_cases passed : test
  · rw [if_pos passed, if_pos (alike.mp passed)]
  · rw [if_neg passed, if_neg (fun other => passed (alike.mpr other))]

omit [F64 F] in
/-- The dispatcher takes one step outside the buffer. -/
theorem turn_reaches (shows : Shows g s) (go : Bool) {after : State cfg.readers (ReadingEnvelope F)}
    (moved : dispatcherStep cfg g go = some after) : (gateway cfg).Reaches g after := by
  have stepped : (gateway cfg).step g (.dispatcher go) = some after := by
    simp [gateway, step, free, shows.outside, moved]
  exact System.Reaches.single stepped

/-- What the dispatcher or a worker of the engine does, the gateway does in a number of steps. -/
theorem dispatching_shown (outputs : cfg.outputCapacity = engineCfg.outputCapacity)
    {action : Engine.Threads.Action F engineCfg.workers} (shows : Shows g s)
    (dispatching : Dispatching s action) (moved : Engine.Steps.Moves engineCfg hash s action next) :
    ∃ g', (gateway cfg).Reaches g g' ∧ Shows g' next := by
  have there := shows.dispatcher
  have turns : ∀ {t : Engine.Threads.State F engineCfg.workers} {after} (go : Bool),
      dispatcherStep cfg g go = some after → Shows after t →
      ∃ g', (gateway cfg).Reaches g g' ∧ Shows g' t :=
    fun go moved shown => ⟨_, turn_reaches shows go moved, shown⟩
  have stays : ∀ {t : Engine.Threads.State F engineCfg.workers}, Shows g t →
      ∃ g', (gateway cfg).Reaches g g' ∧ Shows g' t :=
    fun shown => ⟨g, System.ReachesUnder.refl g, shown⟩
  have room_iff : s.frames.length < engineCfg.outputCapacity → g.frames < cfg.outputCapacity := by
    rw [shows.frames, outputs]
    exact id
  cases moved with
  | exitFlag go now at_pc =>
    rw [at_pc] at there
    exact turns go (by rw [dispatcherStep, there]; rfl) (shows.branch (by rw [shows.flag]))
  | exitShut go now at_pc =>
    rw [at_pc] at there
    exact turns go (by rw [dispatcherStep, there]; rfl) (shows.branch (by rw [shows.closed]))
  | exitLen go now at_pc =>
    rw [at_pc] at there
    exact turns go (by rw [dispatcherStep, there]; rfl) (shows.branch (by rw [shows.queue]))
  | drainedShut go now at_pc =>
    rw [at_pc] at there
    exact turns go (by rw [dispatcherStep, there]; rfl) (shows.branch (by rw [shows.closed]))
  | drainedFinal go now at_pc empty saw =>
    rw [at_pc] at there
    refine turns go ?_ (shows.turn rfl)
    simp [dispatcherStep, there, place, shows.queue, empty, shows.sawData, saw]
  | drainedStop go now at_pc empty saw =>
    rw [at_pc] at there
    refine turns go ?_ (shows.turn rfl)
    simp [dispatcherStep, there, place, shows.queue, empty, shows.sawData, saw]
  | drainedMore go now at_pc more =>
    rw [at_pc] at there
    refine turns go ?_ (shows.turn rfl)
    simp [dispatcherStep, there, place, shows.queue, more]
  | popSome now r rest at_pc head => exact popped_shown shows at_pc head
  | popNone now at_pc =>
    by_cases empty : s.queue = []
    · exact starved_shown shows at_pc empty
    · cases dispatching (by rw [at_pc]; rfl) empty
  | routed go now r at_pc alive room =>
    rw [at_pc] at there
    refine turns true (by rw [dispatcherStep, there]; rfl) ?_
    exact { shows with dispatcher := rfl, sawData := rfl }
  | routeFailed go now r at_pc gone =>
    rw [at_pc] at there
    exact turns false (by rw [dispatcherStep, there]; rfl) (shows.turn rfl)
  | expired now at_pc =>
    rw [at_pc] at there
    exact turns true (by rw [dispatcherStep, there]; rfl) (shows.turn rfl)
  | unexpired now at_pc =>
    rw [at_pc] at there
    exact turns false (by rw [dispatcherStep, there]; rfl) (shows.turn rfl)
  | rotated go now e i at_pc alive room =>
    rw [at_pc] at there
    refine stays (shows.turn (there.trans ?_))
    exact (afterWorker_cases (motive := fun pc => place pc = .emit e.final) (fun _ _ => rfl)
      (fun _ => rfl)).symm
  | collected now e senders merged i rep rest at_pc head more =>
    rw [at_pc] at there
    refine stays (shows.turn ?_)
    exact there
  | completed now e senders merged i rep rest at_pc head last =>
    rw [at_pc] at there
    exact turns true (by rw [dispatcherStep, there]; rfl) (shows.turn rfl)
  | rotateFailed go now e i at_pc gone | collectFailed now e senders merged at_pc none =>
    rw [at_pc] at there
    exact turns false (by rw [dispatcherStep, there]; rfl) (shows.turn rfl)
  | sendFailed go now e frame at_pc closed =>
    rw [at_pc] at there
    refine turns go ?_ (shows.turn rfl)
    simp [dispatcherStep, there, place, shows.dropped.mpr closed]
  | sentFinal go now e frame at_pc room final heard =>
    rw [at_pc, place, final] at there
    have listens : g.consumer ≠ .done := fun done => heard (shows.dropped.mp done)
    have fits := room_iff room
    refine ⟨{ g with dispatcher := .ended, frames := g.frames + 1 }, turn_reaches shows go ?_, ?_⟩
    · simp [dispatcherStep, there, listens, fits]
    · refine { shows with dispatcher := rfl, frames := ?_ }
      simp [Engine.Threads.putFrame, shows.frames]
  | sent go now e frame at_pc room final heard =>
    rw [at_pc, place, final] at there
    have listens : g.consumer ≠ .done := fun done => heard (shows.dropped.mp done)
    have fits := room_iff room
    refine ⟨{ g with dispatcher := .exitFlag, frames := g.frames + 1, sawData := false },
      turn_reaches shows go ?_, ?_⟩
    · simp [dispatcherStep, there, listens, fits]
    · refine { shows with dispatcher := rfl, frames := ?_, sawData := rfl }
      simp [Engine.Threads.putFrame, shows.frames]
  | failed go now at_pc =>
    rw [at_pc] at there
    refine turns go (by rw [dispatcherStep, there]; rfl) ?_
    exact { shows with dispatcher := rfl, flag := rfl }
  | closed go now i at_pc | closedGone go now i at_pc =>
    rw [at_pc] at there
    refine stays (shows.turn (there.trans ?_))
    exact (afterWorker_cases (motive := fun pc => place pc = .ended) (fun _ _ => rfl)
      (fun _ => rfl)).symm
  | flagged | unflagged | data | rotate | dismissed | orphaned | unheard | reported =>
    exact stays (shows.turn there)
  | _ => exact dispatching.elim

theorem init_shown (cfg : GatewayConfig) (engineCfg : AggregationConfig F) (hash : String → Nat)
    (started : SystemTime) :
    Shows (gateway (T := ReadingEnvelope F) cfg).init (engine engineCfg hash started).init :=
  ⟨rfl, rfl, rfl, rfl, rfl, rfl, rfl, by simp [gateway, engine]⟩

/-- From a state of the gateway that shows the engine, every run of the engine's dispatcher and workers
is one of the gateway, which shows the engine again. -/
theorem engine_shown (outputs : cfg.outputCapacity = engineCfg.outputCapacity) {started : SystemTime}
    (run : (engine engineCfg hash started).ReachesUnder Dispatching s next) (shows : Shows g s) :
    ∃ g', (gateway cfg).Reaches g g' ∧ Shows g' next := by
  have simulated : System.SimulatedBy (engine engineCfg hash started) Dispatching (gateway cfg) Shows :=
    fun _ _ _ _ shows dispatching moved =>
      dispatching_shown outputs shows dispatching (Engine.Steps.step_moves engineCfg hash moved)
  exact simulated.run shows run

end Simulation

end SensorGateway.Gateway.Dispatch

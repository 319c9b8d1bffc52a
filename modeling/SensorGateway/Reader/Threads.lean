import SensorGateway.Buffer.Manager
import SensorGateway.Polling.Control
import SensorGateway.Queue.RoundQueueThreads

/-! One reader thread of `main.rs` with the sensor it owns. The sensor's generator thread writes into
the ring; the reader takes the readings out and pushes them into the shared buffer, which other
threads use as well. A call on the ring is one step. -/

namespace SensorGateway.Reader.Threads
open SensorGateway.Lib.Transition SensorGateway.Types
open Polling.Governor Polling.Control Queue.RoundQueue Queue.RoundQueueThreads Buffer.Manager

/-- `MAX_QUEUE_SIZE`. -/
def maxQueueSize : Nat := 128

inductive GeneratorPc where
  | testing
  | writing
  | sleeping
  | returned
  deriving DecidableEq, Repr

/-- A sensor that has been started. Readings carry the number of their write. -/
structure Sensor (R : Type) where
  queue : RWRoundQueue (Stamped R)
  running : Bool
  generator : GeneratorPc
  handle : Bool

inductive Resume where
  | command
  | stopFlag
  | failedPush
  | cleanUp
  deriving DecidableEq, Repr

inductive ReaderPc (R F : Type) where
  | commanding
  | stopping (resume : Resume)
  | joining (resume : Resume)
  | testingStop
  | probingBefore
  | reading
  | pushing (reading : Stamped R) (item : ReadingEnvelope F)
  | waiting (reading : Stamped R) (item : ReadingEnvelope F)
  /-- `push` has returned an error. -/
  | refused
  | probingAfter
  | reporting (availableAfter : Nat)
  | deciding (availableAfter : Nat)
  | sleeping
  | leaving
  | lastReport
  | finished
  | panicked

structure State (R F : Type) where
  sensor : Sensor R
  reader : ReaderPc R F
  control : ReaderControl
  governor : AdaptivePollingGovernor
  totalReads : Nat
  lastSuccessfulRead : SystemTime
  maxAvail : Nat
  stop : Bool
  /-- The commands the scheduler has sent and the reader has not taken. -/
  commands : List ReaderControlMode
  statuses : List ReaderStatus
  buffer : Inner (ReadingEnvelope F)
  /-- The readings written into the ring, and those of them that a later write has dropped. -/
  written : List (Stamped R)
  overwritten : List (Stamped R)
  /-- The readings taken from the ring, and those the buffer has accepted. -/
  taken : List (Stamped R)
  pushed : List (Stamped R × ReadingEnvelope F)

structure Clock where
  now : SystemTime
  instant : Instant

inductive Move (R F : Type) where
  | reader (clock : Clock)
  | wake (waited : Nat)
  /-- The generator's next step; `reading` is what it generates. -/
  | generator (reading : R)
  | command (mode : ReaderControlMode)
  | setStop (value : Bool)
  /-- A critical section of another thread's call on the buffer. -/
  | call (call : Call (ReadingEnvelope F))
  | resume (waited : Nat) (timedOut : Bool) (wait : Wait (ReadingEnvelope F))

structure ReaderConfig (R F : Type) where
  sid : String
  valueFn : R → F
  governorCfg : AdaptivePollingConfig
  manager : SensorBufferManager

variable {R F : Type} (cfg : ReaderConfig R F)

/-- `SensorBufferManager::stats`, as far as the governor and the scheduler read it. -/
def bufferStats (inner : Inner (ReadingEnvelope F)) : BufferStats :=
  ⟨cfg.manager.capacity, inner.q.length, inner.pushWaitNsTotal, inner.popWaitNsTotal⟩

def status (s : State R F) (now : SystemTime) (available : Nat) (isDraining : Bool) :
    ReaderStatus where
  sensorId := cfg.sid
  observedAt := now
  lastSuccessfulRead := s.lastSuccessfulRead
  available := available
  totalReads := s.totalReads
  isDraining := isDraining
  governor := s.governor.stats
  bufferFillRatio := s.buffer.q.length / cfg.manager.capacity
  pushWaitCount := s.buffer.pushWaitCount
  popWaitCount := s.buffer.popWaitCount

def resumeAt : Resume → ReaderPc R F
  | .command => .commanding
  | .stopFlag => .probingBefore
  | .failedPush => .probingAfter
  | .cleanUp => .lastReport

/-- The locals after `sensor.stop()`, or in its place if the sensor has been stopped before. -/
def afterStop (control : ReaderControl) (instant : Instant) : Resume → ReaderControl
  | .cleanUp => control
  | .command | .stopFlag | .failedPush => control.drain instant

/-- `if !sensor_stopped { sensor.stop(); .. }`. -/
def stopSensor (s : State R F) (instant : Instant) (resume : Resume) : State R F :=
  if s.control.sensorStopped then
    { s with control := afterStop s.control instant resume, reader := resumeAt resume }
  else { s with reader := .stopping resume }

def pushed (s : State R F) (reading : Stamped R) (item : ReadingEnvelope F)
    (result : Exit (ReadingEnvelope F) × Inner (ReadingEnvelope F)) : State R F :=
  match result with
  | (.wait _, inner) => { s with buffer := inner, reader := .waiting reading item }
  | (.notifyOne _ _, inner) =>
    { s with buffer := inner, reader := .reading, pushed := s.pushed ++ [(reading, item)] }
  | (.done _, inner) | (.notifyAll _, inner) => { s with buffer := inner, reader := .refused }

def readerStep (s : State R F) (clock : Clock) : Option (State R F) :=
  match s.reader with
  | .commanding =>
    match s.commands with
    | [] => some { s with reader := .testingStop }
    | mode :: rest =>
      if mode = .shutdownDrain then
        some (stopSensor { s with commands := rest, stop := true } clock.instant .command)
      else
        some { s with commands := rest,
                      control := s.control.obey cfg.governorCfg clock.instant mode }
  | .stopping resume =>
    some { s with sensor := { s.sensor with running := false }, reader := .joining resume }
  | .joining resume =>
    if s.sensor.handle = true ∧ s.sensor.generator ≠ .returned then none
    else
      some { s with sensor := { s.sensor with handle := false },
                    control := afterStop s.control clock.instant resume,
                    reader := resumeAt resume }
  | .testingStop =>
    if s.stop = true ∧ s.control.draining = false then
      some (stopSensor s clock.instant .stopFlag)
    else some { s with reader := .probingBefore }
  | .probingBefore =>
    some { s with maxAvail := max s.maxAvail s.sensor.queue.len, reader := .reading }
  | .reading =>
    match s.sensor.queue.tryRead with
    | .error _ => none
    | .ok (none, queue) => some { s with sensor := { s.sensor with queue }, reader := .probingAfter }
    | .ok (some reading, queue) =>
      some { s with sensor := { s.sensor with queue },
                    taken := s.taken ++ [reading],
                    totalReads := s.totalReads + 1,
                    lastSuccessfulRead := clock.now,
                    reader := .pushing reading ⟨cfg.sid, clock.now, cfg.valueFn reading.2⟩ }
  | .pushing reading item => some (pushed s reading item (cfg.manager.push item s.buffer))
  | .waiting _ _ => none
  | .refused => some (stopSensor { s with stop := true } clock.instant .failedPush)
  | .probingAfter =>
    let availableAfter := s.sensor.queue.len
    some { s with maxAvail := max s.maxAvail availableAfter, reader := .reporting availableAfter }
  | .reporting availableAfter =>
    match s.governor.updateWithOverride availableAfter (bufferStats cfg s.buffer)
        s.control.governorOverride with
    | none => some { s with reader := .panicked }
    | some (_, governor) =>
      let s := { s with governor }
      some { s with statuses := s.statuses ++ [status cfg s clock.now availableAfter s.control.draining],
                    reader := .deciding availableAfter }
  | .deciding availableAfter =>
    let timedOut : Prop := ∃ deadline ∈ s.control.drainDeadline, deadline ≤ clock.instant
    if s.control.draining = true ∧ (availableAfter = 0 ∨ timedOut) then
      some { s with reader := .leaving }
    else some { s with reader := .sleeping }
  | .sleeping => some { s with reader := .commanding }
  | .leaving =>
    if s.control.sensorStopped then some { s with reader := .lastReport }
    else some { s with reader := .stopping .cleanUp }
  | .lastReport =>
    some { s with statuses := s.statuses ++ [status cfg s clock.now s.sensor.queue.len true],
                  reader := .finished }
  | .finished | .panicked => none

/-- What a write drops: the oldest unread reading of a full ring. -/
def dropped (queue : RWRoundQueue (Stamped R)) (wasFull : Bool) : List (Stamped R) :=
  if wasFull then (queue.buffer[queue.readIdx]?).toList else []

def generatorStep (s : State R F) (reading : R) : Option (State R F) :=
  match s.sensor.generator with
  | .testing =>
    let next : GeneratorPc := if s.sensor.running then .writing else .returned
    some { s with sensor := { s.sensor with generator := next } }
  | .writing =>
    let entry := (s.written.length + 1, reading)
    match s.sensor.queue.writeOverwrite entry with
    | .error _ => none
    | .ok (wasFull, queue) =>
      some { s with sensor := { s.sensor with queue, generator := .sleeping },
                    written := s.written ++ [entry],
                    overwritten := s.overwritten ++ dropped s.sensor.queue wasFull }
  | .sleeping => some { s with sensor := { s.sensor with generator := .testing } }
  | .returned => none

def step (s : State R F) : Move R F → Option (State R F)
  | .reader clock => readerStep cfg s clock
  | .wake waited =>
    match s.reader with
    | .waiting reading item =>
      some (pushed s reading item (cfg.manager.resume s.buffer waited false (.push item)))
    | _ => none
  | .generator reading => generatorStep s reading
  | .command mode => some { s with commands := s.commands ++ [mode] }
  | .setStop value => some { s with stop := value }
  | .call call => some { s with buffer := (cfg.manager.enter s.buffer call).2 }
  | .resume waited timedOut wait =>
    some { s with buffer := (cfg.manager.resume s.buffer waited timedOut wait).2 }

/-- The reader at the head of its loop; its sensor has been started. -/
def reader [Inhabited R] (now : SystemTime) : System (State R F) (Move R F) where
  init := {
    sensor := ⟨⟨List.replicate maxQueueSize default, maxQueueSize, 0, 0⟩, true, .testing, true⟩
    reader := .commanding
    control := .start
    governor := .new cfg.governorCfg
    totalReads := 0
    lastSuccessfulRead := now
    maxAvail := 0
    stop := false
    commands := []
    statuses := []
    buffer := .new
    written := []
    overwritten := []
    taken := []
    pushed := [] }
  step := step cfg

inductive GeneratorActs (s : State R F) (reading : R) : State R F → Prop
  | tested (pc : s.sensor.generator = .testing) :
      GeneratorActs s reading { s with
        sensor := { s.sensor with generator := if s.sensor.running then .writing else .returned } }
  | wrote (wasFull : Bool) (queue : RWRoundQueue (Stamped R)) (pc : s.sensor.generator = .writing)
      (write : s.sensor.queue.writeOverwrite (s.written.length + 1, reading) = .ok (wasFull, queue)) :
      GeneratorActs s reading { s with
        sensor := { s.sensor with queue, generator := .sleeping }
        written := s.written ++ [(s.written.length + 1, reading)]
        overwritten := s.overwritten ++ dropped s.sensor.queue wasFull }
  | slept (pc : s.sensor.generator = .sleeping) :
      GeneratorActs s reading { s with sensor := { s.sensor with generator := .testing } }

/-- Everything a step of the reader can do, with the tests it has made. -/
inductive ReaderActs (s : State R F) (clock : Clock) : State R F → Prop
  | listened (pc : s.reader = .commanding) (none : s.commands = []) :
      ReaderActs s clock { s with reader := .testingStop }
  | shutDown (rest : List ReaderControlMode) (pc : s.reader = .commanding)
      (first : s.commands = .shutdownDrain :: rest) :
      ReaderActs s clock
        (stopSensor { s with commands := rest, stop := true } clock.instant .command)
  | obeyed (mode : ReaderControlMode) (rest : List ReaderControlMode) (pc : s.reader = .commanding)
      (first : s.commands = mode :: rest) (other : mode ≠ .shutdownDrain) :
      ReaderActs s clock { s with
        commands := rest, control := s.control.obey cfg.governorCfg clock.instant mode,
        reader := .commanding }
  | signalled (resume : Resume) (pc : s.reader = .stopping resume) :
      ReaderActs s clock
        { s with sensor := { s.sensor with running := false }, reader := .joining resume }
  | joined (resume : Resume) (pc : s.reader = .joining resume)
      (free : ¬(s.sensor.handle = true ∧ s.sensor.generator ≠ .returned)) :
      ReaderActs s clock { s with
        sensor := { s.sensor with handle := false },
        control := afterStop s.control clock.instant resume, reader := resumeAt resume }
  | stopFlagged (pc : s.reader = .testingStop)
      (flagged : s.stop = true ∧ s.control.draining = false) :
      ReaderActs s clock (stopSensor s clock.instant .stopFlag)
  | passed (pc : s.reader = .testingStop) : ReaderActs s clock { s with reader := .probingBefore }
  | probed (pc : s.reader = .probingBefore) :
      ReaderActs s clock
        { s with maxAvail := max s.maxAvail s.sensor.queue.len, reader := .reading }
  | foundEmpty (queue : RWRoundQueue (Stamped R)) (pc : s.reader = .reading)
      (read : s.sensor.queue.tryRead = .ok (none, queue)) :
      ReaderActs s clock { s with sensor := { s.sensor with queue }, reader := .probingAfter }
  | took (reading : Stamped R) (queue : RWRoundQueue (Stamped R)) (pc : s.reader = .reading)
      (read : s.sensor.queue.tryRead = .ok (some reading, queue)) :
      ReaderActs s clock { s with
        sensor := { s.sensor with queue }, taken := s.taken ++ [reading],
        totalReads := s.totalReads + 1, lastSuccessfulRead := clock.now,
        reader := .pushing reading ⟨cfg.sid, clock.now, cfg.valueFn reading.2⟩ }
  | push (reading : Stamped R) (item : ReadingEnvelope F) (pc : s.reader = .pushing reading item) :
      ReaderActs s clock (pushed s reading item (cfg.manager.push item s.buffer))
  | gaveUp (pc : s.reader = .refused) :
      ReaderActs s clock (stopSensor { s with stop := true } clock.instant .failedPush)
  | probedAgain (pc : s.reader = .probingAfter) :
      ReaderActs s clock { s with
        maxAvail := max s.maxAvail s.sensor.queue.len, reader := .reporting s.sensor.queue.len }
  | panicked (availableAfter : Nat) (pc : s.reader = .reporting availableAfter)
      (update : s.governor.updateWithOverride availableAfter (bufferStats cfg s.buffer)
        s.control.governorOverride = none) : ReaderActs s clock { s with reader := .panicked }
  | reported (availableAfter : Nat) (sleepUs : UInt64) (governor : AdaptivePollingGovernor)
      (pc : s.reader = .reporting availableAfter)
      (update : s.governor.updateWithOverride availableAfter (bufferStats cfg s.buffer)
        s.control.governorOverride = some (sleepUs, governor)) :
      ReaderActs s clock { s with
        governor
        statuses := s.statuses ++
          [status cfg { s with governor } clock.now availableAfter s.control.draining]
        reader := .deciding availableAfter }
  | left (availableAfter : Nat) (pc : s.reader = .deciding availableAfter)
      (ends : s.control.draining = true ∧
        (availableAfter = 0 ∨ ∃ deadline ∈ s.control.drainDeadline, deadline ≤ clock.instant)) :
      ReaderActs s clock { s with reader := .leaving }
  | stayed (availableAfter : Nat) (pc : s.reader = .deciding availableAfter)
      (going : ¬(s.control.draining = true ∧
        (availableAfter = 0 ∨ ∃ deadline ∈ s.control.drainDeadline, deadline ≤ clock.instant))) :
      ReaderActs s clock { s with reader := .sleeping }
  | woke (pc : s.reader = .sleeping) : ReaderActs s clock { s with reader := .commanding }
  | cleaned (pc : s.reader = .leaving) (stopped : s.control.sensorStopped = true) :
      ReaderActs s clock { s with reader := .lastReport }
  | stopsLast (pc : s.reader = .leaving) (going : s.control.sensorStopped = false) :
      ReaderActs s clock { s with reader := .stopping .cleanUp }
  | lastReported (pc : s.reader = .lastReport) :
      ReaderActs s clock { s with
        statuses := s.statuses ++ [status cfg s clock.now s.sensor.queue.len true]
        reader := .finished }

variable {cfg} {s t : State R F}

theorem generatorStep_acts {reading : R} (moved : generatorStep s reading = some t) :
    GeneratorActs s reading t := by
  unfold generatorStep at moved
  cases pc : s.sensor.generator with
  | testing =>
    simp only [pc, Option.some.injEq] at moved
    exact moved ▸ .tested pc
  | writing =>
    simp only [pc] at moved
    split at moved
    next => cases moved
    next wasFull queue write => exact Option.some.inj moved ▸ .wrote wasFull queue pc write
  | sleeping =>
    simp only [pc, Option.some.injEq] at moved
    exact moved ▸ .slept pc
  | returned => simp only [pc, reduceCtorEq] at moved

theorem GeneratorActs.running {reading : R} (acts : GeneratorActs s reading t) :
    s.sensor.generator ≠ .returned := by
  cases acts with
  | tested pc | wrote _ _ pc | slept pc =>
    rw [pc]
    exact GeneratorPc.noConfusion

theorem readerStep_acts {clock : Clock} (moved : readerStep cfg s clock = some t) :
    ReaderActs cfg s clock t := by
  unfold readerStep at moved
  cases pc : s.reader with
  | commanding =>
    simp only [pc] at moved
    split at moved
    next none => exact Option.some.inj moved ▸ .listened pc none
    next mode rest first =>
      split at moved
      next same => exact Option.some.inj moved ▸ .shutDown rest pc (same ▸ first)
      next other => exact Option.some.inj moved ▸ .obeyed mode rest pc first other
  | stopping resume =>
    simp only [pc, Option.some.injEq] at moved
    exact moved ▸ .signalled resume pc
  | joining resume =>
    simp only [pc] at moved
    split at moved
    next => cases moved
    next free => exact Option.some.inj moved ▸ .joined resume pc free
  | testingStop =>
    simp only [pc] at moved
    split at moved
    next flagged => exact Option.some.inj moved ▸ .stopFlagged pc flagged
    next => exact Option.some.inj moved ▸ .passed pc
  | probingBefore =>
    simp only [pc, Option.some.injEq] at moved
    exact moved ▸ .probed pc
  | reading =>
    simp only [pc] at moved
    split at moved
    next => cases moved
    next queue read => exact Option.some.inj moved ▸ .foundEmpty queue pc read
    next reading queue read => exact Option.some.inj moved ▸ .took reading queue pc read
  | pushing reading item =>
    simp only [pc, Option.some.injEq] at moved
    exact moved ▸ .push reading item pc
  | refused =>
    simp only [pc, Option.some.injEq] at moved
    exact moved ▸ .gaveUp pc
  | probingAfter =>
    simp only [pc, Option.some.injEq] at moved
    exact moved ▸ .probedAgain pc
  | reporting availableAfter =>
    simp only [pc] at moved
    split at moved
    next update => exact Option.some.inj moved ▸ .panicked availableAfter pc update
    next sleepUs governor update =>
      exact Option.some.inj moved ▸ .reported availableAfter sleepUs governor pc update
  | deciding availableAfter =>
    simp only [pc] at moved
    split at moved
    next ends => exact Option.some.inj moved ▸ .left availableAfter pc ends
    next going => exact Option.some.inj moved ▸ .stayed availableAfter pc going
  | sleeping =>
    simp only [pc, Option.some.injEq] at moved
    exact moved ▸ .woke pc
  | leaving =>
    simp only [pc] at moved
    split at moved
    next stopped => exact Option.some.inj moved ▸ .cleaned pc stopped
    next going => exact Option.some.inj moved ▸ .stopsLast pc (Bool.eq_false_of_not_eq_true going)
  | lastReport =>
    simp only [pc, Option.some.injEq] at moved
    exact moved ▸ .lastReported pc
  | waiting _ _ | finished | panicked => simp only [pc, reduceCtorEq] at moved

end SensorGateway.Reader.Threads

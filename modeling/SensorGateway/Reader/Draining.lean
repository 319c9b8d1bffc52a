import SensorGateway.Polling.ControlAgreement
import SensorGateway.Reader.Drain

/-! What holds once a reader drains. It drains to the end under the deadline it began with, and it has
stopped its generator once. A command taken later may still replace the override, but a reader
that keeps draining for another turn has a closed buffer and readings left, so its next push
fails and sets the override again before the governor looks at it. -/

namespace SensorGateway.Reader.Draining
open SensorGateway.Lib.Transition SensorGateway.Types
open Polling.Governor Polling.Control Queue.RoundQueue Buffer.Manager
open Queue.RoundQueueThreads (Stamped)
open Reader.Drain (Stopped)
open Reader.Threads

variable {R F : Type} {cfg : ReaderConfig R F} {s t : State R F}

/-- Everything a step can do to the variables that a command changes. -/
inductive ControlMove (cfg : ReaderConfig R F) (c : ReaderControl) : ReaderControl → Prop
  | same : ControlMove cfg c c
  | obey (mode : ReaderControlMode) (instant : Instant) (other : mode ≠ .shutdownDrain) :
      ControlMove cfg c (c.obey cfg.governorCfg instant mode)
  | drain (instant : Instant) : ControlMove cfg c (c.drain instant)

theorem afterStop_move (c : ReaderControl) (instant : Instant) (resume : Resume) :
    ControlMove cfg c (afterStop c instant resume) := by
  cases resume with
  | cleanUp => exact .same
  | command | stopFlag | failedPush => exact .drain instant

theorem stopSensor_move (s : State R F) (instant : Instant) (resume : Resume) :
    ControlMove cfg s.control (stopSensor s instant resume).control := by
  unfold stopSensor
  split
  · exact afterStop_move s.control instant resume
  · exact .same

theorem pushed_control (s : State R F) (reading : Stamped R) (item : ReadingEnvelope F)
    (result : Exit (ReadingEnvelope F) × Inner (ReadingEnvelope F)) :
    (pushed s reading item result).control = s.control := by
  unfold pushed
  split <;> rfl

/-- What the generator leaves alone. -/
structure GeneratorFrame (s t : State R F) : Prop where
  control : t.control = s.control
  reader : t.reader = s.reader
  commands : t.commands = s.commands
  buffer : t.buffer = s.buffer
  handle : t.sensor.handle = s.sensor.handle

theorem generator_frame {reading : R} (moved : generatorStep s reading = some t) :
    GeneratorFrame s t := by
  cases generatorStep_acts moved with
  | tested | wrote | slept => exact ⟨rfl, rfl, rfl, rfl, rfl⟩

theorem readerStep_control {clock : Clock} (moved : readerStep cfg s clock = some t) :
    ControlMove cfg s.control t.control := by
  cases readerStep_acts moved with
  | shutDown rest =>
    exact stopSensor_move { s with commands := rest, stop := true } clock.instant .command
  | obeyed mode rest pc first other => exact .obey mode clock.instant other
  | joined resume => exact afterStop_move s.control clock.instant resume
  | stopFlagged => exact stopSensor_move s clock.instant .stopFlag
  | push reading item =>
    rw [pushed_control]
    exact .same
  | gaveUp => exact stopSensor_move { s with stop := true } clock.instant .failedPush
  | listened | signalled | passed | probed | foundEmpty | took | probedAgain | panicked | reported
  | left | stayed | woke | cleaned | stopsLast | lastReported => exact .same

theorem step_control {move : Move R F} (moved : step cfg s move = some t) :
    ControlMove cfg s.control t.control := by
  cases move with
  | reader clock => exact readerStep_control moved
  | wake waited =>
    cases pc : s.reader <;> simp only [step, pc, Option.some.injEq, reduceCtorEq] at moved
    rw [← moved, pushed_control]
    exact .same
  | generator reading =>
    rw [(generator_frame moved).control]
    exact .same
  | command _ | setStop _ | call _ | resume _ _ _ =>
    rw [← Option.some.inj moved]
    exact .same

/-- A reader that drains has stopped its sensor and has a deadline. -/
structure Begun (c : ReaderControl) : Prop where
  stopped : c.draining = true → c.sensorStopped = true
  deadline : c.draining = true → c.drainDeadline.isSome = true

theorem ControlMove.begun {c c' : ReaderControl} (move : ControlMove cfg c c') (begun : Begun c) :
    Begun c' := by
  cases move with
  | same => exact begun
  | obey mode instant other =>
    cases mode with
    | shutdownDrain => exact absurd rfl other
    | automatic | clampToNominal | forceFastRecovery => exact ⟨begun.stopped, begun.deadline⟩
  | drain instant => exact ⟨fun _ => rfl, fun _ => rfl⟩

/-- What a drain never takes back. -/
structure Permanent (c c' : ReaderControl) : Prop where
  draining : c.draining = true → c'.draining = true
  deadline : ∀ deadline, c.drainDeadline = some deadline → c'.drainDeadline = some deadline
  stopped : c.sensorStopped = true → c'.sensorStopped = true

theorem ControlMove.permanent {c c' : ReaderControl} (move : ControlMove cfg c c') :
    Permanent c c' := by
  cases move with
  | same => exact ⟨id, fun _ => id, id⟩
  | obey mode instant other =>
    cases mode with
    | shutdownDrain => exact absurd rfl other
    | automatic | clampToNominal | forceFastRecovery => exact ⟨id, fun _ => id, id⟩
  | drain instant => exact ⟨fun _ => rfl, fun _ set => by rw [ReaderControl.drain, set]; rfl, fun _ => rfl⟩

/-! The calls of `sensor.stop()`. -/

/-- The step begins a call of `sensor.stop()`. -/
def callsStop (s : State R F) : Move R F → Bool
  | .reader _ =>
    match s.reader with
    | .stopping _ => true
    | _ => false
  | _ => false

/-- The sensor has been stopped, or its generator is being joined. -/
def hasStopped (c : ReaderControl) (pc : ReaderPc R F) : Bool :=
  match pc with
  | .joining _ => true
  | _ => c.sensorStopped

/-- Where the reader stops the sensor, it has not done so before; behind its loop it has. -/
def StopsOnce (c : ReaderControl) : ReaderPc R F → Prop
  | .stopping resume => c.sensorStopped = false ∧ resume ≠ .cleanUp
  | .joining resume => resume ≠ .cleanUp
  | .leaving | .lastReport | .finished => c.sensorStopped = true
  | _ => True

/-- `hasStopped` and the number of calls so far grow together. -/
structure Counted (s : State R F) (called : Bool) (t : State R F) : Prop where
  once : StopsOnce t.control t.reader
  before : called = true → hasStopped s.control s.reader = false
  after : hasStopped t.control t.reader = (hasStopped s.control s.reader || called)

theorem resume_counted {resume : Resume} (loop : resume ≠ .cleanUp) (s : State R F)
    (instant : Instant) :
    let t := { s with control := afterStop s.control instant resume, reader := resumeAt resume }
    StopsOnce t.control t.reader ∧ hasStopped t.control t.reader = true := by
  cases resume with
  | cleanUp => exact absurd rfl loop
  | command | stopFlag | failedPush => exact ⟨trivial, rfl⟩

theorem stopSensor_counted {resume : Resume} (loop : resume ≠ .cleanUp) (s : State R F)
    (instant : Instant) :
    let t := stopSensor s instant resume
    StopsOnce t.control t.reader ∧ hasStopped t.control t.reader = s.control.sensorStopped := by
  unfold stopSensor
  cases stopped : s.control.sensorStopped with
  | true => exact resume_counted loop s instant
  | false => exact ⟨⟨stopped, loop⟩, stopped⟩

/-- A step that calls nothing. -/
theorem Counted.quiet {called : Bool} (none : called = false)
    (once : StopsOnce t.control t.reader)
    (same : hasStopped t.control t.reader = hasStopped s.control s.reader) : Counted s called t :=
  ⟨once, fun call => absurd call (by rw [none]; exact Bool.false_ne_true),
    by rw [same, none, Bool.or_false]⟩

theorem readerStep_counted {clock : Clock} (begun : Begun s.control)
    (once : StopsOnce s.control s.reader) (moved : readerStep cfg s clock = some t) :
    Counted s (callsStop s (.reader clock)) t := by
  obtain ⟨sensor, reader, control, governor, totalReads, lastSuccessfulRead, maxAvail, stop,
    commands, statuses, buffer, written, overwritten, taken, pushed⟩ := s
  cases readerStep_acts moved with
  | shutDown rest pc =>
    cases pc
    obtain ⟨free, same⟩ := stopSensor_counted (show Resume.command ≠ .cleanUp by decide) _ clock.instant
    exact .quiet rfl free same
  | obeyed mode rest pc first other =>
    cases pc
    refine .quiet rfl trivial ?_
    cases mode with
    | shutdownDrain => exact absurd rfl other
    | automatic | clampToNominal | forceFastRecovery => rfl
  | signalled resume pc =>
    cases pc
    exact ⟨once.2, fun _ => once.1, (Bool.or_true _).symm⟩
  | joined resume pc =>
    cases pc
    obtain ⟨free, after⟩ := resume_counted once ⟨{ sensor with handle := false }, .joining resume,
      control, governor, totalReads, lastSuccessfulRead, maxAvail, stop, commands, statuses, buffer,
      written, overwritten, taken, pushed⟩ clock.instant
    exact .quiet rfl free after
  | stopFlagged pc =>
    cases pc
    obtain ⟨free, same⟩ := stopSensor_counted (show Resume.stopFlag ≠ .cleanUp by decide) _ clock.instant
    exact .quiet rfl free same
  | push reading item pc =>
    cases pc
    unfold Threads.pushed
    split <;> exact .quiet rfl trivial rfl
  | gaveUp pc =>
    cases pc
    obtain ⟨free, same⟩ := stopSensor_counted (show Resume.failedPush ≠ .cleanUp by decide) _ clock.instant
    exact .quiet rfl free same
  | left availableAfter pc ends =>
    cases pc
    exact .quiet rfl (begun.stopped ends.1) rfl
  | stopsLast pc going =>
    cases pc
    exact absurd (going.symm.trans once) Bool.false_ne_true
  | cleaned pc | lastReported pc =>
    cases pc
    exact .quiet rfl once rfl
  | listened pc | passed pc | probed pc | foundEmpty _ pc | took _ _ pc | probedAgain pc
  | panicked _ pc | reported _ _ _ pc | stayed _ pc | woke pc =>
    cases pc
    exact .quiet rfl trivial rfl

theorem step_counted {move : Move R F} (begun : Begun s.control) (once : StopsOnce s.control s.reader)
    (moved : step cfg s move = some t) : Counted s (callsStop s move) t := by
  cases move with
  | reader clock => exact readerStep_counted begun once moved
  | wake waited =>
    cases pc : s.reader <;> simp only [step, pc, Option.some.injEq, reduceCtorEq] at moved
    rw [← moved]
    unfold pushed
    split <;> exact .quiet rfl trivial (by simp only [hasStopped, pc])
  | generator reading =>
    have frame := generator_frame moved
    exact .quiet rfl (by rw [frame.control, frame.reader]; exact once)
      (by rw [frame.control, frame.reader])
  | command _ | setStop _ | call _ | resume _ _ _ =>
    rw [← Option.some.inj moved]
    exact .quiet rfl once rfl

theorem reachable_once [Inhabited R] {now : SystemTime} (reach : (reader cfg now).Reachable s) :
    Begun s.control ∧ StopsOnce s.control s.reader := by
  apply System.Reaches.invariant reach (fun s => Begun s.control ∧ StopsOnce s.control s.reader)
  · exact ⟨⟨nofun, nofun⟩, trivial⟩
  · intro u move v held moved
    exact ⟨(step_control moved).begun held.1, (step_counted held.1 held.2 moved).once⟩

/-- A run calls `sensor.stop()` once if the sensor has been stopped at its end, and not at all before. -/
theorem stop_calls [Inhabited R] {now : SystemTime} {schedule : List (Move R F)}
    (runs : (reader cfg now).run schedule = some s) :
    (reader cfg now).countFrom callsStop (reader cfg now).init schedule =
      if hasStopped s.control s.reader then 1 else 0 := by
  let measure (s : State R F) : Nat := if hasStopped s.control s.reader then 1 else 0
  have grows : ∀ u move v, (reader cfg now).Reachable u → (reader cfg now).step u move = some v →
      measure v = measure u + if callsStop u move then 1 else 0 := by
    intro u move v reach moved
    obtain ⟨begun, once⟩ := reachable_once reach
    have counted := step_counted begun once moved
    cases called : callsStop u move with
    | true => simp [measure, counted.after, counted.before called, called]
    | false => simp [measure, counted.after, called]
  have measured := System.measure_eq_count measure grows (System.ReachesUnder.refl _) runs
  rw [show (if hasStopped s.control s.reader then 1 else 0) = measure s from rfl, measured]
  exact (Nat.zero_add _).symm

def Fast (c : ReaderControl) : Prop := c.governorOverride = .forceFastRecovery

/-- No command on the way takes the fast recovery back. -/
def Spared (modes : List ReaderControlMode) : Prop :=
  ∀ mode ∈ modes, mode ≠ .automatic ∧ mode ≠ .clampToNominal

/-- The next read finds a reading and its push fails. -/
def Backlog (shut : Bool) (queue : RWRoundQueue (Stamped R)) : Prop :=
  shut = true ∧ queue.readIdx ≠ queue.writeIdx

/-- Why the reader is stopping its sensor. -/
def Cause (shut : Bool) (modes : List ReaderControlMode) : Resume → Prop
  | .command => Spared modes
  | .failedPush => shut = true
  | .stopFlag | .cleanUp => True

/-- What keeps the governor fast while the reader drains. `modes` are the commands that the reader
has still to take. -/
def Ready (c : ReaderControl) (queue : RWRoundQueue (Stamped R)) (shut : Bool)
    (modes : List ReaderControlMode) : ReaderPc R F → Prop
  | .commanding => c.draining = true → Backlog shut queue ∨ Fast c ∧ Spared modes
  | .stopping resume | .joining resume => Cause shut modes resume
  | .testingStop | .probingBefore | .reading => c.draining = true → Backlog shut queue ∨ Fast c
  | .pushing _ _ | .waiting _ _ => c.draining = true → shut = true ∨ Fast c
  | .refused => shut = true
  | .probingAfter => c.draining = true → Fast c ∧ (shut = true ∨ queue.readIdx = queue.writeIdx)
  | .reporting availableAfter =>
    c.draining = true → Fast c ∧ (availableAfter = 0 ∨ Backlog shut queue)
  | .deciding availableAfter => c.draining = true → availableAfter = 0 ∨ Backlog shut queue
  | .sleeping => c.draining = true → Backlog shut queue
  | .leaving | .lastReport | .finished | .panicked => True

structure Steady (s : State R F) (coming : List ReaderControlMode) : Prop where
  order : DrainLast (s.commands ++ coming)
  stopped : Stopped s.control s.sensor
  ready : Ready s.control s.sensor.queue s.buffer.isShutdown (s.commands ++ coming) s.reader

/-- Closing the buffer takes nothing away. -/
theorem Ready.close {c : ReaderControl} {queue : RWRoundQueue (Stamped R)} {shut shut' : Bool}
    {modes : List ReaderControlMode} {pc : ReaderPc R F} (ready : Ready c queue shut modes pc)
    (later : shut = true → shut' = true) : Ready c queue shut' modes pc := by
  have backlog : Backlog shut queue → Backlog shut' queue := fun held => ⟨later held.1, held.2⟩
  cases pc with
  | commanding | testingStop | probingBefore | reading =>
    exact fun drains => (ready drains).imp_left backlog
  | stopping resume | joining resume =>
    cases resume with
    | failedPush => exact later ready
    | command | stopFlag | cleanUp => exact ready
  | pushing _ _ | waiting _ _ => exact fun drains => (ready drains).imp_left later
  | refused => exact later ready
  | probingAfter => exact fun drains => (ready drains).imp_right (Or.imp_left later)
  | reporting _ => exact fun drains => (ready drains).imp_right (Or.imp_right backlog)
  | deciding _ => exact fun drains => (ready drains).imp_right backlog
  | sleeping => exact fun drains => backlog (ready drains)
  | leaving | lastReport | finished | panicked => trivial

/-- A reader that does not drain relies on nothing about the ring. -/
theorem Ready.write {c : ReaderControl} {queue : RWRoundQueue (Stamped R)} {shut : Bool}
    {modes : List ReaderControlMode} {pc : ReaderPc R F} (ready : Ready c queue shut modes pc)
    (going : c.draining = false) (queue' : RWRoundQueue (Stamped R)) : Ready c queue' shut modes pc := by
  have idle : ¬ c.draining = true := by rw [going]; exact Bool.false_ne_true
  cases pc with
  | stopping _ | joining _ | refused => exact ready
  | leaving | lastReport | finished | panicked => trivial
  | commanding | testingStop | probingBefore | reading | pushing _ _ | waiting _ _ | probingAfter
  | reporting _ | deciding _ | sleeping => exact fun drains => absurd drains idle

theorem resume_ready {shut : Bool} {modes : List ReaderControlMode} {resume : Resume}
    (cause : Cause shut modes resume) (c : ReaderControl) (queue : RWRoundQueue (Stamped R))
    (instant : Instant) :
    Ready (F := F) (afterStop c instant resume) queue shut modes (resumeAt resume) := by
  cases resume with
  | command => exact fun _ => Or.inr ⟨rfl, cause⟩
  | stopFlag => exact fun _ => Or.inr rfl
  | failedPush => exact fun _ => ⟨rfl, Or.inl cause⟩
  | cleanUp => trivial

theorem afterStop_stopped {c : ReaderControl} {sensor : Sensor R} (stopped : Stopped c sensor)
    (joined : sensor.handle = false) (instant : Instant) (resume : Resume) :
    Stopped (afterStop c instant resume) sensor := by
  cases resume with
  | cleanUp => exact stopped
  | command | stopFlag | failedPush => exact stopped.drain joined instant

/-- From the head of the loop on, a drain needs the sensor stopped for one of its causes. -/
theorem stopSensor_steady {coming : List ReaderControlMode} {resume : Resume}
    (order : DrainLast (s.commands ++ coming)) (stopped : Stopped s.control s.sensor)
    (cause : Cause s.buffer.isShutdown (s.commands ++ coming) resume) (instant : Instant) :
    Steady (stopSensor s instant resume) coming := by
  unfold stopSensor
  split
  · next already =>
    exact ⟨order, afterStop_stopped stopped (stopped.stopped already) instant resume,
      resume_ready cause s.control s.sensor.queue instant⟩
  · exact ⟨order, stopped, cause⟩

/-- How a critical section of `push` ends, by whether the buffer is shut down. -/
structure PushEnds (shut : Bool) (result : Exit (ReadingEnvelope F) × Inner (ReadingEnvelope F)) :
    Prop where
  flag : result.2.isShutdown = shut
  refuses : ∀ d, result.1 = .done d → shut = true
  accepts : ∀ condvar d, result.1 = .notifyOne condvar d → shut = false
  nothingElse : ∀ d, result.1 ≠ .notifyAll d

theorem pushLoop_ends (manager : SensorBufferManager) (item : ReadingEnvelope F)
    (inner : Inner (ReadingEnvelope F)) : PushEnds inner.isShutdown (manager.pushLoop item inner) := by
  refine ⟨pushLoop_isShutdown manager item inner, ?_, ?_, ?_⟩ <;>
    unfold SensorBufferManager.pushLoop
  · intro d ends
    by_contra running
    rw [Bool.not_eq_true] at running
    split at ends
    · simp at ends
    · simp [running] at ends
  · intro condvar d ends
    by_contra shut
    rw [Bool.not_eq_false] at shut
    simp [shut] at ends
  · intro d
    split
    · simp
    · split <;> simp

theorem push_ends (manager : SensorBufferManager) (item : ReadingEnvelope F)
    (inner : Inner (ReadingEnvelope F)) : PushEnds inner.isShutdown (manager.push item inner) := by
  unfold SensorBufferManager.push
  split
  · next shut =>
    exact ⟨rfl, fun _ _ => shut, fun _ _ ends => by simp at ends, fun _ ends => by simp at ends⟩
  · exact pushLoop_ends manager item inner

/-- Only an open buffer accepts, and a reader that drains without haste has a closed one. -/
theorem pushed_steady {coming : List ReaderControlMode} {reading : Stamped R}
    {item : ReadingEnvelope F} {result : Exit (ReadingEnvelope F) × Inner (ReadingEnvelope F)}
    (steady : Steady s coming) (ends : PushEnds s.buffer.isShutdown result)
    (haste : s.control.draining = true → s.buffer.isShutdown = true ∨ Fast s.control) :
    Steady (pushed s reading item result) coming := by
  obtain ⟨exit, inner⟩ := result
  have flag : inner.isShutdown = s.buffer.isShutdown := ends.flag
  cases exit with
  | wait w => exact ⟨steady.order, steady.stopped, fun drains => (haste drains).imp_left flag.trans⟩
  | done d => exact ⟨steady.order, steady.stopped, flag.trans (ends.refuses d rfl)⟩
  | notifyOne condvar d =>
    have running := ends.accepts condvar d rfl
    refine ⟨steady.order, steady.stopped, fun drains => Or.inr ?_⟩
    exact (haste drains).resolve_left (by rw [running]; exact Bool.false_ne_true)
  | notifyAll d => exact absurd rfl (ends.nothingElse d)

/-- The reader moves on to another place. -/
theorem Steady.goto {coming : List ReaderControlMode} (steady : Steady s coming)
    {control : ReaderControl} (stopped : Stopped control s.sensor) {next : ReaderPc R F}
    (ready : Ready control s.sensor.queue s.buffer.isShutdown (s.commands ++ coming) next) :
    Steady { s with control, reader := next } coming :=
  ⟨steady.order, stopped, ready⟩

/-- A command other than `ShutdownDrain` that is taken while the reader drains: either the next push
fails anyhow, or it is no command that takes the fast recovery back. -/
theorem obey_ready {modes : List ReaderControlMode} {mode : ReaderControlMode} {c : ReaderControl}
    {queue : RWRoundQueue (Stamped R)} {shut : Bool} (other : mode ≠ .shutdownDrain)
    (ready : c.draining = true → Backlog shut queue ∨ Fast c ∧ Spared (mode :: modes))
    (governorCfg : AdaptivePollingConfig) (instant : Instant) :
    Ready (F := F) (c.obey governorCfg instant mode) queue shut modes .commanding := by
  intro drains
  have before : c.draining = true := by
    cases mode with
    | shutdownDrain => exact absurd rfl other
    | automatic | clampToNominal | forceFastRecovery => exact drains
  refine (ready before).imp_right (fun held => ?_)
  have spared := held.2 mode List.mem_cons_self
  refine ⟨?_, fun later member => held.2 later (List.mem_cons_of_mem mode member)⟩
  cases mode with
  | shutdownDrain => exact absurd rfl other
  | automatic => exact absurd rfl spared.1
  | clampToNominal => exact absurd rfl spared.2
  | forceFastRecovery => rfl

theorem len_of_empty {queue : RWRoundQueue (Stamped R)} (empty : queue.readIdx = queue.writeIdx) :
    queue.len = 0 := by
  rw [RWRoundQueue.len, if_pos empty.le, empty, Nat.sub_self]

/-- A read finds the ring empty only where the reader has kept its haste. -/
theorem foundEmpty_steady {coming : List ReaderControlMode} {queue : RWRoundQueue (Stamped R)}
    (steady : Steady s coming) (pc : s.reader = .reading)
    (read : s.sensor.queue.tryRead = .ok (none, queue)) :
    Steady { s with sensor := { s.sensor with queue }, reader := .probingAfter } coming := by
  have ready := steady.ready
  obtain ⟨empty, same⟩ := RWRoundQueue.tryRead_none read
  rw [pc] at ready
  rw [same]
  refine ⟨steady.order, steady.stopped, fun drains => ⟨?_, Or.inr empty⟩⟩
  exact (ready drains).resolve_left (fun backlog => backlog.2 empty)

theorem Steady.join {coming : List ReaderControlMode} {resume : Resume} (steady : Steady s coming)
    (pc : s.reader = .joining resume)
    (free : ¬(s.sensor.handle = true ∧ s.sensor.generator ≠ .returned)) (instant : Instant) :
    Steady { s with
      sensor := { s.sensor with handle := false }, control := afterStop s.control instant resume,
      reader := resumeAt resume } coming := by
  have ready := steady.ready
  rw [pc] at ready
  exact ⟨steady.order, afterStop_stopped (steady.stopped.join free) rfl instant resume,
    resume_ready ready s.control s.sensor.queue instant⟩

theorem readerStep_steady {coming : List ReaderControlMode} {clock : Clock} (steady : Steady s coming)
    (moved : readerStep cfg s clock = some t) : Steady t coming := by
  have ready := steady.ready
  have order := steady.order
  cases readerStep_acts moved with
  | listened pc =>
    rw [pc] at ready
    exact steady.goto steady.stopped (fun drains => (ready drains).imp_right And.left)
  | shutDown rest pc first =>
    rw [first, List.cons_append] at order
    obtain ⟨after, order⟩ := List.pairwise_cons.mp order
    exact stopSensor_steady (s := { s with commands := rest, stop := true }) order steady.stopped
      (show Cause _ _ .command from fun mode member => after mode member rfl) clock.instant
  | obeyed mode rest pc first other =>
    rw [pc, first, List.cons_append] at ready
    rw [first, List.cons_append] at order
    exact ⟨(List.pairwise_cons.mp order).2,
      steady.stopped.obey cfg.governorCfg clock.instant other,
      obey_ready other ready cfg.governorCfg clock.instant⟩
  | signalled resume pc =>
    rw [pc] at ready
    exact ⟨order, ⟨steady.stopped.draining, steady.stopped.stopped, steady.stopped.joined⟩, ready⟩
  | joined resume pc free => exact steady.join pc free clock.instant
  | stopFlagged =>
    exact stopSensor_steady order steady.stopped (show Cause _ _ .stopFlag from trivial) clock.instant
  | passed pc | probed pc =>
    rw [pc] at ready
    exact ⟨order, steady.stopped, ready⟩
  | foundEmpty queue pc read => exact foundEmpty_steady steady pc read
  | took reading queue pc read =>
    rw [pc] at ready
    exact ⟨order, ⟨steady.stopped.draining, steady.stopped.stopped, steady.stopped.joined⟩,
      fun drains => (ready drains).imp_left (fun backlog => backlog.1)⟩
  | push reading item pc =>
    rw [pc] at ready
    exact pushed_steady steady (push_ends cfg.manager item s.buffer) ready
  | gaveUp pc =>
    rw [pc] at ready
    exact stopSensor_steady (s := { s with stop := true }) order steady.stopped
      (show Cause _ _ .failedPush from ready) clock.instant
  | probedAgain pc =>
    rw [pc] at ready
    refine ⟨order, steady.stopped, fun drains => ⟨(ready drains).1, ?_⟩⟩
    by_cases empty : s.sensor.queue.readIdx = s.sensor.queue.writeIdx
    · exact Or.inl (len_of_empty empty)
    · exact Or.inr ⟨(ready drains).2.resolve_right empty, empty⟩
  | reported availableAfter sleepUs governor pc =>
    rw [pc] at ready
    exact ⟨order, steady.stopped, fun drains => (ready drains).2⟩
  | stayed availableAfter pc going =>
    rw [pc] at ready
    refine steady.goto steady.stopped (fun drains => ?_)
    exact (ready drains).resolve_left (fun empty => going ⟨drains, Or.inl empty⟩)
  | woke pc =>
    rw [pc] at ready
    exact steady.goto steady.stopped (fun drains => Or.inl (ready drains))
  | panicked | left | cleaned | stopsLast | lastReported => exact ⟨order, steady.stopped, trivial⟩

/-- A generator that still runs shows that the reader does not drain. -/
theorem generatorStep_steady {coming : List ReaderControlMode} {reading : R} (steady : Steady s coming)
    (moved : generatorStep s reading = some t) : Steady t coming := by
  have running := (generatorStep_acts moved).running
  have idle : s.control.draining = false := by
    by_contra drains
    rw [Bool.not_eq_false] at drains
    have going := (steady.stopped.going running).1
    exact Bool.false_ne_true (going.symm.trans (steady.stopped.draining drains))
  have frame := generator_frame moved
  constructor
  · rw [frame.commands]
    exact steady.order
  · rw [frame.control]
    exact steady.stopped.generating running frame.handle
  · rw [frame.control, frame.reader, frame.commands, frame.buffer]
    exact steady.ready.write idle t.sensor.queue

/-- The commands that a schedule sends. -/
def commandsOf (schedule : List (Move R F)) : List ReaderControlMode :=
  schedule.filterMap (fun move =>
    match move with
    | .command mode => some mode
    | _ => none)

theorem step_steady {move : Move R F} {rest : List (Move R F)}
    (steady : Steady s (commandsOf (move :: rest))) (moved : step cfg s move = some t) :
    Steady t (commandsOf rest) := by
  cases move with
  | reader clock =>
    have steady : Steady s (commandsOf rest) := steady
    exact readerStep_steady steady moved
  | wake waited =>
    have steady : Steady s (commandsOf rest) := steady
    cases pc : s.reader with
    | waiting reading item =>
      have ready := steady.ready
      have ends : PushEnds s.buffer.isShutdown (cfg.manager.resume s.buffer waited false (.push item)) :=
        pushLoop_ends cfg.manager item
          { s.buffer with pushWaitNsTotal := s.buffer.pushWaitNsTotal + waited }
      rw [pc] at ready
      simp only [step, pc, Option.some.injEq] at moved
      rw [← moved]
      exact pushed_steady steady ends ready
    | _ => simp only [step, pc, reduceCtorEq] at moved
  | generator reading =>
    have steady : Steady s (commandsOf rest) := steady
    exact generatorStep_steady steady moved
  | command mode =>
    rw [← Option.some.inj moved]
    have same : s.commands ++ commandsOf (.command mode :: rest) =
        s.commands ++ [mode] ++ commandsOf rest := by simp [commandsOf]
    exact ⟨same ▸ steady.order, steady.stopped, same ▸ steady.ready⟩
  | setStop value =>
    rw [← Option.some.inj moved]
    exact ⟨steady.order, steady.stopped, steady.ready⟩
  | call call =>
    rw [← Option.some.inj moved]
    refine ⟨steady.order, steady.stopped, steady.ready.close (fun shut => ?_)⟩
    by_cases closes : call = .shutdown
    · rw [closes]
      rfl
    · exact (enter_isShutdown cfg.manager s.buffer closes).trans shut
  | resume waited timedOut wait =>
    rw [← Option.some.inj moved]
    refine ⟨steady.order, steady.stopped, steady.ready.close (fun shut => ?_)⟩
    exact (resume_isShutdown cfg.manager s.buffer waited timedOut wait).trans shut

/-- The governor's update of a reader that drains uses the override `ForceFastRecovery`. -/
def FastUpdate (s : State R F) (move : Move R F) : Prop :=
  ∀ clock availableAfter, move = .reader clock → s.reader = .reporting availableAfter →
    s.control.draining = true → s.control.governorOverride = .forceFastRecovery

theorem Steady.fastUpdate {coming : List ReaderControlMode} (steady : Steady s coming)
    (move : Move R F) : FastUpdate s move := by
  intro clock availableAfter _ pc drains
  have ready := steady.ready
  rw [pc] at ready
  exact (ready drains).1

/-- Draining is for good: no step ends it, moves its deadline or restarts the sensor; the run stops the
sensor once if it drains or has ended; and unless `Automatic` or `ClampToNominal` is sent after a
`ShutdownDrain`, every update of the governor while draining is a fast one. -/
theorem draining_permanent_and_fast [Inhabited R] (cfg : ReaderConfig R F) (now : SystemTime)
    (schedule : List (Move R F)) :
    (reader cfg now).EachStep (fun s _ t => Permanent s.control t.control) schedule ∧
    (∀ s, (reader cfg now).run schedule = some s →
      (s.control.draining = true → s.control.drainDeadline.isSome = true) ∧
      (reader cfg now).countFrom callsStop (reader cfg now).init schedule ≤ 1 ∧
      (s.control.draining = true ∨ s.reader = .finished →
        (reader cfg now).countFrom callsStop (reader cfg now).init schedule = 1)) ∧
    (DrainLast (commandsOf schedule) →
      (reader cfg now).EachStep (fun s move _ => FastUpdate s move) schedule) := by
  refine ⟨?_, ?_, ?_⟩
  · exact System.eachStepFrom_of_invariant (fun _ _ => True)
      (fun u move rest v _ moved => ⟨(step_control moved).permanent, trivial⟩) trivial
  · intro s runs
    obtain ⟨begun, once⟩ := reachable_once (System.reachable_of_run runs)
    have calls := stop_calls runs
    refine ⟨begun.deadline, ?_, ?_⟩
    · rw [calls]
      split <;> omega
    · intro halted
      have stopped : s.control.sensorStopped = true := by
        rcases halted with drains | finished
        · exact begun.stopped drains
        · rw [finished] at once
          exact once
      have has : hasStopped s.control s.reader = true := by
        unfold hasStopped
        split
        · rfl
        · exact stopped
      rw [calls, if_pos has]
  · intro order
    refine System.eachStepFrom_of_invariant (fun s rest => Steady s (commandsOf rest))
      (fun u move rest v steady moved => ⟨steady.fastUpdate move, step_steady steady moved⟩) ?_
    exact ⟨order, ⟨nofun, nofun, nofun⟩, fun drains => by cases drains⟩

/-- The reader drains on a command and takes an `Automatic` behind it. -/
def takenBack : List (Move Nat ℚ) :=
  [.command .shutdownDrain, .command .automatic, .reader ⟨0, 0⟩, .reader ⟨0, 0⟩, .generator 0,
    .reader ⟨0, 0⟩, .reader ⟨0, 0⟩, .reader ⟨0, 0⟩, .reader ⟨0, 0⟩, .reader ⟨0, 0⟩, .reader ⟨0, 0⟩,
    .reader ⟨0, 0⟩]

def oneSensor : ReaderConfig Nat ℚ := ⟨"thermo-1", fun n => n, .default, ⟨8192, by decide⟩⟩

/-- It updates its governor without an override. -/
theorem automatic_after_drain :
    ∃ s, (reader oneSensor 0).run takenBack = some s ∧ s.control.draining = true ∧
      s.control.governorOverride = .none ∧ ¬ FastUpdate s (.reader ⟨0, 0⟩) := by
  refine ⟨((reader oneSensor 0).run takenBack).get (by decide +kernel), (Option.some_get _).symm,
    by decide +kernel, by decide +kernel, fun fast => ?_⟩
  exact absurd (fast ⟨0, 0⟩ 0 rfl (by rfl) (by decide +kernel)) (by decide +kernel)

/-- The scheduler's own order: it turns the reader back to `Automatic` and then ends it. -/
def endedByScheduler : List (Move Nat ℚ) :=
  [.command .automatic, .command .shutdownDrain, .reader ⟨0, 0⟩, .reader ⟨0, 0⟩, .reader ⟨0, 0⟩,
    .generator 0, .reader ⟨0, 0⟩, .reader ⟨0, 0⟩, .reader ⟨0, 0⟩, .reader ⟨0, 0⟩, .reader ⟨0, 0⟩,
    .reader ⟨0, 0⟩, .reader ⟨0, 0⟩]

theorem draining_permanent_and_fast_ended :
    (reader oneSensor 0).EachStep (fun s move _ => FastUpdate s move) endedByScheduler :=
  (draining_permanent_and_fast oneSensor 0 endedByScheduler).2.2
    (by simp [DrainLast, commandsOf, endedByScheduler])

end SensorGateway.Reader.Draining

import SensorGateway.Queue.ConcurrentLen

/-! `start` and `stop` of the simulated sensors. The thread that owns the sensor calls them, and
reads in between; the generator thread writes into the sensor's ring. The two interleave step by
step, also inside a read and a write. -/

namespace SensorGateway.SensorSim.Lifecycle
open SensorGateway.Lib.Transition
open Queue.RoundQueue Queue.RoundQueueThreads Queue.ConcurrentLen

/-- `MAX_QUEUE_SIZE`. -/
def maxQueueSize : Nat := 128

/-- What a thread panics with. -/
inductive Panic where
  /-- `expect("start called twice")`. -/
  | startCalledTwice
  /-- `expect("thread panicked")`. -/
  | threadPanicked
  | divideByZero
  deriving DecidableEq, Repr

/-- The right to write into the ring at an address. -/
structure QueueWriter where
  queue : Nat
  deriving DecidableEq, Repr

/-- Where the generator thread is. -/
inductive GeneratorPc where
  /-- At the test of `running`. -/
  | testing
  /-- About to call `write`. -/
  | producing
  | writing
  /-- About to sleep. -/
  | sleeping
  | returned
  | panicked
  deriving DecidableEq, Repr

/-- The generator thread and what its closure has captured. -/
structure Generator where
  pc : GeneratorPc
  writer : QueueWriter
  ratePerSec : UInt32
  deriving DecidableEq, Repr

/-- The thread behind a join handle is kept with the handle. -/
structure Sensor (R : Type) where
  ratePerSec : UInt32
  /-- Where the boxed ring lies. -/
  address : Nat
  queue : Threads R
  writer : Option QueueWriter
  running : Bool
  handle : Option Generator
  deriving DecidableEq, Repr

inductive Call where
  | start
  | stop
  deriving DecidableEq, Repr

structure State (R : Type) where
  sensor : Sensor R
  /-- The handle that a call of `stop` has taken and waits for. -/
  joining : Option Generator
  /-- The calls so far. -/
  calls : List Call
  panics : List Panic
  deriving DecidableEq, Repr

inductive Move (S : Type) where
  | start
  /-- `stop` up to its `join`. -/
  | stop
  /-- The `join` of `stop` returns. -/
  | join
  /-- The next atomic step of the owner's `read`. -/
  | read
  /-- The next step of the generator; `random` is what `rand::random` gives. -/
  | generator (random : S)

/-- `1000 / rate_per_sec as u64`. -/
def sleepMillis (ratePerSec : UInt32) : Except Panic Nat :=
  if ratePerSec = 0 then .error .divideByZero else .ok (1000 / ratePerSec.toNat)

variable {R S : Type}

def idle : WriterPc R → Bool
  | .idle => true
  | _ => false

def idleReader : ReaderPc R → Bool
  | .idle => true
  | _ => false

/-- The owner is in no call of the sensor. -/
def Between (s : State R) : Prop := s.joining = none ∧ idleReader s.sensor.queue.reader = true

instance (s : State R) : Decidable (Between s) := inferInstanceAs (Decidable (_ ∧ _))

def State.withQueue (s : State R) (queue : Threads R) : State R :=
  { s with sensor := { s.sensor with queue } }

def start (s : State R) : State R :=
  let s := { s with calls := s.calls ++ [Call.start] }
  match s.sensor.handle with
  | some _ => s
  | none =>
    let sensor := { s.sensor with running := true }
    match sensor.writer with
    | none => { s with sensor, panics := s.panics ++ [Panic.startCalledTwice] }
    | some writer =>
      { s with sensor := { sensor with
          writer := none, handle := some ⟨.testing, writer, sensor.ratePerSec⟩ } }

def stop (s : State R) : State R :=
  { s with sensor := { s.sensor with running := false, handle := none },
           joining := s.sensor.handle,
           calls := s.calls ++ [.stop] }

def join (s : State R) : Option (State R) :=
  match s.joining with
  | none => none
  | some generator =>
    match generator.pc with
    | .returned =>
      some { s with sensor := { s.sensor with writer := some generator.writer }, joining := none }
    | .panicked => some { s with joining := none, panics := s.panics ++ [.threadPanicked] }
    | _ => none

/-- One step of the generator thread. A writer of another ring writes nowhere. -/
def advance (reading : S → R) (s : State R) (generator : Generator) (random : S) :
    Option (Generator × State R) :=
  match generator.pc with
  | .testing =>
    some ({ generator with pc := if s.sensor.running then .producing else .returned }, s)
  | .producing =>
    if generator.writer.queue = s.sensor.address then
      (step s.sensor.queue (.write (reading random))).map fun queue =>
        ({ generator with pc := .writing }, s.withQueue queue)
    else none
  | .writing =>
    (step s.sensor.queue .writer).map fun queue =>
      ({ generator with pc := if idle queue.writer then .sleeping else .writing }, s.withQueue queue)
  | .sleeping =>
    match sleepMillis generator.ratePerSec with
    | .error panic => some ({ generator with pc := .panicked }, { s with panics := s.panics ++ [panic] })
    | .ok _ => some ({ generator with pc := .testing }, s)
  | .returned | .panicked => none

def generate (reading : S → R) (s : State R) (random : S) : Option (State R) :=
  match s.sensor.handle, s.joining with
  | some generator, _ =>
    (advance reading s generator random).map fun (generator, s) =>
      { s with sensor := { s.sensor with handle := some generator } }
  | none, some generator =>
    (advance reading s generator random).map fun (generator, s) =>
      { s with joining := some generator }
  | none, none => none

/-- The owner makes one call after another. -/
def move (reading : S → R) (s : State R) : Move S → Option (State R)
  | .start => if Between s then some (start s) else none
  | .stop => if Between s then some (stop s) else none
  | .join => join s
  | .read => if s.joining = none then (step s.sensor.queue .reader).map s.withQueue else none
  | .generator random => generate reading s random

/-- A sensor that `new` has built, with its ring at an address. -/
def sensor [Inhabited R] (reading : S → R) (ratePerSec : UInt32) (address : Nat) :
    System (State R) (Move S) where
  init := {
    sensor := ⟨ratePerSec, address, (threads maxQueueSize).init, some ⟨address⟩, true, none⟩
    joining := none
    calls := []
    panics := [] }
  step := move reading

/-! The three kinds of sensor, over any carrier of the `f32` operations they use. -/

structure ThermoReading (F : Type) where
  temperatureCelsius : F
  deriving DecidableEq, Repr, Inhabited

structure AccelReading (F : Type) where
  accelerationX : F
  accelerationY : F
  accelerationZ : F
  deriving DecidableEq, Repr, Inhabited

structure ForceReading (F : Type) where
  forceX : F
  forceY : F
  forceZ : F
  deriving DecidableEq, Repr, Inhabited

section Kinds
variable {F : Type} [Add F] [Mul F] [NatCast F] [Inhabited F]

def thermoReading (random : F) : ThermoReading F := ⟨(20 : Nat) + random * (10 : Nat)⟩

def accelReading (random : F × F × F) : AccelReading F :=
  ⟨random.1 * (5 : Nat), random.2.1 * (5 : Nat), random.2.2 * (5 : Nat)⟩

def forceReading (random : F × F × F) : ForceReading F :=
  ⟨random.1 * (100 : Nat), random.2.1 * (100 : Nat), random.2.2 * (100 : Nat)⟩

def thermometer : UInt32 → Nat → System (State (ThermoReading F)) (Move F) := sensor thermoReading

def accelerometer : UInt32 → Nat → System (State (AccelReading F)) (Move (F × F × F)) :=
  sensor accelReading

def forceSensor : UInt32 → Nat → System (State (ForceReading F)) (Move (F × F × F)) :=
  sensor forceReading

end Kinds

/-- How far an iteration that is inside `write` has come. -/
def place : WriterPc R → Nat
  | .idle => 0
  | .loadedWrite _ _ => 3
  | .acquired _ _ _ => 4
  | .stored _ => 5
  | .overwriting _ => 6
  | .skipping _ _ => 7
  | .publishing _ _ => 8

/-- A step of the writer ends its call or comes further inside it. -/
theorem writer_progress {s next : Threads R} (moved : step s .writer = some next) :
    s.written <+: next.written ∧
      (idle next.writer = true ∧ next.completed = s.completed + 1 ∨
        idle next.writer = false ∧ next.completed = s.completed ∧
          place s.writer < place next.writer) := by
  cases writerStep_moves moved with
  | test value writeIdx pc => exact ⟨List.prefix_rfl, Or.inr ⟨rfl, rfl, by simp [place, pc]⟩⟩
  | store value ptr wasFull pc inside =>
    exact ⟨List.prefix_append _ _, Or.inr ⟨rfl, rfl, by simp [place, pc]⟩⟩
  | append pc => exact ⟨List.prefix_rfl, Or.inr ⟨rfl, rfl, by simp [place, pc]⟩⟩
  | overwrite pc => exact ⟨List.prefix_rfl, Or.inr ⟨rfl, rfl, by simp [place, pc]⟩⟩
  | load nextWrite pc => exact ⟨List.prefix_rfl, Or.inr ⟨rfl, rfl, by simp [place, pc]⟩⟩
  | skip nextWrite readIdx pc => exact ⟨List.prefix_rfl, Or.inr ⟨rfl, rfl, by simp [place, pc]⟩⟩
  | publish nextWrite wasFull pc => exact ⟨List.prefix_rfl, Or.inl ⟨rfl, rfl⟩⟩

/-- The reader moves nothing but `read_idx` and its own locals. -/
theorem reader_keeps {s next : Threads R} (moved : step s .reader = some next) :
    ∃ readIdx reader received, next = { s with
      queue := { s.queue with readIdx }, reader, received } := by
  cases readerStep_moves moved <;> exact ⟨_, _, _, rfl⟩

/-- The slot that the writer is about to store into exists. -/
structure InBounds (s : Threads R) : Prop where
  length : s.queue.buffer.length = s.queue.capacity
  loaded : ∀ value ptr, s.writer = .loadedWrite value ptr → ptr < s.queue.capacity
  acquired : ∀ value ptr wasFull, s.writer = .acquired value ptr wasFull → ptr < s.queue.capacity

theorem ring_tail [Inhabited R] {capacity : Nat} {s next : Threads R}
    {action : Queue.RoundQueueThreads.Move R} (reach : (threads capacity).Reachable s)
    (moved : step s action = some next) : (threads capacity).Reachable next :=
  reach.tail moved

theorem writer_inBounds {s next : Threads R} (moved : step s .writer = some next)
    (inside : InBounds s) : InBounds next := by
  cases writerStep_moves moved with
  | test value writeIdx pc =>
    refine ⟨inside.length, by simp, ?_⟩
    intro v ptr full pending
    simp only [WriterPc.acquired.injEq] at pending
    exact pending.2.1 ▸ inside.loaded value writeIdx pc
  | store value ptr wasFull pc found =>
    exact ⟨(List.length_set ..).trans inside.length, by simp, by simp⟩
  | append pc => exact ⟨inside.length, by simp, by simp⟩
  | overwrite pc => exact ⟨inside.length, by simp, by simp⟩
  | load nextWrite pc => exact ⟨inside.length, by simp, by simp⟩
  | skip nextWrite readIdx pc => exact ⟨inside.length, by simp, by simp⟩
  | publish nextWrite wasFull pc => exact ⟨inside.length, by simp, by simp⟩

theorem inBounds_reachable [Inhabited R] {capacity : Nat} (power : capacity.isPowerOfTwo)
    {s : Threads R} (reach : (threads capacity).Reachable s) : InBounds s := by
  apply System.ReachesUnder.invariant reach InBounds
  · exact ⟨List.length_replicate, by simp [threads], by simp [threads]⟩
  · intro u move v before inside _ moved
    cases move with
    | reader =>
      obtain ⟨readIdx, reader, received, rfl⟩ := reader_keeps moved
      exact ⟨inside.length, inside.loaded, inside.acquired⟩
    | write value =>
      obtain ⟨pc, rfl⟩ := write_starts moved
      refine ⟨inside.length, ?_, by simp⟩
      intro v ptr pending
      simp only [WriterPc.loadedWrite.injEq] at pending
      exact pending.2 ▸ (inRange_reachable power before).write
    | writer => exact writer_inBounds moved inside

/-- A writer inside `write` can always go on. -/
theorem writer_enabled {s : Threads R} (inside : InBounds s) (busy : idle s.writer = false) :
    ∃ next, step s .writer = some next := by
  change ∃ next, writerStep s = some next
  unfold writerStep
  cases before : s.writer with
  | idle => simp [before, idle] at busy
  | acquired value ptr wasFull =>
    have exists_slot : ptr < s.queue.buffer.length := inside.length ▸ inside.acquired _ _ _ before
    simp only [RWRoundQueue.writeSlot, if_pos exists_slot]
    exact ⟨_, rfl⟩
  | stored wasFull => cases wasFull <;> exact ⟨_, rfl⟩
  | _ => exact ⟨_, rfl⟩

theorem write_enabled {s : Threads R} (free : idle s.writer = true) (value : R) :
    ∃ next, step s (.write value) = some next ∧ idle next.writer = false ∧
      next.completed = s.completed ∧ next.written = s.written ∧ place next.writer = 3 := by
  cases before : s.writer <;> simp only [before, idle, reduceCtorEq] at free
  refine ⟨{ s with writer := .loadedWrite value s.queue.writeIdx }, ?_, rfl, rfl, rfl, rfl⟩
  simp only [step, before]

/-- A generator that can go on, or has returned. -/
structure Sound (sensor : Sensor R) (generator : Generator) : Prop where
  address : generator.writer.queue = sensor.address
  rate : generator.ratePerSec ≠ 0
  alive : generator.pc ≠ .panicked
  busy : idle sensor.queue.writer = true ↔ generator.pc ≠ .writing

/-- The writer is with the sensor, with the thread behind its handle, or with the one `stop` waits
for. -/
inductive Owned (s : State R) : Prop
  | rest (joining : s.joining = none) (handle : s.sensor.handle = none)
      (writer : s.sensor.writer = some ⟨s.sensor.address⟩) (free : idle s.sensor.queue.writer = true)
      (last : s.calls.getLast? ≠ some .start)
  | running (generator : Generator) (joining : s.joining = none)
      (handle : s.sensor.handle = some generator) (writer : s.sensor.writer = none)
      (flag : s.sensor.running = true) (sound : Sound s.sensor generator)
      (loops : generator.pc ≠ .returned) (last : s.calls.getLast? = some .start)
  | stopping (generator : Generator) (joining : s.joining = some generator)
      (handle : s.sensor.handle = none) (writer : s.sensor.writer = none)
      (flag : s.sensor.running = false) (sound : Sound s.sensor generator)
      (last : s.calls.getLast? = some .stop)

structure Inv [Inhabited R] (ratePerSec : UInt32) (s : State R) : Prop where
  rate : s.sensor.ratePerSec = ratePerSec
  ring : (threads maxQueueSize).Reachable s.sensor.queue
  quiet : s.panics = []
  owned : Owned s

/-- How far an iteration has come since the last one went to sleep. -/
def position (generator : Generator) (queue : Threads R) : Nat :=
  match generator.pc with
  | .sleeping | .panicked => 0
  | .testing => 1
  | .producing | .returned => 2
  | .writing => place queue.writer

/-- The steps of an iteration that overwrites a reading. -/
def iterationSteps : Nat := 9

/-- The steps of the generator, as far as they show in the ring. -/
def progress (generator : Generator) (queue : Threads R) : Nat :=
  iterationSteps * queue.completed + position generator queue

/-- The steps that are left once `running` is clear, if the write under way overwrites. -/
def left (generator : Generator) (queue : Threads R) : Nat :=
  match generator.pc with
  | .returned | .panicked => 0
  | .testing => 1
  | .sleeping => 2
  | .writing => 11 - place queue.writer
  | .producing => 9

theorem place_le (pc : WriterPc R) : place pc ≤ 8 := by
  cases pc <;> simp [place]

/-- What a step of a sound generator has done: it has gone on, and only `running` makes it return. -/
structure Advanced [Inhabited R] (s : State R) (generator next : Generator) (queue : Threads R) :
    Prop where
  sound : Sound (s.withQueue queue).sensor next
  ring : (threads maxQueueSize).Reachable queue
  written : s.sensor.queue.written <+: queue.written
  further : progress generator s.sensor.queue < progress next queue
  ends : next.pc = .returned → s.sensor.running = false
  nearer : s.sensor.running = false → left next queue < left generator s.sensor.queue

/-- A step of a write: the writer goes to its next place, or the generator sleeps. -/
theorem writer_advanced [Inhabited R] {s : State R} {generator : Generator} {queue : Threads R}
    (ring : (threads maxQueueSize).Reachable s.sensor.queue) (sound : Sound s.sensor generator)
    (pc : generator.pc = .writing) (moved : step s.sensor.queue .writer = some queue) :
    Advanced s generator
      { generator with pc := if idle queue.writer then .sleeping else .writing } queue := by
  obtain ⟨written, further⟩ := writer_progress moved
  have bound := place_le s.sensor.queue.writer
  have bounded := place_le queue.writer
  obtain ⟨ends, completed⟩ | ⟨goes, completed, placed⟩ := further
  · rw [ends, if_pos rfl]
    refine ⟨⟨sound.address, sound.rate, by simp, ?_⟩, ring_tail ring moved, written, ?_, by simp, ?_⟩
    · simpa [State.withQueue] using ends
    · simp only [progress, position, pc, completed, iterationSteps]
      omega
    · simp only [left, pc]
      omega
  · rw [goes, if_neg Bool.false_ne_true]
    refine ⟨⟨sound.address, sound.rate, by simp, ?_⟩, ring_tail ring moved, written, ?_, by simp, ?_⟩
    · simpa [State.withQueue] using goes
    · simp only [progress, position, pc, completed, iterationSteps]
      omega
    · simp only [left, pc]
      omega

theorem advance_sound [Inhabited R] (reading : S → R) {s : State R} {generator : Generator}
    (ring : (threads maxQueueSize).Reachable s.sensor.queue) (sound : Sound s.sensor generator)
    (loops : generator.pc ≠ .returned) (random : S) :
    ∃ next queue, advance reading s generator random = some (next, s.withQueue queue) ∧
      Advanced s generator next queue := by
  have power : maxQueueSize.isPowerOfTwo := ⟨7, rfl⟩
  unfold advance
  cases pc : generator.pc with
  | testing =>
    have free : idle s.sensor.queue.writer = true := sound.busy.mpr (by simp [pc])
    refine ⟨_, s.sensor.queue, rfl, ⟨sound.address, sound.rate, ?_, ?_⟩, ring, List.prefix_rfl,
      ?_, ?_, ?_⟩
    · cases s.sensor.running <;> simp
    · cases s.sensor.running <;> simpa [State.withQueue] using free
    · cases s.sensor.running <;> simp [progress, position, pc]
    · cases s.sensor.running <;> simp
    · intro flag
      simp [left, pc, flag]
  | producing =>
    have free : idle s.sensor.queue.writer = true := sound.busy.mpr (by simp [pc])
    obtain ⟨next, moved, busy, completed, written, placed⟩ := write_enabled free (reading random)
    refine ⟨{ generator with pc := .writing }, next, ?_, ⟨sound.address, sound.rate, ?_, ?_⟩,
      ring_tail ring moved, written ▸ List.prefix_rfl, ?_, ?_, ?_⟩
    · simp only [if_pos sound.address, moved, Option.map_some]
    · simp
    · simp [State.withQueue, busy]
    · simp [progress, position, pc, completed, placed]
    · simp
    · simp [left, pc, placed]
  | writing =>
    have busy : idle s.sensor.queue.writer = false := by
      have notFree := mt sound.busy.mp (not_not.mpr pc)
      simpa using notFree
    obtain ⟨queue, moved⟩ := writer_enabled (inBounds_reachable power ring) busy
    refine ⟨_, queue, ?_, writer_advanced ring sound pc moved⟩
    simp only [moved, Option.map_some]
  | sleeping =>
    have free : idle s.sensor.queue.writer = true := sound.busy.mpr (by simp [pc])
    refine ⟨{ generator with pc := .testing }, s.sensor.queue, ?_,
      ⟨sound.address, sound.rate, by simp, ?_⟩, ring, List.prefix_rfl, ?_, by simp, ?_⟩
    · simp only [sleepMillis, if_neg sound.rate]
      rfl
    · simpa [State.withQueue] using free
    · simp [progress, position, pc]
    · simp [left, pc]
  | returned => exact absurd pc loops
  | panicked => exact absurd pc sound.alive

theorem start_running {s : State R} {generator : Generator}
    (handle : s.sensor.handle = some generator) :
    start s = { s with calls := s.calls ++ [.start] } := by
  simp only [start, handle]

theorem start_rest {s : State R} {writer : QueueWriter} (handle : s.sensor.handle = none)
    (owns : s.sensor.writer = some writer) :
    start s = { s with
      sensor := { s.sensor with
        running := true, writer := none, handle := some ⟨.testing, writer, s.sensor.ratePerSec⟩ },
      calls := s.calls ++ [.start] } := by
  simp only [start, handle, owns]

theorem Sound.withQueue {s : State R} {generator : Generator} (sound : Sound s.sensor generator)
    {queue : Threads R} (same : queue.writer = s.sensor.queue.writer) :
    Sound (s.withQueue queue).sensor generator :=
  ⟨sound.address, sound.rate, sound.alive, by simpa [State.withQueue, same] using sound.busy⟩

section Preserved
variable [Inhabited R] (reading : S → R) {ratePerSec : UInt32} {s t : State R}

theorem Inv.start (inv : Inv ratePerSec s) (nonzero : ratePerSec ≠ 0) (free : s.joining = none) :
    Inv ratePerSec (start s) := by
  cases inv.owned with
  | rest joining handle writer idle last =>
    rw [start_rest handle writer]
    refine ⟨inv.rate, inv.ring, inv.quiet, .running _ joining rfl rfl rfl ?_ (by simp) (by simp)⟩
    exact ⟨rfl, fun zero => nonzero (inv.rate.symm.trans zero), by simp, by simpa using idle⟩
  | running generator joining handle writer flag sound loops last =>
    rw [start_running handle]
    exact ⟨inv.rate, inv.ring, inv.quiet,
      .running generator joining handle writer flag sound loops (by simp)⟩
  | stopping generator joining handle writer flag sound last => simp [free] at joining

theorem Inv.stop (inv : Inv ratePerSec s) (free : s.joining = none) : Inv ratePerSec (stop s) := by
  refine ⟨inv.rate, inv.ring, inv.quiet, ?_⟩
  cases inv.owned with
  | rest joining handle writer idle last => exact .rest handle rfl writer idle (by simp [Lifecycle.stop])
  | running generator joining handle writer flag sound loops last =>
    exact .stopping generator handle rfl writer rfl
      ⟨sound.address, sound.rate, sound.alive, sound.busy⟩ (by simp [Lifecycle.stop])
  | stopping generator joining handle writer flag sound last => simp [free] at joining

theorem Inv.join (inv : Inv ratePerSec s) (moved : join s = some t) : Inv ratePerSec t := by
  cases inv.owned with
  | rest joining handle writer idle last => simp [Lifecycle.join, joining] at moved
  | running generator joining handle writer flag sound loops last =>
    simp [Lifecycle.join, joining] at moved
  | stopping generator joining handle writer flag sound last =>
    cases pc : generator.pc <;> simp only [Lifecycle.join, joining, pc, Option.some.injEq,
      reduceCtorEq] at moved
    · subst moved
      have returned : generator.writer = ⟨s.sensor.address⟩ := by
        rw [← sound.address]
      refine ⟨inv.rate, inv.ring, inv.quiet, .rest rfl handle (by rw [returned]) ?_ (by simp [last])⟩
      exact sound.busy.mpr (by simp [pc])
    · exact absurd pc sound.alive

theorem Inv.read (inv : Inv ratePerSec s) {queue : Threads R}
    (moved : step s.sensor.queue .reader = some queue) : Inv ratePerSec (s.withQueue queue) := by
  have ring := ring_tail inv.ring moved
  obtain ⟨readIdx, reader, received, rfl⟩ := reader_keeps moved
  refine ⟨inv.rate, ring, inv.quiet, ?_⟩
  cases inv.owned with
  | rest joining handle writer idle last => exact .rest joining handle writer idle last
  | running generator joining handle writer flag sound loops last =>
    exact .running generator joining handle writer flag (sound.withQueue rfl) loops last
  | stopping generator joining handle writer flag sound last =>
    exact .stopping generator joining handle writer flag (sound.withQueue rfl) last

/-- The thread behind the handle goes on as long as `running` is set. -/
theorem generate_running {generator : Generator} (inv : Inv ratePerSec s)
    (handle : s.sensor.handle = some generator) (random : S) :
    ∃ next t, generate reading s random = some t ∧ Inv ratePerSec t ∧
      t.sensor.handle = some next ∧ t.sensor.address = s.sensor.address ∧
      s.sensor.queue.written <+: t.sensor.queue.written ∧
      progress generator s.sensor.queue < progress next t.sensor.queue := by
  cases inv.owned with
  | rest joining none writer idle last => simp [none] at handle
  | stopping g joining none writer flag sound last => simp [none] at handle
  | running g joining same writer flag sound loops last =>
    obtain rfl : g = generator := Option.some.inj (same.symm.trans handle)
    obtain ⟨next, queue, moved, advanced⟩ := advance_sound reading inv.ring sound loops random
    have sound := advanced.sound
    have goes : next.pc ≠ .returned :=
      fun ended => Bool.false_ne_true ((advanced.ends ended).symm.trans flag)
    refine ⟨next, { s.withQueue queue with
      sensor := { (s.withQueue queue).sensor with handle := some next } }, ?_, ?_, rfl, rfl,
      advanced.written, advanced.further⟩
    · simp only [generate, handle, moved, Option.map_some]
    · exact ⟨inv.rate, advanced.ring, inv.quiet, .running next joining rfl writer flag
        ⟨sound.address, sound.rate, sound.alive, sound.busy⟩ goes last⟩

/-- The thread that `stop` waits for goes on until it has returned. -/
theorem generate_stopping {generator : Generator} (inv : Inv ratePerSec s)
    (joining : s.joining = some generator) (random : S) (loops : generator.pc ≠ .returned) :
    ∃ next t, generate reading s random = some t ∧ Inv ratePerSec t ∧ t.joining = some next ∧
      t.sensor.address = s.sensor.address ∧
      left next t.sensor.queue < left generator s.sensor.queue := by
  cases inv.owned with
  | rest none handle writer idle last => simp [none] at joining
  | running g none handle writer flag sound loops last => simp [none] at joining
  | stopping g same handle writer flag sound last =>
    obtain rfl : g = generator := Option.some.inj (same.symm.trans joining)
    obtain ⟨next, queue, moved, advanced⟩ := advance_sound reading inv.ring sound loops random
    refine ⟨next, { s.withQueue queue with joining := some next }, ?_, ?_, rfl, rfl,
      advanced.nearer flag⟩
    · simp only [generate, handle, joining, moved, Option.map_some]
    · exact ⟨inv.rate, advanced.ring, inv.quiet,
        .stopping next rfl handle writer flag advanced.sound last⟩

theorem Inv.generate (inv : Inv ratePerSec s) {random : S}
    (moved : generate reading s random = some t) :
    Inv ratePerSec t ∧ t.sensor.address = s.sensor.address := by
  cases inv.owned with
  | rest joining handle writer idle last => simp [Lifecycle.generate, handle, joining] at moved
  | running generator joining handle writer flag sound loops last =>
    obtain ⟨next, u, moves, after, _, same, _⟩ := generate_running reading inv handle random
    exact Option.some.inj (moves.symm.trans moved) ▸ ⟨after, same⟩
  | stopping generator joining handle writer flag sound last =>
    by_cases ended : generator.pc = .returned
    · simp [Lifecycle.generate, handle, joining, advance, ended] at moved
    · obtain ⟨next, u, moves, after, _, same, _⟩ :=
        generate_stopping reading inv joining random ended
      exact Option.some.inj (moves.symm.trans moved) ▸ ⟨after, same⟩

theorem Inv.move {action : Move S} (inv : Inv ratePerSec s) (nonzero : ratePerSec ≠ 0)
    (moved : move reading s action = some t) : Inv ratePerSec t := by
  cases action with
  | start =>
    simp only [Lifecycle.move] at moved
    split at moved
    next between => exact Option.some.inj moved ▸ inv.start nonzero between.1
    next => cases moved
  | stop =>
    simp only [Lifecycle.move] at moved
    split at moved
    next between => exact Option.some.inj moved ▸ inv.stop between.1
    next => cases moved
  | join => exact inv.join moved
  | read =>
    simp only [Lifecycle.move] at moved
    split at moved
    next =>
      obtain ⟨queue, moves, rfl⟩ := Option.map_eq_some_iff.mp moved
      exact inv.read moves
    next => cases moved
  | generator random => exact (inv.generate reading moved).1

theorem inv_reachable (nonzero : ratePerSec ≠ 0) {address : Nat}
    (reach : (sensor reading ratePerSec address).Reachable s) : Inv ratePerSec s := by
  apply System.Reaches.invariant reach (Inv ratePerSec)
  · exact ⟨rfl, System.ReachesUnder.refl _, rfl, .rest rfl rfl rfl rfl (by simp [sensor])⟩
  · intro u action v inv moved
    exact inv.move reading nonzero moved

end Preserved

def Move.isGenerator : Move S → Bool
  | .generator _ => true
  | _ => false

section Safety
variable [Inhabited R] (reading : S → R)

/-- Whatever happens before the next `stop`: the generator can always go on, what it has written
stays, and of every nine of its steps one returns from `write`. -/
def KeepsWriting (sys : System (State R) (Move S)) (s : State R) : Prop :=
  ∀ schedule t, Move.stop ∉ schedule → sys.runFrom s schedule = some t →
    t.sensor.address = s.sensor.address ∧
    s.sensor.queue.written <+: t.sensor.queue.written ∧
    (∀ random, (sys.step t (.generator random)).isSome) ∧
    iterationSteps * s.sensor.queue.completed + schedule.countP Move.isGenerator <
      iterationSteps * (t.sensor.queue.completed + 1)

structure Safe (sys : System (State R) (Move S)) (s : State R) : Prop where
  noPanic : s.panics = []
  oneOwner : s.joining = none →
    Xor (s.sensor.writer.isSome = true) (s.sensor.handle.isSome = true)
  /-- `start` on a running sensor changes nothing. -/
  startAgain : s.calls.getLast? = some .start → Between s →
    sys.step s .start = some { s with calls := s.calls ++ [.start] }
  /-- `start` on a new or stopped sensor goes on with the same ring. -/
  restart : s.calls.getLast? ≠ some .start → Between s →
    ∃ t, sys.step s .start = some t ∧ t.sensor.address = s.sensor.address ∧
      t.sensor.queue = s.sensor.queue ∧ KeepsWriting sys t
  /-- A `stop` returns once the generator has taken the steps that it has left. -/
  stopReturns : s.joining ≠ none → ∀ random, ∃ n t,
    sys.runFrom s (List.replicate n (.generator random) ++ [.join]) = some t

variable {reading} {ratePerSec : UInt32} {address : Nat}

theorem running_run {s t : State R} {generator : Generator} {schedule : List (Move S)}
    (nonzero : ratePerSec ≠ 0) (inv : Inv ratePerSec s)
    (handle : s.sensor.handle = some generator) (goes : Move.stop ∉ schedule)
    (replay : (sensor reading ratePerSec address).runFrom s schedule = some t) :
    ∃ next, Inv ratePerSec t ∧ t.sensor.handle = some next ∧
      t.sensor.address = s.sensor.address ∧ s.sensor.queue.written <+: t.sensor.queue.written ∧
      progress generator s.sensor.queue + schedule.countP Move.isGenerator ≤
        progress next t.sensor.queue := by
  induction schedule generalizing s generator with
  | nil =>
    obtain rfl : s = t := by simpa [System.runFrom] using replay
    exact ⟨generator, inv, handle, rfl, List.prefix_rfl, Nat.le_refl _⟩
  | cons action rest ih =>
    obtain ⟨other, later⟩ : Move.stop ≠ action ∧ Move.stop ∉ rest := by simpa using goes
    simp only [System.runFrom] at replay
    split at replay
    next => cases replay
    next u moved =>
      have after : Inv ratePerSec u := inv.move reading nonzero moved
      suffices one : ∃ next, u.sensor.handle = some next ∧ u.sensor.address = s.sensor.address ∧
          s.sensor.queue.written <+: u.sensor.queue.written ∧
          progress generator s.sensor.queue + [action].countP Move.isGenerator ≤
            progress next u.sensor.queue by
        obtain ⟨next, held, same, written, further⟩ := one
        obtain ⟨last, invLast, heldLast, sameLast, writtenLast, furtherLast⟩ :=
          ih after held later replay
        refine ⟨last, invLast, heldLast, sameLast.trans same, written.trans writtenLast, ?_⟩
        rw [← List.singleton_append, List.countP_append]
        omega
      have joining : s.joining = none := by
        cases inv.owned with
        | rest joining none => exact joining
        | running g joining => exact joining
        | stopping g joining none => simp [none] at handle
      cases action with
      | start =>
        simp only [sensor, move, start_running handle] at moved
        split at moved
        next =>
          obtain rfl := Option.some.inj moved
          exact ⟨generator, handle, rfl, List.prefix_rfl, Nat.le_refl _⟩
        next => cases moved
      | stop => exact absurd rfl other
      | join => simp [sensor, move, join, joining] at moved
      | read =>
        simp only [sensor, move, if_pos joining] at moved
        obtain ⟨queue, moves, rfl⟩ := Option.map_eq_some_iff.mp moved
        obtain ⟨readIdx, reader, received, rfl⟩ := reader_keeps moves
        exact ⟨generator, handle, rfl, List.prefix_rfl, Nat.le_refl _⟩
      | generator random =>
        obtain ⟨next, v, moves, _, held, same, written, further⟩ :=
          generate_running reading inv handle random
        obtain rfl : v = u := Option.some.inj (moves.symm.trans moved)
        exact ⟨next, held, same, written, further⟩

theorem keepsWriting {s : State R} {generator : Generator} (nonzero : ratePerSec ≠ 0)
    (inv : Inv ratePerSec s) (handle : s.sensor.handle = some generator) :
    KeepsWriting (sensor reading ratePerSec address) s := by
  intro schedule t goes replay
  obtain ⟨next, after, held, same, written, further⟩ :=
    running_run nonzero inv handle goes replay
  refine ⟨same, written, ?_, ?_⟩
  · intro random
    obtain ⟨_, u, moved, _⟩ := generate_running reading after held random
    exact Option.isSome_of_eq_some moved
  · have inside : position next t.sensor.queue ≤ 8 := by
      unfold position
      split <;> first | decide | exact place_le _
    simp only [progress, iterationSteps] at further ⊢
    omega

theorem stop_returns {s : State R} {generator : Generator} (inv : Inv ratePerSec s)
    (joining : s.joining = some generator) (random : S) :
    ∃ n t, (sensor reading ratePerSec address).runFrom s
      (List.replicate n (.generator random) ++ [.join]) = some t := by
  -- by induction on the steps that the generator has left
  induction steps : left generator s.sensor.queue using Nat.strong_induction_on
    generalizing s generator with
  | _ steps ih =>
    by_cases ended : generator.pc = .returned
    · refine ⟨0, { s with sensor := { s.sensor with writer := some generator.writer },
                          joining := none }, ?_⟩
      simp [System.runFrom, sensor, move, join, joining, ended]
    · obtain ⟨next, u, moved, after, held, _, nearer⟩ :=
        generate_stopping reading inv joining random ended
      obtain ⟨n, t, replay⟩ := ih _ (steps ▸ nearer) after held rfl
      refine ⟨n + 1, t, ?_⟩
      have first : (sensor reading ratePerSec address).step s (.generator random) = some u := moved
      simp only [List.replicate_succ, List.cons_append, System.runFrom, first, replay]

theorem safe_reachable (nonzero : ratePerSec ≠ 0) {s : State R}
    (reach : (sensor reading ratePerSec address).Reachable s) :
    Safe (sensor reading ratePerSec address) s := by
  have inv := inv_reachable reading nonzero reach
  refine ⟨inv.quiet, ?_, ?_, ?_, ?_⟩
  · intro free
    cases inv.owned with
    | rest joining handle writer => simp [Xor, handle, writer]
    | running generator joining handle writer => simp [Xor, handle, writer]
    | stopping generator joining => simp [free] at joining
  · intro started between
    cases inv.owned with
    | rest joining handle writer idle last => exact absurd started last
    | running generator joining handle =>
      simp only [sensor, move, if_pos between, start_running handle]
    | stopping generator joining => simp [between.1] at joining
  · intro stopped between
    have after := inv.start nonzero between.1
    cases inv.owned with
    | rest joining handle writer =>
      refine ⟨start s, if_pos between, ?_, ?_, ?_⟩
      · rw [start_rest handle writer]
      · rw [start_rest handle writer]
      · apply keepsWriting nonzero after
        rw [start_rest handle writer]
    | running generator joining handle writer flag sound loops last => exact absurd last stopped
    | stopping generator joining => simp [between.1] at joining
  · intro waits random
    obtain ⟨generator, joining⟩ := Option.ne_none_iff_exists'.mp waits
    exact stop_returns inv joining random

/-- At rate 0 the first iteration panics, between its write and its sleep. -/
theorem zero_panics (reading : S → R) (address : Nat) (random : S) :
    ∃ s, (sensor reading 0 address).run (.start :: List.replicate 7 (.generator random)) = some s ∧
      s.panics = [.divideByZero] := by
  have room : (maxQueueSize - 1) % 2 = 1 := rfl
  have slot : 0 < maxQueueSize := by decide
  simp [System.run, System.runFrom, List.replicate_succ, sensor, move, Between, idleReader, start, generate,
    advance, step, writerStep, threads, State.withQueue, idle, sleepMillis, RWRoundQueue.writeSlot,
    RWRoundQueue.nextIndex, room, slot]

theorem safe_iff [Inhabited S] :
    (∀ s, (sensor reading ratePerSec address).Reachable s →
      Safe (sensor reading ratePerSec address) s) ↔ ratePerSec ≠ 0 := by
  constructor
  · rintro safe rfl
    obtain ⟨s, replay, panics⟩ := zero_panics reading address default
    have quiet := (safe s (System.reachable_of_run replay)).noPanic
    simp [panics] at quiet
  · intro nonzero s reach
    exact safe_reachable nonzero reach

end Safety

/-- A sensor of any kind is safe in every run exactly when its rate is not 0. -/
theorem sensors_safe_iff {F : Type} [Add F] [Mul F] [NatCast F] [Inhabited F] (ratePerSec : UInt32)
    (address : Nat) :
    ((∀ s, (thermometer (F := F) ratePerSec address).Reachable s →
        Safe (thermometer ratePerSec address) s) ↔ ratePerSec ≠ 0) ∧
    ((∀ s, (accelerometer (F := F) ratePerSec address).Reachable s →
        Safe (accelerometer ratePerSec address) s) ↔ ratePerSec ≠ 0) ∧
    ((∀ s, (forceSensor (F := F) ratePerSec address).Reachable s →
        Safe (forceSensor ratePerSec address) s) ↔ ratePerSec ≠ 0) :=
  ⟨safe_iff, safe_iff, safe_iff⟩

/-- Started at rate 0, stopped after one iteration, and started again. -/
def zeroRate : List (Move Int) :=
  .start :: List.replicate 7 (.generator 0) ++ [.stop, .join, .start]

/-- The first write is followed by a panic. `stop` and the next `start` panic as well, and between
them no one has the writer. -/
theorem zero_rate_unsafe :
    (∃ s, (thermometer (F := Int) 0 0).run (zeroRate.take 8) = some s ∧
      s.sensor.queue.written = [(1, ⟨20⟩)] ∧ s.panics = [.divideByZero]) ∧
    (∃ s, (thermometer (F := Int) 0 0).run (zeroRate.take 10) = some s ∧ s.joining = none ∧
      s.sensor.writer = none ∧ s.sensor.handle = none ∧
      s.panics = [.divideByZero, .threadPanicked] ∧ ¬ Safe (thermometer 0 0) s) ∧
    (∃ s, (thermometer (F := Int) 0 0).run zeroRate = some s ∧
      s.panics = [.divideByZero, .threadPanicked, .startCalledTwice]) := by
  have first : ((thermometer (F := Int) 0 0).run (zeroRate.take 8)).map
      (fun s => (s.sensor.queue.written, s.panics)) = some ([(1, ⟨20⟩)], [.divideByZero]) := by
    decide +kernel
  have second : ((thermometer (F := Int) 0 0).run (zeroRate.take 10)).map
      (fun s => (s.joining, s.sensor.writer, s.sensor.handle, s.panics)) =
      some (none, none, none, [.divideByZero, .threadPanicked]) := by
    decide +kernel
  have third : ((thermometer (F := Int) 0 0).run zeroRate).map (·.panics) =
      some [.divideByZero, .threadPanicked, .startCalledTwice] := by
    decide +kernel
  obtain ⟨s, replay, seen⟩ := Option.map_eq_some_iff.mp first
  obtain ⟨t, again, found⟩ := Option.map_eq_some_iff.mp second
  obtain ⟨u, last, panics⟩ := Option.map_eq_some_iff.mp third
  simp only [Prod.mk.injEq] at seen found
  obtain ⟨joining, writer, handle, both⟩ := found
  refine ⟨⟨s, replay, seen⟩, ⟨t, again, joining, writer, handle, both, ?_⟩, ⟨u, last, panics⟩⟩
  intro safe
  simpa [Xor, writer, handle] using safe.oneOwner joining

end SensorGateway.SensorSim.Lifecycle

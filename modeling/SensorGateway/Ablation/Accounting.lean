import Mathlib.Algebra.BigOperators.Group.Finset.Piecewise
import Mathlib.Algebra.Order.BigOperators.Group.Finset
import Mathlib.Data.Rat.Defs
import SensorGateway.Queue.RoundQueueSequential
import SensorGateway.Reader.Drain

/-! The loss accounting of the ablation experiment. Its readers run the loop of the gateway's; before
each drain loop they compare the backlog of their sensor with a threshold and count what is above it
as lost. The readers share the buffer, the stop flag and the counters. -/

namespace SensorGateway.Ablation.Accounting
open SensorGateway.Lib.Transition SensorGateway.Types
open Polling.Governor Polling.Control Queue.RoundQueue Queue.RoundQueueSequential Buffer.Manager
open Queue.RoundQueueThreads (Stamped)
open Reader.Drain (Ring inHand)

/-- `SENSOR_OVERFLOW_EVENTS` and `SENSOR_LOST_READINGS`. -/
structure Counters where
  overflowEvents : Nat
  lostReadings : Nat
  deriving DecidableEq, Repr

def getOverflowThreshold (_sensorId : String) : Nat := 0

/-- The readings that a reader counts as lost. -/
def lost (sensorId : String) (availableBefore : Nat) : Nat :=
  availableBefore - getOverflowThreshold sensorId

def Counters.probe (counters : Counters) (sensorId : String) (availableBefore : Nat) : Counters :=
  if getOverflowThreshold sensorId ≤ availableBefore then
    let lost := lost sensorId availableBefore
    { overflowEvents := counters.overflowEvents + 1
      lostReadings := if 0 < lost then counters.lostReadings + lost else counters.lostReadings }
  else counters

variable {ι : Type} {R : ι → Type} {F : Type}

/-- What `main` gives its readers. -/
structure Config (ι : Type) (R : ι → Type) (F : Type) where
  sid : ι → String
  valueFn : (i : ι) → R i → F
  governorCfg : AdaptivePollingConfig
  manager : SensorBufferManager

def Config.reader (cfg : Config ι R F) (i : ι) : Reader.Threads.ReaderConfig (R i) F :=
  ⟨cfg.sid i, cfg.valueFn i, cfg.governorCfg, cfg.manager⟩

structure State (ι : Type) (R : ι → Type) (F : Type) where
  /-- Each reader with its sensor. Their own `stop` and `buffer` are not looked at. -/
  readers : (i : ι) → Reader.Threads.State (R i) F
  stop : Bool
  buffer : Inner (ReadingEnvelope F)
  counters : Counters
  /-- The readings that have been counted as lost. -/
  counted : List ((i : ι) × Stamped (R i))

/-- A step of a reader, of its sensor or of a thread beside it. -/
structure Move (ι : Type) (R : ι → Type) (F : Type) where
  reader : ι
  move : Reader.Threads.Move (R reader) F

/-- Only the readers push. -/
def pushesBeside {R : Type} : Reader.Threads.Move R F → Bool
  | .call (.push _) | .call (.tryPush _) | .resume _ _ (.push _) => true
  | _ => false

/-- The step loads `available_before`. -/
def probes {R : Type} (s : Reader.Threads.State R F) : Reader.Threads.Move R F → Bool
  | .reader _ =>
    match s.reader with
    | .probingBefore => true
    | _ => false
  | _ => false

/-- The readings in the ring, oldest first. -/
def unread {R : Type} (queue : RWRoundQueue (Stamped R)) : List (Stamped R) :=
  match queue.readUpTo queue.len with
  | .ok (readings, _) => readings
  | .error _ => []

def State.view (s : State ι R F) (i : ι) : Reader.Threads.State (R i) F :=
  { s.readers i with stop := s.stop, buffer := s.buffer }

def State.probed (s : State ι R F) (cfg : Config ι R F) (i : ι)
    (queue : RWRoundQueue (Stamped (R i))) : State ι R F :=
  { s with
    counters := s.counters.probe (cfg.sid i) queue.len
    counted := s.counted ++ ((unread queue).take (lost (cfg.sid i) queue.len)).map fun r => ⟨i, r⟩ }

variable [DecidableEq ι]

def step (cfg : Config ι R F) (s : State ι R F) (move : Move ι R F) : Option (State ι R F) :=
  let i := move.reader
  if pushesBeside move.move then none
  else
    match Reader.Threads.step (cfg.reader i) (s.view i) move.move with
    | none => none
    | some next =>
      let after :=
        { s with readers := Function.update s.readers i next, stop := next.stop, buffer := next.buffer }
      if probes (s.readers i) move.move then some (after.probed cfg i (s.readers i).sensor.queue)
      else some after

/-- All readers at the head of their loops; the sensors have been started. -/
def ablation [∀ i, Inhabited (R i)] (cfg : Config ι R F) (now : SystemTime) :
    System (State ι R F) (Move ι R F) where
  init := {
    readers := fun i => (Reader.Threads.reader (cfg.reader i) now).init
    stop := false
    buffer := .new
    counters := ⟨0, 0⟩
    counted := [] }
  step := step cfg

/-- The report of `main`, in per cent. -/
def State.dataLossRate (s : State ι R F) : ℚ :=
  let totalPushed := s.buffer.totalPushed
  let totalPopped := s.buffer.totalPopped
  let sensorLost := s.counters.lostReadings
  let totalGenerated := totalPushed + sensorLost
  if 0 < totalGenerated then
    let lostTotal := sensorLost + (totalPushed - totalPopped)
    (lostTotal : ℚ) / totalGenerated * 100
  else 0

/-- The accounting agrees with what has happened. -/
structure Consistent [Fintype ι] (s : State ι R F) : Prop where
  once : ∀ i, ∀ entry ∈ (s.readers i).pushed, ⟨i, entry.1⟩ ∉ s.counted
  bounded : s.buffer.totalPushed + s.counters.lostReadings ≤
    Finset.univ.sum fun i => (s.readers i).written.length
  lossless : (∀ i, (s.readers i).overwritten = []) → s.buffer.q = [] → s.dataLossRate = 0

/-- A reader that looks for a backlog finds its ring empty. -/
def ProbesEmpty (s : State ι R F) (move : Move ι R F) : Prop :=
  probes (s.readers move.reader) move.move = true → (s.readers move.reader).sensor.queue.len = 0

instance (s : State ι R F) (move : Move ι R F) : Decidable (ProbesEmpty s move) :=
  inferInstanceAs (Decidable (_ → _))

/-! What one step moves, seen from its reader. -/

/-- The readings of one reader and the shared buffer. -/
structure Stock (R F : Type) where
  queue : RWRoundQueue (Stamped R)
  written : List (Stamped R)
  overwritten : List (Stamped R)
  taken : List (Stamped R)
  hand : List (Stamped R × ReadingEnvelope F)
  pushed : List (Stamped R × ReadingEnvelope F)
  buffer : Core (ReadingEnvelope F)

section OneReader
open Reader.Threads
variable {R : Type} {cfg : ReaderConfig R F} {s t : Reader.Threads.State R F}

def stock (s : Reader.Threads.State R F) : Stock R F :=
  ⟨s.sensor.queue, s.written, s.overwritten, s.taken, inHand s.reader, s.pushed, s.buffer.core⟩

/-- Everything a step can do to them, if nobody beside the reader pushes. -/
inductive Moves (a : Stock R F) : Stock R F → Prop
  | stay : Moves a a
  | discard : Moves a { a with hand := [] }
  | look (queue : RWRoundQueue (Stamped R)) (read : a.queue.tryRead = .ok (none, queue)) :
      Moves a { a with queue }
  | take (reading : Stamped R) (item : ReadingEnvelope F) (queue : RWRoundQueue (Stamped R))
      (free : a.hand = []) (read : a.queue.tryRead = .ok (some reading, queue)) :
      Moves a { a with queue, taken := a.taken ++ [reading], hand := [(reading, item)] }
  | push (entry : Stamped R × ReadingEnvelope F) (held : a.hand = [entry]) :
      Moves a { a with
        hand := [], pushed := a.pushed ++ [entry], buffer := a.buffer.accept entry.2 }
  | write (reading : R) (wasFull : Bool) (queue : RWRoundQueue (Stamped R))
      (write : a.queue.writeOverwrite (a.written.length + 1, reading) = .ok (wasFull, queue)) :
      Moves a { a with
        queue, written := a.written ++ [(a.written.length + 1, reading)],
        overwritten := a.overwritten ++ dropped a.queue wasFull }
  | pop (item : ReadingEnvelope F) (rest : List (ReadingEnvelope F)) (head : a.buffer.q = item :: rest) :
      Moves a { a with buffer := a.buffer.deliver rest }
  | close : Moves a { a with buffer := a.buffer.close }

/-- What a call beside the readers does to the buffer. -/
inductive Serves (c : Core (ReadingEnvelope F)) : Core (ReadingEnvelope F) → Prop
  | same : Serves c c
  | pop (item : ReadingEnvelope F) (rest : List (ReadingEnvelope F)) (head : c.q = item :: rest) :
      Serves c (c.deliver rest)
  | close : Serves c c.close

theorem popFront_serves (inner : Inner (ReadingEnvelope F))
    (finish : Option (ReadingEnvelope F) → Done (ReadingEnvelope F)) :
    Serves inner.core (inner.popFront finish).2.core := by
  unfold Inner.popFront
  cases queue : inner.q with
  | nil => exact .same
  | cons item rest => exact .pop item rest queue

theorem popBlocking_serves (inner : Inner (ReadingEnvelope F)) :
    Serves inner.core (SensorBufferManager.popBlocking inner).2.core := by
  unfold SensorBufferManager.popBlocking
  split
  · exact .same
  · exact popFront_serves inner _

theorem popTimeout_serves (remaining : Nat) (inner : Inner (ReadingEnvelope F)) :
    Serves inner.core (SensorBufferManager.popTimeout remaining inner).2.core := by
  unfold SensorBufferManager.popTimeout
  split
  · split <;> exact .same
  · exact popFront_serves inner _

theorem beside_serves (manager : SensorBufferManager) (inner : Inner (ReadingEnvelope F))
    {call : Call (ReadingEnvelope F)}
    (beside : pushesBeside (R := R) (.call call) = false) :
    Serves inner.core (manager.enter inner call).2.core := by
  cases call with
  | push _ | tryPush _ => cases beside
  | tryPop => exact popFront_serves inner _
  | popBlocking => exact popBlocking_serves inner
  | popTimeout timeout => exact popTimeout_serves timeout inner
  | shutdown => exact .close

theorem resume_serves (manager : SensorBufferManager) (inner : Inner (ReadingEnvelope F))
    {waited : Nat} {timedOut : Bool} {wait : Wait (ReadingEnvelope F)}
    (beside : pushesBeside (R := R) (.resume waited timedOut wait) = false) :
    Serves inner.core (manager.resume inner waited timedOut wait).2.core := by
  cases wait with
  | push _ => cases beside
  | popBlocking =>
    exact popBlocking_serves { inner with popWaitNsTotal := inner.popWaitNsTotal + waited }
  | popTimeout remaining =>
    cases timedOut with
    | true => exact .same
    | false =>
      exact popTimeout_serves (remaining - waited)
        { inner with popWaitNsTotal := inner.popWaitNsTotal + waited }

theorem Serves.moves {buffer : Inner (ReadingEnvelope F)} (serves : Serves s.buffer.core buffer.core) :
    Moves (stock s) (stock { s with buffer }) := by
  have same : stock { s with buffer } = { stock s with buffer := buffer.core } := rfl
  rw [same]
  generalize buffer.core = after at serves
  cases serves with
  | same => exact .stay
  | pop item rest head => exact .pop item rest head
  | close => exact .close

theorem pushLoop_moves {reading : Stamped R} {item : ReadingEnvelope F}
    (held : inHand s.reader = [(reading, item)]) {inner : Inner (ReadingEnvelope F)}
    (same : inner.core = s.buffer.core) :
    Moves (stock s) (stock (pushed s reading item (cfg.manager.pushLoop item inner))) := by
  unfold SensorBufferManager.pushLoop
  split
  · have stays : stock { s with
        buffer := { inner with pushWaitCount := inner.pushWaitCount + 1 },
        reader := .waiting reading item } = stock s := by
      simp only [stock, held, ← same]
      rfl
    exact stays ▸ .stay
  · split
    · have drops : stock { s with buffer := inner, reader := .refused } =
          { stock s with hand := [] } := by
        simp only [stock, inHand, same]
      exact drops ▸ .discard
    · have puts : stock { s with
          buffer := inner.pushBack item, reader := .reading, pushed := s.pushed ++ [(reading, item)] } =
          { stock s with
            hand := [], pushed := (stock s).pushed ++ [(reading, item)],
            buffer := (stock s).buffer.accept item } := by
        simp only [stock, inHand, ← same]
        simp [Inner.core, Inner.pushBack, Core.accept]
      exact puts ▸ .push (reading, item) held

theorem push_moves {reading : Stamped R} {item : ReadingEnvelope F}
    (held : inHand s.reader = [(reading, item)]) :
    Moves (stock s) (stock (pushed s reading item (cfg.manager.push item s.buffer))) := by
  unfold SensorBufferManager.push
  split
  · exact .discard
  · exact pushLoop_moves held rfl

theorem stopSensor_moves (s : Reader.Threads.State R F) (instant : Instant) (resume : Resume) :
    Moves (stock s) (stock (stopSensor s instant resume)) := by
  unfold stopSensor
  split
  · cases resume <;> exact .discard
  · exact .discard

theorem readerStep_stock {clock : Clock} (moved : readerStep cfg s clock = some t) :
    Moves (stock s) (stock t) := by
  cases readerStep_acts moved with
  | shutDown rest =>
    exact stopSensor_moves { s with commands := rest, stop := true } clock.instant .command
  | joined resume => cases resume <;> exact .discard
  | stopFlagged => exact stopSensor_moves s clock.instant .stopFlag
  | foundEmpty queue pc read =>
    have looks : stock { s with sensor := { s.sensor with queue }, reader := .probingAfter } =
        { stock s with queue } := by
      simp only [stock, pc]
      rfl
    exact looks ▸ .look queue read
  | took reading queue pc read =>
    have free : inHand s.reader = [] := by rw [pc]; rfl
    exact .take reading _ queue free read
  | push reading item pc => exact push_moves (by rw [pc]; rfl)
  | gaveUp => exact stopSensor_moves { s with stop := true } clock.instant .failedPush
  | listened | obeyed | signalled | passed | probed | probedAgain | panicked | reported | left
  | stayed | woke | cleaned | stopsLast | lastReported => exact .discard

theorem step_moves {move : Reader.Threads.Move R F} (beside : pushesBeside move = false)
    (moved : Reader.Threads.step cfg s move = some t) : Moves (stock s) (stock t) := by
  cases move with
  | reader clock => exact readerStep_stock moved
  | wake waited =>
    cases pc : s.reader <;> simp only [Reader.Threads.step, pc, Option.some.injEq, reduceCtorEq] at moved
    rw [← moved]
    exact pushLoop_moves (by rw [pc]; rfl) rfl
  | generator reading =>
    cases generatorStep_acts moved with
    | tested | slept => exact .stay
    | wrote wasFull queue pc write => exact .write reading wasFull queue write
  | command mode => exact Option.some.inj moved ▸ .stay
  | setStop value => exact Option.some.inj moved ▸ .stay
  | call call =>
    rw [← Option.some.inj moved]
    exact (beside_serves cfg.manager s.buffer beside).moves
  | resume waited timedOut wait =>
    rw [← Option.some.inj moved]
    exact (resume_serves cfg.manager s.buffer beside).moves

/-- The ring holds what it should, and the reader has pushed no more than it has taken. -/
structure Orderly (a : Stock R F) : Prop where
  ring : ∃ first rest, Ring a.queue a.written a.overwritten a.taken first rest
  handed : a.pushed.length + a.hand.length ≤ a.taken.length

theorem Moves.orderly {a b : Stock R F} (moves : Moves a b) (orderly : Orderly a) : Orderly b := by
  obtain ⟨⟨first, rest, ring⟩, handed⟩ := orderly
  cases moves with
  | stay => exact ⟨⟨first, rest, ring⟩, handed⟩
  | discard => exact ⟨⟨first, rest, ring⟩, (Nat.le_add_right _ _).trans handed⟩
  | look queue read =>
    obtain ⟨same, -⟩ := ring.readNone read
    exact ⟨⟨first, rest, same ▸ ring⟩, handed⟩
  | take reading item queue free read =>
    refine ⟨⟨first + 1, rest.tail, ring.read read⟩, ?_⟩
    simp only [free, List.length_nil] at handed
    simp only [List.length_append, List.length_singleton]
    omega
  | push entry held =>
    refine ⟨⟨first, rest, ring⟩, ?_⟩
    simp only [held, List.length_singleton] at handed
    simpa using handed
  | write reading wasFull queue write => exact ⟨ring.write write, handed⟩
  | pop item rest head => exact ⟨⟨first, _, ring⟩, handed⟩
  | close => exact ⟨⟨first, rest, ring⟩, handed⟩

/-- The buffer counts what the reader pushes. -/
theorem Moves.total {a b : Stock R F} (moves : Moves a b) :
    b.buffer.totalPushed + a.pushed.length = a.buffer.totalPushed + b.pushed.length := by
  cases moves with
  | push entry held =>
    simp only [Core.accept, List.length_append, List.length_singleton]
    omega
  | _ => rfl

/-- What has been pushed and not popped is in the queue. -/
def Balanced (c : Core (ReadingEnvelope F)) : Prop := c.totalPushed = c.totalPopped + c.q.length

theorem Moves.balanced {a b : Stock R F} (moves : Moves a b) (balanced : Balanced a.buffer) :
    Balanced b.buffer := by
  unfold Balanced at balanced ⊢
  cases moves with
  | push entry held =>
    simp only [Core.accept, List.length_append, List.length_singleton]
    omega
  | pop item rest head =>
    simp only [head, List.length_cons] at balanced
    simp only [Core.deliver]
    omega
  | _ => exact balanced

end OneReader

theorem probe_lostReadings (counters : Counters) (sensorId : String) (availableBefore : Nat) :
    (counters.probe sensorId availableBefore).lostReadings =
      counters.lostReadings + availableBefore := by
  have all : lost sensorId availableBefore = availableBefore := rfl
  have above : getOverflowThreshold sensorId ≤ availableBefore := Nat.zero_le availableBefore
  rw [Counters.probe, if_pos above]
  dsimp only
  rw [all]
  split
  · rfl
  · omega

variable {cfg : Config ι R F} {s t : State ι R F} {move : Move ι R F}

/-- A step moves the data of its reader and the buffer, and counts the backlog if it is a probe. -/
theorem step_cases (moved : step cfg s move = some t) :
    ∃ next, Moves (stock (s.view move.reader)) (stock next) ∧
      t.readers = Function.update s.readers move.reader next ∧ t.buffer = next.buffer ∧
      (probes (s.readers move.reader) move.move = true ∧
          t.counters =
            s.counters.probe (cfg.sid move.reader) (s.readers move.reader).sensor.queue.len ∧
          t.counted = s.counted ++ ((unread (s.readers move.reader).sensor.queue).take
            (lost (cfg.sid move.reader) (s.readers move.reader).sensor.queue.len)).map (⟨_, ·⟩) ∨
        probes (s.readers move.reader) move.move = false ∧ t.counters = s.counters ∧
          t.counted = s.counted) := by
  simp only [step] at moved
  split at moved
  · cases moved
  next beside =>
    split at moved
    · cases moved
    next next reads =>
      have moves := step_moves (by simpa using beside) reads
      split at moved
      next probing =>
        rw [← Option.some.inj moved]
        exact ⟨next, moves, rfl, rfl, Or.inl ⟨probing, rfl, rfl⟩⟩
      next quiet =>
        rw [← Option.some.inj moved]
        exact ⟨next, moves, rfl, rfl, Or.inr ⟨by simpa using quiet, rfl, rfl⟩⟩

/-- The counter grows by the backlog of each probe. -/
theorem step_lost (moved : step cfg s move = some t) :
    t.counters.lostReadings = s.counters.lostReadings +
      if probes (s.readers move.reader) move.move = true then
        (s.readers move.reader).sensor.queue.len else 0 := by
  obtain ⟨next, _, _, _, ⟨probing, counters, _⟩ | ⟨quiet, counters, _⟩⟩ := step_cases moved
  · rw [counters, probe_lostReadings, if_pos probing]
  · rw [counters, quiet]
    rfl

theorem step_lost_iff (moved : step cfg s move = some t) :
    t.counters.lostReadings = s.counters.lostReadings ↔ ProbesEmpty s move := by
  rw [step_lost moved]
  unfold ProbesEmpty
  split <;> simp [*]

section Runs
variable [∀ i, Inhabited (R i)] {now : SystemTime}

/-- A run counts nothing as lost exactly when each of its probes finds the ring empty. -/
theorem run_lost {schedule : List (Move ι R F)}
    (replay : (ablation cfg now).runFrom s schedule = some t) :
    s.counters.lostReadings ≤ t.counters.lostReadings ∧
      (t.counters.lostReadings = s.counters.lostReadings ↔
        (ablation cfg now).EachStepFrom (fun u move _ => ProbesEmpty u move) s schedule) := by
  induction schedule generalizing s with
  | nil =>
    obtain rfl : s = t := by simpa [System.runFrom] using replay
    exact ⟨le_rfl, by simp [System.EachStepFrom]⟩
  | cons move rest ih =>
    simp only [System.runFrom] at replay
    cases moved : (ablation cfg now).step s move with
    | none => simp [moved] at replay
    | some u =>
      simp only [moved] at replay
      obtain ⟨grows, same⟩ := ih replay
      have first := step_lost_iff moved
      have further : s.counters.lostReadings ≤ u.counters.lostReadings := by
        rw [step_lost moved]
        exact Nat.le_add_right _ _
      simp only [System.EachStepFrom, moved, ← same, ← first]
      omega

end Runs

variable [Fintype ι]

/-- A sum in which one term is exchanged. -/
theorem sum_update (f : ι → Nat) (i : ι) (n : Nat) :
    Finset.univ.sum (Function.update f i n) + f i = Finset.univ.sum f + n := by
  rw [Finset.sum_update_of_mem (Finset.mem_univ i),
    ← Finset.add_sum_erase Finset.univ f (Finset.mem_univ i), Finset.sdiff_singleton_eq_erase]
  omega

theorem unread_length {R : Type} {queue : RWRoundQueue (Stamped R)}
    {written overwritten taken rest : List (Stamped R)} {first : Nat}
    (ring : Ring queue written overwritten taken first rest) :
    (unread queue).length = queue.len := by
  obtain ⟨_, _, reads, _, _⟩ := readUpTo_holds ring.holds queue.len
  simp only [unread, reads]
  rw [ring.holds.len, List.take_length]

structure Sound (s : State ι R F) : Prop where
  orderly : ∀ i, Orderly (stock (s.readers i))
  counts : s.counted.length = s.counters.lostReadings
  total : s.buffer.totalPushed = Finset.univ.sum fun i => (s.readers i).pushed.length
  balanced : Balanced s.buffer.core

theorem Sound.step (sound : Sound s) (moved : step cfg s move = some t) : Sound t := by
  obtain ⟨next, moves, readers, buffer, counting⟩ := step_cases moved
  have before := sound.orderly move.reader
  refine ⟨?_, ?_, ?_, ?_⟩
  · intro i
    rw [readers]
    by_cases same : i = move.reader
    · subst same
      rw [Function.update_self]
      exact moves.orderly ⟨before.ring, before.handed⟩
    · rw [Function.update_of_ne same]
      exact sound.orderly i
  · obtain ⟨_, counters, counted⟩ | ⟨_, counters, counted⟩ := counting
    · obtain ⟨first, rest, ring⟩ := before.ring
      have backlog : (unread (s.readers move.reader).sensor.queue).length =
          (s.readers move.reader).sensor.queue.len := unread_length ring
      rw [counters, counted, probe_lostReadings, List.length_append, List.length_map,
        List.length_take, backlog, sound.counts]
      exact congrArg _ (Nat.min_self _)
    · rw [counters, counted]
      exact sound.counts
  · have lengths : (fun i => (t.readers i).pushed.length) =
        Function.update (fun i => (s.readers i).pushed.length) move.reader next.pushed.length := by
      rw [readers]
      funext i
      exact Function.apply_update (fun i (r : Reader.Threads.State (R i) F) => r.pushed.length)
        s.readers move.reader next i
    have counts := moves.total
    have exchanged := sum_update (fun i => (s.readers i).pushed.length) move.reader
      next.pushed.length
    simp only [stock, State.view, Inner.core, sound.total] at counts
    rw [lengths, buffer]
    omega
  · rw [buffer]
    exact moves.balanced sound.balanced

theorem sound_reachable [∀ i, Inhabited (R i)] {now : SystemTime}
    (reach : (ablation cfg now).Reachable s) : Sound s := by
  apply System.Reaches.invariant reach Sound
  · refine ⟨fun _ => ⟨⟨0, [], Ring.start⟩, Nat.zero_le 0⟩, rfl, ?_, rfl⟩
    simp [ablation, Reader.Threads.reader, Inner.new]
  · intro u move v sound moved
    exact sound.step moved

omit [DecidableEq ι] in
theorem Sound.generated (sound : Sound s) :
    s.buffer.totalPushed ≤ Finset.univ.sum fun i => (s.readers i).written.length := by
  rw [sound.total]
  apply Finset.sum_le_sum
  intro i _
  have orderly := sound.orderly i
  obtain ⟨first, rest, ring⟩ := orderly.ring
  calc
    (s.readers i).pushed.length ≤ (s.readers i).taken.length :=
      (Nat.le_add_right _ _).trans orderly.handed
    _ ≤ (s.readers i).written.length :=
      (ring.inOrder.trans (List.take_sublist first _)).length_le

omit [DecidableEq ι] in
/-- Once the buffer is empty, only what has been counted as lost is reported as lost. -/
theorem Sound.rate_eq_zero_iff (sound : Sound s) (drained : s.buffer.q = []) :
    s.dataLossRate = 0 ↔ s.counters.lostReadings = 0 := by
  have balanced : s.buffer.totalPushed = s.buffer.totalPopped + s.buffer.q.length := sound.balanced
  rw [drained, List.length_nil, Nat.add_zero] at balanced
  simp only [State.dataLossRate, balanced, Nat.sub_self, Nat.add_zero]
  split
  next some =>
    have total : ¬s.buffer.totalPopped + s.counters.lostReadings = 0 := some.ne'
    have hundred : (100 : ℚ) ≠ 0 := by norm_num
    simp only [mul_eq_zero, div_eq_zero_iff, Nat.cast_eq_zero, total, hundred, or_false]
  next none =>
    have nothing : s.counters.lostReadings = 0 := by omega
    simp only [nothing]

omit [DecidableEq ι] in
theorem Sound.consistent (sound : Sound s) (nothing : s.counters.lostReadings = 0) :
    Consistent s where
  once := by
    have none : s.counted = [] := List.length_eq_zero_iff.mp (sound.counts.trans nothing)
    simp [none]
  bounded := by
    rw [nothing, Nat.add_zero]
    exact sound.generated
  lossless := fun _ drained => (sound.rate_eq_zero_iff drained).mpr nothing

/-- The accounting is consistent throughout a run whose probes all find their rings empty. In a run
that overwrites nothing and pops the buffer empty it is consistent in no other case. -/
theorem loss_accounting [∀ i, Inhabited (R i)] (cfg : Config ι R F) (now : SystemTime) :
    (∀ s, (ablation cfg now).ReachableUnder ProbesEmpty s → Consistent s) ∧
    ∀ schedule s, (ablation cfg now).run schedule = some s →
      (∀ i, (s.readers i).overwritten = []) → s.buffer.q = [] →
      (Consistent s ↔
        (ablation cfg now).EachStep (fun u move _ => ProbesEmpty u move) schedule) := by
  constructor
  · intro s reach
    apply (sound_reachable reach.reaches).consistent
    apply reach.invariant (fun s => s.counters.lostReadings = 0) rfl
    intro u move v _ nothing empty moved
    exact ((step_lost_iff moved).mpr empty).trans nothing
  · intro schedule s replay kept drained
    have sound := sound_reachable (System.reachable_of_run replay)
    have counts : s.counters.lostReadings = 0 ↔
        (ablation cfg now).EachStep (fun u move _ => ProbesEmpty u move) schedule :=
      (run_lost replay).2
    rw [← counts]
    constructor
    · intro consistent
      exact (sound.rate_eq_zero_iff drained).mp (consistent.lossless kept drained)
    · exact sound.consistent

def fiveSensors : Config (Fin 5) (fun _ => Nat) ℚ where
  sid := ["thermo-1", "thermo-2", "accel-1", "accel-2", "force-1"].get
  valueFn := fun _ reading => reading
  governorCfg := .default
  manager := ⟨1024, by decide⟩

def turn : Move (Fin 5) (fun _ => Nat) ℚ := ⟨0, .reader ⟨0, 0⟩⟩

/-- The generator tests `running` and writes one reading. -/
def oneWrite : List (Move (Fin 5) (fun _ => Nat) ℚ) := [⟨0, .generator 7⟩, ⟨0, .generator 7⟩]

/-- From the head of the loop to the drain loop. -/
def toDrain : List (Move (Fin 5) (fun _ => Nat) ℚ) := [turn, turn, turn]

/-- One reading is read, pushed and popped. -/
def handOn : List (Move (Fin 5) (fun _ => Nat) ℚ) := [turn, turn, ⟨0, .call .tryPop⟩]

/-- A reading that is there at the probe is reported as lost and has been aggregated. -/
theorem counted_and_pushed :
    ∃ s, (ablation fiveSensors 0).run (oneWrite ++ toDrain ++ handOn) = some s ∧
      s.counted.map (fun entry => (entry.1, entry.2.1)) = [(0, 1)] ∧
      (s.readers 0).pushed.map (fun entry => entry.1.1) = [1] ∧
      s.buffer.totalPushed + s.counters.lostReadings = 2 ∧
      (Finset.univ.sum fun i => (s.readers i).written.length) = 1 ∧
      (∀ i, (s.readers i).overwritten = []) ∧ s.buffer.q = [] ∧ s.dataLossRate = 50 ∧
      ¬ Consistent s := by
  have numbers : ((ablation fiveSensors 0).run (oneWrite ++ toDrain ++ handOn)).map (fun s =>
      (s.counted.map (fun entry => (entry.1, entry.2.1)),
        (s.readers 0).pushed.map (fun entry => entry.1.1),
        s.buffer.totalPushed + s.counters.lostReadings,
        (Finset.univ.sum fun i => (s.readers i).written.length))) = some ([(0, 1)], [1], 2, 1) := by
    decide +kernel
  have rest : ((ablation fiveSensors 0).run (oneWrite ++ toDrain ++ handOn)).map (fun s =>
      ((fun i => (s.readers i).overwritten), s.buffer.q, s.dataLossRate)) =
      some ((fun _ => []), [], 50) := by
    decide +kernel
  obtain ⟨s, replay, counts⟩ := Option.map_eq_some_iff.mp numbers
  rw [replay, Option.map_some, Option.some.injEq] at rest
  simp only [Prod.mk.injEq] at counts rest
  obtain ⟨counted, pushed, generated, written⟩ := counts
  obtain ⟨kept, drained, rate⟩ := rest
  refine ⟨s, replay, counted, pushed, generated, written, congrFun kept, drained, rate, ?_⟩
  intro consistent
  have bounded := consistent.bounded
  omega

/-- A reading that is written behind the probe is not. -/
theorem loss_accounting_empty_probe :
    ∃ s, (ablation fiveSensors 0).run (toDrain ++ oneWrite ++ handOn) = some s ∧
      (s.readers 0).pushed.map Prod.fst = [(1, 7)] ∧ s.buffer.q = [] ∧ Consistent s := by
  have seen : (((ablation fiveSensors 0).guarded ProbesEmpty).run (toDrain ++ oneWrite ++ handOn)).map
      (fun s => ((s.readers 0).pushed.map Prod.fst, (fun i => (s.readers i).overwritten),
        s.buffer.q)) =
      some ([(1, 7)], (fun _ => []), []) := by
    decide +kernel
  obtain ⟨s, guarded, data⟩ := Option.map_eq_some_iff.mp seen
  simp only [Prod.mk.injEq] at data
  obtain ⟨pushed, kept, drained⟩ := data
  obtain ⟨replay, each⟩ := System.runFrom_of_guarded guarded
  exact ⟨s, replay, pushed, drained,
    ((loss_accounting fiveSensors 0).2 _ s replay (congrFun kept) drained).mpr each⟩

end SensorGateway.Ablation.Accounting

import Mathlib.Data.Fintype.Option
import Mathlib.Data.List.FinRange
import SensorGateway.Buffer.Calls
import SensorGateway.Types

/-! The micro-benchmark `run_micro`: for each sensor a thread that counts readings into a ring of which
only the fill is kept and a reader thread that takes them out and pushes them into a
`SensorBufferManager`, one consumer, and `main`, which stops and joins them all. An action is one atomic
access, one critical section of the buffer, or one thing that happens to a waiting thread. Sleeps and the
governor set only how long a thread takes and are left to the interleaving. -/

namespace SensorGateway.Bench.Micro
open SensorGateway.Lib.Transition SensorGateway.Lib.Saturating SensorGateway.Types
open Buffer.Manager Buffer.Threads Buffer.Calls

/-- `RING_CAP`. -/
def ringCap : Nat := 128

/-- Where a sensor's thread is. -/
inductive Sensor where
  | checkStop
  | load
  /-- It has loaded a fill below `RING_CAP`. -/
  | add
  | overwrite
  | done
  deriving DecidableEq

/-- Where a reader's thread is. -/
inductive Reader where
  | checkStop
  /-- `stop` is set; about to load the fill. -/
  | checkAvail
  /-- About to ask for its sleep, and to sleep. -/
  | poll
  /-- At the head of its inner loop. -/
  | whileAvail
  | load
  | exchange (cur : Nat)
  /-- About to call `push`, or inside it. -/
  | push (env : ReadingEnvelope Nat)
  | done

/-- One sensor: the fill of its ring, the two threads on it, and `seq`. -/
structure Line where
  avail : Nat
  seq : Nat
  sensor : Sensor
  reader : Reader

inductive Consumer where
  | checkStop
  | checkLen
  /-- About to call `pop_timeout`, or inside it. -/
  | pop
  | record (env : ReadingEnvelope Nat)
  | done

inductive Handle (n : Nat) where
  | sensor (i : Fin n)
  | reader (i : Fin n)
  | consumer
  deriving DecidableEq

/-- `handles`, in the order in which the threads are spawned. -/
def handles (n : Nat) : List (Handle n) :=
  (List.finRange n).map .sensor ++ (List.finRange n).map .reader ++ [.consumer]

inductive Main (n : Nat) where
  | sleep
  | join (left : List (Handle n))
  deriving DecidableEq

/-- Of the threads on the buffer `none` is the consumer. -/
structure State (n : Nat) where
  stop : Bool
  line : Fin n → Line
  overwrites : Nat
  buffer : Buffer.Threads.State (Option (Fin n)) (ReadingEnvelope Nat)
  consumer : Consumer
  lags : List Nat
  main : Main n

inductive Action (n : Nat) where
  | stop
  | join
  | sensor (i : Fin n)
  /-- `compare_exchange_weak` may fail without a reason; the clock is read for the envelope. -/
  | reader (i : Fin n) (fails : Bool) (now : SystemTime)
  | consumer (now : SystemTime)
  /-- The reader makes the call it is about to make. -/
  | push (i : Fin n)
  /-- The consumer makes the call it is about to make. -/
  | pop
  | wake (t : Option (Fin n)) (waited : Nat)
  | spurious (t : Option (Fin n))
  | timeout (t : Option (Fin n))
  | notify (t : Option (Fin n)) (woken : Option (Option (Fin n)))

def Sensor.isDone : Sensor → Bool
  | .done => true
  | _ => false

def Reader.isDone : Reader → Bool
  | .done => true
  | _ => false

def Consumer.isDone : Consumer → Bool
  | .done => true
  | _ => false

theorem Sensor.isDone_iff {sensor : Sensor} : sensor.isDone = true ↔ sensor = .done := by
  cases sensor <;> simp [isDone]

theorem Reader.isDone_iff {reader : Reader} : reader.isDone = true ↔ reader = .done := by
  cases reader <;> simp [isDone]

theorem Consumer.isDone_iff {consumer : Consumer} : consumer.isDone = true ↔ consumer = .done := by
  cases consumer <;> simp [isDone]

def Line.atSensor (line : Line) (sensor : Sensor) : Line := { line with sensor }

def Line.atReader (line : Line) (reader : Reader) : Line := { line with reader }

/-- A sensor's next access, with what it adds to `overwrites`. -/
def sensorStep (stop : Bool) (line : Line) : Option (Line × Nat) :=
  match line.sensor with
  | .checkStop => some (line.atSensor (if stop then .done else .load), 0)
  | .load => some (line.atSensor (if line.avail < ringCap then .add else .overwrite), 0)
  | .add => some ({ line with avail := line.avail + 1, seq := line.seq + 1, sensor := .checkStop }, 0)
  | .overwrite => some ({ line with seq := line.seq + 1, sensor := .checkStop }, 1)
  | .done => none

/-- A reader's next access outside `push`. -/
def readerStep (sid : String) (stop fails : Bool) (now : SystemTime) (line : Line) : Option Line :=
  match line.reader with
  | .checkStop => some (line.atReader (if stop then .checkAvail else .poll))
  | .checkAvail => some (line.atReader (if line.avail = 0 then .done else .poll))
  | .poll => some (line.atReader .whileAvail)
  | .whileAvail => some (line.atReader (if 0 < line.avail then .load else .checkStop))
  | .load => some (line.atReader (if line.avail = 0 then .checkStop else .exchange line.avail))
  | .exchange cur =>
    if line.avail = cur ∧ fails = false then
      some { line with avail := cur - 1, reader := .push ⟨sid, now, cur⟩ }
    else some (line.atReader .whileAvail)
  | .push _ | .done => none

/-- `duration_since` in whole microseconds; zero if the clock has gone back. -/
def lag (env : ReadingEnvelope Nat) (now : SystemTime) : Nat := min ((now - env.ts).toNat / 1000) u64Max

def recordLag (lags : List Nat) (lag : Nat) : List Nat :=
  if lags.length < 500000 then lags ++ [lag] else lags

variable {n : Nat}

/-- The consumer's next step outside `pop_timeout`. -/
def consumerStep (s : State n) (now : SystemTime) : Option (Consumer × List Nat) :=
  match s.consumer with
  | .checkStop => some (if s.stop then .checkLen else .pop, s.lags)
  | .checkLen => some (if 0 < s.buffer.inner.q.length then .pop else .done, s.lags)
  | .record env => some (.checkStop, recordLag s.lags (lag env now))
  | .pop | .done => none

def gone (s : State n) : Handle n → Bool
  | .sensor i => (s.line i).sensor.isDone
  | .reader i => (s.line i).reader.isDone
  | .consumer => s.consumer.isDone

def setLine (s : State n) (i : Fin n) (line : Line) : State n :=
  { s with line := Function.update s.line i line }

/-- What the reader and the consumer make of the answer to their call. -/
def answered (s : State n) : Option (Fin n) → Option (Done (ReadingEnvelope Nat)) → State n
  | some i, some (.push _ (.ok ())) => setLine s i ((s.line i).atReader .whileAvail)
  | some i, some (.push _ (.error _)) => setLine s i ((s.line i).atReader .checkStop)
  | none, some (.popTimeout (some env)) => { s with consumer := .record env }
  | none, some (.popTimeout none) => { s with consumer := .checkStop }
  | _, _ => s

/-- `pop_timeout(Duration::from_millis(2))`. -/
def popTimeoutNs : Nat := 2000000

/-- What an action does on the buffer. -/
def onBuffer (s : State n) : Action n → Option (Buffer.Threads.Action (Option (Fin n)) (ReadingEnvelope Nat))
  | .push i =>
    match (s.line i).reader with
    | .push env => some (.call (some i) (.push env))
    | _ => none
  | .pop =>
    match s.consumer with
    | .pop => some (.call none (.popTimeout popTimeoutNs))
    | _ => none
  | .wake t waited => some (.wake t waited)
  | .spurious t => some (.spurious t)
  | .timeout t => some (.timeout t)
  | .notify t woken => some (.notify t woken)
  | _ => none

variable (manager : SensorBufferManager)

def bufferStep (s : State n) (action : Buffer.Threads.Action (Option (Fin n)) (ReadingEnvelope Nat)) :
    Option (State n) :=
  (Buffer.Threads.step manager s.buffer action).map fun buffer =>
    match criticalSection manager s.buffer action with
    | some (t, exit, _) => answered { s with buffer } t exit.result?
    | none => { s with buffer }

def step (s : State n) (action : Action n) : Option (State n) :=
  match action with
  | .stop =>
    match s.main with
    | .sleep => some { s with stop := true, main := .join (handles n) }
    | .join _ => none
  | .join =>
    match s.main with
    | .join (handle :: left) => if gone s handle then some { s with main := .join left } else none
    | _ => none
  | .sensor i =>
    (sensorStep s.stop (s.line i)).map fun (line, lost) =>
      { setLine s i line with overwrites := s.overwrites + lost }
  | .reader i fails now =>
    if Outside (s.buffer.thread (some i)) then
      (readerStep s!"s{i.val + 1}" s.stop fails now (s.line i)).map (setLine s i)
    else none
  | .consumer now =>
    if Outside (s.buffer.thread none) then
      (consumerStep s now).map fun (consumer, lags) => { s with consumer, lags }
    else none
  | action => (onBuffer s action).bind (bufferStep manager s)

/-- `run_micro` from the moment its threads are spawned. -/
def runMicro (n : Nat) : System (State n) (Action n) where
  init :=
    { stop := false, line := fun _ => ⟨0, 0, .checkStop, .checkStop⟩, overwrites := 0
      buffer := (threads manager).init, consumer := .checkStop, lags := [], main := .sleep }
  step := step manager

/-! What a critical section of the buffer is for the benchmark. Nobody calls `shutdown`. -/

/-- Each thread waits only in the call it makes, and the buffer stays open. -/
structure Linked (s : State n) : Prop where
  isOpen : s.buffer.inner.isShutdown = false
  pushing : ∀ i w, pending (s.buffer.thread (some i)) = some w →
    ∃ env, w = .push env ∧ (s.line i).reader = .push env
  popping : ∀ w, pending (s.buffer.thread none) = some w →
    s.consumer = .pop ∧ ∃ remaining, w = .popTimeout remaining

variable {s t : State n}

/-- How a critical section can end, and the queue it leaves. -/
inductive Served (capacity : Nat) (s : State n) :
    Option (Fin n) → Exit (ReadingEnvelope Nat) → Inner (ReadingEnvelope Nat) → Prop
  | accept (i : Fin n) (env : ReadingEnvelope Nat) (inner : Inner (ReadingEnvelope Nat))
      (at_pc : (s.line i).reader = .push env) (room : s.buffer.inner.q.length < capacity)
      (queue : inner.q = s.buffer.inner.q ++ [env]) :
      Served capacity s (some i) (.notifyOne .notEmpty (.push env (.ok ()))) inner
  | full (i : Fin n) (env : ReadingEnvelope Nat) (inner : Inner (ReadingEnvelope Nat))
      (at_pc : (s.line i).reader = .push env) (queue : inner.q = s.buffer.inner.q) :
      Served capacity s (some i) (.wait (.push env)) inner
  | deliver (env : ReadingEnvelope Nat) (inner : Inner (ReadingEnvelope Nat)) (at_pc : s.consumer = .pop)
      (queue : s.buffer.inner.q = env :: inner.q) :
      Served capacity s none (.notifyOne .notFull (.popTimeout (some env))) inner
  | nothing (inner : Inner (ReadingEnvelope Nat)) (at_pc : s.consumer = .pop)
      (queue : inner.q = s.buffer.inner.q) :
      Served capacity s none (.done (.popTimeout none)) inner
  | empty (remaining : Nat) (inner : Inner (ReadingEnvelope Nat)) (at_pc : s.consumer = .pop)
      (queue : inner.q = s.buffer.inner.q) :
      Served capacity s none (.wait (.popTimeout remaining)) inner

theorem served_pushLoop {i : Fin n} {env : ReadingEnvelope Nat} (at_pc : (s.line i).reader = .push env)
    (inner : Inner (ReadingEnvelope Nat)) (isOpen : inner.isShutdown = false)
    (queue : inner.q = s.buffer.inner.q) :
    Served manager.capacity s (some i) (manager.pushLoop env inner).1 (manager.pushLoop env inner).2 := by
  unfold SensorBufferManager.pushLoop
  by_cases full : manager.capacity ≤ inner.q.length
  · rw [if_pos ⟨full, isOpen⟩]
    exact Served.full i env _ at_pc queue
  · rw [if_neg (fun both => full both.1), isOpen]
    rw [queue] at full
    exact Served.accept i env _ at_pc (Nat.lt_of_not_le full) (by rw [← queue]; rfl)

theorem served_popTimeout (at_pc : s.consumer = .pop) (remaining : Nat)
    (inner : Inner (ReadingEnvelope Nat)) (isOpen : inner.isShutdown = false)
    (queue : inner.q = s.buffer.inner.q) :
    Served manager.capacity s none (SensorBufferManager.popTimeout remaining inner).1
      (SensorBufferManager.popTimeout remaining inner).2 := by
  unfold SensorBufferManager.popTimeout
  cases items : inner.q with
  | nil =>
    rw [if_pos ⟨rfl, isOpen⟩]
    by_cases expired : remaining = 0
    · rw [if_pos expired]
      exact Served.nothing _ at_pc queue
    · rw [if_neg expired]
      exact Served.empty remaining _ at_pc (items.symm.trans queue)
  | cons env rest =>
    rw [if_neg (by simp)]
    unfold Inner.popFront
    rw [items]
    exact Served.deliver env _ at_pc (queue.symm.trans items)

variable {manager}

theorem section_served (linked : Linked s) {action : Action n}
    {act : Buffer.Threads.Action (Option (Fin n)) (ReadingEnvelope Nat)}
    (asked : onBuffer s action = some act) {u : Option (Fin n)} {exit : Exit (ReadingEnvelope Nat)}
    {inner : Inner (ReadingEnvelope Nat)}
    (runs : criticalSection manager s.buffer act = some (u, exit, inner)) :
    Served manager.capacity s u exit inner ∧ inner.isShutdown = false := by
  cases action with
  | push i =>
    cases at_pc : (s.line i).reader with
    | push env =>
      simp only [onBuffer, at_pc, Option.some.injEq] at asked
      subst asked
      cases before : s.buffer.thread (some i) with
      | outside =>
        simp only [criticalSection, before, SensorBufferManager.enter, SensorBufferManager.push,
          linked.isOpen, Bool.false_eq_true, if_false, Option.some.injEq, Prod.mk.injEq] at runs
        obtain ⟨rfl, result⟩ := runs
        have served := served_pushLoop manager at_pc s.buffer.inner linked.isOpen rfl
        have flag := pushLoop_isShutdown manager env s.buffer.inner
        rw [result] at served flag
        exact ⟨served, flag.trans linked.isOpen⟩
      | _ => simp only [criticalSection, before, reduceCtorEq] at runs
    | _ => simp only [onBuffer, at_pc, reduceCtorEq] at asked
  | pop =>
    cases at_pc : s.consumer with
    | pop =>
      simp only [onBuffer, at_pc, Option.some.injEq] at asked
      subst asked
      cases before : s.buffer.thread none with
      | outside =>
        simp only [criticalSection, before, SensorBufferManager.enter, Option.some.injEq,
          Prod.mk.injEq] at runs
        obtain ⟨rfl, result⟩ := runs
        have served := served_popTimeout manager at_pc popTimeoutNs s.buffer.inner linked.isOpen rfl
        have flag := popTimeout_isShutdown popTimeoutNs s.buffer.inner
        rw [result] at served flag
        exact ⟨served, flag.trans linked.isOpen⟩
      | _ => simp only [criticalSection, before, reduceCtorEq] at runs
    | _ => simp only [onBuffer, at_pc, reduceCtorEq] at asked
  | wake v waited =>
    simp only [onBuffer, Option.some.injEq] at asked
    subst asked
    cases before : s.buffer.thread v with
    | ready w timedOut =>
      simp only [criticalSection, before, Option.some.injEq, Prod.mk.injEq] at runs
      obtain ⟨rfl, result⟩ := runs
      have flag := resume_isShutdown manager s.buffer.inner waited timedOut w
      cases v with
      | some i =>
        obtain ⟨env, rfl, at_pc⟩ := linked.pushing i w (by rw [before]; rfl)
        have served := served_pushLoop manager at_pc { s.buffer.inner with
          pushWaitNsTotal := s.buffer.inner.pushWaitNsTotal + waited } linked.isOpen rfl
        rw [SensorBufferManager.resume] at result flag
        rw [result] at served flag
        exact ⟨served, flag.trans linked.isOpen⟩
      | none =>
        obtain ⟨at_pc, remaining, rfl⟩ := linked.popping w (by rw [before]; rfl)
        rw [result] at flag
        refine ⟨?_, flag.trans linked.isOpen⟩
        unfold SensorBufferManager.resume at result
        cases timedOut with
        | true =>
          simp only [if_true, Prod.mk.injEq] at result
          obtain ⟨rfl, rfl⟩ := result
          exact Served.nothing _ at_pc rfl
        | false =>
          have served := served_popTimeout manager at_pc (remaining - waited)
            { s.buffer.inner with popWaitNsTotal := s.buffer.inner.popWaitNsTotal + waited }
            linked.isOpen rfl
          simp only [Bool.false_eq_true, if_false] at result
          rw [result] at served
          exact served
    | _ => simp only [criticalSection, before, reduceCtorEq] at runs
  | spurious v | timeout v | notify v woken =>
    simp only [onBuffer, Option.some.injEq] at asked
    subst asked
    simp only [criticalSection, reduceCtorEq] at runs
  | _ => simp only [onBuffer, reduceCtorEq] at asked

/-- Everything one action can do. -/
inductive Moves (manager : SensorBufferManager) (s : State n) : State n → Prop
  | stop (at_pc : s.main = .sleep) : Moves manager s { s with stop := true, main := .join (handles n) }
  | join (handle : Handle n) (left : List (Handle n)) (at_pc : s.main = .join (handle :: left))
      (ended : gone s handle = true) : Moves manager s { s with main := .join left }
  | sensor (i : Fin n) (line : Line) (lost : Nat)
      (moved : sensorStep s.stop (s.line i) = some (line, lost)) :
      Moves manager s { setLine s i line with overwrites := s.overwrites + lost }
  | reader (i : Fin n) (sid : String) (fails : Bool) (now : SystemTime) (line : Line)
      (outside : Outside (s.buffer.thread (some i)))
      (moved : readerStep sid s.stop fails now (s.line i) = some line) :
      Moves manager s (setLine s i line)
  | consumer (now : SystemTime) (consumer : Consumer) (lags : List Nat)
      (outside : Outside (s.buffer.thread none)) (moved : consumerStep s now = some (consumer, lags)) :
      Moves manager s { s with consumer, lags }
  | served (u : Option (Fin n)) (exit : Exit (ReadingEnvelope Nat)) (inner : Inner (ReadingEnvelope Nat))
      (served : Served manager.capacity s u exit inner) (isOpen : inner.isShutdown = false)
      (act : Buffer.Threads.Action (Option (Fin n)) (ReadingEnvelope Nat))
      (stepped : (threads manager).step s.buffer act = some (leave s.buffer u exit inner)) :
      Moves manager s (answered { s with buffer := leave s.buffer u exit inner } u exit.result?)
  | threads (thread : Option (Fin n) → Thread (ReadingEnvelope Nat))
      (same : ∀ u, pending (thread u) = pending (s.buffer.thread u))
      (act : Buffer.Threads.Action (Option (Fin n)) (ReadingEnvelope Nat))
      (stepped : (threads manager).step s.buffer act = some { s.buffer with thread }) :
      Moves manager s { s with buffer := { s.buffer with thread } }

theorem bufferStep_moves (linked : Linked s) (action : Action n)
    (moved : (onBuffer s action).bind (bufferStep manager s) = some t) : Moves manager s t := by
  obtain ⟨act, asked, moved⟩ := Option.bind_eq_some_iff.mp moved
  obtain ⟨buffer, stepped, result⟩ := Option.map_eq_some_iff.mp moved
  have stepped : (threads manager).step s.buffer act = some buffer := stepped
  obtain ⟨u, exit, inner, runs, rfl⟩ | ⟨idle, thread, rfl⟩ := step_section stepped
  · rw [runs] at result
    obtain ⟨served, isOpen⟩ := section_served linked asked runs
    exact result ▸ Moves.served u exit inner served isOpen act stepped
  · rw [idle] at result
    exact result ▸ Moves.threads thread (pending_moved (step_moves stepped) idle) act stepped

theorem runMicro_moves (linked : Linked s) {action : Action n}
    (moved : (runMicro manager n).step s action = some t) : Moves manager s t := by
  change step manager s action = some t at moved
  cases action with
  | stop =>
    cases at_pc : s.main with
    | sleep =>
      simp only [step, at_pc, Option.some.injEq] at moved
      exact moved ▸ Moves.stop at_pc
    | join left => simp only [step, at_pc, reduceCtorEq] at moved
  | join =>
    cases at_pc : s.main with
    | sleep => simp only [step, at_pc, reduceCtorEq] at moved
    | join left =>
      cases left with
      | nil => simp only [step, at_pc, reduceCtorEq] at moved
      | cons handle left =>
        simp only [step, at_pc, Option.ite_none_right_eq_some, Option.some.injEq] at moved
        exact moved.2 ▸ Moves.join handle left at_pc moved.1
  | sensor i =>
    obtain ⟨⟨line, lost⟩, stepped, rfl⟩ := Option.map_eq_some_iff.mp moved
    exact Moves.sensor i line lost stepped
  | reader i fails now =>
    rw [step, Option.ite_none_right_eq_some] at moved
    obtain ⟨line, stepped, rfl⟩ := Option.map_eq_some_iff.mp moved.2
    exact Moves.reader i _ fails now line moved.1 stepped
  | consumer now =>
    rw [step, Option.ite_none_right_eq_some] at moved
    obtain ⟨⟨consumer, lags⟩, stepped, rfl⟩ := Option.map_eq_some_iff.mp moved.2
    exact Moves.consumer now consumer lags moved.1 stepped
  | push i => exact bufferStep_moves linked (.push i) moved
  | pop => exact bufferStep_moves linked .pop moved
  | wake u waited => exact bufferStep_moves linked (.wake u waited) moved
  | spurious u => exact bufferStep_moves linked (.spurious u) moved
  | timeout u => exact bufferStep_moves linked (.timeout u) moved
  | notify u woken => exact bufferStep_moves linked (.notify u woken) moved

theorem sensorStep_reader {stop : Bool} {before after : Line} {lost : Nat}
    (moved : sensorStep stop before = some (after, lost)) : after.reader = before.reader := by
  cases at_pc : before.sensor <;>
    simp only [sensorStep, at_pc, Option.some.injEq, Prod.mk.injEq, reduceCtorEq] at moved
  all_goals exact moved.1 ▸ rfl

@[simp] theorem setLine_self (s : State n) (i : Fin n) (line : Line) : (setLine s i line).line i = line :=
  Function.update_self ..

theorem setLine_other (s : State n) {i j : Fin n} (apart : j ≠ i) (line : Line) :
    (setLine s i line).line j = s.line j :=
  Function.update_of_ne apart ..

/-- Lines may change whose readers are in no call. -/
theorem Linked.setLine (linked : Linked s) {i : Fin n} {line : Line}
    (kept : pending (s.buffer.thread (some i)) = none ∨ line.reader = (s.line i).reader) :
    Linked (setLine s i line) := by
  refine ⟨linked.isOpen, ?_, linked.popping⟩
  intro j w waits
  obtain ⟨env, form, at_pc⟩ := linked.pushing j w waits
  refine ⟨env, form, ?_⟩
  by_cases here : j = i
  · subst here
    rw [setLine_self]
    rcases kept with idle | same
    · exact absurd (idle.symm.trans waits) (by simp)
    · exact same.trans at_pc
  · rw [setLine_other s here]
    exact at_pc

theorem Linked.served (linked : Linked s) {u : Option (Fin n)} {exit : Exit (ReadingEnvelope Nat)}
    {inner : Inner (ReadingEnvelope Nat)} (served : Served manager.capacity s u exit inner)
    (isOpen : inner.isShutdown = false) :
    Linked (answered { s with buffer := leave s.buffer u exit inner } u exit.result?) := by
  cases served with
  | accept i env inner at_pc room queue =>
    refine ⟨isOpen, ?_, ?_⟩
    · intro j w waits
      by_cases here : j = i
      · subst here
        cases pending_leave_self waits
      · obtain ⟨other, form, there⟩ :=
          linked.pushing j w ((pending_leave_other (by simp [here])).symm.trans waits)
        exact ⟨other, form, (congrArg Line.reader (setLine_other _ here _)).trans there⟩
    · intro w waits
      exact linked.popping w ((pending_leave_other (by simp)).symm.trans waits)
  | full i env inner at_pc queue =>
    refine ⟨isOpen, ?_, ?_⟩
    · intro j w waits
      by_cases here : j = i
      · subst here
        exact ⟨env, Exit.wait.inj (pending_leave_self waits).symm, at_pc⟩
      · exact linked.pushing j w ((pending_leave_other (by simp [here])).symm.trans waits)
    · intro w waits
      exact linked.popping w ((pending_leave_other (by simp)).symm.trans waits)
  | deliver env inner at_pc queue =>
    refine ⟨isOpen, ?_, ?_⟩
    · intro j w waits
      exact linked.pushing j w ((pending_leave_other (by simp)).symm.trans waits)
    · intro w waits
      cases pending_leave_self waits
  | nothing inner at_pc queue =>
    refine ⟨isOpen, ?_, ?_⟩
    · intro j w waits
      exact linked.pushing j w ((pending_leave_other (by simp)).symm.trans waits)
    · intro w waits
      cases pending_leave_self waits
  | empty remaining inner at_pc queue =>
    refine ⟨isOpen, ?_, ?_⟩
    · intro j w waits
      exact linked.pushing j w ((pending_leave_other (by simp)).symm.trans waits)
    · intro w waits
      exact ⟨at_pc, remaining, Exit.wait.inj (pending_leave_self waits).symm⟩

theorem Linked.moved (linked : Linked s) (moves : Moves manager s t) : Linked t := by
  cases moves with
  | stop | join => exact ⟨linked.isOpen, linked.pushing, linked.popping⟩
  | sensor i line lost moved =>
    have kept := linked.setLine (Or.inr (sensorStep_reader moved))
    exact ⟨kept.isOpen, kept.pushing, kept.popping⟩
  | reader i sid fails now line outside moved =>
    exact linked.setLine (Or.inl (pending_outside outside))
  | consumer now consumer lags outside moved =>
    refine ⟨linked.isOpen, linked.pushing, ?_⟩
    intro w waits
    cases (pending_outside outside).symm.trans waits
  | served u exit inner served isOpen act stepped => exact linked.served served isOpen
  | threads thread same act stepped =>
    refine ⟨linked.isOpen, ?_, ?_⟩
    · exact fun j w waits => linked.pushing j w ((same _).symm.trans waits)
    · exact fun w waits => linked.popping w ((same _).symm.trans waits)

theorem init_linked : Linked (runMicro manager n).init := by
  refine ⟨rfl, ?_, ?_⟩
  · exact fun i w waits => by cases waits
  · exact fun w waits => by cases waits

/-- An invariant of every reachable state, from what one move preserves. -/
theorem reachable_invariant (Inv : State n → Prop) (start : Inv (runMicro manager n).init)
    (preserved : ∀ s t, Linked s → Inv s → Moves manager s t → Inv t)
    (reach : (runMicro manager n).Reachable s) : Linked s ∧ Inv s := by
  apply System.Reaches.invariant reach (fun s => Linked s ∧ Inv s)
  · exact ⟨init_linked, start⟩
  · intro u action v held moved
    have moves := runMicro_moves held.1 moved
    exact ⟨held.1.moved moves, preserved u v held.1 held.2 moves⟩

end SensorGateway.Bench.Micro

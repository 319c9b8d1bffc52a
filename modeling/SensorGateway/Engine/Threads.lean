import Mathlib.Logic.Function.Basic
import SensorGateway.Engine.Reduce
import SensorGateway.Lib.Transition

/-! `AggregationEngine`: the dispatcher, its workers, their channels, the caller and the source buffer,
interleaved in any order. Every load or store of the flag, every look at the source and every channel
operation is one step; a channel operation that would block is not enabled. When a window expires,
whether a pop finds its reading in time and whether a report is late is up to the action. -/

namespace SensorGateway.Engine.Threads
open SensorGateway.Types SensorGateway.Lib.Transition Reduce

structure AggregationConfig (F : Type) where
  workers : Nat
  workerInboxCapacity : Nat
  outputCapacity : Nat
  detection : Detection F
  /-- Asserted by `start`, as are the next two. -/
  workersPositive : 0 < workers
  inboxPositive : 0 < workerInboxCapacity
  outputPositive : 0 < outputCapacity

def AggregationConfig.first {F : Type} (cfg : AggregationConfig F) : Fin cfg.workers :=
  ⟨0, cfg.workersPositive⟩

inductive WorkerMsg (F : Type) where
  | data (r : ReadingEnvelope F)
  | rotate
  | shutdown
  deriving DecidableEq

inductive WorkerPc (F : Type) where
  | checkFlag
  | receive
  | report (rep : WindowReport F)
  /-- It has left its loop and dropped its ends of the channels. -/
  | finished

structure Worker (F : Type) where
  pc : WorkerPc F
  own : WindowReport F

/-- The window being emitted: whether the dispatcher stops after it, and its end. -/
structure Emission where
  final : Bool
  windowEnd : SystemTime

inductive Dispatcher (F : Type) (W : Nat) where
  /-- The exit test: the flag, then `source.is_shutdown()`, then `source.len()`. -/
  | exitFlag
  | exitShut
  | exitLen
  /-- The drained test: `source.is_shutdown()`, then `source.len()`. -/
  | drainedShut
  | drainedLen
  | pop
  | route (r : ReadingEnvelope F)
  | expiry
  | rotate (e : Emission) (i : Fin W)
  /-- Inside `reduce_window_reports`, with the workers whose reports have been merged. -/
  | collect (e : Emission) (senders : List (Fin W))
      (merged : SensorMap (SensorStats F) × List (AnomalyRecord F))
  | sendFrame (e : Emission) (frame : AggregatedFrame F)
  | fail
  /-- Out of the loop, about to send `Shutdown` to worker `i`. -/
  | closing (i : Fin W)
  | finished

inductive Caller (W : Nat) where
  | active
  /-- The engine has been dropped, and `frames_rx` with it. -/
  | gone
  | joinDispatcher
  | joinWorker (i : Fin W)
  | done
  deriving DecidableEq

/-- `windowId` is a `u64` that grows by one with a window, and taken to stay below its end. -/
structure State (F : Type) (W : Nat) where
  queue : List (ReadingEnvelope F)
  sourceShut : Bool
  shutdown : Bool
  dispatcher : Dispatcher F W
  windowId : Nat
  windowStart : SystemTime
  sawData : Bool
  inbox : Fin W → List (WorkerMsg F)
  worker : Fin W → Worker F
  /-- The report channel. No step looks at the sender's name. -/
  reports : List (Fin W × WindowReport F)
  frames : List (AggregatedFrame F)
  caller : Caller W
  /-- The readings popped since the last frame was put on the output channel. -/
  window : List (ReadingEnvelope F)
  popped : List (ReadingEnvelope F)
  /-- Every frame put on the output channel, with the readings popped since the one before. -/
  emitted : List (AggregatedFrame F × List (ReadingEnvelope F))

inductive Action (F : Type) (W : Nat) where
  | produce (r : ReadingEnvelope F)
  | closeSource
  /-- `go` decides whether a pop gets a reading, whether the window has expired and whether a report
  arrives in time; `now` is what the wall clock shows. -/
  | dispatcher (go : Bool) (now : SystemTime)
  | worker (i : Fin W)
  | recvFrame
  | shutdown
  | drop
  | join

variable {F : Type}

namespace Worker

def gone (w : Worker F) : Bool :=
  match w.pc with
  | .finished => true
  | _ => false

end Worker

def afterWorker {W : Nat} {A : Type} (i : Fin W) (next : Fin W → A) (last : A) : A :=
  if more : i.val + 1 < W then next ⟨i.val + 1, more⟩ else last

theorem afterWorker_cases {W : Nat} {A : Type} {motive : A → Prop} {i : Fin W} {next : Fin W → A}
    {last : A} (onward : ∀ j : Fin W, j.val = i.val + 1 → motive (next j))
    (atEnd : i.val + 1 = W → motive last) : motive (afterWorker i next last) := by
  unfold afterWorker
  by_cases more : i.val + 1 < W
  · rw [dif_pos more]
    exact onward ⟨i.val + 1, more⟩ rfl
  · rw [dif_neg more]
    have bound := i.isLt
    exact atEnd (by omega)

section Steps
variable [F64 F] (cfg : AggregationConfig F) (hash : String → Nat)

def home (sensorId : String) : Fin cfg.workers :=
  ⟨hashToWorker hash sensorId cfg.workers, Nat.mod_lt _ cfg.workersPositive⟩

/-- `send` on a worker's inbox: an error once the worker has gone, blocked while the inbox is full. -/
def sendTo (s : State F cfg.workers) (i : Fin cfg.workers) (msg : WorkerMsg F)
    (sent failed : State F cfg.workers) : Option (State F cfg.workers) :=
  if (s.worker i).gone then some failed
  else if (s.inbox i).length < cfg.workerInboxCapacity then
    some { sent with inbox := Function.update s.inbox i (s.inbox i ++ [msg]) }
  else none

def putFrame (s : State F cfg.workers) (frame : AggregatedFrame F) : State F cfg.workers :=
  { s with
    frames := s.frames ++ [frame]
    emitted := s.emitted ++ [(frame, s.window)]
    window := [] }

def dispatcherStep (s : State F cfg.workers) (go : Bool) (now : SystemTime) :
    Option (State F cfg.workers) :=
  match s.dispatcher with
  | .exitFlag => some { s with dispatcher := if s.shutdown then .exitShut else .drainedShut }
  | .exitShut => some { s with dispatcher := if s.sourceShut then .exitLen else .closing cfg.first }
  | .exitLen =>
    some { s with dispatcher := if 0 < s.queue.length then .drainedShut else .closing cfg.first }
  | .drainedShut => some { s with dispatcher := if s.sourceShut then .drainedLen else .pop }
  | .drainedLen =>
    if s.queue.length = 0 then
      if s.sawData then some { s with dispatcher := .rotate ⟨true, now⟩ cfg.first }
      else some { s with dispatcher := .closing cfg.first }
    else some { s with dispatcher := .pop }
  | .pop =>
    match go, s.queue with
    | true, r :: rest =>
      some { s with
        dispatcher := .route r, queue := rest, window := s.window ++ [r], popped := s.popped ++ [r] }
    | true, [] => none
    | false, _ => some { s with dispatcher := .expiry }
  | .route r =>
    sendTo cfg s (home cfg hash r.sensorId) (.data r) { s with dispatcher := .expiry, sawData := true }
      { s with dispatcher := .fail }
  | .expiry =>
    if go then some { s with dispatcher := .rotate ⟨false, now⟩ cfg.first }
    else some { s with dispatcher := .exitFlag }
  | .rotate e i =>
    sendTo cfg s i .rotate
      { s with dispatcher := afterWorker i (.rotate e) (.collect e [] (∅, [])) }
      { s with dispatcher := .fail }
  | .collect e senders merged =>
    match go, s.reports with
    | true, (i, rep) :: rest =>
      let merged := mergeReport merged rep
      let frame : AggregatedFrame F := ⟨s.windowId, s.windowStart, e.windowEnd, merged.1, merged.2⟩
      some { s with
        reports := rest
        dispatcher := if senders.length + 1 < cfg.workers then .collect e (senders ++ [i]) merged
          else .sendFrame e frame }
    | true, [] => none
    | false, [] => some { s with dispatcher := .fail }
    | false, _ :: _ => none
  | .sendFrame e frame =>
    if s.caller = .gone ∨ s.caller = .done then some { s with dispatcher := .fail }
    else if s.frames.length < cfg.outputCapacity then
      if e.final then some { putFrame cfg s frame with dispatcher := .closing cfg.first }
      else
        some { putFrame cfg s frame with
          dispatcher := .exitFlag, windowId := s.windowId + 1, windowStart := now, sawData := false }
    else none
  | .fail => some { s with dispatcher := .closing cfg.first, shutdown := true }
  | .closing i =>
    sendTo cfg s i .shutdown { s with dispatcher := afterWorker i .closing .finished }
      { s with dispatcher := afterWorker i .closing .finished }
  | .finished => none

def dispatcherDone {W : Nat} (s : State F W) : Bool :=
  match s.dispatcher with
  | .finished => true
  | _ => false

def setWorker {W : Nat} (s : State F W) (i : Fin W) (w : Worker F) : State F W :=
  { s with worker := Function.update s.worker i w }

omit [F64 F] in
@[simp] theorem setWorker_worker {W : Nat} (s : State F W) (i : Fin W) (w : Worker F) :
    (setWorker s i w).worker = Function.update s.worker i w := rfl

/-- The worker leaves its loop; what is in its inbox is lost. -/
def leaveLoop {W : Nat} (s : State F W) (i : Fin W) : State F W :=
  { setWorker s i { s.worker i with pc := .finished } with inbox := Function.update s.inbox i [] }

def workerStep (s : State F cfg.workers) (i : Fin cfg.workers) : Option (State F cfg.workers) :=
  let w := s.worker i
  match w.pc with
  | .checkFlag =>
    if s.shutdown then some (leaveLoop s i) else some (setWorker s i { w with pc := .receive })
  | .receive =>
    match s.inbox i with
    | .data r :: rest =>
      some { setWorker s i ⟨.checkFlag, observe cfg.detection w.own r⟩ with
        inbox := Function.update s.inbox i rest }
    | .rotate :: rest =>
      some { setWorker s i ⟨.report w.own, WindowReport.empty⟩ with
        inbox := Function.update s.inbox i rest }
    | .shutdown :: _ => some (leaveLoop s i)
    | [] => if dispatcherDone s then some (leaveLoop s i) else none
  | .report rep =>
    if dispatcherDone s then some (leaveLoop s i)
    else if s.reports.length < cfg.workers * 2 then
      some { setWorker s i { w with pc := .checkFlag } with reports := s.reports ++ [(i, rep)] }
    else none
  | .finished => none

def joinStep (s : State F cfg.workers) : Option (State F cfg.workers) :=
  match s.caller with
  | .joinDispatcher =>
    if dispatcherDone s then some { s with caller := .joinWorker cfg.first } else none
  | .joinWorker i =>
    if (s.worker i).gone then some { s with caller := afterWorker i .joinWorker .done } else none
  | _ => none

def step (s : State F cfg.workers) : Action F cfg.workers → Option (State F cfg.workers)
  | .produce r => if s.sourceShut then none else some { s with queue := s.queue ++ [r] }
  | .closeSource => some { s with sourceShut := true }
  | .dispatcher go now => dispatcherStep cfg hash s go now
  | .worker i => workerStep cfg s i
  | .recvFrame =>
    match s.caller, s.frames with
    | .active, _ :: rest => some { s with frames := rest }
    | _, _ => none
  | .shutdown =>
    if s.caller = .active then some { s with caller := .joinDispatcher, shutdown := true } else none
  | .drop => if s.caller = .active then some { s with caller := .gone } else none
  | .join => joinStep cfg s

def engine (started : SystemTime) : System (State F cfg.workers) (Action F cfg.workers) where
  init :=
    { queue := [], sourceShut := false, shutdown := false, dispatcher := .exitFlag, windowId := 0
      windowStart := started, sawData := false, inbox := fun _ => [],
      worker := fun _ => ⟨.checkFlag, WindowReport.empty⟩, reports := [], frames := []
      caller := .active, window := [], popped := [], emitted := [] }
  step := step cfg hash

end Steps

end SensorGateway.Engine.Threads

import Mathlib.Data.Fintype.Sum
import Mathlib.Data.List.FinRange
import Mathlib.Tactic.DeriveFintype
import SensorGateway.Buffer.Threads

/-! The gateway process: the readers, the engine's dispatcher, the consumer, the scheduler and `main`,
around one `SensorBufferManager`. The dispatcher is the one of the engine without its workers: whether
it gets rid of a reading and whether it collects every report in time is up to the action. -/

namespace SensorGateway.Gateway.Threads
open SensorGateway.Lib.Transition Buffer.Manager
open Buffer.Threads (criticalSection leave threads)

structure GatewayConfig where
  readers : Nat
  buffer : SensorBufferManager
  sourcePopTimeout : Nat
  outputCapacity : Nat
  outputPositive : 0 < outputCapacity

/-- The threads that call the buffer. -/
inductive Party (readers : Nat) where
  | reader (r : Fin readers)
  | dispatcher
  | consumer
  | main
  deriving DecidableEq, Fintype

inductive ReaderPc (T : Type) where
  | commands
  | checkStop
  | read
  | push (item : T)
  | refused
  | round
  | exited

structure Reader (T : Type) where
  pc : ReaderPc T
  draining : Bool
  /-- A `ShutdownDrain` is in its command channel; the other commands only set the polling rate. -/
  drainCommand : Bool

inductive Dispatcher where
  | exitFlag
  | exitShut
  | exitLen
  | drainedShut
  | drainedLen
  | pop
  | route
  | expiry
  | emit (final : Bool)
  | sendFrame (final : Bool)
  | fail
  | ended
  deriving DecidableEq

inductive Consumer where
  | receive
  | persist
  /-- The frame was not persisted: about to set `stop`. -/
  | failed
  | shutdownBuffer
  | checkStop
  | checkShut
  /-- Out of the loop, about to call `shutdown` on the engine. -/
  | shutdownEngine
  | joinEngine
  | done
  deriving DecidableEq

inductive Main (readers : Nat) where
  | waitSignal
  | joinScheduler
  | joinReaders (waiting : List (Fin readers))
  | shutdownBuffer
  | joinConsumer
  | done
  deriving DecidableEq

structure State (readers : Nat) (T : Type) where
  buffer : Buffer.Threads.State (Party readers) T
  stop : Bool
  reader : Fin readers → Reader T
  engineShutdown : Bool
  dispatcher : Dispatcher
  sawData : Bool
  frames : Nat
  consumer : Consumer
  idleRounds : Nat
  schedulerDone : Bool
  main : Main readers

inductive Action (readers : Nat) (T : Type) where
  | call (t : Party readers)
  | wake (t : Party readers) (waited : Nat)
  | spurious (t : Party readers)
  | timeout (t : Party readers)
  | notify (t : Party readers) (woken : Option (Party readers))
  /-- `item` is what the sensor has to read; `leave` says that it has nothing left, or that the time to
  drain it is over. -/
  | reader (r : Fin readers) (item : Option T) (leave : Bool)
  /-- `go` decides whether a send and a collection succeed and whether the window has expired. -/
  | dispatcher (go : Bool)
  | consumer (go : Bool)
  | scheduler
  | signal
  | join

variable {readers : Nat} {T : Type}

def setReader (s : State readers T) (r : Fin readers) (reader : Reader T) : State readers T :=
  { s with reader := Function.update s.reader r reader }

def nextCall (sourcePopTimeout : Nat) (s : State readers T) : Party readers → Option (Call T)
  | .reader r =>
    match (s.reader r).pc with
    | .push item => some (.push item)
    | _ => none
  | .dispatcher => if s.dispatcher = .pop then some (.popTimeout sourcePopTimeout) else none
  | .consumer => if s.consumer = .shutdownBuffer then some .shutdown else none
  | .main => if s.main = .shutdownBuffer then some .shutdown else none

def returned (s : State readers T) : Party readers → Done T → State readers T
  | .reader r, .push _ (.ok ()) => setReader s r { s.reader r with pc := .read }
  | .reader r, .push _ (.error _) => setReader s r { s.reader r with pc := .refused }
  | .dispatcher, .popTimeout (some _) => { s with dispatcher := .route }
  | .dispatcher, .popTimeout none => { s with dispatcher := .expiry }
  | .consumer, .shutdown => { s with consumer := .shutdownEngine }
  | .main, .shutdown => { s with main := .joinConsumer }
  | _, _ => s

/-- The party runs a critical section, and goes on if that ends its call. -/
def lockStep (s : State readers T) (t : Party readers) (exit : Exit T) (inner : Inner T) :
    State readers T :=
  let after := { s with buffer := leave s.buffer t exit inner }
  match exit.result? with
  | some d => returned after t d
  | none => after

section Steps
variable (cfg : GatewayConfig)

def readerStep (s : State cfg.readers T) (r : Fin cfg.readers) (item : Option T) (leave : Bool) :
    Option (State cfg.readers T) :=
  let reader := s.reader r
  match reader.pc with
  | .commands =>
    if reader.drainCommand then
      some { setReader s r { pc := .checkStop, draining := true, drainCommand := false } with
        stop := true }
    else some (setReader s r { reader with pc := .checkStop })
  | .checkStop =>
    some (setReader s r { reader with pc := .read, draining := reader.draining || s.stop })
  | .read =>
    match item with
    | some value => some (setReader s r { reader with pc := .push value })
    | none => some (setReader s r { reader with pc := .round })
  | .push _ => none
  | .refused => some { setReader s r { reader with pc := .round, draining := true } with stop := true }
  | .round =>
    some (setReader s r { reader with pc := if reader.draining && leave then .exited else .commands })
  | .exited => none

def dispatcherStep (s : State cfg.readers T) (go : Bool) : Option (State cfg.readers T) :=
  let shut := s.buffer.inner.isShutdown
  let len := s.buffer.inner.q.length
  match s.dispatcher with
  | .exitFlag => some { s with dispatcher := if s.engineShutdown then .exitShut else .drainedShut }
  | .exitShut => some { s with dispatcher := if shut then .exitLen else .ended }
  | .exitLen => some { s with dispatcher := if 0 < len then .drainedShut else .ended }
  | .drainedShut => some { s with dispatcher := if shut then .drainedLen else .pop }
  | .drainedLen =>
    if len = 0 then some { s with dispatcher := if s.sawData then .emit true else .ended }
    else some { s with dispatcher := .pop }
  | .pop => none
  | .route =>
    if go then some { s with dispatcher := .expiry, sawData := true }
    else some { s with dispatcher := .fail }
  | .expiry => some { s with dispatcher := if go then .emit false else .exitFlag }
  | .emit final => some { s with dispatcher := if go then .sendFrame final else .fail }
  | .sendFrame final =>
    if s.consumer = .done then some { s with dispatcher := .fail }
    else if s.frames < cfg.outputCapacity then
      if final then some { s with dispatcher := .ended, frames := s.frames + 1 }
      else some { s with dispatcher := .exitFlag, frames := s.frames + 1, sawData := false }
    else none
  | .fail => some { s with dispatcher := .ended, engineShutdown := true }
  | .ended => none

def consumerStep (s : State cfg.readers T) (go : Bool) : Option (State cfg.readers T) :=
  match s.consumer with
  | .receive =>
    if 0 < s.frames then some { s with consumer := .persist, frames := s.frames - 1, idleRounds := 0 }
    else some { s with consumer := .checkStop }
  | .persist => some { s with consumer := if go then .receive else .failed }
  | .failed => some { s with consumer := .shutdownBuffer, stop := true }
  | .shutdownBuffer => none
  | .checkStop => some { s with consumer := if s.stop then .checkShut else .receive }
  | .checkShut =>
    if s.buffer.inner.isShutdown then
      some { s with
        consumer := if 4 ≤ s.idleRounds + 1 then .shutdownEngine else .receive
        idleRounds := s.idleRounds + 1 }
    else some { s with consumer := .receive }
  | .shutdownEngine => some { s with consumer := .joinEngine, engineShutdown := true }
  | .joinEngine => if s.dispatcher = .ended then some { s with consumer := .done } else none
  | .done => none

def schedulerStep (s : State cfg.readers T) : Option (State cfg.readers T) :=
  if s.stop ∧ s.schedulerDone = false then
    some { s with
      schedulerDone := true, reader := fun r => { s.reader r with drainCommand := true } }
  else none

def exited (reader : Reader T) : Bool :=
  match reader.pc with
  | .exited => true
  | _ => false

def joinStep (s : State cfg.readers T) : Option (State cfg.readers T) :=
  match s.main with
  | .joinScheduler =>
    if s.schedulerDone then some { s with main := .joinReaders (List.finRange cfg.readers) } else none
  | .joinReaders [] => some { s with main := .shutdownBuffer }
  | .joinReaders (r :: rest) =>
    if exited (s.reader r) then some { s with main := .joinReaders rest } else none
  | .joinConsumer => if s.consumer = .done then some { s with main := .done } else none
  | _ => none

def free (s : State readers T) (t : Party readers) : Bool :=
  match s.buffer.thread t with
  | .outside => true
  | _ => false

/-- One step of the buffer on its own: a notification, or something that happens to a waiting thread. -/
def bufferStep (s : State cfg.readers T) (action : Buffer.Threads.Action (Party cfg.readers) T) :
    Option (State cfg.readers T) :=
  match (threads cfg.buffer).step s.buffer action with
  | some buffer => some { s with buffer }
  | none => none

def step (s : State cfg.readers T) : Action cfg.readers T → Option (State cfg.readers T)
  | .call t =>
    match nextCall cfg.sourcePopTimeout s t with
    | some c =>
      match criticalSection cfg.buffer s.buffer (.call t c) with
      | some (t, exit, inner) => some (lockStep s t exit inner)
      | none => none
    | none => none
  | .wake t waited =>
    match criticalSection cfg.buffer s.buffer (.wake t waited) with
    | some (t, exit, inner) => some (lockStep s t exit inner)
    | none => none
  | .spurious t => bufferStep cfg s (.spurious t)
  | .timeout t => bufferStep cfg s (.timeout t)
  | .notify t woken => bufferStep cfg s (.notify t woken)
  | .reader r item leave => if free s (.reader r) then readerStep cfg s r item leave else none
  | .dispatcher go => if free s .dispatcher then dispatcherStep cfg s go else none
  | .consumer go => if free s .consumer then consumerStep cfg s go else none
  | .scheduler => schedulerStep cfg s
  | .signal =>
    if s.main = .waitSignal then some { s with main := .joinScheduler, stop := true } else none
  | .join => if free s .main then joinStep cfg s else none

def gateway : System (State cfg.readers T) (Action cfg.readers T) where
  init :=
    { buffer := (threads cfg.buffer).init, stop := false
      reader := fun _ => ⟨.commands, false, false⟩, engineShutdown := false, dispatcher := .exitFlag
      sawData := false, frames := 0, consumer := .receive, idleRounds := 0, schedulerDone := false
      main := .waitSignal }
  step := step cfg

end Steps

end SensorGateway.Gateway.Threads

import SensorGateway.Storage.Persist

/-! `StorageHandle`: any number of threads call `persist_frame` and `shutdown` on clones of one handle,
and the worker takes their messages from a bounded channel. Every file operation goes through. -/

namespace SensorGateway.Storage.Handle
open SensorGateway.Lib.Transition SensorGateway.Types Disk Persist

/-- A call of `persist_frame`, which has an acknowledgement channel of its own. -/
structure Ticketed (F Value : Type) where
  ticket : Nat
  frame : AggregatedFrame F
  statsSnapshot : Option Value

inductive StorageMsg (F Value : Type) where
  | persist (call : Ticketed F Value)
  | shutdown

inductive ClientPc (F Value : Type) where
  | idle
  | sending (call : Ticketed F Value)
  | waiting (call : Ticketed F Value)
  | stopping
  | sendingShutdown
  | takingJoin
  | joining
  | dropped

inductive Loop where
  | main
  | drain
  deriving DecidableEq, Repr

inductive WorkerPc (F Value : Type) where
  | testing
  | receiving
  | persisting (call : Ticketed F Value) (loop : Loop)
  | counting (call : Ticketed F Value) (answer : Except StorageError Unit)
      (metrics : StorageMetrics) (loop : Loop)
  | acking (call : Ticketed F Value) (answer : Except StorageError Unit) (loop : Loop)
  | draining
  | syncing
  | closing
  | ended

/-- What the receiver of an acknowledgement channel finds. -/
inductive Ack where
  | pending
  | answered (answer : Except StorageError Unit)
  | dropped

structure State (n : Nat) (F Value : Type) where
  queue : List (StorageMsg F Value)
  shutdown : Bool
  /-- The join handle has not been taken. -/
  join : Bool
  store : Store
  metrics : StorageMetrics
  worker : WorkerPc F Value
  clients : Fin n → ClientPc F Value
  acks : Nat → Ack
  issued : Nat
  /-- The calls whose message the channel has taken, those the worker has processed and their
  answers, those the metrics count, and those that have returned. -/
  sent : List (Ticketed F Value)
  processed : List (Ticketed F Value × Except StorageError Unit)
  counted : List (Ticketed F Value)
  returned : List (Ticketed F Value × Except StorageError Unit)

inductive Move (n : Nat) (F Value : Type) where
  | persist (i : Fin n) (frame : AggregatedFrame F) (statsSnapshot : Option Value)
  | shutdown (i : Fin n)
  | drop (i : Fin n)
  | client (i : Fin n)
  | worker (persistUs : Nat)

structure HandleConfig (F Value : Type) where
  serde : Serde F Value
  capacity : Nat
  syncOnShutdown : Bool

namespace WorkerPc
variable {F Value : Type}

def hasEnded : WorkerPc F Value → Bool
  | .ended => true
  | _ => false

def backTo : Loop → WorkerPc F Value
  | .main => .testing
  | .drain => .draining

end WorkerPc

def ClientPc.isIdle {F Value : Type} : ClientPc F Value → Bool
  | .idle => true
  | _ => false

def ClientPc.isDropped {F Value : Type} : ClientPc F Value → Bool
  | .dropped => true
  | _ => false

/-- The calls whose message is in the channel. -/
def queuedCalls {F Value : Type} (queue : List (StorageMsg F Value)) : List (Ticketed F Value) :=
  queue.filterMap fun
    | .persist call => some call
    | .shutdown => none

/-- The acknowledgement channels once the messages in the queue have been dropped. -/
def dropQueue {F Value : Type} (acks : Nat → Ack) (queue : List (StorageMsg F Value)) : Nat → Ack :=
  fun ticket => if ticket ∈ (queuedCalls queue).map Ticketed.ticket then .dropped else acks ticket

/-- `File::sync_all`, if the file can be opened. -/
def syncFile (files : Files) (path : Path) : Files :=
  Function.update files path ((files path).map fun file => { file with dirty := false })

/-- `hourly.sync_all()` and `sync_snapshot_files`. -/
def syncAll (store : Store) : Store :=
  let paths := store.hourly.currentPath.toList ++
    [latestSnapshotPath, latestIndexPath, statsSnapshotPath, runtimeSnapshotPath]
  { store with files := paths.foldl syncFile store.files }

namespace State
variable {n : Nat} {F Value : Type} (s : State n F Value)

def goto (i : Fin n) (pc : ClientPc F Value) : State n F Value :=
  { s with clients := Function.update s.clients i pc }

def complete (i : Fin n) (call : Ticketed F Value) (result : Except StorageError Unit) :
    State n F Value :=
  { s.goto i .idle with returned := s.returned ++ [(call, result)] }

end State

variable {n : Nat} {F Value : Type} (cfg : HandleConfig F Value)

def hasRoom (s : State n F Value) : Prop := s.queue.length < max cfg.capacity 1

instance (s : State n F Value) : Decidable (hasRoom cfg s) :=
  inferInstanceAs (Decidable (_ < _))

def clientStep (s : State n F Value) (i : Fin n) : Option (State n F Value) :=
  match s.clients i with
  | .idle | .dropped => none
  | .sending call =>
    if s.worker.hasEnded then some (s.complete i call (.error .channelClosed))
    else if hasRoom cfg s then
      some { s.goto i (.waiting call) with
        queue := s.queue ++ [.persist call], sent := s.sent ++ [call] }
    else none
  | .waiting call =>
    match s.acks call.ticket with
    | .pending => none
    | .answered answer => some (s.complete i call answer)
    | .dropped => some (s.complete i call (.error .workerFailed))
  | .stopping => some { s.goto i .sendingShutdown with shutdown := true }
  | .sendingShutdown =>
    if s.worker.hasEnded then some (s.goto i .takingJoin)
    else if hasRoom cfg s then
      some { s.goto i .takingJoin with queue := s.queue ++ [.shutdown] }
    else none
  | .takingJoin =>
    if s.join then some { s.goto i .joining with join := false } else some (s.goto i .idle)
  | .joining => if s.worker.hasEnded then some (s.goto i .idle) else none

def workerStep (s : State n F Value) (persistUs : Nat) : Option (State n F Value) :=
  match s.worker with
  | .testing =>
    let next : WorkerPc F Value := if s.shutdown then .draining else .receiving
    some { s with worker := next }
  | .receiving =>
    match s.queue with
    | .persist call :: rest => some { s with queue := rest, worker := .persisting call .main }
    | .shutdown :: rest => some { s with queue := rest, worker := .draining }
    | [] => if ∀ i, (s.clients i).isDropped then some { s with worker := .draining } else none
  | .persisting call loop =>
    let request : PersistRequest F Value := ⟨call.frame, call.statsSnapshot, .none, persistUs⟩
    let (answer, store, metrics) := persistWithMetrics cfg.serde request ⟨s.store, s.metrics, []⟩
    some { s with store, processed := s.processed ++ [(call, answer)],
                  worker := .counting call answer metrics loop }
  | .counting call answer metrics loop =>
    some { s with metrics, counted := s.counted ++ if answer.isOk then [call] else [],
                  worker := .acking call answer loop }
  | .acking call answer loop =>
    some { s with acks := Function.update s.acks call.ticket (.answered answer),
                  worker := .backTo loop }
  | .draining =>
    match s.queue with
    | .persist call :: rest => some { s with queue := rest, worker := .persisting call .drain }
    | .shutdown :: rest => some { s with queue := rest }
    | [] => some { s with worker := .syncing }
  | .syncing =>
    let store := if cfg.syncOnShutdown then syncAll s.store else s.store
    some { s with store, worker := .closing }
  | .closing =>
    some { s with queue := [], acks := dropQueue s.acks s.queue, worker := .ended }
  | .ended => none

def step (s : State n F Value) : Move n F Value → Option (State n F Value)
  | .persist i frame statsSnapshot =>
    if (s.clients i).isIdle then
      some { s.goto i (.sending ⟨s.issued, frame, statsSnapshot⟩) with
        acks := Function.update s.acks s.issued .pending, issued := s.issued + 1 }
    else none
  | .shutdown i => if (s.clients i).isIdle then some (s.goto i .stopping) else none
  | .drop i => if (s.clients i).isIdle then some (s.goto i .dropped) else none
  | .client i => clientStep cfg s i
  | .worker persistUs => workerStep cfg s persistUs

/-- A handle of which each of `n` threads has a clone, on a directory with the given files. -/
def handle (n : Nat) (initial : Files) : System (State n F Value) (Move n F Value) where
  init := {
    queue := []
    shutdown := false
    join := true
    store := ⟨initial, HourlyWriter.new, [], [], [⟨initial, []⟩]⟩
    metrics := .default
    worker := .testing
    clients := fun _ => .idle
    acks := fun _ => .pending
    issued := 0
    sent := []
    processed := []
    counted := []
    returned := [] }
  step := step cfg

end SensorGateway.Storage.Handle

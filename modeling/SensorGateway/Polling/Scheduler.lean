import Mathlib.Logic.Function.Basic
import SensorGateway.Lib.Transition
import SensorGateway.Polling.Control

/-! The scheduler thread of `main.rs` and what it shares with the readers: the stop flag, one
channel of statuses, and one unbounded channel of commands for each reader. Of a reader only the
loop over its commands and the statuses it sends are here. -/

namespace SensorGateway.Polling.Scheduler
open SensorGateway.Lib.Transition SensorGateway.Lib.Saturating SensorGateway.Types Governor Control

/-- Durations are in milliseconds. -/
structure SchedulerConfig where
  pollInterval : Nat
  warningThreshold : Nat
  criticalThreshold : Nat
  warningConsecutiveLimit : Nat
  staleReaderTimeout : Nat
  deriving DecidableEq, Repr

def SchedulerConfig.default : SchedulerConfig := ⟨50, 16, 24, 3, 500⟩

structure SchedulerReaderSnapshot where
  lastAvailable : Nat
  totalReads : Nat
  consecutiveWarningHits : Nat
  consecutiveCriticalHits : Nat
  lastCommand : ReaderControlMode
  lastGovernorMode : GovernorMode
  lastGovernorSleepUs : UInt64
  lastBufferFillRatio : ℚ
  readIdleMs : Nat
  lastPushWaitCount : Nat
  lastPopWaitCount : Nat
  readerStaleMs : Nat
  stalled : Bool
  draining : Bool
  deriving DecidableEq, Repr

def SchedulerReaderSnapshot.default : SchedulerReaderSnapshot :=
  ⟨0, 0, 0, 0, .automatic, .tracking, 0, 0, 0, 0, 0, 0, false, false⟩

structure SchedulerStats where
  pollIntervalMs : Nat
  warningThreshold : Nat
  criticalThreshold : Nat
  warningConsecutiveLimit : Nat
  staleReaderMs : Nat
  readers : SensorMap SchedulerReaderSnapshot

def SchedulerStats.default : SchedulerStats := ⟨0, 0, 0, 0, 0, ∅⟩

/-- The keys of `command_txs`, in the order in which the map goes through them. -/
structure Channels where
  ids : List String
  distinct : ids.Nodup

/-- The hash maps of the scheduler thread. -/
structure Tables where
  latestStatus : String → Option ReaderStatus
  warningHits : String → Option Nat
  criticalHits : String → Option Nat
  lastCommand : String → Option ReaderControlMode

def Tables.empty : Tables := ⟨fun _ => none, fun _ => none, fun _ => none, fun _ => none⟩

/-- Where the scheduler thread is. -/
inductive SchedulerPc where
  /-- At the test of the stop flag. -/
  | testing
  /-- In the loop over `status_rx`. -/
  | receiving
  | evaluating (now : SystemTime) (ids : List String) (snapshot : SchedulerStats)
  | sleeping
  /-- In the loop that sends `ShutdownDrain`. -/
  | closing (ids : List String)
  | lastReceiving
  | finished

structure State where
  stop : Bool
  statuses : List ReaderStatus
  pc : SchedulerPc
  tables : Tables
  sharedStats : SchedulerStats
  control : String → ReaderControl
  /-- A reader that has returned has dropped its end of both channels. -/
  exited : String → Bool
  /-- The commands that a reader has not taken yet. -/
  pending : String → List ReaderControlMode
  /-- Every command sent on a reader's channel. -/
  sent : String → List ReaderControlMode

inductive Move where
  /-- The next step of the scheduler; the clock is read in some of them. -/
  | scheduler (now : SystemTime)
  | report (status : ReaderStatus)
  /-- A reader takes its next command. -/
  | obey (id : String) (now : Instant)
  /-- A reader sees the stop flag, or fails to push. -/
  | giveUp (id : String) (now : Instant)
  | exit (id : String)
  /-- Another thread sets the stop flag. -/
  | raiseStop

/-- `elapsed_ms_since`. -/
def elapsedMsSince (now earlier : SystemTime) : Nat := min ((now - earlier).toNat / 1000000) u64Max

/-- `unwrap_or(0).saturating_add(1)` on a `u32`, or a fresh start. -/
def hits (old : Option Nat) (hit : Bool) : Nat :=
  if hit then min (old.getD 0 + 1) (2 ^ 32 - 1) else 0

variable (cfg : SchedulerConfig)

def startSnapshot : SchedulerStats :=
  ⟨cfg.pollInterval, cfg.warningThreshold, cfg.criticalThreshold, cfg.warningConsecutiveLimit,
    cfg.staleReaderTimeout, ∅⟩

def Stalled (now : SystemTime) (status : ReaderStatus) : Prop :=
  cfg.staleReaderTimeout ≤ elapsedMsSince now status.observedAt

instance decidableStalled (now : SystemTime) (status : ReaderStatus) :
    Decidable (Stalled cfg now status) :=
  inferInstanceAs (Decidable (_ ≤ _))

def desired (now : SystemTime) (status : ReaderStatus) (warn crit : Nat) : ReaderControlMode :=
  if Stalled cfg now status ∨ 0 < crit then .forceFastRecovery
  else if cfg.warningConsecutiveLimit ≤ warn ∨ 20 / 100 ≤ status.bufferFillRatio then
    .clampToNominal
  else .automatic

def snapshotOf (now : SystemTime) (status : ReaderStatus) (warn crit : Nat)
    (lastCommand : ReaderControlMode) : SchedulerReaderSnapshot where
  lastAvailable := status.available
  totalReads := status.totalReads
  consecutiveWarningHits := warn
  consecutiveCriticalHits := crit
  lastCommand := lastCommand
  lastGovernorMode := status.governor.mode
  lastGovernorSleepUs := status.governor.currentSleepUs
  lastBufferFillRatio := status.bufferFillRatio
  readIdleMs := elapsedMsSince now status.lastSuccessfulRead
  lastPushWaitCount := status.pushWaitCount
  lastPopWaitCount := status.popWaitCount
  readerStaleMs := elapsedMsSince now status.observedAt
  stalled := Stalled cfg now status
  draining := status.isDraining

/-- One sensor's turn of the loop: the tables after it, the command to send if there is one, and the
row of the snapshot. -/
def evaluate (now : SystemTime) (tables : Tables) (id : String) :
    Tables × Option ReaderControlMode × SchedulerReaderSnapshot :=
  match tables.latestStatus id with
  | none => (tables, none, .default)
  | some status =>
    let warn := hits (tables.warningHits id) (cfg.warningThreshold ≤ status.available)
    let crit := hits (tables.criticalHits id) (cfg.criticalThreshold ≤ status.available)
    let wanted := desired cfg now status warn crit
    let counted := { tables with
      warningHits := Function.update tables.warningHits id (some warn)
      criticalHits := Function.update tables.criticalHits id (some crit) }
    let row := snapshotOf cfg now status warn crit wanted
    if tables.lastCommand id ≠ some wanted then
      ({ counted with lastCommand := Function.update tables.lastCommand id (some wanted) },
        some wanted, row)
    else (counted, none, row)

/-- The row of the snapshot taken after the loop. -/
def lastRow (now : SystemTime) (tables : Tables) (id : String) : SchedulerReaderSnapshot :=
  match tables.latestStatus id with
  | none => { SchedulerReaderSnapshot.default with lastCommand := .shutdownDrain }
  | some status =>
    { snapshotOf cfg now status ((tables.warningHits id).getD 0) ((tables.criticalHits id).getD 0)
        .shutdownDrain with
      stalled := false, draining := true }

/-- `tx.send`, whose failure is ignored. -/
def State.send (s : State) (id : String) (mode : ReaderControlMode) : State :=
  { s with
    sent := Function.update s.sent id (s.sent id ++ [mode])
    pending :=
      if s.exited id then s.pending
      else Function.update s.pending id (s.pending id ++ [mode]) }

def State.sendIf (s : State) (id : String) : Option ReaderControlMode → State
  | none => s
  | some mode => s.send id mode

def take (tables : Tables) (status : ReaderStatus) : Tables :=
  { tables with latestStatus := Function.update tables.latestStatus status.sensorId (some status) }

def schedulerStep (channels : Channels) (s : State) (now : SystemTime) : Option State :=
  match s.pc with
  | .testing => some { s with pc := if s.stop then .closing channels.ids else .receiving }
  | .receiving =>
    match s.statuses with
    | status :: rest => some { s with statuses := rest, tables := take s.tables status }
    | [] => some { s with pc := .evaluating now channels.ids (startSnapshot cfg) }
  | .evaluating _ [] snapshot => some { s with sharedStats := snapshot, pc := .sleeping }
  | .evaluating now (id :: rest) snapshot =>
    let (tables, command, row) := evaluate cfg now s.tables id
    let snapshot := { snapshot with readers := snapshot.readers.insert id row }
    some { s.sendIf id command with tables, pc := .evaluating now rest snapshot }
  | .sleeping => some { s with pc := .testing }
  | .closing [] => some { s with pc := .lastReceiving }
  | .closing (id :: rest) => some { s.send id .shutdownDrain with pc := .closing rest }
  | .lastReceiving =>
    match s.statuses with
    | status :: rest => some { s with statuses := rest, tables := take s.tables status }
    | [] =>
      let rows := channels.ids.foldl
        (fun rows id => rows.insert id (lastRow cfg now s.tables id)) (∅ : SensorMap _)
      some { s with pc := .finished, sharedStats := { startSnapshot cfg with readers := rows } }
  | .finished => none

/-- `governorCfg` gives the configuration each reader was started with. -/
def step (governorCfg : String → AdaptivePollingConfig) (channels : Channels) (s : State) :
    Move → Option State
  | .scheduler now => schedulerStep cfg channels s now
  | .report status =>
    if s.exited status.sensorId then none
    else some { s with statuses := s.statuses ++ [status] }
  | .obey id now =>
    match s.pending id with
    | [] => none
    | mode :: rest =>
      let control := (s.control id).obey (governorCfg id) now mode
      some { s with
        control := Function.update s.control id control
        pending := Function.update s.pending id rest
        stop := s.stop || mode == .shutdownDrain }
  | .giveUp id now =>
    if s.exited id then none
    else
      let control := (s.control id).drain now
      some { s with stop := true, control := Function.update s.control id control }
  | .exit id =>
    if (s.control id).draining ∧ s.exited id = false then
      some { s with
        exited := Function.update s.exited id true
        pending := Function.update s.pending id [] }
    else none
  | .raiseStop => some { s with stop := true }

def scheduler (governorCfg : String → AdaptivePollingConfig) (channels : Channels) :
    System State Move where
  init := {
    stop := false, statuses := [], pc := .testing, tables := .empty, sharedStats := .default
    control := fun _ => .start, exited := fun _ => false
    pending := fun _ => [], sent := fun _ => [] }
  step := step cfg governorCfg channels

end SensorGateway.Polling.Scheduler

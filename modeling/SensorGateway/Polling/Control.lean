import SensorGateway.Polling.Governor
import SensorGateway.Types

/-! What the scheduler and the readers tell each other, and what a command changes in a reader. -/

namespace SensorGateway.Polling.Control
open SensorGateway.Types Governor

inductive ReaderControlMode where
  | automatic
  | clampToNominal
  | forceFastRecovery
  | shutdownDrain
  deriving DecidableEq, Repr

/-- Neither `Automatic` nor `ClampToNominal` comes after a `ShutdownDrain`. -/
def DrainLast (modes : List ReaderControlMode) : Prop :=
  modes.Pairwise (fun first later =>
    first = .shutdownDrain → later ≠ .automatic ∧ later ≠ .clampToNominal)

structure ReaderStatus where
  sensorId : String
  observedAt : SystemTime
  lastSuccessfulRead : SystemTime
  available : Nat
  totalReads : Nat
  isDraining : Bool
  governor : GovernorStats
  bufferFillRatio : ℚ
  pushWaitCount : Nat
  popWaitCount : Nat
  deriving DecidableEq, Repr

/-- The monotonic clock, in nanoseconds. -/
abbrev Instant := Nat

/-- `DRAIN_TIMEOUT`. -/
def drainTimeout : Nat := 2000000000

/-- The local variables of `spawn_reader` that a command changes. -/
structure ReaderControl where
  controlMode : ReaderControlMode
  governorOverride : GovernorOverride
  draining : Bool
  sensorStopped : Bool
  drainDeadline : Option Instant
  deriving DecidableEq, Repr

namespace ReaderControl

def start : ReaderControl := ⟨.automatic, .none, false, false, none⟩

/-- What follows a `ShutdownDrain` command, the stop flag or a failed push; the sensor is stopped
and the clock read on the way. -/
def drain (c : ReaderControl) (now : Instant) : ReaderControl where
  controlMode := .shutdownDrain
  governorOverride := .forceFastRecovery
  draining := true
  sensorStopped := true
  drainDeadline := some (c.drainDeadline.getD (now + drainTimeout))

/-- One turn of the loop over `command_rx`. -/
def obey (governorCfg : AdaptivePollingConfig) (now : Instant) (c : ReaderControl) :
    ReaderControlMode → ReaderControl
  | .automatic => { c with controlMode := .automatic, governorOverride := .none }
  | .clampToNominal =>
    { c with
      controlMode := .clampToNominal
      governorOverride :=
        .clampMaxSleep (max governorCfg.nominalSleepUs governorCfg.minSleepUs) }
  | .forceFastRecovery =>
    { c with controlMode := .forceFastRecovery, governorOverride := .forceFastRecovery }
  | .shutdownDrain => c.drain now

/-- The loop over `command_rx`, if it takes all of the given commands. -/
def obeyAll (governorCfg : AdaptivePollingConfig) (now : Instant) (c : ReaderControl)
    (commands : List ReaderControlMode) : ReaderControl :=
  commands.foldl (obey governorCfg now) c

@[simp] theorem obey_controlMode (governorCfg : AdaptivePollingConfig) (now : Instant)
    (c : ReaderControl) (mode : ReaderControlMode) :
    (c.obey governorCfg now mode).controlMode = mode := by
  cases mode <;> rfl

/-- The last command decides. -/
theorem obeyAll_controlMode (governorCfg : AdaptivePollingConfig) (now : Instant)
    (c : ReaderControl) (commands : List ReaderControlMode) :
    (c.obeyAll governorCfg now commands).controlMode = commands.getLast?.getD c.controlMode := by
  induction commands generalizing c with
  | nil => rfl
  | cons mode rest ih =>
    show ((c.obey governorCfg now mode).obeyAll governorCfg now rest).controlMode = _
    rw [ih, obey_controlMode, List.getLast?_cons]
    rfl

end ReaderControl

end SensorGateway.Polling.Control

import SensorGateway.Lib.Saturating

/-! The adaptive polling governor of `governor.rs`, with its `f64` values read as exact rationals.
Sleeps are counted in microseconds. A call that panics has no result. -/

namespace SensorGateway.Polling.Governor
open SensorGateway.Lib.Saturating

inductive GovernorOverride where
  | none
  | clampMaxSleep (maxSleepUs : UInt64)
  | forceFastRecovery
  deriving DecidableEq, Repr

inductive GovernorMode where
  | fastRecovery
  | tracking
  | economy
  | failSafe
  deriving DecidableEq, Repr

structure AdaptivePollingConfig where
  minSleepUs : UInt64
  nominalSleepUs : UInt64
  maxSleepUs : UInt64
  targetFillRatio : ℚ
  highFillRatio : ℚ
  lowFillRatio : ℚ
  softSensorThreshold : Nat
  hardSensorThreshold : Nat
  stepUpUs : UInt64
  stepDownUs : UInt64
  kpUsPerFill : ℚ
  kiUsPerFill : ℚ
  integralLimit : ℚ
  ewmaAlpha : ℚ
  deriving DecidableEq, Repr

def AdaptivePollingConfig.default : AdaptivePollingConfig where
  minSleepUs := 25
  nominalSleepUs := 100
  maxSleepUs := 1000
  targetFillRatio := 3 / 100
  highFillRatio := 25 / 100
  lowFillRatio := 1 / 100
  softSensorThreshold := 8
  hardSensorThreshold := 24
  stepUpUs := 25
  stepDownUs := 75
  kpUsPerFill := 2000
  kiUsPerFill := 80
  integralLimit := 1
  ewmaAlpha := 2 / 10

/-- What the governor reads of the shared buffer's statistics. -/
structure BufferStats where
  capacity : Nat
  len : Nat
  pushWaitNsTotal : Nat
  popWaitNsTotal : Nat
  deriving DecidableEq, Repr

structure GovernorStats where
  mode : GovernorMode
  currentSleepUs : UInt64
  updates : UInt64
  modeSwitches : UInt64
  fastRecoveryEntries : UInt64
  economyEntries : UInt64
  trackingEntries : UInt64
  failSafeEntries : UInt64
  lastFillRatio : ℚ
  smoothedFillRatio : ℚ
  lastSensorAvailable : Nat
  lastPushWaitDeltaNs : Nat
  lastPopWaitDeltaNs : Nat
  deriving DecidableEq, Repr

/-- The counters wrap, as in a release build. -/
structure AdaptivePollingGovernor where
  cfg : AdaptivePollingConfig
  mode : GovernorMode
  currentSleepUs : UInt64
  integralError : ℚ
  prevPushWaitNsTotal : Nat
  prevPopWaitNsTotal : Nat
  updates : UInt64
  modeSwitches : UInt64
  fastRecoveryEntries : UInt64
  economyEntries : UInt64
  trackingEntries : UInt64
  failSafeEntries : UInt64
  lastFillRatio : ℚ
  smoothedFillRatio : ℚ
  lastSensorAvailable : Nat
  lastPushWaitDeltaNs : Nat
  lastPopWaitDeltaNs : Nat
  deriving DecidableEq, Repr

/-- `(0.0..=1.0).contains(&x)`. -/
def IsRatio (x : ℚ) : Prop := 0 ≤ x ∧ x ≤ 1

instance decidableIsRatio (x : ℚ) : Decidable (IsRatio x) := inferInstanceAs (Decidable (_ ∧ _))

/-- `new` replaces a configuration that fails one of these tests by the default one. -/
def AdaptivePollingConfig.Invalid (cfg : AdaptivePollingConfig) : Prop :=
  cfg.minSleepUs = 0 ∨ cfg.nominalSleepUs < cfg.minSleepUs ∨ cfg.maxSleepUs < cfg.nominalSleepUs ∨
    ¬IsRatio cfg.lowFillRatio ∨ ¬IsRatio cfg.targetFillRatio ∨ ¬IsRatio cfg.highFillRatio ∨
    ¬IsRatio cfg.ewmaAlpha ∨ cfg.targetFillRatio < cfg.lowFillRatio ∨
    cfg.highFillRatio < cfg.targetFillRatio ∨ cfg.hardSensorThreshold < cfg.softSensorThreshold

instance decidableInvalid (cfg : AdaptivePollingConfig) : Decidable cfg.Invalid :=
  inferInstanceAs (Decidable (_ ∨ _))

namespace AdaptivePollingGovernor

def new (cfg : AdaptivePollingConfig) : AdaptivePollingGovernor :=
  let cfg := if cfg.Invalid then AdaptivePollingConfig.default else cfg
  { cfg
    mode := .tracking
    currentSleepUs := cfg.nominalSleepUs
    integralError := 0
    prevPushWaitNsTotal := 0
    prevPopWaitNsTotal := 0
    updates := 0
    modeSwitches := 0
    fastRecoveryEntries := 0
    economyEntries := 0
    trackingEntries := 1
    failSafeEntries := 0
    lastFillRatio := 0
    smoothedFillRatio := 0
    lastSensorAvailable := 0
    lastPushWaitDeltaNs := 0
    lastPopWaitDeltaNs := 0 }

def setMode (g : AdaptivePollingGovernor) (next : GovernorMode) : AdaptivePollingGovernor :=
  if g.mode = next then g
  else
    let g := { g with modeSwitches := g.modeSwitches + 1, mode := next }
    match next with
    | .fastRecovery => { g with fastRecoveryEntries := g.fastRecoveryEntries + 1 }
    | .tracking => { g with trackingEntries := g.trackingEntries + 1 }
    | .economy => { g with economyEntries := g.economyEntries + 1 }
    | .failSafe => { g with failSafeEntries := g.failSafeEntries + 1 }

/-- The part of `update_with_override` that takes in the telemetry. -/
def observe (g : AdaptivePollingGovernor) (sensorAvailable : Nat) (stats : BufferStats) :
    AdaptivePollingGovernor :=
  let fillRatio : ℚ := stats.len / stats.capacity
  { g with
    lastPushWaitDeltaNs := stats.pushWaitNsTotal - g.prevPushWaitNsTotal
    lastPopWaitDeltaNs := stats.popWaitNsTotal - g.prevPopWaitNsTotal
    prevPushWaitNsTotal := stats.pushWaitNsTotal
    prevPopWaitNsTotal := stats.popWaitNsTotal
    lastFillRatio := fillRatio
    smoothedFillRatio := (1 - g.cfg.ewmaAlpha) * g.smoothedFillRatio + g.cfg.ewmaAlpha * fillRatio
    lastSensorAvailable := sensorAvailable }

def Emergency (g : AdaptivePollingGovernor) (overrideMode : GovernorOverride) : Prop :=
  overrideMode = .forceFastRecovery ∨ g.cfg.hardSensorThreshold ≤ g.lastSensorAvailable ∨
    g.cfg.highFillRatio ≤ g.smoothedFillRatio ∨ 0 < g.lastPushWaitDeltaNs

instance decidableEmergency (g : AdaptivePollingGovernor) (overrideMode : GovernorOverride) :
    Decidable (g.Emergency overrideMode) :=
  inferInstanceAs (Decidable (_ ∨ _))

def EconomyAllowed : GovernorOverride → Prop
  | .none => True
  | .clampMaxSleep _ | .forceFastRecovery => False

instance decidableEconomyAllowed (overrideMode : GovernorOverride) :
    Decidable (EconomyAllowed overrideMode) := by
  cases overrideMode <;> unfold EconomyAllowed <;> infer_instance

def CanEnterEconomy (g : AdaptivePollingGovernor) (overrideMode : GovernorOverride) : Prop :=
  EconomyAllowed overrideMode ∧ g.smoothedFillRatio ≤ g.cfg.lowFillRatio ∧
    g.lastSensorAvailable ≤ g.cfg.softSensorThreshold / 2 ∧
    g.lastPushWaitDeltaNs < g.lastPopWaitDeltaNs

def ShouldStayEconomy (g : AdaptivePollingGovernor) (overrideMode : GovernorOverride) : Prop :=
  EconomyAllowed overrideMode ∧ g.mode = .economy ∧
    g.smoothedFillRatio ≤ g.cfg.targetFillRatio ∧
    g.lastSensorAvailable ≤ g.cfg.softSensorThreshold ∧ g.lastPushWaitDeltaNs = 0

instance decidableCanEnterEconomy (g : AdaptivePollingGovernor) (overrideMode : GovernorOverride) :
    Decidable (g.CanEnterEconomy overrideMode) :=
  inferInstanceAs (Decidable (_ ∧ _))

instance decidableShouldStayEconomy (g : AdaptivePollingGovernor)
    (overrideMode : GovernorOverride) : Decidable (g.ShouldStayEconomy overrideMode) :=
  inferInstanceAs (Decidable (_ ∧ _))

/-- The controller's proposal after the mode has been chosen. -/
def choose (g : AdaptivePollingGovernor) (overrideMode : GovernorOverride) (proposed : UInt64) :
    UInt64 × AdaptivePollingGovernor :=
  if g.CanEnterEconomy overrideMode ∨ g.ShouldStayEconomy overrideMode then
    (min (saturatingAdd proposed g.cfg.stepUpUs) g.cfg.maxSleepUs, g.setMode .economy)
  else
    let relaxed :=
      if g.cfg.targetFillRatio < g.smoothedFillRatio ∨
          g.cfg.softSensorThreshold ≤ g.lastSensorAvailable then
        max (saturatingSub proposed g.cfg.stepDownUs) g.cfg.minSleepUs
      else min proposed (saturatingAdd g.cfg.nominalSleepUs g.cfg.stepUpUs)
    (relaxed, g.setMode .tracking)

def limit (g : AdaptivePollingGovernor) (proposed : UInt64) : GovernorOverride → UInt64
  | .clampMaxSleep maxSleepUs => min proposed (max maxSleepUs g.cfg.minSleepUs)
  | .none | .forceFastRecovery => proposed

def settle (g : AdaptivePollingGovernor) (proposed : UInt64) : AdaptivePollingGovernor :=
  if proposed = 0 then { g.setMode .failSafe with currentSleepUs := 1000 }
  else { g with currentSleepUs := proposed }

/-- `update_with_override` where no emergency rules: a proportional and an integral part. -/
def regulate (g : AdaptivePollingGovernor) (overrideMode : GovernorOverride) :
    Option AdaptivePollingGovernor := do
  let error := g.cfg.targetFillRatio - g.smoothedFillRatio
  let integralError ← clamp (g.integralError + error) (-g.cfg.integralLimit) g.cfg.integralLimit
  let g := { g with integralError }
  let controlDelta := g.cfg.kpUsPerFill * error + g.cfg.kiUsPerFill * integralError
  let wished ← clamp (g.cfg.nominalSleepUs.toNat + controlDelta) g.cfg.minSleepUs.toNat
    g.cfg.maxSleepUs.toNat
  let (proposed, g) := g.choose overrideMode (asU64 wished)
  some (g.settle (g.limit proposed overrideMode))

/-- The duration returned is that of the field `current_sleep_us`. -/
def updateWithOverride (g : AdaptivePollingGovernor) (sensorAvailable : Nat) (stats : BufferStats)
    (overrideMode : GovernorOverride) : Option (UInt64 × AdaptivePollingGovernor) := do
  let g := { g with updates := g.updates + 1 }
  if stats.capacity = 0 then
    let g := { g.setMode .failSafe with
      currentSleepUs := 1000, lastFillRatio := 0, smoothedFillRatio := 0,
      lastSensorAvailable := sensorAvailable, lastPushWaitDeltaNs := 0, lastPopWaitDeltaNs := 0 }
    some (g.currentSleepUs, g)
  else
    let g := g.observe sensorAvailable stats
    if g.Emergency overrideMode then
      let g := { g.setMode .fastRecovery with
        integralError := 0, currentSleepUs := g.cfg.minSleepUs }
      some (g.currentSleepUs, g)
    else
      let g ← g.regulate overrideMode
      some (g.currentSleepUs, g)

def update (g : AdaptivePollingGovernor) (sensorAvailable : Nat) (stats : BufferStats) :
    Option (UInt64 × AdaptivePollingGovernor) :=
  g.updateWithOverride sensorAvailable stats .none

def stats (g : AdaptivePollingGovernor) : GovernorStats where
  mode := g.mode
  currentSleepUs := g.currentSleepUs
  updates := g.updates
  modeSwitches := g.modeSwitches
  fastRecoveryEntries := g.fastRecoveryEntries
  economyEntries := g.economyEntries
  trackingEntries := g.trackingEntries
  failSafeEntries := g.failSafeEntries
  lastFillRatio := g.lastFillRatio
  smoothedFillRatio := g.smoothedFillRatio
  lastSensorAvailable := g.lastSensorAvailable
  lastPushWaitDeltaNs := g.lastPushWaitDeltaNs
  lastPopWaitDeltaNs := g.lastPopWaitDeltaNs

/-! `set_mode` touches the mode and the counters alone. -/

@[simp] theorem setMode_mode (g : AdaptivePollingGovernor) (next : GovernorMode) :
    (g.setMode next).mode = next := by
  unfold setMode
  split
  · assumption
  · cases next <;> rfl

@[simp] theorem setMode_cfg (g : AdaptivePollingGovernor) (next : GovernorMode) :
    (g.setMode next).cfg = g.cfg := by
  unfold setMode
  split
  · rfl
  · cases next <;> rfl

@[simp] theorem setMode_currentSleepUs (g : AdaptivePollingGovernor) (next : GovernorMode) :
    (g.setMode next).currentSleepUs = g.currentSleepUs := by
  unfold setMode
  split
  · rfl
  · cases next <;> rfl

@[simp] theorem setMode_smoothedFillRatio (g : AdaptivePollingGovernor) (next : GovernorMode) :
    (g.setMode next).smoothedFillRatio = g.smoothedFillRatio := by
  unfold setMode
  split
  · rfl
  · cases next <;> rfl

@[simp] theorem setMode_integralError (g : AdaptivePollingGovernor) (next : GovernorMode) :
    (g.setMode next).integralError = g.integralError := by
  unfold setMode
  split
  · rfl
  · cases next <;> rfl

@[simp] theorem setMode_prevPushWaitNsTotal (g : AdaptivePollingGovernor) (next : GovernorMode) :
    (g.setMode next).prevPushWaitNsTotal = g.prevPushWaitNsTotal := by
  unfold setMode
  split
  · rfl
  · cases next <;> rfl

@[simp] theorem setMode_prevPopWaitNsTotal (g : AdaptivePollingGovernor) (next : GovernorMode) :
    (g.setMode next).prevPopWaitNsTotal = g.prevPopWaitNsTotal := by
  unfold setMode
  split
  · rfl
  · cases next <;> rfl

/-- Only a change to `FailSafe` counts as an entry to it. -/
theorem setMode_failSafeEntries (g : AdaptivePollingGovernor) {next : GovernorMode}
    (other : next ≠ .failSafe) : (g.setMode next).failSafeEntries = g.failSafeEntries := by
  unfold setMode
  split
  · rfl
  · cases next with
    | failSafe => exact absurd rfl other
    | fastRecovery => rfl
    | tracking => rfl
    | economy => rfl

end AdaptivePollingGovernor

end SensorGateway.Polling.Governor

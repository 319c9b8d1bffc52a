import Mathlib.Algebra.Order.Field.Rat
import Mathlib.Tactic.Linarith
import SensorGateway.Polling.Governor

/-! What holds of the governor after every call of every run: the sleep stays in its range, the
averages stay bounded, and `FailSafe` is never entered. -/

namespace SensorGateway.Polling.GovernorBounds
open SensorGateway.Lib.Saturating Governor AdaptivePollingGovernor

/-- One call of `update_with_override`; `update` is the one without an override. -/
structure Call where
  sensorAvailable : Nat
  stats : BufferStats
  overrideMode : GovernorOverride

/-- A buffer has room for something and holds no more than that. -/
def Call.Sane (call : Call) : Prop :=
  0 < call.stats.capacity ∧ call.stats.len ≤ call.stats.capacity

def invoke (g : AdaptivePollingGovernor) (call : Call) :
    Option (UInt64 × AdaptivePollingGovernor) :=
  g.updateWithOverride call.sensorAvailable call.stats call.overrideMode

/-- Calls made one after another, none of which may panic. -/
def run (g : AdaptivePollingGovernor) : List Call → Option AdaptivePollingGovernor
  | [] => some g
  | call :: rest => do
    let (_, g) ← invoke g call
    run g rest

theorem update_eq (g : AdaptivePollingGovernor) (sensorAvailable : Nat) (stats : BufferStats) :
    g.update sensorAvailable stats = invoke g ⟨sensorAvailable, stats, .none⟩ := rfl

/-- The sleep is one the configuration allows. -/
def InRange (cfg : AdaptivePollingConfig) (sleepUs : UInt64) : Prop :=
  cfg.minSleepUs.toNat ≤ sleepUs.toNat ∧ sleepUs.toNat ≤ cfg.maxSleepUs.toNat

/-- What the tests of `new` leave of a configuration, as far as the bounds rest on it. -/
structure Ordered (cfg : AdaptivePollingConfig) : Prop where
  positive : 0 < cfg.minSleepUs.toNat
  nominal : InRange cfg cfg.nominalSleepUs
  alpha : IsRatio cfg.ewmaAlpha
  limit : 0 ≤ cfg.integralLimit

/-! ## What one call leaves -/

/-- The state once the telemetry is taken in. -/
def seen (g : AdaptivePollingGovernor) (call : Call) : AdaptivePollingGovernor :=
  observe { g with updates := g.updates + 1 } call.sensorAvailable call.stats

/-- How far the smoothed fill is below its target. -/
def fillError (g : AdaptivePollingGovernor) : ℚ := g.cfg.targetFillRatio - g.smoothedFillRatio

/-- The integral once this call's error is in it. -/
def integrated (g : AdaptivePollingGovernor) : ℚ :=
  max (-g.cfg.integralLimit) (min g.cfg.integralLimit (g.integralError + fillError g))

def controlDelta (g : AdaptivePollingGovernor) : ℚ :=
  g.cfg.kpUsPerFill * fillError g + g.cfg.kiUsPerFill * integrated g

/-- What the controller proposes, in whole microseconds. -/
def proposedUs (g : AdaptivePollingGovernor) : Nat :=
  max g.cfg.minSleepUs.toNat (min g.cfg.maxSleepUs.toNat
    ⌊(g.cfg.nominalSleepUs.toNat : ℚ) + controlDelta g⌋₊)

def Relaxes (g : AdaptivePollingGovernor) (overrideMode : GovernorOverride) : Prop :=
  g.CanEnterEconomy overrideMode ∨ g.ShouldStayEconomy overrideMode

def Pressed (g : AdaptivePollingGovernor) : Prop :=
  g.cfg.targetFillRatio < g.smoothedFillRatio ∨ g.cfg.softSensorThreshold ≤ g.lastSensorAvailable

instance decidableRelaxes (g : AdaptivePollingGovernor) (overrideMode : GovernorOverride) :
    Decidable (Relaxes g overrideMode) :=
  inferInstanceAs (Decidable (_ ∨ _))

instance decidablePressed (g : AdaptivePollingGovernor) : Decidable (Pressed g) :=
  inferInstanceAs (Decidable (_ ∨ _))

/-- A proposal once the mode has had its say. -/
def adjustedUs (g : AdaptivePollingGovernor) (overrideMode : GovernorOverride)
    (proposed : Nat) : Nat :=
  if Relaxes g overrideMode then min (proposed + g.cfg.stepUpUs.toNat) g.cfg.maxSleepUs.toNat
  else if Pressed g then max (proposed - g.cfg.stepDownUs.toNat) g.cfg.minSleepUs.toNat
  else min proposed (g.cfg.nominalSleepUs.toNat + g.cfg.stepUpUs.toNat)

def limitedUs (cfg : AdaptivePollingConfig) (sleepUs : Nat) : GovernorOverride → Nat
  | .clampMaxSleep maxSleepUs => min sleepUs (max maxSleepUs.toNat cfg.minSleepUs.toNat)
  | .none | .forceFastRecovery => sleepUs

/-- The sleep of a call that is no emergency. -/
def regulatedUs (g : AdaptivePollingGovernor) (overrideMode : GovernorOverride) : Nat :=
  limitedUs g.cfg (adjustedUs g overrideMode (proposedUs g)) overrideMode

def halted (g : AdaptivePollingGovernor) (call : Call) : AdaptivePollingGovernor :=
  { setMode { g with updates := g.updates + 1 } .failSafe with
    currentSleepUs := 1000, lastFillRatio := 0, smoothedFillRatio := 0,
    lastSensorAvailable := call.sensorAvailable, lastPushWaitDeltaNs := 0,
    lastPopWaitDeltaNs := 0 }

def recovered (g : AdaptivePollingGovernor) : AdaptivePollingGovernor :=
  { g.setMode .fastRecovery with integralError := 0, currentSleepUs := g.cfg.minSleepUs }

def regulated (g : AdaptivePollingGovernor) (overrideMode : GovernorOverride) :
    AdaptivePollingGovernor :=
  { setMode { g with integralError := integrated g }
      (if Relaxes g overrideMode then .economy else .tracking) with
    currentSleepUs := UInt64.ofNat (regulatedUs g overrideMode) }

/-- The state a call leaves, for a configuration in order. -/
def after (g : AdaptivePollingGovernor) (call : Call) : AdaptivePollingGovernor :=
  if call.stats.capacity = 0 then halted g call
  else if (seen g call).Emergency call.overrideMode then recovered (seen g call)
  else regulated (seen g call) call.overrideMode

@[simp] theorem seen_cfg (g : AdaptivePollingGovernor) (call : Call) :
    (seen g call).cfg = g.cfg := rfl

@[simp] theorem seen_mode (g : AdaptivePollingGovernor) (call : Call) :
    (seen g call).mode = g.mode := rfl

@[simp] theorem seen_integralError (g : AdaptivePollingGovernor) (call : Call) :
    (seen g call).integralError = g.integralError := rfl

theorem after_halted {g : AdaptivePollingGovernor} {call : Call}
    (empty : call.stats.capacity = 0) : after g call = halted g call := by
  rw [after, if_pos empty]

theorem after_recovered {g : AdaptivePollingGovernor} {call : Call}
    (room : call.stats.capacity ≠ 0) (emergency : (seen g call).Emergency call.overrideMode) :
    after g call = recovered (seen g call) := by
  rw [after, if_neg room, if_pos emergency]

theorem after_regulated {g : AdaptivePollingGovernor} {call : Call}
    (room : call.stats.capacity ≠ 0) (steady : ¬(seen g call).Emergency call.overrideMode) :
    after g call = regulated (seen g call) call.overrideMode := by
  rw [after, if_neg room, if_neg steady]

@[simp] theorem after_cfg (g : AdaptivePollingGovernor) (call : Call) :
    (after g call).cfg = g.cfg := by
  unfold after
  split_ifs
  · simp [halted]
  · simp [recovered]
  · simp [regulated]

/-- What the next call counts its waits from. -/
theorem after_prevWaits (g : AdaptivePollingGovernor) {call : Call}
    (room : call.stats.capacity ≠ 0) :
    (after g call).prevPushWaitNsTotal = call.stats.pushWaitNsTotal ∧
      (after g call).prevPopWaitNsTotal = call.stats.popWaitNsTotal := by
  rw [after, if_neg room]
  split_ifs
  · simp [recovered, seen, observe]
  · simp [regulated, seen, observe]

theorem after_prevPushWait_of_empty (g : AdaptivePollingGovernor) {call : Call}
    (empty : call.stats.capacity = 0) :
    (after g call).prevPushWaitNsTotal = g.prevPushWaitNsTotal := by
  rw [after_halted empty, halted]
  exact setMode_prevPushWaitNsTotal _ _

theorem proposedUs_mem {g : AdaptivePollingGovernor} (ordered : Ordered g.cfg) :
    g.cfg.minSleepUs.toNat ≤ proposedUs g ∧ proposedUs g ≤ g.cfg.maxSleepUs.toNat := by
  have span := ordered.nominal.1.trans ordered.nominal.2
  exact ⟨le_max_left _ _, max_le span (min_le_left _ _)⟩

theorem adjustedUs_mem {g : AdaptivePollingGovernor} (ordered : Ordered g.cfg)
    (overrideMode : GovernorOverride) {proposed : Nat}
    (low : g.cfg.minSleepUs.toNat ≤ proposed) (high : proposed ≤ g.cfg.maxSleepUs.toNat) :
    g.cfg.minSleepUs.toNat ≤ adjustedUs g overrideMode proposed ∧
      adjustedUs g overrideMode proposed ≤ g.cfg.maxSleepUs.toNat := by
  obtain ⟨below, above⟩ := ordered.nominal
  unfold adjustedUs
  split_ifs <;> omega

theorem limitedUs_mem {cfg : AdaptivePollingConfig} {sleepUs : Nat}
    (low : cfg.minSleepUs.toNat ≤ sleepUs) (high : sleepUs ≤ cfg.maxSleepUs.toNat)
    (overrideMode : GovernorOverride) : cfg.minSleepUs.toNat ≤ limitedUs cfg sleepUs overrideMode ∧
      limitedUs cfg sleepUs overrideMode ≤ cfg.maxSleepUs.toNat := by
  cases overrideMode with
  | none => exact ⟨low, high⟩
  | forceFastRecovery => exact ⟨low, high⟩
  | clampMaxSleep maxSleepUs =>
    show _ ≤ min sleepUs (max maxSleepUs.toNat cfg.minSleepUs.toNat) ∧
      min sleepUs (max maxSleepUs.toNat cfg.minSleepUs.toNat) ≤ _
    omega

theorem regulatedUs_mem {g : AdaptivePollingGovernor} (ordered : Ordered g.cfg)
    (overrideMode : GovernorOverride) : g.cfg.minSleepUs.toNat ≤ regulatedUs g overrideMode ∧
      regulatedUs g overrideMode ≤ g.cfg.maxSleepUs.toNat := by
  obtain ⟨least, greatest⟩ := proposedUs_mem ordered
  obtain ⟨low, high⟩ := adjustedUs_mem ordered overrideMode least greatest
  exact limitedUs_mem low high overrideMode

theorem regulated_sleep {g : AdaptivePollingGovernor} (ordered : Ordered g.cfg)
    (overrideMode : GovernorOverride) :
    (regulated g overrideMode).currentSleepUs.toNat = regulatedUs g overrideMode := by
  have top := toNat_le_u64Max g.cfg.maxSleepUs
  exact toNat_ofNat_of_le ((regulatedUs_mem ordered overrideMode).2.trans top)

/-- Saturation plays no part in what `choose` computes. -/
theorem toNat_choose (g : AdaptivePollingGovernor) (overrideMode : GovernorOverride)
    (proposed : UInt64) : (g.choose overrideMode proposed).1.toNat =
      adjustedUs g overrideMode proposed.toNat := by
  have top := toNat_le_u64Max g.cfg.maxSleepUs
  have room := toNat_le_u64Max proposed
  unfold choose adjustedUs
  by_cases relaxes : Relaxes g overrideMode
  · rw [if_pos relaxes, if_pos (show g.CanEnterEconomy overrideMode ∨ _ from relaxes), toNat_min,
      toNat_saturatingAdd]
    omega
  · rw [if_neg relaxes, if_neg (show ¬(g.CanEnterEconomy overrideMode ∨ _) from relaxes)]
    by_cases pressed : Pressed g
    · rw [if_pos pressed, if_pos (show g.cfg.targetFillRatio < _ ∨ _ from pressed), toNat_max,
        toNat_saturatingSub]
    · rw [if_neg pressed, if_neg (show ¬(g.cfg.targetFillRatio < _ ∨ _) from pressed), toNat_min,
        toNat_saturatingAdd]
      omega

theorem choose_governor (g : AdaptivePollingGovernor) (overrideMode : GovernorOverride)
    (proposed : UInt64) : (g.choose overrideMode proposed).2 =
      g.setMode (if Relaxes g overrideMode then .economy else .tracking) := by
  unfold choose
  by_cases relaxes : Relaxes g overrideMode
  · rw [if_pos relaxes, if_pos (show g.CanEnterEconomy overrideMode ∨ _ from relaxes)]
  · rw [if_neg relaxes, if_neg (show ¬(g.CanEnterEconomy overrideMode ∨ _) from relaxes)]

theorem toNat_limit (g : AdaptivePollingGovernor) (proposed : UInt64)
    (overrideMode : GovernorOverride) :
    (g.limit proposed overrideMode).toNat = limitedUs g.cfg proposed.toNat overrideMode := by
  cases overrideMode with
  | none => rfl
  | forceFastRecovery => rfl
  | clampMaxSleep maxSleepUs =>
    show (min proposed (max maxSleepUs g.cfg.minSleepUs)).toNat = _
    rw [toNat_min, toNat_max]
    rfl

/-- A sleep that is not zero is taken as it is. -/
theorem settle_eq (g : AdaptivePollingGovernor) {proposed : UInt64} (positive : 0 < proposed.toNat) :
    g.settle proposed = { g with currentSleepUs := proposed } := by
  have nonzero : proposed ≠ 0 := by
    rintro rfl
    exact absurd positive (lt_irrefl 0)
  rw [settle, if_neg nonzero]

theorem regulate_eq {g : AdaptivePollingGovernor} (ordered : Ordered g.cfg)
    (overrideMode : GovernorOverride) :
    g.regulate overrideMode = some (regulated g overrideMode) := by
  have span := ordered.nominal.1.trans ordered.nominal.2
  have integrates := clamp_eq_some (neg_le_self ordered.limit) (g.integralError + fillError g)
  have proposes := clamp_eq_some
    (show (g.cfg.minSleepUs.toNat : ℚ) ≤ g.cfg.maxSleepUs.toNat by exact_mod_cast span)
    (g.cfg.nominalSleepUs.toNat + controlDelta g)
  have whole := toNat_asU64_clamped span (g.cfg.nominalSleepUs.toNat + controlDelta g)
  generalize max (g.cfg.minSleepUs.toNat : ℚ) (min (g.cfg.maxSleepUs.toNat : ℚ)
    (g.cfg.nominalSleepUs.toNat + controlDelta g)) = wished at proposes whole
  have result : g.regulate overrideMode =
      let (proposed, g) := choose { g with integralError := integrated g } overrideMode (asU64 wished)
      some (g.settle (g.limit proposed overrideMode)) := by
    unfold fillError at integrates
    unfold controlDelta integrated fillError at proposes
    simp only [regulate, integrates, proposes, Option.bind_eq_bind, Option.bind_some]
    rfl
  have moves := choose_governor { g with integralError := integrated g } overrideMode (asU64 wished)
  have adjusts := toNat_choose { g with integralError := integrated g } overrideMode (asU64 wished)
  rw [result]
  generalize choose { g with integralError := integrated g } overrideMode (asU64 wished) = outcome
    at adjusts moves
  obtain ⟨proposed, chosen⟩ := outcome
  dsimp only at adjusts moves
  have sleeps : (chosen.limit proposed overrideMode).toNat = regulatedUs g overrideMode := by
    rw [toNat_limit, adjusts, whole, moves, setMode_cfg]
    rfl
  have low := (regulatedUs_mem ordered overrideMode).1
  have positive := ordered.positive
  dsimp only
  rw [settle_eq chosen (by omega), regulated, ← sleeps, UInt64.ofNat_toNat, moves]
  rfl

/-- The configuration matters only to a call that gets as far as the controller. -/
theorem invoke_eq_of_controlled {g : AdaptivePollingGovernor} {call : Call}
    (controlled : call.stats.capacity ≠ 0 → ¬(seen g call).Emergency call.overrideMode →
      Ordered g.cfg) : invoke g call = some ((after g call).currentSleepUs, after g call) := by
  unfold invoke updateWithOverride after
  by_cases empty : call.stats.capacity = 0
  · rw [if_pos empty, if_pos empty]
    rfl
  · rw [if_neg empty, if_neg empty]
    by_cases emergency : (seen g call).Emergency call.overrideMode
    · rw [if_pos emergency]
      exact if_pos emergency
    · rw [if_neg emergency]
      refine (if_neg emergency).trans ?_
      show ((seen g call).regulate call.overrideMode).bind _ = _
      rw [regulate_eq (show Ordered (seen g call).cfg from controlled empty emergency)]
      rfl

/-- With its configuration in order no call panics. -/
theorem invoke_eq {g : AdaptivePollingGovernor} (ordered : Ordered g.cfg) (call : Call) :
    invoke g call = some ((after g call).currentSleepUs, after g call) :=
  invoke_eq_of_controlled fun _ _ => ordered

theorem run_cons {g : AdaptivePollingGovernor} (ordered : Ordered g.cfg) (call : Call)
    (rest : List Call) : run g (call :: rest) = run (after g call) rest := by
  show (invoke g call).bind (fun outcome => run outcome.2 rest) = _
  rw [invoke_eq ordered, Option.bind_some]

/-- A run of a governor in order is a fold. -/
theorem run_eq {g : AdaptivePollingGovernor} (ordered : Ordered g.cfg) (calls : List Call) :
    run g calls = some (calls.foldl after g) := by
  induction calls generalizing g with
  | nil => rfl
  | cons call rest ih =>
    rw [run_cons ordered]
    apply ih
    rw [after_cfg]
    exact ordered

@[simp] theorem foldl_after_cfg (g : AdaptivePollingGovernor) (calls : List Call) :
    (calls.foldl after g).cfg = g.cfg := by
  induction calls generalizing g with
  | nil => rfl
  | cons call rest ih => rw [List.foldl_cons, ih, after_cfg]

theorem run_ordered {g : AdaptivePollingGovernor} (ordered : Ordered g.cfg) (calls : List Call) :
    ∃ g', run g calls = some g' ∧ g'.cfg = g.cfg := by
  induction calls generalizing g with
  | nil => exact ⟨g, rfl, rfl⟩
  | cons call rest ih =>
    have next : Ordered (after g call).cfg := by
      rw [after_cfg]
      exact ordered
    obtain ⟨last, runs, same⟩ := ih next
    refine ⟨last, ?_, same.trans (after_cfg g call)⟩
    rw [run_cons ordered, runs]

theorem run_concat (g : AdaptivePollingGovernor) (calls : List Call) (call : Call) :
    run g (calls ++ [call]) = (run g calls).bind fun g => run g [call] := by
  induction calls generalizing g with
  | nil => rfl
  | cons first rest ih =>
    show (invoke g first).bind (fun outcome => run outcome.2 (rest ++ [call])) =
      ((invoke g first).bind fun outcome => run outcome.2 rest).bind _
    rw [Option.bind_assoc]
    simp only [ih]

/-! ## What holds after every call -/

structure Bounded (g : AdaptivePollingGovernor) : Prop where
  ordered : Ordered g.cfg
  sleep : InRange g.cfg g.currentSleepUs
  smoothed : IsRatio g.smoothedFillRatio
  integral : |g.integralError| ≤ g.cfg.integralLimit
  mode : g.mode ≠ .failSafe
  never : g.failSafeEntries = 0

/-- What a call leaves behind besides. -/
structure Obeys (overrideMode : GovernorOverride) (g : AdaptivePollingGovernor) : Prop where
  clamped : ∀ maxSleepUs, overrideMode = .clampMaxSleep maxSleepUs →
    g.currentSleepUs.toNat ≤ max maxSleepUs.toNat g.cfg.minSleepUs.toNat
  active : ¬EconomyAllowed overrideMode → g.mode ≠ .economy

theorem ordered_of_valid {cfg : AdaptivePollingConfig} (valid : ¬cfg.Invalid)
    (limit : 0 ≤ cfg.integralLimit) : Ordered cfg := by
  simp only [AdaptivePollingConfig.Invalid, not_or, not_not] at valid
  obtain ⟨zero, lower, upper, -, -, -, alpha, -⟩ := valid
  rw [UInt64.lt_iff_toNat_lt] at lower upper
  have nonzero : cfg.minSleepUs.toNat ≠ 0 := fun same => zero (UInt64.toNat_inj.mp same)
  exact ⟨by omega, ⟨by omega, by omega⟩, alpha, limit⟩

theorem default_valid : ¬AdaptivePollingConfig.default.Invalid := by
  decide +kernel

theorem new_cfg {cfg : AdaptivePollingConfig} (valid : ¬cfg.Invalid) : (new cfg).cfg = cfg :=
  if_neg valid

theorem new_cfg_of_invalid {cfg : AdaptivePollingConfig} (invalid : cfg.Invalid) :
    (new cfg).cfg = AdaptivePollingConfig.default :=
  if_pos invalid

theorem new_valid (cfg : AdaptivePollingConfig) : ¬(new cfg).cfg.Invalid := by
  by_cases invalid : cfg.Invalid
  · rw [new_cfg_of_invalid invalid]
    exact default_valid
  · rw [new_cfg invalid]
    exact invalid

theorem ordered_default : Ordered AdaptivePollingConfig.default :=
  ordered_of_valid default_valid (show (0 : ℚ) ≤ 1 from zero_le_one)

theorem ordered_new {cfg : AdaptivePollingConfig} (limit : 0 ≤ cfg.integralLimit) :
    Ordered (new cfg).cfg := by
  by_cases invalid : cfg.Invalid
  · rw [new_cfg_of_invalid invalid]
    exact ordered_default
  · rw [new_cfg invalid]
    exact ordered_of_valid invalid limit

theorem bounded_new {cfg : AdaptivePollingConfig} (limit : 0 ≤ cfg.integralLimit) :
    Bounded (new cfg) := by
  have ordered := ordered_new limit
  exact {
    ordered
    sleep := ordered.nominal
    smoothed := ⟨le_refl 0, zero_le_one⟩
    integral := by
      show |(0 : ℚ)| ≤ _
      rw [abs_zero]
      exact ordered.limit
    mode := GovernorMode.noConfusion
    never := rfl }

/-- A weighted mean of two ratios is a ratio. -/
theorem isRatio_mix {alpha a b : ℚ} (weight : IsRatio alpha) (first : IsRatio a)
    (second : IsRatio b) : IsRatio ((1 - alpha) * a + alpha * b) := by
  obtain ⟨low, high⟩ := weight
  have rest : 0 ≤ 1 - alpha := by linarith
  constructor
  · exact add_nonneg (mul_nonneg rest first.1) (mul_nonneg low second.1)
  · calc
      (1 - alpha) * a + alpha * b ≤ (1 - alpha) * 1 + alpha * 1 :=
        add_le_add (mul_le_mul_of_nonneg_left first.2 rest) (mul_le_mul_of_nonneg_left second.2 low)
      _ = 1 := by ring

theorem isRatio_fill {len capacity : Nat} (positive : 0 < capacity) (fits : len ≤ capacity) :
    IsRatio ((len : ℚ) / capacity) := by
  have above : (0 : ℚ) < capacity := by exact_mod_cast positive
  constructor
  · exact div_nonneg (Nat.cast_nonneg _) above.le
  · rw [div_le_one above]
    exact_mod_cast fits

theorem Bounded.setMode {g : AdaptivePollingGovernor} (bounded : Bounded g) {next : GovernorMode}
    (other : next ≠ .failSafe) : Bounded (g.setMode next) where
  ordered := by simpa using bounded.ordered
  sleep := by simpa using bounded.sleep
  smoothed := by simpa using bounded.smoothed
  integral := by simpa using bounded.integral
  mode := by simpa using other
  never := by rw [setMode_failSafeEntries g other, bounded.never]

theorem Bounded.seen {g : AdaptivePollingGovernor} (bounded : Bounded g) {call : Call}
    (sane : call.Sane) : Bounded (seen g call) where
  ordered := bounded.ordered
  sleep := bounded.sleep
  smoothed := isRatio_mix bounded.ordered.alpha bounded.smoothed (isRatio_fill sane.1 sane.2)
  integral := bounded.integral
  mode := bounded.mode
  never := bounded.never

theorem Bounded.recovered {g : AdaptivePollingGovernor} (bounded : Bounded g) :
    Bounded (recovered g) := by
  have other : GovernorMode.fastRecovery ≠ .failSafe := GovernorMode.noConfusion
  have moved := bounded.setMode other
  exact { moved with
    sleep := by
      show InRange (g.setMode .fastRecovery).cfg g.cfg.minSleepUs
      rw [setMode_cfg]
      exact ⟨le_refl _, bounded.ordered.nominal.1.trans bounded.ordered.nominal.2⟩
    integral := by
      show |(0 : ℚ)| ≤ _
      rw [abs_zero]
      exact moved.ordered.limit }

theorem integrated_mem {g : AdaptivePollingGovernor} (limit : 0 ≤ g.cfg.integralLimit) :
    |integrated g| ≤ g.cfg.integralLimit := by
  rw [abs_le]
  exact ⟨le_max_left _ _, max_le (neg_le_self limit) (min_le_left _ _)⟩

theorem Bounded.regulated {g : AdaptivePollingGovernor} (bounded : Bounded g)
    (overrideMode : GovernorOverride) : Bounded (regulated g overrideMode) := by
  have integral : Bounded { g with integralError := integrated g } :=
    { bounded with integral := integrated_mem bounded.ordered.limit }
  have working : (if Relaxes g overrideMode then GovernorMode.economy else .tracking) ≠
      .failSafe := by
    split_ifs <;> exact GovernorMode.noConfusion
  have moved := integral.setMode working
  exact { moved with
    sleep := by
      have range := regulatedUs_mem bounded.ordered overrideMode
      rw [← regulated_sleep bounded.ordered overrideMode] at range
      show InRange (AdaptivePollingGovernor.setMode _ _).cfg _
      rw [setMode_cfg]
      exact range }

theorem obeys_recovered {g : AdaptivePollingGovernor} (overrideMode : GovernorOverride) :
    Obeys overrideMode (recovered g) where
  clamped := by
    intro maxSleepUs _
    show g.cfg.minSleepUs.toNat ≤ max maxSleepUs.toNat (g.setMode .fastRecovery).cfg.minSleepUs.toNat
    rw [setMode_cfg]
    exact le_max_right _ _
  active := by simp [recovered]

theorem obeys_regulated {g : AdaptivePollingGovernor} (ordered : Ordered g.cfg)
    (overrideMode : GovernorOverride) : Obeys overrideMode (regulated g overrideMode) where
  clamped := by
    rintro maxSleepUs rfl
    rw [regulated_sleep ordered, regulatedUs]
    show min _ (max _ _) ≤ max _ (setMode _ _).cfg.minSleepUs.toNat
    rw [setMode_cfg]
    exact min_le_right _ _
  active := by
    intro denied
    have tracking : ¬Relaxes g overrideMode := by
      rintro (enters | stays)
      · exact denied enters.1
      · exact denied stays.1
    simp [regulated, tracking]

theorem invoke_bounded {g : AdaptivePollingGovernor} (bounded : Bounded g) {call : Call}
    (sane : call.Sane) : ∃ g', invoke g call = some (g'.currentSleepUs, g') ∧ Bounded g' ∧
      Obeys call.overrideMode g' := by
  refine ⟨after g call, invoke_eq bounded.ordered call, ?_⟩
  have observed := bounded.seen sane
  by_cases emergency : (GovernorBounds.seen g call).Emergency call.overrideMode
  · rw [after_recovered sane.1.ne' emergency]
    exact ⟨observed.recovered, obeys_recovered call.overrideMode⟩
  · rw [after_regulated sane.1.ne' emergency]
    exact ⟨observed.regulated call.overrideMode, obeys_regulated observed.ordered call.overrideMode⟩

theorem run_bounded {g : AdaptivePollingGovernor} (bounded : Bounded g) {calls : List Call}
    (sane : ∀ call ∈ calls, call.Sane) : ∃ g', run g calls = some g' ∧ Bounded g' := by
  induction calls generalizing g with
  | nil => exact ⟨g, rfl, bounded⟩
  | cons call rest ih =>
    obtain ⟨next, invokes, after, -⟩ := invoke_bounded bounded (sane call List.mem_cons_self)
    obtain ⟨last, runs, final⟩ := ih after (fun later member => sane later (List.mem_cons_of_mem _ member))
    exact ⟨last, by simp [run, invokes, runs], final⟩

/-- After any calls, one more call returns, and leaves the governor within its bounds. -/
theorem governor_bounded (given : AdaptivePollingConfig) (nonneg : 0 ≤ given.integralLimit)
    (earlier : List Call) (call : Call) (sane : ∀ each ∈ earlier ++ [call], each.Sane) :
    ∃ before after, run (new given) earlier = some before ∧
      invoke before call = some (after.currentSleepUs, after) ∧
      after.cfg.minSleepUs ≤ after.currentSleepUs ∧ after.currentSleepUs ≤ after.cfg.maxSleepUs ∧
      0 ≤ after.smoothedFillRatio ∧ after.smoothedFillRatio ≤ 1 ∧
      |after.integralError| ≤ after.cfg.integralLimit ∧
      after.mode ≠ .failSafe ∧ after.failSafeEntries = 0 ∧
      (∀ maxSleepUs, call.overrideMode = .clampMaxSleep maxSleepUs →
        after.currentSleepUs ≤ max maxSleepUs after.cfg.minSleepUs ∧ after.mode ≠ .economy) ∧
      (call.overrideMode = .forceFastRecovery → after.mode ≠ .economy) := by
  obtain ⟨before, runs, settled⟩ := run_bounded (bounded_new nonneg)
    (fun each member => sane each (List.mem_append_left _ member))
  obtain ⟨after, invokes, bounded, obeys⟩ := invoke_bounded settled
    (sane call (List.mem_append_right _ List.mem_cons_self))
  refine ⟨before, after, runs, invokes, UInt64.le_iff_toNat_le.mpr bounded.sleep.1,
    UInt64.le_iff_toNat_le.mpr bounded.sleep.2, bounded.smoothed.1, bounded.smoothed.2,
    bounded.integral, bounded.mode, bounded.never, ?_, ?_⟩
  · intro maxSleepUs clamps
    rw [UInt64.le_iff_toNat_le, toNat_max]
    refine ⟨obeys.clamped maxSleepUs clamps, obeys.active ?_⟩
    rw [clamps]
    exact id
  · intro forces
    apply obeys.active
    rw [forces]
    exact id

/-- Nothing is waiting, and the sleep is to stay below 80 microseconds. -/
def idleCall : Call := ⟨0, ⟨10000, 0, 0, 1000000⟩, .clampMaxSleep 80⟩

theorem governor_bounded_idle :
    ∃ before after, run (new AdaptivePollingConfig.default) [idleCall] = some before ∧
      invoke before idleCall = some (after.currentSleepUs, after) ∧
      after.currentSleepUs ≤ max 80 after.cfg.minSleepUs ∧ after.mode ≠ .economy := by
  have nonneg : (0 : ℚ) ≤ 1 := zero_le_one
  have sane : ∀ each ∈ [idleCall] ++ [idleCall], each.Sane := by
    intro each member
    obtain rfl : each = idleCall := by simpa using member
    exact ⟨Nat.succ_pos _, Nat.zero_le _⟩
  obtain ⟨before, after, runs, invokes, -, -, -, -, -, -, -, clamped, -⟩ :=
    governor_bounded AdaptivePollingConfig.default nonneg [idleCall] idleCall sane
  exact ⟨before, after, runs, invokes, clamped 80 rfl⟩

end SensorGateway.Polling.GovernorBounds

import SensorGateway.Polling.GovernorBounds

/-! How the sleep answers to backlog. From one state more backlog brings no longer sleep, but for a
proposal far above the nominal sleep: `Tracking` caps it while nothing presses, and takes only a
step off it once something does. -/

namespace SensorGateway.Polling.GovernorBacklog
open SensorGateway.Lib.Saturating Governor AdaptivePollingGovernor GovernorBounds

/-- The second call finds no less waiting than the first, and everything else alike. -/
structure Heavier (light heavy : Call) : Prop where
  room : light.stats.capacity ≠ 0
  capacity : heavy.stats.capacity = light.stats.capacity
  available : light.sensorAvailable ≤ heavy.sensorAvailable
  len : light.stats.len ≤ heavy.stats.len
  pushWait : heavy.stats.pushWaitNsTotal = light.stats.pushWaitNsTotal
  popWait : heavy.stats.popWaitNsTotal = light.stats.popWaitNsTotal
  overrideMode : heavy.overrideMode = light.overrideMode

/-- The controller pulls towards its target, if at all. -/
structure Corrective (cfg : AdaptivePollingConfig) : Prop where
  proportional : 0 ≤ cfg.kpUsPerFill
  integral : 0 ≤ cfg.kiUsPerFill

/-- What `Heavier` makes of the two states that have taken their telemetry in. -/
structure Busier (a b : AdaptivePollingGovernor) : Prop where
  cfg : b.cfg = a.cfg
  mode : b.mode = a.mode
  integral : b.integralError = a.integralError
  smoothed : a.smoothedFillRatio ≤ b.smoothedFillRatio
  available : a.lastSensorAvailable ≤ b.lastSensorAvailable
  pushDelta : b.lastPushWaitDeltaNs = a.lastPushWaitDeltaNs
  popDelta : b.lastPopWaitDeltaNs = a.lastPopWaitDeltaNs

theorem Heavier.seen {light heavy : Call} (heavier : Heavier light heavy)
    {g : AdaptivePollingGovernor} (weight : 0 ≤ g.cfg.ewmaAlpha) :
    Busier (seen g light) (seen g heavy) where
  cfg := rfl
  mode := rfl
  integral := rfl
  available := heavier.available
  pushDelta := congrArg (· - g.prevPushWaitNsTotal) heavier.pushWait
  popDelta := congrArg (· - g.prevPopWaitNsTotal) heavier.popWait
  smoothed := by
    have fills : (light.stats.len : ℚ) / light.stats.capacity ≤
        heavy.stats.len / heavy.stats.capacity := by
      rw [heavier.capacity]
      exact div_le_div_of_nonneg_right (by exact_mod_cast heavier.len) (Nat.cast_nonneg _)
    show (1 - g.cfg.ewmaAlpha) * g.smoothedFillRatio + g.cfg.ewmaAlpha * _ ≤
      (1 - g.cfg.ewmaAlpha) * g.smoothedFillRatio + g.cfg.ewmaAlpha * _
    have weighted := mul_le_mul_of_nonneg_left fills weight
    linarith

section
variable {a b : AdaptivePollingGovernor} (busier : Busier a b)
include busier

theorem Busier.emergency {overrideMode : GovernorOverride} (emergency : a.Emergency overrideMode) :
    b.Emergency overrideMode := by
  obtain ⟨cfg, -, -, smoothed, available, pushDelta, -⟩ := busier
  unfold Emergency at emergency ⊢
  rw [cfg, pushDelta]
  rcases emergency with forced | sensors | fill | waited
  · exact Or.inl forced
  · exact Or.inr (Or.inl (sensors.trans available))
  · exact Or.inr (Or.inr (Or.inl (fill.trans smoothed)))
  · exact Or.inr (Or.inr (Or.inr waited))

theorem Busier.relaxes {overrideMode : GovernorOverride} (relaxes : Relaxes b overrideMode) :
    Relaxes a overrideMode := by
  obtain ⟨cfg, mode, -, smoothed, available, pushDelta, popDelta⟩ := busier
  unfold Relaxes CanEnterEconomy ShouldStayEconomy at relaxes ⊢
  rw [cfg, mode, pushDelta, popDelta] at relaxes
  rcases relaxes with ⟨allowed, fill, sensors, waits⟩ | ⟨allowed, economy, fill, sensors, waits⟩
  · exact Or.inl ⟨allowed, smoothed.trans fill, available.trans sensors, waits⟩
  · exact Or.inr ⟨allowed, economy, smoothed.trans fill, available.trans sensors, waits⟩

theorem Busier.pressed (pressed : Pressed a) : Pressed b := by
  obtain ⟨cfg, -, -, smoothed, available, -, -⟩ := busier
  unfold Pressed at pressed ⊢
  rw [cfg]
  rcases pressed with fill | sensors
  · exact Or.inl (fill.trans_le smoothed)
  · exact Or.inr (sensors.trans available)

theorem Busier.controlDelta (corrective : Corrective a.cfg) :
    controlDelta b ≤ controlDelta a := by
  obtain ⟨cfg, -, integral, smoothed, -, -, -⟩ := busier
  have error : fillError b ≤ fillError a := by
    unfold fillError
    rw [cfg]
    linarith
  have integrals : integrated b ≤ integrated a := by
    unfold integrated
    rw [cfg, integral]
    exact max_le_max_left _ (min_le_min_left _ (by linarith))
  unfold GovernorBounds.controlDelta
  rw [cfg]
  exact add_le_add (mul_le_mul_of_nonneg_left error corrective.proportional)
    (mul_le_mul_of_nonneg_left integrals corrective.integral)

theorem Busier.proposedUs (corrective : Corrective a.cfg) : proposedUs b ≤ proposedUs a := by
  have deltas := busier.controlDelta corrective
  unfold GovernorBounds.proposedUs
  rw [busier.cfg]
  exact max_le_max_left _ (min_le_min_left _ (Nat.floor_mono (by linarith)))

end

/-- The one pair of branches that is out of order: the lighter call caps its proposal, the heavier
takes a step off a proposal so far above nominal that more than the cap is left. -/
def Inverts (g : AdaptivePollingGovernor) (light heavy : Call) : Prop :=
  let a := seen g light
  let b := seen g heavy
  ¬b.Emergency heavy.overrideMode ∧ ¬Relaxes a light.overrideMode ∧ ¬Pressed a ∧ Pressed b ∧
    g.cfg.nominalSleepUs.toNat + g.cfg.stepUpUs.toNat + g.cfg.stepDownUs.toNat <
      g.cfg.maxSleepUs.toNat ∧
    (g.cfg.stepUpUs.toNat : ℚ) + g.cfg.stepDownUs.toNat + 1 ≤ controlDelta b ∧
    ∀ maxSleepUs, heavy.overrideMode = .clampMaxSleep maxSleepUs →
      g.cfg.nominalSleepUs.toNat + g.cfg.stepUpUs.toNat < maxSleepUs.toNat

theorem lt_proposedUs_iff {g : AdaptivePollingGovernor} (ordered : Ordered g.cfg) (excess : Nat) :
    g.cfg.nominalSleepUs.toNat + excess < proposedUs g ↔
      g.cfg.nominalSleepUs.toNat + excess < g.cfg.maxSleepUs.toNat ∧
        (excess : ℚ) + 1 ≤ controlDelta g := by
  have below := ordered.nominal.1
  have floor : g.cfg.nominalSleepUs.toNat + excess + 1 ≤
      ⌊(g.cfg.nominalSleepUs.toNat : ℚ) + controlDelta g⌋₊ ↔ (excess : ℚ) + 1 ≤ controlDelta g := by
    rw [Nat.le_floor_iff' (Nat.succ_ne_zero _), Nat.cast_succ, Nat.cast_add, add_assoc]
    exact add_le_add_iff_left _
  rw [← floor, proposedUs]
  omega

/-- Which pairs of branches order the sleeps the wrong way round. -/
theorem adjustedUs_lt_iff {a b : AdaptivePollingGovernor} (busier : Busier a b)
    (ordered : Ordered a.cfg) (overrideMode : GovernorOverride) {p q : Nat}
    (low : a.cfg.minSleepUs.toNat ≤ q) (less : q ≤ p) (high : p ≤ a.cfg.maxSleepUs.toNat) :
    adjustedUs a overrideMode p < adjustedUs b overrideMode q ↔
      ¬Relaxes a overrideMode ∧ ¬Pressed a ∧ Pressed b ∧
        a.cfg.nominalSleepUs.toNat + a.cfg.stepUpUs.toNat + a.cfg.stepDownUs.toNat < q := by
  have below := ordered.nominal.1
  unfold adjustedUs
  rw [busier.cfg]
  by_cases relaxed : Relaxes b overrideMode
  · have relaxes := busier.relaxes relaxed
    rw [if_pos relaxed, if_pos relaxes]
    simp only [relaxes, not_true, false_and, iff_false]
    omega
  · rw [if_neg relaxed]
    by_cases relaxes : Relaxes a overrideMode
    · rw [if_pos relaxes]
      simp only [relaxes, not_true, false_and, iff_false]
      split_ifs <;> omega
    · rw [if_neg relaxes]
      by_cases pressed : Pressed a
      · rw [if_pos pressed, if_pos (busier.pressed pressed)]
        simp only [pressed, not_true, false_and, and_false, iff_false]
        omega
      · rw [if_neg pressed]
        by_cases pressing : Pressed b
        · rw [if_pos pressing]
          simp only [relaxes, pressed, pressing, not_false_eq_true, true_and]
          omega
        · rw [if_neg pressing]
          simp only [pressing, false_and, and_false, iff_false]
          omega

/-- A limit hides a difference above it. -/
theorem limitedUs_lt_iff (cfg : AdaptivePollingConfig) (overrideMode : GovernorOverride)
    {x y : Nat} (low : cfg.minSleepUs.toNat ≤ x) :
    limitedUs cfg x overrideMode < limitedUs cfg y overrideMode ↔
      x < y ∧ ∀ maxSleepUs, overrideMode = .clampMaxSleep maxSleepUs → x < maxSleepUs.toNat := by
  cases overrideMode with
  | none => exact ⟨fun less => ⟨less, fun _ other => nomatch other⟩, And.left⟩
  | forceFastRecovery => exact ⟨fun less => ⟨less, fun _ other => nomatch other⟩, And.left⟩
  | clampMaxSleep limit =>
    simp only [limitedUs, GovernorOverride.clampMaxSleep.injEq, forall_eq']
    omega

theorem regulatedUs_lt_iff {a b : AdaptivePollingGovernor} (busier : Busier a b)
    (ordered : Ordered a.cfg) (corrective : Corrective a.cfg) (overrideMode : GovernorOverride) :
    regulatedUs a overrideMode < regulatedUs b overrideMode ↔
      ¬Relaxes a overrideMode ∧ ¬Pressed a ∧ Pressed b ∧
        a.cfg.nominalSleepUs.toNat + a.cfg.stepUpUs.toNat + a.cfg.stepDownUs.toNat <
          proposedUs b ∧
        ∀ maxSleepUs, overrideMode = .clampMaxSleep maxSleepUs →
          a.cfg.nominalSleepUs.toNat + a.cfg.stepUpUs.toNat < maxSleepUs.toNat := by
  obtain ⟨least, greatest⟩ := proposedUs_mem ordered
  have less := busier.proposedUs corrective
  have bottom : a.cfg.minSleepUs.toNat ≤ proposedUs b := by
    rw [← busier.cfg]
    exact le_max_left _ _
  have adjusts := adjustedUs_lt_iff busier ordered overrideMode bottom less greatest
  have low := (adjustedUs_mem ordered overrideMode least greatest).1
  unfold regulatedUs
  rw [busier.cfg, limitedUs_lt_iff a.cfg overrideMode low, adjusts]
  have capped (relaxes : ¬Relaxes a overrideMode) (pressed : ¬Pressed a) (far :
      a.cfg.nominalSleepUs.toNat + a.cfg.stepUpUs.toNat + a.cfg.stepDownUs.toNat < proposedUs b) :
      adjustedUs a overrideMode (proposedUs a) =
        a.cfg.nominalSleepUs.toNat + a.cfg.stepUpUs.toNat := by
    rw [adjustedUs, if_neg relaxes, if_neg pressed]
    omega
  constructor
  · rintro ⟨⟨relaxes, pressed, pressing, far⟩, limits⟩
    rw [capped relaxes pressed far] at limits
    exact ⟨relaxes, pressed, pressing, far, limits⟩
  · rintro ⟨relaxes, pressed, pressing, far, limits⟩
    rw [capped relaxes pressed far]
    exact ⟨⟨relaxes, pressed, pressing, far⟩, limits⟩

/-- A call never sleeps less than the shortest sleep, unless it finds a buffer of no room. -/
theorem le_after {g : AdaptivePollingGovernor} (ordered : Ordered g.cfg) {call : Call}
    (room : call.stats.capacity ≠ 0) :
    g.cfg.minSleepUs.toNat ≤ (after g call).currentSleepUs.toNat := by
  by_cases emergency : (seen g call).Emergency call.overrideMode
  · rw [after_recovered room emergency]
    exact le_refl _
  · rw [after_regulated room emergency, regulated_sleep (show Ordered (seen g call).cfg from ordered)]
    exact (regulatedUs_mem (show Ordered (seen g call).cfg from ordered) call.overrideMode).1

/-- One step: the sleeps of the two calls, made from one state. -/
theorem after_lt_iff {g : AdaptivePollingGovernor} (ordered : Ordered g.cfg)
    (corrective : Corrective g.cfg) {light heavy : Call} (heavier : Heavier light heavy) :
    (after g light).currentSleepUs.toNat < (after g heavy).currentSleepUs.toNat ↔
      Inverts g light heavy := by
  have busier := heavier.seen ordered.alpha.1
  have room : heavy.stats.capacity ≠ 0 := by
    rw [heavier.capacity]
    exact heavier.room
  have least := le_after ordered heavier.room
  unfold Inverts
  by_cases emergency : (seen g heavy).Emergency heavy.overrideMode
  · rw [after_recovered room emergency]
    simp only [emergency, not_true, false_and, iff_false, not_lt]
    exact least
  · have steady : ¬(seen g light).Emergency light.overrideMode := by
      rw [← heavier.overrideMode]
      exact fun first => emergency (busier.emergency first)
    have orderedLight : Ordered (seen g light).cfg := ordered
    have orderedHeavy : Ordered (seen g heavy).cfg := ordered
    rw [after_regulated room emergency, after_regulated heavier.room steady,
      regulated_sleep orderedHeavy, regulated_sleep orderedLight, heavier.overrideMode]
    rw [regulatedUs_lt_iff busier orderedLight corrective]
    have far := lt_proposedUs_iff orderedHeavy (g.cfg.stepUpUs.toNat + g.cfg.stepDownUs.toNat)
    simp only [seen_cfg, ← add_assoc, Nat.cast_add] at far ⊢
    rw [far]
    rw [heavier.overrideMode] at emergency
    simp only [emergency, not_false_eq_true, true_and, and_assoc]

/-- After any calls, of two calls the heavier gets the longer sleep in this one case. -/
theorem heavier_sleep (given : AdaptivePollingConfig) (valid : ¬given.Invalid)
    (corrective : Corrective given) (limit : 0 ≤ given.integralLimit) (earlier : List Call)
    (light heavy : Call) (heavier : Heavier light heavy) :
    ∃ g lightSleep lightNext heavySleep heavyNext, run (new given) earlier = some g ∧
      invoke g light = some (lightSleep, lightNext) ∧
      invoke g heavy = some (heavySleep, heavyNext) ∧
      (heavySleep ≤ lightSleep ↔ ¬Inverts g light heavy) := by
  obtain ⟨g, runs, same⟩ := run_ordered (ordered_new limit) earlier
  rw [new_cfg valid] at same
  have ordered : Ordered g.cfg := by
    rw [same]
    exact ordered_of_valid valid limit
  have corrects : Corrective g.cfg := by
    rw [same]
    exact corrective
  refine ⟨g, _, _, _, _, runs, invoke_eq ordered light, invoke_eq ordered heavy, ?_⟩
  rw [UInt64.le_iff_toNat_le, ← after_lt_iff ordered corrects heavier, not_lt]

/-- Nothing waits anywhere. -/
def idle : Call := ⟨0, ⟨10000, 0, 0, 0⟩, .none⟩

/-- Eight readings wait at the sensors. -/
def waiting : Call := ⟨8, ⟨10000, 0, 0, 0⟩, .none⟩

theorem waiting_heavier : Heavier idle waiting where
  room := Nat.succ_ne_zero _
  capacity := rfl
  available := Nat.zero_le _
  len := le_refl _
  pushWait := rfl
  popWait := rfl
  overrideMode := rfl

theorem corrective_default : Corrective AdaptivePollingConfig.default where
  proportional := show (0 : ℚ) ≤ 2000 by decide
  integral := show (0 : ℚ) ≤ 80 by decide

theorem heavier_sleep_default :
    ∃ g lightSleep lightNext heavySleep heavyNext,
      run (new AdaptivePollingConfig.default) (List.replicate 34 idle) = some g ∧
      invoke g idle = some (lightSleep, lightNext) ∧
      invoke g waiting = some (heavySleep, heavyNext) ∧
      (heavySleep ≤ lightSleep ↔ ¬Inverts g idle waiting) :=
  heavier_sleep AdaptivePollingConfig.default default_valid corrective_default
    (show (0 : ℚ) ≤ 1 from zero_le_one) (List.replicate 34 idle) idle waiting waiting_heavier

/-- With the integral saturated the sleep is 125 while nothing waits, and 165 once eight do. -/
theorem waiting_sleeps_longer :
    ¬AdaptivePollingConfig.default.Invalid ∧ Corrective AdaptivePollingConfig.default ∧
      Heavier idle waiting ∧
      (do
        let g ← run (new AdaptivePollingConfig.default) (List.replicate 34 idle)
        let (lightSleep, _) ← invoke g idle
        let (heavySleep, _) ← invoke g waiting
        some (lightSleep, heavySleep)) = some (125, 165) :=
  ⟨default_valid, corrective_default, waiting_heavier, by decide +kernel⟩

end SensorGateway.Polling.GovernorBacklog

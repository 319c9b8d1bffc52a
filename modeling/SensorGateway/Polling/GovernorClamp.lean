import SensorGateway.Polling.GovernorBounds

/-! Two governors side by side: one is never overridden, the other may be clamped at any call. -/

namespace SensorGateway.Polling.GovernorClamp
open SensorGateway.Lib.Saturating Governor AdaptivePollingGovernor GovernorBounds

/-- The same call without its override. -/
def unclamped (call : Call) : Call := { call with overrideMode := .none }

/-- How a governor that is clamped now and then stands to one that never is. -/
structure Follows (free clamped : AdaptivePollingGovernor) : Prop where
  cfg : clamped.cfg = free.cfg
  smoothed : clamped.smoothedFillRatio = free.smoothedFillRatio
  integral : clamped.integralError = free.integralError
  pushWait : clamped.prevPushWaitNsTotal = free.prevPushWaitNsTotal
  popWait : clamped.prevPopWaitNsTotal = free.prevPopWaitNsTotal
  economy : clamped.mode = .economy → free.mode = .economy
  sleep : clamped.currentSleepUs.toNat ≤ free.currentSleepUs.toNat

theorem Follows.refl (g : AdaptivePollingGovernor) : Follows g g :=
  ⟨rfl, rfl, rfl, rfl, rfl, id, le_refl _⟩

/-- The relation as it stands when both have taken the same telemetry in. -/
structure Alike (free clamped : AdaptivePollingGovernor) : Prop where
  follows : Follows free clamped
  available : clamped.lastSensorAvailable = free.lastSensorAvailable
  pushDelta : clamped.lastPushWaitDeltaNs = free.lastPushWaitDeltaNs
  popDelta : clamped.lastPopWaitDeltaNs = free.lastPopWaitDeltaNs

theorem Follows.seen {free clamped : AdaptivePollingGovernor} (follows : Follows free clamped)
    (call : Call) : Alike (seen free (unclamped call)) (seen clamped call) where
  follows := {
    cfg := follows.cfg
    smoothed := by
      show (1 - clamped.cfg.ewmaAlpha) * clamped.smoothedFillRatio + clamped.cfg.ewmaAlpha * _ = _
      rw [follows.cfg, follows.smoothed]
      rfl
    integral := follows.integral
    pushWait := rfl
    popWait := rfl
    economy := follows.economy
    sleep := follows.sleep }
  available := rfl
  pushDelta := congrArg (call.stats.pushWaitNsTotal - ·) follows.pushWait
  popDelta := congrArg (call.stats.popWaitNsTotal - ·) follows.popWait

theorem Follows.halted {free clamped : AdaptivePollingGovernor} (follows : Follows free clamped)
    (call : Call) : Follows (halted free (unclamped call)) (halted clamped call) where
  cfg := by simp [GovernorBounds.halted, follows.cfg]
  smoothed := rfl
  integral := by simp [GovernorBounds.halted, follows.integral]
  pushWait := by simp [GovernorBounds.halted, follows.pushWait]
  popWait := by simp [GovernorBounds.halted, follows.popWait]
  economy := by simp [GovernorBounds.halted]
  sleep := le_refl _

section
variable {free clamped : AdaptivePollingGovernor} (alike : Alike free clamped)
  {overrideMode : GovernorOverride}
include alike

theorem Alike.emergency (gentle : overrideMode ≠ .forceFastRecovery) :
    clamped.Emergency overrideMode ↔ free.Emergency .none := by
  unfold Emergency
  rw [alike.follows.cfg, alike.follows.smoothed, alike.available, alike.pushDelta]
  simp [gentle]

theorem Alike.recovered : Follows (recovered free) (recovered clamped) where
  cfg := by simp [GovernorBounds.recovered, alike.follows.cfg]
  smoothed := by simp [GovernorBounds.recovered, alike.follows.smoothed]
  integral := rfl
  pushWait := by simp [GovernorBounds.recovered, alike.follows.pushWait]
  popWait := by simp [GovernorBounds.recovered, alike.follows.popWait]
  economy := by simp [GovernorBounds.recovered]
  sleep := by simp [GovernorBounds.recovered, alike.follows.cfg]

theorem Alike.integrated_eq : integrated clamped = integrated free := by
  unfold integrated fillError
  rw [alike.follows.cfg, alike.follows.integral, alike.follows.smoothed]

theorem Alike.proposedUs_eq : proposedUs clamped = proposedUs free := by
  unfold proposedUs controlDelta fillError
  rw [alike.integrated_eq, alike.follows.cfg, alike.follows.smoothed]

theorem Alike.pressed : Pressed clamped ↔ Pressed free := by
  unfold Pressed
  rw [alike.follows.cfg, alike.follows.smoothed, alike.available]

/-- A clamp keeps a governor out of `Economy` and never brings it there. -/
theorem Alike.relaxes (relaxes : Relaxes clamped overrideMode) : Relaxes free .none := by
  unfold Relaxes CanEnterEconomy ShouldStayEconomy at relaxes ⊢
  rw [alike.follows.cfg, alike.follows.smoothed, alike.available, alike.pushDelta,
    alike.popDelta] at relaxes
  rcases relaxes with ⟨-, enters⟩ | ⟨-, economy, stays⟩
  · exact Or.inl ⟨trivial, enters⟩
  · exact Or.inr ⟨trivial, alike.follows.economy economy, stays⟩

/-- Of all branches `Economy` makes the most of a proposal, the others the same for both. -/
theorem Alike.adjustedUs_le {proposed : Nat} (low : free.cfg.minSleepUs.toNat ≤ proposed)
    (high : proposed ≤ free.cfg.maxSleepUs.toNat) :
    adjustedUs clamped overrideMode proposed ≤ adjustedUs free .none proposed := by
  have pressing := alike.pressed
  unfold adjustedUs
  rw [alike.follows.cfg]
  by_cases relaxed : Relaxes clamped overrideMode
  · rw [if_pos relaxed, if_pos (alike.relaxes relaxed)]
  · rw [if_neg relaxed]
    by_cases relaxes : Relaxes free .none
    · rw [if_pos relaxes]
      split_ifs <;> omega
    · rw [if_neg relaxes]
      simp only [pressing, le_refl]

end

theorem limitedUs_le (cfg : AdaptivePollingConfig) (sleepUs : Nat)
    (overrideMode : GovernorOverride) : limitedUs cfg sleepUs overrideMode ≤ sleepUs := by
  cases overrideMode with
  | none => exact le_refl _
  | forceFastRecovery => exact le_refl _
  | clampMaxSleep maxSleepUs => exact min_le_left _ _

theorem Alike.regulated {free clamped : AdaptivePollingGovernor} (alike : Alike free clamped)
    (ordered : Ordered free.cfg) (overrideMode : GovernorOverride) :
    Follows (regulated free .none) (regulated clamped overrideMode) where
  cfg := by simp [GovernorBounds.regulated, alike.follows.cfg]
  smoothed := by simp [GovernorBounds.regulated, alike.follows.smoothed]
  integral := by simp [GovernorBounds.regulated, alike.integrated_eq]
  pushWait := by simp [GovernorBounds.regulated, alike.follows.pushWait]
  popWait := by simp [GovernorBounds.regulated, alike.follows.popWait]
  economy := by
    simp only [GovernorBounds.regulated, setMode_mode]
    intro economy
    by_cases relaxed : Relaxes clamped overrideMode
    · rw [if_pos (alike.relaxes relaxed)]
    · rw [if_neg relaxed] at economy
      exact GovernorMode.noConfusion economy
  sleep := by
    have same : Ordered clamped.cfg := by
      rw [alike.follows.cfg]
      exact ordered
    obtain ⟨low, high⟩ := proposedUs_mem ordered
    rw [regulated_sleep ordered, regulated_sleep same]
    calc
      regulatedUs clamped overrideMode ≤ adjustedUs clamped overrideMode (proposedUs clamped) :=
        limitedUs_le _ _ _
      _ ≤ adjustedUs free .none (proposedUs free) := by
        rw [alike.proposedUs_eq]
        exact alike.adjustedUs_le low high

/-- One step of the two. -/
theorem Follows.after {free clamped : AdaptivePollingGovernor} (follows : Follows free clamped)
    (ordered : Ordered free.cfg) {call : Call} (gentle : call.overrideMode ≠ .forceFastRecovery) :
    Follows (after free (unclamped call)) (after clamped call) := by
  by_cases empty : call.stats.capacity = 0
  · rw [after_halted (show (unclamped call).stats.capacity = 0 from empty), after_halted empty]
    exact follows.halted call
  · have room : (unclamped call).stats.capacity ≠ 0 := empty
    have alike := follows.seen call
    have agrees := alike.emergency gentle
    by_cases emergency : (GovernorBounds.seen clamped call).Emergency call.overrideMode
    · rw [after_recovered empty emergency, after_recovered room (agrees.mp emergency)]
      exact alike.recovered
    · rw [after_regulated empty emergency, after_regulated room (mt agrees.mpr emergency)]
      exact alike.regulated ordered call.overrideMode

theorem Follows.run {free clamped : AdaptivePollingGovernor} (follows : Follows free clamped)
    (ordered : Ordered free.cfg) {calls : List Call}
    (gentle : ∀ call ∈ calls, call.overrideMode ≠ .forceFastRecovery) :
    ∃ free' clamped', run free (calls.map unclamped) = some free' ∧
      run clamped calls = some clamped' ∧ Follows free' clamped' := by
  induction calls generalizing free clamped with
  | nil => exact ⟨free, clamped, rfl, rfl, follows⟩
  | cons call rest ih =>
    have same : Ordered clamped.cfg := by
      rw [follows.cfg]
      exact ordered
    have next := follows.after ordered (gentle call List.mem_cons_self)
    have kept : Ordered (GovernorBounds.after free (unclamped call)).cfg := by
      rw [after_cfg]
      exact ordered
    rw [List.map_cons, run_cons ordered, run_cons same]
    exact ih next kept fun later member => gentle later (List.mem_cons_of_mem _ member)

/-- After any calls the clamped governor sleeps no longer than the free one. -/
theorem clamped_sleep_le (given : AdaptivePollingConfig) (limit : 0 ≤ given.integralLimit)
    (calls : List Call) (gentle : ∀ call ∈ calls, call.overrideMode ≠ .forceFastRecovery) :
    ∃ free clamped, run (new given) (calls.map unclamped) = some free ∧
      run (new given) calls = some clamped ∧
      clamped.currentSleepUs ≤ free.currentSleepUs ∧
      clamped.smoothedFillRatio = free.smoothedFillRatio ∧
      clamped.integralError = free.integralError ∧
      (clamped.mode = .economy → free.mode = .economy) := by
  obtain ⟨free, clamped, frees, clamps, follows⟩ :=
    (Follows.refl (new given)).run (ordered_new limit) gentle
  exact ⟨free, clamped, frees, clamps, UInt64.le_iff_toNat_le.mpr follows.sleep, follows.smoothed,
    follows.integral, follows.economy⟩

/-- Two calls with a clamp and one between them without. -/
def idleCalls : List Call :=
  [idleCall, ⟨3, ⟨10000, 40, 0, 3000000⟩, .none⟩, ⟨0, ⟨10000, 0, 0, 5000000⟩, .clampMaxSleep 60⟩]

theorem clamped_sleep_le_idle :
    ∃ free clamped, run (new AdaptivePollingConfig.default) (idleCalls.map unclamped) = some free ∧
      run (new AdaptivePollingConfig.default) idleCalls = some clamped ∧
      clamped.currentSleepUs ≤ free.currentSleepUs := by
  have limit : (0 : ℚ) ≤ 1 := zero_le_one
  have gentle : ∀ call ∈ idleCalls, call.overrideMode ≠ .forceFastRecovery := by decide
  obtain ⟨free, clamped, frees, clamps, sleep, -⟩ :=
    clamped_sleep_le AdaptivePollingConfig.default limit idleCalls gentle
  exact ⟨free, clamped, frees, clamps, sleep⟩

end SensorGateway.Polling.GovernorClamp

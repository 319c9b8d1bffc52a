import SensorGateway.Polling.GovernorBounds

/-! The sleep of `Economy`. The mode is chosen by the smoothed fill alone, while the sleep carries an
integral that earlier pressure may have driven down. -/

namespace SensorGateway.Polling.GovernorEconomy
open SensorGateway.Lib.Saturating Governor AdaptivePollingGovernor GovernorBounds

/-- An update with a buffer as it may be, and no override. -/
structure Plain (call : Call) : Prop where
  sane : call.Sane
  free : call.overrideMode = .none

/-- Where the call chooses `Economy`, one step up makes good what the controller takes off. -/
def Permits (g : AdaptivePollingGovernor) (call : Call) : Prop :=
  ¬(seen g call).Emergency .none → Relaxes (seen g call) .none →
    g.cfg.nominalSleepUs.toNat ≤ g.cfg.minSleepUs.toNat + g.cfg.stepUpUs.toNat ∨
      -(g.cfg.stepUpUs.toNat : ℚ) ≤ controlDelta (seen g call)

theorem nominal_le_iff {g : AdaptivePollingGovernor} (ordered : Ordered g.cfg) :
    g.cfg.nominalSleepUs.toNat ≤ proposedUs g + g.cfg.stepUpUs.toNat ↔
      g.cfg.nominalSleepUs.toNat ≤ g.cfg.minSleepUs.toNat + g.cfg.stepUpUs.toNat ∨
        -(g.cfg.stepUpUs.toNat : ℚ) ≤ controlDelta g := by
  obtain ⟨low, high⟩ := proposedUs_mem ordered
  have top := ordered.nominal.2
  by_cases near : g.cfg.nominalSleepUs.toNat ≤ g.cfg.minSleepUs.toNat + g.cfg.stepUpUs.toNat
  · simp only [near, true_or, iff_true]
    omega
  · simp only [near, false_or]
    have floor : g.cfg.nominalSleepUs.toNat - g.cfg.stepUpUs.toNat ≤
        ⌊(g.cfg.nominalSleepUs.toNat : ℚ) + controlDelta g⌋₊ ↔
          -(g.cfg.stepUpUs.toNat : ℚ) ≤ controlDelta g := by
      rw [Nat.le_floor_iff' (by omega), Nat.cast_sub (by omega), sub_eq_add_neg]
      exact add_le_add_iff_left _
    rw [← floor, proposedUs]
    omega

/-- One step. -/
theorem after_economy_iff {g : AdaptivePollingGovernor} (ordered : Ordered g.cfg) {call : Call}
    (plain : Plain call) :
    ((after g call).mode = .economy →
      (after g call).cfg.nominalSleepUs ≤ (after g call).currentSleepUs) ↔ Permits g call := by
  have room := plain.sane.1.ne'
  have top := ordered.nominal.2
  rw [after_cfg, UInt64.le_iff_toNat_le]
  unfold Permits
  by_cases emergency : (seen g call).Emergency .none
  · have recovers : after g call = recovered (seen g call) :=
      after_recovered room (by rwa [plain.free])
    rw [recovers]
    simp [recovered, emergency]
  · have regulates : after g call = regulated (seen g call) .none := by
      rw [after_regulated room (by rwa [plain.free]), plain.free]
    have seenOrdered : Ordered (seen g call).cfg := ordered
    rw [regulates, regulated_sleep seenOrdered]
    by_cases relaxes : Relaxes (seen g call) .none
    · have sleep : regulatedUs (seen g call) .none =
          min (proposedUs (seen g call) + g.cfg.stepUpUs.toNat) g.cfg.maxSleepUs.toNat := by
        show adjustedUs (seen g call) .none _ = _
        rw [adjustedUs, if_pos relaxes]
        rfl
      have near := nominal_le_iff seenOrdered
      simp only [seen_cfg] at near
      simp only [regulated, setMode_mode, relaxes, emergency, not_false_eq_true, if_true,
        forall_const, sleep, ← near]
      omega
    · simp [regulated, relaxes]

theorem run_step {g g' : AdaptivePollingGovernor} (ordered : Ordered g'.cfg) {earlier : List Call}
    (runs : run g earlier = some g') (call : Call) :
    run g (earlier ++ [call]) = some (after g' call) := by
  rw [run_concat, runs, Option.bind_some, run_cons ordered]
  rfl

/-- In every run `Economy` relaxes after every update, just where every update permits it. -/
theorem economy_relaxes (given : AdaptivePollingConfig) (limit : 0 ≤ given.integralLimit)
    (calls : List Call) (plain : ∀ call ∈ calls, Plain call) :
    (∃ g, run (new given) calls = some g) ∧
      ((∀ earlier g, earlier <+: calls → run (new given) earlier = some g → g.mode = .economy →
          g.cfg.nominalSleepUs ≤ g.currentSleepUs) ↔
        ∀ earlier call g, earlier ++ [call] <+: calls → run (new given) earlier = some g →
          Permits g call) := by
  have ordered : Ordered (new given).cfg := ordered_new limit
  have reached {earlier : List Call} {g : AdaptivePollingGovernor}
      (runs : run (new given) earlier = some g) : Ordered g.cfg := by
    obtain ⟨g', runs', same⟩ := run_ordered ordered earlier
    obtain rfl : g' = g := Option.some.inj (runs'.symm.trans runs)
    rw [same]
    exact ordered
  have member {earlier : List Call} {call : Call} (part : earlier ++ [call] <+: calls) :
      Plain call :=
    plain call (part.subset (List.mem_append_right _ List.mem_cons_self))
  obtain ⟨last, runs, -⟩ := run_ordered ordered calls
  refine ⟨⟨last, runs⟩, ?_, ?_⟩
  · intro relaxes earlier call g part runs
    rw [← after_economy_iff (reached runs) (member part)]
    exact relaxes _ _ part (run_step (reached runs) runs call)
  · intro permits earlier g part runs
    rcases List.eq_nil_or_concat' earlier with rfl | ⟨earlier, call, rfl⟩
    · intro economy
      obtain rfl : new given = g := Option.some.inj runs
      exact GovernorMode.noConfusion economy
    · obtain ⟨before, runsBefore, same⟩ := run_ordered ordered earlier
      have next := run_step (reached runsBefore) runsBefore call
      obtain rfl : after before call = g := Option.some.inj (next.symm.trans runs)
      rw [after_economy_iff (reached runsBefore) (member part)]
      exact permits earlier call before part runsBefore

/-- An update that finds the buffer with so many readings of 10000. -/
def filled (len popWaitNsTotal : Nat) : Call := ⟨0, ⟨10000, len, 0, popWaitNsTotal⟩, .none⟩

/-- A full buffer, a fifth of it for six updates, and then none until the consumer waits. -/
def drained : List Call :=
  filled 10000 0 :: (List.replicate 6 (filled 2000 0) ++ List.replicate 13 (filled 0 0) ++
    [filled 0 1])

theorem filled_plain {len : Nat} (fits : len ≤ 10000) (popWaitNsTotal : Nat) :
    Plain (filled len popWaitNsTotal) where
  sane := ⟨Nat.succ_pos _, fits⟩
  free := rfl

theorem drained_plain : ∀ call ∈ drained, Plain call := by
  simp only [drained, List.mem_cons, List.mem_append, List.mem_replicate, List.not_mem_nil,
    or_false]
  rintro call (rfl | (⟨-, rfl⟩ | ⟨-, rfl⟩) | rfl)
  · exact filled_plain (le_refl _) 0
  · exact filled_plain (by decide) 0
  · exact filled_plain (by decide) 0
  · exact filled_plain (by decide) 1

theorem economy_relaxes_drained :
    (∃ g, run (new AdaptivePollingConfig.default) drained = some g) ∧
      ((∀ earlier g, earlier <+: drained →
          run (new AdaptivePollingConfig.default) earlier = some g → g.mode = .economy →
          g.cfg.nominalSleepUs ≤ g.currentSleepUs) ↔
        ∀ earlier call g, earlier ++ [call] <+: drained →
          run (new AdaptivePollingConfig.default) earlier = some g → Permits g call) :=
  economy_relaxes AdaptivePollingConfig.default (show (0 : ℚ) ≤ 1 from zero_le_one) drained
    drained_plain

/-- The default governor is in `Economy` then, and sleeps 93 where 100 is nominal. -/
theorem drained_hurries :
    ¬AdaptivePollingConfig.default.Invalid ∧ (∀ call ∈ drained, Plain call) ∧
      (run (new AdaptivePollingConfig.default) drained).map
        (fun g => (g.mode, g.currentSleepUs, g.cfg.nominalSleepUs)) =
          some (.economy, 93, 100) :=
  ⟨default_valid, drained_plain, by decide +kernel⟩

end SensorGateway.Polling.GovernorEconomy

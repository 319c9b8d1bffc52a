import SensorGateway.Polling.GovernorBounds

/-! Which configurations a governor can be run with. A build that checks for overflow panics where a
counter would wrap, so the counters are followed too. -/

namespace SensorGateway.Polling.GovernorSafety
open SensorGateway.Lib.Saturating Governor AdaptivePollingGovernor GovernorBounds

/-- No counter has come out below where it stood, as one that wraps does. -/
structure Grows (g g' : AdaptivePollingGovernor) : Prop where
  updates : g.updates ≤ g'.updates
  modeSwitches : g.modeSwitches ≤ g'.modeSwitches
  fastRecovery : g.fastRecoveryEntries ≤ g'.fastRecoveryEntries
  economy : g.economyEntries ≤ g'.economyEntries
  tracking : g.trackingEntries ≤ g'.trackingEntries
  failSafe : g.failSafeEntries ≤ g'.failSafeEntries

instance decidableGrows (g g' : AdaptivePollingGovernor) : Decidable (Grows g g') :=
  decidable_of_iff (g.updates ≤ g'.updates ∧ g.modeSwitches ≤ g'.modeSwitches ∧
      g.fastRecoveryEntries ≤ g'.fastRecoveryEntries ∧ g.economyEntries ≤ g'.economyEntries ∧
      g.trackingEntries ≤ g'.trackingEntries ∧ g.failSafeEntries ≤ g'.failSafeEntries)
    ⟨fun ⟨a, b, c, d, e, f⟩ => ⟨a, b, c, d, e, f⟩, fun ⟨a, b, c, d, e, f⟩ => ⟨a, b, c, d, e, f⟩⟩

/-- A call in a build with overflow checks. -/
def checkedInvoke (g : AdaptivePollingGovernor) (call : Call) :
    Option (UInt64 × AdaptivePollingGovernor) := do
  let (sleepUs, g') ← invoke g call
  if Grows g g' then some (sleepUs, g') else none

def checkedRun (g : AdaptivePollingGovernor) : List Call → Option AdaptivePollingGovernor
  | [] => some g
  | call :: rest => do
    let (_, g) ← checkedInvoke g call
    checkedRun g rest

/-- The counters after so many calls and at most so many changes of mode. `Tracking` is left before
it is entered again. -/
structure Counted (calls changes : Nat) (g : AdaptivePollingGovernor) : Prop where
  updates : g.updates.toNat = calls
  modeSwitches : g.modeSwitches.toNat ≤ changes
  fastRecovery : g.fastRecoveryEntries.toNat ≤ g.modeSwitches.toNat
  economy : g.economyEntries.toNat ≤ g.modeSwitches.toNat
  tracking : 2 * g.trackingEntries.toNat ≤
    g.modeSwitches.toNat + if g.mode = .tracking then 2 else 1
  failSafe : g.failSafeEntries.toNat ≤ g.modeSwitches.toNat

theorem counted_new (cfg : AdaptivePollingConfig) : Counted 0 0 (new cfg) where
  updates := rfl
  modeSwitches := le_refl 0
  fastRecovery := le_refl 0
  economy := le_refl 0
  tracking := le_refl 2
  failSafe := le_refl 0

theorem Grows.refl (g : AdaptivePollingGovernor) : Grows g g :=
  ⟨UInt64.le_refl _, UInt64.le_refl _, UInt64.le_refl _, UInt64.le_refl _, UInt64.le_refl _,
    UInt64.le_refl _⟩

theorem Grows.trans {a b c : AdaptivePollingGovernor} (first : Grows a b) (second : Grows b c) :
    Grows a c where
  updates := UInt64.le_trans first.updates second.updates
  modeSwitches := UInt64.le_trans first.modeSwitches second.modeSwitches
  fastRecovery := UInt64.le_trans first.fastRecovery second.fastRecovery
  economy := UInt64.le_trans first.economy second.economy
  tracking := UInt64.le_trans first.tracking second.tracking
  failSafe := UInt64.le_trans first.failSafe second.failSafe

theorem toNat_succ {a : UInt64} (room : a.toNat + 1 < 2 ^ 64) : (a + 1).toNat = a.toNat + 1 := by
  rw [UInt64.toNat_add, UInt64.toNat_one, Nat.mod_eq_of_lt room]

theorem le_succ {a : UInt64} (room : a.toNat + 1 < 2 ^ 64) : a ≤ a + 1 := by
  rw [UInt64.le_iff_toNat_le, toNat_succ room]
  exact Nat.le_succ _

theorem Counted.setMode {calls changes : Nat} {g : AdaptivePollingGovernor}
    (counted : Counted calls changes g) (room : changes + 1 < 2 ^ 64) (next : GovernorMode) :
    Counted calls (changes + 1) (g.setMode next) ∧ Grows g (g.setMode next) := by
  obtain ⟨updates, modeSwitches, fastRecovery, economy, tracking, failSafe⟩ := counted
  have entries : g.trackingEntries.toNat + 1 < 2 ^ 64 := by
    split_ifs at tracking <;> omega
  have switches : g.modeSwitches.toNat + 1 < 2 ^ 64 := by omega
  have more := toNat_succ switches
  unfold AdaptivePollingGovernor.setMode
  by_cases same : g.mode = next
  · rw [if_pos same]
    exact ⟨⟨updates, by omega, fastRecovery, economy, tracking, failSafe⟩, Grows.refl g⟩
  · rw [if_neg same]
    have left : 2 * g.trackingEntries.toNat ≤ g.modeSwitches.toNat + 1 + 1 := by
      split_ifs at tracking <;> omega
    cases next with
    | fastRecovery =>
      have entered := toNat_succ (a := g.fastRecoveryEntries) (by omega)
      refine ⟨⟨updates, ?_, ?_, ?_, ?_, ?_⟩,
        { Grows.refl g with modeSwitches := le_succ switches, fastRecovery := le_succ (by omega) }⟩
      all_goals
        simp only [more, entered, reduceCtorEq, if_false]
        omega
    | economy =>
      have entered := toNat_succ (a := g.economyEntries) (by omega)
      refine ⟨⟨updates, ?_, ?_, ?_, ?_, ?_⟩,
        { Grows.refl g with modeSwitches := le_succ switches, economy := le_succ (by omega) }⟩
      all_goals
        simp only [more, entered, reduceCtorEq, if_false]
        omega
    | failSafe =>
      have entered := toNat_succ (a := g.failSafeEntries) (by omega)
      refine ⟨⟨updates, ?_, ?_, ?_, ?_, ?_⟩,
        { Grows.refl g with modeSwitches := le_succ switches, failSafe := le_succ (by omega) }⟩
      all_goals
        simp only [more, entered, reduceCtorEq, if_false]
        omega
    | tracking =>
      have entered := toNat_succ entries
      rw [if_neg same] at tracking
      refine ⟨⟨updates, ?_, ?_, ?_, ?_, ?_⟩,
        { Grows.refl g with modeSwitches := le_succ switches, tracking := le_succ entries }⟩
      all_goals
        simp only [more, entered, if_true]
        omega

theorem Counted.tick {calls : Nat} {g : AdaptivePollingGovernor} (counted : Counted calls calls g)
    (room : calls + 1 < 2 ^ 64) : Counted (calls + 1) calls { g with updates := g.updates + 1 } ∧
      Grows g { g with updates := g.updates + 1 } := by
  have space : g.updates.toNat + 1 < 2 ^ 64 := by
    rw [counted.updates]
    exact room
  have ticked := toNat_succ space
  rw [counted.updates] at ticked
  exact ⟨{ counted with updates := ticked }, { Grows.refl g with updates := le_succ space }⟩

/-- One call counts one update and at most one change of mode. -/
theorem Counted.after {calls : Nat} {g : AdaptivePollingGovernor} (counted : Counted calls calls g)
    (room : calls + 1 < 2 ^ 64) (call : Call) :
    Counted (calls + 1) (calls + 1) (after g call) ∧ Grows g (after g call) := by
  obtain ⟨ticked, ticks⟩ := counted.tick room
  unfold GovernorBounds.after
  split_ifs
  · obtain ⟨moved, moves⟩ := ticked.setMode room .failSafe
    exact ⟨{ moved with }, ticks.trans { moves with }⟩
  · have taken : Counted (calls + 1) calls (seen g call) := { ticked with }
    have takes : Grows g (seen g call) := { ticks with }
    obtain ⟨moved, moves⟩ := taken.setMode room .fastRecovery
    exact ⟨{ moved with }, takes.trans { moves with }⟩
  · have taken : Counted (calls + 1) calls
        { seen g call with integralError := integrated (seen g call) } := { ticked with }
    have takes : Grows g { seen g call with integralError := integrated (seen g call) } :=
      { ticks with }
    obtain ⟨moved, moves⟩ := taken.setMode room
      (if Relaxes (seen g call) call.overrideMode then .economy else .tracking)
    exact ⟨{ moved with }, takes.trans { moves with }⟩

/-- Either the controller can be run, or an emergency keeps every call away from it. -/
inductive Sheltered (g : AdaptivePollingGovernor) : Prop where
  | ordered (ordered : Ordered g.cfg)
  | sensors (threshold : g.cfg.hardSensorThreshold = 0)
  | fill (threshold : g.cfg.highFillRatio = 0) (alpha : IsRatio g.cfg.ewmaAlpha)
      (smoothed : 0 ≤ g.smoothedFillRatio)

theorem seen_smoothed_nonneg {g : AdaptivePollingGovernor} (alpha : IsRatio g.cfg.ewmaAlpha)
    (smoothed : 0 ≤ g.smoothedFillRatio) (call : Call) :
    0 ≤ (seen g call).smoothedFillRatio := by
  have fill : (0 : ℚ) ≤ call.stats.len / call.stats.capacity :=
    div_nonneg (Nat.cast_nonneg _) (Nat.cast_nonneg _)
  have rest : 0 ≤ 1 - g.cfg.ewmaAlpha := sub_nonneg.mpr alpha.2
  exact add_nonneg (mul_nonneg rest smoothed) (mul_nonneg alpha.1 fill)

theorem Sheltered.invoke_eq {g : AdaptivePollingGovernor} (sheltered : Sheltered g) (call : Call) :
    invoke g call = some ((after g call).currentSleepUs, after g call) := by
  apply invoke_eq_of_controlled
  intro _ steady
  cases sheltered with
  | ordered ordered => exact ordered
  | sensors threshold =>
    refine absurd (Or.inr (Or.inl ?_)) steady
    rw [seen_cfg, threshold]
    exact Nat.zero_le _
  | fill threshold alpha smoothed =>
    refine absurd (Or.inr (Or.inr (Or.inl ?_))) steady
    rw [seen_cfg, threshold]
    exact seen_smoothed_nonneg alpha smoothed call

theorem Sheltered.after {g : AdaptivePollingGovernor} (sheltered : Sheltered g) (call : Call) :
    Sheltered (after g call) := by
  have same := after_cfg g call
  cases sheltered with
  | ordered ordered => exact .ordered (by rwa [same])
  | sensors threshold => exact .sensors (by rwa [same])
  | fill threshold alpha smoothed =>
    refine .fill (by rwa [same]) (by rwa [same]) ?_
    have seen := seen_smoothed_nonneg alpha smoothed call
    unfold GovernorBounds.after
    split_ifs
    · exact le_refl 0
    · simpa [recovered] using seen
    · simpa [regulated] using seen

theorem checkedRun_isSome {calls : List Call} {g : AdaptivePollingGovernor} {count : Nat}
    (sheltered : Sheltered g) (counted : Counted count count g)
    (room : count + calls.length < 2 ^ 64) : (checkedRun g calls).isSome := by
  induction calls generalizing g count with
  | nil => rfl
  | cons call rest ih =>
    rw [List.length_cons] at room
    obtain ⟨next, grows⟩ := counted.after (by omega) call
    have step : checkedInvoke g call = some ((after g call).currentSleepUs, after g call) := by
      rw [checkedInvoke, sheltered.invoke_eq call, Option.bind_eq_bind, Option.bind_some]
      exact if_pos grows
    rw [checkedRun, step, Option.bind_eq_bind, Option.bind_some]
    exact ih (sheltered.after call) next (by omega)

/-- A call with nothing waiting anywhere. -/
def quiet : Call := ⟨0, ⟨1, 0, 0, 0⟩, .none⟩

/-- A negative limit crosses the bounds of the first clamp. -/
theorem invoke_quiet {given : AdaptivePollingConfig} (valid : ¬given.Invalid)
    (negative : given.integralLimit < 0) (sensors : given.hardSensorThreshold ≠ 0)
    (fill : given.highFillRatio ≠ 0) : invoke (new given) quiet = none := by
  have high : 0 < given.highFillRatio := by
    simp only [AdaptivePollingConfig.Invalid, not_or, not_not] at valid
    exact lt_of_le_of_ne valid.2.2.2.2.2.1.1 fill.symm
  have smoothed : (seen (new given) quiet).smoothedFillRatio = 0 := by
    show (1 - _) * (0 : ℚ) + _ * ((0 : Nat) / _) = 0
    simp
  have steady : ¬(seen (new given) quiet).Emergency .none := by
    unfold Emergency
    rw [smoothed, seen_cfg, new_cfg valid]
    rintro (forced | waiting | filled | waited)
    · exact GovernorOverride.noConfusion forced
    · exact sensors (Nat.le_zero.mp waiting)
    · exact absurd filled (not_le.mpr high)
    · exact absurd waited (lt_irrefl 0)
  unfold invoke updateWithOverride
  rw [if_neg (show quiet.stats.capacity ≠ 0 from Nat.one_ne_zero)]
  refine (if_neg steady).trans ?_
  show ((seen (new given) quiet).regulate .none).bind _ = none
  have crossed : (seen (new given) quiet).cfg.integralLimit <
      -(seen (new given) quiet).cfg.integralLimit := by
    rw [seen_cfg, new_cfg valid]
    linarith
  rw [regulate, clamp_eq_none crossed]
  rfl

/-- Which configurations `new` makes a governor of that never panics, for fewer than 2^64 calls. -/
theorem checkedRun_isSome_iff (given : AdaptivePollingConfig) :
    (∀ calls : List Call, calls.length < 2 ^ 64 → (checkedRun (new given) calls).isSome) ↔
      given.Invalid ∨ 0 ≤ given.integralLimit ∨ given.hardSensorThreshold = 0 ∨
        given.highFillRatio = 0 := by
  constructor
  · intro returns
    by_contra refused
    simp only [not_or, not_le] at refused
    obtain ⟨valid, negative, sensors, fill⟩ := refused
    have first := returns [quiet] (by decide)
    rw [checkedRun, checkedInvoke, invoke_quiet valid negative sensors fill] at first
    exact Bool.noConfusion first
  · intro accepted calls short
    have sheltered : Sheltered (new given) := by
      by_cases invalid : given.Invalid
      · refine .ordered ?_
        rw [new_cfg_of_invalid invalid]
        exact ordered_default
      · rcases accepted with refused | limit | sensors | fill
        · exact absurd refused invalid
        · exact .ordered (ordered_new limit)
        · exact .sensors (by rwa [new_cfg invalid])
        · refine .fill (by rwa [new_cfg invalid]) ?_ (le_refl 0)
          rw [new_cfg invalid]
          simp only [AdaptivePollingConfig.Invalid, not_or, not_not] at invalid
          exact invalid.2.2.2.2.2.2.1
    exact checkedRun_isSome sheltered (counted_new given) (by rwa [Nat.zero_add])

/-- The default configuration but for its limit. `new` accepts it, and its first call panics. -/
theorem negative_limit_panics :
    ¬{ AdaptivePollingConfig.default with integralLimit := -1 }.Invalid ∧
      invoke (new { AdaptivePollingConfig.default with integralLimit := -1 }) quiet = none :=
  ⟨by decide +kernel, by decide +kernel⟩

end SensorGateway.Polling.GovernorSafety

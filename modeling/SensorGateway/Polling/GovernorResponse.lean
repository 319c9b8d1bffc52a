import SensorGateway.Lib.Smoothing
import SensorGateway.Polling.GovernorBounds

/-! How soon the governor answers. A buffer that stays above its high mark brings `FastRecovery`,
and a buffer that stays below its low mark brings `Economy` and a sleep above the nominal one,
after a number of calls that depends on the configuration alone. -/

namespace SensorGateway.Polling.GovernorResponse
open SensorGateway.Lib.Smoothing
open SensorGateway.Lib.Saturating Governor AdaptivePollingGovernor GovernorBounds

/-- The part of the buffer that a call finds in use. -/
def fill (call : Call) : ℚ := call.stats.len / call.stats.capacity

theorem seen_smoothedFillRatio (g : AdaptivePollingGovernor) (call : Call) :
    (seen g call).smoothedFillRatio = mix g.cfg.ewmaAlpha g.smoothedFillRatio (fill call) := rfl

theorem after_smoothedFillRatio (g : AdaptivePollingGovernor) {call : Call}
    (room : call.stats.capacity ≠ 0) : (after g call).smoothedFillRatio =
      mix g.cfg.ewmaAlpha g.smoothedFillRatio (fill call) := by
  rw [after, if_neg room]
  split_ifs
  · rw [recovered]
    exact setMode_smoothedFillRatio _ _
  · rw [regulated]
    exact setMode_smoothedFillRatio _ _

/-- Over a run the smoothed fill is the exponential smoothing of the fills found. -/
theorem foldl_smoothedFillRatio (g : AdaptivePollingGovernor) {calls : List Call}
    (sane : ∀ call ∈ calls, call.Sane) : (calls.foldl after g).smoothedFillRatio =
      smooth g.cfg.ewmaAlpha g.smoothedFillRatio (calls.map fill) := by
  induction calls generalizing g with
  | nil => rfl
  | cons call rest ih =>
    have first := sane call List.mem_cons_self
    rw [List.foldl_cons, ih _ fun other member => sane other (List.mem_cons_of_mem _ member),
      after_cfg, after_smoothedFillRatio g first.1.ne']
    rfl

theorem exists_prevWaits (g : AdaptivePollingGovernor) {calls : List Call} (some : calls ≠ [])
    (sane : ∀ call ∈ calls, call.Sane) : ∃ call ∈ calls,
      (calls.foldl after g).prevPushWaitNsTotal = call.stats.pushWaitNsTotal ∧
      (calls.foldl after g).prevPopWaitNsTotal = call.stats.popWaitNsTotal := by
  rcases List.eq_nil_or_concat' calls with rfl | ⟨earlier, call, rfl⟩
  · exact absurd rfl some
  · have last : call ∈ earlier ++ [call] := List.mem_append_right _ List.mem_cons_self
    refine ⟨call, last, ?_⟩
    rw [List.foldl_concat]
    exact after_prevWaits _ (sane call last).1.ne'

theorem foldl_bounded {g : AdaptivePollingGovernor} (bounded : Bounded g) {calls : List Call}
    (sane : ∀ call ∈ calls, call.Sane) : Bounded (calls.foldl after g) := by
  obtain ⟨last, runs, held⟩ := run_bounded bounded sane
  rw [run_eq bounded.ordered] at runs
  obtain rfl := Option.some.inj runs
  exact held

/-! ## A buffer that stays full -/

/-- The buffer is as full as the level, or fuller. -/
structure Loaded (level : ℚ) (call : Call) : Prop where
  sane : call.Sane
  fill : level ≤ fill call

theorem level_le_smoothed {g : AdaptivePollingGovernor} (bounded : Bounded g) {level : ℚ}
    {calls : List Call} (loaded : ∀ call ∈ calls, Loaded level call) :
    level - (1 - g.cfg.ewmaAlpha) ^ calls.length * level ≤
      (calls.foldl after g).smoothedFillRatio := by
  obtain ⟨nonneg, atMost⟩ := bounded.ordered.alpha
  have above : ∀ sample ∈ calls.map GovernorResponse.fill, level ≤ sample := by
    intro sample member
    obtain ⟨call, inside, rfl⟩ := List.mem_map.mp member
    exact (loaded call inside).fill
  have pulled := le_smooth g.smoothedFillRatio nonneg atMost above
  have kept : 0 ≤ (1 - g.cfg.ewmaAlpha) ^ calls.length := pow_nonneg (by linarith) _
  have start := mul_nonneg kept bounded.smoothed.1
  rw [List.length_map] at pulled
  rw [foldl_smoothedFillRatio g fun call member => (loaded call member).sane]
  linarith

theorem after_emergency {g : AdaptivePollingGovernor} {call : Call}
    (room : call.stats.capacity ≠ 0) (emergency : (seen g call).Emergency call.overrideMode) :
    (after g call).mode = .fastRecovery ∧ (after g call).currentSleepUs = g.cfg.minSleepUs ∧
      (after g call).integralError = 0 := by
  rw [after_recovered room emergency]
  exact ⟨setMode_mode _ _, rfl, rfl⟩

/-- The three fill marks of a configuration that `new` lets through. -/
theorem marks_ordered (given : AdaptivePollingConfig) :
    0 ≤ (new given).cfg.lowFillRatio ∧
      (new given).cfg.lowFillRatio ≤ (new given).cfg.targetFillRatio ∧
      (new given).cfg.targetFillRatio ≤ (new given).cfg.highFillRatio := by
  have valid := new_valid given
  simp only [AdaptivePollingConfig.Invalid, not_or, not_not, not_lt] at valid
  obtain ⟨-, -, -, low, -, -, -, target, high, -⟩ := valid
  exact ⟨low.1, target, high⟩

/-- Whatever came before, so many calls that all find the buffer above its high mark leave the
governor in `FastRecovery`. -/
theorem sustained_load (given : AdaptivePollingConfig) (limit : 0 ≤ given.integralLimit)
    (weighs : 0 < (new given).cfg.ewmaAlpha) (level : ℚ)
    (high : (new given).cfg.highFillRatio < level) :
    ∃ enough, ∀ earlier calls, (∀ each ∈ earlier, each.Sane) →
      (∀ call ∈ calls, Loaded level call) → enough ≤ calls.length →
      ∃ before g, run (new given) earlier = some before ∧ run before calls = some g ∧
        g.mode = .fastRecovery ∧ g.currentSleepUs = g.cfg.minSleepUs ∧ g.integralError = 0 := by
  have ordered : Ordered (new given).cfg := ordered_new limit
  obtain ⟨least, below, above⟩ := marks_ordered given
  have positive : 0 < level := by linarith
  obtain ⟨enough, forgotten⟩ := exists_forgotten weighs ordered.alpha.2
    (div_pos (sub_pos.mpr high) positive)
  refine ⟨enough + 1, ?_⟩
  intro earlier calls sane loaded many
  have bounded := foldl_bounded (bounded_new limit) sane
  refine ⟨_, _, run_eq ordered earlier, run_eq bounded.ordered calls, ?_⟩
  have pulled := level_le_smoothed bounded loaded
  have small := forgotten calls.length (by omega)
  rw [le_div_iff₀ positive] at small
  rw [foldl_after_cfg] at pulled
  rcases List.eq_nil_or_concat' calls with rfl | ⟨others, call, rfl⟩
  · simp at many
  · have last := loaded call (List.mem_append_right _ List.mem_cons_self)
    rw [List.foldl_concat] at pulled ⊢
    rw [after_smoothedFillRatio _ last.sane.1.ne', ← seen_smoothedFillRatio] at pulled
    rw [after_cfg]
    apply after_emergency last.sane.1.ne'
    refine Or.inr (Or.inr (Or.inl ?_))
    rw [seen_cfg, foldl_after_cfg, foldl_after_cfg]
    linarith

/-- Three tenths of the buffer are in use. -/
def crowded : Call := ⟨0, ⟨1000, 300, 0, 0⟩, .none⟩

theorem crowded_loaded : Loaded (3 / 10) crowded where
  sane := ⟨by decide, by decide⟩
  fill := by norm_num [fill, crowded]

theorem sustained_load_default :
    ∃ enough before g, run (new AdaptivePollingConfig.default) [] = some before ∧
      run before (List.replicate enough crowded) = some g ∧ g.mode = .fastRecovery ∧
      g.currentSleepUs = g.cfg.minSleepUs ∧ g.integralError = 0 := by
  have same : (new AdaptivePollingConfig.default).cfg = AdaptivePollingConfig.default :=
    new_cfg default_valid
  obtain ⟨enough, brings⟩ := sustained_load AdaptivePollingConfig.default zero_le_one
    (by rw [same]; norm_num [AdaptivePollingConfig.default]) (3 / 10)
    (by rw [same]; norm_num [AdaptivePollingConfig.default])
  refine ⟨enough, brings [] (List.replicate enough crowded) (fun _ member => by cases member) ?_ ?_⟩
  · intro call member
    rw [List.eq_of_mem_replicate member]
    exact crowded_loaded
  · rw [List.length_replicate]

/-! ## A buffer that stays empty -/

/-- Hardly anything waits, no push has had to wait since, and nothing is asked of the governor. -/
structure Slack (cfg : AdaptivePollingConfig) (level : ℚ) (pushWaitNsTotal : Nat)
    (call : Call) : Prop where
  sane : call.Sane
  fill : fill call ≤ level
  few : call.sensorAvailable ≤ cfg.softSensorThreshold / 2
  notHard : call.sensorAvailable < cfg.hardSensorThreshold
  pushWait : call.stats.pushWaitNsTotal = pushWaitNsTotal
  free : call.overrideMode = .none

/-- Between two calls the consumer has waited. -/
def PopsWait (first second : Call) : Prop :=
  first.stats.popWaitNsTotal < second.stats.popWaitNsTotal

theorem smoothed_le_level {g : AdaptivePollingGovernor} (bounded : Bounded g) {level : ℚ}
    (nonneg : 0 ≤ level) {calls : List Call} (sane : ∀ call ∈ calls, call.Sane)
    (below : ∀ call ∈ calls, fill call ≤ level) :
    (calls.foldl after g).smoothedFillRatio ≤ level + (1 - g.cfg.ewmaAlpha) ^ calls.length := by
  obtain ⟨weight, atMost⟩ := bounded.ordered.alpha
  have under : ∀ sample ∈ calls.map fill, sample ≤ level := by
    intro sample member
    obtain ⟨call, inside, rfl⟩ := List.mem_map.mp member
    exact below call inside
  have pulled := smooth_le g.smoothedFillRatio weight atMost under
  have kept : 0 ≤ (1 - g.cfg.ewmaAlpha) ^ calls.length := pow_nonneg (by linarith) _
  have start : (1 - g.cfg.ewmaAlpha) ^ calls.length * (g.smoothedFillRatio - level) ≤
      (1 - g.cfg.ewmaAlpha) ^ calls.length * 1 :=
    mul_le_mul_of_nonneg_left (by linarith [bounded.smoothed.2]) kept
  rw [List.length_map] at pulled
  rw [foldl_smoothedFillRatio g sane]
  linarith

/-- The integral moves by the error, until it meets its limit. -/
theorem le_integrated {g : AdaptivePollingGovernor} {gain least : ℚ}
    (error : gain ≤ fillError g) (integral : min g.cfg.integralLimit least ≤ g.integralError)
    (nonneg : 0 ≤ gain) : min g.cfg.integralLimit (least + gain) ≤ integrated g := by
  have grown : min g.cfg.integralLimit (least + gain) ≤ g.integralError + fillError g := by
    rcases le_total g.cfg.integralLimit least with atLimit | under
    · rw [min_eq_left atLimit] at integral
      exact (min_le_left _ _).trans (by linarith)
    · rw [min_eq_right under] at integral
      exact (min_le_right _ _).trans (by linarith)
  unfold integrated
  exact (le_min (min_le_left _ _) grown).trans (le_max_right _ _)

/-- A call that finds slack, made when the smoothed fill is low. -/
theorem seen_slack {g : AdaptivePollingGovernor} {level : ℚ} {call : Call}
    (slack : Slack g.cfg level g.prevPushWaitNsTotal call)
    (waited : g.prevPopWaitNsTotal < call.stats.popWaitNsTotal)
    (low : (seen g call).smoothedFillRatio ≤ g.cfg.lowFillRatio)
    (high : (seen g call).smoothedFillRatio < g.cfg.highFillRatio) :
    ¬(seen g call).Emergency call.overrideMode ∧ Relaxes (seen g call) .none := by
  have pushDelta : (seen g call).lastPushWaitDeltaNs = 0 := by
    show call.stats.pushWaitNsTotal - g.prevPushWaitNsTotal = 0
    rw [slack.pushWait, Nat.sub_self]
  have popDelta : 0 < (seen g call).lastPopWaitDeltaNs := Nat.sub_pos_of_lt waited
  constructor
  · rw [slack.free]
    unfold Emergency
    have sensors := slack.notHard
    rintro (forced | hard | full | pushed)
    · exact GovernorOverride.noConfusion forced
    · exact absurd (show g.cfg.hardSensorThreshold ≤ call.sensorAvailable from hard) (by omega)
    · exact absurd high (not_lt.mpr full)
    · omega
  · refine Or.inl ⟨trivial, low, slack.few, ?_⟩
    omega

/-- What such a call leaves. -/
theorem regulated_relaxed {g : AdaptivePollingGovernor} {overrideMode : GovernorOverride}
    (relaxes : Relaxes g overrideMode) : (regulated g overrideMode).mode = .economy ∧
      (regulated g overrideMode).integralError = integrated g := by
  rw [regulated, if_pos relaxes]
  constructor
  · exact setMode_mode _ _
  · exact setMode_integralError _ _

section
variable {g : AdaptivePollingGovernor} (bounded : Bounded g) {level gain : ℚ} (nonneg : 0 ≤ level)
  (positive : 0 < gain) (apart : level + gain + gain ≤ g.cfg.lowFillRatio)
  (marks : g.cfg.lowFillRatio ≤ g.cfg.targetFillRatio ∧
    g.cfg.targetFillRatio ≤ g.cfg.highFillRatio)
  {enough : Nat} (forgotten : ∀ n, enough ≤ n → (1 - g.cfg.ewmaAlpha) ^ n ≤ gain)
  {pushWaitNsTotal : Nat}
include bounded nonneg positive apart marks forgotten

/-- The last of enough calls finds the state its predecessors have brought about. -/
theorem foldl_slack {others : List Call} {call : Call} (some : others ≠ [])
    (slack : ∀ each ∈ others ++ [call], Slack g.cfg level pushWaitNsTotal each)
    (waits : (others ++ [call]).Pairwise PopsWait) (many : enough ≤ others.length) :
    let before := others.foldl after g
    after before call = regulated (seen before call) .none ∧
      Relaxes (seen before call) .none ∧ gain ≤ fillError (seen before call) := by
  intro before
  have sane (each : Call) (member : each ∈ others ++ [call]) : each.Sane := (slack each member).sane
  have member : call ∈ others ++ [call] := List.mem_append_right _ List.mem_cons_self
  obtain ⟨previous, inside, pushes, pops⟩ := exists_prevWaits g some
    (fun each earlier => sane each (List.mem_append_left _ earlier))
  have same : before.cfg = g.cfg := foldl_after_cfg g others
  have waited : before.prevPopWaitNsTotal < call.stats.popWaitNsTotal := by
    rw [pops]
    exact (List.pairwise_append.mp waits).2.2 previous inside call List.mem_cons_self
  have last : Slack before.cfg level before.prevPushWaitNsTotal call := by
    rw [same, pushes, (slack previous (List.mem_append_left _ inside)).pushWait]
    exact slack call member
  have fallen := smoothed_le_level bounded nonneg sane fun each each' => (slack each each').fill
  have small := forgotten (others ++ [call]).length (by rw [List.length_append]; omega)
  rw [List.foldl_concat, after_smoothedFillRatio before (sane call member).1.ne',
    ← seen_smoothedFillRatio] at fallen
  have low : (seen before call).smoothedFillRatio ≤ level + gain := by linarith
  have lowMark : (seen before call).smoothedFillRatio ≤ before.cfg.lowFillRatio := by
    rw [same]
    linarith
  have highMark : (seen before call).smoothedFillRatio < before.cfg.highFillRatio := by
    rw [same]
    linarith [marks.1, marks.2]
  obtain ⟨steady, relaxes⟩ := seen_slack last waited lowMark highMark
  have regulates : after before call = regulated (seen before call) .none := by
    rw [after_regulated last.sane.1.ne' steady, last.free]
  refine ⟨regulates, relaxes, ?_⟩
  unfold fillError
  rw [seen_cfg, same]
  linarith [marks.1]

/-- Once the smoothed fill is low the integral rises with every call. -/
theorem le_integralError (rises : Nat) {calls : List Call}
    (slack : ∀ each ∈ calls, Slack g.cfg level pushWaitNsTotal each)
    (waits : calls.Pairwise PopsWait) (many : calls.length = enough + 1 + rises) :
    min g.cfg.integralLimit (-g.cfg.integralLimit + rises * gain) ≤
      (calls.foldl after g).integralError := by
  induction rises generalizing calls with
  | zero =>
    have held := foldl_bounded bounded fun each member => (slack each member).sane
    have least := (abs_le.mp held.integral).1
    rw [foldl_after_cfg] at least
    rw [Nat.cast_zero, zero_mul, add_zero]
    exact (min_le_right _ _).trans least
  | succ rises ih =>
    rcases List.eq_nil_or_concat' calls with rfl | ⟨others, call, rfl⟩
    · simp at many
    · rw [List.length_append, List.length_singleton] at many
      have some : others ≠ [] := List.ne_nil_of_length_pos (by omega)
      have before := ih (fun each member => slack each (List.mem_append_left _ member))
        (List.pairwise_append.mp waits).1 (by omega)
      obtain ⟨regulates, relaxes, error⟩ := foldl_slack bounded nonneg positive apart marks
        forgotten some slack waits (by omega)
      rw [List.foldl_concat, regulates, (regulated_relaxed relaxes).2]
      have risen := le_integrated (g := seen (others.foldl after g) call) error
        (by rw [seen_cfg, foldl_after_cfg]; exact before) positive.le
      rw [seen_cfg, foldl_after_cfg] at risen
      calc
        _ = min g.cfg.integralLimit (-g.cfg.integralLimit + rises * gain + gain) := by
          rw [Nat.cast_succ]
          ring_nf
        _ ≤ _ := risen

end

/-- With nothing to take off, the proposal is no shorter than the nominal sleep. -/
theorem nominal_le_proposedUs {g : AdaptivePollingGovernor} (ordered : Ordered g.cfg)
    (delta : 0 ≤ controlDelta g) : g.cfg.nominalSleepUs.toNat ≤ proposedUs g := by
  have top := ordered.nominal.2
  have floor : g.cfg.nominalSleepUs.toNat ≤ ⌊(g.cfg.nominalSleepUs.toNat : ℚ) + controlDelta g⌋₊ :=
    Nat.le_floor (by linarith)
  unfold proposedUs
  omega

theorem relaxed_sleep {g : AdaptivePollingGovernor} (ordered : Ordered g.cfg)
    (relaxes : Relaxes g .none) (proportional : 0 ≤ g.cfg.kpUsPerFill)
    (integral : 0 ≤ g.cfg.kiUsPerFill) (error : 0 ≤ fillError g) (risen : 0 ≤ integrated g) :
    min (g.cfg.nominalSleepUs.toNat + g.cfg.stepUpUs.toNat) g.cfg.maxSleepUs.toNat ≤
      (regulated g .none).currentSleepUs.toNat := by
  have delta : 0 ≤ controlDelta g :=
    add_nonneg (mul_nonneg proportional error) (mul_nonneg integral risen)
  have above := nominal_le_proposedUs ordered delta
  have sleep : regulatedUs g .none =
      min (proposedUs g + g.cfg.stepUpUs.toNat) g.cfg.maxSleepUs.toNat := by
    show adjustedUs g .none (proposedUs g) = _
    rw [adjustedUs, if_pos relaxes]
  rw [regulated_sleep ordered, sleep]
  omega

/-- Whatever came before, so many calls that find slack leave the governor in `Economy`, with a
sleep one step above the nominal one or as long as it may be. -/
theorem sustained_slack (given : AdaptivePollingConfig) (limit : 0 ≤ given.integralLimit)
    (proportional : 0 ≤ (new given).cfg.kpUsPerFill) (integral : 0 ≤ (new given).cfg.kiUsPerFill)
    (weighs : 0 < (new given).cfg.ewmaAlpha) (level : ℚ) (nonneg : 0 ≤ level)
    (low : level < (new given).cfg.lowFillRatio) :
    ∃ enough, ∀ earlier calls pushWaitNsTotal, (∀ each ∈ earlier, each.Sane) →
      (∀ call ∈ calls, Slack (new given).cfg level pushWaitNsTotal call) →
      calls.Pairwise PopsWait → enough ≤ calls.length →
      ∃ before g, run (new given) earlier = some before ∧ run before calls = some g ∧
        g.mode = .economy ∧
        min (g.cfg.nominalSleepUs.toNat + g.cfg.stepUpUs.toNat) g.cfg.maxSleepUs.toNat ≤
          g.currentSleepUs.toNat := by
  have ordered : Ordered (new given).cfg := ordered_new limit
  obtain ⟨-, marks⟩ := marks_ordered given
  have positive : 0 < ((new given).cfg.lowFillRatio - level) / 2 := by linarith
  obtain ⟨enough, forgotten⟩ := exists_forgotten weighs ordered.alpha.2 positive
  obtain ⟨rises, filled⟩ := exists_nat_ge
    ((new given).cfg.integralLimit / (((new given).cfg.lowFillRatio - level) / 2))
  refine ⟨enough + 1 + (rises + 1), ?_⟩
  intro earlier calls pushWaitNsTotal sane slack waits many
  have bounded := foldl_bounded (bounded_new limit) sane
  refine ⟨_, _, run_eq ordered earlier, run_eq bounded.ordered calls, ?_⟩
  have same := foldl_after_cfg (new given) earlier
  generalize earlier.foldl after (new given) = g at bounded same
  rw [← same] at proportional integral marks positive forgotten filled slack low
  rw [div_le_iff₀ positive] at filled
  have apart : level + (g.cfg.lowFillRatio - level) / 2 + (g.cfg.lowFillRatio - level) / 2 ≤
      g.cfg.lowFillRatio := by
    linarith
  generalize (g.cfg.lowFillRatio - level) / 2 = gain at positive forgotten filled apart
  obtain ⟨more, long⟩ := Nat.exists_eq_add_of_le (show enough + 1 + rises + 1 ≤ calls.length by omega)
  have risen := le_integralError bounded nonneg positive apart marks forgotten (rises + 1 + more)
    slack waits (by omega)
  rcases List.eq_nil_or_concat' calls with rfl | ⟨others, call, rfl⟩
  · simp at many
  · rw [List.length_append, List.length_singleton] at many
    have some : others ≠ [] := List.ne_nil_of_length_pos (by omega)
    obtain ⟨regulates, relaxes, error⟩ := foldl_slack bounded nonneg positive apart marks
      forgotten some slack waits (by omega)
    obtain ⟨mode, integrates⟩ := regulated_relaxed relaxes
    rw [List.foldl_concat, regulates] at risen ⊢
    rw [integrates] at risen
    have same' : (seen (others.foldl after g) call).cfg = g.cfg := by
      rw [seen_cfg, foldl_after_cfg]
    have reached : 0 ≤ integrated (seen (others.foldl after g) call) := by
      have whole : (rises : ℚ) * gain ≤ (rises + 1 + more : Nat) * gain := by
        apply mul_le_mul_of_nonneg_right _ positive.le
        exact_mod_cast (by omega : rises ≤ rises + 1 + more)
      exact (le_min bounded.ordered.limit (by linarith)).trans risen
    refine ⟨mode, ?_⟩
    generalize seen (others.foldl after g) call = s at relaxes error reached same'
    rw [← same'] at proportional integral
    have settled : Ordered s.cfg := by
      rw [same']
      exact bounded.ordered
    have slept := relaxed_sleep settled relaxes proportional integral (by linarith) reached
    have kept : (regulated s .none).cfg = s.cfg := setMode_cfg _ _
    rw [kept]
    exact slept

/-- One reading is left in the buffer, and the consumer has waited some milliseconds. -/
def resting (waitedMs : Nat) : Call := ⟨0, ⟨1000, 1, 0, waitedMs * 1000000⟩, .none⟩

theorem resting_slack (waitedMs : Nat) :
    Slack AdaptivePollingConfig.default (1 / 1000) 0 (resting waitedMs) where
  sane := ⟨show 0 < 1000 by decide, show 1 ≤ 1000 by decide⟩
  fill := by norm_num [GovernorResponse.fill, resting]
  few := Nat.zero_le _
  notHard := show 0 < 24 by decide
  pushWait := rfl
  free := rfl

theorem sustained_slack_default :
    ∃ enough before g, run (new AdaptivePollingConfig.default) [] = some before ∧
      run before ((List.range enough).map resting) = some g ∧ g.mode = .economy ∧
      min (g.cfg.nominalSleepUs.toNat + g.cfg.stepUpUs.toNat) g.cfg.maxSleepUs.toNat ≤
        g.currentSleepUs.toNat := by
  have same : (new AdaptivePollingConfig.default).cfg = AdaptivePollingConfig.default :=
    new_cfg default_valid
  obtain ⟨enough, brings⟩ := sustained_slack AdaptivePollingConfig.default zero_le_one
    (by rw [same]; norm_num [AdaptivePollingConfig.default])
    (by rw [same]; norm_num [AdaptivePollingConfig.default])
    (by rw [same]; norm_num [AdaptivePollingConfig.default]) (1 / 1000) (by norm_num)
    (by rw [same]; norm_num [AdaptivePollingConfig.default])
  refine ⟨enough, brings [] ((List.range enough).map resting) 0 (fun _ member => by cases member)
    ?_ ?_ ?_⟩
  · intro call member
    obtain ⟨waitedMs, -, rfl⟩ := List.mem_map.mp member
    rw [same]
    exact resting_slack waitedMs
  · rw [List.pairwise_map]
    apply List.pairwise_lt_range.imp
    intro first second earlier
    show first * 1000000 < second * 1000000
    omega
  · rw [List.length_map, List.length_range]

end SensorGateway.Polling.GovernorResponse

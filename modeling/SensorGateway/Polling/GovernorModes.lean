import SensorGateway.Lib.Arrivals
import SensorGateway.Polling.GovernorBounds

/-! What the counters of `stats` say about a whole run. They agree with the modes the governor has
been in, and no wait of a producer passes unnoticed between two calls. -/

namespace SensorGateway.Polling.GovernorModes
open SensorGateway.Lib.Arrivals
open SensorGateway.Lib.Saturating Governor AdaptivePollingGovernor GovernorBounds

/-- The mode after each call. -/
def modes (g : AdaptivePollingGovernor) : List Call → Option (List GovernorMode)
  | [] => some []
  | call :: rest => do
    let (_, g) ← invoke g call
    let later ← modes g rest
    some (g.mode :: later)

/-- The counter of entries to a mode. -/
def entries (g : GovernorStats) : GovernorMode → UInt64
  | .fastRecovery => g.fastRecoveryEntries
  | .tracking => g.trackingEntries
  | .economy => g.economyEntries
  | .failSafe => g.failSafeEntries

theorem entries_setMode (g : AdaptivePollingGovernor) (next mode : GovernorMode) :
    entries (g.setMode next).stats mode =
      entries g.stats mode + if g.mode ≠ next ∧ next = mode then 1 else 0 := by
  unfold setMode
  by_cases same : g.mode = next
  · simp [same]
  · cases next <;> cases mode <;> simp [same, entries, stats]

theorem modeSwitches_setMode (g : AdaptivePollingGovernor) (next : GovernorMode) :
    (g.setMode next).modeSwitches = g.modeSwitches + if g.mode ≠ next then 1 else 0 := by
  unfold setMode
  by_cases same : g.mode = next
  · simp [same]
  · cases next <;> simp [same]

theorem updates_setMode (g : AdaptivePollingGovernor) (next : GovernorMode) :
    (g.setMode next).updates = g.updates := by
  unfold setMode
  split
  · rfl
  · cases next <;> rfl

/-- The mode a call chooses. -/
def chosen (g : AdaptivePollingGovernor) (call : Call) : GovernorMode :=
  if call.stats.capacity = 0 then .failSafe
  else if (seen g call).Emergency call.overrideMode then .fastRecovery
  else if Relaxes (seen g call) call.overrideMode then .economy
  else .tracking

/-- A call makes one change of mode, if any, and counts it. -/
structure Counted (g g' : AdaptivePollingGovernor) (next : GovernorMode) : Prop where
  mode : g'.mode = next
  updates : g'.updates = g.updates + 1
  switches : g'.modeSwitches = g.modeSwitches + if g.mode ≠ next then 1 else 0
  entered : ∀ mode, entries g'.stats mode =
    entries g.stats mode + if g.mode ≠ next ∧ next = mode then 1 else 0

theorem after_counted (g : AdaptivePollingGovernor) (call : Call) :
    Counted g (after g call) (chosen g call) := by
  unfold after chosen
  split_ifs with empty emergency relaxes
  · exact {
      mode := setMode_mode _ _
      updates := updates_setMode _ _
      switches := modeSwitches_setMode _ _
      entered := entries_setMode { g with updates := g.updates + 1 } .failSafe }
  · exact {
      mode := setMode_mode _ _
      updates := updates_setMode _ _
      switches := modeSwitches_setMode _ _
      entered := entries_setMode (seen g call) .fastRecovery }
  · rw [regulated, if_pos relaxes]
    exact {
      mode := setMode_mode _ _
      updates := updates_setMode _ _
      switches := modeSwitches_setMode _ _
      entered := entries_setMode { seen g call with integralError := integrated (seen g call) } .economy }
  · rw [regulated, if_neg relaxes]
    exact {
      mode := setMode_mode _ _
      updates := updates_setMode _ _
      switches := modeSwitches_setMode _ _
      entered := entries_setMode { seen g call with integralError := integrated (seen g call) } .tracking }

/-- `FailSafe` is the mode for a buffer without room, and for no other. -/
theorem chosen_failSafe (g : AdaptivePollingGovernor) (call : Call) :
    chosen g call = .failSafe ↔ call.stats.capacity = 0 := by
  unfold chosen
  split_ifs with empty <;> simp [empty]

/-- The modes after each call of a governor in order. -/
def visited (g : AdaptivePollingGovernor) : List Call → List GovernorMode
  | [] => []
  | call :: rest => chosen g call :: visited (after g call) rest

theorem modes_eq {g : AdaptivePollingGovernor} (ordered : Ordered g.cfg) (calls : List Call) :
    modes g calls = some (visited g calls) := by
  induction calls generalizing g with
  | nil => rfl
  | cons call rest ih =>
    have kept : Ordered (after g call).cfg := by
      rw [after_cfg]
      exact ordered
    show (invoke g call).bind (fun outcome => (modes outcome.2 rest).bind fun later =>
      some (outcome.2.mode :: later)) = _
    rw [invoke_eq ordered, Option.bind_some, ih kept, Option.bind_some, visited,
      (after_counted g call).mode]

/-- The counters of `stats`, against the modes visited since. -/
structure Agrees (start : GovernorStats) (finish : GovernorStats) (history : List GovernorMode) :
    Prop where
  mode : finish.mode = (start.mode :: history).getLast (List.cons_ne_nil _ _)
  updates : finish.updates = start.updates + UInt64.ofNat history.length
  switches : finish.modeSwitches =
    start.modeSwitches + UInt64.ofNat (changes start.mode history)
  entered : ∀ mode, entries finish mode =
    entries start mode + UInt64.ofNat (arrivals mode start.mode history)

theorem ofNat_ite (p : Prop) [Decidable p] :
    UInt64.ofNat (if p then 1 else 0) = if p then 1 else 0 := by
  split <;> rfl

theorem foldl_agrees (g : AdaptivePollingGovernor) (calls : List Call) :
    Agrees g.stats (calls.foldl after g).stats (visited g calls) := by
  induction calls generalizing g with
  | nil =>
    exact {
      mode := rfl
      updates := (UInt64.add_zero _).symm
      switches := (UInt64.add_zero _).symm
      entered := fun _ => (UInt64.add_zero _).symm }
  | cons call rest ih =>
    have step := after_counted g call
    have later := ih (after g call)
    have moved : (after g call).stats.mode = chosen g call := step.mode
    exact {
      mode := by
        have last := later.mode
        rw [moved] at last
        rw [List.foldl_cons, last, visited, List.getLast_cons (List.cons_ne_nil _ _)]
      updates := by
        have count : (after g call).stats.updates = g.stats.updates + 1 := step.updates
        rw [List.foldl_cons, later.updates, count, visited, List.length_cons, UInt64.ofNat_add]
        ac_rfl
      switches := by
        have count : (after g call).stats.modeSwitches =
            g.stats.modeSwitches + if g.stats.mode ≠ chosen g call then 1 else 0 := step.switches
        rw [List.foldl_cons, later.switches, moved, count, visited, changes, UInt64.ofNat_add,
          ofNat_ite, UInt64.add_assoc]
      entered := by
        intro mode
        have count : entries (after g call).stats mode = entries g.stats mode +
            if g.stats.mode ≠ chosen g call ∧ chosen g call = mode then 1 else 0 := step.entered mode
        rw [List.foldl_cons, later.entered, moved, count, visited, arrivals, UInt64.ofNat_add,
          ofNat_ite, UInt64.add_assoc] }

theorem visited_failSafe (g : AdaptivePollingGovernor) (calls : List Call) :
    (visited g calls).map (fun mode => decide (mode = .failSafe)) =
      calls.map (fun call => decide (call.stats.capacity = 0)) := by
  induction calls generalizing g with
  | nil => rfl
  | cons call rest ih =>
    rw [visited, List.map_cons, List.map_cons, ih, decide_eq_decide.mpr (chosen_failSafe g call)]

instance fintypeGovernorMode : Fintype GovernorMode where
  elems := {.fastRecovery, .tracking, .economy, .failSafe}
  complete := by
    intro mode
    cases mode <;> decide

/-- The four arrivals are all the changes. -/
theorem add_arrivals (start : GovernorMode) (history : List GovernorMode) :
    arrivals .fastRecovery start history + arrivals .tracking start history +
      arrivals .economy start history + arrivals .failSafe start history =
        changes start history := by
  rw [← sum_arrivals]
  have total : ∑ mode, arrivals mode start history = arrivals .fastRecovery start history +
      (arrivals .tracking start history + (arrivals .economy start history +
        (arrivals .failSafe start history + 0))) := rfl
  omega

/-- After any calls the counters are those of the modes that the calls have chosen: one update for
each call, one switch for each change of mode and one entry for each arrival, `Tracking` being
entered once from the start. The mode was `FailSafe` just after the calls with a buffer of no room. -/
theorem counters_agree (given : AdaptivePollingConfig) (limit : 0 ≤ given.integralLimit)
    (calls : List Call) :
    ∃ g history, run (new given) calls = some g ∧ modes (new given) calls = some history ∧
      g.stats.updates = UInt64.ofNat calls.length ∧
      g.stats.modeSwitches = UInt64.ofNat (changes .tracking history) ∧
      (∀ mode, entries g.stats mode = UInt64.ofNat
        (arrivals mode .tracking history + if mode = .tracking then 1 else 0)) ∧
      g.stats.fastRecoveryEntries + g.stats.trackingEntries + g.stats.economyEntries +
        g.stats.failSafeEntries = g.stats.modeSwitches + 1 ∧
      (calls.length + 1 < 2 ^ 64 →
        ∀ mode, mode ∈ .tracking :: history ↔ 0 < entries g.stats mode) ∧
      history.map (fun mode => decide (mode = .failSafe)) =
        calls.map (fun call => decide (call.stats.capacity = 0)) := by
  have ordered : Ordered (new given).cfg := ordered_new limit
  have agrees := foldl_agrees (new given) calls
  have long : (visited (new given) calls).length = calls.length := by
    have same := congrArg List.length (visited_failSafe (new given) calls)
    simpa only [List.length_map] using same
  have entered (mode : GovernorMode) : entries (calls.foldl after (new given)).stats mode =
      UInt64.ofNat (arrivals mode .tracking (visited (new given) calls) +
        if mode = .tracking then 1 else 0) := by
    have start : entries (new given).stats mode =
        UInt64.ofNat (if mode = .tracking then 1 else 0) := by
      cases mode <;> rfl
    rw [agrees.entered, start, UInt64.add_comm, ← UInt64.ofNat_add]
    rfl
  have switches : (calls.foldl after (new given)).stats.modeSwitches =
      UInt64.ofNat (changes .tracking (visited (new given) calls)) := by
    rw [agrees.switches]
    exact UInt64.zero_add _
  refine ⟨_, _, run_eq ordered calls, modes_eq ordered calls, ?_, switches, entered, ?_, ?_,
    visited_failSafe _ calls⟩
  · rw [agrees.updates, long]
    exact UInt64.zero_add _
  · have fast := entered .fastRecovery
    have tracking := entered .tracking
    have economy := entered .economy
    have failSafe := entered .failSafe
    simp only [entries, reduceCtorEq, if_false, if_true, Nat.add_zero] at fast tracking economy failSafe
    rw [fast, tracking, economy, failSafe, switches, ← add_arrivals]
    have one : UInt64.ofNat 1 = 1 := rfl
    simp only [UInt64.ofNat_add, one]
    ac_rfl
  · intro few mode
    have most := arrivals_le_length mode .tracking (visited (new given) calls)
    rw [mem_iff_arrivals, entered, UInt64.lt_iff_toNat_lt, UInt64.toNat_ofNat']
    have small : arrivals mode .tracking (visited (new given) calls) +
        (if mode = .tracking then 1 else 0) < 2 ^ 64 := by
      split <;> omega
    rw [Nat.mod_eq_of_lt small]
    show _ ↔ 0 < _
    by_cases tracking : mode = .tracking
    · simp [tracking]
    · simp [tracking, Ne.symm tracking]

/-- The modes of a buffer that runs empty, blocks a producer, and is then without room. -/
theorem counters_agree_stopped :
    ∃ g history, run (new AdaptivePollingConfig.default)
        [⟨0, ⟨1000, 0, 0, 1⟩, .none⟩, ⟨0, ⟨1000, 0, 5, 1⟩, .none⟩, ⟨0, ⟨0, 0, 5, 1⟩, .none⟩] = some g ∧
      modes (new AdaptivePollingConfig.default)
        [⟨0, ⟨1000, 0, 0, 1⟩, .none⟩, ⟨0, ⟨1000, 0, 5, 1⟩, .none⟩, ⟨0, ⟨0, 0, 5, 1⟩, .none⟩] =
          some history ∧
      g.stats.fastRecoveryEntries + g.stats.trackingEntries + g.stats.economyEntries +
        g.stats.failSafeEntries = g.stats.modeSwitches + 1 := by
  obtain ⟨g, history, runs, visits, -, -, -, total, -⟩ :=
    counters_agree AdaptivePollingConfig.default zero_le_one
      [⟨0, ⟨1000, 0, 0, 1⟩, .none⟩, ⟨0, ⟨1000, 0, 5, 1⟩, .none⟩, ⟨0, ⟨0, 0, 5, 1⟩, .none⟩]
  exact ⟨g, history, runs, visits, total⟩

example : modes (new AdaptivePollingConfig.default)
    [⟨0, ⟨1000, 0, 0, 1⟩, .none⟩, ⟨0, ⟨1000, 0, 5, 1⟩, .none⟩, ⟨0, ⟨0, 0, 5, 1⟩, .none⟩] =
      some [.economy, .fastRecovery, .failSafe] := by
  decide +kernel

/-! ## Waits of the producers -/

theorem chosen_fastRecovery {g : AdaptivePollingGovernor} {call : Call}
    (room : call.stats.capacity ≠ 0) (grew : g.prevPushWaitNsTotal < call.stats.pushWaitNsTotal) :
    chosen g call = .fastRecovery := by
  have emergency : (seen g call).Emergency call.overrideMode :=
    Or.inr (Or.inr (Or.inr (Nat.sub_pos_of_lt grew)))
  rw [chosen, if_neg room, if_pos emergency]

/-- Until a wait is noticed the total it is counted from does not grow. -/
theorem fastRecovery_mem {g : AdaptivePollingGovernor} {calls : List Call} {call : Call}
    (member : call ∈ calls) (room : call.stats.capacity ≠ 0)
    (grew : g.prevPushWaitNsTotal < call.stats.pushWaitNsTotal) :
    GovernorMode.fastRecovery ∈ visited g calls := by
  induction calls generalizing g with
  | nil => cases member
  | cons first rest ih =>
    rw [visited, List.mem_cons]
    by_cases empty : first.stats.capacity = 0
    · right
      rcases List.mem_cons.mp member with rfl | later
      · exact absurd empty room
      · apply ih later
        rw [after_prevPushWait_of_empty g empty]
        exact grew
    · by_cases noticed : g.prevPushWaitNsTotal < first.stats.pushWaitNsTotal
      · exact Or.inl (chosen_fastRecovery empty noticed).symm
      · right
        rcases List.mem_cons.mp member with rfl | later
        · exact absurd grew noticed
        · apply ih later
          rw [(after_prevWaits g empty).1]
          omega

/-- Where a producer has waited between two calls, whatever other calls were made in between, one of
the calls after the first of the two has brought `FastRecovery`. -/
theorem waits_noticed (given : AdaptivePollingConfig) (limit : 0 ≤ given.integralLimit)
    (earlier between : List Call) (first second : Call) (room : first.stats.capacity ≠ 0)
    (roomThen : second.stats.capacity ≠ 0)
    (grew : first.stats.pushWaitNsTotal < second.stats.pushWaitNsTotal) :
    ∃ before history, run (new given) (earlier ++ [first]) = some before ∧
      modes before (between ++ [second]) = some history ∧
      GovernorMode.fastRecovery ∈ history := by
  have ordered : Ordered (new given).cfg := ordered_new limit
  have kept : Ordered ((earlier ++ [first]).foldl after (new given)).cfg := by
    rw [foldl_after_cfg]
    exact ordered
  refine ⟨_, _, run_eq ordered _, modes_eq kept _, ?_⟩
  apply fastRecovery_mem (List.mem_append_right _ List.mem_cons_self) roomThen
  rw [List.foldl_concat, (after_prevWaits _ room).1]
  exact grew

/-- The buffer is found without room in between. -/
theorem waits_noticed_late :
    ∃ before history,
      run (new AdaptivePollingConfig.default) ([] ++ [⟨0, ⟨1000, 0, 3, 0⟩, .none⟩]) = some before ∧
      modes before ([⟨0, ⟨0, 0, 9, 0⟩, .none⟩] ++ [⟨0, ⟨1000, 0, 9, 0⟩, .none⟩]) = some history ∧
      GovernorMode.fastRecovery ∈ history :=
  waits_noticed AdaptivePollingConfig.default zero_le_one [] _ _ _ (by decide) (by decide) (by decide)

end SensorGateway.Polling.GovernorModes

import SensorGateway.Lib.Arrivals
import SensorGateway.Polling.ControlAgreement

/-! Why the scheduler sends what it sends, and what it publishes about it. Each pass of its loop
looks at the latest status of each reader; the commands follow from what the passes have found, and
so do the rows that a dashboard reads. -/

namespace SensorGateway.Polling.Escalation
open SensorGateway.Lib.Transition SensorGateway.Lib.Arrivals
open SensorGateway.Types Governor Control Scheduler ControlAgreement

/-- What a pass has found of a reader. -/
structure View where
  now : SystemTime
  status : ReaderStatus
  deriving DecidableEq, Repr

/-- The scheduler and the readers, with what the passes have found so far and with all statuses that
the readers have sent. -/
structure Watched where
  state : State
  views : String → List View
  reports : List ReaderStatus

/-- A sensor's turn in a pass adds a view of it, once there is a status. -/
def viewed (s : State) (views : String → List View) : Move → String → List View
  | .scheduler _ =>
    match s.pc with
    | .evaluating now (id :: _) _ =>
      match s.tables.latestStatus id with
      | none => views
      | some status => Function.update views id (views id ++ [⟨now, status⟩])
    | _ => views
  | _ => views

def reported (reports : List ReaderStatus) : Move → List ReaderStatus
  | .report status => reports ++ [status]
  | _ => reports

def watching (cfg : SchedulerConfig) (governorCfg : String → AdaptivePollingConfig)
    (channels : Channels) : System Watched Move where
  init := ⟨(scheduler cfg governorCfg channels).init, fun _ => [], []⟩
  step := fun w move => do
    let next ← Scheduler.step cfg governorCfg channels w.state move
    some ⟨next, viewed w.state w.views move, reported w.reports move⟩

section
variable (cfg : SchedulerConfig)

/-- For how many passes up to the last one the backlog has been at a threshold, as a `u32`. -/
def passesAt (threshold : Nat) (views : List View) : Nat :=
  min (streak (fun view => decide (threshold ≤ view.status.available)) views) (2 ^ 32 - 1)

/-- What the passes ask for: full speed while the reader is silent or its backlog critical, no long
sleeps once it has been busy for a number of passes or while the buffer fills up. -/
def demand (views : List View) : ReaderControlMode :=
  match views.getLast? with
  | none => .automatic
  | some view =>
    if Stalled cfg view.now view.status ∨ cfg.criticalThreshold ≤ view.status.available then
      .forceFastRecovery
    else if cfg.warningConsecutiveLimit ≤ passesAt cfg.warningThreshold views ∨
        20 / 100 ≤ view.status.bufferFillRatio then
      .clampToNominal
    else .automatic

/-- The demand after each pass. -/
def demands (views : List View) : List ReaderControlMode :=
  (List.range views.length).map fun n => demand cfg (views.take (n + 1))

/-- The row that the last of the passes makes. -/
def rowOf (views : List View) : SchedulerReaderSnapshot :=
  match views.getLast? with
  | none => .default
  | some view =>
    snapshotOf cfg view.now view.status (passesAt cfg.warningThreshold views)
      (passesAt cfg.criticalThreshold views) (demand cfg views)

theorem demands_concat (views : List View) (view : View) :
    demands cfg (views ++ [view]) = demands cfg views ++ [demand cfg (views ++ [view])] := by
  unfold demands
  rw [List.length_append, List.length_singleton, List.range_succ, List.map_append, List.map_singleton,
    List.take_of_length_le (by rw [List.length_append, List.length_singleton])]
  congr 1
  apply List.map_congr_left
  intro n member
  rw [List.mem_range] at member
  rw [List.take_append_of_le_length (by omega)]

theorem getLast?_demands (views : List View) :
    (demands cfg views).getLast?.getD .automatic = demand cfg views := by
  rcases List.eq_nil_or_concat' views with rfl | ⟨earlier, view, rfl⟩
  · rfl
  · rw [demands_concat, List.getLast?_concat, Option.getD_some]

theorem hits_eq (threshold : Nat) (views : List View) (old : Option Nat)
    (counted : old.getD 0 = passesAt threshold views) (view : View) :
    hits old (threshold ≤ view.status.available) = passesAt threshold (views ++ [view]) := by
  unfold hits passesAt
  rw [streak_concat]
  unfold passesAt at counted
  by_cases busy : threshold ≤ view.status.available
  · simp only [busy, decide_true, if_true]
    omega
  · simp [busy]

/-- A pass at the critical threshold counts at once. -/
theorem passesAt_pos (threshold : Nat) (views : List View) (view : View) :
    0 < passesAt threshold (views ++ [view]) ↔ threshold ≤ view.status.available := by
  unfold passesAt
  rw [streak_concat]
  by_cases busy : threshold ≤ view.status.available
  · simp only [busy, decide_true, if_true, iff_true]
    omega
  · simp [busy]

theorem desired_eq (views : List View) (view : View) :
    desired cfg view.now view.status (passesAt cfg.warningThreshold (views ++ [view]))
      (passesAt cfg.criticalThreshold (views ++ [view])) = demand cfg (views ++ [view]) := by
  unfold desired demand
  rw [List.getLast?_concat]
  simp only [passesAt_pos]

end

/-! ## One step of the scheduler -/

variable {cfg : SchedulerConfig} {governorCfg : String → AdaptivePollingConfig}
  {channels : Channels}

/-- The steps of the scheduler thread, one by one. -/
inductive Turns (cfg : SchedulerConfig) (channels : Channels) (s : State) (now : SystemTime) :
    State → Prop where
  | enter (pc : s.pc = .testing) (running : s.stop = false) :
      Turns cfg channels s now { s with pc := .receiving }
  | leave (pc : s.pc = .testing) (stopped : s.stop = true) :
      Turns cfg channels s now { s with pc := .closing channels.ids }
  | receive (status : ReaderStatus) (rest : List ReaderStatus)
      (pc : s.pc = .receiving ∨ s.pc = .lastReceiving) (queue : s.statuses = status :: rest) :
      Turns cfg channels s now { s with statuses := rest, tables := take s.tables status }
  | begin_ (pc : s.pc = .receiving) (queue : s.statuses = []) :
      Turns cfg channels s now { s with pc := .evaluating now channels.ids (startSnapshot cfg) }
  | evaluate (start : SystemTime) (id : String) (rest : List String) (snapshot : SchedulerStats)
      (pc : s.pc = .evaluating start (id :: rest) snapshot) :
      Turns cfg channels s now { s.sendIf id (Scheduler.evaluate cfg start s.tables id).2.1 with
        tables := (Scheduler.evaluate cfg start s.tables id).1
        pc := .evaluating start rest { snapshot with
          readers := snapshot.readers.insert id (Scheduler.evaluate cfg start s.tables id).2.2 } }
  | publish (start : SystemTime) (snapshot : SchedulerStats)
      (pc : s.pc = .evaluating start [] snapshot) :
      Turns cfg channels s now { s with sharedStats := snapshot, pc := .sleeping }
  | wake (pc : s.pc = .sleeping) : Turns cfg channels s now { s with pc := .testing }
  | close (id : String) (rest : List String) (pc : s.pc = .closing (id :: rest)) :
      Turns cfg channels s now { s.send id .shutdownDrain with pc := .closing rest }
  | closed (pc : s.pc = .closing []) : Turns cfg channels s now { s with pc := .lastReceiving }
  | finish (pc : s.pc = .lastReceiving) (queue : s.statuses = []) :
      Turns cfg channels s now { s with
        pc := .finished
        sharedStats := { startSnapshot cfg with
          readers := channels.ids.foldl
            (fun rows id => rows.insert id (lastRow cfg now s.tables id)) (∅ : SensorMap _) } }

theorem schedulerStep_turns {s t : State} {now : SystemTime}
    (step : schedulerStep cfg channels s now = some t) : Turns cfg channels s now t := by
  unfold schedulerStep at step
  cases pc : s.pc with
  | testing =>
    simp only [pc, Option.some.injEq] at step
    subst step
    by_cases stop : s.stop = true
    · rw [if_pos stop]
      exact .leave pc stop
    · rw [if_neg stop]
      exact .enter pc (Bool.eq_false_iff.mpr stop)
  | receiving =>
    cases queue : s.statuses with
    | nil =>
      simp only [pc, queue, Option.some.injEq] at step
      subst step
      rw [← queue]
      exact .begin_ pc queue
    | cons status rest =>
      simp only [pc, queue, Option.some.injEq] at step
      subst step
      rw [← pc]
      exact .receive status rest (Or.inl pc) queue
  | evaluating start ids snapshot =>
    cases ids with
    | nil =>
      simp only [pc, Option.some.injEq] at step
      subst step
      exact .publish start snapshot pc
    | cons id rest =>
      simp only [pc, Option.some.injEq] at step
      subst step
      exact .evaluate start id rest snapshot pc
  | sleeping =>
    simp only [pc, Option.some.injEq] at step
    subst step
    exact .wake pc
  | closing ids =>
    cases ids with
    | nil =>
      simp only [pc, Option.some.injEq] at step
      subst step
      exact .closed pc
    | cons id rest =>
      simp only [pc, Option.some.injEq] at step
      subst step
      exact .close id rest pc
  | lastReceiving =>
    cases queue : s.statuses with
    | nil =>
      simp only [pc, queue, Option.some.injEq] at step
      subst step
      rw [← queue]
      exact .finish pc queue
    | cons status rest =>
      simp only [pc, queue, Option.some.injEq] at step
      subst step
      rw [← pc]
      exact .receive status rest (Or.inr pc) queue
  | finished => simp [pc] at step

/-- Only a sensor's turn adds a view. -/
theorem viewed_of_ne {s : State} (other : ∀ start id rest snapshot,
    s.pc ≠ .evaluating start (id :: rest) snapshot) (views : String → List View) (now : SystemTime) :
    viewed s views (.scheduler now) = views := by
  unfold viewed
  cases pc : s.pc with
  | evaluating start ids snapshot =>
    cases ids with
    | nil => rfl
    | cons id rest => exact absurd pc (other start id rest snapshot)
  | testing | receiving | sleeping | closing ids | lastReceiving | finished => rfl

/-- A sensor's turn leaves the views of the others. -/
theorem viewed_of_turn {s : State} {start : SystemTime} {receiver : String} {rest : List String}
    {snapshot : SchedulerStats} (pc : s.pc = .evaluating start (receiver :: rest) snapshot)
    (views : String → List View) (now : SystemTime) {id : String} (other : id ≠ receiver) :
    viewed s views (.scheduler now) id = views id := by
  unfold viewed
  simp only [pc]
  cases s.tables.latestStatus receiver with
  | none => rfl
  | some status => exact Function.update_of_ne other ..

theorem evaluate_latestStatus (cfg : SchedulerConfig) (tables : Tables) (receiver : String) (start : SystemTime) :
    (Scheduler.evaluate cfg start tables receiver).1.latestStatus = tables.latestStatus := by
  unfold Scheduler.evaluate
  cases tables.latestStatus receiver with
  | none => rfl
  | some status =>
    simp only
    split <;> rfl

theorem evaluate_unseen {tables : Tables} {id : String} (latest : tables.latestStatus id = none)
    {start : SystemTime} : Scheduler.evaluate cfg start tables id = (tables, none, .default) := by
  unfold Scheduler.evaluate
  rw [latest]

/-- A sensor's turn with a status at hand, against what its passes have found. -/
theorem evaluate_viewed {tables : Tables} {id : String} {status : ReaderStatus}
    (latest : tables.latestStatus id = some status) (start : SystemTime) {views : List View}
    (warned : (tables.warningHits id).getD 0 = passesAt cfg.warningThreshold views)
    (alarmed : (tables.criticalHits id).getD 0 = passesAt cfg.criticalThreshold views) :
    let found := views ++ [⟨start, status⟩]
    let counted := { tables with
      warningHits :=
        Function.update tables.warningHits id (some (passesAt cfg.warningThreshold found))
      criticalHits :=
        Function.update tables.criticalHits id (some (passesAt cfg.criticalThreshold found)) }
    Scheduler.evaluate cfg start tables id =
      if tables.lastCommand id = some (demand cfg found) then (counted, none, rowOf cfg found)
      else ({ counted with
          lastCommand := Function.update tables.lastCommand id (some (demand cfg found)) },
        some (demand cfg found), rowOf cfg found) := by
  intro found counted
  have wanted := desired_eq cfg views ⟨start, status⟩
  have row : rowOf cfg found = snapshotOf cfg start status (passesAt cfg.warningThreshold found)
      (passesAt cfg.criticalThreshold found) (demand cfg found) := by
    rw [rowOf, List.getLast?_concat]
  unfold Scheduler.evaluate
  rw [latest]
  simp only [hits_eq _ _ _ warned ⟨start, status⟩, hits_eq _ _ _ alarmed ⟨start, status⟩]
  rw [wanted, ite_not, row]

/-! ## The commands of one channel -/

/-- The scheduler's tables and the channel of one reader, against the passes. -/
structure Accounts (cfg : SchedulerConfig) (s : State) (views : List View) (id : String) :
    Prop where
  unseen : s.tables.latestStatus id = none → views = []
  warned : (s.tables.warningHits id).getD 0 = passesAt cfg.warningThreshold views
  alarmed : (s.tables.criticalHits id).getD 0 = passesAt cfg.criticalThreshold views
  last : s.tables.lastCommand id = (demands cfg views).getLast?
  sent : NotYet s.pc id → s.sent id = (demands cfg views).destutter (· ≠ ·)
  drained : ¬NotYet s.pc id →
    s.sent id = (demands cfg views).destutter (· ≠ ·) ++ [.shutdownDrain]

/-- A step that neither evaluates the reader's status nor sends it anything. -/
theorem Accounts.frame {s t : State} {views : List View} {id : String}
    (accounts : Accounts cfg s views id)
    (latest : t.tables.latestStatus id = none → s.tables.latestStatus id = none)
    (warned : t.tables.warningHits id = s.tables.warningHits id)
    (alarmed : t.tables.criticalHits id = s.tables.criticalHits id)
    (last : t.tables.lastCommand id = s.tables.lastCommand id) (sent : t.sent id = s.sent id)
    (loop : NotYet t.pc id ↔ NotYet s.pc id) : Accounts cfg t views id where
  unseen := fun none => accounts.unseen (latest none)
  warned := by rw [warned, accounts.warned]
  alarmed := by rw [alarmed, accounts.alarmed]
  last := by rw [last, accounts.last]
  sent := by rw [loop, sent]; exact accounts.sent
  drained := by rw [loop, sent]; exact accounts.drained

theorem State.sendIf_other (s : State) {receiver id : String} (other : id ≠ receiver)
    (mode : Option ReaderControlMode) : (s.sendIf receiver mode).sent id = s.sent id := by
  cases mode with
  | none => rfl
  | some mode => exact Function.update_of_ne other ..

theorem evaluate_other {tables : Tables} {receiver id : String} (other : id ≠ receiver)
    (start : SystemTime) :
    let after := (Scheduler.evaluate cfg start tables receiver).1
    after.warningHits id = tables.warningHits id ∧
      after.criticalHits id = tables.criticalHits id ∧
      after.lastCommand id = tables.lastCommand id := by
  unfold Scheduler.evaluate
  cases tables.latestStatus receiver with
  | none => exact ⟨rfl, rfl, rfl⟩
  | some status =>
    simp only
    split
    · simp [other]
    · simp [other]

/-- A sensor's turn with a status at hand. -/
theorem Accounts.turned {s : State} {views : List View} {id : String}
    (accounts : Accounts cfg s views id) {start : SystemTime} {status : ReaderStatus}
    (latest : s.tables.latestStatus id = some status) (loop : NotYet s.pc id)
    (rest : List String) (after : SchedulerStats) :
    Accounts cfg { s.sendIf id (Scheduler.evaluate cfg start s.tables id).2.1 with
      tables := (Scheduler.evaluate cfg start s.tables id).1
      pc := .evaluating start rest after } (views ++ [⟨start, status⟩]) id := by
  have before := accounts.sent loop
  have repeats := destutter_concat (demands cfg views) (demand cfg (views ++ [⟨start, status⟩]))
  rw [evaluate_viewed latest start accounts.warned accounts.alarmed]
  rw [← accounts.last, ← demands_concat] at repeats
  by_cases same : s.tables.lastCommand id = some (demand cfg (views ++ [⟨start, status⟩]))
  · rw [if_pos same] at repeats ⊢
    exact {
      unseen := fun none => absurd (latest.symm.trans none) (Option.some_ne_none status)
      warned := by simp
      alarmed := by simp
      last := by
        rw [demands_concat, List.getLast?_concat]
        exact same
      sent := by
        intro _
        rw [repeats, List.append_nil]
        exact before
      drained := fun ended => absurd trivial ended }
  · rw [if_neg same] at repeats ⊢
    exact {
      unseen := fun none => absurd (latest.symm.trans none) (Option.some_ne_none status)
      warned := by simp
      alarmed := by simp
      last := by
        rw [demands_concat, List.getLast?_concat]
        exact Function.update_self ..
      sent := by
        intro _
        rw [repeats, ← before]
        exact Function.update_self ..
      drained := fun ended => absurd trivial ended }

/-- A sensor's turn: its view is added, and a command goes out where the demand has changed. -/
theorem Accounts.evaluated {s : State} {views : String → List View} {id : String}
    (accounts : Accounts cfg s (views id) id) {start : SystemTime} {receiver : String}
    {rest : List String} {snapshot : SchedulerStats} {now : SystemTime}
    (pc : s.pc = .evaluating start (receiver :: rest) snapshot) (after : SchedulerStats) :
    Accounts cfg { s.sendIf receiver (Scheduler.evaluate cfg start s.tables receiver).2.1 with
      tables := (Scheduler.evaluate cfg start s.tables receiver).1
      pc := .evaluating start rest after } (viewed s views (.scheduler now) id) id := by
  have loop : NotYet s.pc id := by rw [pc]; trivial
  by_cases same : id = receiver
  · subst same
    unfold viewed
    simp only [pc]
    cases latest : s.tables.latestStatus id with
    | none =>
      rw [evaluate_unseen latest]
      exact accounts.frame (fun none => none) rfl rfl rfl rfl (iff_of_true trivial loop)
    | some status =>
      simp only [Function.update_self]
      exact accounts.turned latest loop rest after
  · obtain ⟨warned, alarmed, last⟩ :=
      (evaluate_other same start : let after := (Scheduler.evaluate cfg start s.tables receiver).1
        after.warningHits id = _ ∧ after.criticalHits id = _ ∧ after.lastCommand id = _)
    rw [viewed_of_turn pc views now same]
    refine accounts.frame (fun none => ?_) warned alarmed last (State.sendIf_other s same _)
      (iff_of_true trivial loop)
    rw [← evaluate_latestStatus cfg s.tables receiver start]
    exact none

theorem Accounts.turns {s t : State} {views : String → List View} {id : String}
    (known : id ∈ channels.ids) (accounts : Accounts cfg s (views id) id) (once : Once s.pc)
    {now : SystemTime} (turns : Turns cfg channels s now t) :
    Accounts cfg t (viewed s views (.scheduler now) id) id := by
  cases turns with
  | enter pc running =>
    rw [viewed_of_ne (by simp [pc])]
    exact accounts.frame (fun none => none) rfl rfl rfl rfl
      (iff_of_true trivial (by rw [pc]; trivial))
  | leave pc stopped =>
    rw [viewed_of_ne (by simp [pc])]
    exact accounts.frame (fun none => none) rfl rfl rfl rfl (iff_of_true known (by rw [pc]; trivial))
  | receive status rest pc queue =>
    rw [viewed_of_ne (by rcases pc with pc | pc <;> simp [pc])]
    refine accounts.frame ?_ rfl rfl rfl rfl Iff.rfl
    intro none
    by_cases same : id = status.sensorId
    · subst same
      simp [take] at none
    · simpa [take, same] using none
  | begin_ pc queue =>
    rw [viewed_of_ne (by simp [pc])]
    exact accounts.frame (fun none => none) rfl rfl rfl rfl
      (iff_of_true trivial (by rw [pc]; trivial))
  | evaluate start receiver rest snapshot pc => exact accounts.evaluated pc _
  | publish start snapshot pc =>
    rw [viewed_of_ne (by simp [pc])]
    exact accounts.frame (fun none => none) rfl rfl rfl rfl
      (iff_of_true trivial (by rw [pc]; trivial))
  | wake pc =>
    rw [viewed_of_ne (by simp [pc])]
    exact accounts.frame (fun none => none) rfl rfl rfl rfl
      (iff_of_true trivial (by rw [pc]; trivial))
  | close receiver rest pc =>
    rw [viewed_of_ne (by simp [pc])]
    rw [pc] at once
    obtain ⟨fresh, -⟩ := List.nodup_cons.mp once
    by_cases same : id = receiver
    · subst same
      have before := accounts.sent (by rw [pc]; exact List.mem_cons_self)
      exact {
        unseen := accounts.unseen
        warned := accounts.warned
        alarmed := accounts.alarmed
        last := accounts.last
        sent := fun left => absurd left fresh
        drained := by
          intro _
          rw [← before]
          exact Function.update_self .. }
    · refine accounts.frame (fun none => none) rfl rfl rfl (Function.update_of_ne same ..) ?_
      rw [pc]
      exact ⟨fun left => List.mem_cons_of_mem _ left,
        fun left => (List.mem_cons.mp left).resolve_left same⟩
  | closed pc =>
    rw [viewed_of_ne (by simp [pc])]
    refine accounts.frame (fun none => none) rfl rfl rfl rfl ?_
    rw [pc]
    exact iff_of_false (fun bad => bad) List.not_mem_nil
  | finish pc queue =>
    rw [viewed_of_ne (by simp [pc])]
    exact accounts.frame (fun none => none) rfl rfl rfl rfl (by rw [pc]; exact Iff.rfl)

/-- A view is of a status that its reader has sent, and so is what is still under way. -/
structure Reported (w : Watched) : Prop where
  queued : ∀ status ∈ w.state.statuses, status ∈ w.reports
  latest : ∀ id status, w.state.tables.latestStatus id = some status →
    status ∈ w.reports ∧ status.sensorId = id
  viewed : ∀ id, ∀ view ∈ w.views id, view.status ∈ w.reports ∧ view.status.sensorId = id

theorem Reported.turns {w : Watched} (reported : Reported w) {now : SystemTime} {t : State}
    (turns : Turns cfg channels w.state now t) :
    Reported ⟨t, Escalation.viewed w.state w.views (.scheduler now), w.reports⟩ := by
  obtain ⟨queued, latest, viewed⟩ := reported
  cases turns with
  | receive status rest pc queue =>
    rw [viewed_of_ne (by rcases pc with pc | pc <;> simp [pc])]
    rw [queue] at queued
    refine ⟨fun other member => queued other (List.mem_cons_of_mem _ member), ?_, viewed⟩
    intro id other found
    by_cases same : id = status.sensorId
    · subst same
      obtain rfl : status = other := by simpa [take] using found
      exact ⟨queued status List.mem_cons_self, rfl⟩
    · exact latest id other (by simpa [take, same] using found)
  | evaluate start receiver rest snapshot pc =>
    have kept := evaluate_latestStatus cfg w.state.tables receiver start
    refine ⟨?_, ?_, ?_⟩
    · cases (Scheduler.evaluate cfg start w.state.tables receiver).2.1 <;> exact queued
    · intro id status found
      rw [kept] at found
      exact latest id status found
    · intro id view member
      simp only [Escalation.viewed, pc] at member
      cases found : w.state.tables.latestStatus receiver with
      | none =>
        rw [found] at member
        exact viewed id view member
      | some status =>
        simp only [found] at member
        by_cases same : id = receiver
        · subst same
          rw [Function.update_self, List.mem_append, List.mem_singleton] at member
          rcases member with earlier | rfl
          · exact viewed id view earlier
          · exact latest id status found
        · rw [Function.update_of_ne same] at member
          exact viewed id view member
  | enter pc | leave pc | begin_ pc | publish start snapshot pc | wake pc | close id rest pc
  | closed pc | finish pc =>
    rw [viewed_of_ne (by simp [pc])]
    exact ⟨queued, latest, viewed⟩

/-- What the other threads do to the scheduler's own state. -/
theorem step_others {s t : State} {move : Move}
    (step : Scheduler.step cfg governorCfg channels s move = some t)
    (other : ∀ now, move ≠ .scheduler now) : t.sharedStats = s.sharedStats ∧
      ∀ status ∈ t.statuses, status ∈ s.statuses ∨ move = .report status := by
  cases move with
  | scheduler now => exact absurd rfl (other now)
  | report status =>
    simp only [Scheduler.step, Option.ite_none_left_eq_some, Option.some.injEq] at step
    obtain ⟨-, rfl⟩ := step
    refine ⟨rfl, ?_⟩
    intro found member
    rcases List.mem_append.mp member with earlier | new
    · exact Or.inl earlier
    · exact Or.inr (by rw [List.mem_singleton.mp new])
  | obey reader now =>
    cases queue : s.pending reader with
    | nil => simp [Scheduler.step, queue] at step
    | cons mode rest =>
      simp only [Scheduler.step, queue, Option.some.injEq] at step
      subst step
      exact ⟨rfl, fun _ => Or.inl⟩
  | giveUp reader now =>
    simp only [Scheduler.step, Option.ite_none_left_eq_some, Option.some.injEq] at step
    obtain ⟨-, rfl⟩ := step
    exact ⟨rfl, fun _ => Or.inl⟩
  | exit reader =>
    simp only [Scheduler.step, Option.ite_none_right_eq_some, Option.some.injEq] at step
    obtain ⟨-, rfl⟩ := step
    exact ⟨rfl, fun _ => Or.inl⟩
  | raiseStop =>
    simp only [Scheduler.step, Option.some.injEq] at step
    subst step
    exact ⟨rfl, fun _ => Or.inl⟩

theorem viewed_of_other {move : Move} (other : ∀ now, move ≠ .scheduler now) (s : State)
    (views : String → List View) : viewed s views move = views := by
  cases move with
  | scheduler now => exact absurd rfl (other now)
  | report | obey | giveUp | exit | raiseStop => rfl

theorem Reported.step {w w' : Watched} {move : Move} (held : Reported w)
    (step : (watching cfg governorCfg channels).step w move = some w') : Reported w' := by
  obtain ⟨t, moves, eq⟩ := Option.bind_eq_some_iff.mp step
  obtain rfl := Option.some.inj eq
  by_cases own : ∃ now, move = .scheduler now
  · obtain ⟨now, rfl⟩ := own
    exact held.turns (schedulerStep_turns moves)
  · have other (now : SystemTime) : move ≠ .scheduler now := fun same => own ⟨now, same⟩
    obtain ⟨-, tables, -⟩ := step_own moves other
    obtain ⟨-, arrives⟩ := step_others moves other
    have more (status : ReaderStatus) (known : status ∈ w.reports) :
        status ∈ reported w.reports move := by
      cases move <;> first | exact known | exact List.mem_append_left _ known
    refine ⟨?_, ?_, ?_⟩
    · intro status member
      rcases arrives status member with queued | rfl
      · exact more status (held.queued status queued)
      · exact List.mem_append_right _ List.mem_cons_self
    · intro id status found
      rw [tables] at found
      exact ⟨more status (held.latest id status found).1, (held.latest id status found).2⟩
    · intro id view member
      rw [viewed_of_other other] at member
      exact ⟨more _ (held.viewed id view member).1, (held.viewed id view member).2⟩

theorem reachable_reported {w : Watched} (reach : (watching cfg governorCfg channels).Reachable w) :
    Reported w := by
  apply System.Reaches.invariant reach Reported
  · exact {
      queued := fun status member => absurd member List.not_mem_nil
      latest := fun id status found => absurd found.symm (Option.some_ne_none status)
      viewed := fun id view member => absurd member List.not_mem_nil }
  · intro u move v held step
    exact held.step step

/-- A run that is watched is a run. -/
theorem reachable_state {w : Watched} (reach : (watching cfg governorCfg channels).Reachable w) :
    (scheduler cfg governorCfg channels).Reachable w.state := by
  apply System.Reaches.invariant reach
    (fun w => (scheduler cfg governorCfg channels).Reachable w.state)
  · exact System.ReachesUnder.refl _
  · intro u move v held step
    obtain ⟨t, moves, eq⟩ := Option.bind_eq_some_iff.mp step
    obtain rfl := Option.some.inj eq
    exact held.tail moves

theorem reachable_accounts {w : Watched} (reach : (watching cfg governorCfg channels).Reachable w)
    {id : String} (known : id ∈ channels.ids) : Accounts cfg w.state (w.views id) id := by
  apply System.ReachesUnder.invariant reach (fun w => Accounts cfg w.state (w.views id) id)
  · exact {
      unseen := fun _ => rfl
      warned := rfl
      alarmed := rfl
      last := rfl
      sent := fun _ => rfl
      drained := fun ended => absurd trivial ended }
  · intro u move v before held _ step
    obtain ⟨t, moves, eq⟩ := Option.bind_eq_some_iff.mp step
    obtain rfl := Option.some.inj eq
    by_cases own : ∃ now, move = .scheduler now
    · obtain ⟨now, rfl⟩ := own
      exact held.turns known (reachable_sound (reachable_state before) known).once
        (schedulerStep_turns moves)
    · have other (now : SystemTime) : move ≠ .scheduler now := fun same => own ⟨now, same⟩
      obtain ⟨pc, tables, sent⟩ := step_own moves other
      rw [viewed_of_other other]
      exact held.frame (by rw [tables]; exact fun none => none) (by rw [tables]) (by rw [tables]) (by rw [tables])
        (by rw [sent]) (by rw [pc])

/-- In every run the commands sent to a reader are what the passes have asked for, without the
repetitions, and a last `ShutdownDrain`; each pass has looked at a status that this reader sent. -/
theorem commands_follow_demands {w : Watched}
    (reach : (watching cfg governorCfg channels).Reachable w) (id : String)
    (known : id ∈ channels.ids) :
    w.state.sent id <+: (demands cfg (w.views id)).destutter (· ≠ ·) ++ [.shutdownDrain] ∧
      (InLoop w.state.pc → w.state.sent id = (demands cfg (w.views id)).destutter (· ≠ ·)) ∧
      (Closed w.state.pc →
        w.state.sent id = (demands cfg (w.views id)).destutter (· ≠ ·) ++ [.shutdownDrain]) ∧
      ∀ view ∈ w.views id, view.status ∈ w.reports ∧ view.status.sensorId = id := by
  have accounts := reachable_accounts reach known
  refine ⟨?_, ?_, ?_, (reachable_reported reach).viewed id⟩
  · by_cases notYet : NotYet w.state.pc id
    · rw [accounts.sent notYet]
      exact List.prefix_append _ _
    · rw [accounts.drained notYet]
  · intro loop
    apply accounts.sent
    cases pc : w.state.pc <;> simp_all [InLoop, NotYet]
  · intro closed
    apply accounts.drained
    cases pc : w.state.pc <;> simp_all [Closed, NotYet]

/-! ## The rows for the dashboard -/

/-- The rows of a pass that has looked at every sensor. -/
structure Pass (cfg : SchedulerConfig) (channels : Channels) (views : String → List View)
    (published : SchedulerStats) (seen : String → List View) : Prop where
  settings : published = { startSnapshot cfg with readers := published.readers }
  rows : ∀ id, published.readers[id]? =
    if id ∈ channels.ids then some (rowOf cfg (seen id)) else none
  past : ∀ id, seen id <+: views id
  together : ∃ start, ∀ id ∈ channels.ids, ∀ view ∈ (seen id).getLast?, view.now = start

/-- The rows of a pass that has some sensors left to look at. -/
structure Partial (cfg : SchedulerConfig) (channels : Channels) (views : String → List View)
    (start : SystemTime) (left : List String) (snapshot : SchedulerStats) : Prop where
  settings : snapshot = { startSnapshot cfg with readers := snapshot.readers }
  suffix : left <:+ channels.ids
  rows : ∀ id, snapshot.readers[id]? =
    if id ∈ channels.ids ∧ id ∉ left then some (rowOf cfg (views id)) else none
  together : ∀ id ∈ channels.ids, id ∉ left → ∀ view ∈ (views id).getLast?, view.now = start

/-- Nothing is published yet, or the rows of one pass are. -/
def Shown (cfg : SchedulerConfig) (channels : Channels) (views : String → List View)
    (published : SchedulerStats) : Prop :=
  published = .default ∨ ∃ seen, Pass cfg channels views published seen

/-- Between two passes the rows are those of the last one. -/
def Current (cfg : SchedulerConfig) (channels : Channels) (views : String → List View)
    (published : SchedulerStats) : Prop :=
  (published = .default ∧ ∀ id ∈ channels.ids, views id = []) ∨ Pass cfg channels views published views

/-- The row that the scheduler leaves for a reader when it ends. -/
structure FinalRow (cfg : SchedulerConfig) (views : List View) (row : SchedulerReaderSnapshot) :
    Prop where
  lastCommand : row.lastCommand = .shutdownDrain
  warned : row.consecutiveWarningHits = passesAt cfg.warningThreshold views
  alarmed : row.consecutiveCriticalHits = passesAt cfg.criticalThreshold views
  stalled : row.stalled = false

def Publishes (cfg : SchedulerConfig) (channels : Channels) (w : Watched) : Prop :=
  match w.state.pc with
  | .testing | .receiving | .sleeping | .closing _ | .lastReceiving =>
    Current cfg channels w.views w.state.sharedStats
  | .evaluating start left snapshot =>
    Shown cfg channels w.views w.state.sharedStats ∧
      Partial cfg channels w.views start left snapshot
  | .finished => ∀ id ∈ channels.ids, ∃ row, w.state.sharedStats.readers[id]? = some row ∧
      FinalRow cfg (w.views id) row

theorem Current.shown {views : String → List View} {published : SchedulerStats}
    (current : Current cfg channels views published) : Shown cfg channels views published := by
  rcases current with ⟨fresh, -⟩ | pass
  · exact Or.inl fresh
  · exact Or.inr ⟨views, pass⟩

/-- A sensor's turn leaves what is published, and the views only grow. -/
theorem Shown.mono {views later : String → List View} {published : SchedulerStats}
    (shown : Shown cfg channels views published) (grow : ∀ id, views id <+: later id) :
    Shown cfg channels later published := by
  rcases shown with fresh | ⟨seen, pass⟩
  · exact Or.inl fresh
  · exact Or.inr ⟨seen, { pass with past := fun id => (pass.past id).trans (grow id) }⟩

/-- A sensor's turn makes the row of its views, the one just added included. -/
theorem Accounts.row {s : State} {views : String → List View} {id : String}
    (accounts : Accounts cfg s (views id) id) {start : SystemTime} {rest : List String}
    {snapshot : SchedulerStats} (now : SystemTime)
    (pc : s.pc = .evaluating start (id :: rest) snapshot) :
    (Scheduler.evaluate cfg start s.tables id).2.2 =
        rowOf cfg (viewed s views (.scheduler now) id) ∧
      ∀ view ∈ (viewed s views (.scheduler now) id).getLast?, view.now = start := by
  unfold viewed
  simp only [pc]
  cases latest : s.tables.latestStatus id with
  | none =>
    show _ = rowOf cfg (views id) ∧ ∀ view ∈ (views id).getLast?, _
    rw [evaluate_unseen latest, accounts.unseen latest]
    exact ⟨rfl, fun view member => by cases member⟩
  | some status =>
    simp only [Function.update_self]
    constructor
    · rw [evaluate_viewed latest start accounts.warned accounts.alarmed]
      split <;> rfl
    · intro view member
      rw [List.getLast?_concat] at member
      obtain rfl := Option.some.inj member
      rfl

theorem Partial.turned {s : State} {views : String → List View} {start : SystemTime}
    {id : String} {rest : List String} {snapshot : SchedulerStats}
    (begun : Partial cfg channels views start (id :: rest) snapshot)
    (accounts : Accounts cfg s (views id) id) (now : SystemTime)
    (pc : s.pc = .evaluating start (id :: rest) snapshot) :
    Partial cfg channels (viewed s views (.scheduler now)) start rest { snapshot with
      readers := snapshot.readers.insert id (Scheduler.evaluate cfg start s.tables id).2.2 } := by
  obtain ⟨settings, suffix, rows, together⟩ := begun
  obtain ⟨row, fresh⟩ := accounts.row now pc
  have known : id ∈ channels.ids := suffix.subset List.mem_cons_self
  have once : id ∉ rest := (List.nodup_cons.mp (channels.distinct.sublist suffix.sublist)).1
  refine ⟨?_, (List.suffix_cons _ _).trans suffix, ?_, ?_⟩
  · rw [settings]
  · intro other
    by_cases same : other = id
    · subst same
      rw [if_pos ⟨known, once⟩, ← row]
      exact Std.ExtTreeMap.getElem?_insert_self
    · have kept : (snapshot.readers.insert id (Scheduler.evaluate cfg start s.tables id).2.2)[other]? =
          snapshot.readers[other]? := by
        rw [Std.ExtTreeMap.getElem?_insert, if_neg]
        rw [Std.LawfulEqCmp.compare_eq_iff_eq]
        exact Ne.symm same
      rw [viewed_of_turn pc views now same]
      show (snapshot.readers.insert id (Scheduler.evaluate cfg start s.tables id).2.2)[other]? = _
      rw [kept, rows]
      simp [same]
  · intro other known' done view member
    by_cases same : other = id
    · subst same
      exact fresh view member
    · rw [viewed_of_turn pc views now same] at member
      exact together other known' (by simpa [same] using done) view member

theorem viewed_grows {s : State} {start : SystemTime} {receiver : String} {rest : List String}
    {snapshot : SchedulerStats} (pc : s.pc = .evaluating start (receiver :: rest) snapshot)
    (views : String → List View) (now : SystemTime) (id : String) :
    views id <+: viewed s views (.scheduler now) id := by
  by_cases same : id = receiver
  · subst same
    unfold viewed
    simp only [pc]
    cases s.tables.latestStatus id with
    | none => exact List.prefix_refl _
    | some status =>
      simp only [Function.update_self]
      exact List.prefix_append _ _
  · rw [viewed_of_turn pc views now same]

theorem partial_start (views : String → List View) (start : SystemTime) :
    Partial cfg channels views start channels.ids (startSnapshot cfg) where
  settings := rfl
  suffix := List.suffix_refl _
  rows := by
    intro id
    rw [if_neg (fun both => both.2 both.1)]
    exact Std.ExtTreeMap.getElem?_empty
  together := fun _ known left => absurd known left

theorem Partial.pass {views : String → List View} {start : SystemTime} {snapshot : SchedulerStats}
    (complete : Partial cfg channels views start [] snapshot) :
    Pass cfg channels views snapshot views where
  settings := complete.settings
  rows := by
    intro id
    rw [complete.rows]
    simp
  past := fun id => List.prefix_refl _
  together := ⟨start, fun id known => complete.together id known List.not_mem_nil⟩

theorem getElem?_foldl_insert {V : Type} (f : String → V) (ids : List String) (rows : SensorMap V)
    (id : String) : (ids.foldl (fun rows id => rows.insert id (f id)) rows)[id]? =
      if id ∈ ids then some (f id) else rows[id]? := by
  induction ids generalizing rows with
  | nil => simp
  | cons first rest ih =>
    rw [List.foldl_cons, ih]
    by_cases later : id ∈ rest
    · simp [later]
    · by_cases same : id = first
      · subst same
        simp [later]
      · have other : compare first id ≠ .eq := by
          rw [Ne, Std.LawfulEqCmp.compare_eq_iff_eq]
          exact Ne.symm same
        rw [if_neg later, Std.ExtTreeMap.getElem?_insert, if_neg other]
        simp [later, same]

/-- The counts of the last row are those of the passes. -/
theorem Accounts.finalRow {s : State} {views : List View} {id : String}
    (accounts : Accounts cfg s views id) (now : SystemTime) :
    FinalRow cfg views (lastRow cfg now s.tables id) := by
  unfold lastRow
  cases latest : s.tables.latestStatus id with
  | none =>
    rw [accounts.unseen latest]
    exact ⟨rfl, rfl, rfl, rfl⟩
  | some status => exact ⟨rfl, accounts.warned, accounts.alarmed, rfl⟩

theorem Publishes.turns {w : Watched} (publishes : Publishes cfg channels w)
    (accounts : ∀ id ∈ channels.ids, Accounts cfg w.state (w.views id) id) {now : SystemTime}
    {t : State} (turns : Turns cfg channels w.state now t) :
    Publishes cfg channels ⟨t, viewed w.state w.views (.scheduler now), w.reports⟩ := by
  unfold Publishes at publishes
  cases turns with
  | enter pc | leave pc | wake pc | close id rest pc | closed pc =>
    rw [viewed_of_ne (by simp [pc])]
    simp only [pc] at publishes
    exact publishes
  | receive status rest pc queue =>
    rw [viewed_of_ne (by rcases pc with pc | pc <;> simp [pc])]
    rcases pc with pc | pc
    · simp only [pc] at publishes
      simp only [Publishes, pc]
      exact publishes
    · simp only [pc] at publishes
      simp only [Publishes, pc]
      exact publishes
  | begin_ pc queue =>
    rw [viewed_of_ne (by simp [pc])]
    simp only [pc] at publishes
    exact ⟨publishes.shown, partial_start _ now⟩
  | evaluate start id rest snapshot pc =>
    simp only [pc] at publishes
    obtain ⟨shown, begun⟩ := publishes
    have known : id ∈ channels.ids := begun.suffix.subset List.mem_cons_self
    have kept : (w.state.sendIf id (Scheduler.evaluate cfg start w.state.tables id).2.1).sharedStats =
        w.state.sharedStats := by
      cases (Scheduler.evaluate cfg start w.state.tables id).2.1 <;> rfl
    refine ⟨?_, begun.turned (accounts id known) now pc⟩
    show Shown cfg channels _ (State.sendIf _ _ _).sharedStats
    rw [kept]
    exact shown.mono (viewed_grows pc w.views now)
  | publish start snapshot pc =>
    rw [viewed_of_ne (by simp [pc])]
    simp only [pc] at publishes
    exact Or.inr publishes.2.pass
  | finish pc queue =>
    rw [viewed_of_ne (by simp [pc])]
    intro id known
    refine ⟨lastRow cfg now w.state.tables id, ?_, (accounts id known).finalRow now⟩
    show (channels.ids.foldl _ (∅ : SensorMap _))[id]? = _
    rw [getElem?_foldl_insert, if_pos known]

theorem reachable_publishes {w : Watched}
    (reach : (watching cfg governorCfg channels).Reachable w) : Publishes cfg channels w := by
  apply System.ReachesUnder.invariant reach (Publishes cfg channels)
  · exact Or.inl ⟨rfl, fun _ _ => rfl⟩
  · intro u move v before held _ step
    obtain ⟨t, moves, eq⟩ := Option.bind_eq_some_iff.mp step
    obtain rfl := Option.some.inj eq
    by_cases own : ∃ now, move = .scheduler now
    · obtain ⟨now, rfl⟩ := own
      exact held.turns (fun id known => reachable_accounts before known) (schedulerStep_turns moves)
    · have other (now : SystemTime) : move ≠ .scheduler now := fun same => own ⟨now, same⟩
      obtain ⟨pc, -, -⟩ := step_own moves other
      obtain ⟨shared, -⟩ := step_others moves other
      unfold Publishes at held ⊢
      rw [viewed_of_other other, pc, shared]
      exact held

/-- The scheduler is in its loop, between two passes. -/
def Between : SchedulerPc → Prop
  | .testing | .receiving | .sleeping => True
  | .evaluating _ _ _ | .closing _ | .lastReceiving | .finished => False

theorem rowOf_lastCommand (cfg : SchedulerConfig) (views : List View) :
    (rowOf cfg views).lastCommand = demand cfg views := by
  unfold rowOf demand
  cases views.getLast? <;> rfl

/-- The last command sent is what the last pass has asked for. -/
theorem Accounts.lastSent {s : State} {views : List View} {id : String}
    (accounts : Accounts cfg s views id) (between : Between s.pc) :
    (s.sent id).getLast?.getD .automatic = demand cfg views := by
  have notYet : NotYet s.pc id := by
    cases pc : s.pc <;> simp_all [Between, NotYet]
  rw [accounts.sent notYet, getLast?_destutter, getLast?_demands]

/-- In every run the rows published are those of one complete pass, all taken at one time. Between
two passes they are those of the last one and name the command sent last to each reader, and when
the scheduler has ended each reader has a row, whose command is `ShutdownDrain`. -/
theorem rows_tell_commands {w : Watched}
    (reach : (watching cfg governorCfg channels).Reachable w) :
    (w.state.pc ≠ .finished → Shown cfg channels w.views w.state.sharedStats) ∧
      (Between w.state.pc → ∀ id row, w.state.sharedStats.readers[id]? = some row →
        id ∈ channels.ids ∧ row = rowOf cfg (w.views id) ∧
          (w.state.sent id).getLast?.getD .automatic = row.lastCommand) ∧
      (w.state.pc = .finished → ∀ id ∈ channels.ids, ∃ row,
        w.state.sharedStats.readers[id]? = some row ∧ FinalRow cfg (w.views id) row ∧
          (w.state.sent id).getLast? = some row.lastCommand) := by
  have publishes := reachable_publishes reach
  unfold Publishes at publishes
  refine ⟨?_, ?_, ?_⟩
  · intro running
    cases pc : w.state.pc with
    | finished => exact absurd pc running
    | evaluating start left snapshot =>
      simp only [pc] at publishes
      exact publishes.1
    | testing | receiving | sleeping | closing ids | lastReceiving =>
      simp only [pc] at publishes
      exact publishes.shown
  · intro between id row found
    have current : Current cfg channels w.views w.state.sharedStats := by
      cases pc : w.state.pc <;> simp_all [Between]
    rcases current with ⟨fresh, -⟩ | pass
    · rw [fresh] at found
      have none : (∅ : SensorMap SchedulerReaderSnapshot)[id]? = none := Std.ExtTreeMap.getElem?_empty
      exact absurd (none.symm.trans found).symm (Option.some_ne_none row)
    · rw [pass.rows] at found
      obtain ⟨known, eq⟩ := Option.ite_none_right_eq_some.mp found
      obtain rfl := Option.some.inj eq
      refine ⟨known, rfl, ?_⟩
      rw [rowOf_lastCommand]
      exact (reachable_accounts reach known).lastSent between
  · intro ended id known
    simp only [ended] at publishes
    obtain ⟨row, found, final⟩ := publishes id known
    refine ⟨row, found, final, ?_⟩
    rw [(reachable_accounts reach known).drained (by rw [ended]; exact fun bad => bad),
      List.getLast?_concat, final.lastCommand]

/-- The one reader reports a backlog; a pass answers it, publishes its rows and sleeps. -/
def answered : List Move := backlog ++ [.scheduler 0]

theorem commands_follow_demands_backlog :
    ∃ w : Watched, w.state.sent "force-1" = [.forceFastRecovery] ∧
      (w.views "force-1").length = 1 ∧
      w.state.sent "force-1" =
        (demands .default (w.views "force-1")).destutter (· ≠ ·) := by
  refine ⟨((watching .default (fun _ => .default) oneReader).run answered).get (by decide), by decide,
    by decide, ?_⟩
  exact (commands_follow_demands (System.reachable_of_run (Option.some_get _).symm) "force-1"
    List.mem_cons_self).2.1 trivial

theorem rows_tell_commands_backlog :
    ∃ w : Watched, w.state.pc = .sleeping ∧ ∀ id row,
      w.state.sharedStats.readers[id]? = some row →
        id ∈ oneReader.ids ∧ row = rowOf .default (w.views id) ∧
          (w.state.sent id).getLast?.getD .automatic = row.lastCommand := by
  refine ⟨((watching .default (fun _ => .default) oneReader).run answered).get (by decide), by rfl, ?_⟩
  exact (rows_tell_commands (System.reachable_of_run (Option.some_get _).symm)).2.1 trivial

end SensorGateway.Polling.Escalation

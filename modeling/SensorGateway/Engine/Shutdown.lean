import SensorGateway.Lib.Tally
import SensorGateway.Engine.Steps

/-! `AggregationEngine::shutdown` joins the dispatcher and the workers while it holds the receiving end
of the output channel. It gets stuck in one way only: the dispatcher waits for room on that channel. -/

namespace SensorGateway.Engine.Shutdown
open SensorGateway.Types SensorGateway.Lib.Transition SensorGateway.Lib.Tally Reduce Threads Steps
variable {F : Type}

/-- The caller waits for a thread that has not finished. -/
def Joining {W : Nat} (s : State F W) : Prop :=
  match s.caller with
  | .joinDispatcher => dispatcherDone s = false
  | .joinWorker i => (s.worker i).gone = false
  | _ => False

instance {W : Nat} (s : State F W) : Decidable (Joining s) := by
  unfold Joining
  split <;> infer_instance

/-- The caller is in `shutdown`, or has returned from it. -/
def inShutdown {W : Nat} : Caller W → Bool
  | .active => false
  | .gone => false
  | _ => true

def atSend {W : Nat} : Dispatcher F W → Bool
  | .sendFrame _ _ => true
  | _ => false

section Engine
variable [F64 F] (cfg : AggregationConfig F) (hash : String → Nat)

/-- No engine thread has a step: each has finished or is blocked on a channel. -/
def Blocked (s : State F cfg.workers) : Prop :=
  (∀ go now, dispatcherStep cfg hash s go now = none) ∧ ∀ i, workerStep cfg s i = none

/-- The caller joins a thread while every engine thread has finished or stays blocked for good. -/
def Deadlocked (started : SystemTime) (s : State F cfg.workers) : Prop :=
  Joining s ∧ ∀ t, (engine cfg hash started).Reaches s t → Blocked cfg hash t

def Full (s : State F cfg.workers) : Prop := cfg.outputCapacity ≤ s.frames.length

instance (s : State F cfg.workers) : Decidable (Full cfg s) :=
  inferInstanceAs (Decidable (cfg.outputCapacity ≤ s.frames.length))

/-- The next report makes the window complete. -/
def lastReport (s : State F cfg.workers) : Bool :=
  match s.dispatcher with
  | .collect _ senders _ => decide (cfg.workers ≤ senders.length + 1) && !s.reports.isEmpty
  | _ => false

/-- No window is complete while the output channel is full and `shutdown` has been called. -/
def Roomy (s : State F cfg.workers) : Action F cfg.workers → Prop
  | .shutdown => ¬(Full cfg s ∧ atSend s.dispatcher = true)
  | .dispatcher true _ => ¬(Full cfg s ∧ inShutdown s.caller = true ∧ lastReport cfg s = true)
  | _ => True

instance (s : State F cfg.workers) (action : Action F cfg.workers) : Decidable (Roomy cfg s action) := by
  unfold Roomy
  split <;> infer_instance

/-- A send to the worker would block. -/
def InboxFull (s : State F cfg.workers) (i : Fin cfg.workers) : Prop :=
  (s.worker i).gone = false ∧ cfg.workerInboxCapacity ≤ (s.inbox i).length

instance (s : State F cfg.workers) (i : Fin cfg.workers) : Decidable (InboxFull cfg s i) :=
  inferInstanceAs (Decidable (_ ∧ _))

/-- Where the dispatcher can be without a step, and when. -/
def DispatcherWaits (s : State F cfg.workers) : Prop :=
  match s.dispatcher with
  | .route r => InboxFull cfg s (home cfg hash r.sensorId)
  | .rotate _ i => InboxFull cfg s i
  | .closing i => InboxFull cfg s i
  | .sendFrame _ _ => ¬(s.caller = .gone ∨ s.caller = .done) ∧ Full cfg s
  | .finished => True
  | _ => False

instance (s : State F cfg.workers) : Decidable (DispatcherWaits cfg hash s) := by
  unfold DispatcherWaits
  split <;> infer_instance

def WorkerWaits (s : State F cfg.workers) (i : Fin cfg.workers) : Prop :=
  match (s.worker i).pc with
  | .checkFlag => False
  | .receive => s.inbox i = [] ∧ dispatcherDone s = false
  | .report _ => dispatcherDone s = false ∧ cfg.workers * 2 ≤ s.reports.length
  | .finished => True

instance (s : State F cfg.workers) (i : Fin cfg.workers) : Decidable (WorkerWaits cfg s i) := by
  unfold WorkerWaits
  split <;> infer_instance

variable {cfg hash}

omit [F64 F] in
theorem sendTo_none_iff {s sent failed : State F cfg.workers} {i : Fin cfg.workers}
    {msg : WorkerMsg F} : sendTo cfg s i msg sent failed = none ↔ InboxFull cfg s i := by
  unfold sendTo InboxFull
  cases gone : (s.worker i).gone with
  | true => simp
  | false => simp

theorem dispatcherWaits_iff {s : State F cfg.workers} :
    (∀ go now, dispatcherStep cfg hash s go now = none) ↔ DispatcherWaits cfg hash s := by
  unfold dispatcherStep DispatcherWaits
  cases at_pc : s.dispatcher with
  | drainedLen =>
    simp only [iff_false, not_forall]
    refine ⟨false, 0, ?_⟩
    split
    · split <;> exact Option.some_ne_none _
    · exact Option.some_ne_none _
  | route r => simp [sendTo_none_iff]
  | rotate e i => simp [sendTo_none_iff]
  | closing i => simp [sendTo_none_iff]
  | pop =>
    simp only [iff_false, not_forall]
    exact ⟨false, 0, Option.some_ne_none _⟩
  | expiry =>
    simp only [iff_false, not_forall]
    exact ⟨false, 0, Option.some_ne_none _⟩
  | collect e senders merged =>
    simp only [iff_false, not_forall]
    cases head : s.reports with
    | nil => exact ⟨false, 0, Option.some_ne_none _⟩
    | cons first rest => exact ⟨true, 0, Option.some_ne_none _⟩
  | sendFrame e frame =>
    simp only [Full]
    by_cases closed : s.caller = .gone ∨ s.caller = .done
    · simp [closed]
    · by_cases room : s.frames.length < cfg.outputCapacity
      · simp only [if_neg closed, if_pos room]
        constructor
        · intro none
          have step := none false 0
          split at step <;> cases step
        · intro ready
          obtain ⟨-, full⟩ := ready
          omega
      · simp only [if_neg closed, if_neg room]
        exact ⟨fun _ => ⟨closed, by omega⟩, fun _ _ _ => trivial⟩
  | _ => simp

theorem workerWaits_iff {s : State F cfg.workers} {i : Fin cfg.workers} :
    workerStep cfg s i = none ↔ WorkerWaits cfg s i := by
  unfold workerStep WorkerWaits
  cases at_pc : (s.worker i).pc with
  | checkFlag => cases shut : s.shutdown <;> simp [at_pc]
  | receive =>
    cases head : s.inbox i with
    | nil => cases done : dispatcherDone s <;> simp [at_pc]
    | cons msg rest => cases msg <;> simp [at_pc]
  | report rep => cases done : dispatcherDone s <;> simp [at_pc]
  | finished => simp [at_pc]

/-- While the engine is blocked only the source buffer moves, so the caller joins for ever. -/
theorem blocked_step {started : SystemTime} {s next : State F cfg.workers}
    {action : Action F cfg.workers} (held : Joining s ∧ Blocked cfg hash s)
    (moved : (engine cfg hash started).step s action = some next) :
    Joining next ∧ Blocked cfg hash next := by
  obtain ⟨joining, dispatcher, workers⟩ := held
  have waits := dispatcherWaits_iff.mp dispatcher
  have idle : ∀ i, WorkerWaits cfg s i := fun i => workerWaits_iff.mp (workers i)
  cases action with
  | produce r =>
    change (if s.sourceShut then none else some _) = some next at moved
    rw [Option.ite_none_left_eq_some, Option.some.injEq] at moved
    obtain ⟨_, rfl⟩ := moved
    exact ⟨joining, dispatcherWaits_iff.mpr waits, fun i => workerWaits_iff.mpr (idle i)⟩
  | closeSource =>
    change some _ = some next at moved
    rw [Option.some.injEq] at moved
    subst moved
    exact ⟨joining, dispatcherWaits_iff.mpr waits, fun i => workerWaits_iff.mpr (idle i)⟩
  | dispatcher go now =>
    change dispatcherStep cfg hash s go now = some next at moved
    rw [dispatcher] at moved
    cases moved
  | worker i =>
    change workerStep cfg s i = some next at moved
    rw [workers] at moved
    cases moved
  | recvFrame | shutdown | drop =>
    cases caller : s.caller <;> simp [engine, step, Joining, caller] at moved joining
  | join =>
    cases caller : s.caller <;> simp_all [engine, step, joinStep, Joining]

theorem deadlocked_of_blocked (started : SystemTime) {s : State F cfg.workers} (joining : Joining s)
    (blocked : Blocked cfg hash s) : Deadlocked cfg hash started s := by
  refine ⟨joining, fun t reach => ?_⟩
  have held := System.Reaches.invariant reach (fun t => Joining t ∧ Blocked cfg hash t)
    ⟨joining, blocked⟩ (fun _ _ _ held moved => blocked_step held moved)
  exact held.2

end Engine

section Reports

def isRotate : WorkerMsg F → Bool
  | .rotate => true
  | _ => false

def rotations (inbox : List (WorkerMsg F)) : Nat := inbox.countP isRotate

def reporting (w : Worker F) : Nat :=
  match w.pc with
  | .report _ => 1
  | _ => 0

/-- The reports still to be asked for, those about to be sent and those on the channel. -/
def owed {W : Nat} (inbox : Fin W → List (WorkerMsg F)) (worker : Fin W → Worker F) (sent : Nat) : Nat :=
  tally rotations inbox + tally reporting worker + sent

def outstanding {W : Nat} (s : State F W) : Nat := owed s.inbox s.worker s.reports.length

/-- How many reports can be outstanding where the dispatcher is. -/
def budget {W : Nat} : Dispatcher F W → Nat
  | .rotate _ i => i.val
  | .collect _ senders _ => W - senders.length
  | .fail => W
  | .closing _ => W
  | .finished => W
  | _ => 0

theorem budget_le {W : Nat} (d : Dispatcher F W) : budget d ≤ W := by
  cases d with
  | rotate e i => exact Nat.le_of_lt i.isLt
  | collect e senders merged => exact Nat.sub_le _ _
  | fail | closing | finished => exact Nat.le_refl W
  | _ => exact Nat.zero_le W

theorem rotations_append (inbox : List (WorkerMsg F)) (msg : WorkerMsg F) :
    rotations (inbox ++ [msg]) = rotations inbox + if isRotate msg then 1 else 0 := by
  rw [rotations, List.countP_append, List.countP_singleton, rotations]

variable {W : Nat}

theorem owed_inbox (inbox : Fin W → List (WorkerMsg F)) (worker : Fin W → Worker F) (sent : Nat)
    (i : Fin W) (box : List (WorkerMsg F)) :
    owed (Function.update inbox i box) worker sent + rotations (inbox i) =
      owed inbox worker sent + rotations box := by
  have moved := tally_update rotations inbox i box
  unfold owed
  omega

theorem owed_worker (inbox : Fin W → List (WorkerMsg F)) (worker : Fin W → Worker F) (sent : Nat)
    (i : Fin W) (w : Worker F) :
    owed inbox (Function.update worker i w) sent + reporting (worker i) =
      owed inbox worker sent + reporting w := by
  have moved := tally_update reporting worker i w
  unfold owed
  omega

/-- A message other than `Rotate` adds nothing, a `Rotate` one report. -/
theorem owed_sent (s : State F W) (i : Fin W) (msg : WorkerMsg F) :
    owed (Function.update s.inbox i (s.inbox i ++ [msg])) s.worker s.reports.length =
      outstanding s + if isRotate msg then 1 else 0 := by
  have moved := owed_inbox s.inbox s.worker s.reports.length i (s.inbox i ++ [msg])
  rw [rotations_append] at moved
  unfold outstanding
  omega

theorem outstanding_leaveLoop (s : State F W) (i : Fin W) :
    outstanding (leaveLoop s i) ≤ outstanding s := by
  have inbox := owed_inbox s.inbox s.worker s.reports.length i []
  have worker := owed_worker (Function.update s.inbox i []) s.worker s.reports.length i
    { s.worker i with pc := .finished }
  have empty : rotations ([] : List (WorkerMsg F)) = 0 := rfl
  have gone : reporting ({ s.worker i with pc := .finished } : Worker F) = 0 := rfl
  show owed (Function.update s.inbox i []) (Function.update s.worker i _) s.reports.length ≤
    owed s.inbox s.worker s.reports.length
  omega

/-- A worker that takes a message owes as much as before. -/
theorem outstanding_took (s : State F W) (i : Fin W) (w : Worker F) {msg : WorkerMsg F}
    {rest : List (WorkerMsg F)} (head : s.inbox i = msg :: rest)
    (at_pc : (s.worker i).pc = .receive) (owes : reporting w = if isRotate msg then 1 else 0) :
    outstanding { setWorker s i w with inbox := Function.update s.inbox i rest } = outstanding s := by
  have inbox := owed_inbox s.inbox s.worker s.reports.length i rest
  have worker := owed_worker (Function.update s.inbox i rest) s.worker s.reports.length i w
  have before : reporting (s.worker i) = 0 := by rw [reporting, at_pc]
  have counted : rotations (s.inbox i) = rotations rest + if isRotate msg then 1 else 0 := by
    rw [head, rotations, List.countP_cons, rotations]
  show owed (Function.update s.inbox i rest) (Function.update s.worker i w) s.reports.length =
    owed s.inbox s.worker s.reports.length
  omega

theorem outstanding_reported (s : State F W) (i : Fin W) {rep : WindowReport F}
    (at_pc : (s.worker i).pc = .report rep) :
    outstanding { setWorker s i { s.worker i with pc := .checkFlag } with
      reports := s.reports ++ [(i, rep)] } = outstanding s := by
  have worker := owed_worker s.inbox s.worker s.reports.length i { s.worker i with pc := .checkFlag }
  have before : reporting (s.worker i) = 1 := by rw [reporting, at_pc]
  have after : reporting ({ s.worker i with pc := .checkFlag } : Worker F) = 0 := rfl
  have more : ∀ inbox worker, owed (F := F) (W := W) inbox worker (s.reports ++ [(i, rep)]).length =
      owed inbox worker s.reports.length + 1 := by
    intro inbox worker
    rw [List.length_append]
    rfl
  show owed s.inbox (Function.update s.worker i _) (s.reports ++ [(i, rep)]).length =
    owed s.inbox s.worker s.reports.length
  rw [more]
  omega

theorem outstanding_collected (s : State F W) {first : Fin W × WindowReport F}
    {rest : List (Fin W × WindowReport F)} (head : s.reports = first :: rest) :
    owed s.inbox s.worker rest.length + 1 = outstanding s := by
  simp only [outstanding, owed, head, List.length_cons]
  omega

section Steps
variable [F64 F] {cfg : AggregationConfig F} {hash : String → Nat}

omit [F64 F] in
theorem budget_afterClosing (i : Fin cfg.workers) :
    budget (afterWorker i (Dispatcher.closing (F := F)) .finished) = cfg.workers :=
  afterWorker_cases (motive := fun pc => budget pc = cfg.workers) (fun _ _ => rfl) (fun _ => rfl)

omit [F64 F] in
theorem budget_afterRotate (e : Emission) (i : Fin cfg.workers) :
    budget (afterWorker i (Dispatcher.rotate (F := F) e) (.collect e [] (∅, []))) = i.val + 1 := by
  apply afterWorker_cases (motive := fun pc => budget pc = i.val + 1)
  · intro j follows
    exact follows
  · intro last
    exact last.symm

theorem outstanding_step {s next : State F cfg.workers} {action : Action F cfg.workers}
    (bounded : outstanding s ≤ budget s.dispatcher) (moved : Moves cfg hash s action next) :
    outstanding next ≤ budget next.dispatcher := by
  cases moved with
  | exitFlag go now at_pc | exitShut go now at_pc | exitLen go now at_pc | drainedShut go now at_pc
  | drainedFinal go now at_pc | drainedStop go now at_pc | drainedMore go now at_pc
  | popSome now r rest at_pc | popNone now at_pc | routeFailed go now r at_pc | expired now at_pc
  | unexpired now at_pc | sendFailed go now e frame at_pc | sentFinal go now e frame at_pc
  | sent go now e frame at_pc =>
    rw [at_pc] at bounded
    exact bounded.trans (Nat.zero_le _)
  | routed go now r at_pc alive room =>
    rw [at_pc] at bounded
    exact (owed_sent s _ _).trans_le bounded
  | rotated go now e i at_pc alive room =>
    rw [at_pc] at bounded
    have asked := owed_sent s i .rotate
    show owed _ s.worker s.reports.length ≤ budget (afterWorker i _ _)
    rw [budget_afterRotate, asked]
    exact Nat.succ_le_succ bounded
  | rotateFailed go now e i at_pc gone => exact bounded.trans (budget_le _)
  | collected now e senders merged i rep rest at_pc head more =>
    rw [at_pc] at bounded
    have fewer := outstanding_collected s head
    show owed s.inbox s.worker rest.length ≤ cfg.workers - (senders ++ [i]).length
    rw [List.length_append, List.length_singleton]
    change outstanding s ≤ cfg.workers - senders.length at bounded
    omega
  | completed now e senders merged i rep rest at_pc head last =>
    rw [at_pc] at bounded
    have fewer := outstanding_collected s head
    show owed s.inbox s.worker rest.length ≤ 0
    change outstanding s ≤ cfg.workers - senders.length at bounded
    omega
  | collectFailed now e senders merged at_pc none => exact bounded.trans (budget_le _)
  | failed go now at_pc => exact bounded.trans (budget_le _)
  | closed go now i at_pc alive room =>
    show owed _ s.worker s.reports.length ≤ budget (afterWorker i _ _)
    rw [budget_afterClosing]
    exact (owed_sent s i .shutdown).trans_le (bounded.trans (budget_le _))
  | closedGone go now i at_pc gone =>
    show outstanding s ≤ budget (afterWorker i _ _)
    rw [budget_afterClosing]
    exact bounded.trans (budget_le _)
  | flagged i | dismissed i | orphaned i | unheard i =>
    exact (outstanding_leaveLoop s i).trans bounded
  | unflagged i at_pc shut =>
    have same := owed_worker s.inbox s.worker s.reports.length i { s.worker i with pc := .receive }
    have before : reporting (s.worker i) = 0 := by rw [reporting, at_pc]
    rw [before] at same
    exact same.trans_le bounded
  | data i r rest at_pc head => exact (outstanding_took s i _ head at_pc rfl).trans_le bounded
  | rotate i rest at_pc head => exact (outstanding_took s i _ head at_pc rfl).trans_le bounded
  | reported i rep at_pc going room => exact (outstanding_reported s i at_pc).trans_le bounded
  | produce | closeSource | recvFrame | shutdown | drop | joinedDispatcher | joinedWorker =>
    exact bounded

/-- The report channel never fills up, whatever becomes of the workers. -/
theorem reports_fit {started : SystemTime} {s : State F cfg.workers}
    (reach : (engine cfg hash started).Reachable s) : s.reports.length < cfg.workers * 2 := by
  have bounded : outstanding s ≤ budget s.dispatcher := by
    apply System.Reaches.invariant reach (fun s => outstanding s ≤ budget s.dispatcher)
    · have none : tally rotations (fun _ : Fin cfg.workers => ([] : List (WorkerMsg F))) = 0 :=
        tally_eq_zero.mpr (fun _ => rfl)
      have idle : tally reporting
          (fun _ : Fin cfg.workers => (⟨.checkFlag, WindowReport.empty⟩ : Worker F)) = 0 :=
        tally_eq_zero.mpr (fun _ => rfl)
      show tally rotations (fun _ => []) + tally reporting (fun _ => ⟨.checkFlag, WindowReport.empty⟩) +
        0 ≤ 0
      rw [none, idle]
    · exact fun u action v bounded moved => outstanding_step bounded (step_moves cfg hash moved)
  have total := bounded.trans (budget_le _)
  have positive := cfg.workersPositive
  unfold outstanding owed at total
  omega

end Steps

end Reports

section Progress
variable [F64 F] {cfg : AggregationConfig F} {hash : String → Nat} {s : State F cfg.workers}

omit [F64 F] in
/-- A worker that cannot move has gone or has emptied its inbox. -/
theorem worker_idle (fit : s.reports.length < cfg.workers * 2) {i : Fin cfg.workers}
    (waits : WorkerWaits cfg s i) :
    (s.worker i).gone = true ∨ s.inbox i = [] ∧ dispatcherDone s = false := by
  unfold WorkerWaits at waits
  cases at_pc : (s.worker i).pc with
  | checkFlag =>
    rw [at_pc] at waits
    exact waits.elim
  | receive =>
    rw [at_pc] at waits
    exact Or.inr waits
  | report rep =>
    rw [at_pc] at waits
    have full := waits.2
    omega
  | finished => exact Or.inl (by rw [Worker.gone, at_pc])

omit [F64 F] in
theorem not_inboxFull {i : Fin cfg.workers}
    (idle : (s.worker i).gone = true ∨ s.inbox i = [] ∧ dispatcherDone s = false) :
    ¬InboxFull cfg s i := by
  intro ready
  obtain ⟨alive, full⟩ := ready
  obtain gone | ⟨empty, _⟩ := idle
  · rw [alive] at gone
    cases gone
  · have positive := cfg.inboxPositive
    rw [empty, List.length_nil] at full
    omega

/-- Once the workers cannot move, only a full output channel can hold the dispatcher up. -/
theorem progress (fit : s.reports.length < cfg.workers * 2) (joining : Joining s)
    (room : atSend s.dispatcher = true → ¬Full cfg s) : ¬Blocked cfg hash s := by
  intro blocked
  obtain ⟨dispatcher, workers⟩ := blocked
  have idle := fun i => worker_idle fit (workerWaits_iff.mp (workers i))
  have waits := dispatcherWaits_iff.mp dispatcher
  have done : dispatcherDone s = true := by
    unfold DispatcherWaits at waits
    cases at_pc : s.dispatcher with
    | route r =>
      rw [at_pc] at waits
      exact absurd waits (not_inboxFull (idle _))
    | rotate e i =>
      rw [at_pc] at waits
      exact absurd waits (not_inboxFull (idle i))
    | closing i =>
      rw [at_pc] at waits
      exact absurd waits (not_inboxFull (idle i))
    | sendFrame e frame =>
      rw [at_pc] at waits room
      exact absurd waits.2 (room rfl)
    | finished => rw [dispatcherDone, at_pc]
    | _ =>
      rw [at_pc] at waits
      exact waits.elim
  have gone : ∀ i, (s.worker i).gone = true := by
    intro i
    obtain gone | ⟨_, going⟩ := idle i
    · exact gone
    · rw [done] at going
      cases going
  unfold Joining at joining
  cases caller : s.caller with
  | joinDispatcher =>
    rw [caller] at joining
    simp [done] at joining
  | joinWorker i =>
    rw [caller] at joining
    simp [gone i] at joining
  | _ =>
    rw [caller] at joining
    exact joining

/-- While `shutdown` waits, a frame that is to be sent has room. -/
def Clear (s : State F cfg.workers) : Prop :=
  inShutdown s.caller = true → atSend s.dispatcher = true → ¬Full cfg s

theorem clear_step {next : State F cfg.workers} {action : Action F cfg.workers} (clear : Clear s)
    (roomy : Roomy cfg s action) (moved : Moves cfg hash s action next) : Clear next := by
  cases moved with
  | completed now e senders merged i rep rest at_pc head last =>
    intro within _ full
    have complete : lastReport cfg s = true := by
      have enough : cfg.workers ≤ senders.length + 1 := Nat.le_of_not_lt last
      simp [lastReport, at_pc, enough, head]
    exact roomy ⟨full, within, complete⟩
  | shutdown active => exact fun _ sending full => roomy ⟨full, sending⟩
  | recvFrame frame rest active head =>
    intro within
    rw [active] at within
    cases within
  | drop active =>
    intro within
    cases within
  | joinedDispatcher waits done | joinedWorker i waits gone =>
    exact fun _ => clear (by rw [waits]; rfl)
  | exitFlag | exitShut | exitLen | drainedShut =>
    intro _ sending
    dsimp only at sending
    split at sending <;> cases sending
  | rotated go now e i | closed go now i | closedGone go now i =>
    intro _ sending
    dsimp only at sending
    unfold afterWorker at sending
    split at sending <;> cases sending
  | drainedFinal | drainedStop | drainedMore | popSome | popNone | routed | routeFailed | expired
  | unexpired | rotateFailed | collected | collectFailed | sendFailed | sentFinal | sent | failed =>
    intro _ sending
    cases sending
  | _ => exact clear

/-- **Shutdown never deadlocks**, as long as no window becomes complete while the output channel is
full and the caller is in `shutdown`. -/
theorem never_deadlocks (cfg : AggregationConfig F) (hash : String → Nat) {started : SystemTime}
    {s : State F cfg.workers} (reach : (engine cfg hash started).ReachableUnder (Roomy cfg) s) :
    ¬Deadlocked cfg hash started s := by
  intro deadlocked
  obtain ⟨joining, blocked⟩ := deadlocked
  have clear : Clear s := by
    apply System.ReachesUnder.invariant reach Clear
    · intro _ sending
      cases sending
    · exact fun u action v _ clear roomy moved =>
        clear_step clear roomy (step_moves cfg hash moved)
  have within : inShutdown s.caller = true := by
    unfold Joining at joining
    cases caller : s.caller with
    | active | gone =>
      rw [caller] at joining
      exact joining.elim
    | _ => rfl
  exact progress (reports_fit reach.reaches) joining (clear within)
    (blocked s (System.ReachesUnder.refl s))

/-- The dispatcher waits for room that nobody can make. -/
def Wedged (s : State F cfg.workers) : Prop :=
  s.caller = .joinDispatcher ∧ atSend s.dispatcher = true ∧ Full cfg s

theorem wedged_step {next : State F cfg.workers} {action : Action F cfg.workers} (wedged : Wedged s)
    (moved : Moves cfg hash s action next) : Wedged next := by
  obtain ⟨waits, sending, full⟩ := wedged
  cases moved with
  | sendFailed go now e frame at_pc closed => simp [waits] at closed
  | sentFinal go now e frame at_pc room final | sent go now e frame at_pc room final =>
    exact absurd full (Nat.not_le_of_lt room)
  | recvFrame frame rest active | shutdown active | drop active =>
    rw [waits] at active
    cases active
  | joinedDispatcher _ done =>
    cases at_pc : s.dispatcher <;> simp [atSend, dispatcherDone, at_pc] at sending done
  | joinedWorker i waits' gone =>
    rw [waits] at waits'
    cases waits'
  | flagged | unflagged | data | rotate | dismissed | orphaned | unheard | reported | produce
  | closeSource => exact ⟨waits, sending, full⟩
  | _ =>
    rw [‹s.dispatcher = _›] at sending
    cases sending

/-- `shutdown` joins the dispatcher before anything else. -/
theorem joins_dispatcher_first {started : SystemTime}
    (reach : (engine cfg hash started).Reachable s) (within : inShutdown s.caller = true) :
    s.caller = .joinDispatcher ∨ dispatcherDone s = true := by
  revert within
  apply System.Reaches.invariant reach
    (fun s => inShutdown s.caller = true → s.caller = .joinDispatcher ∨ dispatcherDone s = true)
  · intro within
    cases within
  · intro u action v before moved within
    cases step_moves cfg hash moved with
    | joinedDispatcher waits done => exact Or.inr done
    | joinedWorker i waits gone =>
      obtain first | done := before (by rw [waits]; rfl)
      · rw [waits] at first
        cases first
      · exact Or.inr done
    | shutdown active => exact Or.inl rfl
    | drop active => cases within
    | flagged | unflagged | data | rotate | dismissed | orphaned | unheard | reported | produce
    | closeSource | recvFrame => exact before within
    | _ =>
      obtain first | done := before within
      · exact Or.inl first
      · rw [dispatcherDone, ‹u.dispatcher = _›] at done
        cases done

/-- A step that breaks the condition makes `shutdown` wait for ever. -/
theorem unroomy_hangs {started : SystemTime} (reach : (engine cfg hash started).Reachable s)
    {action : Action F cfg.workers} {next t : State F cfg.workers} (unroomy : ¬Roomy cfg s action)
    (moved : (engine cfg hash started).step s action = some next)
    (later : (engine cfg hash started).Reaches next t) :
    t.caller = .joinDispatcher ∧ dispatcherDone t = false := by
  have wedged : Wedged next := by
    cases action with
    | shutdown =>
      obtain ⟨full, sending⟩ := not_not.mp unroomy
      cases step_moves cfg hash moved with
      | shutdown active => exact ⟨rfl, sending, full⟩
    | dispatcher go now =>
      cases go with
      | false => exact absurd trivial unroomy
      | true =>
        obtain ⟨full, within, last⟩ := not_not.mp unroomy
        have first := joins_dispatcher_first reach within
        cases at_pc : s.dispatcher with
        | collect e senders merged =>
          simp only [lastReport, at_pc, Bool.and_eq_true, decide_eq_true_eq] at last
          rw [dispatcherDone, at_pc] at first
          cases step_moves cfg hash moved with
          | collected _ _ senders' _ _ _ _ at_pc' _ more =>
            rw [at_pc, Dispatcher.collect.injEq] at at_pc'
            obtain ⟨_, rfl, _⟩ := at_pc'
            have enough := last.1
            omega
          | completed => exact ⟨first.resolve_right Bool.false_ne_true, rfl, full⟩
          | _ => simp_all
        | _ =>
          rw [lastReport, at_pc] at last
          cases last
    | _ => exact absurd trivial unroomy
  obtain ⟨waits, sending, _⟩ := System.Reaches.invariant later Wedged wedged
    (fun _ _ _ wedged moved => wedged_step wedged (step_moves cfg hash moved))
  refine ⟨waits, ?_⟩
  cases at_pc : t.dispatcher <;> simp [atSend, dispatcherDone, at_pc] at sending ⊢

end Progress

section Runs

def oneWorker : AggregationConfig Int where
  workers := 1
  workerInboxCapacity := 1
  outputCapacity := 1
  detection := ⟨4, 20⟩
  workersPositive := Nat.one_pos
  inboxPositive := Nat.one_pos
  outputPositive := Nat.one_pos

/-- An empty window that expires, up to its frame. -/
def window : List (Action Int 1) :=
  let go : Action Int 1 := .dispatcher true 5
  [go, go, .dispatcher false 5, go, go] ++ List.replicate 3 (.worker oneWorker.first) ++ [go]

/-- A caller that has not received the first frame calls `shutdown` when the second is made. -/
def unread : List (Action Int 1) :=
  window ++ [.dispatcher true 5] ++ window ++ [.shutdown, .worker oneWorker.first]

/-- It calls `shutdown` while the dispatcher waits for a reading, and the first frame is still unread. -/
def timely : List (Action Int 1) :=
  window ++ List.replicate 3 (.dispatcher true 5) ++ [.shutdown, .worker oneWorker.first]

set_option maxRecDepth 8000 in
theorem never_deadlocks_timely :
    ∃ s : State Int oneWorker.workers, (engine oneWorker String.length 0).ReachableUnder (Roomy oneWorker) s ∧
      Joining s ∧ Full oneWorker s ∧ ¬Deadlocked oneWorker String.length 0 s := by
  let sys := (engine oneWorker String.length 0).guarded (Roomy oneWorker)
  let s := (sys.run timely).get (by decide)
  have reach : (engine oneWorker String.length 0).ReachableUnder (Roomy oneWorker) s :=
    System.reachableUnder_of_guarded (System.reachable_of_run (Option.some_get _).symm)
  exact ⟨s, reach, by decide, by decide, never_deadlocks oneWorker String.length reach⟩

set_option maxRecDepth 8000 in
/-- The caller receives no frame any more, and its own `shutdown` never returns. -/
theorem shutdown_deadlocks :
    ∃ s : State Int oneWorker.workers, (engine oneWorker String.length 0).Reachable s ∧
      Deadlocked oneWorker String.length 0 s := by
  let s := ((engine oneWorker String.length 0).run unread).get (by decide)
  have reach : (engine oneWorker String.length 0).Reachable s :=
    System.reachable_of_run (Option.some_get _).symm
  have blocked : Blocked oneWorker String.length s :=
    ⟨dispatcherWaits_iff.mpr (by decide), fun i => workerWaits_iff.mpr (by revert i; decide)⟩
  exact ⟨s, reach, deadlocked_of_blocked 0 (by decide) blocked⟩

end Runs

end SensorGateway.Engine.Shutdown

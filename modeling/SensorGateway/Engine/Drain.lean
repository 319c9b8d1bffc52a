import SensorGateway.Engine.Exactness
import SensorGateway.Engine.Shutdown

/-! What the engine leaves behind when it is shut down after its source. The dispatcher goes on until
the source is empty, but its flag test comes before the test that publishes the last window, and the
workers test the flag on their own. -/

namespace SensorGateway.Engine.Drain
open SensorGateway.Types SensorGateway.Lib.Transition Reduce Threads Steps Window Accounting Exactness
open Shutdown
variable {F : Type}

def atCollect {W : Nat} : Dispatcher F W → Bool
  | .collect _ _ _ => true
  | _ => false

def atExitLen {W : Nat} : Dispatcher F W → Bool
  | .exitLen => true
  | _ => false

def atCheckFlag (w : Worker F) : Bool :=
  match w.pc with
  | .checkFlag => true
  | _ => false

instance {W : Nat} (d : Dispatcher F W) : Decidable (InLoop d) := by
  unfold InLoop
  split <;> infer_instance

/-- The source is shut down before the engine, the output channel stays open, and a report is late only
if it will never come. -/
def Orderly {W : Nat} (s : State F W) : Action F W → Prop
  | .shutdown => s.sourceShut = true
  | .drop => False
  | .dispatcher false _ => atCollect s.dispatcher = true →
      ∀ i, (s.worker i).gone = true ∨ rotations (s.inbox i) = 0 ∧ reporting (s.worker i) = 0
  | _ => True

/-- The window holds nothing the worker has not reported. -/
def Spent {W : Nat} (s : State F W) (i : Fin W) : Prop := s.window = [] ∨ i ∈ reporters s

/-- Neither the dispatcher nor a worker follows the flag while it has work to do. -/
def Patient {W : Nat} (s : State F W) : Action F W → Prop
  | .dispatcher _ _ => atExitLen s.dispatcher = true → s.queue = [] → s.sawData = false
  | .worker i => atCheckFlag (s.worker i) = true → s.shutdown = true → InLoop s.dispatcher →
      s.queue = [] ∧ Spent s i
  | _ => True

instance {W : Nat} (s : State F W) (i : Fin W) : Decidable (Spent s i) :=
  inferInstanceAs (Decidable (_ ∨ _))

instance {W : Nat} (s : State F W) (action : Action F W) : Decidable (Orderly s action) := by
  unfold Orderly
  split <;> infer_instance

instance {W : Nat} (s : State F W) (action : Action F W) : Decidable (Patient s action) := by
  unfold Patient
  split <;> infer_instance

/-- No reading will come any more. -/
def Exhausted {W : Nat} (s : State F W) : Prop := s.sourceShut = true ∧ s.queue = []

/-- What the dispatcher has seen of the flag and of the source where it is. -/
def Seen {W : Nat} (s : State F W) : Prop :=
  match s.dispatcher with
  | .exitShut => s.shutdown = true
  | .exitLen => s.shutdown = true
  | .drainedLen => s.sourceShut = true
  | .rotate e _ => e.final = true → Exhausted s
  | .collect e _ _ => e.final = true → Exhausted s
  | .sendFrame e _ => e.final = true → Exhausted s
  | _ => True

/-- Until the loop ends nothing that is still needed has gone, and then nothing is left. -/
structure Draining {W : Nat} (s : State F W) : Prop where
  flag : InLoop s.dispatcher → s.shutdown = true → s.sourceShut = true
  seen : Seen s
  gone : InLoop s.dispatcher → ∀ i, (s.worker i).gone = true → Exhausted s ∧ Spent s i
  unclosed : s.caller ≠ .gone
  ended : ¬InLoop s.dispatcher → Exhausted s ∧ s.window = []

section Steps
variable [F64 F] {cfg : AggregationConfig F} {hash : String → Nat} {s next : State F cfg.workers}
  {action : Action F cfg.workers}

theorem exhausted_step (exhausted : Exhausted s) (moved : Moves cfg hash s action next) :
    Exhausted next := by
  obtain ⟨shut, empty⟩ := exhausted
  cases moved with
  | popSome now r rest at_pc head =>
    rw [empty] at head
    cases head
  | produce r isOpen =>
    rw [shut] at isOpen
    cases isOpen
  | closeSource => exact ⟨rfl, empty⟩
  | _ => exact ⟨shut, empty⟩

theorem flag_step (draining : Draining s) (orderly : Orderly s action)
    (moved : Moves cfg hash s action next) (inLoop : InLoop next.dispatcher)
    (set : next.shutdown = true) : next.sourceShut = true := by
  have before := draining.flag (inLoop_of_moves moved inLoop)
  cases moved with
  | shutdown => exact orderly
  | failed => exact inLoop.elim
  | closeSource => rfl
  | _ => exact before set

omit [F64 F] in
theorem seen_of_same (seen : Seen s) (same : next.dispatcher = s.dispatcher)
    (flag : s.shutdown = true → next.shutdown = true)
    (shut : s.sourceShut = true → next.sourceShut = true)
    (exhausted : Exhausted s → Exhausted next) : Seen next := by
  unfold Seen at seen ⊢
  rw [same]
  cases at_pc : s.dispatcher with
  | exitShut | exitLen =>
    rw [at_pc] at seen
    exact flag seen
  | drainedLen =>
    rw [at_pc] at seen
    exact shut seen
  | rotate | collect | sendFrame =>
    rw [at_pc] at seen
    exact fun final => exhausted (seen final)
  | _ => trivial

omit [F64 F] in
/-- A branch of the dispatcher is seen with what it has tested. -/
theorem seen_ite {W : Nat} {s : State F W} {test : Prop} [Decidable test] {yes no : Dispatcher F W}
    (passed : test → Seen { s with dispatcher := yes })
    (missed : ¬test → Seen { s with dispatcher := no }) :
    Seen { s with dispatcher := if test then yes else no } :=
  iteInduction (motive := fun pc => Seen { s with dispatcher := pc }) passed missed

theorem seen_step (draining : Draining s) (moved : Moves cfg hash s action next) : Seen next := by
  have seen := draining.seen
  have exhausted := fun held : Exhausted s => exhausted_step held moved
  cases moved with
  | exitFlag go now at_pc => exact seen_ite (fun set => set) (fun _ => trivial)
  | exitShut go now at_pc =>
    rw [Seen, at_pc] at seen
    exact seen_ite (fun _ => seen) (fun _ => trivial)
  | exitLen go now at_pc => exact seen_ite (fun _ => trivial) (fun _ => trivial)
  | drainedShut go now at_pc => exact seen_ite (fun shut => shut) (fun _ => trivial)
  | drainedFinal go now at_pc empty saw =>
    rw [Seen, at_pc] at seen
    exact fun _ => ⟨seen, empty⟩
  | expired now at_pc => exact fun final => absurd final Bool.false_ne_true
  | rotated go now e i at_pc alive room =>
    rw [Seen, at_pc] at seen
    exact afterWorker_cases (motive := fun pc => Seen { s with dispatcher := pc }) (fun _ _ => seen)
      (fun _ => seen)
  | collected now e senders merged i rep rest at_pc head more
  | completed now e senders merged i rep rest at_pc head last =>
    rw [Seen, at_pc] at seen
    exact seen
  | closed go now i | closedGone go now i =>
    exact afterWorker_cases (motive := fun pc => Seen { s with dispatcher := pc }) (fun _ _ => trivial)
      (fun _ => trivial)
  | flagged | unflagged | data | rotate | dismissed | orphaned | unheard | reported | produce
  | recvFrame | drop | joinedDispatcher | joinedWorker =>
    exact seen_of_same seen rfl id id exhausted
  | closeSource => exact seen_of_same seen rfl id (fun _ => rfl) exhausted
  | shutdown => exact seen_of_same seen rfl (fun _ => rfl) id exhausted
  | _ => trivial

variable {delivered : List (ReadingEnvelope F)}

/-- Before the first `Rotate` nobody has reported, so only an empty window is spent. -/
theorem window_of_spent (live : Live cfg hash s delivered) (unrotated : Unrotated s.dispatcher)
    {i : Fin cfg.workers} (spent : Spent s i) : s.window = [] := by
  obtain empty | reporter := spent
  · exact empty
  · exact absurd (live.ordered i reporter) (unrotated.unordered i)

/-- A window that holds nothing a worker has not reported stays so once the source is exhausted. -/
theorem spent_step (live : Live cfg hash s delivered) (exhausted : Exhausted s)
    {i : Fin cfg.workers} (spent : Spent s i) (moved : Moves cfg hash s action next)
    (inLoop : InLoop next.dispatcher) : Spent next i := by
  cases moved with
  | exitFlag go now at_pc | exitShut go now at_pc | exitLen go now at_pc | drainedShut go now at_pc
  | drainedFinal go now at_pc | drainedMore go now at_pc | popNone now at_pc | routed go now r at_pc
  | expired now at_pc | unexpired now at_pc =>
    have empty : s.window = [] := window_of_spent live (at_pc ▸ trivial) spent
    exact Or.inl empty
  | popSome now r rest at_pc head =>
    rw [exhausted.2] at head
    cases head
  | sentFinal | sent => exact Or.inl rfl
  | rotated go now e j at_pc alive room =>
    obtain empty | reporter := spent
    · exact Or.inl empty
    · right
      rw [reporters, at_pc] at reporter
      show i ∈ merging (afterRotate e j) ++ s.reports.map Prod.fst
      rw [(merging_afterRotate e j).1]
      exact reporter
  | collected now e senders merged j rep rest at_pc head more =>
    obtain empty | reporter := spent
    · exact Or.inl empty
    · right
      rw [(next_report live at_pc head).1] at reporter
      exact reporter
  | completed now e senders merged j rep rest at_pc head last =>
    exact Or.inr (List.mem_append_left _ (List.mem_finRange i))
  | reported j rep at_pc going room =>
    obtain empty | reporter := spent
    · exact Or.inl empty
    · right
      rw [reporters, List.mem_append] at reporter
      show i ∈ merging s.dispatcher ++ (s.reports ++ [(j, rep)]).map Prod.fst
      rw [List.map_append, List.mem_append, List.mem_append]
      tauto
  | flagged | unflagged | data | rotate | dismissed | orphaned | unheard | produce | closeSource
  | recvFrame | shutdown | drop | joinedDispatcher | joinedWorker => exact spent
  | closed go now j => exact absurd inLoop (afterClosing_out j)
  | closedGone go now j => exact absurd inLoop (afterClosing_out j)
  | _ => exact inLoop.elim

omit [F64 F] in
theorem gone_of_setWorker {i j : Fin cfg.workers} {w : Worker F} (alive : w.gone = false)
    (gone : (Function.update s.worker j w i).gone = true) : (s.worker i).gone = true := by
  by_cases same : i = j
  · subst same
    rw [Function.update_self, alive] at gone
    cases gone
  · rwa [Function.update_of_ne same] at gone

/-- A worker leaves the loop of a draining engine by the flag only. -/
theorem gone_step (live : Live cfg hash s delivered) (draining : Draining s)
    (patient : Patient s action) (moved : Moves cfg hash s action next)
    (inLoop : InLoop next.dispatcher) (i : Fin cfg.workers) (gone : (next.worker i).gone = true) :
    Exhausted next ∧ Spent next i := by
  have inLoopBefore := inLoop_of_moves moved inLoop
  have kept : (s.worker i).gone = true → Exhausted next ∧ Spent next i := by
    intro before
    obtain ⟨exhausted, spent⟩ := draining.gone inLoopBefore i before
    exact ⟨exhausted_step exhausted moved, spent_step live exhausted spent moved inLoop⟩
  have notDone : dispatcherDone s = false := by
    cases at_pc : s.dispatcher with
    | finished =>
      rw [at_pc] at inLoopBefore
      exact inLoopBefore.elim
    | _ => rw [dispatcherDone, at_pc]
  cases moved with
  | flagged j at_pc shut =>
    by_cases same : i = j
    · subst same
      have shutAfter := draining.flag inLoopBefore shut
      obtain ⟨empty, spent⟩ := patient (by rw [atCheckFlag, at_pc]) shut inLoopBefore
      exact ⟨⟨shutAfter, empty⟩, spent⟩
    · apply kept
      rwa [leaveLoop, setWorker_worker, Function.update_of_ne same] at gone
  | dismissed j rest at_pc head =>
    by_cases same : i = j
    · subst same
      obtain ⟨stage, reached⟩ := exists_reached s i
      obtain left | held := live.holds i stage reached
      · exact kept left
      · exact absurd (head ▸ List.mem_cons_self) held.no_shutdown
    · apply kept
      rwa [leaveLoop, setWorker_worker, Function.update_of_ne same] at gone
  | orphaned j at_pc empty done | unheard j rep at_pc done =>
    rw [notDone] at done
    cases done
  | unflagged j at_pc shut => exact kept (gone_of_setWorker rfl gone)
  | data j r rest at_pc head => exact kept (gone_of_setWorker rfl gone)
  | rotate j rest at_pc head => exact kept (gone_of_setWorker rfl gone)
  | reported j rep at_pc going room => exact kept (gone_of_setWorker rfl gone)
  | _ => exact kept gone

/-- A worker that owes a report has the `Rotate` before it or is about to send. -/
theorem owes_of_rotating {d : Detection F} {report : WindowReport F} {w : Worker F}
    {inbox : List (WorkerMsg F)} (held : Holds d report .rotating w inbox) :
    rotations inbox ≠ 0 ∨ reporting w ≠ 0 := by
  cases held with
  | rotating pc own ahead listens adds =>
    left
    rw [rotations_append]
    exact Nat.succ_ne_zero _
  | reporting => exact Or.inr Nat.one_ne_zero

/-- A report that is late and yet not on its way is that of a worker that has gone. -/
theorem gone_of_late (live : Live cfg hash s delivered) {now : SystemTime}
    (orderly : Orderly s (.dispatcher false now)) {e : Emission} {senders : List (Fin cfg.workers)}
    {merged : SensorMap (SensorStats F) × List (AnomalyRecord F)}
    (at_pc : s.dispatcher = .collect e senders merged) (none : s.reports = []) :
    ∃ i, (s.worker i).gone = true ∧ i ∉ reporters s := by
  have gathered := live.gathered
  rw [at_pc] at gathered
  obtain ⟨i, missing⟩ := exists_not_mem_of_length gathered.2
  have silent : i ∉ reporters s := by
    rw [reporters, at_pc, none]
    simpa [merging] using missing
  refine ⟨i, ?_, silent⟩
  have collecting : atCollect s.dispatcher = true := by rw [at_pc]; rfl
  have late := orderly collecting i
  obtain gone | held := live.holds i .rotating ⟨at_pc ▸ trivial, silent⟩
  · exact gone
  · obtain gone | ⟨unasked, quiet⟩ := late
    · exact gone
    · obtain asked | busy := owes_of_rotating held
      · exact absurd unasked asked
      · exact absurd quiet busy

/-- When the loop ends, the source and the window are empty. -/
theorem loop_ends {started : SystemTime} (reach : (engine cfg hash started).Reachable s)
    (live : Live cfg hash s delivered) (draining : Draining s) (orderly : Orderly s action)
    (patient : Patient s action) (moved : Moves cfg hash s action next) (inLoop : InLoop s.dispatcher)
    (out : ¬InLoop next.dispatcher) : Exhausted s ∧ next.window = [] := by
  have seen := draining.seen
  have flag := draining.flag inLoop
  have whole := live.window
  have unseen : inHand s.dispatcher = [] → s.sawData = false → s.window = [] := by
    intro hand saw
    have nothing : delivered = [] := by
      by_contra some
      rw [live.saw.mpr some] at saw
      cases saw
    rw [whole, hand, nothing, List.append_nil]
  cases moved with
  | exitFlag go now at_pc =>
    exact (out (iteInduction (motive := InLoop) (fun _ => trivial) (fun _ => trivial))).elim
  | exitShut go now at_pc =>
    rw [Seen, at_pc] at seen
    dsimp only at out
    rw [if_pos (flag seen)] at out
    exact absurd trivial out
  | exitLen go now at_pc =>
    rw [Seen, at_pc] at seen
    dsimp only at out
    split at out
    · exact absurd trivial out
    · next few =>
      have empty : s.queue = [] := List.length_eq_zero_iff.mp (by omega)
      have saw := patient (by rw [at_pc]; rfl) empty
      exact ⟨⟨flag seen, empty⟩, unseen (by rw [at_pc]; rfl) saw⟩
  | drainedShut go now at_pc =>
    exact (out (iteInduction (motive := InLoop) (fun _ => trivial) (fun _ => trivial))).elim
  | drainedStop go now at_pc empty saw =>
    rw [Seen, at_pc] at seen
    exact ⟨⟨seen, empty⟩, unseen (by rw [at_pc]; rfl) saw⟩
  | routeFailed go now r at_pc gone =>
    obtain ⟨exhausted, spent⟩ := draining.gone inLoop _ gone
    have empty : s.window = [] := window_of_spent live (at_pc ▸ trivial) spent
    exact ⟨exhausted, empty⟩
  | rotateFailed go now e i at_pc gone =>
    obtain ⟨exhausted, empty | reporter⟩ := draining.gone inLoop i gone
    · exact ⟨exhausted, empty⟩
    · have before := live.ordered i reporter
      rw [at_pc] at before
      exact absurd before (lt_irrefl i)
  | collectFailed now e senders merged at_pc none =>
    obtain ⟨i, gone, silent⟩ := gone_of_late live orderly at_pc none
    obtain ⟨exhausted, spent⟩ := draining.gone inLoop i gone
    exact ⟨exhausted, spent.resolve_right silent⟩
  | sendFailed go now e frame at_pc closed =>
    exfalso
    obtain gone | done := closed
    · exact draining.unclosed gone
    · have first := joins_dispatcher_first reach (by rw [done]; rfl)
      rw [done, dispatcherDone, at_pc] at first
      simp at first
  | sentFinal go now e frame at_pc room final =>
    rw [Seen, at_pc] at seen
    exact ⟨seen final, rfl⟩
  | rotated go now e i =>
    exact (out (afterWorker_cases (motive := InLoop) (fun _ _ => trivial) (fun _ => trivial))).elim
  | failed go now at_pc | closed go now i at_pc | closedGone go now i at_pc =>
    rw [at_pc] at inLoop
    exact inLoop.elim
  | flagged | unflagged | data | rotate | dismissed | orphaned | unheard | reported | produce
  | closeSource | recvFrame | shutdown | drop | joinedDispatcher | joinedWorker =>
    exact absurd inLoop out
  | _ => exact absurd trivial out

theorem draining_step {started : SystemTime} (reach : (engine cfg hash started).Reachable s)
    (draining : Draining s) (orderly : Orderly s action) (patient : Patient s action)
    (moved : Moves cfg hash s action next) : Draining next := by
  have recorded := recorded_reachable reach
  constructor
  · exact flag_step draining orderly moved
  · exact seen_step draining moved
  · intro inLoop i gone
    obtain ⟨delivered, live⟩ := recorded.live (inLoop_of_moves moved inLoop)
    exact gone_step live draining patient moved inLoop i gone
  · cases moved with
    | drop => exact orderly.elim
    | shutdown | joinedDispatcher => simp
    | joinedWorker i =>
      exact afterWorker_cases (motive := fun caller => caller ≠ Caller.gone) (fun _ _ => by simp)
        (fun _ => by simp)
    | _ => exact draining.unclosed
  · intro out
    by_cases inLoop : InLoop s.dispatcher
    · obtain ⟨delivered, live⟩ := recorded.live inLoop
      obtain ⟨exhausted, empty⟩ := loop_ends reach live draining orderly patient moved inLoop out
      exact ⟨exhausted_step exhausted moved, empty⟩
    · obtain ⟨exhausted, empty⟩ := draining.ended inLoop
      refine ⟨exhausted_step exhausted moved, ?_⟩
      cases moved with
      | popSome now r rest at_pc head =>
        rw [at_pc] at inLoop
        exact absurd trivial inLoop
      | sentFinal | sent => rfl
      | _ => exact empty

/-- **Draining loses nothing**, as long as neither the dispatcher nor a worker follows the flag while it
has work to do: when the loop has ended, the source is empty, the readings popped are those of the
frames put on the output channel, in their order, and each frame is exact for its own. -/
theorem draining_loses_nothing (cfg : AggregationConfig F) (hash : String → Nat)
    {started : SystemTime} {s : State F cfg.workers}
    (reach : (engine cfg hash started).ReachableUnder
      (fun s action => Orderly s action ∧ Patient s action) s) (out : ¬InLoop s.dispatcher) :
    s.queue = [] ∧ s.popped = s.emitted.flatMap Prod.snd ∧
      ∀ (k : Nat) (frame : AggregatedFrame F) (readings : List (ReadingEnvelope F)),
        s.emitted[k]? = some (frame, readings) → Exact cfg.detection k readings frame := by
  have draining : Draining s := by
    apply System.ReachesUnder.invariant reach Draining
    · refine ⟨fun _ set => ?_, trivial, fun _ i gone => ?_, ?_, fun out => ?_⟩
      · cases set
      · cases gone
      · intro gone
        cases gone
      · exact absurd trivial out
    · intro u action v before draining ok moved
      exact draining_step before.reaches draining ok.1 ok.2 (step_moves cfg hash moved)
  have recorded := recorded_reachable reach.reaches
  obtain ⟨exhausted, empty⟩ := draining.ended out
  refine ⟨exhausted.2, ?_, recorded.exact⟩
  rw [recorded.popped, empty, List.append_nil]

/-! The condition leaves out nothing but the loss: a step that breaks it leaves a reading behind that no
frame will hold. -/

/-- A reading is in the source, or in a window that worker `i` has not reported while the dispatcher goes
on. -/
def Left {W : Nat} (s : State F W) (i : Fin W) : Prop :=
  s.queue ≠ [] ∨ s.window ≠ [] ∧ (InLoop s.dispatcher → i ∉ reporters s)

/-- Worker `i` has gone, if the dispatcher still needs it, and something is left. -/
def Stranded {W : Nat} (s : State F W) (i : Fin W) : Prop :=
  (InLoop s.dispatcher → (s.worker i).gone = true) ∧ Left s i

omit [F64 F] in
theorem Left.kept {i : Fin cfg.workers} (work : Left s i) (queue : next.queue = s.queue)
    (window : next.window = s.window) (inLoop : InLoop next.dispatcher → InLoop s.dispatcher)
    (heard : InLoop next.dispatcher → i ∈ reporters next → i ∈ reporters s) : Left next i := by
  rw [Left, queue, window]
  exact work.imp_right fun ⟨more, silent⟩ =>
    ⟨more, fun going reported => silent (inLoop going) (heard going reported)⟩

theorem gone_stays {i : Fin cfg.workers} (gone : (s.worker i).gone = true)
    (moved : Moves cfg hash s action next) : (next.worker i).gone = true := by
  have other : ∀ j w, (s.worker j).gone = false → (Function.update s.worker j w i).gone = true := by
    intro j w alive
    by_cases same : i = j
    · subst same
      rw [gone] at alive
      cases alive
    · rwa [Function.update_of_ne same]
  have leaves : ∀ j, ((leaveLoop s j).worker i).gone = true := by
    intro j
    rw [leaveLoop, setWorker_worker]
    by_cases same : i = j
    · subst same
      rw [Function.update_self]
      rfl
    · rwa [Function.update_of_ne same]
  cases moved with
  | flagged j | dismissed j | orphaned j | unheard j => exact leaves j
  | unflagged j at_pc | data j r rest at_pc | rotate j rest at_pc | reported j rep at_pc =>
    exact other j _ (by rw [Worker.gone, at_pc])
  | _ => exact gone

/-- What a worker that has gone leaves behind is never cleared away. -/
theorem left_step (live : InLoop s.dispatcher → ∃ delivered, Live cfg hash s delivered)
    {i : Fin cfg.workers} (stranded : Stranded s i) (moved : Moves cfg hash s action next) :
    Left next i := by
  obtain ⟨gone, work⟩ := stranded
  cases moved with
  | exitFlag go now at_pc | exitShut go now at_pc | exitLen go now at_pc | drainedShut go now at_pc =>
    refine work.kept rfl rfl (fun _ => at_pc ▸ trivial) ?_
    intro _ reported
    rw [reporters, at_pc]
    exact iteInduction (motive := fun pc => i ∈ merging pc ++ s.reports.map Prod.fst →
      i ∈ s.reports.map Prod.fst) (fun _ => id) (fun _ => id) reported
  | popSome now r rest at_pc head =>
    obtain ⟨delivered, live⟩ := live (at_pc ▸ trivial)
    have reports_none := live.no_reports (at_pc ▸ trivial)
    exact Or.inr ⟨by simp, fun _ => by simp [reporters, merging, reports_none]⟩
  | drainedFinal go now at_pc | drainedMore go now at_pc | popNone now at_pc | routed go now r at_pc
  | expired now at_pc | unexpired now at_pc =>
    refine work.kept rfl rfl (fun _ => at_pc ▸ trivial) ?_
    intro _ reported
    rw [reporters, at_pc]
    exact reported
  | rotated go now e j at_pc =>
    refine work.kept rfl rfl (fun _ => at_pc ▸ trivial) ?_
    intro _ reported
    change i ∈ merging (afterRotate e j) ++ s.reports.map Prod.fst at reported
    rw [(merging_afterRotate e j).1] at reported
    rw [reporters, at_pc]
    exact reported
  | collected now e senders merged j rep rest at_pc head more =>
    refine work.kept rfl rfl (fun _ => at_pc ▸ trivial) ?_
    intro _ reported
    obtain ⟨delivered, live⟩ := live (at_pc ▸ trivial)
    rw [(next_report live at_pc head).1]
    exact reported
  | completed now e senders merged j rep rest at_pc head last =>
    refine work.kept rfl rfl (fun _ => at_pc ▸ trivial) ?_
    intro _ _
    obtain ⟨delivered, live⟩ := live (at_pc ▸ trivial)
    rw [(next_report live at_pc head).1]
    exact List.mem_append_left _ (all_heard live at_pc head last i)
  | sentFinal go now e frame at_pc | sent go now e frame at_pc =>
    obtain ⟨delivered, live⟩ := live (at_pc ▸ trivial)
    obtain more | ⟨_, silent⟩ := work
    · exact Or.inl more
    · exact absurd ((all_reported live at_pc).2 i) (silent (at_pc ▸ trivial))
  | reported j rep at_pc going room =>
    refine work.kept rfl rfl id ?_
    intro inLoop reported
    change i ∈ merging s.dispatcher ++ (s.reports ++ [(j, rep)]).map Prod.fst at reported
    rw [List.map_append, ← List.append_assoc, List.mem_append] at reported
    obtain before | own := reported
    · exact before
    · obtain rfl : i = j := List.mem_singleton.mp own
      have absent := gone inLoop
      rw [Worker.gone, at_pc] at absent
      cases absent
  | produce r => exact Or.inl (by simp)
  | closed go now j | closedGone go now j =>
    refine work.kept rfl rfl ?_ ?_
    · exact fun inLoop => absurd inLoop (afterClosing_out j)
    · exact fun inLoop => absurd inLoop (afterClosing_out j)
  | flagged | unflagged | data | rotate | dismissed | orphaned | unheard | closeSource | recvFrame
  | shutdown | drop | joinedDispatcher | joinedWorker => exact work
  | _ =>
    refine work.kept rfl rfl ?_ ?_
    · exact fun inLoop => inLoop.elim
    · exact fun inLoop => inLoop.elim

/-- The dispatcher that follows the flag leaves a window behind. -/
theorem stranded_of_exit (recorded : Recorded hash s) {go : Bool} {now : SystemTime}
    (impatient : ¬Patient s (.dispatcher go now)) (moved : Moves cfg hash s (.dispatcher go now) next) :
    Stranded next cfg.first := by
  obtain ⟨at_exit, impatient⟩ := Classical.not_imp.mp impatient
  obtain ⟨empty, saw⟩ := Classical.not_imp.mp impatient
  cases at_pc : s.dispatcher with
  | exitLen =>
    obtain ⟨delivered, live⟩ := recorded.live (at_pc ▸ trivial)
    have more : s.window ≠ [] := by
      rw [live.window, at_pc]
      show delivered ++ [] ≠ []
      rw [List.append_nil]
      exact live.saw.mp (by simpa using saw)
    have few : ¬0 < s.queue.length := by simp [empty]
    cases moved with
    | exitLen =>
      rw [if_neg few]
      exact ⟨fun inLoop => inLoop.elim, Or.inr ⟨more, fun inLoop => inLoop.elim⟩⟩
    | _ => simp_all
  | _ =>
    rw [at_pc] at at_exit
    cases at_exit

/-- A worker that follows the flag leaves readings behind. -/
theorem stranded_of_flag {i : Fin cfg.workers} (impatient : ¬Patient s (.worker i))
    (moved : Moves cfg hash s (.worker i) next) : Stranded next i := by
  obtain ⟨at_check, impatient⟩ := Classical.not_imp.mp impatient
  obtain ⟨shut, impatient⟩ := Classical.not_imp.mp impatient
  obtain ⟨_, working⟩ := Classical.not_imp.mp impatient
  have work : Left s i := by
    by_cases empty : s.queue = []
    · have unspent : ¬Spent s i := fun spent => working ⟨empty, spent⟩
      obtain ⟨more, silent⟩ := not_or.mp unspent
      exact Or.inr ⟨more, fun _ => silent⟩
    · exact Or.inl empty
  cases moved with
  | flagged _ at_pc =>
    refine ⟨fun _ => ?_, work⟩
    rw [leaveLoop, setWorker_worker, Function.update_self]
    rfl
  | unflagged _ at_pc unset =>
    rw [shut] at unset
    cases unset
  | data _ _ _ at_pc | rotate _ _ at_pc | dismissed _ _ at_pc | orphaned _ at_pc | unheard _ _ at_pc
  | reported _ _ at_pc =>
    rw [atCheckFlag, at_pc] at at_check
    cases at_check

/-- After a step that breaks the condition a reading is in the source or in no frame for good. -/
theorem impatient_loses {started : SystemTime} (reach : (engine cfg hash started).Reachable s)
    (impatient : ¬Patient s action) (moved : (engine cfg hash started).step s action = some next)
    {t : State F cfg.workers} (later : (engine cfg hash started).Reaches next t) :
    t.queue ≠ [] ∨ t.popped ≠ t.emitted.flatMap Prod.snd := by
  have recorded := recorded_reachable reach
  have moves := step_moves cfg hash moved
  have stranded : ∃ i, Stranded next i := by
    cases action with
    | dispatcher go now => exact ⟨cfg.first, stranded_of_exit recorded impatient moves⟩
    | worker i => exact ⟨i, stranded_of_flag impatient moves⟩
    | _ => exact absurd trivial impatient
  obtain ⟨i, stranded⟩ := stranded
  have held := System.Reaches.invariant later (fun u => Recorded hash u ∧ Stranded u i)
    ⟨recorded_step recorded moves, stranded⟩ ?_
  · obtain ⟨recorded, _, work⟩ := held
    apply work.imp_right
    intro pending same
    rw [recorded.popped] at same
    exact pending.1 (by simpa using same)
  · intro u action v held moved
    obtain ⟨recorded, stranded⟩ := held
    have moves := step_moves cfg hash moved
    refine ⟨recorded_step recorded moves, fun inLoop => ?_, left_step recorded.live stranded moves⟩
    exact gone_stays (stranded.1 (inLoop_of_moves moves inLoop)) moves

end Steps

section Runs

/-- One reading is popped and counted, and the source is shut down. -/
def counted : List (Action Int 1) :=
  let go : Action Int 1 := .dispatcher true 5
  [.produce ⟨"a", 1, 7⟩, go, go, go, go, .closeSource] ++ List.replicate 2 (.worker oneWorker.first)

/-- The flag is set once the last window's report has been sent. -/
def flushed : List (Action Int 1) :=
  let go : Action Int 1 := .dispatcher true 5
  counted ++ [.dispatcher false 5, go, go, go, go] ++ List.replicate 3 (.worker oneWorker.first) ++
    [.shutdown, .worker oneWorker.first, go, go]

/-- The flag is set while the reading is in its worker's window. -/
def forgotten : List (Action Int 1) :=
  let go : Action Int 1 := .dispatcher true 5
  counted ++ [.shutdown, .dispatcher false 5, go, go, go]

set_option maxRecDepth 8000 in
theorem draining_loses_nothing_flushed :
    ∃ s : State Int oneWorker.workers, (engine oneWorker String.length 0).ReachableUnder
        (fun s action => Orderly s action ∧ Patient s action) s ∧
      ¬InLoop s.dispatcher ∧ s.shutdown = true ∧ s.emitted.length = 1 ∧ s.popped.length = 1 ∧
      s.queue = [] ∧ s.popped = s.emitted.flatMap Prod.snd := by
  let sys := (engine oneWorker String.length 0).guarded
    (fun s action => Orderly s action ∧ Patient s action)
  let s := (sys.run flushed).get (by decide)
  have reach : (engine oneWorker String.length 0).ReachableUnder
      (fun s action => Orderly s action ∧ Patient s action) s :=
    System.reachableUnder_of_guarded (System.reachable_of_run (Option.some_get _).symm)
  have out : ¬InLoop s.dispatcher := by decide
  have drained := draining_loses_nothing oneWorker String.length reach out
  exact ⟨s, reach, out, by decide, by decide, by decide, drained.1, drained.2.1⟩

set_option maxRecDepth 8000 in
/-- An orderly shutdown of an engine whose source is empty, and a reading that no frame holds. -/
theorem draining_loses_reading :
    ∃ s : State Int oneWorker.workers, (engine oneWorker String.length 0).ReachableUnder Orderly s ∧
      ¬InLoop s.dispatcher ∧ s.queue = [] ∧ s.emitted = [] ∧ s.popped ≠ s.emitted.flatMap Prod.snd := by
  let sys := (engine oneWorker String.length 0).guarded Orderly
  let s := (sys.run forgotten).get (by decide)
  have reach : (engine oneWorker String.length 0).ReachableUnder Orderly s :=
    System.reachableUnder_of_guarded (System.reachable_of_run (Option.some_get _).symm)
  have none : s.emitted = [] := List.length_eq_zero_iff.mp (by decide)
  have one : s.popped.length = 1 := by decide
  refine ⟨s, reach, by decide, by decide, none, ?_⟩
  intro same
  rw [same, none] at one
  cases one

end Runs

end SensorGateway.Engine.Drain

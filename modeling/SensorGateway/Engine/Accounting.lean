import SensorGateway.Engine.Window

/-! While the dispatcher is in its loop, every reading popped since the last frame is in one place: in
the dispatcher's hand, on its way to its worker, counted by it, reported or merged. -/

namespace SensorGateway.Engine.Accounting
open SensorGateway.Types SensorGateway.Lib.Transition Reduce Threads Steps Window
variable {F : Type}

/-- The reading popped and not yet sent to its worker. -/
def inHand {W : Nat} : Dispatcher F W → List (ReadingEnvelope F)
  | .route r => [r]
  | _ => []

/-- The workers whose reports for this window have been merged. -/
def merging {W : Nat} : Dispatcher F W → List (Fin W)
  | .collect _ senders _ => senders
  | .sendFrame _ _ => List.finRange W
  | _ => []

/-- The worker has been sent this window's `Rotate`. -/
def Ordered {W : Nat} : Dispatcher F W → Fin W → Prop
  | .rotate _ j, i => i < j
  | .collect _ _ _, _ => True
  | .sendFrame _ _, _ => True
  | _, _ => False

def InLoop {W : Nat} : Dispatcher F W → Prop
  | .fail => False
  | .closing _ => False
  | .finished => False
  | _ => True

/-- No worker has been sent this window's `Rotate`. -/
def Unrotated {W : Nat} : Dispatcher F W → Prop
  | .rotate _ j => j.val = 0
  | .collect _ _ _ => False
  | .sendFrame _ _ => False
  | _ => True

theorem Unrotated.merging {W : Nat} {d : Dispatcher F W} (unrotated : Unrotated d) :
    merging d = [] := by
  cases d with
  | collect e senders merged => exact unrotated.elim
  | sendFrame e frame => exact unrotated.elim
  | _ => rfl

theorem Unrotated.unordered {W : Nat} {d : Dispatcher F W} (unrotated : Unrotated d) (i : Fin W) :
    ¬Ordered d i := by
  cases d with
  | rotate e j =>
    intro before
    have less : i.val < j.val := before
    have first : j.val = 0 := unrotated
    omega
  | collect e senders merged => exact unrotated.elim
  | sendFrame e frame => exact unrotated.elim
  | _ => exact not_false

/-- The workers that have reported on this window. -/
def reporters {W : Nat} (s : State F W) : List (Fin W) :=
  merging s.dispatcher ++ s.reports.map Prod.fst

inductive Stage where
  | building
  | rotating
  | reported
  deriving DecidableEq

/-- How far the worker is with this window. -/
def Reached {W : Nat} (s : State F W) (i : Fin W) : Stage → Prop
  | .building => ¬Ordered s.dispatcher i
  | .rotating => Ordered s.dispatcher i ∧ i ∉ reporters s
  | .reported => i ∈ reporters s

theorem reached_iff {W : Nat} {s t : State F W} {i : Fin W}
    (order : Ordered t.dispatcher i ↔ Ordered s.dispatcher i)
    (reporter : i ∈ reporters t ↔ i ∈ reporters s) (stage : Stage) :
    Reached t i stage ↔ Reached s i stage := by
  cases stage with
  | building => exact not_congr order
  | rotating => exact and_congr order (not_congr reporter)
  | reported => exact reporter

def Listens : WorkerPc F → Prop
  | .checkFlag => True
  | .receive => True
  | _ => False

section Worker
variable [F64 F] (d : Detection F)

/-- A worker and its inbox hold what there is to report at this stage. -/
inductive Holds (goal : WindowReport F) : Stage → Worker F → List (WorkerMsg F) → Prop
  | building (pc own) (ahead : List (ReadingEnvelope F)) (listens : Listens pc)
      (adds : ahead.foldl (observe d) own = goal) : Holds goal .building ⟨pc, own⟩ (ahead.map .data)
  | rotating (pc own) (ahead : List (ReadingEnvelope F)) (listens : Listens pc)
      (adds : ahead.foldl (observe d) own = goal) :
      Holds goal .rotating ⟨pc, own⟩ (ahead.map .data ++ [.rotate])
  | reporting : Holds goal .rotating ⟨.report goal, WindowReport.empty⟩ []
  | reported (pc) (listens : Listens pc) : Holds goal .reported ⟨pc, WindowReport.empty⟩ []

variable {d} {goal : WindowReport F} {stage : Stage} {w : Worker F} {inbox rest : List (WorkerMsg F)}

theorem Holds.sent_data (held : Holds d goal .building w inbox) (r : ReadingEnvelope F) :
    Holds d (observe d goal r) .building w (inbox ++ [.data r]) := by
  cases held with
  | building pc own ahead listens adds =>
    have adds_more : (ahead ++ [r]).foldl (observe d) own = observe d goal r := by
      rw [List.foldl_append, adds]
      rfl
    have more := Holds.building pc own (ahead ++ [r]) listens adds_more
    rwa [List.map_append] at more

theorem Holds.sent_rotate (held : Holds d goal .building w inbox) :
    Holds d goal .rotating w (inbox ++ [.rotate]) := by
  cases held with
  | building pc own ahead listens adds => exact Holds.rotating pc own ahead listens adds

theorem Holds.next_window (held : Holds d goal .reported w inbox) :
    Holds d WindowReport.empty .building w inbox := by
  cases held with
  | reported pc listens => exact Holds.building pc WindowReport.empty [] listens rfl

theorem Holds.unflagged (held : Holds d goal stage w inbox) (at_pc : w.pc = .checkFlag) :
    Holds d goal stage { w with pc := .receive } inbox := by
  cases held with
  | building pc own ahead listens adds => exact Holds.building .receive own ahead trivial adds
  | rotating pc own ahead listens adds => exact Holds.rotating .receive own ahead trivial adds
  | reporting => cases at_pc
  | reported pc listens => exact Holds.reported .receive trivial

theorem Holds.data {r : ReadingEnvelope F} (held : Holds d goal stage w inbox)
    (head : inbox = .data r :: rest) : Holds d goal stage ⟨.checkFlag, observe d w.own r⟩ rest := by
  cases held with
  | building pc own ahead listens adds =>
    cases ahead with
    | nil => cases head
    | cons first ahead =>
      cases head
      exact Holds.building .checkFlag _ ahead trivial adds
  | rotating pc own ahead listens adds =>
    cases ahead with
    | nil => cases head
    | cons first ahead =>
      cases head
      exact Holds.rotating .checkFlag _ ahead trivial adds
  | reporting => cases head
  | reported pc listens => cases head

/-- A `Rotate` at the head is the last message, and the worker has counted everything. -/
theorem Holds.rotate (held : Holds d goal stage w inbox) (head : inbox = .rotate :: rest) :
    Holds d goal stage ⟨.report w.own, WindowReport.empty⟩ rest := by
  cases held with
  | building pc own ahead listens adds =>
    cases ahead with
    | nil => cases head
    | cons first ahead => cases head
  | rotating pc own ahead listens adds =>
    cases ahead with
    | nil =>
      cases head
      cases adds
      exact Holds.reporting
    | cons first ahead => cases head
  | reporting => cases head
  | reported pc listens => cases head

theorem Holds.report {rep : WindowReport F} (held : Holds d goal stage w inbox)
    (at_pc : w.pc = .report rep) :
    stage = .rotating ∧ rep = goal ∧ Holds d goal .reported { w with pc := .checkFlag } inbox := by
  cases held with
  | building pc own ahead listens adds =>
    subst at_pc
    exact listens.elim
  | rotating pc own ahead listens adds =>
    subst at_pc
    exact listens.elim
  | reporting =>
    cases at_pc
    exact ⟨rfl, rfl, Holds.reported .checkFlag trivial⟩
  | reported pc listens =>
    subst at_pc
    exact listens.elim

theorem Holds.no_shutdown (held : Holds d goal stage w inbox) : .shutdown ∉ inbox := by
  cases held <;> simp

end Worker

section Whole
variable [F64 F] (cfg : AggregationConfig F) (hash : String → Nat)

/-- What the coordinator has gathered of the window. -/
def Gathered (windowId : Nat) (delivered : List (ReadingEnvelope F)) :
    Dispatcher F cfg.workers → Prop
  | .collect _ senders merged =>
    Merged cfg hash delivered senders merged ∧ senders.length < cfg.workers
  | .sendFrame _ frame => Exact cfg.detection windowId delivered frame
  | _ => True

/-- The window's readings that have been sent to their workers are `delivered`, and none is missing. -/
structure Live (s : State F cfg.workers) (delivered : List (ReadingEnvelope F)) : Prop where
  window : s.window = delivered ++ inHand s.dispatcher
  distinct : (reporters s).Nodup
  ordered : ∀ i ∈ reporters s, Ordered s.dispatcher i
  content : ∀ i rep, (i, rep) ∈ s.reports → rep = goal cfg hash i delivered
  holds : ∀ i stage, Reached s i stage →
    (s.worker i).gone = true ∨
      Holds cfg.detection (goal cfg hash i delivered) stage (s.worker i) (s.inbox i)
  gathered : Gathered cfg hash s.windowId delivered s.dispatcher
  saw : s.sawData = true ↔ delivered ≠ []
  numbered : s.windowId = s.emitted.length

variable {cfg hash} {s : State F cfg.workers} {delivered : List (ReadingEnvelope F)}

theorem Unrotated.gathered {d : Dispatcher F cfg.workers} (unrotated : Unrotated d) (windowId : Nat) :
    Gathered cfg hash windowId delivered d := by
  cases d with
  | collect e senders merged => exact unrotated.elim
  | sendFrame e frame => exact unrotated.elim
  | _ => trivial

theorem Live.no_reports (live : Live cfg hash s delivered) (unrotated : Unrotated s.dispatcher) :
    s.reports = [] := by
  apply List.eq_nil_iff_forall_not_mem.mpr
  intro pair mem
  have reporter : pair.1 ∈ reporters s :=
    List.mem_append_right _ (List.mem_map_of_mem mem)
  exact unrotated.unordered _ (live.ordered _ reporter)

/-- What the window is accounted by does not see the rest of the state. -/
theorem Live.apart (live : Live cfg hash s delivered) (queue popped : List (ReadingEnvelope F))
    (sourceShut shutdown : Bool) (frames : List (AggregatedFrame F)) (caller : Caller cfg.workers) :
    Live cfg hash
      { s with
        queue := queue, popped := popped, sourceShut := sourceShut, shutdown := shutdown
        frames := frames, caller := caller } delivered :=
  ⟨live.window, live.distinct, live.ordered, live.content, live.holds, live.gathered, live.saw,
    live.numbered⟩

/-- The dispatcher moves on between two messages, or pops a reading. -/
theorem Live.turn (live : Live cfg hash s delivered) (before : Unrotated s.dispatcher)
    {after : Dispatcher F cfg.workers} (unrotated : Unrotated after)
    {window : List (ReadingEnvelope F)} (whole : window = delivered ++ inHand after) :
    Live cfg hash { s with dispatcher := after, window := window } delivered := by
  have reports_none := live.no_reports before
  have nobody : reporters { s with dispatcher := after, window := window } = [] := by
    simp only [reporters, unrotated.merging, reports_none, List.map_nil, List.append_nil]
  constructor
  · exact whole
  · rw [nobody]
    exact List.nodup_nil
  · rw [nobody]
    intro i mem
    cases mem
  · exact live.content
  · intro i stage reached
    cases stage with
    | building => exact live.holds i .building (before.unordered i)
    | rotating => exact absurd reached.1 (unrotated.unordered i)
    | reported =>
      rw [Reached, nobody] at reached
      cases reached
  · exact unrotated.gathered s.windowId
  · exact live.saw
  · exact live.numbered

theorem Live.goes_on (live : Live cfg hash s delivered) {before : Dispatcher F cfg.workers}
    (at_pc : s.dispatcher = before) (first : Unrotated before ∧ inHand before = [])
    (after : Dispatcher F cfg.workers) (second : Unrotated after ∧ inHand after = []) :
    Live cfg hash { s with dispatcher := after } delivered := by
  subst at_pc
  apply live.turn first.1 second.1
  rw [live.window, first.2, second.2]

/-- One worker goes on while the dispatcher and the report channel stay. -/
theorem Live.worked (live : Live cfg hash s delivered) (i : Fin cfg.workers)
    (worker : Fin cfg.workers → Worker F) (inbox : Fin cfg.workers → List (WorkerMsg F))
    (others : ∀ j, j ≠ i → worker j = s.worker j ∧ inbox j = s.inbox j)
    (mine : (worker i).gone = true ∨ (s.worker i).gone = false ∧
      ∀ report stage, Holds cfg.detection report stage (s.worker i) (s.inbox i) →
        Holds cfg.detection report stage (worker i) (inbox i)) :
    Live cfg hash { s with worker := worker, inbox := inbox } delivered := by
  refine ⟨live.window, live.distinct, live.ordered, live.content, ?_, live.gathered, live.saw,
    live.numbered⟩
  intro j stage reached
  have before := live.holds j stage reached
  by_cases same : j = i
  · subst same
    obtain gone | ⟨alive, keeps⟩ := mine
    · exact Or.inl gone
    · obtain gone | held := before
      · rw [alive] at gone
        cases gone
      · exact Or.inr (keeps _ _ held)
  · obtain ⟨sameWorker, sameInbox⟩ := others j same
    show (worker j).gone = true ∨ Holds _ _ _ (worker j) (inbox j)
    rw [sameWorker, sameInbox]
    exact before

theorem Live.left (live : Live cfg hash s delivered) (i : Fin cfg.workers) :
    Live cfg hash (leaveLoop s i) delivered := by
  apply live.worked i
  · intro j other
    exact ⟨Function.update_of_ne other _ _, Function.update_of_ne other _ _⟩
  · left
    rw [setWorker_worker, Function.update_self]
    rfl

theorem Live.unflagged (live : Live cfg hash s delivered) {i : Fin cfg.workers}
    (at_pc : (s.worker i).pc = .checkFlag) :
    Live cfg hash (setWorker s i { s.worker i with pc := .receive }) delivered := by
  apply live.worked i _ s.inbox
  · intro j other
    exact ⟨Function.update_of_ne other _ _, rfl⟩
  · right
    refine ⟨by simp [Worker.gone, at_pc], ?_⟩
    intro report stage held
    rw [Function.update_self]
    exact held.unflagged at_pc

/-- A worker takes a message from its inbox. -/
theorem Live.took (live : Live cfg hash s delivered) {i : Fin cfg.workers} {w : Worker F}
    {rest : List (WorkerMsg F)} (at_pc : (s.worker i).pc = .receive)
    (keeps : ∀ report stage, Holds cfg.detection report stage (s.worker i) (s.inbox i) →
      Holds cfg.detection report stage w rest) :
    Live cfg hash { setWorker s i w with inbox := Function.update s.inbox i rest } delivered := by
  apply live.worked i
  · intro j other
    exact ⟨Function.update_of_ne other _ _, Function.update_of_ne other _ _⟩
  · right
    refine ⟨by simp [Worker.gone, at_pc], ?_⟩
    intro report stage held
    rw [setWorker_worker, Function.update_self, Function.update_self]
    exact keeps report stage held

omit [F64 F] in
/-- The stage a worker is in, whatever it is. -/
theorem exists_reached (s : State F cfg.workers) (i : Fin cfg.workers) : ∃ stage, Reached s i stage := by
  by_cases reported : i ∈ reporters s
  · exact ⟨.reported, reported⟩
  · by_cases ordered : Ordered s.dispatcher i
    · exact ⟨.rotating, ordered, reported⟩
    · exact ⟨.building, ordered⟩

theorem Live.reported (live : Live cfg hash s delivered) {i : Fin cfg.workers} {rep : WindowReport F}
    (at_pc : (s.worker i).pc = .report rep) :
    Live cfg hash
      { setWorker s i { s.worker i with pc := .checkFlag } with reports := s.reports ++ [(i, rep)] }
      delivered := by
  obtain ⟨stage, reached⟩ := exists_reached s i
  have alive : (s.worker i).gone = false := by simp [Worker.gone, at_pc]
  have held := (live.holds i stage reached).resolve_left (by simp [alive])
  obtain ⟨rfl, same, after⟩ := held.report at_pc
  obtain ⟨isOrdered, fresh⟩ := reached
  have reporters_more : ∀ reports worker,
      reports = s.reports ++ [(i, rep)] →
      reporters { s with worker := worker, reports := reports } = reporters s ++ [i] := by
    rintro reports worker rfl
    simp [reporters]
  have more := reporters_more _ (Function.update s.worker i { s.worker i with pc := .checkFlag }) rfl
  constructor
  · exact live.window
  · show (reporters _).Nodup
    rw [setWorker, more, List.nodup_append]
    refine ⟨live.distinct, List.nodup_singleton i, ?_⟩
    intro j mem k single
    rw [List.mem_singleton.mp single]
    exact fun equal => fresh (equal ▸ mem)
  · intro j mem
    rw [setWorker, more, List.mem_append, List.mem_singleton] at mem
    obtain old | rfl := mem
    · exact live.ordered j old
    · exact isOrdered
  · intro j other mem
    obtain old | new := List.mem_append.mp mem
    · exact live.content j other old
    · cases List.mem_singleton.mp new
      exact same
  · intro j stage reached
    by_cases equal : j = i
    · subst equal
      right
      simp only [setWorker, Function.update_self]
      cases stage with
      | building => exact absurd isOrdered reached
      | rotating =>
        have mem : j ∈ reporters s ++ [j] := List.mem_append_right _ (List.mem_singleton_self j)
        rw [← more] at mem
        exact absurd mem reached.2
      | reported => exact after
    · simp only [setWorker, Function.update_of_ne equal]
      apply live.holds j stage
      refine (reached_iff ?_ ?_ stage).mp reached
      · exact Iff.rfl
      · rw [setWorker, more, List.mem_append, List.mem_singleton]
        exact or_iff_left equal
  · exact live.gathered
  · exact live.saw
  · exact live.numbered

/-- The reading is in its worker's inbox. -/
theorem Live.routed (live : Live cfg hash s delivered) {r : ReadingEnvelope F}
    (at_pc : s.dispatcher = .route r) :
    Live cfg hash
      { s with
        dispatcher := .expiry, sawData := true
        inbox := Function.update s.inbox (home cfg hash r.sensorId)
          (s.inbox (home cfg hash r.sensorId) ++ [.data r]) } (delivered ++ [r]) := by
  have unrotated : Unrotated s.dispatcher := at_pc ▸ trivial
  have reports_none := live.no_reports unrotated
  have whole := live.window
  rw [at_pc] at whole
  constructor
  · show s.window = delivered ++ [r] ++ []
    rw [whole, List.append_nil]
    rfl
  · simp [reporters, merging, reports_none]
  · simp [reporters, merging, reports_none]
  · simp [reports_none]
  · intro i stage reached
    cases stage with
    | building =>
      obtain gone | held := live.holds i .building (unrotated.unordered i)
      · exact Or.inl gone
      · right
        dsimp only
        rw [goal_append]
        by_cases mine : home cfg hash r.sensorId = i
        · subst mine
          rw [if_pos rfl, Function.update_self]
          exact held.sent_data r
        · rw [if_neg mine, Function.update_of_ne (Ne.symm mine)]
          exact held
    | rotating => exact reached.1.elim
    | reported => simp [Reached, reporters, merging, reports_none] at reached
  · trivial
  · simp
  · exact live.numbered

/-- The point after the `Rotate` to worker `i`. -/
def afterRotate (e : Emission) (i : Fin cfg.workers) : Dispatcher F cfg.workers :=
  afterWorker i (.rotate e) (.collect e [] (∅, []))

omit [F64 F] in
theorem ordered_afterRotate (e : Emission) (i j : Fin cfg.workers) :
    Ordered (afterRotate (F := F) e i) j ↔ j ≤ i := by
  apply afterWorker_cases (motive := fun pc => Ordered pc j ↔ j ≤ i)
  · intro next follows
    show j.val < next.val ↔ j.val ≤ i.val
    omega
  · intro last
    have small := j.isLt
    have bound : j.val ≤ i.val := by omega
    exact ⟨fun _ => bound, fun _ => trivial⟩

omit [F64 F] in
theorem merging_afterRotate (e : Emission) (i : Fin cfg.workers) :
    merging (afterRotate (F := F) e i) = [] ∧ inHand (afterRotate (F := F) e i) = [] :=
  afterWorker_cases (motive := fun pc => merging pc = [] ∧ inHand pc = []) (fun _ _ => ⟨rfl, rfl⟩)
    (fun _ => ⟨rfl, rfl⟩)

theorem gathered_afterRotate (e : Emission) (i : Fin cfg.workers) (windowId : Nat) :
    Gathered cfg hash windowId delivered (afterRotate e i) :=
  afterWorker_cases (motive := Gathered cfg hash windowId delivered) (fun _ _ => trivial)
    (fun _ => ⟨merged_nil cfg hash delivered, cfg.workersPositive⟩)

/-- `Rotate` is in the inbox of worker `i`. -/
theorem Live.rotated (live : Live cfg hash s delivered) {e : Emission} {i : Fin cfg.workers}
    (at_pc : s.dispatcher = .rotate e i) :
    Live cfg hash
      { s with
        dispatcher := afterRotate e i
        inbox := Function.update s.inbox i (s.inbox i ++ [.rotate]) } delivered := by
  have whole := live.window
  have same : reporters s = s.reports.map Prod.fst := by rw [reporters, at_pc]; rfl
  have after : ∀ inbox, reporters { s with dispatcher := afterRotate e i, inbox := inbox } =
      s.reports.map Prod.fst := by
    intro inbox
    rw [reporters, (merging_afterRotate e i).1]
    rfl
  have early : ∀ j, Ordered s.dispatcher j ↔ j < i := by rw [at_pc]; exact fun _ => Iff.rfl
  constructor
  · rw [at_pc] at whole
    dsimp only
    rw [(merging_afterRotate e i).2]
    exact whole
  · rw [after, ← same]
    exact live.distinct
  · intro j mem
    rw [after, ← same] at mem
    dsimp only
    rw [ordered_afterRotate]
    exact le_of_lt ((early j).mp (live.ordered j mem))
  · exact live.content
  · intro j stage reached
    by_cases mine : j = i
    · subst mine
      have unordered : ¬Ordered s.dispatcher j := fun ordered => lt_irrefl j ((early j).mp ordered)
      cases stage with
      | building => exact absurd ((ordered_afterRotate e j j).mpr (le_refl j)) reached
      | rotating =>
        obtain gone | held := live.holds j .building unordered
        · exact Or.inl gone
        · right
          dsimp only
          rw [Function.update_self]
          exact held.sent_rotate
      | reported =>
        rw [Reached, after, ← same] at reached
        exact absurd (live.ordered j reached) unordered
    · dsimp only
      rw [Function.update_of_ne mine]
      apply live.holds j stage
      have order : Ordered (afterRotate e i) j ↔ Ordered s.dispatcher j := by
        rw [ordered_afterRotate, early]
        exact ⟨fun le => lt_of_le_of_ne le mine, le_of_lt⟩
      refine (reached_iff order ?_ stage).mp reached
      rw [after, same]
  · exact gathered_afterRotate e i s.windowId
  · exact live.saw
  · exact live.numbered

end Whole

end SensorGateway.Engine.Accounting

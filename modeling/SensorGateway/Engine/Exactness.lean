import SensorGateway.Engine.Accounting

/-! Every frame is exact: it is what one sequential pass makes of the readings popped since the frame
before it, whatever the workers, the hash, the interleaving and the failures. -/

namespace SensorGateway.Engine.Exactness
open SensorGateway.Types SensorGateway.Lib.Transition Reduce Threads Steps Window Accounting
variable {F : Type} [F64 F] {cfg : AggregationConfig F} {hash : String → Nat}

section Collecting
variable {s : State F cfg.workers} {delivered : List (ReadingEnvelope F)}

/-- The report the coordinator takes next is the right one, of a worker it has not heard yet. -/
theorem next_report (live : Live cfg hash s delivered) {e : Emission}
    {senders : List (Fin cfg.workers)} {merged : SensorMap (SensorStats F) × List (AnomalyRecord F)}
    {i : Fin cfg.workers} {rep : WindowReport F} {rest : List (Fin cfg.workers × WindowReport F)}
    (at_pc : s.dispatcher = .collect e senders merged) (head : s.reports = (i, rep) :: rest) :
    reporters s = (senders ++ [i]) ++ rest.map Prod.fst ∧
      Merged cfg hash delivered (senders ++ [i]) (mergeReport merged rep) := by
  have named : reporters s = (senders ++ [i]) ++ rest.map Prod.fst := by
    simp [reporters, merging, at_pc, head]
  have gathered := live.gathered
  rw [at_pc] at gathered
  have distinct := live.distinct
  rw [named, List.append_assoc] at distinct
  have fresh : i ∉ senders := fun mem =>
    (List.nodup_append.mp distinct).2.2 i mem i List.mem_cons_self rfl
  have right_report : rep = goal cfg hash i delivered :=
    live.content i rep (head ▸ List.mem_cons_self)
  exact ⟨named, right_report ▸ gathered.1.report cfg hash fresh⟩

theorem live_collected (live : Live cfg hash s delivered) {e : Emission}
    {senders : List (Fin cfg.workers)} {merged : SensorMap (SensorStats F) × List (AnomalyRecord F)}
    {i : Fin cfg.workers} {rep : WindowReport F} {rest : List (Fin cfg.workers × WindowReport F)}
    (at_pc : s.dispatcher = .collect e senders merged) (head : s.reports = (i, rep) :: rest)
    (more : senders.length + 1 < cfg.workers) :
    Live cfg hash
      { s with reports := rest, dispatcher := .collect e (senders ++ [i]) (mergeReport merged rep) }
      delivered := by
  obtain ⟨named, gathered⟩ := next_report live at_pc head
  have whole := live.window
  rw [at_pc] at whole
  have ordered : ∀ j, Ordered s.dispatcher j := by rw [at_pc]; exact fun _ => trivial
  constructor
  · exact whole
  · show ((senders ++ [i]) ++ rest.map Prod.fst).Nodup
    rw [← named]
    exact live.distinct
  · exact fun _ _ => trivial
  · intro j other mem
    exact live.content j other (head ▸ List.mem_cons_of_mem _ mem)
  · intro j stage reached
    apply live.holds j stage
    refine (reached_iff ?_ ?_ stage).mp reached
    · exact iff_of_true trivial (ordered j)
    · rw [named]
      exact Iff.rfl
  · refine ⟨gathered, ?_⟩
    rw [List.length_append]
    exact more
  · exact live.saw
  · exact live.numbered

omit [F64 F] in
/-- With every worker named before, and each named once, there is no report left. -/
theorem reports_nil {W : Nat} {named : List (Fin W)} {reports : List (Fin W × WindowReport F)}
    (distinct : (named ++ reports.map Prod.fst).Nodup) (all : ∀ i, i ∈ named) : reports = [] := by
  apply List.eq_nil_iff_forall_not_mem.mpr
  intro pair mem
  exact (List.nodup_append.mp distinct).2.2 _ (all pair.1) _ (List.mem_map_of_mem mem) rfl

/-- With the last report the coordinator has heard everybody. -/
theorem all_heard (live : Live cfg hash s delivered) {e : Emission} {senders : List (Fin cfg.workers)}
    {merged : SensorMap (SensorStats F) × List (AnomalyRecord F)} {i : Fin cfg.workers}
    {rep : WindowReport F} {rest : List (Fin cfg.workers × WindowReport F)}
    (at_pc : s.dispatcher = .collect e senders merged) (head : s.reports = (i, rep) :: rest)
    (last : ¬senders.length + 1 < cfg.workers) (j : Fin cfg.workers) : j ∈ senders ++ [i] := by
  have distinct := live.distinct
  rw [(next_report live at_pc head).1] at distinct
  apply mem_of_nodup_of_length (List.nodup_append.mp distinct).1
  rw [List.length_append, List.length_singleton]
  omega

/-- The last report makes the frame. No other report is left on the channel. -/
theorem live_completed (live : Live cfg hash s delivered) {e : Emission}
    {senders : List (Fin cfg.workers)} {merged : SensorMap (SensorStats F) × List (AnomalyRecord F)}
    {i : Fin cfg.workers} {rep : WindowReport F} {rest : List (Fin cfg.workers × WindowReport F)}
    (at_pc : s.dispatcher = .collect e senders merged) (head : s.reports = (i, rep) :: rest)
    (last : ¬senders.length + 1 < cfg.workers) :
    Live cfg hash
      { s with
        reports := rest
        dispatcher := .sendFrame e ⟨s.windowId, s.windowStart, e.windowEnd,
          (mergeReport merged rep).1, (mergeReport merged rep).2⟩ } delivered := by
  obtain ⟨named, gathered⟩ := next_report live at_pc head
  have whole := live.window
  rw [at_pc] at whole
  have distinct := live.distinct
  rw [named] at distinct
  have all := all_heard live at_pc head last
  have rest_none : rest = [] := reports_nil distinct all
  subst rest_none
  constructor
  · exact whole
  · show (List.finRange cfg.workers ++ []).Nodup
    rw [List.append_nil]
    exact List.nodup_finRange cfg.workers
  · exact fun _ _ => trivial
  · intro j other mem
    cases mem
  · intro j stage reached
    cases stage with
    | building => exact absurd trivial reached
    | rotating => exact absurd (List.mem_append_left _ (List.mem_finRange j)) reached.2
    | reported =>
      apply live.holds j .reported
      rw [Reached, named]
      exact List.mem_append_left _ (all j)
  · exact gathered.exact cfg hash all s.windowId s.windowStart e.windowEnd
  · exact live.saw
  · exact live.numbered

/-- Once the frame is made, every worker has reported and started over. -/
theorem all_reported (live : Live cfg hash s delivered) {e : Emission} {frame : AggregatedFrame F}
    (at_pc : s.dispatcher = .sendFrame e frame) : s.reports = [] ∧ ∀ i, Reached s i .reported := by
  have named : reporters s = List.finRange cfg.workers ++ s.reports.map Prod.fst := by
    rw [reporters, at_pc]
    rfl
  have distinct := live.distinct
  rw [named] at distinct
  constructor
  · exact reports_nil distinct List.mem_finRange
  · intro i
    rw [Reached, named]
    exact List.mem_append_left _ (List.mem_finRange i)

/-- The frame is out, and the next window starts with nothing. -/
theorem live_sent (live : Live cfg hash s delivered) {e : Emission} {frame : AggregatedFrame F}
    (at_pc : s.dispatcher = .sendFrame e frame) (now : SystemTime) :
    Live cfg hash
      { putFrame cfg s frame with
        dispatcher := .exitFlag, windowId := s.windowId + 1, windowStart := now, sawData := false }
      [] := by
  obtain ⟨reports_none, everyone⟩ := all_reported live at_pc
  have nobody : reporters
      { putFrame cfg s frame with
        dispatcher := .exitFlag, windowId := s.windowId + 1, windowStart := now, sawData := false } =
      [] := by
    simp [reporters, merging, putFrame, reports_none]
  constructor
  · rfl
  · rw [nobody]
    exact List.nodup_nil
  · rw [nobody]
    intro i mem
    cases mem
  · intro i rep mem
    simp [putFrame, reports_none] at mem
  · intro i stage reached
    cases stage with
    | building =>
      obtain gone | held := live.holds i .reported (everyone i)
      · exact Or.inl gone
      · exact Or.inr held.next_window
    | rotating => exact reached.1.elim
    | reported =>
      rw [Reached, nobody] at reached
      cases reached
  · trivial
  · simp
  · simp [putFrame, live.numbered]

end Collecting

omit [F64 F] in
/-- The dispatcher never returns to its loop. -/
theorem afterClosing_out (i : Fin cfg.workers) :
    ¬InLoop (afterWorker i (Dispatcher.closing (F := F)) .finished) :=
  afterWorker_cases (motive := fun pc => ¬InLoop pc) (fun _ _ => not_false) (fun _ => not_false)

theorem inLoop_of_moves {s next : State F cfg.workers} {action : Action F cfg.workers}
    (moved : Moves cfg hash s action next) (inLoop : InLoop next.dispatcher) : InLoop s.dispatcher := by
  cases moved with
  | failed go now at_pc => exact inLoop.elim
  | closed go now i at_pc alive room => exact absurd inLoop (afterClosing_out i)
  | closedGone go now i at_pc gone => exact absurd inLoop (afterClosing_out i)
  | flagged | unflagged | data | rotate | dismissed | orphaned | unheard | reported | produce
  | closeSource | recvFrame | shutdown | drop | joinedDispatcher | joinedWorker => exact inLoop
  | _ => rw [‹s.dispatcher = _›]; trivial

/-- As long as the dispatcher stays in its loop, no step loses or mixes up a reading. -/
theorem live_step {s next : State F cfg.workers} {action : Action F cfg.workers}
    {delivered : List (ReadingEnvelope F)} (live : Live cfg hash s delivered)
    (moved : Moves cfg hash s action next) (inLoop : InLoop next.dispatcher) :
    ∃ after, Live cfg hash next after := by
  cases moved with
  | exitFlag go now at_pc =>
    refine ⟨_, live.goes_on at_pc ⟨trivial, rfl⟩ _ ?_⟩
    split <;> exact ⟨trivial, rfl⟩
  | exitShut go now at_pc =>
    dsimp only at inLoop
    split at inLoop
    · next shut =>
      rw [if_pos shut]
      exact ⟨_, live.goes_on at_pc ⟨trivial, rfl⟩ .exitLen ⟨trivial, rfl⟩⟩
    · exact inLoop.elim
  | exitLen go now at_pc =>
    dsimp only at inLoop
    split at inLoop
    · next more =>
      rw [if_pos more]
      exact ⟨_, live.goes_on at_pc ⟨trivial, rfl⟩ .drainedShut ⟨trivial, rfl⟩⟩
    · exact inLoop.elim
  | drainedShut go now at_pc =>
    refine ⟨_, live.goes_on at_pc ⟨trivial, rfl⟩ _ ?_⟩
    split <;> exact ⟨trivial, rfl⟩
  | drainedFinal go now at_pc empty saw =>
    exact ⟨_, live.goes_on at_pc ⟨trivial, rfl⟩ (.rotate _ cfg.first) ⟨rfl, rfl⟩⟩
  | drainedMore go now at_pc more =>
    exact ⟨_, live.goes_on at_pc ⟨trivial, rfl⟩ .pop ⟨trivial, rfl⟩⟩
  | popSome now r rest at_pc head =>
    have hand : s.window ++ [r] = delivered ++ inHand (.route r : Dispatcher F cfg.workers) := by
      rw [live.window, at_pc]
      simp [inHand]
    have held : Live cfg hash { s with dispatcher := .route r, window := s.window ++ [r] } delivered := by
      apply live.turn (at_pc ▸ trivial) _ hand
      trivial
    exact ⟨_, held.apart _ _ _ _ _ _⟩
  | popNone now at_pc => exact ⟨_, live.goes_on at_pc ⟨trivial, rfl⟩ .expiry ⟨trivial, rfl⟩⟩
  | routed go now r at_pc alive room => exact ⟨_, live.routed at_pc⟩
  | expired now at_pc =>
    exact ⟨_, live.goes_on at_pc ⟨trivial, rfl⟩ (.rotate _ cfg.first) ⟨rfl, rfl⟩⟩
  | unexpired now at_pc => exact ⟨_, live.goes_on at_pc ⟨trivial, rfl⟩ .exitFlag ⟨trivial, rfl⟩⟩
  | rotated go now e i at_pc alive room => exact ⟨_, live.rotated at_pc⟩
  | collected now e senders merged i rep rest at_pc head more =>
    exact ⟨_, live_collected live at_pc head more⟩
  | completed now e senders merged i rep rest at_pc head last =>
    exact ⟨_, live_completed live at_pc head last⟩
  | sent go now e frame at_pc room final => exact ⟨_, live_sent live at_pc now⟩
  | drainedStop | routeFailed | rotateFailed | collectFailed | sendFailed | sentFinal | failed =>
    exact inLoop.elim
  | closed go now i at_pc alive room => exact absurd inLoop (afterClosing_out i)
  | closedGone go now i at_pc gone => exact absurd inLoop (afterClosing_out i)
  | flagged i | dismissed i | orphaned i | unheard i => exact ⟨_, live.left i⟩
  | unflagged i at_pc shut => exact ⟨_, live.unflagged at_pc⟩
  | data i r rest at_pc head =>
    exact ⟨_, live.took at_pc (fun _ _ held => held.data head)⟩
  | rotate i rest at_pc head =>
    exact ⟨_, live.took at_pc (fun _ _ held => held.rotate head)⟩
  | reported i rep at_pc going room => exact ⟨_, live.reported at_pc⟩
  | produce | closeSource | recvFrame | shutdown | drop | joinedDispatcher | joinedWorker =>
    exact ⟨_, live.apart _ _ _ _ _ _⟩

/-- The readings of each frame put on the output channel, and the frame itself, are right so far. -/
structure Recorded (hash : String → Nat) (s : State F cfg.workers) : Prop where
  live : InLoop s.dispatcher → ∃ delivered, Live cfg hash s delivered
  exact : ∀ (k : Nat) (frame : AggregatedFrame F) (readings : List (ReadingEnvelope F)),
    s.emitted[k]? = some (frame, readings) → Exact cfg.detection k readings frame
  popped : s.popped = s.emitted.flatMap Prod.snd ++ s.window
  frames : s.frames <:+ s.emitted.map Prod.fst

omit [F64 F] in
theorem recorded_outputs_step {s next : State F cfg.workers} {action : Action F cfg.workers} [F64 F]
    (popped : s.popped = s.emitted.flatMap Prod.snd ++ s.window)
    (frames : s.frames <:+ s.emitted.map Prod.fst) (moved : Moves cfg hash s action next) :
    next.popped = next.emitted.flatMap Prod.snd ++ next.window ∧
      next.frames <:+ next.emitted.map Prod.fst := by
  cases moved with
  | popSome now r rest at_pc head =>
    refine ⟨?_, frames⟩
    dsimp only
    rw [popped, List.append_assoc]
  | sentFinal go now e frame | sent go now e frame =>
    constructor
    · simp [putFrame, popped]
    · obtain ⟨before, whole⟩ := frames
      refine ⟨before, ?_⟩
      simp [putFrame, ← whole]
  | recvFrame frame rest active head =>
    refine ⟨popped, ?_⟩
    exact (List.suffix_cons frame rest).trans (head ▸ frames)
  | _ => exact ⟨popped, frames⟩

theorem emitted_exact {s : State F cfg.workers} {delivered : List (ReadingEnvelope F)}
    (live : Live cfg hash s delivered) {e : Emission} {frame : AggregatedFrame F}
    (at_pc : s.dispatcher = .sendFrame e frame) :
    Exact cfg.detection s.emitted.length s.window frame := by
  have gathered := live.gathered
  rw [at_pc] at gathered
  rw [live.window, at_pc, ← live.numbered]
  show Exact cfg.detection s.windowId (delivered ++ []) frame
  rw [List.append_nil]
  exact gathered

theorem recorded_step {s next : State F cfg.workers} {action : Action F cfg.workers}
    (recorded : Recorded hash s) (moved : Moves cfg hash s action next) :
    Recorded hash next := by
  obtain ⟨popped, frames⟩ := recorded_outputs_step recorded.popped recorded.frames moved
  refine ⟨?_, ?_, popped, frames⟩
  · intro inLoop
    obtain ⟨delivered, live⟩ := recorded.live (inLoop_of_moves moved inLoop)
    exact live_step live moved inLoop
  · cases moved with
    | sentFinal go now e frame at_pc room final | sent go now e frame at_pc room final =>
      obtain ⟨delivered, live⟩ := recorded.live (at_pc ▸ trivial)
      intro k other readings found
      by_cases early : k < s.emitted.length
      · apply recorded.exact k other readings
        rw [← found]
        exact (List.getElem?_append_left early).symm
      · have last : k = s.emitted.length := by
          have bound := (List.getElem?_eq_some_iff.mp found).1
          simp only [putFrame, List.length_append, List.length_singleton] at bound
          omega
        subst last
        simp only [putFrame, List.getElem?_concat_length, Option.some.injEq, Prod.mk.injEq] at found
        obtain ⟨rfl, rfl⟩ := found
        exact emitted_exact live at_pc
    | _ => exact recorded.exact

theorem recorded_reachable {started : SystemTime} {s : State F cfg.workers}
    (reach : (engine cfg hash started).Reachable s) : Recorded hash s := by
  apply System.Reaches.invariant reach
  · refine ⟨fun _ => ⟨[], ?_⟩, ?_, rfl, List.suffix_refl _⟩
    · constructor
      · rfl
      · exact List.nodup_nil
      · intro i mem
        cases mem
      · intro i rep mem
        cases mem
      · intro i stage reached
        right
        cases stage with
        | building => exact Holds.building .checkFlag WindowReport.empty [] trivial rfl
        | rotating => exact reached.1.elim
        | reported => cases reached
      · trivial
      · simp [engine]
      · rfl
    · intro k frame readings found
      cases found
  · intro u action v recorded moved
    exact recorded_step recorded (step_moves cfg hash moved)

/-- **Window exactness.** For every number of workers, hash, interleaving and failure: the frames come
out with the ids 0, 1, 2, …, and each is exact for the readings popped since the one before it. Which
engine made it, with how many workers and which hash, cannot be told from it. -/
theorem window_exactness (cfg : AggregationConfig F) (hash : String → Nat) {started : SystemTime}
    {s : State F cfg.workers} (reach : (engine cfg hash started).Reachable s) :
    s.frames <:+ s.emitted.map Prod.fst ∧
    s.popped = s.emitted.flatMap Prod.snd ++ s.window ∧
    ∀ (k : Nat) (frame : AggregatedFrame F) (readings : List (ReadingEnvelope F)),
      s.emitted[k]? = some (frame, readings) →
      Exact cfg.detection k readings frame ∧
      ∀ (other : AggregationConfig F) (otherHash : String → Nat) (otherStart : SystemTime)
        (t : State F other.workers), other.detection = cfg.detection →
        (engine other otherHash otherStart).Reachable t →
        ∀ (j : Nat) (frame' : AggregatedFrame F), t.emitted[j]? = some (frame', readings) →
          frame'.perSensor = frame.perSensor ∧ frame'.anomalies.Perm frame.anomalies := by
  have recorded := recorded_reachable reach
  refine ⟨recorded.frames, recorded.popped, ?_⟩
  intro k frame readings found
  have exact_here := recorded.exact k frame readings found
  refine ⟨exact_here, ?_⟩
  intro other otherHash otherStart t same reached j frame' found'
  have exact_there := (recorded_reachable reached).exact j frame' readings found'
  rw [same] at exact_there
  exact exact_there.agree exact_here

/-- Two workers that look for anomalies from the second reading on. -/
def twoWorkers (anomalyZThreshold : F) : AggregationConfig F where
  workers := 2
  workerInboxCapacity := 3
  outputCapacity := 1
  detection := ⟨anomalyZThreshold, 2⟩
  workersPositive := Nat.two_pos
  inboxPositive := Nat.succ_pos 2
  outputPositive := Nat.one_pos

/-- A window of two readings, with so many steps of the one worker and then of the other. -/
def twoReadings (a b : ReadingEnvelope F) (one other : Nat) : List (Action F 2) :=
  let go : Action F 2 := .dispatcher true 5
  [.produce a, .produce b, go, go, go, go, .dispatcher false 5, go, go, go, go, go, go, go] ++
    List.replicate one (.worker ⟨1, Nat.one_lt_two⟩) ++
    List.replicate other (.worker ⟨0, Nat.two_pos⟩) ++ [go, go, go]

/-- The readings go to different workers, of which the second reports first. -/
def crossed (a b : F) : List (Action F 2) := twoReadings ⟨"a", 1, a⟩ ⟨"bb", 2, b⟩ 5 5

set_option maxRecDepth 8000 in
theorem window_exactness_crossed :
    ∃ s : State Int 2, (engine (twoWorkers 4) String.length 0).Reachable s ∧ s.emitted.length = 1 ∧
      s.popped.length = 2 ∧ ∀ k frame readings, s.emitted[k]? = some (frame, readings) →
        Exact ⟨4, 2⟩ k readings frame := by
  let system : System (State Int 2) (Action Int 2) := engine (twoWorkers 4) String.length 0
  let s := (system.run (crossed 7 9)).get (by decide)
  have reach : system.Reachable s := System.reachable_of_run (Option.some_get _).symm
  have exactness := (window_exactness (twoWorkers 4) String.length reach).2.2
  exact ⟨s, reach, by decide, by decide, fun k frame readings found => (exactness k frame readings found).1⟩

end SensorGateway.Engine.Exactness

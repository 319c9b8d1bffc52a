import SensorGateway.Engine.Threads

/-! The transitions of the engine one by one. Every invariant is proved by cases on them. -/

namespace SensorGateway.Engine.Steps
open SensorGateway.Types SensorGateway.Lib.Transition Reduce Threads
variable {F : Type} [F64 F] (cfg : AggregationConfig F) (hash : String → Nat)

/-- Everything one action can do. -/
inductive Moves (s : State F cfg.workers) : Action F cfg.workers → State F cfg.workers → Prop
  | exitFlag (go now) (at_pc : s.dispatcher = .exitFlag) :
      Moves s (.dispatcher go now)
        { s with dispatcher := if s.shutdown then .exitShut else .drainedShut }
  | exitShut (go now) (at_pc : s.dispatcher = .exitShut) :
      Moves s (.dispatcher go now)
        { s with dispatcher := if s.sourceShut then .exitLen else .closing cfg.first }
  | exitLen (go now) (at_pc : s.dispatcher = .exitLen) :
      Moves s (.dispatcher go now)
        { s with dispatcher := if 0 < s.queue.length then .drainedShut else .closing cfg.first }
  | drainedShut (go now) (at_pc : s.dispatcher = .drainedShut) :
      Moves s (.dispatcher go now)
        { s with dispatcher := if s.sourceShut then .drainedLen else .pop }
  | drainedFinal (go now) (at_pc : s.dispatcher = .drainedLen) (empty : s.queue = [])
      (saw : s.sawData = true) :
      Moves s (.dispatcher go now) { s with dispatcher := .rotate ⟨true, now⟩ cfg.first }
  | drainedStop (go now) (at_pc : s.dispatcher = .drainedLen) (empty : s.queue = [])
      (saw : s.sawData = false) :
      Moves s (.dispatcher go now) { s with dispatcher := .closing cfg.first }
  | drainedMore (go now) (at_pc : s.dispatcher = .drainedLen) (more : s.queue ≠ []) :
      Moves s (.dispatcher go now) { s with dispatcher := .pop }
  | popSome (now r rest) (at_pc : s.dispatcher = .pop) (head : s.queue = r :: rest) :
      Moves s (.dispatcher true now)
        { s with
          dispatcher := .route r, queue := rest, window := s.window ++ [r], popped := s.popped ++ [r] }
  | popNone (now) (at_pc : s.dispatcher = .pop) :
      Moves s (.dispatcher false now) { s with dispatcher := .expiry }
  | routed (go now r) (at_pc : s.dispatcher = .route r)
      (alive : (s.worker (home cfg hash r.sensorId)).gone = false)
      (room : (s.inbox (home cfg hash r.sensorId)).length < cfg.workerInboxCapacity) :
      Moves s (.dispatcher go now)
        { s with
          dispatcher := .expiry, sawData := true
          inbox := Function.update s.inbox (home cfg hash r.sensorId)
            (s.inbox (home cfg hash r.sensorId) ++ [.data r]) }
  | routeFailed (go now r) (at_pc : s.dispatcher = .route r)
      (gone : (s.worker (home cfg hash r.sensorId)).gone = true) :
      Moves s (.dispatcher go now) { s with dispatcher := .fail }
  | expired (now) (at_pc : s.dispatcher = .expiry) :
      Moves s (.dispatcher true now) { s with dispatcher := .rotate ⟨false, now⟩ cfg.first }
  | unexpired (now) (at_pc : s.dispatcher = .expiry) :
      Moves s (.dispatcher false now) { s with dispatcher := .exitFlag }
  | rotated (go now e i) (at_pc : s.dispatcher = .rotate e i) (alive : (s.worker i).gone = false)
      (room : (s.inbox i).length < cfg.workerInboxCapacity) :
      Moves s (.dispatcher go now)
        { s with
          dispatcher := afterWorker i (.rotate e) (.collect e [] (∅, []))
          inbox := Function.update s.inbox i (s.inbox i ++ [.rotate]) }
  | rotateFailed (go now e i) (at_pc : s.dispatcher = .rotate e i)
      (gone : (s.worker i).gone = true) :
      Moves s (.dispatcher go now) { s with dispatcher := .fail }
  | collected (now e senders merged i rep rest) (at_pc : s.dispatcher = .collect e senders merged)
      (head : s.reports = (i, rep) :: rest) (more : senders.length + 1 < cfg.workers) :
      Moves s (.dispatcher true now)
        { s with
          reports := rest, dispatcher := .collect e (senders ++ [i]) (mergeReport merged rep) }
  | completed (now e senders merged i rep rest) (at_pc : s.dispatcher = .collect e senders merged)
      (head : s.reports = (i, rep) :: rest) (last : ¬senders.length + 1 < cfg.workers) :
      Moves s (.dispatcher true now)
        { s with
          reports := rest
          dispatcher := .sendFrame e ⟨s.windowId, s.windowStart, e.windowEnd,
            (mergeReport merged rep).1, (mergeReport merged rep).2⟩ }
  | collectFailed (now e senders merged) (at_pc : s.dispatcher = .collect e senders merged)
      (none : s.reports = []) :
      Moves s (.dispatcher false now) { s with dispatcher := .fail }
  | sendFailed (go now e frame) (at_pc : s.dispatcher = .sendFrame e frame)
      (closed : s.caller = .gone ∨ s.caller = .done) :
      Moves s (.dispatcher go now) { s with dispatcher := .fail }
  | sentFinal (go now e frame) (at_pc : s.dispatcher = .sendFrame e frame)
      (room : s.frames.length < cfg.outputCapacity) (final : e.final = true)
      (heard : ¬(s.caller = .gone ∨ s.caller = .done)) :
      Moves s (.dispatcher go now) { putFrame cfg s frame with dispatcher := .closing cfg.first }
  | sent (go now e frame) (at_pc : s.dispatcher = .sendFrame e frame)
      (room : s.frames.length < cfg.outputCapacity) (final : e.final = false)
      (heard : ¬(s.caller = .gone ∨ s.caller = .done)) :
      Moves s (.dispatcher go now)
        { putFrame cfg s frame with
          dispatcher := .exitFlag, windowId := s.windowId + 1, windowStart := now, sawData := false }
  | failed (go now) (at_pc : s.dispatcher = .fail) :
      Moves s (.dispatcher go now) { s with dispatcher := .closing cfg.first, shutdown := true }
  | closed (go now i) (at_pc : s.dispatcher = .closing i) (alive : (s.worker i).gone = false)
      (room : (s.inbox i).length < cfg.workerInboxCapacity) :
      Moves s (.dispatcher go now)
        { s with
          dispatcher := afterWorker i .closing .finished
          inbox := Function.update s.inbox i (s.inbox i ++ [.shutdown]) }
  | closedGone (go now i) (at_pc : s.dispatcher = .closing i) (gone : (s.worker i).gone = true) :
      Moves s (.dispatcher go now) { s with dispatcher := afterWorker i .closing .finished }
  | flagged (i) (at_pc : (s.worker i).pc = .checkFlag) (shut : s.shutdown = true) :
      Moves s (.worker i) (leaveLoop s i)
  | unflagged (i) (at_pc : (s.worker i).pc = .checkFlag) (shut : s.shutdown = false) :
      Moves s (.worker i) (setWorker s i { s.worker i with pc := .receive })
  | data (i r rest) (at_pc : (s.worker i).pc = .receive) (head : s.inbox i = .data r :: rest) :
      Moves s (.worker i)
        { setWorker s i ⟨.checkFlag, observe cfg.detection (s.worker i).own r⟩ with
          inbox := Function.update s.inbox i rest }
  | rotate (i rest) (at_pc : (s.worker i).pc = .receive) (head : s.inbox i = .rotate :: rest) :
      Moves s (.worker i)
        { setWorker s i ⟨.report (s.worker i).own, WindowReport.empty⟩ with
          inbox := Function.update s.inbox i rest }
  | dismissed (i rest) (at_pc : (s.worker i).pc = .receive) (head : s.inbox i = .shutdown :: rest) :
      Moves s (.worker i) (leaveLoop s i)
  | orphaned (i) (at_pc : (s.worker i).pc = .receive) (empty : s.inbox i = [])
      (done : dispatcherDone s = true) :
      Moves s (.worker i) (leaveLoop s i)
  | unheard (i rep) (at_pc : (s.worker i).pc = .report rep) (done : dispatcherDone s = true) :
      Moves s (.worker i) (leaveLoop s i)
  | reported (i rep) (at_pc : (s.worker i).pc = .report rep) (going : dispatcherDone s = false)
      (room : s.reports.length < cfg.workers * 2) :
      Moves s (.worker i)
        { setWorker s i { s.worker i with pc := .checkFlag } with
          reports := s.reports ++ [(i, rep)] }
  | produce (r) (isOpen : s.sourceShut = false) : Moves s (.produce r) { s with queue := s.queue ++ [r] }
  | closeSource : Moves s .closeSource { s with sourceShut := true }
  | recvFrame (frame rest) (active : s.caller = .active) (head : s.frames = frame :: rest) :
      Moves s .recvFrame { s with frames := rest }
  | shutdown (active : s.caller = .active) :
      Moves s .shutdown { s with caller := .joinDispatcher, shutdown := true }
  | drop (active : s.caller = .active) : Moves s .drop { s with caller := .gone }
  | joinedDispatcher (waits : s.caller = .joinDispatcher) (done : dispatcherDone s = true) :
      Moves s .join { s with caller := .joinWorker cfg.first }
  | joinedWorker (i) (waits : s.caller = .joinWorker i) (gone : (s.worker i).gone = true) :
      Moves s .join { s with caller := afterWorker i .joinWorker .done }

omit [F64 F] in
theorem sendTo_cases {s sent failed next : State F cfg.workers} {i : Fin cfg.workers}
    {msg : WorkerMsg F} (moved : sendTo cfg s i msg sent failed = some next) :
    ((s.worker i).gone = true ∧ next = failed) ∨
    ((s.worker i).gone = false ∧ (s.inbox i).length < cfg.workerInboxCapacity ∧
      next = { sent with inbox := Function.update s.inbox i (s.inbox i ++ [msg]) }) := by
  unfold sendTo at moved
  by_cases gone : (s.worker i).gone = true
  · rw [if_pos gone, Option.some.injEq] at moved
    exact Or.inl ⟨gone, moved.symm⟩
  · rw [if_neg gone, Option.ite_none_right_eq_some, Option.some.injEq] at moved
    exact Or.inr ⟨Bool.eq_false_iff.mpr gone, moved.1, moved.2.symm⟩

theorem dispatcherStep_moves {s next : State F cfg.workers} {go : Bool} {now : SystemTime}
    (moved : dispatcherStep cfg hash s go now = some next) :
    Moves cfg hash s (.dispatcher go now) next := by
  unfold dispatcherStep at moved
  cases at_pc : s.dispatcher with
  | exitFlag =>
    simp only [at_pc, Option.some.injEq] at moved
    exact moved ▸ Moves.exitFlag go now at_pc
  | exitShut =>
    simp only [at_pc, Option.some.injEq] at moved
    exact moved ▸ Moves.exitShut go now at_pc
  | exitLen =>
    simp only [at_pc, Option.some.injEq] at moved
    exact moved ▸ Moves.exitLen go now at_pc
  | drainedShut =>
    simp only [at_pc, Option.some.injEq] at moved
    exact moved ▸ Moves.drainedShut go now at_pc
  | drainedLen =>
    simp only [at_pc] at moved
    by_cases empty : s.queue.length = 0
    · rw [if_pos empty] at moved
      by_cases saw : s.sawData = true
      · rw [if_pos saw, Option.some.injEq] at moved
        exact moved ▸ Moves.drainedFinal go now at_pc (List.length_eq_zero_iff.mp empty) saw
      · rw [if_neg saw, Option.some.injEq] at moved
        exact moved ▸
          Moves.drainedStop go now at_pc (List.length_eq_zero_iff.mp empty) (Bool.eq_false_iff.mpr saw)
    · rw [if_neg empty, Option.some.injEq] at moved
      exact moved ▸ Moves.drainedMore go now at_pc (fun none => empty (by rw [none, List.length_nil]))
  | pop =>
    simp only [at_pc] at moved
    cases go with
    | true =>
      cases head : s.queue with
      | nil => simp [head] at moved
      | cons r rest =>
        simp only [head, Option.some.injEq] at moved
        exact moved ▸ Moves.popSome now r rest at_pc head
    | false =>
      simp only [Option.some.injEq] at moved
      exact moved ▸ Moves.popNone now at_pc
  | route r =>
    simp only [at_pc] at moved
    obtain ⟨gone, rfl⟩ | ⟨alive, room, rfl⟩ := sendTo_cases cfg moved
    · exact Moves.routeFailed go now r at_pc gone
    · exact Moves.routed go now r at_pc alive room
  | expiry =>
    simp only [at_pc] at moved
    cases go with
    | true =>
      rw [if_pos rfl, Option.some.injEq] at moved
      exact moved ▸ Moves.expired now at_pc
    | false =>
      rw [if_neg Bool.false_ne_true, Option.some.injEq] at moved
      exact moved ▸ Moves.unexpired now at_pc
  | rotate e i =>
    simp only [at_pc] at moved
    obtain ⟨gone, rfl⟩ | ⟨alive, room, rfl⟩ := sendTo_cases cfg moved
    · exact Moves.rotateFailed go now e i at_pc gone
    · exact Moves.rotated go now e i at_pc alive room
  | collect e senders merged =>
    simp only [at_pc] at moved
    cases go with
    | true =>
      cases head : s.reports with
      | nil => simp [head] at moved
      | cons first rest =>
        obtain ⟨i, rep⟩ := first
        simp only [head, Option.some.injEq] at moved
        by_cases more : senders.length + 1 < cfg.workers
        · rw [if_pos more] at moved
          exact moved ▸ Moves.collected now e senders merged i rep rest at_pc head more
        · rw [if_neg more] at moved
          exact moved ▸ Moves.completed now e senders merged i rep rest at_pc head more
    | false =>
      cases none : s.reports with
      | nil =>
        simp only [none, Option.some.injEq] at moved
        rw [← none] at moved
        exact moved ▸ Moves.collectFailed now e senders merged at_pc none
      | cons first rest => simp [none] at moved
  | sendFrame e frame =>
    simp only [at_pc] at moved
    by_cases closed : s.caller = .gone ∨ s.caller = .done
    · rw [if_pos closed, Option.some.injEq] at moved
      exact moved ▸ Moves.sendFailed go now e frame at_pc closed
    · rw [if_neg closed, Option.ite_none_right_eq_some] at moved
      obtain ⟨room, moved⟩ := moved
      cases final : e.final with
      | true =>
        rw [final, if_pos rfl, Option.some.injEq] at moved
        exact moved ▸ Moves.sentFinal go now e frame at_pc room final closed
      | false =>
        rw [final, if_neg Bool.false_ne_true, Option.some.injEq] at moved
        exact moved ▸ Moves.sent go now e frame at_pc room final closed
  | fail =>
    simp only [at_pc, Option.some.injEq] at moved
    exact moved ▸ Moves.failed go now at_pc
  | closing i =>
    simp only [at_pc] at moved
    obtain ⟨gone, rfl⟩ | ⟨alive, room, rfl⟩ := sendTo_cases cfg moved
    · exact Moves.closedGone go now i at_pc gone
    · exact Moves.closed go now i at_pc alive room
  | finished => simp only [at_pc, reduceCtorEq] at moved

theorem workerStep_moves {s next : State F cfg.workers} {i : Fin cfg.workers}
    (moved : workerStep cfg s i = some next) : Moves cfg hash s (.worker i) next := by
  unfold workerStep at moved
  cases at_pc : (s.worker i).pc with
  | checkFlag =>
    simp only [at_pc] at moved
    cases shut : s.shutdown with
    | true =>
      rw [shut, if_pos rfl, Option.some.injEq] at moved
      exact moved ▸ Moves.flagged i at_pc shut
    | false =>
      rw [shut, if_neg Bool.false_ne_true, Option.some.injEq] at moved
      exact moved ▸ Moves.unflagged i at_pc shut
  | receive =>
    simp only [at_pc] at moved
    cases head : s.inbox i with
    | nil =>
      simp only [head, Option.ite_none_right_eq_some, Option.some.injEq] at moved
      exact moved.2 ▸ Moves.orphaned i at_pc head moved.1
    | cons msg rest =>
      cases msg with
      | data r =>
        simp only [head, Option.some.injEq] at moved
        exact moved ▸ Moves.data i r rest at_pc head
      | rotate =>
        simp only [head, Option.some.injEq] at moved
        exact moved ▸ Moves.rotate i rest at_pc head
      | shutdown =>
        simp only [head, Option.some.injEq] at moved
        exact moved ▸ Moves.dismissed i rest at_pc head
  | report rep =>
    simp only [at_pc] at moved
    cases done : dispatcherDone s with
    | true =>
      rw [done, if_pos rfl, Option.some.injEq] at moved
      exact moved ▸ Moves.unheard i rep at_pc done
    | false =>
      rw [done, if_neg Bool.false_ne_true, Option.ite_none_right_eq_some, Option.some.injEq] at moved
      exact moved.2 ▸ Moves.reported i rep at_pc done moved.1
  | finished => simp only [at_pc, reduceCtorEq] at moved

theorem step_moves {started : SystemTime} {s next : State F cfg.workers} {action : Action F cfg.workers}
    (moved : (engine cfg hash started).step s action = some next) : Moves cfg hash s action next := by
  change step cfg hash s action = some next at moved
  cases action with
  | produce r =>
    simp only [step] at moved
    by_cases shut : s.sourceShut = true
    · rw [if_pos shut] at moved
      cases moved
    · rw [if_neg shut, Option.some.injEq] at moved
      exact moved ▸ Moves.produce r (Bool.eq_false_iff.mpr shut)
  | closeSource =>
    simp only [step, Option.some.injEq] at moved
    exact moved ▸ Moves.closeSource
  | dispatcher go now => exact dispatcherStep_moves cfg hash moved
  | worker i => exact workerStep_moves cfg hash moved
  | recvFrame =>
    simp only [step] at moved
    split at moved
    · rename_i frame rest active head
      rw [Option.some.injEq] at moved
      exact moved ▸ Moves.recvFrame frame rest active head
    · cases moved
  | shutdown =>
    simp only [step, Option.ite_none_right_eq_some, Option.some.injEq] at moved
    exact moved.2 ▸ Moves.shutdown moved.1
  | drop =>
    simp only [step, Option.ite_none_right_eq_some, Option.some.injEq] at moved
    exact moved.2 ▸ Moves.drop moved.1
  | join =>
    simp only [step, joinStep] at moved
    cases waits : s.caller with
    | joinDispatcher =>
      simp only [waits, Option.ite_none_right_eq_some, Option.some.injEq] at moved
      exact moved.2 ▸ Moves.joinedDispatcher waits moved.1
    | joinWorker i =>
      simp only [waits, Option.ite_none_right_eq_some, Option.some.injEq] at moved
      exact moved.2 ▸ Moves.joinedWorker i waits moved.1
    | _ => simp only [waits, reduceCtorEq] at moved

end SensorGateway.Engine.Steps

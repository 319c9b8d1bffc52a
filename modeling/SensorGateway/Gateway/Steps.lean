import SensorGateway.Gateway.Threads

/-! The transitions of the gateway one by one. -/

namespace SensorGateway.Gateway.Steps
open SensorGateway.Lib.Transition Buffer.Manager Threads
open Buffer.Threads (Thread criticalSection leave threads)
variable {T : Type} (cfg : GatewayConfig)

/-- The thread is inside the call it resumes with `w`. -/
def Inside (thread : Thread T) (w : Wait T) : Prop :=
  thread = .waiting w ∨ ∃ timedOut, thread = .ready w timedOut

/-- What a thread goes through while no critical section runs. -/
inductive Stirs : Thread T → Thread T → Prop
  | same (thread) : Stirs thread thread
  | woken (w timedOut) : Stirs (.waiting w) (.ready w timedOut)
  | notified (condvar d) : Stirs (.notifying condvar d) .outside

/-- A step of the dispatcher outside the buffer. -/
inductive Turn (s : State cfg.readers T) : Bool → State cfg.readers T → Prop
  | exitFlag (go) (at_pc : s.dispatcher = .exitFlag) :
      Turn s go { s with dispatcher := if s.engineShutdown then .exitShut else .drainedShut }
  | exitShut (go) (at_pc : s.dispatcher = .exitShut) :
      Turn s go { s with dispatcher := if s.buffer.inner.isShutdown then .exitLen else .ended }
  | exitLen (go) (at_pc : s.dispatcher = .exitLen) :
      Turn s go
        { s with dispatcher := if 0 < s.buffer.inner.q.length then .drainedShut else .ended }
  | drainedShut (go) (at_pc : s.dispatcher = .drainedShut) :
      Turn s go { s with dispatcher := if s.buffer.inner.isShutdown then .drainedLen else .pop }
  | drained (go) (at_pc : s.dispatcher = .drainedLen) :
      Turn s go { s with dispatcher := if s.sawData then .emit true else .ended }
  | undrained (go) (at_pc : s.dispatcher = .drainedLen) : Turn s go { s with dispatcher := .pop }
  | routed (at_pc : s.dispatcher = .route) :
      Turn s true { s with dispatcher := .expiry, sawData := true }
  | routeFailed (at_pc : s.dispatcher = .route) : Turn s false { s with dispatcher := .fail }
  | expiry (go) (at_pc : s.dispatcher = .expiry) :
      Turn s go { s with dispatcher := if go then .emit false else .exitFlag }
  | collected (final) (at_pc : s.dispatcher = .emit final) :
      Turn s true { s with dispatcher := .sendFrame final }
  | emitFailed (final) (at_pc : s.dispatcher = .emit final) : Turn s false { s with dispatcher := .fail }
  | sendFailed (go final) (at_pc : s.dispatcher = .sendFrame final) (closed : s.consumer = .done) :
      Turn s go { s with dispatcher := .fail }
  | sentFinal (go) (at_pc : s.dispatcher = .sendFrame true) (room : s.frames < cfg.outputCapacity) :
      Turn s go { s with dispatcher := .ended, frames := s.frames + 1 }
  | sent (go) (at_pc : s.dispatcher = .sendFrame false) (room : s.frames < cfg.outputCapacity) :
      Turn s go { s with dispatcher := .exitFlag, frames := s.frames + 1, sawData := false }
  | failed (go) (at_pc : s.dispatcher = .fail) :
      Turn s go { s with dispatcher := .ended, engineShutdown := true }

/-- Everything one action can do. -/
inductive Moves (s : State cfg.readers T) : Action cfg.readers T → State cfg.readers T → Prop
  | call (t c) (calls : nextCall cfg.sourcePopTimeout s t = some c)
      (before : s.buffer.thread t = .outside) :
      Moves s (.call t)
        (lockStep s t (cfg.buffer.enter s.buffer.inner c).1 (cfg.buffer.enter s.buffer.inner c).2)
  | wake (t waited w timedOut) (before : s.buffer.thread t = .ready w timedOut) :
      Moves s (.wake t waited)
        (lockStep s t (cfg.buffer.resume s.buffer.inner waited timedOut w).1
          (cfg.buffer.resume s.buffer.inner waited timedOut w).2)
  | stirred (action) (thread : Party cfg.readers → Thread T)
      (stirs : ∀ t, Stirs (s.buffer.thread t) (thread t)) :
      Moves s action { s with buffer := { s.buffer with thread } }
  | reader (r item leave) (reader : Reader T) (stop : Bool)
      (outside : s.buffer.thread (.reader r) = .outside) (before : exited (s.reader r) = false) :
      Moves s (.reader r item leave) { setReader s r reader with stop := stop }
  | dispatcher (go next) (outside : s.buffer.thread .dispatcher = .outside) (turn : Turn cfg s go next) :
      Moves s (.dispatcher go) next
  | received (go) (at_pc : s.consumer = .receive) (some : 0 < s.frames) :
      Moves s (.consumer go)
        { s with consumer := .persist, frames := s.frames - 1, idleRounds := 0 }
  | idle (go) (at_pc : s.consumer = .receive) (none : s.frames = 0) :
      Moves s (.consumer go) { s with consumer := .checkStop }
  | persisted (go) (at_pc : s.consumer = .persist) :
      Moves s (.consumer go) { s with consumer := if go then .receive else .failed }
  | unpersisted (go) (at_pc : s.consumer = .failed) :
      Moves s (.consumer go) { s with consumer := .shutdownBuffer, stop := true }
  | checkedStop (go) (at_pc : s.consumer = .checkStop) :
      Moves s (.consumer go) { s with consumer := if s.stop then .checkShut else .receive }
  | checkedShut (go) (at_pc : s.consumer = .checkShut) (shut : s.buffer.inner.isShutdown = true) :
      Moves s (.consumer go)
        { s with
          consumer := if 4 ≤ s.idleRounds + 1 then .shutdownEngine else .receive
          idleRounds := s.idleRounds + 1 }
  | checkedOpen (go) (at_pc : s.consumer = .checkShut) (isOpen : s.buffer.inner.isShutdown = false) :
      Moves s (.consumer go) { s with consumer := .receive }
  | flagged (go) (at_pc : s.consumer = .shutdownEngine) :
      Moves s (.consumer go) { s with consumer := .joinEngine, engineShutdown := true }
  | joinedEngine (go) (at_pc : s.consumer = .joinEngine) (ended : s.dispatcher = .ended) :
      Moves s (.consumer go) { s with consumer := .done }
  | scheduler :
      Moves s .scheduler
        { s with
          schedulerDone := true, reader := fun r => { s.reader r with drainCommand := true } }
  | signal (waits : s.main = .waitSignal) : Moves s .signal { s with main := .joinScheduler, stop := true }
  | joinedScheduler (waits : s.main = .joinScheduler) :
      Moves s .join { s with main := .joinReaders (List.finRange cfg.readers) }
  | joinedAll (waits : s.main = .joinReaders []) : Moves s .join { s with main := .shutdownBuffer }
  | joinedReader (r rest) (waits : s.main = .joinReaders (r :: rest))
      (gone : exited (s.reader r) = true) : Moves s .join { s with main := .joinReaders rest }
  | joinedConsumer (waits : s.main = .joinConsumer) : Moves s .join { s with main := .done }

variable {cfg} {s next : State cfg.readers T}

theorem Stirs.inside_iff {before after : Thread T} (stirs : Stirs before after) (w : Wait T) :
    Inside after w ↔ Inside before w := by
  cases stirs <;> simp [Inside]

theorem dispatcherStep_turn {go : Bool} (moved : dispatcherStep cfg s go = some next) :
    Turn cfg s go next := by
  unfold dispatcherStep at moved
  cases at_pc : s.dispatcher with
  | exitFlag =>
    simp only [at_pc, Option.some.injEq] at moved
    exact moved ▸ Turn.exitFlag go at_pc
  | exitShut =>
    simp only [at_pc, Option.some.injEq] at moved
    exact moved ▸ Turn.exitShut go at_pc
  | exitLen =>
    simp only [at_pc, Option.some.injEq] at moved
    exact moved ▸ Turn.exitLen go at_pc
  | drainedShut =>
    simp only [at_pc, Option.some.injEq] at moved
    exact moved ▸ Turn.drainedShut go at_pc
  | drainedLen =>
    simp only [at_pc] at moved
    by_cases empty : s.buffer.inner.q.length = 0
    · rw [if_pos empty, Option.some.injEq] at moved
      exact moved ▸ Turn.drained go at_pc
    · rw [if_neg empty, Option.some.injEq] at moved
      exact moved ▸ Turn.undrained go at_pc
  | pop => simp only [at_pc, reduceCtorEq] at moved
  | route =>
    simp only [at_pc] at moved
    cases go with
    | true =>
      rw [if_pos rfl, Option.some.injEq] at moved
      exact moved ▸ Turn.routed at_pc
    | false =>
      rw [if_neg Bool.false_ne_true, Option.some.injEq] at moved
      exact moved ▸ Turn.routeFailed at_pc
  | expiry =>
    simp only [at_pc, Option.some.injEq] at moved
    exact moved ▸ Turn.expiry go at_pc
  | emit final =>
    simp only [at_pc, Option.some.injEq] at moved
    cases go with
    | true => exact moved ▸ Turn.collected final at_pc
    | false => exact moved ▸ Turn.emitFailed final at_pc
  | sendFrame final =>
    simp only [at_pc] at moved
    by_cases closed : s.consumer = .done
    · rw [if_pos closed, Option.some.injEq] at moved
      exact moved ▸ Turn.sendFailed go final at_pc closed
    · rw [if_neg closed, Option.ite_none_right_eq_some] at moved
      obtain ⟨room, moved⟩ := moved
      cases final with
      | true =>
        rw [if_pos rfl, Option.some.injEq] at moved
        exact moved ▸ Turn.sentFinal go at_pc room
      | false =>
        rw [if_neg Bool.false_ne_true, Option.some.injEq] at moved
        exact moved ▸ Turn.sent go at_pc room
  | fail =>
    simp only [at_pc, Option.some.injEq] at moved
    exact moved ▸ Turn.failed go at_pc
  | ended => simp only [at_pc, reduceCtorEq] at moved

theorem readerStep_spec {r : Fin cfg.readers} {item : Option T} {leave : Bool}
    (moved : readerStep cfg s r item leave = some next) :
    exited (s.reader r) = false ∧
      ∃ reader stop, next = { setReader s r reader with stop := stop } := by
  unfold readerStep at moved
  cases at_pc : (s.reader r).pc with
  | commands =>
    refine ⟨by rw [exited, at_pc], ?_⟩
    simp only [at_pc] at moved
    split at moved <;> exact ⟨_, _, (Option.some.inj moved).symm⟩
  | read =>
    refine ⟨by rw [exited, at_pc], ?_⟩
    simp only [at_pc] at moved
    split at moved <;> exact ⟨_, _, (Option.some.inj moved).symm⟩
  | checkStop | refused | round =>
    refine ⟨by rw [exited, at_pc], ?_⟩
    simp only [at_pc] at moved
    exact ⟨_, _, (Option.some.inj moved).symm⟩
  | push | exited => simp only [at_pc, reduceCtorEq] at moved

theorem consumerStep_moves {go : Bool} (moved : consumerStep cfg s go = some next) :
    Moves cfg s (.consumer go) next := by
  unfold consumerStep at moved
  cases at_pc : s.consumer with
  | receive =>
    simp only [at_pc] at moved
    by_cases some : 0 < s.frames
    · rw [if_pos some, Option.some.injEq] at moved
      exact moved ▸ Moves.received go at_pc some
    · rw [if_neg some, Option.some.injEq] at moved
      exact moved ▸ Moves.idle go at_pc (Nat.eq_zero_of_not_pos some)
  | persist =>
    simp only [at_pc, Option.some.injEq] at moved
    exact moved ▸ Moves.persisted go at_pc
  | failed =>
    simp only [at_pc, Option.some.injEq] at moved
    exact moved ▸ Moves.unpersisted go at_pc
  | checkStop =>
    simp only [at_pc, Option.some.injEq] at moved
    exact moved ▸ Moves.checkedStop go at_pc
  | checkShut =>
    simp only [at_pc] at moved
    by_cases shut : s.buffer.inner.isShutdown = true
    · rw [if_pos shut, Option.some.injEq] at moved
      exact moved ▸ Moves.checkedShut go at_pc shut
    · rw [if_neg shut, Option.some.injEq] at moved
      exact moved ▸ Moves.checkedOpen go at_pc (Bool.eq_false_iff.mpr shut)
  | shutdownEngine =>
    simp only [at_pc, Option.some.injEq] at moved
    exact moved ▸ Moves.flagged go at_pc
  | joinEngine =>
    simp only [at_pc, Option.ite_none_right_eq_some, Option.some.injEq] at moved
    exact moved.2 ▸ Moves.joinedEngine go at_pc moved.1
  | shutdownBuffer | done => simp only [at_pc, reduceCtorEq] at moved

theorem joinStep_moves (moved : joinStep cfg s = some next) : Moves cfg s .join next := by
  unfold joinStep at moved
  split at moved
  · next waits =>
    rw [Option.ite_none_right_eq_some, Option.some.injEq] at moved
    exact moved.2 ▸ Moves.joinedScheduler waits
  · next waits =>
    rw [Option.some.injEq] at moved
    exact moved ▸ Moves.joinedAll waits
  · next r rest waits =>
    rw [Option.ite_none_right_eq_some, Option.some.injEq] at moved
    exact moved.2 ▸ Moves.joinedReader r rest waits moved.1
  · next waits =>
    rw [Option.ite_none_right_eq_some, Option.some.injEq] at moved
    exact moved.2 ▸ Moves.joinedConsumer waits
  · cases moved

theorem outside_of_free {t : Party cfg.readers} (isFree : free s t = true) :
    s.buffer.thread t = .outside := by
  unfold free at isFree
  split at isFree
  · assumption
  · cases isFree

theorem stirs_moveThread {ι : Type} [DecidableEq ι] {thread : ι → Thread T} {t : ι} {after : Thread T}
    (stirs : Stirs (thread t) after) (u : ι) : Stirs (thread u) (Function.update thread t after u) := by
  by_cases same : u = t
  · subst same
    rwa [Function.update_self]
  · rw [Function.update_of_ne same]
    exact Stirs.same _

/-- A step of the buffer that runs no critical section only stirs the threads. -/
theorem bufferStep_moves {action : Action cfg.readers T}
    {inner : Buffer.Threads.Action (Party cfg.readers) T}
    (quiet : criticalSection cfg.buffer s.buffer inner = none)
    (moved : bufferStep cfg s inner = some next) : Moves cfg s action next := by
  unfold bufferStep at moved
  cases run : (threads cfg.buffer).step s.buffer inner with
  | none => simp only [run, reduceCtorEq] at moved
  | some buffer =>
    simp only [run, Option.some.injEq] at moved
    subst moved
    cases Buffer.Threads.step_moves run with
    | call t c before => simp [criticalSection, before] at quiet
    | wake t waited w timedOut before => simp [criticalSection, before] at quiet
    | spurious t w before =>
      exact Moves.stirred action _ (stirs_moveThread (before ▸ Stirs.woken w false))
    | timeout t remaining before =>
      exact Moves.stirred action _ (stirs_moveThread (before ▸ Stirs.woken _ true))
    | notifyNobody t condvar d before nobody =>
      exact Moves.stirred action _ (stirs_moveThread (before ▸ Stirs.notified condvar d))
    | notify t u condvar d w before waits same =>
      apply Moves.stirred action _
      intro v
      by_cases notifier : v = t
      · subst notifier
        rw [Buffer.Threads.moveThread, Function.update_self, before]
        exact Stirs.notified condvar d
      · rw [Buffer.Threads.moveThread, Function.update_of_ne notifier]
        exact stirs_moveThread (waits ▸ Stirs.woken w false) v

theorem step_moves {action : Action cfg.readers T}
    (moved : (gateway cfg).step s action = some next) : Moves cfg s action next := by
  change step cfg s action = some next at moved
  cases action with
  | call t =>
    simp only [step] at moved
    cases calls : nextCall cfg.sourcePopTimeout s t with
    | none => simp only [calls, reduceCtorEq] at moved
    | some c =>
      cases before : s.buffer.thread t <;>
        simp only [calls, criticalSection, before, Option.some.injEq, reduceCtorEq] at moved
      exact moved ▸ Moves.call t c calls before
  | wake t waited =>
    simp only [step] at moved
    cases before : s.buffer.thread t <;>
      simp only [criticalSection, before, Option.some.injEq, reduceCtorEq] at moved
    exact moved ▸ Moves.wake t waited _ _ before
  | spurious t | timeout t | notify t woken => exact bufferStep_moves rfl moved
  | reader r item leave =>
    simp only [step, Option.ite_none_right_eq_some] at moved
    obtain ⟨isFree, moved⟩ := moved
    obtain ⟨before, reader, stop, rfl⟩ := readerStep_spec moved
    exact Moves.reader r item leave reader stop (outside_of_free isFree) before
  | dispatcher go =>
    simp only [step, Option.ite_none_right_eq_some] at moved
    exact Moves.dispatcher go next (outside_of_free moved.1) (dispatcherStep_turn moved.2)
  | consumer go =>
    simp only [step, Option.ite_none_right_eq_some] at moved
    exact consumerStep_moves moved.2
  | scheduler =>
    simp only [step, schedulerStep, Option.ite_none_right_eq_some, Option.some.injEq] at moved
    exact moved.2 ▸ Moves.scheduler
  | signal =>
    simp only [step, Option.ite_none_right_eq_some, Option.some.injEq] at moved
    exact moved.2 ▸ Moves.signal moved.1
  | join =>
    simp only [step, Option.ite_none_right_eq_some] at moved
    exact joinStep_moves moved.2

end SensorGateway.Gateway.Steps

import Mathlib.Data.Fintype.Option
import SensorGateway.Buffer.Calls
import SensorGateway.Buffer.Fifo
import SensorGateway.Engine.Exactness

/-! The engine on the buffer as it is, with its lock, its waits and its notifications. The dispatcher is
one of the threads on the buffer and calls `pop_timeout`; the others push, or shut it down. What the
engine's threads see of it is the queue and flag of `Engine.Threads`. -/

namespace SensorGateway.Engine.OverBuffer
open SensorGateway.Lib.Transition SensorGateway.Types
open Buffer.Manager Buffer.Threads Buffer.Calls Engine.Reduce Engine.Window
variable {ι F : Type}

/-- The buffer with its threads, of which `none` is the dispatcher, and the engine. The engine's own queue
and flag are not looked at. -/
structure Joined (ι F : Type) (W : Nat) where
  buffer : Buffer.Threads.State (Option ι) (ReadingEnvelope F)
  engine : Engine.Threads.State F W

inductive Event (ι F : Type) (W : Nat) where
  | buffer (action : Buffer.Threads.Action (Option ι) (ReadingEnvelope F))
  | engine (action : Engine.Threads.Action F W)

/-- The engine with the queue and the flag that the lock protects. -/
def view {W : Nat} (s : Joined ι F W) : Engine.Threads.State F W :=
  { s.engine with queue := s.buffer.inner.q, sourceShut := s.buffer.inner.isShutdown }

def AtPop {W : Nat} : Engine.Threads.Dispatcher F W → Prop
  | .pop => True
  | _ => False

instance atPopDecidable {W : Nat} : (d : Engine.Threads.Dispatcher F W) → Decidable (AtPop d)
  | .pop => .isTrue trivial
  | .exitFlag | .exitShut | .exitLen | .drainedShut | .drainedLen | .route _ | .expiry | .rotate .. |
    .collect .. | .sendFrame .. | .fail | .closing _ | .finished => .isFalse id

/-- What the threads call: the dispatcher pops where its loop does, and no other thread pops. -/
def Calls {W : Nat} (s : Joined ι F W) :
    Buffer.Threads.Action (Option ι) (ReadingEnvelope F) → Prop
  | .call none (.popTimeout _) => AtPop s.engine.dispatcher
  | .call (some _) (.push _) | .call (some _) (.tryPush _) | .call (some _) .shutdown => True
  | .call _ _ => False
  | _ => True

instance callsDecidable {W : Nat} (s : Joined ι F W) :
    (action : Buffer.Threads.Action (Option ι) (ReadingEnvelope F)) → Decidable (Calls s action)
  | .call none (.popTimeout _) => atPopDecidable s.engine.dispatcher
  | .call (some _) (.push _) | .call (some _) (.tryPush _) | .call (some _) .shutdown => .isTrue trivial
  | .call none (.push _) | .call none (.tryPush _) | .call none .tryPop | .call none .popBlocking |
    .call none .shutdown | .call (some _) .tryPop | .call (some _) .popBlocking |
    .call (some _) (.popTimeout _) => .isFalse id
  | .wake .. | .spurious _ | .timeout _ | .notify .. => .isTrue trivial

/-- The engine's steps next to the buffer. The dispatcher makes one when it is not inside `pop_timeout`. -/
def Free {W : Nat} (s : Joined ι F W) : Engine.Threads.Action F W → Prop
  | .produce _ | .closeSource => False
  | .dispatcher _ _ => ¬AtPop s.engine.dispatcher ∧ Outside (s.buffer.thread none)
  | .worker _ | .recvFrame | .shutdown | .drop | .join => True

instance freeDecidable {W : Nat} (s : Joined ι F W) :
    (action : Engine.Threads.Action F W) → Decidable (Free s action)
  | .produce _ | .closeSource => .isFalse id
  | .dispatcher _ _ =>
    inferInstanceAs (Decidable (¬AtPop s.engine.dispatcher ∧ Outside (s.buffer.thread none)))
  | .worker _ | .recvFrame | .shutdown | .drop | .join => .isTrue trivial

/-- The dispatcher once its call has an answer; it returns when it has notified. -/
def answered {W : Nat} (engine : Engine.Threads.State F W) :
    Option (Done (ReadingEnvelope F)) → Engine.Threads.State F W
  | some (.popTimeout (some r)) =>
    { engine with dispatcher := .route r, window := engine.window ++ [r], popped := engine.popped ++ [r] }
  | some (.popTimeout none) => { engine with dispatcher := .expiry }
  | _ => engine

section Steps
variable [Fintype ι] [DecidableEq ι] [F64 F] (manager : SensorBufferManager)
  (cfg : Engine.Threads.AggregationConfig F) (hash : String → Nat)

/-- What a step of the buffer's threads is for the engine. -/
def heard (s : Joined ι F cfg.workers) (action : Buffer.Threads.Action (Option ι) (ReadingEnvelope F)) :
    Engine.Threads.State F cfg.workers :=
  match criticalSection manager s.buffer action with
  | some (none, exit, _) => answered s.engine exit.result?
  | _ => s.engine

def step (s : Joined ι F cfg.workers) : Event ι F cfg.workers → Option (Joined ι F cfg.workers)
  | .buffer action =>
    if Calls s action then
      (Buffer.Threads.step manager s.buffer action).map fun buffer =>
        ⟨buffer, heard manager cfg s action⟩
    else none
  | .engine action =>
    if Free s action then
      (Engine.Threads.step cfg hash (view s) action).map fun engine => { s with engine }
    else none

/-- A fresh buffer, and the engine as it is started on it. -/
def joined (started : SystemTime) : System (Joined ι F cfg.workers) (Event ι F cfg.workers) where
  init := ⟨(threads manager).init, (Engine.Threads.engine cfg hash started).init⟩
  step := step manager cfg hash

end Steps

/-! One step next to the other: the dispatcher waits only where its loop pops, and what it has popped is
what has left the queue. -/

structure Linked {W : Nat} (s : Joined ι F W) : Prop where
  popping : ∀ w, pending (s.buffer.thread none) = some w →
    AtPop s.engine.dispatcher ∧ ∃ remaining, w = .popTimeout remaining
  pushing : ∀ i w, pending (s.buffer.thread (some i)) = some w → ∃ item, w = .push item
  popped : s.buffer.popped = s.engine.popped

theorem atPop_iff {W : Nat} {d : Engine.Threads.Dispatcher F W} : AtPop d ↔ d = .pop := by
  constructor
  · intro pops
    cases d with
    | pop => rfl
    | _ => exact pops.elim
  · rintro rfl
    trivial

section
variable {W : Nat} {s : Joined ι F W} {manager : SensorBufferManager}
  {action : Buffer.Threads.Action (Option ι) (ReadingEnvelope F)} {exit : Exit (ReadingEnvelope F)}
  {inner : Inner (ReadingEnvelope F)}

theorem section_none (linked : Linked s) (calls : Calls s action)
    (runs : criticalSection manager s.buffer action = some (none, exit, inner)) :
    AtPop s.engine.dispatcher ∧ Pops exit := by
  cases action with
  | call u c =>
    cases before : s.buffer.thread u with
    | outside =>
      simp only [criticalSection, before, Option.some.injEq, Prod.mk.injEq] at runs
      obtain ⟨rfl, result⟩ := runs
      have exits : (manager.enter s.buffer.inner c).1 = exit := congrArg Prod.fst result
      cases c with
      | popTimeout timeout => exact ⟨calls, exits ▸ pops_popTimeout timeout s.buffer.inner⟩
      | _ => exact False.elim calls
    | _ => simp only [criticalSection, before, reduceCtorEq] at runs
  | wake u waited =>
    cases before : s.buffer.thread u with
    | ready w timedOut =>
      simp only [criticalSection, before, Option.some.injEq, Prod.mk.injEq] at runs
      obtain ⟨rfl, result⟩ := runs
      have exits : (manager.resume s.buffer.inner waited timedOut w).1 = exit :=
        congrArg Prod.fst result
      obtain ⟨at_pop, remaining, rfl⟩ := linked.popping w (by rw [before]; rfl)
      exact ⟨at_pop, exits ▸ pops_resume s.buffer.inner waited timedOut remaining⟩
    | _ => simp only [criticalSection, before, reduceCtorEq] at runs
  | _ => simp only [criticalSection, reduceCtorEq] at runs

theorem section_some (linked : Linked s) (calls : Calls s action) {i : ι}
    (runs : criticalSection manager s.buffer action = some (some i, exit, inner)) : Pushes exit := by
  cases action with
  | call u c =>
    cases before : s.buffer.thread u with
    | outside =>
      simp only [criticalSection, before, Option.some.injEq, Prod.mk.injEq] at runs
      obtain ⟨rfl, result⟩ := runs
      have exits : (manager.enter s.buffer.inner c).1 = exit := congrArg Prod.fst result
      cases c with
      | push item => exact exits ▸ pushes_push item s.buffer.inner
      | tryPush item => exact exits ▸ pushes_tryPush item s.buffer.inner
      | shutdown => exact exits ▸ ⟨rfl, fun w same => by cases same⟩
      | _ => exact False.elim calls
    | _ => simp only [criticalSection, before, reduceCtorEq] at runs
  | wake u waited =>
    cases before : s.buffer.thread u with
    | ready w timedOut =>
      simp only [criticalSection, before, Option.some.injEq, Prod.mk.injEq] at runs
      obtain ⟨rfl, result⟩ := runs
      have exits : (manager.resume s.buffer.inner waited timedOut w).1 = exit :=
        congrArg Prod.fst result
      obtain ⟨item, rfl⟩ := linked.pushing i w (by rw [before]; rfl)
      exact exits ▸ pushes_pushLoop item _
    | _ => simp only [criticalSection, before, reduceCtorEq] at runs
  | _ => simp only [criticalSection, reduceCtorEq] at runs

/-- The answer of the dispatcher's call has what the call has taken out. -/
theorem answered_popped (engine : Engine.Threads.State F W) (pops : Pops exit) :
    (answered engine exit.result?).popped = engine.popped ++ exitPopped exit := by
  rcases pops with ⟨remaining, rfl⟩ | ⟨result, ends⟩
  · exact (List.append_nil _).symm
  · rw [exitPopped, ends]
    cases result with
    | none => exact (List.append_nil _).symm
    | some r => rfl

end

section Simulation
variable [Fintype ι] [DecidableEq ι] [F64 F] {manager : SensorBufferManager}
  {cfg : Engine.Threads.AggregationConfig F} {hash : String → Nat} {s t : Joined ι F cfg.workers}
  {next : Buffer.Threads.State (Option ι) (ReadingEnvelope F)}
  {action : Buffer.Threads.Action (Option ι) (ReadingEnvelope F)}

/-- Seen from the engine, a step leaves all as it was or is one of the engine's own. -/
def Matched (cfg : Engine.Threads.AggregationConfig F) (hash : String → Nat)
    (before after : Engine.Threads.State F cfg.workers) : Prop :=
  after = before ∨ ∃ action, Engine.Threads.step cfg hash before action = some after

omit [F64 F] in
theorem Linked.buffer (linked : Linked s) (calls : Calls s action)
    (moved : (threads manager).step s.buffer action = some next) :
    Linked (⟨next, heard manager cfg s action⟩ : Joined ι F cfg.workers) := by
  obtain ⟨u, exit, inner, runs, rfl⟩ | ⟨idle, thread, rfl⟩ := step_section moved
  · cases u with
    | none =>
      obtain ⟨at_pop, pops⟩ := section_none linked calls runs
      have hears : heard manager cfg s action = answered s.engine exit.result? := by rw [heard, runs]
      rw [hears]
      constructor
      · intro w waits
        obtain rfl := pending_leave_self waits
        refine ⟨at_pop, ?_⟩
        rcases pops with ⟨remaining, same⟩ | ⟨result, ends⟩
        · exact ⟨remaining, Exit.wait.inj same⟩
        · cases ends
      · intro i w waits
        rw [pending_leave_other (by simp)] at waits
        exact linked.pushing i w waits
      · rw [answered_popped s.engine pops, ← linked.popped]
        rfl
    | some i =>
      obtain ⟨taken, waiting⟩ := section_some linked calls runs
      have hears : heard manager cfg s action = s.engine := by rw [heard, runs]
      rw [hears]
      constructor
      · intro w waits
        rw [pending_leave_other (by simp)] at waits
        exact linked.popping w waits
      · intro j w waits
        by_cases here : some j = some i
        · cases here
          exact waiting w (pending_leave_self waits)
        · rw [pending_leave_other here] at waits
          exact linked.pushing j w waits
      · show s.buffer.popped ++ exitPopped exit = s.engine.popped
        rw [taken, List.append_nil]
        exact linked.popped
  · have hears : heard manager cfg s action = s.engine := by rw [heard, idle]
    have same := pending_moved (step_moves moved) idle
    rw [hears]
    constructor
    · intro w waits
      exact linked.popping w ((same none).symm.trans waits)
    · intro i w waits
      exact linked.pushing i w ((same (some i)).symm.trans waits)
    · exact linked.popped

theorem matched_buffer (linked : Linked s) (calls : Calls s action)
    (moved : (threads manager).step s.buffer action = some next) :
    Matched cfg hash (view s) (view (⟨next, heard manager cfg s action⟩ : Joined ι F cfg.workers)) := by
  obtain ⟨u, exit, inner, runs, rfl⟩ | ⟨idle, thread, rfl⟩ := step_section moved
  · have effect := criticalSection_effect runs
    generalize became : inner.core = after at effect
    have queue : inner.q = after.q := congrArg Core.q became
    have flag : inner.isShutdown = after.isShutdown := congrArg Core.isShutdown became
    cases u with
    | none =>
      obtain ⟨at_pop, pops⟩ := section_none linked calls runs
      have at_pop : s.engine.dispatcher = .pop := atPop_iff.mp at_pop
      have hears : heard manager cfg s action = answered s.engine exit.result? := by rw [heard, runs]
      rw [hears]
      cases effect with
      | accept item d room isOpen accepted popped =>
        rcases pops with ⟨remaining, same⟩ | ⟨result, ends⟩
        · cases same
        · cases ends
          cases accepted
      | deliver item rest d head accepted popped =>
        rcases pops with ⟨remaining, same⟩ | ⟨result, ends⟩
        · cases same
        · cases ends
          have there : result = some item := Option.toList_eq_singleton_iff.mp popped
          subst there
          have first : s.buffer.inner.q = item :: rest := head
          right
          refine ⟨.dispatcher true 0, ?_⟩
          simp only [Engine.Threads.step, Engine.Threads.dispatcherStep, view, at_pop, first, leave, queue,
            flag, answered, Exit.result?]
          rfl
      | decline d accepted popped drained =>
        rcases pops with ⟨remaining, same⟩ | ⟨result, ends⟩
        · cases same
        · cases ends
          have there : result = none := Option.toList_eq_nil_iff.mp popped
          subst there
          right
          refine ⟨.dispatcher false 0, ?_⟩
          simp only [Engine.Threads.step, Engine.Threads.dispatcherStep, view, at_pop, leave, queue,
            flag, answered, Exit.result?]
          rfl
      | suspend w =>
        left
        simp only [view, leave, queue, flag, answered, Exit.result?]
        rfl
      | close =>
        rcases pops with ⟨remaining, same⟩ | ⟨result, ends⟩
        · cases same
        · cases ends
    | some i =>
      obtain ⟨taken, -⟩ := section_some linked calls runs
      have hears : heard manager cfg s action = s.engine := by rw [heard, runs]
      rw [hears]
      cases effect with
      | accept item d room isOpen accepted popped =>
        have running : s.buffer.inner.isShutdown = false := isOpen
        right
        refine ⟨.produce item, ?_⟩
        simp only [Engine.Threads.step, view, running, leave, queue, flag]
        simp [Core.accept, Inner.core, running]
      | deliver item rest d head accepted popped =>
        have some_item : exitPopped (.notifyOne .notFull d) = [item] := popped
        cases taken.symm.trans some_item
      | decline d accepted popped drained =>
        left
        simp only [view, leave, queue, flag]
        rfl
      | suspend w =>
        left
        simp only [view, leave, queue, flag]
        rfl
      | close =>
        right
        refine ⟨.closeSource, ?_⟩
        simp only [Engine.Threads.step, view, leave, queue, flag]
        rfl
  · have hears : heard manager cfg s action = s.engine := by rw [heard, idle]
    rw [hears]
    exact Or.inl rfl

omit [Fintype ι] [DecidableEq ι] in
/-- The engine's own steps touch neither the queue nor the flag. -/
theorem keeps_source {a : Engine.Threads.Action F cfg.workers}
    {before after : Engine.Threads.State F cfg.workers}
    (moved : Engine.Steps.Moves cfg hash before a after) (free : Free s a)
    (same : before.dispatcher = s.engine.dispatcher) :
    after.queue = before.queue ∧ after.sourceShut = before.sourceShut ∧ after.popped = before.popped := by
  cases moved with
  | popSome now r rest at_pc head => exact absurd (atPop_iff.mpr (same.symm.trans at_pc)) free.1
  | popNone now at_pc => exact absurd (atPop_iff.mpr (same.symm.trans at_pc)) free.1
  | produce | closeSource => exact free.elim
  | _ => exact ⟨rfl, rfl, rfl⟩

omit [Fintype ι] [DecidableEq ι] in
/-- Only the dispatcher's own steps move it. -/
theorem keeps_dispatcher {a : Engine.Threads.Action F cfg.workers}
    {before after : Engine.Threads.State F cfg.workers}
    (moved : Engine.Steps.Moves cfg hash before a after) :
    after.dispatcher = before.dispatcher ∨ ∃ go now, a = .dispatcher go now := by
  cases a with
  | dispatcher go now => exact Or.inr ⟨go, now, rfl⟩
  | _ =>
    left
    cases moved <;> rfl

omit [Fintype ι] [DecidableEq ι] in
theorem Linked.engine (linked : Linked s) {a : Engine.Threads.Action F cfg.workers} (free : Free s a)
    {engine : Engine.Threads.State F cfg.workers}
    (moved : Engine.Threads.step cfg hash (view s) a = some engine) :
    Linked { s with engine } ∧ view { s with engine } = engine := by
  have stepped : (Engine.Threads.engine cfg hash 0).step (view s) a = some engine := moved
  have moves := Engine.Steps.step_moves cfg hash stepped
  obtain ⟨queue, flag, popped⟩ := keeps_source moves free rfl
  constructor
  · constructor
    · intro w waits
      obtain ⟨at_pop, form⟩ := linked.popping w waits
      refine ⟨?_, form⟩
      rcases keeps_dispatcher moves with same | ⟨go, now, rfl⟩
      · rw [same]
        exact at_pop
      · rw [pending_outside free.2] at waits
        cases waits
    · exact linked.pushing
    · rw [popped]
      exact linked.popped
  · show { engine with queue := (view s).queue, sourceShut := (view s).sourceShut } = engine
    rw [← queue, ← flag]

/-- The engine over the buffer does nothing that the engine cannot do over its own queue. -/
theorem step_matched (linked : Linked s) {event : Event ι F cfg.workers} {started : SystemTime}
    (moved : (joined manager cfg hash started).step s event = some t) :
    Linked t ∧ Matched cfg hash (view s) (view t) ∧
      (t.buffer = s.buffer ∨ ∃ action, (threads manager).step s.buffer action = some t.buffer) := by
  change OverBuffer.step manager cfg hash s event = some t at moved
  cases event with
  | buffer action =>
    rw [OverBuffer.step, Option.ite_none_right_eq_some] at moved
    obtain ⟨calls, moved⟩ := moved
    obtain ⟨next, stepped, rfl⟩ := Option.map_eq_some_iff.mp moved
    exact ⟨linked.buffer calls stepped, matched_buffer linked calls stepped, Or.inr ⟨action, stepped⟩⟩
  | engine action =>
    rw [OverBuffer.step, Option.ite_none_right_eq_some] at moved
    obtain ⟨free, moved⟩ := moved
    obtain ⟨engine, stepped, rfl⟩ := Option.map_eq_some_iff.mp moved
    obtain ⟨after, same⟩ := linked.engine free stepped
    refine ⟨after, Or.inr ⟨action, ?_⟩, Or.inl rfl⟩
    rw [same]
    exact stepped

/-- What is reached over the buffer is reached by the engine and by the buffer's threads. -/
structure Refines (manager : SensorBufferManager) (cfg : Engine.Threads.AggregationConfig F)
    (hash : String → Nat) (started : SystemTime) (s : Joined ι F cfg.workers) : Prop where
  linked : Linked s
  engine : (Engine.Threads.engine cfg hash started).Reachable (view s)
  buffer : (threads manager).Reachable s.buffer

theorem reachable_refines {started : SystemTime} (reach : (joined manager cfg hash started).Reachable s) :
    Refines manager cfg hash started s := by
  apply System.Reaches.invariant reach (Refines manager cfg hash started)
  · refine ⟨⟨?_, ?_, rfl⟩, System.ReachesUnder.refl _, System.ReachesUnder.refl _⟩
    · exact fun w waits => by cases waits
    · exact fun i w waits => by cases waits
  · intro u event v refines moved
    obtain ⟨linked, matched, buffer⟩ := step_matched refines.linked moved
    refine ⟨linked, ?_, ?_⟩
    · rcases matched with same | ⟨action, stepped⟩
      · rw [same]
        exact refines.engine
      · exact refines.engine.tail stepped
    · rcases buffer with same | ⟨action, stepped⟩
      · rw [same]
        exact refines.buffer
      · exact refines.buffer.tail stepped

end Simulation

/-- Any threads that push into the buffer or shut it down, in any interleaving with the engine: what the
engine's threads see is a state of the engine over a plain queue, and every reading the buffer has
accepted is in a frame that describes it exactly, in the window being collected or still in the buffer,
in the order in which it was accepted. -/
theorem accepted_accounted [Fintype ι] [DecidableEq ι] [F64 F] (manager : SensorBufferManager)
    (cfg : Engine.Threads.AggregationConfig F) (hash : String → Nat) (started : SystemTime)
    (s : Joined ι F cfg.workers) (reach : (joined manager cfg hash started).Reachable s) :
    (Engine.Threads.engine cfg hash started).Reachable (view s) ∧
      s.buffer.accepted =
        s.engine.emitted.flatMap Prod.snd ++ s.engine.window ++ s.buffer.inner.q ∧
      s.buffer.inner.q.length ≤ manager.capacity ∧
      ∀ (k : Nat) (frame : AggregatedFrame F) (readings : List (ReadingEnvelope F)),
        s.engine.emitted[k]? = some (frame, readings) → Exact cfg.detection k readings frame := by
  have refines := reachable_refines reach
  have recorded := Engine.Exactness.recorded_reachable refines.engine
  have lossless := Buffer.Fifo.reachable_lossless refines.buffer
  refine ⟨refines.engine, ?_, ?_, recorded.exact⟩
  · have popped : s.engine.popped = s.engine.emitted.flatMap Prod.snd ++ s.engine.window := recorded.popped
    rw [← popped, ← refines.linked.popped]
    exact lossless.order.symm
  · exact lossless.length_le.trans lossless.watermark_le

/-- The second `push` waits until the dispatcher has popped the first reading, of which a frame is made. -/
def handedOn : List (Event (Fin 1) Int 2) :=
  let go : Event (Fin 1) Int 2 := .engine (.dispatcher true 5)
  let reader : Option (Fin 1) := some ⟨0, Nat.one_pos⟩
  [.buffer (.call reader (.push ⟨"a", 1, 7⟩)), .buffer (.notify reader none),
    .buffer (.call reader (.push ⟨"bb", 2, 9⟩)), go, go, .buffer (.call none (.popTimeout 10)),
    .buffer (.notify none (some reader)), .buffer (.wake reader 3), go, go, go, go] ++
    List.replicate 5 (.engine (.worker ⟨1, Nat.one_lt_two⟩)) ++
    List.replicate 3 (.engine (.worker ⟨0, Nat.two_pos⟩)) ++ [go, go, go]

set_option maxRecDepth 8000 in
theorem accepted_accounted_handedOn :
    ∃ s : Joined (Fin 1) Int 2,
      (joined ⟨1, Nat.one_pos⟩ (Engine.Exactness.twoWorkers 4) String.length 0).run handedOn = some s ∧
      s.engine.emitted.length = 1 ∧ s.buffer.inner.q.length = 1 ∧ s.buffer.inner.pushWaitCount = 1 ∧
      s.buffer.accepted =
        s.engine.emitted.flatMap Prod.snd ++ s.engine.window ++ s.buffer.inner.q := by
  let system : System (Joined (Fin 1) Int 2) (Event (Fin 1) Int 2) :=
    joined ⟨1, Nat.one_pos⟩ (Engine.Exactness.twoWorkers 4) String.length 0
  let s := (system.run handedOn).get (by decide)
  have replay : system.run handedOn = some s := (Option.some_get _).symm
  have accounted := accepted_accounted ⟨1, Nat.one_pos⟩ (Engine.Exactness.twoWorkers 4) String.length 0 s
    (System.reachable_of_run replay)
  exact ⟨s, replay, by decide, by decide, by decide, accounted.2.1⟩

end SensorGateway.Engine.OverBuffer

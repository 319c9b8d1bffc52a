import SensorGateway.Gateway.Steps

/-! Which critical sections each party of the gateway runs, and what holds of the gateway around them:
who is inside which call, and what has been shut down when the dispatcher and the consumer go on. -/

namespace SensorGateway.Gateway.Sections
open SensorGateway.Lib.Transition Buffer.Manager Threads Steps
open Buffer.Threads (Thread leave exitThread exitOthers moveThread moveThread_self threads)
variable {T : Type} {cfg : GatewayConfig}

def inLoop : Dispatcher → Bool
  | .fail => false
  | .ended => false
  | _ => true

/-- The buffer has been shut down. -/
def shut {readers : Nat} (s : State readers T) : Bool := s.buffer.inner.isShutdown

/-- A wait the party can be in where it is. -/
def fits {readers : Nat} (s : State readers T) : Party readers → Wait T → Prop
  | .reader r, .push item => (s.reader r).pc = .push item
  | .dispatcher, .popTimeout _ => s.dispatcher = .pop
  | _, _ => False

/-- The section ends the call without waking everybody. -/
def Ends (exit : Exit T) (d : Done T) : Prop := exit = .done d ∨ ∃ condvar, exit = .notifyOne condvar d

/-- The critical sections of the gateway. -/
inductive Ran (s : State cfg.readers T) : Party cfg.readers → Exit T → Inner T → Prop
  | blocked (r item inner) (at_pc : (s.reader r).pc = .push item)
      (full : cfg.buffer.capacity ≤ s.buffer.inner.q.length)
      (isOpen : s.buffer.inner.isShutdown = false) (core : inner.core = s.buffer.inner.core) :
      Ran s (.reader r) (.wait (.push item)) inner
  | pushed (r item exit inner result) (at_pc : (s.reader r).pc = .push item)
      (through : ¬(cfg.buffer.capacity ≤ s.buffer.inner.q.length ∧ s.buffer.inner.isShutdown = false))
      (ends : Ends exit (.push item result)) (same : inner.isShutdown = s.buffer.inner.isShutdown) :
      Ran s (.reader r) exit inner
  | starved (remaining inner) (at_pc : s.dispatcher = .pop) (empty : s.buffer.inner.q = [])
      (core : inner.core = s.buffer.inner.core) : Ran s .dispatcher (.wait (.popTimeout remaining)) inner
  | popped (exit inner result) (at_pc : s.dispatcher = .pop) (ends : Ends exit (.popTimeout result))
      (same : inner.isShutdown = s.buffer.inner.isShutdown) : Ran s .dispatcher exit inner
  | closed (t) (at_pc : t = .consumer ∧ s.consumer = .shutdownBuffer ∨
        t = .main ∧ s.main = .shutdownBuffer) :
      Ran s t (.notifyAll .shutdown) { s.buffer.inner with isShutdown := true }

variable {s next : State cfg.readers T}

theorem ran_pushLoop {r : Fin cfg.readers} {item : T} (at_pc : (s.reader r).pc = .push item)
    {inner : Inner T} (core : inner.core = s.buffer.inner.core) :
    Ran s (.reader r) (cfg.buffer.pushLoop item inner).1 (cfg.buffer.pushLoop item inner).2 := by
  have queue : inner.q = s.buffer.inner.q := congrArg Core.q core
  have flag : inner.isShutdown = s.buffer.inner.isShutdown := congrArg Core.isShutdown core
  unfold SensorBufferManager.pushLoop
  by_cases full : cfg.buffer.capacity ≤ inner.q.length ∧ inner.isShutdown = false
  · rw [if_pos full]
    exact Ran.blocked r item _ at_pc (queue ▸ full.1) (flag ▸ full.2) core
  · rw [if_neg full]
    have through := full
    rw [queue, flag] at through
    by_cases closed : inner.isShutdown = true
    · rw [if_pos closed]
      exact Ran.pushed r item _ _ _ at_pc through (Or.inl rfl) flag
    · rw [if_neg closed]
      exact Ran.pushed r item _ _ _ at_pc through (Or.inr ⟨_, rfl⟩) flag

theorem ran_popTimeout (at_pc : s.dispatcher = .pop) (remaining : Nat) {inner : Inner T}
    (core : inner.core = s.buffer.inner.core) :
    Ran s .dispatcher (SensorBufferManager.popTimeout remaining inner).1
      (SensorBufferManager.popTimeout remaining inner).2 := by
  have queue : inner.q = s.buffer.inner.q := congrArg Core.q core
  have flag : inner.isShutdown = s.buffer.inner.isShutdown := congrArg Core.isShutdown core
  unfold SensorBufferManager.popTimeout
  by_cases idle : inner.q = [] ∧ inner.isShutdown = false
  · rw [if_pos idle]
    by_cases expired : remaining = 0
    · rw [if_pos expired]
      exact Ran.popped _ _ none at_pc (Or.inl rfl) flag
    · rw [if_neg expired]
      exact Ran.starved remaining _ at_pc (queue ▸ idle.1) core
  · rw [if_neg idle]
    unfold Inner.popFront
    cases inner.q with
    | nil => exact Ran.popped _ _ none at_pc (Or.inl rfl) flag
    | cons item rest => exact Ran.popped _ _ (some item) at_pc (Or.inr ⟨_, rfl⟩) flag

theorem ran_call {t : Party cfg.readers} {c : Call T}
    (calls : nextCall cfg.sourcePopTimeout s t = some c) :
    Ran s t (cfg.buffer.enter s.buffer.inner c).1 (cfg.buffer.enter s.buffer.inner c).2 := by
  cases t with
  | reader r =>
    cases at_pc : (s.reader r).pc <;>
      simp only [nextCall, at_pc, Option.some.injEq, reduceCtorEq] at calls
    next item =>
    subst calls
    show Ran s (.reader r) (cfg.buffer.push item s.buffer.inner).1
      (cfg.buffer.push item s.buffer.inner).2
    unfold SensorBufferManager.push
    by_cases closed : s.buffer.inner.isShutdown = true
    · rw [if_pos closed]
      exact Ran.pushed r item _ _ _ at_pc (by simp [closed]) (Or.inl rfl) rfl
    · rw [if_neg closed]
      exact ran_pushLoop at_pc rfl
  | dispatcher =>
    rw [nextCall, Option.ite_none_right_eq_some, Option.some.injEq] at calls
    obtain ⟨at_pc, rfl⟩ := calls
    exact ran_popTimeout at_pc cfg.sourcePopTimeout rfl
  | consumer =>
    rw [nextCall, Option.ite_none_right_eq_some, Option.some.injEq] at calls
    obtain ⟨at_pc, rfl⟩ := calls
    exact Ran.closed .consumer (Or.inl ⟨rfl, at_pc⟩)
  | main =>
    rw [nextCall, Option.ite_none_right_eq_some, Option.some.injEq] at calls
    obtain ⟨at_pc, rfl⟩ := calls
    exact Ran.closed .main (Or.inr ⟨rfl, at_pc⟩)

theorem ran_wake {t : Party cfg.readers} {w : Wait T} (fit : fits s t w) (waited : Nat)
    (timedOut : Bool) :
    Ran s t (cfg.buffer.resume s.buffer.inner waited timedOut w).1
      (cfg.buffer.resume s.buffer.inner waited timedOut w).2 := by
  cases t with
  | reader r =>
    cases w with
    | push item => exact ran_pushLoop fit rfl
    | popBlocking | popTimeout => exact fit.elim
  | dispatcher =>
    cases w with
    | popTimeout remaining =>
      unfold SensorBufferManager.resume
      cases timedOut with
      | true => exact Ran.popped _ _ none fit (Or.inl rfl) rfl
      | false => exact ran_popTimeout fit _ rfl
    | push | popBlocking => exact fit.elim
  | consumer | main => exact fit.elim

/-! What a section changes outside the buffer. -/

theorem Ends.result {exit : Exit T} {d : Done T} (ends : Ends exit d) : exit.result? = some d := by
  obtain rfl | ⟨condvar, rfl⟩ := ends <;> rfl

theorem Ends.not_inside {exit : Exit T} {d : Done T} (ends : Ends exit d) (w : Wait T) :
    ¬Inside (exitThread exit) w := by
  obtain rfl | ⟨condvar, rfl⟩ := ends <;> simp [exitThread, Inside]

/-- The other threads are woken or stay as they are. -/
theorem stirs_exitOthers (exit : Exit T) (thread : Party cfg.readers → Thread T)
    (t : Party cfg.readers) : Stirs (thread t) (exitOthers exit thread t) := by
  cases exit with
  | notifyAll d =>
    show Stirs (thread t) (thread t).woken
    cases thread t with
    | waiting w => exact Stirs.woken w false
    | _ => exact Stirs.same _
  | _ => exact Stirs.same _

/-- A section leaves its thread waiting or ends its call. -/
theorem lockStep_cases {motive : State cfg.readers T → Prop} {t : Party cfg.readers} {exit : Exit T}
    {inner : Inner T} (waits : motive { s with buffer := leave s.buffer t exit inner })
    (ends : ∀ d, motive (returned { s with buffer := leave s.buffer t exit inner } t d)) :
    motive (lockStep s t exit inner) := by
  unfold lockStep
  cases exit.result? with
  | none => exact waits
  | some d => exact ends d

theorem returned_rest (s : State cfg.readers T) (t : Party cfg.readers) (d : Done T) :
    (returned s t d).buffer = s.buffer ∧ (returned s t d).engineShutdown = s.engineShutdown ∧
      (returned s t d).frames = s.frames ∧ (returned s t d).sawData = s.sawData := by
  unfold returned
  split <;> exact ⟨rfl, rfl, rfl, rfl⟩

theorem lockStep_buffer (s : State cfg.readers T) (t : Party cfg.readers) (exit : Exit T)
    (inner : Inner T) : (lockStep s t exit inner).buffer = leave s.buffer t exit inner :=
  lockStep_cases (motive := fun after => after.buffer = leave s.buffer t exit inner) rfl
    (fun d => (returned_rest _ t d).1)

theorem lockStep_thread (s : State cfg.readers T) (t : Party cfg.readers) (exit : Exit T)
    (inner : Inner T) :
    (lockStep s t exit inner).buffer.thread t = exitThread exit ∧
      ∀ u, u ≠ t → Stirs (s.buffer.thread u) ((lockStep s t exit inner).buffer.thread u) := by
  rw [lockStep_buffer]
  constructor
  · exact Function.update_self ..
  · intro u other
    dsimp only [leave]
    rw [Function.update_of_ne other]
    exact stirs_exitOthers exit s.buffer.thread u

section Others
variable (s : State cfg.readers T) {t : Party cfg.readers} (exit : Exit T) (inner : Inner T)

theorem lockStep_reader {r : Fin cfg.readers} (other : t ≠ .reader r) :
    (lockStep s t exit inner).reader r = s.reader r := by
  apply lockStep_cases (motive := fun after => after.reader r = s.reader r) rfl
  intro d
  unfold returned
  split <;> first | rfl | exact Function.update_of_ne (fun same => other (by rw [same])) _ _

theorem lockStep_dispatcher (other : t ≠ .dispatcher) :
    (lockStep s t exit inner).dispatcher = s.dispatcher := by
  apply lockStep_cases (motive := fun after => after.dispatcher = s.dispatcher) rfl
  intro d
  unfold returned
  split <;> first | rfl | exact absurd rfl other

theorem lockStep_consumer (other : t ≠ .consumer) :
    (lockStep s t exit inner).consumer = s.consumer := by
  apply lockStep_cases (motive := fun after => after.consumer = s.consumer) rfl
  intro d
  unfold returned
  split <;> first | rfl | exact absurd rfl other

theorem lockStep_rest (t : Party cfg.readers) :
    (lockStep s t exit inner).engineShutdown = s.engineShutdown ∧
      (lockStep s t exit inner).frames = s.frames ∧ (lockStep s t exit inner).sawData = s.sawData :=
  lockStep_cases
    (motive := fun after => after.engineShutdown = s.engineShutdown ∧ after.frames = s.frames ∧
      after.sawData = s.sawData) ⟨rfl, rfl, rfl⟩
    (fun d => (returned_rest _ t d).2)

end Others

theorem lockStep_ends (s : State cfg.readers T) (t : Party cfg.readers) {exit : Exit T} {d : Done T}
    (ends : Ends exit d) (inner : Inner T) :
    lockStep s t exit inner = returned { s with buffer := leave s.buffer t exit inner } t d := by
  rw [lockStep, ends.result]

/-- A notification that is owed can be given, to somebody or to nobody. -/
theorem exists_notify {t : Party cfg.readers} {condvar : Condvar} {d : Done T}
    (thread : s.buffer.thread t = .notifying condvar d) :
    ∃ woken buffer, (gateway cfg).step s (.notify t woken) = some { s with buffer := buffer } ∧
      buffer.inner = s.buffer.inner ∧ buffer.popped = s.buffer.popped ∧
      buffer.thread t = .outside := by
  by_cases nobody : ∀ u, (s.buffer.thread u).waitsOn condvar = false
  · refine ⟨none, moveThread s.buffer t .outside, ?_, rfl, rfl, moveThread_self ..⟩
    simp only [gateway, step, bufferStep, threads, Buffer.Threads.step, thread, if_pos nobody]
  · obtain ⟨u, waits⟩ := not_forall.mp nobody
    have waiting : (s.buffer.thread u).waitsOn condvar = true := by simpa using waits
    refine ⟨some u, moveThread (moveThread s.buffer u (s.buffer.thread u).woken) t .outside, ?_, rfl,
      rfl, moveThread_self ..⟩
    simp only [gateway, step, bufferStep, threads, Buffer.Threads.step, thread, if_pos waiting]

end SensorGateway.Gateway.Sections

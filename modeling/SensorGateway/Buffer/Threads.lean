import Mathlib.Logic.Function.Basic
import Mathlib.Data.Fintype.Basic
import SensorGateway.Lib.Transition
import SensorGateway.Buffer.Manager

/-! Any number of threads sharing one `SensorBufferManager`. One action is one critical section,
one notification, or one thing the operating system does to a waiting thread; every thread may
call anything at any time. -/

namespace SensorGateway.Buffer.Threads
open SensorGateway.Lib.Transition Manager

/-- Where a thread is. It holds the lock in none of these places. -/
inductive Thread (T : Type*) where
  | outside
  | waiting (w : Wait T)
  /-- Its wait has ended; it has not got the lock back yet. -/
  | ready (w : Wait T) (timedOut : Bool)
  /-- It has given the lock up and not yet run its `notify_one`. -/
  | notifying (condvar : Condvar) (d : Done T)

structure State (ι T : Type*) where
  inner : Inner T
  thread : ι → Thread T
  /-- The items of the successful pushes, in the order in which they took the lock. -/
  accepted : List T
  /-- The items returned by pops, in the order in which they took the lock. -/
  popped : List T
  /-- The largest length of the queue so far. -/
  peak : Nat

inductive Action (ι T : Type*) where
  | call (t : ι) (c : Call T)
  /-- A ready thread gets the lock back, `waited` nanoseconds after its wait began. -/
  | wake (t : ι) (waited : Nat)
  | spurious (t : ι)
  | timeout (t : ι)
  /-- `notify_one`, reaching the named waiter, or nobody if no thread waits. -/
  | notify (t : ι) (woken : Option ι)
  deriving Repr

variable {ι T : Type*}

namespace Thread

/-- The wait set the thread is in. -/
def waitsOn (condvar : Condvar) : Thread T → Bool
  | .waiting w => decide (w.condvar = condvar)
  | _ => false

/-- What `notify_all` on both condition variables makes of a thread. -/
def woken : Thread T → Thread T
  | .waiting w => .ready w false
  | other => other

end Thread

/-- Where its critical section leaves a thread. -/
def exitThread : Exit T → Thread T
  | .wait w => .waiting w
  | .done _ | .notifyAll _ => .outside
  | .notifyOne condvar d => .notifying condvar d

/-- Where its critical section leaves the other threads. -/
def exitOthers : Exit T → (ι → Thread T) → ι → Thread T
  | .notifyAll _, thread => fun u => (thread u).woken
  | _, thread => thread

def exitAccepted (exit : Exit T) : List T :=
  match exit.result? with
  | some d => d.accepted
  | none => []

def exitPopped (exit : Exit T) : List T :=
  match exit.result? with
  | some d => d.popped
  | none => []

/-- The critical section an action runs, if it runs one: the thread, how it gives the lock up,
and what it leaves behind. -/
def criticalSection (manager : SensorBufferManager) (s : State ι T) :
    Action ι T → Option (ι × Exit T × Inner T)
  | .call t c =>
    match s.thread t with
    | .outside => some (t, manager.enter s.inner c)
    | _ => none
  | .wake t waited =>
    match s.thread t with
    | .ready w timedOut => some (t, manager.resume s.inner waited timedOut w)
    | _ => none
  | _ => none

/-- Whatever critical section an action runs, it does to the buffer only what a call can do. -/
theorem criticalSection_effect {manager : SensorBufferManager} {s : State ι T} {action : Action ι T}
    {t : ι} {exit : Exit T} {inner : Inner T}
    (runs : criticalSection manager s action = some (t, exit, inner)) :
    Effect manager.capacity s.inner.core exit inner.core := by
  cases action with
  | call u c =>
    cases before : s.thread u with
    | outside =>
      simp only [criticalSection, before, Option.some.injEq, Prod.mk.injEq] at runs
      have effect := enter_effect manager s.inner c
      rw [runs.2] at effect
      exact effect
    | _ => simp only [criticalSection, before, reduceCtorEq] at runs
  | wake u waited =>
    cases before : s.thread u with
    | ready w timedOut =>
      simp only [criticalSection, before, Option.some.injEq, Prod.mk.injEq] at runs
      have effect := resume_effect manager s.inner waited timedOut w
      rw [runs.2] at effect
      exact effect
    | _ => simp only [criticalSection, before, reduceCtorEq] at runs
  | _ => simp only [criticalSection, reduceCtorEq] at runs

variable [DecidableEq ι]

def leave (s : State ι T) (t : ι) (exit : Exit T) (inner : Inner T) : State ι T where
  inner := inner
  thread := Function.update (exitOthers exit s.thread) t (exitThread exit)
  accepted := s.accepted ++ exitAccepted exit
  popped := s.popped ++ exitPopped exit
  peak := max s.peak inner.q.length

def moveThread (s : State ι T) (t : ι) (after : Thread T) : State ι T :=
  { s with thread := Function.update s.thread t after }

@[simp] theorem moveThread_self (s : State ι T) (t : ι) (after : Thread T) :
    (moveThread s t after).thread t = after := Function.update_self ..

variable [Fintype ι]

def step (manager : SensorBufferManager) (s : State ι T) (action : Action ι T) :
    Option (State ι T) :=
  match action with
  | .call _ _ | .wake _ _ =>
    match criticalSection manager s action with
    | some (t, exit, inner) => some (leave s t exit inner)
    | none => none
  | .spurious t =>
    match s.thread t with
    | .waiting w => some (moveThread s t (.ready w false))
    | _ => none
  | .timeout t =>
    match s.thread t with
    | .waiting (.popTimeout remaining) => some (moveThread s t (.ready (.popTimeout remaining) true))
    | _ => none
  | .notify t woken =>
    match s.thread t with
    | .notifying condvar _ =>
      match woken with
      | none =>
        if ∀ u, (s.thread u).waitsOn condvar = false then some (moveThread s t .outside) else none
      | some u =>
        if (s.thread u).waitsOn condvar then
          some (moveThread (moveThread s u (s.thread u).woken) t .outside)
        else none
    | _ => none

/-- Threads on a fresh manager. -/
def threads (manager : SensorBufferManager) : System (State ι T) (Action ι T) where
  init := { inner := Inner.new, thread := fun _ => .outside, accepted := [], popped := [], peak := 0 }
  step := step manager

/-- Everything one action can do. -/
inductive Moves (manager : SensorBufferManager) (s : State ι T) : Action ι T → State ι T → Prop
  | call (t : ι) (c : Call T) (before : s.thread t = .outside) :
      Moves manager s (.call t c) (leave s t (manager.enter s.inner c).1 (manager.enter s.inner c).2)
  | wake (t : ι) (waited : Nat) (w : Wait T) (timedOut : Bool)
      (before : s.thread t = .ready w timedOut) :
      Moves manager s (.wake t waited)
        (leave s t (manager.resume s.inner waited timedOut w).1
          (manager.resume s.inner waited timedOut w).2)
  | spurious (t : ι) (w : Wait T) (before : s.thread t = .waiting w) :
      Moves manager s (.spurious t) (moveThread s t (.ready w false))
  | timeout (t : ι) (remaining : Nat) (before : s.thread t = .waiting (.popTimeout remaining)) :
      Moves manager s (.timeout t) (moveThread s t (.ready (.popTimeout remaining) true))
  | notifyNobody (t : ι) (condvar : Condvar) (d : Done T) (before : s.thread t = .notifying condvar d)
      (nobody : ∀ u, (s.thread u).waitsOn condvar = false) :
      Moves manager s (.notify t none) (moveThread s t .outside)
  | notify (t u : ι) (condvar : Condvar) (d : Done T) (w : Wait T)
      (before : s.thread t = .notifying condvar d) (waits : s.thread u = .waiting w)
      (same : w.condvar = condvar) :
      Moves manager s (.notify t (some u)) (moveThread (moveThread s u (.ready w false)) t .outside)

theorem step_moves {manager : SensorBufferManager} {s next : State ι T} {action : Action ι T}
    (moved : (threads manager).step s action = some next) : Moves manager s action next := by
  change step manager s action = some next at moved
  cases action with
  | call t c =>
    cases before : s.thread t <;>
      simp only [step, criticalSection, before, Option.some.injEq, reduceCtorEq] at moved
    exact moved ▸ Moves.call t c before
  | wake t waited =>
    cases before : s.thread t <;>
      simp only [step, criticalSection, before, Option.some.injEq, reduceCtorEq] at moved
    exact moved ▸ Moves.wake t waited _ _ before
  | spurious t =>
    cases before : s.thread t <;> simp only [step, before, Option.some.injEq, reduceCtorEq] at moved
    exact moved ▸ Moves.spurious t _ before
  | timeout t =>
    cases before : s.thread t with
    | waiting w =>
      cases w <;> simp only [step, before, Option.some.injEq, reduceCtorEq] at moved
      exact moved ▸ Moves.timeout t _ before
    | _ => simp only [step, before, reduceCtorEq] at moved
  | notify t woken =>
    cases before : s.thread t with
    | notifying condvar d =>
      cases woken with
      | none =>
        simp only [step, before, Option.ite_none_right_eq_some, Option.some.injEq] at moved
        exact moved.2 ▸ Moves.notifyNobody t condvar d before moved.1
      | some u =>
        cases there : s.thread u with
        | waiting w =>
          simp only [step, before, there, Thread.waitsOn, Thread.woken, decide_eq_true_eq,
            Option.ite_none_right_eq_some, Option.some.injEq] at moved
          exact moved.2 ▸ Moves.notify t u condvar d w before there moved.1
        | _ => simp [step, before, there, Thread.waitsOn] at moved
    | _ => simp only [step, before, reduceCtorEq] at moved

/-- An action runs one critical section or touches the threads only. -/
theorem step_section {manager : SensorBufferManager} {s next : State ι T} {action : Action ι T}
    (moved : (threads manager).step s action = some next) :
    (∃ t exit inner, criticalSection manager s action = some (t, exit, inner) ∧
      next = leave s t exit inner) ∨
    (criticalSection manager s action = none ∧ ∃ thread, next = { s with thread }) := by
  cases step_moves moved with
  | call t c before => exact Or.inl ⟨t, _, _, by simp [criticalSection, before], rfl⟩
  | wake t waited w timedOut before => exact Or.inl ⟨t, _, _, by simp [criticalSection, before], rfl⟩
  | spurious => exact Or.inr ⟨rfl, _, rfl⟩
  | timeout => exact Or.inr ⟨rfl, _, rfl⟩
  | notifyNobody => exact Or.inr ⟨rfl, _, rfl⟩
  | notify => exact Or.inr ⟨rfl, _, rfl⟩

end SensorGateway.Buffer.Threads

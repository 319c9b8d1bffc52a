import SensorGateway.Buffer.Threads

/-! Which call a thread on the buffer is in, and how the critical sections of the calls end. -/

namespace SensorGateway.Buffer.Calls
open Manager Threads

def Outside {T : Type} : Thread T → Prop
  | .outside => True
  | _ => False

instance outsideDecidable {T : Type} : (thread : Thread T) → Decidable (Outside thread)
  | .outside => .isTrue trivial
  | .waiting _ | .ready .. | .notifying .. => .isFalse id

/-- The wait a thread is in, or has come out of without the lock. -/
def pending {T : Type} : Thread T → Option (Wait T)
  | .waiting w | .ready w _ => some w
  | _ => none

variable {ι T : Type} {manager : SensorBufferManager}

theorem pending_outside {thread : Thread T} (outside : Outside thread) : pending thread = none := by
  cases thread with
  | outside => rfl
  | _ => exact outside.elim

theorem pending_woken (thread : Thread T) : pending thread.woken = pending thread := by
  cases thread <;> rfl

theorem pending_others (exit : Exit T) (thread : ι → Thread T) (u : ι) :
    pending (exitOthers exit thread u) = pending (thread u) := by
  cases exit with
  | notifyAll d => exact pending_woken (thread u)
  | _ => rfl

/-- A section that ends without a wait leaves nothing pending. -/
theorem pending_exit (exit : Exit T) {w : Wait T} (waits : pending (exitThread exit) = some w) :
    exit = .wait w := by
  cases exit with
  | wait other => exact congrArg Exit.wait (Option.some.inj waits)
  | _ => cases waits

/-- A thread that leaves no critical section stays in its wait, or out of any. -/
theorem pending_moved [Fintype ι] [DecidableEq ι] {s t : State ι T}
    {action : Action ι T} (moved : Moves manager s action t)
    (idle : criticalSection manager s action = none) (u : ι) :
    pending (t.thread u) = pending (s.thread u) := by
  have after {v : ι} {thread : Thread T} {r : State ι T}
      (same : pending thread = pending (r.thread v)) :
      pending ((moveThread r v thread).thread u) = pending (r.thread u) := by
    by_cases here : u = v
    · subst here
      rw [moveThread_self]
      exact same
    · exact congrArg pending (Function.update_of_ne here ..)
  cases moved with
  | call v c before => simp [criticalSection, before] at idle
  | wake v waited w timedOut before => simp [criticalSection, before] at idle
  | spurious v w before => exact after (by rw [before]; rfl)
  | timeout v remaining before => exact after (by rw [before]; rfl)
  | notifyNobody v condvar d before nobody => exact after (by rw [before]; rfl)
  | notify v x condvar d w before waits same =>
    have first : pending ((moveThread s x (.ready w false)).thread u) = pending (s.thread u) := by
      by_cases here : u = x
      · subst here
        rw [moveThread_self, waits]
        rfl
      · exact congrArg pending (Function.update_of_ne here ..)
    have second : pending (Thread.outside : Thread T) =
        pending ((moveThread s x (.ready w false)).thread v) := by
      have apart : v ≠ x := by
        rintro rfl
        cases before.symm.trans waits
      have kept : (moveThread s x (.ready w false)).thread v = s.thread v :=
        Function.update_of_ne apart ..
      rw [kept, before]
      rfl
    exact (after second).trans first

section
variable [DecidableEq ι] {s : State ι T} {u v : ι} {exit : Exit T} {inner : Inner T}

/-- The other threads stay in their waits, be they woken or not. -/
theorem pending_leave_other (apart : v ≠ u) :
    pending ((leave s u exit inner).thread v) = pending (s.thread v) :=
  (congrArg pending (Function.update_of_ne apart ..)).trans (pending_others exit _ v)

theorem pending_leave_self {w : Wait T} (waits : pending ((leave s u exit inner).thread u) = some w) :
    exit = .wait w := by
  have here : (leave s u exit inner).thread u = exitThread exit := Function.update_self ..
  rw [here] at waits
  exact pending_exit exit waits

end

/-- `pop_timeout` waits or answers. -/
def Pops (exit : Exit T) : Prop :=
  (∃ remaining, exit = .wait (.popTimeout remaining)) ∨ ∃ result, exit.result? = some (.popTimeout result)

/-- `push`, `try_push` and `shutdown` take nothing out, and only `push` waits. -/
def Pushes (exit : Exit T) : Prop :=
  exitPopped exit = [] ∧ ∀ w, exit = .wait w → ∃ item, w = .push item

theorem pops_popTimeout (remaining : Nat) (inner : Inner T) :
    Pops (SensorBufferManager.popTimeout remaining inner).1 := by
  unfold SensorBufferManager.popTimeout
  split
  · split
    · exact Or.inr ⟨none, rfl⟩
    · exact Or.inl ⟨remaining, rfl⟩
  · unfold Inner.popFront
    split
    · exact Or.inr ⟨none, rfl⟩
    · exact Or.inr ⟨_, rfl⟩

theorem pops_resume (inner : Inner T) (waited : Nat) (timedOut : Bool) (remaining : Nat) :
    Pops (manager.resume inner waited timedOut (.popTimeout remaining)).1 := by
  unfold SensorBufferManager.resume
  cases timedOut with
  | true => exact Or.inr ⟨none, rfl⟩
  | false => exact pops_popTimeout _ _

theorem pushes_pushLoop (item : T) (inner : Inner T) : Pushes (manager.pushLoop item inner).1 := by
  unfold SensorBufferManager.pushLoop
  split
  · exact ⟨rfl, fun w same => ⟨item, by cases same; rfl⟩⟩
  · split <;> exact ⟨rfl, fun w same => by cases same⟩

theorem pushes_push (item : T) (inner : Inner T) : Pushes (manager.push item inner).1 := by
  unfold SensorBufferManager.push
  split
  · exact ⟨rfl, fun w same => by cases same⟩
  · exact pushes_pushLoop item inner

theorem pushes_tryPush (item : T) (inner : Inner T) : Pushes (manager.tryPush item inner).1 := by
  unfold SensorBufferManager.tryPush
  split
  · exact ⟨rfl, fun w same => by cases same⟩
  · split <;> exact ⟨rfl, fun w same => by cases same⟩

end SensorGateway.Buffer.Calls

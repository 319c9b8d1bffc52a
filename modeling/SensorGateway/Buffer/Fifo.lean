import Mathlib.Data.Fintype.Prod
import SensorGateway.Buffer.Threads

/-! The bounded buffer is a lossless FIFO under every interleaving of its critical sections. -/

namespace SensorGateway.Buffer.Fifo
open SensorGateway.Lib.Transition Manager Threads
variable {ι T : Type*}

/-- What holds whenever the lock is free: the buffer against the items accepted and popped so far
and the largest length so far. -/
structure Lossless (capacity : Nat) (c : Core T) (accepted popped : List T) (peak : Nat) : Prop where
  order : popped ++ c.q = accepted
  balance : c.totalPushed = c.totalPopped + c.q.length
  length_le : c.q.length ≤ c.highWatermark
  watermark_le : c.highWatermark ≤ capacity
  watermark_peak : c.highWatermark = peak

/-- What one action may and may not do. -/
structure Careful (manager : SensorBufferManager) (s : State ι T) (action : Action ι T)
    (next : State ι T) : Prop where
  stays_shut : s.inner.isShutdown = true → next.inner.isShutdown = true
  refuses : s.inner.isShutdown = true → next.accepted = s.accepted
  /-- A section that waits, or ends a `push` or `try_push` with an error, changes nothing a user
  of the buffer sees. -/
  failure_frame : ∀ t exit inner, criticalSection manager s action = some (t, exit, inner) →
    (∀ d, exit.result? = some d → d.failed = true) → next.inner.core = s.inner.core
  hands_back : ∀ t item, action = .call t (.tryPush item) → s.inner.isShutdown = false →
    s.inner.q.length = manager.capacity →
    criticalSection manager s action = some (t, .done (.tryPush item (.error (.error item))), s.inner)
  drained : ∀ t exit inner, criticalSection manager s action = some (t, exit, inner) →
    exit.result? = some (.popBlocking none) →
    next.inner.isShutdown = true ∧ next.inner.q = []

/-- A failed `push` leaves the buffer as it was: no effect but `decline` and `suspend` fits it. -/
theorem failure_core {capacity : Nat} {c after : Core T} {exit : Exit T}
    (effect : Effect capacity c exit after)
    (failed : ∀ d, exit.result? = some d → d.failed = true) : after = c := by
  cases effect with
  | accept item d room isOpen accepted popped =>
    have bad := failed d rfl
    unfold Done.failed at bad
    split at bad <;> simp [Done.accepted] at accepted bad
  | deliver item rest d head accepted popped =>
    have bad := failed d rfl
    unfold Done.failed at bad
    split at bad <;> simp [Done.popped] at popped bad
  | close => simpa [Done.failed] using failed .shutdown rfl
  | decline => rfl
  | suspend => rfl

theorem drained_core {capacity : Nat} {c after : Core T} {exit : Exit T}
    (effect : Effect capacity c exit after) (empty : exit.result? = some (.popBlocking none)) :
    after.isShutdown = true ∧ after.q = [] := by
  cases effect with
  | accept item d room isOpen accepted popped =>
    simp only [Exit.result?, Option.some.injEq] at empty
    simp [empty, Done.accepted] at accepted
  | deliver item rest d head accepted popped =>
    simp only [Exit.result?, Option.some.injEq] at empty
    simp [empty, Done.popped] at popped
  | decline d accepted popped drained =>
    simp only [Exit.result?, Option.some.injEq] at empty
    exact drained empty
  | suspend => simp [Exit.result?] at empty
  | close => simp [Exit.result?] at empty

theorem shut_core {capacity : Nat} {c after : Core T} {exit : Exit T}
    (effect : Effect capacity c exit after) (shut : c.isShutdown = true) :
    after.isShutdown = true ∧ exitAccepted exit = [] := by
  cases effect with
  | accept item d room isOpen accepted popped => simp [shut] at isOpen
  | deliver item rest d head accepted popped => exact ⟨shut, accepted⟩
  | decline d accepted popped drained => exact ⟨shut, accepted⟩
  | suspend => exact ⟨shut, rfl⟩
  | close => exact ⟨rfl, rfl⟩

theorem Lossless.idle {capacity : Nat} {c : Core T} {accepted popped : List T} {peak : Nat}
    (held : Lossless capacity c accepted popped peak) :
    Lossless capacity c (accepted ++ []) (popped ++ []) (max peak c.q.length) := by
  have seen : max peak c.q.length = peak := by
    rw [← held.watermark_peak]
    exact Nat.max_eq_left held.length_le
  rw [List.append_nil, List.append_nil, seen]
  exact held

/-- One critical section keeps the queue lossless. -/
theorem effect_lossless {capacity : Nat} {c after : Core T} {exit : Exit T}
    {accepted popped : List T} {peak : Nat} (held : Lossless capacity c accepted popped peak)
    (effect : Effect capacity c exit after) :
    Lossless capacity after (accepted ++ exitAccepted exit) (popped ++ exitPopped exit)
      (max peak after.q.length) := by
  have length_le := held.length_le
  have watermark_le := held.watermark_le
  have watermark_peak := held.watermark_peak
  have balance := held.balance
  cases effect with
  | accept item d room isOpen taken given =>
    constructor
    · simp [exitAccepted, exitPopped, Exit.result?, taken, given, Core.accept, ← held.order]
    · simp only [Core.accept, List.length_append, List.length_singleton]
      omega
    · simp [Core.accept]
    · simp only [Core.accept]
      omega
    · simp only [Core.accept, List.length_append, List.length_singleton, watermark_peak]
  | deliver item rest d head taken given =>
    have longer : c.q.length = rest.length + 1 := by rw [head, List.length_cons]
    constructor
    · simp [exitAccepted, exitPopped, Exit.result?, taken, given, Core.deliver, ← held.order, head]
    · simp only [Core.deliver]
      omega
    · simp only [Core.deliver]
      omega
    · exact watermark_le
    · simp only [Core.deliver]
      omega
  | decline d taken given drained =>
    simp only [exitAccepted, exitPopped, Exit.result?, taken, given]
    exact held.idle
  | suspend w => exact held.idle
  | close =>
    have same := held.idle
    exact ⟨same.order, same.balance, same.length_le, same.watermark_le, same.watermark_peak⟩

variable [DecidableEq ι] [Fintype ι]

theorem reachable_lossless {manager : SensorBufferManager} {s : State ι T}
    (reach : (threads manager).Reachable s) :
    Lossless manager.capacity s.inner.core s.accepted s.popped s.peak := by
  apply System.Reaches.invariant reach
    (fun s => Lossless manager.capacity s.inner.core s.accepted s.popped s.peak)
  · exact ⟨rfl, rfl, Nat.le_refl 0, Nat.zero_le _, rfl⟩
  · intro u action v held moved
    obtain ⟨t, exit, inner, runs, rfl⟩ | ⟨-, thread, rfl⟩ := step_section moved
    · exact effect_lossless held (criticalSection_effect runs)
    · exact held

theorem step_careful {manager : SensorBufferManager} {s next : State ι T} {action : Action ι T}
    (moved : (threads manager).step s action = some next) : Careful manager s action next := by
  obtain ⟨u, exit', inner', runs', rfl⟩ | ⟨idle, thread, rfl⟩ := step_section moved
  · have effect := criticalSection_effect runs'
    constructor
    · exact fun shut => (shut_core effect shut).1
    · intro shut
      simp only [leave, (shut_core effect shut).2, List.append_nil]
    · intro t exit inner runs failed
      simp only [runs, Option.some.injEq, Prod.mk.injEq] at runs'
      obtain ⟨rfl, rfl, rfl⟩ := runs'
      exact failure_core effect failed
    · rintro t item rfl isOpen full
      cases before : s.thread t <;> simp only [criticalSection, before, reduceCtorEq] at runs'
      simp [criticalSection, before, SensorBufferManager.enter, SensorBufferManager.tryPush, isOpen, full]
    · intro t exit inner runs empty
      simp only [runs, Option.some.injEq, Prod.mk.injEq] at runs'
      obtain ⟨rfl, rfl, rfl⟩ := runs'
      exact drained_core effect empty
  · constructor
    · exact id
    · exact fun _ => rfl
    · exact fun _ _ _ _ _ => rfl
    · rintro t item rfl isOpen full
      change step manager s (.call t (.tryPush item)) = _ at moved
      simp [step, idle] at moved
    · intro t exit inner runs
      simp [idle] at runs

/-- Every reachable state keeps the accepted items in order and the counters exact, and every action
from it respects shutdown, leaves the buffer alone when it fails, and answers `None` to a
`pop_blocking` only once the buffer is shut down and drained. -/
theorem lossless_fifo (manager : SensorBufferManager) (s : State ι T)
    (reach : (threads manager).Reachable s) :
    Lossless manager.capacity s.inner.core s.accepted s.popped s.peak ∧
      ∀ action next, (threads manager).step s action = some next → Careful manager s action next :=
  ⟨reachable_lossless reach, fun _ _ moved => step_careful moved⟩

/-- A producer waits on a full buffer of one slot, a consumer pops, the producer is woken and gets
its item in. -/
def handover : List (Threads.Action (Fin 2) Nat) :=
  [.call 0 (.push 7), .notify 0 none, .call 0 (.push 8), .call 1 .popBlocking, .notify 1 (some 0),
    .wake 0 5, .notify 0 none]

theorem lossless_fifo_handover :
    ∃ s : State (Fin 2) Nat, (threads ⟨1, by decide⟩).Reachable s ∧ s.accepted = [7, 8] ∧
      s.popped = [7] ∧ Lossless 1 s.inner.core s.accepted s.popped s.peak := by
  let manager : SensorBufferManager := ⟨1, by decide⟩
  let s := ((threads manager).run handover).get (by decide)
  have reach : (threads manager).Reachable s :=
    System.reachable_of_run (Option.some_get _).symm
  exact ⟨s, reach, by decide, by decide, (lossless_fifo manager s reach).1⟩

end SensorGateway.Buffer.Fifo

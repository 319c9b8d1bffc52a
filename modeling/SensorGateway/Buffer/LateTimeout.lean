import SensorGateway.Buffer.Threads

/-! What `None` from a pop says once the buffer is shut down. A `pop_timeout` whose wait has timed
out returns without another look at the queue, whatever was pushed before it got the lock back. -/

namespace SensorGateway.Buffer.LateTimeout
open SensorGateway.Lib.Transition Manager Threads
variable {ι T : Type*}

/-- A pop that returns `None`. -/
def cameEmpty : Done T → Bool
  | .tryPop none | .popBlocking none | .popTimeout none => true
  | _ => false

/-- If the action ends a pop with `None` while the buffer is shut down, the queue is empty. -/
def NoneMeansDrained (manager : SensorBufferManager) (s : State ι T) (action : Action ι T)
    (next : State ι T) : Prop :=
  ∀ t exit inner d, criticalSection manager s action = some (t, exit, inner) →
    exit.result? = some d → cameEmpty d = true → next.inner.isShutdown = true → next.inner.q = []

/-- A `pop_timeout` that has timed out gets the lock back of a buffer that was shut down with
items in it. -/
def Overtaken (s : State ι T) (action : Action ι T) : Prop :=
  ∃ t waited remaining, action = .wake t waited ∧ s.thread t = .ready (.popTimeout remaining) true ∧
    s.inner.isShutdown = true ∧ s.inner.q ≠ []

/-- A section that returns `None` from a pop leaves an empty queue or had timed out. -/
def Looked (exit : Exit T) (after : Inner T) : Prop :=
  ∀ d, exit.result? = some d → cameEmpty d = true → after.q = []

theorem popFront_looked (inner : Inner T) (finish : Option T → Done T)
    (some_kept : ∀ item, cameEmpty (finish (some item)) = false) :
    Looked (inner.popFront finish).1 (inner.popFront finish).2 := by
  unfold Inner.popFront
  cases queue : inner.q with
  | nil => exact fun _ _ _ => queue
  | cons item rest =>
    intro d result empty
    simp only [Exit.result?, Option.some.injEq] at result
    simp [← result, some_kept] at empty

theorem popBlocking_looked (inner : Inner T) :
    Looked (SensorBufferManager.popBlocking inner).1 (SensorBufferManager.popBlocking inner).2 := by
  unfold SensorBufferManager.popBlocking
  split
  · simp [Looked, Exit.result?]
  · exact popFront_looked inner .popBlocking (fun _ => rfl)

theorem popTimeout_looked (remaining : Nat) (inner : Inner T) :
    Looked (SensorBufferManager.popTimeout remaining inner).1
      (SensorBufferManager.popTimeout remaining inner).2 := by
  unfold SensorBufferManager.popTimeout
  split
  next idle =>
    split
    · exact fun _ _ _ => idle.1
    · simp [Looked, Exit.result?]
  next => exact popFront_looked inner .popTimeout (fun _ => rfl)

/-- A `push` never ends as a pop. -/
theorem pushLoop_looked (manager : SensorBufferManager) (item : T) (inner : Inner T) :
    Looked (manager.pushLoop item inner).1 (manager.pushLoop item inner).2 := by
  unfold SensorBufferManager.pushLoop
  split
  · simp [Looked, Exit.result?]
  · split <;> simp [Looked, Exit.result?, cameEmpty]

theorem enter_looked (manager : SensorBufferManager) (inner : Inner T) (call : Call T) :
    Looked (manager.enter inner call).1 (manager.enter inner call).2 := by
  cases call with
  | push item =>
    show Looked (manager.push item inner).1 (manager.push item inner).2
    unfold SensorBufferManager.push
    split
    · simp [Looked, Exit.result?, cameEmpty]
    · exact pushLoop_looked manager item inner
  | tryPush item =>
    show Looked (manager.tryPush item inner).1 (manager.tryPush item inner).2
    unfold SensorBufferManager.tryPush
    split
    · simp [Looked, Exit.result?, cameEmpty]
    · split <;> simp [Looked, Exit.result?, cameEmpty]
  | tryPop => exact popFront_looked inner .tryPop (fun _ => rfl)
  | popBlocking => exact popBlocking_looked inner
  | popTimeout timeout => exact popTimeout_looked timeout inner
  | shutdown =>
    simp [Looked, SensorBufferManager.enter, SensorBufferManager.shutdown, Exit.result?, cameEmpty]

/-- After a wait only a `pop_timeout` that timed out goes without a look at the queue. -/
theorem resume_looked (manager : SensorBufferManager) (inner : Inner T) (waited : Nat)
    (timedOut : Bool) (w : Wait T) (inTime : ∀ remaining, w = .popTimeout remaining → timedOut = false) :
    Looked (manager.resume inner waited timedOut w).1 (manager.resume inner waited timedOut w).2 := by
  cases w with
  | push item => exact pushLoop_looked manager item _
  | popBlocking => exact popBlocking_looked _
  | popTimeout remaining =>
    unfold SensorBufferManager.resume
    rw [inTime remaining rfl]
    exact popTimeout_looked _ _

variable [DecidableEq ι] [Fintype ι]

/-- One action returns `None` from a shut down buffer with items in it exactly when it is a late
timeout. -/
theorem drained_iff {manager : SensorBufferManager} {s next : State ι T} {action : Action ι T}
    (moved : (threads manager).step s action = some next) :
    NoneMeansDrained manager s action next ↔ ¬ Overtaken s action := by
  cases step_moves moved with
  | call t c before =>
    constructor
    · rintro - ⟨_, _, _, other, -⟩
      simp at other
    · intro _ u exit inner d runs result empty _
      simp only [criticalSection, before, Option.some.injEq, Prod.mk.injEq] at runs
      have looked := enter_looked manager s.inner c
      rw [runs.2] at looked ⊢
      exact looked d result empty
  | wake t waited w timedOut before =>
    have section_eq : criticalSection manager s (.wake t waited) =
        some (t, manager.resume s.inner waited timedOut w) := by simp [criticalSection, before]
    constructor
    · rintro drained ⟨u, waited', remaining, same, ready, shut, left⟩
      cases same
      cases before.symm.trans ready
      exact left (drained t _ _ _ section_eq rfl rfl shut)
    · intro punctual u exit inner d runs result empty shut
      have same := section_eq.symm.trans runs
      simp only [Option.some.injEq, Prod.mk.injEq] at same
      obtain ⟨-, result_eq⟩ := same
      by_cases late : ∃ remaining, w = .popTimeout remaining ∧ timedOut = true
      · obtain ⟨remaining, rfl, rfl⟩ := late
        by_contra left
        exact punctual ⟨t, waited, remaining, rfl, before, shut, left⟩
      · have looked := resume_looked manager s.inner waited timedOut w
          (fun remaining same => Bool.eq_false_iff.mpr (fun timed => late ⟨remaining, same, timed⟩))
        rw [result_eq] at looked ⊢
        exact looked d result empty
  | _ =>
    constructor
    · rintro - ⟨_, _, _, other, -⟩
      simp at other
    · intro _ u exit inner d runs
      exact absurd runs (by simp [criticalSection])

/-- In every run, every pop that returns `None` from a shut down buffer finds it drained, exactly
when the run has no late timeout. -/
theorem none_means_drained_iff (manager : SensorBufferManager) (schedule : List (Action ι T)) :
    (threads manager).EachStep (NoneMeansDrained manager) schedule ↔
      (threads manager).EachStep (fun s action _ => ¬ Overtaken s action) schedule :=
  System.eachStep_congr (fun _ _ _ _ moved => drained_iff moved) schedule

/-- A consumer times out; before it has the lock back a producer pushes and shuts the buffer down. -/
def pushThenShutdown (consumer producer : ι) : List (Threads.Action ι Nat) :=
  [.call consumer (.popTimeout 5), .timeout consumer, .call producer (.push 7),
    .notify producer none, .call producer .shutdown, .wake consumer 9]

/-- The consumer is told `None` by a shut down buffer that holds its item. -/
theorem none_with_item_left :
    ∃ s next : State (Fin 2) Nat, (threads ⟨4, by decide⟩).Reachable s ∧
      (threads ⟨4, by decide⟩).step s (.wake 0 9) = some next ∧
      next.inner.isShutdown = true ∧ next.inner.q = [7] ∧
      ¬ NoneMeansDrained ⟨4, by decide⟩ s (.wake 0 9) next := by
  let manager : SensorBufferManager := ⟨4, by decide⟩
  let s : State (Fin 2) Nat := ((threads manager).run (pushThenShutdown 0 1).dropLast).get (by decide)
  let next := ((threads manager).step s (.wake 0 9)).get (by decide)
  have reach : (threads manager).Reachable s := System.reachable_of_run (Option.some_get _).symm
  have moved : (threads manager).step s (.wake 0 9) = some next := (Option.some_get _).symm
  refine ⟨s, next, reach, moved, by decide, by decide, ?_⟩
  rw [drained_iff moved, not_not]
  exact ⟨0, 9, 5, rfl, rfl, by decide, by decide⟩

end SensorGateway.Buffer.LateTimeout

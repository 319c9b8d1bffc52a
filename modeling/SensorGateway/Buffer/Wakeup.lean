import Mathlib.Tactic.FinCases
import SensorGateway.Lib.Tally
import SensorGateway.Buffer.Threads

/-! No wakeup of the bounded buffer is lost. The invariant counts, for each condition variable, the
notifications still to come and the woken threads against the items or slots somebody could use. -/

namespace SensorGateway.Buffer.Wakeup
open SensorGateway.Lib.Transition SensorGateway.Lib.Tally Manager Threads
variable {ι T : Type*}

/-- What a waiter on the condition variable could take at once: items, or free slots. -/
def supply (capacity : Nat) (inner : Inner T) : Condvar → Nat
  | .notEmpty => inner.q.length
  | .notFull => capacity - inner.q.length

/-- A thread that will still act on the condition variable: one about to notify it, or one woken
from it by a notification or spuriously. A thread whose wait timed out only leaves. -/
def credit (condvar : Condvar) : Thread T → Nat
  | .ready w false => if w.condvar = condvar then 1 else 0
  | .notifying about _ => if about = condvar then 1 else 0
  | _ => 0

@[simp] theorem credit_outside (condvar : Condvar) : credit (T := T) condvar .outside = 0 := rfl

@[simp] theorem credit_waiting (condvar : Condvar) (w : Wait T) : credit condvar (.waiting w) = 0 := rfl

/-- No notification is pending and no thread is ready or inside a critical section. -/
def Quiet (s : State ι T) : Prop :=
  ∀ t, s.thread t = .outside ∨ ∃ w, s.thread t = .waiting w

/-- A section that ends in a wait leaves its thread nothing to take, and every section pays for what
it supplies: with its own credit, unless it leaves nothing or the buffer is shut down. -/
structure Pays (capacity : Nat) (inner after : Inner T) (before : Condvar → Nat) (exit : Exit T) :
    Prop where
  waits : ∀ w, exit = .wait w → after.isShutdown = false ∧ supply capacity after w.condvar = 0
  pays : ∀ condvar, after.isShutdown = true ∨ supply capacity after condvar = 0 ∨
    supply capacity after condvar + before condvar ≤
      supply capacity inner condvar + credit condvar (exitThread exit)

theorem Pays.of_queue {capacity : Nat} {inner other after : Inner T} {before : Condvar → Nat}
    {exit : Exit T} (paid : Pays capacity other after before exit) (same : other.q = inner.q) :
    Pays capacity inner after before exit := by
  have supplied : supply capacity other = supply capacity inner := by
    funext condvar
    cases condvar <;> simp only [supply, same]
  exact ⟨paid.waits, supplied ▸ paid.pays⟩

variable (manager : SensorBufferManager)

theorem pushLoop_pays (item : T) (inner : Inner T) (before : Condvar → Nat)
    (waiter : before .notEmpty = 0 ∧ before .notFull ≤ 1) :
    Pays manager.capacity inner (manager.pushLoop item inner).2 before
      (manager.pushLoop item inner).1 := by
  unfold SensorBufferManager.pushLoop
  by_cases full : manager.capacity ≤ inner.q.length ∧ inner.isShutdown = false
  · rw [if_pos full]
    constructor
    · rintro w ⟨⟩
      exact ⟨full.2, Nat.sub_eq_zero_of_le full.1⟩
    · intro condvar
      cases condvar with
      | notEmpty =>
        right; right
        simp [supply, waiter.1]
      | notFull => exact Or.inr (Or.inl (Nat.sub_eq_zero_of_le full.1))
  · rw [if_neg full]
    cases shut : inner.isShutdown with
    | true =>
      simp only [if_true]
      exact ⟨by simp, fun _ => Or.inl shut⟩
    | false =>
      have room : inner.q.length < manager.capacity := by simpa [shut] using full
      simp only [Bool.false_eq_true, if_false]
      constructor
      · simp
      · intro condvar
        right; right
        cases condvar with
        | notEmpty => simp [supply, Inner.pushBack, exitThread, credit, waiter.1]
        | notFull =>
          simp only [supply, Inner.pushBack, exitThread, credit, List.length_append,
            List.length_singleton, reduceCtorEq, if_false]
          have := waiter.2
          omega

/-- A pop of the kind `finish`, once its loop lets it through. -/
theorem popFront_pays (finish : Option T → Done T) (inner : Inner T) (before : Condvar → Nat)
    (waiter : before .notEmpty ≤ 1 ∧ before .notFull = 0) :
    Pays manager.capacity inner (inner.popFront finish).2 before (inner.popFront finish).1 := by
  unfold Inner.popFront
  cases queue : inner.q with
  | nil =>
    constructor
    · simp
    · intro condvar
      right
      cases condvar with
      | notEmpty => exact Or.inl (by simp [supply, queue])
      | notFull => exact Or.inr (by simp [supply, waiter.2])
  | cons item rest =>
    constructor
    · simp
    · intro condvar
      right; right
      cases condvar with
      | notEmpty =>
        simp only [supply, queue, exitThread, credit, List.length_cons, reduceCtorEq, if_false]
        have := waiter.1
        omega
      | notFull =>
        simp only [supply, queue, exitThread, credit, List.length_cons, if_true, waiter.2]
        omega

/-- A pop that finds the buffer empty and open, and waits or gives up. -/
theorem idle_pays (inner after : Inner T) (exit : Exit T) (before : Condvar → Nat)
    (idle : inner.q = [] ∧ inner.isShutdown = false) (sameQueue : after.q = inner.q)
    (sameFlag : after.isShutdown = inner.isShutdown)
    (waits : ∀ w, exit = .wait w → w.condvar = .notEmpty) (waiter : before .notFull = 0) :
    Pays manager.capacity inner after before exit := by
  constructor
  · intro w there
    exact ⟨by rw [sameFlag, idle.2], by simp [supply, waits w there, sameQueue, idle.1]⟩
  · intro condvar
    right
    cases condvar with
    | notEmpty => exact Or.inl (by simp [supply, sameQueue, idle.1])
    | notFull => exact Or.inr (by simp [supply, waiter, sameQueue])

theorem popBlocking_pays (inner : Inner T) (before : Condvar → Nat)
    (waiter : before .notEmpty ≤ 1 ∧ before .notFull = 0) :
    Pays manager.capacity inner (SensorBufferManager.popBlocking inner).2 before
      (SensorBufferManager.popBlocking inner).1 := by
  unfold SensorBufferManager.popBlocking
  by_cases idle : inner.q = [] ∧ inner.isShutdown = false
  · rw [if_pos idle]
    refine idle_pays manager inner _ _ before idle rfl rfl ?_ waiter.2
    rintro w ⟨⟩
    rfl
  · rw [if_neg idle]
    exact popFront_pays manager .popBlocking inner before waiter

theorem popTimeout_pays (remaining : Nat) (inner : Inner T) (before : Condvar → Nat)
    (waiter : before .notEmpty ≤ 1 ∧ before .notFull = 0) :
    Pays manager.capacity inner (SensorBufferManager.popTimeout remaining inner).2 before
      (SensorBufferManager.popTimeout remaining inner).1 := by
  unfold SensorBufferManager.popTimeout
  by_cases idle : inner.q = [] ∧ inner.isShutdown = false
  · rw [if_pos idle]
    by_cases expired : remaining = 0
    · rw [if_pos expired]
      exact idle_pays manager inner _ _ before idle rfl rfl (by simp) waiter.2
    · rw [if_neg expired]
      refine idle_pays manager inner _ _ before idle rfl rfl ?_ waiter.2
      rintro w ⟨⟩
      rfl
  · rw [if_neg idle]
    exact popFront_pays manager .popTimeout inner before waiter

/-- A section that changes neither the queue nor the flag, and whose thread had no credit. -/
theorem decline_pays (capacity : Nat) (inner after : Inner T) (d : Done T) (same : after.q = inner.q) :
    Pays capacity inner after (fun _ => 0) (.done d) := by
  constructor
  · simp
  · intro condvar
    right; right
    cases condvar <;> simp [supply, same]

theorem tryPush_pays (item : T) (inner : Inner T) :
    Pays manager.capacity inner (manager.tryPush item inner).2 (fun _ => 0)
      (manager.tryPush item inner).1 := by
  unfold SensorBufferManager.tryPush
  cases shut : inner.isShutdown with
  | true => exact decline_pays _ inner inner _ rfl
  | false =>
    by_cases full : manager.capacity ≤ inner.q.length
    · simp only [Bool.false_eq_true, if_false, if_pos full]
      exact decline_pays _ inner inner _ rfl
    · simp only [Bool.false_eq_true, if_false, if_neg full]
      constructor
      · simp
      · intro condvar
        right; right
        cases condvar with
        | notEmpty => simp [supply, Inner.pushBack, exitThread, credit]
        | notFull =>
          simp only [supply, Inner.pushBack, List.length_append, List.length_singleton]
          omega

theorem enter_pays (inner : Inner T) (c : Call T) :
    Pays manager.capacity inner (manager.enter inner c).2 (fun _ => 0) (manager.enter inner c).1 := by
  cases c with
  | push item =>
    cases shut : inner.isShutdown with
    | true =>
      simp only [SensorBufferManager.enter, SensorBufferManager.push, shut, if_true]
      exact decline_pays _ inner inner _ rfl
    | false =>
      simp only [SensorBufferManager.enter, SensorBufferManager.push, shut, Bool.false_eq_true,
        if_false]
      exact pushLoop_pays manager item inner _ ⟨rfl, Nat.zero_le 1⟩
  | tryPush item => exact tryPush_pays manager item inner
  | tryPop => exact popFront_pays manager .tryPop inner _ ⟨Nat.zero_le 1, rfl⟩
  | popBlocking => exact popBlocking_pays manager inner _ ⟨Nat.zero_le 1, rfl⟩
  | popTimeout timeout => exact popTimeout_pays manager timeout inner _ ⟨Nat.zero_le 1, rfl⟩
  | shutdown => exact ⟨by simp [SensorBufferManager.enter, SensorBufferManager.shutdown], fun _ => Or.inl rfl⟩

theorem resume_pays (inner : Inner T) (waited : Nat) (timedOut : Bool) (w : Wait T) :
    Pays manager.capacity inner (manager.resume inner waited timedOut w).2
      (fun condvar => credit condvar (.ready w timedOut)) (manager.resume inner waited timedOut w).1 := by
  cases w with
  | push item =>
    have waiter : credit .notEmpty (.ready (.push item) timedOut) = 0 ∧
        credit .notFull (.ready (.push item) timedOut) ≤ 1 := by
      cases timedOut <;> simp [credit, Wait.condvar]
    exact (pushLoop_pays manager item
      { inner with pushWaitNsTotal := inner.pushWaitNsTotal + waited }
      (fun condvar => credit condvar (.ready (.push item) timedOut)) waiter).of_queue rfl
  | popBlocking =>
    have waiter : credit (T := T) .notEmpty (.ready .popBlocking timedOut) ≤ 1 ∧
        credit (T := T) .notFull (.ready .popBlocking timedOut) = 0 := by
      cases timedOut <;> simp [credit, Wait.condvar]
    exact (popBlocking_pays manager
      { inner with popWaitNsTotal := inner.popWaitNsTotal + waited }
      (fun condvar => credit condvar (.ready .popBlocking timedOut)) waiter).of_queue rfl
  | popTimeout remaining =>
    cases timedOut with
    | true => exact decline_pays _ inner _ _ rfl
    | false =>
      have waiter : credit (T := T) .notEmpty (.ready (.popTimeout remaining) false) ≤ 1 ∧
          credit (T := T) .notFull (.ready (.popTimeout remaining) false) = 0 := by
        simp [credit, Wait.condvar]
      exact (popTimeout_pays manager (remaining - waited)
        { inner with popWaitNsTotal := inner.popWaitNsTotal + waited }
        (fun condvar => credit condvar (.ready (.popTimeout remaining) false)) waiter).of_queue rfl

/-- Only `shutdown` moves the flag. -/
theorem effect_flag {capacity : Nat} {c after : Core T} {exit : Exit T}
    (effect : Effect capacity c exit after) (closing : ¬∃ d, exit = .notifyAll d) :
    after.isShutdown = c.isShutdown := by
  cases effect with
  | close => exact absurd ⟨_, rfl⟩ closing
  | _ => rfl

variable {manager} [Fintype ι]

/-- The invariant: nobody waits once the buffer is shut down, and where somebody waits, enough
threads will still act on the condition variable to use up what is there. -/
structure Awake (capacity : Nat) (s : State ι T) : Prop where
  shut : s.inner.isShutdown = true → ∀ t condvar, (s.thread t).waitsOn condvar = false
  funded : ∀ t condvar, (s.thread t).waitsOn condvar = true →
    supply capacity s.inner condvar ≤ tally (credit condvar) s.thread

/-- The operating system and the notifications move threads, never the buffer. -/
theorem Awake.move {capacity : Nat} {s : State ι T} (held : Awake capacity s) (thread : ι → Thread T)
    (fewer : ∀ u condvar, (thread u).waitsOn condvar = true → (s.thread u).waitsOn condvar = true)
    (funds : ∀ u condvar, (thread u).waitsOn condvar = true →
      tally (credit condvar) s.thread ≤ tally (credit condvar) thread) :
    Awake capacity { s with thread } := by
  constructor
  · intro shut t condvar
    by_contra waits
    have before := fewer t condvar (by simpa using waits)
    simp [held.shut shut t condvar] at before
  · intro t condvar waits
    exact (held.funded t condvar (fewer t condvar waits)).trans (funds t condvar waits)

theorem Quiet.unfunded {s : State ι T} (quiet : Quiet s) (condvar : Condvar) :
    tally (credit condvar) s.thread = 0 := by
  rw [tally_eq_zero]
  intro t
  obtain out | ⟨w, waits⟩ := quiet t
  · rw [out, credit_outside]
  · rw [waits, credit_waiting]

variable [DecidableEq ι]

/-- One critical section keeps the invariant. `before` is what its thread was. -/
theorem Awake.leave {capacity : Nat} {s : State ι T} {t : ι} {exit : Exit T} {inner : Inner T}
    (held : Awake capacity s) (effect : Effect capacity s.inner.core exit inner.core)
    (pays : Pays capacity s.inner inner (fun condvar => credit condvar (s.thread t)) exit) :
    Awake capacity (leave s t exit inner) := by
  by_cases closing : ∃ d, exit = .notifyAll d
  · obtain ⟨d, rfl⟩ := closing
    have nobody : ∀ u condvar, ((Threads.leave s t (.notifyAll d) inner).thread u).waitsOn condvar =
        false := by
      intro u condvar
      simp only [Threads.leave, exitOthers, exitThread, Function.update_apply]
      split
      · rfl
      · cases s.thread u <;> rfl
    exact ⟨fun _ => nobody, fun u condvar waits => by simp [nobody u condvar] at waits⟩
  · have others : exitOthers exit s.thread = s.thread := by
      cases exit with
      | notifyAll d => exact absurd ⟨d, rfl⟩ closing
      | _ => rfl
    have flag : inner.isShutdown = s.inner.isShutdown := effect_flag effect closing
    have shut : inner.isShutdown = true → ∀ u condvar,
        ((Threads.leave s t exit inner).thread u).waitsOn condvar = false := by
      intro shut u condvar
      simp only [Threads.leave, others, Function.update_apply]
      split
      · cases exit with
        | wait w => simp [(pays.waits w rfl).1] at shut
        | _ => rfl
      · exact held.shut (flag ▸ shut) u condvar
    constructor
    · exact shut
    · intro u condvar waits
      obtain isShut | nothing | paid := pays.pays condvar
      · simp [shut isShut u condvar] at waits
      · simp only [Threads.leave, nothing, Nat.zero_le]
      · have moved := tally_update (credit condvar) s.thread t (exitThread exit)
        simp only [Threads.leave, others] at waits ⊢
        by_cases same : u = t
        · subst same
          simp only [Function.update_self] at waits
          cases exit with
          | wait w =>
            have about : w.condvar = condvar := by simpa [exitThread, Thread.waitsOn] using waits
            rw [← about, (pays.waits w rfl).2]
            exact Nat.zero_le _
          | _ => simp [exitThread, Thread.waitsOn] at waits
        · rw [Function.update_of_ne same] at waits
          have enough := held.funded u condvar waits
          omega

/-- A thread that is nowhere in a wait set can be moved freely as long as it keeps its credit. -/
theorem Awake.moveThread {capacity : Nat} {s : State ι T} (held : Awake capacity s) (t : ι)
    (after : Thread T) (fewer : ∀ condvar, after.waitsOn condvar = false)
    (funds : ∀ u condvar, u ≠ t → (s.thread u).waitsOn condvar = true →
      credit condvar (s.thread t) ≤ credit condvar after) :
    Awake capacity (moveThread s t after) := by
  have other : ∀ u condvar, (Function.update s.thread t after u).waitsOn condvar = true →
      u ≠ t ∧ (s.thread u).waitsOn condvar = true := by
    intro u condvar waits
    by_cases same : u = t
    · rw [same, Function.update_self, fewer condvar] at waits
      exact absurd waits (by decide)
    · rw [Function.update_of_ne same] at waits
      exact ⟨same, waits⟩
  apply held.move
  · exact fun u condvar waits => (other u condvar waits).2
  · intro u condvar waits
    have moved := tally_update (credit condvar) s.thread t after
    have kept := funds u condvar (other u condvar waits).1 (other u condvar waits).2
    omega

theorem step_awake {manager : SensorBufferManager} {s next : State ι T} {action : Action ι T}
    (held : Awake manager.capacity s) (moved : (threads manager).step s action = some next) :
    Awake manager.capacity next := by
  cases step_moves moved with
  | call t c before =>
    apply held.leave (enter_effect manager s.inner c)
    simpa only [before, credit] using enter_pays manager s.inner c
  | wake t waited w timedOut before =>
    apply held.leave (resume_effect manager s.inner waited timedOut w)
    simpa only [before] using resume_pays manager s.inner waited timedOut w
  | spurious t w before =>
    apply held.moveThread t _ (fun _ => rfl)
    intro u condvar _ _
    simp only [before, credit, Nat.zero_le]
  | timeout t remaining before =>
    apply held.moveThread t _ (fun _ => rfl)
    intro u condvar _ _
    simp only [before, credit, Nat.zero_le]
  | notifyNobody t condvar d before nobody =>
    apply held.moveThread t _ (fun _ => rfl)
    intro u other _ waits
    have differs : condvar ≠ other := by
      rintro rfl
      simp [nobody u] at waits
    simp [before, credit, differs]
  | notify t u condvar d w before waits same =>
    -- The woken thread takes over the credit of the one that notifies it.
    have apart : t ≠ u := by
      rintro rfl
      simp [before] at waits
    have fewer : ∀ v other, ((Threads.moveThread (Threads.moveThread s u (.ready w false)) t
        .outside).thread v).waitsOn other = true → (s.thread v).waitsOn other = true := by
      intro v other
      simp only [Threads.moveThread, Function.update_apply]
      split
      · simp [Thread.waitsOn]
      · split
        · simp [Thread.waitsOn]
        · exact id
    apply held.move _ fewer
    intro v other _
    have first := tally_update (credit other) s.thread u (.ready w false)
    have second := tally_update (credit other) (Function.update s.thread u (.ready w false)) t .outside
    rw [Function.update_of_ne apart] at second
    have passed : credit other (s.thread t) = credit other (.ready w false) := by
      simp only [before, credit, same]
    have waiter : credit other (s.thread u) = 0 := by rw [waits, credit_waiting]
    rw [credit_outside] at second
    show tally (credit other) s.thread ≤
      tally (credit other) (Function.update (Function.update s.thread u (.ready w false)) t .outside)
    omega

theorem reachable_awake {manager : SensorBufferManager} {s : State ι T}
    (reach : (threads manager).Reachable s) : Awake manager.capacity s := by
  apply System.Reaches.invariant reach (Awake manager.capacity)
  · exact ⟨fun _ _ _ => rfl, fun _ _ waits => by simp [threads, Thread.waitsOn] at waits⟩
  · exact fun u action v held moved => step_awake held moved

/-- When nothing is under way, a consumer that waits does so on an empty open buffer, and a producer
that waits does so on a full open one. -/
theorem no_lost_wakeup (manager : SensorBufferManager) (s : State ι T)
    (reach : (threads manager).Reachable s) (quiet : Quiet s) (t : ι) (w : Wait T)
    (waits : s.thread t = .waiting w) :
    s.inner.isShutdown = false ∧
      (w.condvar = .notEmpty → s.inner.q = []) ∧
      (w.condvar = .notFull → manager.capacity ≤ s.inner.q.length) := by
  have held := reachable_awake reach
  have inSet : (s.thread t).waitsOn w.condvar = true := by simp [waits, Thread.waitsOn]
  have none : supply manager.capacity s.inner w.condvar = 0 := by
    have funded := held.funded t w.condvar inSet
    rw [quiet.unfunded] at funded
    omega
  constructor
  · by_contra shut
    have left := held.shut (by simpa using shut) t w.condvar
    simp [inSet] at left
  · constructor
    · intro about
      rw [about] at none
      exact List.length_eq_zero_iff.mp none
    · intro about
      rw [about] at none
      exact Nat.le_of_sub_eq_zero none

/-- A consumer waits, an item arrives and is stolen before the woken consumer gets the lock. -/
def stolen : List (Threads.Action (Fin 3) Nat) :=
  [.call 0 .popBlocking, .call 1 (.push 7), .call 2 .tryPop, .notify 2 none, .notify 1 (some 0),
    .wake 0 5]

theorem no_lost_wakeup_stolen :
    ∃ s : State (Fin 3) Nat, (threads ⟨1, by decide⟩).Reachable s ∧
      s.thread 0 = .waiting .popBlocking ∧ s.inner.isShutdown = false ∧ s.inner.q = [] := by
  let manager : SensorBufferManager := ⟨1, by decide⟩
  let s := ((threads manager).run stolen).get (by decide)
  have reach : (threads manager).Reachable s := System.reachable_of_run (Option.some_get _).symm
  have waits : s.thread 0 = .waiting .popBlocking := rfl
  have quiet : Quiet s := by
    intro t
    fin_cases t
    · exact Or.inr ⟨_, waits⟩
    · exact Or.inl rfl
    · exact Or.inl rfl
  have kept := no_lost_wakeup manager s reach quiet 0 .popBlocking waits
  exact ⟨s, reach, waits, kept.1, kept.2.1 rfl⟩

end SensorGateway.Buffer.Wakeup

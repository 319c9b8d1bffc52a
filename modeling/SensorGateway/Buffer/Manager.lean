import Mathlib.Order.Lattice
import Mathlib.Order.MinMax

/-! `SensorBufferManager`: the critical sections of the bounded buffer. A section is what a call
does between taking the lock and giving it up, be it to return or to wait. Counters and times are
natural numbers: the source has a `u64` for each of them, and a run is taken to end before one comes
to `2 ^ 64`. -/

namespace SensorGateway.Buffer.Manager

inductive PushError where
  | shutdown
  deriving DecidableEq, Repr

/-- What the mutex protects. -/
structure Inner (T : Type*) where
  q : List T
  isShutdown : Bool
  highWatermark : Nat
  totalPushed : Nat
  totalPopped : Nat
  pushWaitCount : Nat
  popWaitCount : Nat
  pushWaitNsTotal : Nat
  popWaitNsTotal : Nat
  deriving DecidableEq, Repr

inductive Condvar where
  | notEmpty
  | notFull
  deriving DecidableEq, Repr

inductive Call (T : Type*) where
  | push (item : T)
  | tryPush (item : T)
  | tryPop
  | popBlocking
  | popTimeout (timeout : Nat)
  | shutdown
  deriving DecidableEq, Repr

/-- A finished call: the item it was given and what it returned. -/
inductive Done (T : Type*) where
  | push (item : T) (result : Except PushError Unit)
  | tryPush (item : T) (result : Except (Except T PushError) Unit)
  | tryPop (result : Option T)
  | popBlocking (result : Option T)
  | popTimeout (result : Option T)
  | shutdown

/-- A call inside `Condvar::wait` or `wait_timeout`, with the locals it resumes with. -/
inductive Wait (T : Type*) where
  | push (item : T)
  | popBlocking
  | popTimeout (remaining : Nat)
  deriving DecidableEq, Repr

def Wait.condvar {T : Type*} : Wait T → Condvar
  | .push _ => .notFull
  | .popBlocking | .popTimeout _ => .notEmpty

/-- How a critical section gives the lock up. -/
inductive Exit (T : Type*) where
  | wait (w : Wait T)
  /-- Unlock and return. -/
  | done (d : Done T)
  /-- Unlock, then `notify_one`, then return. -/
  | notifyOne (condvar : Condvar) (d : Done T)
  /-- `notify_all` on both condition variables, then unlock and return. -/
  | notifyAll (d : Done T)

variable {T : Type*}

namespace Inner

def new : Inner T where
  q := []
  isShutdown := false
  highWatermark := 0
  totalPushed := 0
  totalPopped := 0
  pushWaitCount := 0
  popWaitCount := 0
  pushWaitNsTotal := 0
  popWaitNsTotal := 0

/-- The accepting tail of `push` and `try_push`. -/
def pushBack (inner : Inner T) (item : T) : Inner T :=
  let q := inner.q ++ [item]
  { inner with
    q, totalPushed := inner.totalPushed + 1
    highWatermark := max inner.highWatermark q.length }

/-- The tail shared by the three pops: `pop_front`, and a notification if there was an item. -/
def popFront (inner : Inner T) (finish : Option T → Done T) : Exit T × Inner T :=
  match inner.q with
  | [] => (.done (finish none), inner)
  | item :: rest =>
    (.notifyOne .notFull (finish (some item)),
      { inner with q := rest, totalPopped := inner.totalPopped + 1 })

end Inner

structure SensorBufferManager where
  capacity : Nat
  /-- Asserted by `new`. -/
  positive : 0 < capacity

namespace SensorBufferManager
variable (manager : SensorBufferManager)

def shutdown (inner : Inner T) : Exit T × Inner T :=
  (.notifyAll .shutdown, { inner with isShutdown := true })

def tryPush (item : T) (inner : Inner T) : Exit T × Inner T :=
  if inner.isShutdown then (.done (.tryPush item (.error (.ok .shutdown))), inner)
  else if manager.capacity ≤ inner.q.length then
    (.done (.tryPush item (.error (.error item))), inner)
  else (.notifyOne .notEmpty (.tryPush item (.ok ())), inner.pushBack item)

/-- `push` from the head of its loop on. -/
def pushLoop (item : T) (inner : Inner T) : Exit T × Inner T :=
  if manager.capacity ≤ inner.q.length ∧ inner.isShutdown = false then
    (.wait (.push item), { inner with pushWaitCount := inner.pushWaitCount + 1 })
  else if inner.isShutdown then (.done (.push item (.error .shutdown)), inner)
  else (.notifyOne .notEmpty (.push item (.ok ())), inner.pushBack item)

def push (item : T) (inner : Inner T) : Exit T × Inner T :=
  if inner.isShutdown then (.done (.push item (.error .shutdown)), inner)
  else manager.pushLoop item inner

def tryPop (inner : Inner T) : Exit T × Inner T := inner.popFront .tryPop

/-- `pop_blocking`, from its start or from the head of its loop on. -/
def popBlocking (inner : Inner T) : Exit T × Inner T :=
  if inner.q = [] ∧ inner.isShutdown = false then
    (.wait .popBlocking, { inner with popWaitCount := inner.popWaitCount + 1 })
  else inner.popFront .popBlocking

/-- `pop_timeout` from the head of its loop on, with what is left of its timeout. -/
def popTimeout (remaining : Nat) (inner : Inner T) : Exit T × Inner T :=
  if inner.q = [] ∧ inner.isShutdown = false then
    if remaining = 0 then (.done (.popTimeout none), inner)
    else (.wait (.popTimeout remaining), { inner with popWaitCount := inner.popWaitCount + 1 })
  else inner.popFront .popTimeout

/-- The critical section a call starts with. -/
def enter (inner : Inner T) : Call T → Exit T × Inner T
  | .push item => manager.push item inner
  | .tryPush item => manager.tryPush item inner
  | .tryPop => tryPop inner
  | .popBlocking => popBlocking inner
  | .popTimeout timeout => popTimeout timeout inner
  | .shutdown => shutdown inner

/-- The critical section a call runs when its wait gives the lock back, `waited` nanoseconds
after it began. Only `wait_timeout` can report a timeout. -/
def resume (inner : Inner T) (waited : Nat) (timedOut : Bool) : Wait T → Exit T × Inner T
  | .push item =>
    manager.pushLoop item { inner with pushWaitNsTotal := inner.pushWaitNsTotal + waited }
  | .popBlocking => popBlocking { inner with popWaitNsTotal := inner.popWaitNsTotal + waited }
  | .popTimeout remaining =>
    let inner := { inner with popWaitNsTotal := inner.popWaitNsTotal + waited }
    if timedOut then (.done (.popTimeout none), inner)
    else popTimeout (remaining - waited) inner

end SensorBufferManager

/-! The buffer as its users see it. The wait statistics are left out: no call reads them. -/

/-- A bounded queue with its counters. -/
structure Core (T : Type*) where
  q : List T
  isShutdown : Bool
  highWatermark : Nat
  totalPushed : Nat
  totalPopped : Nat

namespace Core

def accept (c : Core T) (item : T) : Core T :=
  { c with
    q := c.q ++ [item], totalPushed := c.totalPushed + 1
    highWatermark := max c.highWatermark (c.q.length + 1) }

def deliver (c : Core T) (rest : List T) : Core T :=
  { c with q := rest, totalPopped := c.totalPopped + 1 }

def close (c : Core T) : Core T := { c with isShutdown := true }

end Core

def Inner.core (inner : Inner T) : Core T :=
  ⟨inner.q, inner.isShutdown, inner.highWatermark, inner.totalPushed, inner.totalPopped⟩

namespace Done

/-- The item a finished call has put into the queue. -/
def accepted : Done T → List T
  | .push item (.ok ()) | .tryPush item (.ok ()) => [item]
  | _ => []

/-- The item a finished call has taken out of the queue. -/
def popped : Done T → List T
  | .tryPop result | .popBlocking result | .popTimeout result => result.toList
  | _ => []

/-- The call is a `push` or a `try_push` that returned an error. -/
def failed : Done T → Bool
  | .push _ (.error _) | .tryPush _ (.error _) => true
  | _ => false

end Done

/-- The finished call, unless the section ends in a wait. -/
def Exit.result? : Exit T → Option (Done T)
  | .wait _ => none
  | .done d | .notifyOne _ d | .notifyAll d => some d

/-- Everything a critical section can do to the buffer. -/
inductive Effect (capacity : Nat) (c : Core T) : Exit T → Core T → Prop where
  | accept (item : T) (d : Done T) (room : c.q.length < capacity) (isOpen : c.isShutdown = false)
      (accepted : d.accepted = [item]) (popped : d.popped = []) :
      Effect capacity c (.notifyOne .notEmpty d) (c.accept item)
  | deliver (item : T) (rest : List T) (d : Done T) (head : c.q = item :: rest)
      (accepted : d.accepted = []) (popped : d.popped = [item]) :
      Effect capacity c (.notifyOne .notFull d) (c.deliver rest)
  | decline (d : Done T) (accepted : d.accepted = []) (popped : d.popped = [])
      (drained : d = .popBlocking none → c.isShutdown = true ∧ c.q = []) :
      Effect capacity c (.done d) c
  | suspend (w : Wait T) : Effect capacity c (.wait w) c
  | close : Effect capacity c (.notifyAll .shutdown) c.close

theorem Effect.fits {capacity : Nat} {inner after : Inner T} {exit : Exit T}
    (effect : Effect capacity inner.core exit after.core) (fits : inner.q.length ≤ capacity) :
    after.q.length ≤ capacity := by
  show after.core.q.length ≤ capacity
  generalize after.core = later at effect
  cases effect with
  | accept item d room isOpen accepted popped =>
    have room : inner.q.length < capacity := room
    rw [Core.accept, List.length_append, List.length_singleton]
    exact room
  | deliver item rest d head accepted popped =>
    have head : inner.q = item :: rest := head
    rw [head, List.length_cons] at fits
    exact Nat.le_of_succ_le fits
  | decline d accepted popped drained => exact fits
  | suspend w => exact fits
  | close => exact fits

variable (manager : SensorBufferManager)

theorem popFront_effect (inner : Inner T) (finish : Option T → Done T)
    (pops : ∀ result, (finish result).accepted = [] ∧ (finish result).popped = result.toList)
    (blocking : inner.q = [] → finish none = .popBlocking none → inner.isShutdown = true) :
    Effect manager.capacity inner.core (inner.popFront finish).1 (inner.popFront finish).2.core := by
  unfold Inner.popFront
  cases queue : inner.q with
  | nil =>
    apply Effect.decline _ (pops none).1 (pops none).2
    exact fun same => ⟨blocking queue same, queue⟩
  | cons item rest =>
    exact Effect.deliver item rest (finish (some item)) queue (pops _).1 (pops _).2

theorem pushLoop_effect (item : T) (inner : Inner T) :
    Effect manager.capacity inner.core (manager.pushLoop item inner).1
      (manager.pushLoop item inner).2.core := by
  unfold SensorBufferManager.pushLoop
  by_cases full : manager.capacity ≤ inner.q.length ∧ inner.isShutdown = false
  · rw [if_pos full]
    exact Effect.suspend (.push item)
  · rw [if_neg full]
    cases shut : inner.isShutdown with
    | true => exact Effect.decline (.push item (.error .shutdown)) rfl rfl (by simp)
    | false =>
      have room : inner.q.length < manager.capacity := by simpa [shut] using full
      have pushed : (inner.pushBack item).core = inner.core.accept item := by
        simp [Inner.core, Inner.pushBack, Core.accept]
      simp only [Bool.false_eq_true, if_false, pushed]
      exact Effect.accept item (.push item (.ok ())) room shut rfl rfl

theorem popBlocking_effect (inner : Inner T) :
    Effect manager.capacity inner.core (SensorBufferManager.popBlocking inner).1
      (SensorBufferManager.popBlocking inner).2.core := by
  unfold SensorBufferManager.popBlocking
  by_cases idle : inner.q = [] ∧ inner.isShutdown = false
  · rw [if_pos idle]
    exact Effect.suspend .popBlocking
  · rw [if_neg idle]
    apply popFront_effect manager inner .popBlocking (fun _ => ⟨rfl, rfl⟩)
    intro empty _
    simpa [empty] using idle

theorem popTimeout_effect (remaining : Nat) (inner : Inner T) :
    Effect manager.capacity inner.core (SensorBufferManager.popTimeout remaining inner).1
      (SensorBufferManager.popTimeout remaining inner).2.core := by
  unfold SensorBufferManager.popTimeout
  by_cases idle : inner.q = [] ∧ inner.isShutdown = false
  · rw [if_pos idle]
    by_cases expired : remaining = 0
    · rw [if_pos expired]
      exact Effect.decline (.popTimeout none) rfl rfl (by simp)
    · rw [if_neg expired]
      exact Effect.suspend (.popTimeout remaining)
  · rw [if_neg idle]
    exact popFront_effect manager inner .popTimeout (fun _ => ⟨rfl, rfl⟩) (by simp)

theorem enter_effect (inner : Inner T) (call : Call T) :
    Effect manager.capacity inner.core (manager.enter inner call).1
      (manager.enter inner call).2.core := by
  cases call with
  | push item =>
    cases shut : inner.isShutdown with
    | true =>
      simp only [SensorBufferManager.enter, SensorBufferManager.push, shut, if_true]
      exact Effect.decline (.push item (.error .shutdown)) rfl rfl (by simp)
    | false =>
      simp only [SensorBufferManager.enter, SensorBufferManager.push, shut, Bool.false_eq_true,
        if_false]
      exact pushLoop_effect manager item inner
  | tryPush item =>
    unfold SensorBufferManager.enter SensorBufferManager.tryPush
    cases shut : inner.isShutdown with
    | true => exact Effect.decline (.tryPush item (.error (.ok .shutdown))) rfl rfl (by simp)
    | false =>
      by_cases full : manager.capacity ≤ inner.q.length
      · simp only [Bool.false_eq_true, if_false, if_pos full]
        exact Effect.decline (.tryPush item (.error (.error item))) rfl rfl (by simp)
      · have pushed : (inner.pushBack item).core = inner.core.accept item := by
          simp [Inner.core, Inner.pushBack, Core.accept]
        simp only [Bool.false_eq_true, if_false, if_neg full, pushed]
        exact Effect.accept item (.tryPush item (.ok ())) (not_le.mp full) shut rfl rfl
  | tryPop => exact popFront_effect manager inner .tryPop (fun _ => ⟨rfl, rfl⟩) (by simp)
  | popBlocking => exact popBlocking_effect manager inner
  | popTimeout timeout => exact popTimeout_effect manager timeout inner
  | shutdown => exact Effect.close

theorem resume_effect (inner : Inner T) (waited : Nat) (timedOut : Bool) (w : Wait T) :
    Effect manager.capacity inner.core (manager.resume inner waited timedOut w).1
      (manager.resume inner waited timedOut w).2.core := by
  cases w with
  | push item =>
    exact pushLoop_effect manager item
      { inner with pushWaitNsTotal := inner.pushWaitNsTotal + waited }
  | popBlocking =>
    exact popBlocking_effect manager { inner with popWaitNsTotal := inner.popWaitNsTotal + waited }
  | popTimeout remaining =>
    cases timedOut with
    | true => exact Effect.decline (.popTimeout none) rfl rfl (by simp)
    | false =>
      exact popTimeout_effect manager (remaining - waited)
        { inner with popWaitNsTotal := inner.popWaitNsTotal + waited }

/-! Only `shutdown` moves the flag. -/

theorem popFront_isShutdown (inner : Inner T) (finish : Option T → Done T) :
    (inner.popFront finish).2.isShutdown = inner.isShutdown := by
  unfold Inner.popFront
  cases inner.q <;> rfl

theorem pushLoop_isShutdown (item : T) (inner : Inner T) :
    (manager.pushLoop item inner).2.isShutdown = inner.isShutdown := by
  unfold SensorBufferManager.pushLoop
  split
  · rfl
  · split <;> rfl

theorem popBlocking_isShutdown (inner : Inner T) :
    (SensorBufferManager.popBlocking inner).2.isShutdown = inner.isShutdown := by
  unfold SensorBufferManager.popBlocking
  split
  · rfl
  · exact popFront_isShutdown inner _

theorem popTimeout_isShutdown (remaining : Nat) (inner : Inner T) :
    (SensorBufferManager.popTimeout remaining inner).2.isShutdown = inner.isShutdown := by
  unfold SensorBufferManager.popTimeout
  split
  · split <;> rfl
  · exact popFront_isShutdown inner _

theorem enter_isShutdown (inner : Inner T) {call : Call T} (other : call ≠ .shutdown) :
    (manager.enter inner call).2.isShutdown = inner.isShutdown := by
  cases call with
  | push item =>
    show (manager.push item inner).2.isShutdown = _
    unfold SensorBufferManager.push
    split
    · rfl
    · exact pushLoop_isShutdown manager item inner
  | tryPush item =>
    show (manager.tryPush item inner).2.isShutdown = _
    unfold SensorBufferManager.tryPush
    split
    · rfl
    · split <;> rfl
  | tryPop => exact popFront_isShutdown inner _
  | popBlocking => exact popBlocking_isShutdown inner
  | popTimeout timeout => exact popTimeout_isShutdown timeout inner
  | shutdown => exact absurd rfl other

theorem resume_isShutdown (inner : Inner T) (waited : Nat) (timedOut : Bool) (w : Wait T) :
    (manager.resume inner waited timedOut w).2.isShutdown = inner.isShutdown := by
  cases w with
  | push item => exact pushLoop_isShutdown manager item _
  | popBlocking => exact popBlocking_isShutdown _
  | popTimeout remaining =>
    unfold SensorBufferManager.resume
    cases timedOut with
    | true => rfl
    | false => exact popTimeout_isShutdown _ _

/-- A `push` into a buffer that is not shut down waits or puts its item in. -/
theorem pushLoop_open (item : T) {inner : Inner T} (running : inner.isShutdown = false) :
    (manager.pushLoop item inner).1 = .wait (.push item) ∨
      (manager.pushLoop item inner).1 = .notifyOne .notEmpty (.push item (.ok ())) := by
  unfold SensorBufferManager.pushLoop
  rw [running]
  split
  · exact Or.inl rfl
  · exact Or.inr rfl

end SensorGateway.Buffer.Manager

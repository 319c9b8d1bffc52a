import Mathlib.Algebra.Order.Field.Basic
import Mathlib.Algebra.Order.Field.Rat
import Mathlib.Tactic.Linarith
import SensorGateway.Lib.Tally
import SensorGateway.Buffer.Fifo

/-! The statistics of the shared buffer, with their `f64` values read as exact rationals. They are
an exact account of all waits of all threads, and so are the differences of two of them. -/

namespace SensorGateway.Buffer.Stats
open SensorGateway.Lib.Transition SensorGateway.Lib.Tally Manager Threads

structure BufferStats where
  capacity : Nat
  len : Nat
  highWatermark : Nat
  totalPushed : Nat
  totalPopped : Nat
  pushWaitCount : Nat
  popWaitCount : Nat
  pushWaitNsTotal : Nat
  popWaitNsTotal : Nat
  isShutdown : Bool
  deriving DecidableEq, Repr

/-- `f64::clamp` between two numbers. -/
def clampRatio (watermark : ℚ) : ℚ := max 0 (min watermark 1)

namespace BufferStats

def fillRatio (s : BufferStats) : ℚ := if s.capacity = 0 then 0 else s.len / s.capacity

def IsHighPressure (s : BufferStats) (watermark : ℚ) : Prop := clampRatio watermark ≤ s.fillRatio

def pushWaitCountDeltaSince (s earlier : BufferStats) : Nat := s.pushWaitCount - earlier.pushWaitCount

def popWaitCountDeltaSince (s earlier : BufferStats) : Nat := s.popWaitCount - earlier.popWaitCount

def pushWaitNsDeltaSince (s earlier : BufferStats) : Nat :=
  s.pushWaitNsTotal - earlier.pushWaitNsTotal

def popWaitNsDeltaSince (s earlier : BufferStats) : Nat := s.popWaitNsTotal - earlier.popWaitNsTotal

end BufferStats

/-- `SensorBufferManager::stats`, under the lock. -/
def stats {T : Type*} (manager : SensorBufferManager) (inner : Inner T) : BufferStats where
  capacity := manager.capacity
  len := inner.q.length
  highWatermark := inner.highWatermark
  totalPushed := inner.totalPushed
  totalPopped := inner.totalPopped
  pushWaitCount := inner.pushWaitCount
  popWaitCount := inner.popWaitCount
  pushWaitNsTotal := inner.pushWaitNsTotal
  popWaitNsTotal := inner.popWaitNsTotal
  isShutdown := inner.isShutdown

def IsUnderBackpressure {T : Type*} (manager : SensorBufferManager) (inner : Inner T)
    (watermark : ℚ) : Prop :=
  let s := stats manager inner
  s.capacity ≠ 0 ∧ clampRatio watermark * s.capacity ≤ s.len

/-! ## One critical section -/

section
variable {T : Type*} (condvar : Condvar)

/-- The waits on a condition variable that have begun. Producers wait until the buffer is no longer
full, consumers until it is no longer empty. -/
def waitCount (inner : Inner T) : Nat :=
  match condvar with
  | .notFull => inner.pushWaitCount
  | .notEmpty => inner.popWaitCount

/-- The time that finished waits on it have taken. -/
def waitNsTotal (inner : Inner T) : Nat :=
  match condvar with
  | .notFull => inner.pushWaitNsTotal
  | .notEmpty => inner.popWaitNsTotal

/-- The section ends in a wait on the condition variable. -/
def begins : Exit T → Nat
  | .wait w => if w.condvar = condvar then 1 else 0
  | .done _ | .notifyOne _ _ | .notifyAll _ => 0

/-- What a section may do to the wait statistics. -/
structure Waits (inner after : Inner T) (exit : Exit T) (took : Nat) : Prop where
  count : waitCount condvar after = waitCount condvar inner + begins condvar exit
  ns : waitNsTotal condvar after = waitNsTotal condvar inner + took

variable (manager : SensorBufferManager)

theorem popFront_waits (inner : Inner T) (finish : Option T → Done T) :
    Waits condvar inner (inner.popFront finish).2 (inner.popFront finish).1 0 := by
  unfold Inner.popFront
  cases inner.q with
  | nil => cases condvar <;> exact ⟨rfl, rfl⟩
  | cons item rest => cases condvar <;> exact ⟨rfl, rfl⟩

theorem pushLoop_waits (item : T) (inner : Inner T) :
    Waits condvar inner (manager.pushLoop item inner).2 (manager.pushLoop item inner).1 0 := by
  unfold SensorBufferManager.pushLoop
  split
  · cases condvar <;> exact ⟨rfl, rfl⟩
  · split
    · cases condvar <;> exact ⟨rfl, rfl⟩
    · cases condvar <;> exact ⟨rfl, rfl⟩

theorem popBlocking_waits (inner : Inner T) :
    Waits condvar inner (SensorBufferManager.popBlocking inner).2
      (SensorBufferManager.popBlocking inner).1 0 := by
  unfold SensorBufferManager.popBlocking
  split
  · cases condvar <;> exact ⟨rfl, rfl⟩
  · exact popFront_waits condvar inner _

theorem popTimeout_waits (remaining : Nat) (inner : Inner T) :
    Waits condvar inner (SensorBufferManager.popTimeout remaining inner).2
      (SensorBufferManager.popTimeout remaining inner).1 0 := by
  unfold SensorBufferManager.popTimeout
  split
  · split
    · cases condvar <;> exact ⟨rfl, rfl⟩
    · cases condvar <;> exact ⟨rfl, rfl⟩
  · exact popFront_waits condvar inner _

/-- A call may begin a wait, and has finished none. -/
theorem enter_waits (inner : Inner T) (call : Call T) :
    Waits condvar inner (manager.enter inner call).2 (manager.enter inner call).1 0 := by
  cases call with
  | push item =>
    show Waits condvar inner (manager.push item inner).2 (manager.push item inner).1 0
    unfold SensorBufferManager.push
    split
    · cases condvar <;> exact ⟨rfl, rfl⟩
    · exact pushLoop_waits condvar manager item inner
  | tryPush item =>
    show Waits condvar inner (manager.tryPush item inner).2 (manager.tryPush item inner).1 0
    unfold SensorBufferManager.tryPush
    split
    · cases condvar <;> exact ⟨rfl, rfl⟩
    · split
      · cases condvar <;> exact ⟨rfl, rfl⟩
      · cases condvar <;> exact ⟨rfl, rfl⟩
  | tryPop => exact popFront_waits condvar inner _
  | popBlocking => exact popBlocking_waits condvar inner
  | popTimeout timeout => exact popTimeout_waits condvar timeout inner
  | shutdown => cases condvar <;> exact ⟨rfl, rfl⟩

/-- The time of the wait that has just ended comes first. -/
theorem Waits.after {inner charged after : Inner T} {exit : Exit T} {took : Nat}
    (waits : Waits condvar charged after exit 0)
    (count : waitCount condvar charged = waitCount condvar inner)
    (ns : waitNsTotal condvar charged = waitNsTotal condvar inner + took) :
    Waits condvar inner after exit took where
  count := by rw [waits.count, count]
  ns := by rw [waits.ns, ns, Nat.add_zero]

/-- A call that goes on has finished one wait, and may begin another. -/
theorem resume_waits (inner : Inner T) (waited : Nat) (timedOut : Bool) (w : Wait T) :
    Waits condvar inner (manager.resume inner waited timedOut w).2
      (manager.resume inner waited timedOut w).1 (if w.condvar = condvar then waited else 0) := by
  cases w with
  | push item =>
    apply (pushLoop_waits condvar manager item _).after
    · cases condvar <;> rfl
    · cases condvar <;> rfl
  | popBlocking =>
    apply (popBlocking_waits condvar _).after
    · cases condvar <;> rfl
    · cases condvar <;> rfl
  | popTimeout remaining =>
    unfold SensorBufferManager.resume
    cases timedOut with
    | true => cases condvar <;> exact ⟨rfl, rfl⟩
    | false =>
      apply (popTimeout_waits condvar _ _).after
      · cases condvar <;> rfl
      · cases condvar <;> rfl

end

/-! ## Whole runs -/

/-- A wait that has ended: what it was for, and for how long. -/
structure Ended where
  condvar : Condvar
  waited : Nat
  deriving DecidableEq, Repr

/-- The threads on the buffer, with the waits that have ended so far. -/
structure Watched (ι T : Type*) where
  state : State ι T
  ended : List Ended

variable {ι T : Type*}

def endings (s : State ι T) (ended : List Ended) : Action ι T → List Ended
  | .wake t waited =>
    match s.thread t with
    | .ready w _ => ended ++ [⟨w.condvar, waited⟩]
    | _ => ended
  | _ => ended

/-- The thread is in a wait, or has not got the lock back after one. -/
def inWait (condvar : Condvar) : Thread T → Nat
  | .waiting w | .ready w _ => if w.condvar = condvar then 1 else 0
  | .outside | .notifying _ _ => 0

def waitsFor (condvar : Condvar) (ended : List Ended) : List Nat :=
  (ended.filter fun e => decide (e.condvar = condvar)).map Ended.waited

theorem waitsFor_append (condvar : Condvar) (first later : List Ended) :
    waitsFor condvar (first ++ later) = waitsFor condvar first ++ waitsFor condvar later := by
  rw [waitsFor, List.filter_append, List.map_append]
  rfl

theorem waitsFor_singleton (condvar : Condvar) (e : Ended) :
    (waitsFor condvar [e]).length = (if e.condvar = condvar then 1 else 0) ∧
      (waitsFor condvar [e]).sum = if e.condvar = condvar then e.waited else 0 := by
  unfold waitsFor
  by_cases same : e.condvar = condvar <;> simp [same]

theorem inWait_woken (condvar : Condvar) (thread : Thread T) :
    inWait condvar thread.woken = inWait condvar thread := by
  cases thread <;> rfl

theorem inWait_exitThread (condvar : Condvar) (exit : Exit T) :
    inWait condvar (exitThread exit) = begins condvar exit := by
  cases exit <;> rfl

variable [DecidableEq ι] [Fintype ι]

def watching (manager : SensorBufferManager) : System (Watched ι T) (Action ι T) where
  init := ⟨(threads manager).init, []⟩
  step := fun w action => do
    let next ← (threads manager).step w.state action
    some ⟨next, endings w.state w.ended action⟩

/-- How many threads are in a wait on the condition variable. -/
def waiting (condvar : Condvar) (s : State ι T) : Nat := tally (inWait condvar) s.thread

/-- The counters against the waits: every wait counted has ended, or a thread is still in it. -/
structure Accounted (w : Watched ι T) (condvar : Condvar) : Prop where
  count : waitCount condvar w.state.inner =
    (waitsFor condvar w.ended).length + waiting condvar w.state
  ns : waitNsTotal condvar w.state.inner = (waitsFor condvar w.ended).sum

omit [DecidableEq ι] [Fintype ι] in
theorem inWait_exitOthers (condvar : Condvar) (exit : Exit T) (thread : ι → Thread T) (t : ι) :
    inWait condvar (exitOthers exit thread t) = inWait condvar (thread t) := by
  cases exit with
  | notifyAll d => exact inWait_woken condvar (thread t)
  | wait | done | notifyOne => rfl

/-- The thread that runs a section leaves one wait and may enter another. -/
theorem waiting_leave (condvar : Condvar) (s : State ι T) (t : ι) (exit : Exit T) (inner : Inner T) :
    waiting condvar (leave s t exit inner) + inWait condvar (s.thread t) =
      waiting condvar s + begins condvar exit := by
  have moved := tally_update (inWait condvar) (exitOthers exit s.thread) t (exitThread exit)
  have others : tally (inWait condvar) (exitOthers exit s.thread) = waiting condvar s := by
    unfold waiting tally
    simp only [inWait_exitOthers]
  rw [others, inWait_exitOthers, inWait_exitThread] at moved
  exact moved

theorem waiting_moveThread (condvar : Condvar) (s : State ι T) (t : ι) (after : Thread T)
    (same : inWait condvar after = inWait condvar (s.thread t)) :
    waiting condvar (moveThread s t after) = waiting condvar s := by
  have moved := tally_update (inWait condvar) s.thread t after
  rw [same] at moved
  exact Nat.add_right_cancel moved

theorem Accounted.moved {w : Watched ι T} {condvar : Condvar} (accounted : Accounted w condvar)
    {t : ι} {after : Thread T} (same : inWait condvar after = inWait condvar (w.state.thread t)) :
    Accounted ⟨moveThread w.state t after, w.ended⟩ condvar where
  count := by
    rw [waiting_moveThread condvar w.state t after same]
    exact accounted.count
  ns := accounted.ns

theorem Accounted.step {manager : SensorBufferManager} {w w' : Watched ι T} {action : Action ι T}
    {condvar : Condvar} (accounted : Accounted w condvar)
    (step : (watching manager).step w action = some w') : Accounted w' condvar := by
  obtain ⟨next, moved, eq⟩ := Option.bind_eq_some_iff.mp step
  obtain rfl := Option.some.inj eq
  obtain ⟨count, ns⟩ := accounted
  cases step_moves moved with
  | call t c before =>
    have section_ := enter_waits condvar manager w.state.inner c
    have threads := waiting_leave condvar w.state t (manager.enter w.state.inner c).1
      (manager.enter w.state.inner c).2
    have outside : inWait condvar (w.state.thread t) = 0 := by rw [before, inWait]
    constructor
    · show waitCount condvar (manager.enter w.state.inner c).2 = (waitsFor condvar w.ended).length +
        waiting condvar (leave w.state t _ _)
      rw [section_.count]
      omega
    · show waitNsTotal condvar (manager.enter w.state.inner c).2 = (waitsFor condvar w.ended).sum
      rw [section_.ns, ns, Nat.add_zero]
  | wake t waited wait timedOut before =>
    have section_ := resume_waits condvar manager w.state.inner waited timedOut wait
    have threads := waiting_leave condvar w.state t
      (manager.resume w.state.inner waited timedOut wait).1
      (manager.resume w.state.inner waited timedOut wait).2
    have here : inWait condvar (w.state.thread t) = if wait.condvar = condvar then 1 else 0 := by
      rw [before, inWait]
    have ends : endings w.state w.ended (.wake t waited) = w.ended ++ [⟨wait.condvar, waited⟩] := by
      simp only [endings, before]
    have one : (waitsFor condvar [⟨wait.condvar, waited⟩]).length =
        if wait.condvar = condvar then 1 else 0 := (waitsFor_singleton condvar _).1
    have took : (waitsFor condvar [⟨wait.condvar, waited⟩]).sum =
        if wait.condvar = condvar then waited else 0 := (waitsFor_singleton condvar _).2
    rw [ends]
    constructor
    · show waitCount condvar (manager.resume w.state.inner waited timedOut wait).2 = _ +
        waiting condvar (leave w.state t _ _)
      rw [section_.count, waitsFor_append, List.length_append, one, count]
      omega
    · show waitNsTotal condvar (manager.resume w.state.inner waited timedOut wait).2 = _
      rw [section_.ns, ns, waitsFor_append, List.sum_append, took]
  | spurious t wait before => exact Accounted.moved ⟨count, ns⟩ (by rw [before, inWait, inWait])
  | timeout t remaining before => exact Accounted.moved ⟨count, ns⟩ (by rw [before, inWait, inWait])
  | notifyNobody t notified d before nobody =>
    exact Accounted.moved ⟨count, ns⟩ (by rw [before, inWait, inWait])
  | notify t u notified d wait before waits same =>
    have distinct : t ≠ u := by
      rintro rfl
      simp [before] at waits
    have woken : Accounted ⟨moveThread w.state u (.ready wait false), w.ended⟩ condvar :=
      Accounted.moved ⟨count, ns⟩ (by rw [waits, inWait, inWait])
    apply woken.moved
    show inWait condvar .outside =
      inWait condvar (Function.update w.state.thread u (.ready wait false) t)
    rw [Function.update_of_ne distinct, before, inWait, inWait]

theorem reachable_accounted {manager : SensorBufferManager} {w : Watched ι T}
    (reach : (watching manager).Reachable w) (condvar : Condvar) : Accounted w condvar := by
  apply System.Reaches.invariant reach (fun w => Accounted w condvar)
  · constructor
    · have nobody : waiting condvar (threads manager : System (State ι T) (Action ι T)).init = 0 :=
        tally_eq_zero.mpr fun _ => rfl
      show waitCount condvar Inner.new = (waitsFor condvar []).length +
        waiting condvar (threads manager : System (State ι T) (Action ι T)).init
      rw [nobody]
      cases condvar <;> rfl
    · show waitNsTotal condvar Inner.new = (waitsFor condvar []).sum
      cases condvar <;> rfl
  · intro u action v held step
    exact held.step step

/-- A run that is watched is a run. -/
theorem reaches_state {manager : SensorBufferManager} {w w' : Watched ι T}
    (reach : (watching manager).Reaches w w') : (threads manager).Reaches w.state w'.state := by
  apply reach.invariant (fun w' => (threads manager).Reaches w.state w'.state)
  · exact System.ReachesUnder.refl _
  · intro u action v held step
    obtain ⟨next, moved, eq⟩ := Option.bind_eq_some_iff.mp step
    obtain rfl := Option.some.inj eq
    exact held.tail moved

/-- The waits that have ended stay ended. -/
theorem ended_grows {manager : SensorBufferManager} {w w' : Watched ι T}
    (reach : (watching manager).Reaches w w') : w.ended <+: w'.ended := by
  apply reach.invariant (fun w' => w.ended <+: w'.ended)
  · exact List.prefix_refl _
  · intro u action v held step
    obtain ⟨next, moved, eq⟩ := Option.bind_eq_some_iff.mp step
    obtain rfl := Option.some.inj eq
    refine held.trans ?_
    unfold endings
    split
    · split
      · exact List.prefix_append _ _
      · exact List.prefix_refl _
    · exact List.prefix_refl _

/-- The counts of waits never fall. -/
theorem waitCount_grows {manager : SensorBufferManager} {w w' : Watched ι T}
    (reach : (watching manager).Reaches w w') (condvar : Condvar) :
    waitCount condvar w.state.inner ≤ waitCount condvar w'.state.inner := by
  apply reach.invariant (fun w' =>
    waitCount condvar w.state.inner ≤ waitCount condvar w'.state.inner)
  · exact le_refl _
  · intro u action v held step
    obtain ⟨next, moved, eq⟩ := Option.bind_eq_some_iff.mp step
    obtain rfl := Option.some.inj eq
    refine held.trans ?_
    cases step_moves moved with
    | call t c before =>
      show _ ≤ waitCount condvar (manager.enter u.state.inner c).2
      rw [(enter_waits condvar manager u.state.inner c).count]
      exact Nat.le_add_right _ _
    | wake t waited wait timedOut before =>
      show _ ≤ waitCount condvar (manager.resume u.state.inner waited timedOut wait).2
      rw [(resume_waits condvar manager u.state.inner waited timedOut wait).count]
      exact Nat.le_add_right _ _
    | spurious | timeout | notifyNobody | notify => exact le_refl _

/-- What the statistics of one moment say. -/
structure Truthful (manager : SensorBufferManager) (w : Watched ι T) (s : BufferStats) : Prop where
  capacity : s.capacity = manager.capacity ∧ 0 < s.capacity
  len_le : s.len ≤ s.highWatermark ∧ s.highWatermark ≤ s.capacity
  balance : s.totalPushed = s.totalPopped + s.len ∧ s.totalPushed = w.state.accepted.length ∧
    s.totalPopped = w.state.popped.length
  pushWaits : s.pushWaitCount =
    (waitsFor .notFull w.ended).length + waiting .notFull w.state ∧
      s.pushWaitNsTotal = (waitsFor .notFull w.ended).sum
  popWaits : s.popWaitCount =
    (waitsFor .notEmpty w.ended).length + waiting .notEmpty w.state ∧
      s.popWaitNsTotal = (waitsFor .notEmpty w.ended).sum
  ratio : 0 ≤ s.fillRatio ∧ s.fillRatio ≤ 1 ∧ (s.fillRatio = 1 ↔ s.len = s.capacity)

theorem fillRatio_eq {s : BufferStats} (positive : 0 < s.capacity) :
    s.fillRatio = s.len / s.capacity :=
  if_neg positive.ne'

theorem fillRatio_mem {s : BufferStats} (positive : 0 < s.capacity) (fits : s.len ≤ s.capacity) :
    0 ≤ s.fillRatio ∧ s.fillRatio ≤ 1 ∧ (s.fillRatio = 1 ↔ s.len = s.capacity) := by
  have above : (0 : ℚ) < s.capacity := by exact_mod_cast positive
  rw [fillRatio_eq positive]
  refine ⟨div_nonneg (Nat.cast_nonneg _) above.le, ?_, ?_⟩
  · rw [div_le_one above]
    exact_mod_cast fits
  · rw [div_eq_one_iff_eq above.ne']
    exact Nat.cast_inj

/-- The two tests for pressure, one by a quotient and one by a product, are one. -/
theorem isHighPressure_iff (manager : SensorBufferManager) (inner : Inner T) (watermark : ℚ) :
    (stats manager inner).IsHighPressure watermark ↔
      IsUnderBackpressure manager inner watermark := by
  have positive : 0 < (stats manager inner).capacity := manager.positive
  have above : (0 : ℚ) < (stats manager inner).capacity := by exact_mod_cast positive
  unfold BufferStats.IsHighPressure IsUnderBackpressure
  rw [fillRatio_eq positive, le_div_iff₀ above]
  exact ⟨fun high => ⟨positive.ne', high⟩, fun under => under.2⟩

/-- The items accepted and popped so far are counted. -/
theorem reachable_totals {manager : SensorBufferManager} {s : State ι T}
    (reach : (threads manager).Reachable s) : s.inner.totalPushed = s.accepted.length ∧
      s.inner.totalPopped = s.popped.length := by
  apply System.Reaches.invariant reach (fun s =>
    s.inner.totalPushed = s.accepted.length ∧ s.inner.totalPopped = s.popped.length)
  · exact ⟨rfl, rfl⟩
  · intro u action v held moved
    obtain ⟨pushed, popped⟩ := held
    obtain ⟨t, exit, inner, runs, rfl⟩ | ⟨-, thread, rfl⟩ := step_section moved
    · have effect := criticalSection_effect runs
      show inner.core.totalPushed = (u.accepted ++ exitAccepted exit).length ∧
        inner.core.totalPopped = (u.popped ++ exitPopped exit).length
      rw [List.length_append, List.length_append, ← pushed, ← popped]
      generalize inner.core = after at effect
      cases effect with
      | accept item d room isOpen taken given => simp [exitAccepted, exitPopped, Exit.result?, taken,
          given, Core.accept, Inner.core]
      | deliver item rest d head taken given => simp [exitAccepted, exitPopped, Exit.result?, taken,
          given, Core.deliver, Inner.core]
      | decline d taken given drained => simp [exitAccepted, exitPopped, Exit.result?, taken, given,
          Inner.core]
      | suspend wait => simp [exitAccepted, exitPopped, Exit.result?, Inner.core]
      | close => exact ⟨rfl, rfl⟩
    · exact ⟨pushed, popped⟩

/-- In every run the statistics are an exact account: of the items, of the waits that threads have
begun and ended, and of the time that the ended ones took. -/
theorem stats_truthful (manager : SensorBufferManager) {w : Watched ι T}
    (reach : (watching manager).Reachable w) :
    Truthful manager w (stats manager w.state.inner) ∧
      ∀ watermark, (stats manager w.state.inner).IsHighPressure watermark ↔
        IsUnderBackpressure manager w.state.inner watermark := by
  have lossless := Fifo.reachable_lossless (reaches_state reach)
  have pushes := reachable_accounted reach .notFull
  have pops := reachable_accounted reach .notEmpty
  refine ⟨?_, isHighPressure_iff manager w.state.inner⟩
  exact {
    capacity := ⟨rfl, manager.positive⟩
    len_le := ⟨lossless.length_le, lossless.watermark_le⟩
    balance := ⟨lossless.balance, reachable_totals (reaches_state reach)⟩
    pushWaits := ⟨pushes.count, pushes.ns⟩
    popWaits := ⟨pops.count, pops.ns⟩
    ratio := fillRatio_mem manager.positive (lossless.length_le.trans lossless.watermark_le) }

theorem stats_truthful_handover :
    ∃ w : Watched (Fin 2) Nat, w.ended = [⟨.notFull, 5⟩] ∧
      Truthful ⟨1, by decide⟩ w (stats ⟨1, by decide⟩ w.state.inner) := by
  let manager : SensorBufferManager := ⟨1, by decide⟩
  let w := ((watching manager : System (Watched (Fin 2) Nat) _).run Fifo.handover).get (by decide)
  exact ⟨w, by decide, (stats_truthful manager (w := w)
    (System.reachable_of_run (Option.some_get _).symm)).1⟩

/-- Between two moments: the waits that ended in between took the time by which the total has
grown, and those that began are those that ended or are going on, less those that were. -/
theorem waits_since {manager : SensorBufferManager} {w w' : Watched ι T} {since : List Ended}
    (reach : (watching manager).Reachable w) (later : (watching manager).Reaches w w')
    (more : w'.ended = w.ended ++ since) (condvar : Condvar) :
    waitNsTotal condvar w'.state.inner =
        waitNsTotal condvar w.state.inner + (waitsFor condvar since).sum ∧
      waiting condvar w.state +
          (waitCount condvar w'.state.inner - waitCount condvar w.state.inner) =
        (waitsFor condvar since).length + waiting condvar w'.state := by
  obtain ⟨count, ns⟩ := reachable_accounted reach condvar
  obtain ⟨countThen, nsThen⟩ := reachable_accounted (System.Reaches.trans reach later) condvar
  have grows := waitCount_grows later condvar
  rw [more, waitsFor_append, List.length_append] at countThen
  rw [more, waitsFor_append, List.sum_append] at nsThen
  omega

/-- Between two moments of a run each difference of the statistics is that of the waits in between,
and no subtraction saturates. -/
theorem deltas_exact (manager : SensorBufferManager) {w w' : Watched ι T}
    (reach : (watching manager).Reachable w) (later : (watching manager).Reaches w w') :
    ∃ since, w'.ended = w.ended ++ since ∧
      let earlier := stats manager w.state.inner
      let now := stats manager w'.state.inner
      now.pushWaitNsDeltaSince earlier = (waitsFor .notFull since).sum ∧
      now.popWaitNsDeltaSince earlier = (waitsFor .notEmpty since).sum ∧
      earlier.pushWaitNsTotal + now.pushWaitNsDeltaSince earlier = now.pushWaitNsTotal ∧
      earlier.popWaitNsTotal + now.popWaitNsDeltaSince earlier = now.popWaitNsTotal ∧
      earlier.pushWaitCount + now.pushWaitCountDeltaSince earlier = now.pushWaitCount ∧
      earlier.popWaitCount + now.popWaitCountDeltaSince earlier = now.popWaitCount ∧
      waiting .notFull w.state + now.pushWaitCountDeltaSince earlier =
        (waitsFor .notFull since).length + waiting .notFull w'.state ∧
      waiting .notEmpty w.state + now.popWaitCountDeltaSince earlier =
        (waitsFor .notEmpty since).length + waiting .notEmpty w'.state := by
  obtain ⟨since, more⟩ := ended_grows later
  obtain ⟨pushNs, pushes⟩ := waits_since reach later more.symm .notFull
  obtain ⟨popNs, pops⟩ := waits_since reach later more.symm .notEmpty
  have pushDelta : (stats manager w'.state.inner).pushWaitNsDeltaSince
      (stats manager w.state.inner) = (waitsFor .notFull since).sum :=
    Nat.sub_eq_of_eq_add (pushNs.trans (Nat.add_comm _ _))
  have popDelta : (stats manager w'.state.inner).popWaitNsDeltaSince
      (stats manager w.state.inner) = (waitsFor .notEmpty since).sum :=
    Nat.sub_eq_of_eq_add (popNs.trans (Nat.add_comm _ _))
  refine ⟨since, more.symm, pushDelta, popDelta, ?_, ?_, ?_, ?_, pushes, pops⟩
  · rw [pushDelta]
    exact pushNs.symm
  · rw [popDelta]
    exact popNs.symm
  · exact Nat.add_sub_of_le (waitCount_grows later .notFull)
  · exact Nat.add_sub_of_le (waitCount_grows later .notEmpty)

/-- The start, and the moment after a producer has waited for five nanoseconds. -/
theorem deltas_exact_handover :
    ∃ w : Watched (Fin 2) Nat, ∃ since, w.ended = [] ++ since ∧ since = [⟨.notFull, 5⟩] ∧
      (stats ⟨1, by decide⟩ w.state.inner).pushWaitNsDeltaSince
        (stats ⟨1, by decide⟩ (Inner.new : Inner Nat)) = (waitsFor .notFull since).sum := by
  let manager : SensorBufferManager := ⟨1, by decide⟩
  let w := ((watching manager : System (Watched (Fin 2) Nat) _).run Fifo.handover).get (by decide)
  have reach : (watching manager).Reachable w := System.reachable_of_run (Option.some_get _).symm
  obtain ⟨since, more, pushNs, -⟩ := deltas_exact manager (System.ReachesUnder.refl _) reach
  have ended : w.ended = [⟨.notFull, 5⟩] := by decide
  exact ⟨w, since, more, more.symm.trans ended, pushNs⟩

end SensorGateway.Buffer.Stats

import Mathlib.Data.List.Sort
import SensorGateway.Bench.Lines
import SensorGateway.Buffer.Stats

/-! What a row of the benchmark says of the run it was made from, with `f64` values read as exact
rationals. -/

namespace SensorGateway.Bench.Row
open SensorGateway.Lib.Transition SensorGateway.Lib.Tally SensorGateway.Types
open Buffer.Manager Buffer.Threads Buffer.Stats Micro Lines

/-- `buffer` is the capacity, which `SensorBufferManager::new` asserts to be positive. -/
structure RunParams where
  buffer : SensorBufferManager
  readerSleepUs : Nat
  consumerWorkUs : Nat
  sensorIntervalUs : Nat
  durationNs : Nat
  sensors : Nat

structure BenchRow where
  capacity : Nat
  readerSleepUs : Nat
  consumerWorkUs : Nat
  sensorIntervalUs : Nat
  durationMs : Nat
  sensors : Nat
  sensorOverwrites : Nat
  bufferHighWatermark : Nat
  pushWaitCount : Nat
  popWaitCount : Nat
  p95LagUs : Nat
  throughputRpsTotal : ℚ
  offeredRpsTotal : ℚ
  rhoHat : ℚ

/-- The product with `0.95` is rounded to `f64` before it is cut, which for every length below 2^53
gives what cutting the exact product gives. -/
def p95Us (v : List Nat) : Nat :=
  (v.mergeSort (· ≤ ·)).getD (min (v.length * 95 / 100) (v.length - 1)) 0

def elapsed (p : RunParams) : ℚ := max (p.durationNs / 10 ^ 9) (1 / 10 ^ 6)

def offered (p : RunParams) : ℚ := p.sensors / ((max p.sensorIntervalUs 1 : Nat) / 10 ^ 6)

/-- What `run_micro` returns once it has joined its threads. -/
def benchRow (p : RunParams) (s : Micro.State p.sensors) : BenchRow :=
  let bs := stats p.buffer s.buffer.inner
  { capacity := p.buffer.capacity
    readerSleepUs := p.readerSleepUs
    consumerWorkUs := p.consumerWorkUs
    sensorIntervalUs := p.sensorIntervalUs
    durationMs := p.durationNs / 10 ^ 6
    sensors := p.sensors
    sensorOverwrites := s.overwrites
    bufferHighWatermark := bs.highWatermark
    pushWaitCount := bs.pushWaitCount
    popWaitCount := bs.popWaitCount
    p95LagUs := p95Us s.lags
    throughputRpsTotal := bs.totalPopped / elapsed p
    offeredRpsTotal := offered p
    rhoHat := offered p * p.consumerWorkUs * (1 / 10 ^ 6) }

/-! The percentile. -/

theorem rank_le {xs : List Nat} (sorted : xs.Pairwise (· ≤ ·)) {i : Nat} (inside : i < xs.length) :
    i + 1 ≤ xs.countP (fun y => decide (y ≤ xs[i])) := by
  have all : (xs.take (i + 1)).countP (fun y => decide (y ≤ xs[i])) = (xs.take (i + 1)).length := by
    rw [List.countP_eq_length]
    intro y member
    obtain ⟨j, below, rfl⟩ := List.mem_iff_getElem.mp member
    rw [List.length_take] at below
    rw [List.getElem_take, decide_eq_true_eq]
    rcases Nat.lt_or_ge j i with less | equal
    · exact List.pairwise_iff_getElem.mp sorted j i (by omega) inside less
    · obtain rfl : j = i := by omega
      exact Nat.le_refl _
  have part : (xs.take (i + 1)).countP (fun y => decide (y ≤ xs[i])) ≤ _ :=
    (List.take_sublist (i + 1) xs).countP_le
  rw [all, List.length_take] at part
  omega

theorem rank_ge {xs : List Nat} (sorted : xs.Pairwise (· ≤ ·)) {i : Nat} (inside : i < xs.length) :
    xs.length - i ≤ xs.countP (fun y => decide (xs[i] ≤ y)) := by
  have all : (xs.drop i).countP (fun y => decide (xs[i] ≤ y)) = (xs.drop i).length := by
    rw [List.countP_eq_length]
    intro y member
    obtain ⟨j, below, rfl⟩ := List.mem_iff_getElem.mp member
    rw [List.length_drop] at below
    rw [List.getElem_drop, decide_eq_true_eq]
    rcases Nat.eq_zero_or_pos j with rfl | later
    · exact Nat.le_refl _
    · exact List.pairwise_iff_getElem.mp sorted i (i + j) inside (by omega) (by omega)
  have part : (xs.drop i).countP (fun y => decide (xs[i] ≤ y)) ≤ _ :=
    (List.drop_sublist i xs).countP_le
  rw [all, List.length_drop] at part
  exact part

/-- No more than five in a hundred lags are above it, and no fewer are at it or above. -/
theorem p95_ranked {v : List Nat} (some_lag : v ≠ []) :
    p95Us v ∈ v ∧ 95 * v.length ≤ 100 * v.countP (fun y => decide (y ≤ p95Us v)) ∧
      5 * v.length ≤ 100 * v.countP (fun y => decide (p95Us v ≤ y)) := by
  have perm := List.mergeSort_perm v (fun a b => decide (a ≤ b))
  have sorted : (v.mergeSort (fun a b => decide (a ≤ b))).Pairwise (· ≤ ·) := by
    have pairs : (v.mergeSort (fun a b => decide (a ≤ b))).Pairwise (fun a b => decide (a ≤ b) = true) := by
      apply List.pairwise_mergeSort
      · intro a b c first second
        rw [decide_eq_true_eq] at *
        exact first.trans second
      · intro a b
        rw [Bool.or_eq_true, decide_eq_true_eq, decide_eq_true_eq]
        exact Nat.le_total a b
    exact pairs.imp of_decide_eq_true
  have positive : 0 < v.length := List.length_pos_iff.mpr some_lag
  obtain ⟨i, place⟩ : ∃ i, i = min (v.length * 95 / 100) (v.length - 1) := ⟨_, rfl⟩
  have inside : i < (v.mergeSort (fun a b => decide (a ≤ b))).length := by
    rw [List.length_mergeSort]
    omega
  have value : p95Us v = (v.mergeSort (fun a b => decide (a ≤ b)))[i] := by
    rw [p95Us, ← place, List.getD_eq_getElem?_getD, List.getElem?_eq_getElem inside]
    rfl
  have low := rank_le sorted inside
  have high := rank_ge sorted inside
  rw [← value, perm.countP_eq] at low high
  rw [List.length_mergeSort] at high
  refine ⟨?_, ?_, ?_⟩
  · rw [value]
    exact perm.mem_iff.mp (List.getElem_mem inside)
  · omega
  · omega

/-! The lags. -/

variable {n : Nat} {manager : SensorBufferManager} {s t : Micro.State n}

/-- One of the popped readings may not have been looked at yet. -/
def looking : Consumer → Nat
  | .record _ => 1
  | _ => 0

/-- A lag is kept of each reading popped, up to 500000 of them. -/
def Logged (s : Micro.State n) : Prop :=
  ∃ k, s.buffer.popped.length = k + looking s.consumer ∧ s.lags.length = min 500000 k

theorem Logged.moved (logged : Logged s) (moves : Moves manager s t) : Logged t := by
  obtain ⟨k, popped, lags⟩ := logged
  cases moves with
  | consumer now consumer later outside moved =>
    cases at_pc : s.consumer with
    | checkStop =>
      simp only [consumerStep, at_pc, Option.some.injEq, Prod.mk.injEq] at moved
      obtain ⟨rfl, rfl⟩ := moved
      rw [at_pc] at popped
      exact ⟨k, by cases s.stop <;> exact popped, lags⟩
    | checkLen =>
      simp only [consumerStep, at_pc, Option.some.injEq, Prod.mk.injEq] at moved
      obtain ⟨rfl, rfl⟩ := moved
      rw [at_pc] at popped
      exact ⟨k, by split <;> exact popped, lags⟩
    | record env =>
      simp only [consumerStep, at_pc, Option.some.injEq, Prod.mk.injEq] at moved
      obtain ⟨rfl, rfl⟩ := moved
      rw [at_pc] at popped
      refine ⟨k + 1, popped, ?_⟩
      show (recordLag s.lags (lag env now)).length = min 500000 (k + 1)
      unfold recordLag
      split
      · rw [List.length_append, List.length_singleton]
        omega
      · omega
    | pop => simp only [consumerStep, at_pc, reduceCtorEq] at moved
    | done => simp only [consumerStep, at_pc, reduceCtorEq] at moved
  | served u exit inner served isOpen act stepped =>
    cases served with
    | accept i env inner at_pc room queue =>
      exact ⟨k, (congrArg List.length (List.append_nil _)).trans popped, lags⟩
    | full i env inner at_pc queue =>
      exact ⟨k, (congrArg List.length (List.append_nil _)).trans popped, lags⟩
    | deliver env inner at_pc queue =>
      rw [at_pc] at popped
      refine ⟨k, ?_, lags⟩
      show (s.buffer.popped ++ [env]).length = k + 1
      rw [List.length_append, popped]
      rfl
    | nothing inner at_pc queue =>
      rw [at_pc] at popped
      exact ⟨k, (congrArg List.length (List.append_nil _)).trans popped, lags⟩
    | empty remaining inner at_pc queue =>
      exact ⟨k, (congrArg List.length (List.append_nil _)).trans popped, lags⟩
  | _ => exact ⟨k, popped, lags⟩

theorem reachable_logged (reach : (runMicro manager n).Reachable s) : Logged s :=
  (reachable_invariant Logged ⟨0, rfl, rfl⟩ (fun _ _ _ logged moves => logged.moved moves) reach).2

/-- Nothing is in a thread's hands once all have been joined. -/
theorem tally_kept_returned (accounted : Accounted s) (returned : s.main = .join []) :
    tally kept s.line = tally Line.avail s.line := by
  apply Finset.sum_congr rfl
  intro i _
  have ended : gone s (.reader i) = true := (accounted.ended [] returned (.reader i)).resolve_left nofun
  have at_pc : (s.line i).reader = .done := Reader.isDone_iff.mp ended
  rw [kept, at_pc]
  rfl

/-- What is known of a run once `run_micro` has returned. -/
structure Returned (p : RunParams) (s : Micro.State p.sensors) : Prop where
  /-- Each reading counted is overwritten, popped, or left in the buffer or a ring. -/
  counted : tally Line.seq s.line = (benchRow p s).sensorOverwrites + s.buffer.popped.length +
    (s.buffer.inner.q.length + tally Line.avail s.line)
  /-- `perSensor` is 130. -/
  left_behind : s.buffer.inner.q.length + tally Line.avail s.line ≤ perSensor * p.sensors
  in_ring : ∀ i, (s.line i).avail ≤ 1
  throughput : (benchRow p s).throughputRpsTotal * elapsed p = s.buffer.popped.length
  watermark : (benchRow p s).bufferHighWatermark = s.buffer.peak ∧ s.buffer.peak ≤ p.buffer.capacity
  lags : s.lags.length = min 500000 s.buffer.popped.length
  p95 : s.lags ≠ [] → (benchRow p s).p95LagUs ∈ s.lags ∧
    95 * s.lags.length ≤ 100 * s.lags.countP (fun y => decide (y ≤ (benchRow p s).p95LagUs)) ∧
    5 * s.lags.length ≤ 100 * s.lags.countP (fun y => decide ((benchRow p s).p95LagUs ≤ y))

theorem elapsed_pos (p : RunParams) : 0 < elapsed p := lt_max_of_lt_right (by norm_num)

/-- The row leaves out what the consumer has not popped: a run that overwrote nothing has still lost up
to 130 readings of each sensor, in the buffer or a ring. -/
theorem row_accounts (p : RunParams) (s : Micro.State p.sensors)
    (reach : (runMicro p.buffer p.sensors).Reachable s) (returned : s.main = .join []) : Returned p s := by
  obtain ⟨linked, accounted⟩ := reachable_accounted reach
  have gone (handle : Handle p.sensors) : gone s handle = true :=
    (accounted.ended [] returned handle).resolve_left nofun
  have left : s.consumer = .done := Consumer.isDone_iff.mp (gone .consumer)
  have lossless := Buffer.Fifo.reachable_lossless (reachable_buffer reach)
  have totals := reachable_totals (reachable_buffer reach)
  have accepted : s.buffer.accepted.length = s.buffer.popped.length + s.buffer.inner.q.length := by
    rw [← lossless.order, List.length_append]
    rfl
  have keeps := tally_kept_returned accounted returned
  have made := accounted.made
  constructor
  · show tally Line.seq s.line = s.overwrites + s.buffer.popped.length +
      (s.buffer.inner.q.length + tally Line.avail s.line)
    omega
  · have bound := (accounted.unattended left).2
    have less : tally Line.avail s.line ≤ tally held s.line := by
      apply Finset.sum_le_sum
      intro i _
      show (s.line i).avail ≤ (s.line i).avail + inPush (s.line i).reader + coming (s.line i).sensor
      omega
    omega
  · intro i
    have ended := ((accounted.lines i).left (Reader.isDone_iff.mp (gone (.reader i)))).2
    omega
  · show (s.buffer.inner.totalPopped : ℚ) / elapsed p * elapsed p = _
    rw [div_mul_cancel₀ _ (elapsed_pos p).ne', totals.2]
  · exact ⟨lossless.watermark_peak, lossless.watermark_peak ▸ lossless.watermark_le⟩
  · obtain ⟨k, popped, lags⟩ := reachable_logged reach
    rw [left] at popped
    rw [lags, popped]
    rfl
  · exact fun some_lag => p95_ranked some_lag

def oneSensor : RunParams := ⟨⟨1, Nat.one_pos⟩, 0, 0, 50, 1000, 1⟩

/-- The consumer pops the first reading and leaves before the reader has pushed the second. -/
def unpopped : List (Micro.Action 1) :=
  let i : Fin 1 := ⟨0, Nat.one_pos⟩
  [.sensor i, .sensor i, .sensor i, .reader i false 0, .reader i false 0, .reader i false 0,
    .reader i false 0, .reader i false 1000, .push i, .notify (some i) none, .consumer 0, .pop,
    .notify none none, .consumer 9000, .sensor i, .sensor i, .sensor i, .stop, .consumer 0, .consumer 0,
    .reader i false 0, .reader i false 0, .reader i false 0, .push i, .notify (some i) none,
    .reader i false 0, .reader i false 0, .reader i false 0, .sensor i, .join, .join, .join]

theorem row_accounts_unpopped :
    ∃ s : Micro.State 1, (runMicro oneSensor.buffer 1).run unpopped = some s ∧ s.lags = [8] ∧
      s.overwrites = 0 ∧ s.buffer.popped.length = 1 ∧ s.buffer.inner.q.length = 1 ∧
      Returned oneSensor s := by
  let system : System (Micro.State 1) (Micro.Action 1) := runMicro oneSensor.buffer 1
  let s := (system.run unpopped).get (by decide)
  have replay : system.run unpopped = some s := (Option.some_get _).symm
  have accounts := row_accounts oneSensor s (System.reachable_of_run replay) (by decide)
  exact ⟨s, replay, by decide, by decide, by decide, by decide, accounts⟩

end SensorGateway.Bench.Row

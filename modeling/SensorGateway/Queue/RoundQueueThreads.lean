import SensorGateway.Lib.Transition
import SensorGateway.Queue.RoundQueue

/-! One reader thread calling `try_read` and one writer thread calling `write_overwrite` on the
same ring queue. Every atomic load, atomic store and slot access is one step; the two threads
interleave in any sequentially consistent order. -/

namespace SensorGateway.Queue.RoundQueueThreads
open SensorGateway.Lib.Transition SensorGateway.Lib.Ring RoundQueue

/-- A value together with the number of the write that stored it; zeroed memory has number 0.
No step looks at the number. -/
abbrev Stamped (T : Type*) := Nat × T

inductive ReaderPc (T : Type*) where
  | idle
  | loadedRead (readIdx : Nat)
  | acquired (ptr : Nat)
  | copied (value : Stamped T)
  | committing (value : Stamped T) (readIdx : Nat)
  deriving DecidableEq, Repr

inductive WriterPc (T : Type*) where
  | idle
  | loadedWrite (value : T) (writeIdx : Nat)
  /-- `acquire_write_ptr` has returned the pointer and the full verdict. -/
  | acquired (value : T) (ptr : Nat) (wasFull : Bool)
  | stored (wasFull : Bool)
  /-- `commit_write` of an overwriting call has loaded `write_idx`. -/
  | overwriting (nextWrite : Nat)
  | skipping (nextWrite readIdx : Nat)
  | publishing (nextWrite : Nat) (wasFull : Bool)
  deriving DecidableEq, Repr

structure Threads (T : Type*) where
  queue : RWRoundQueue (Stamped T)
  reader : ReaderPc T
  writer : WriterPc T
  /-- The values stored into slots, in the order of the writes. -/
  written : List (Stamped T)
  received : List (Stamped T)
  /-- The number of calls of `write_overwrite` that have returned. -/
  completed : Nat
  overwrites : Nat
  deriving DecidableEq, Repr

inductive Move (T : Type*) where
  /-- The next atomic step of the reader; from `idle` it starts a call of `try_read`. -/
  | reader
  /-- The writer starts `write_overwrite value` with its first atomic step. -/
  | write (value : T)
  | writer
  deriving DecidableEq, Repr

variable {T : Type*}

def readerStep (s : Threads T) : Option (Threads T) :=
  match s.reader with
  | .idle => some { s with reader := .loadedRead s.queue.readIdx }
  | .loadedRead readIdx =>
    if readIdx = s.queue.writeIdx then some { s with reader := .idle }
    else some { s with reader := .acquired readIdx }
  | .acquired ptr =>
    match s.queue.readSlot ptr with
    | .ok value => some { s with reader := .copied value }
    | .error _ => none
  | .copied value => some { s with reader := .committing value s.queue.readIdx }
  | .committing value readIdx =>
    some { s with reader := .idle, received := s.received ++ [value],
                  queue := { s.queue with readIdx := s.queue.nextIndex readIdx } }

def writerStep (s : Threads T) : Option (Threads T) :=
  match s.writer with
  | .idle => none
  | .loadedWrite value writeIdx =>
    let wasFull := decide (s.queue.nextIndex writeIdx = s.queue.readIdx)
    some { s with writer := .acquired value writeIdx wasFull }
  | .acquired value ptr wasFull =>
    match s.queue.writeSlot ptr (s.written.length + 1, value) with
    | .ok queue => some { s with writer := .stored wasFull, queue,
                                 written := s.written ++ [(s.written.length + 1, value)] }
    | .error _ => none
  | .stored wasFull =>
    let nextWrite := s.queue.nextIndex s.queue.writeIdx
    if wasFull then some { s with writer := .overwriting nextWrite }
    else some { s with writer := .publishing nextWrite false }
  | .overwriting nextWrite => some { s with writer := .skipping nextWrite s.queue.readIdx }
  | .skipping nextWrite readIdx =>
    some { s with writer := .publishing nextWrite true,
                  queue := { s.queue with readIdx := s.queue.nextIndex readIdx } }
  | .publishing nextWrite wasFull =>
    some { s with writer := .idle, queue := { s.queue with writeIdx := nextWrite },
                  completed := s.completed + 1,
                  overwrites := s.overwrites + if wasFull then 1 else 0 }

def step (s : Threads T) : Move T → Option (Threads T)
  | .reader => readerStep s
  | .write value =>
    match s.writer with
    | .idle => some { s with writer := .loadedWrite value s.queue.writeIdx }
    | _ => none
  | .writer => writerStep s

/-- Both threads before their first call on a queue that `new` has built. -/
def threads [Inhabited T] (capacity : Nat) : System (Threads T) (Move T) where
  init := { queue := ⟨List.replicate capacity default, capacity, 0, 0⟩, reader := .idle,
            writer := .idle, written := [], received := [], completed := 0, overwrites := 0 }
  step := step

/-! Everything a step of a thread can do. -/

inductive ReaderMoves (s : Threads T) : Threads T → Prop
  | load (pc : s.reader = .idle) : ReaderMoves s { s with reader := .loadedRead s.queue.readIdx }
  | empty (readIdx : Nat) (pc : s.reader = .loadedRead readIdx) (meet : readIdx = s.queue.writeIdx) :
      ReaderMoves s { s with reader := .idle }
  | acquire (readIdx : Nat) (pc : s.reader = .loadedRead readIdx)
      (apart : readIdx ≠ s.queue.writeIdx) : ReaderMoves s { s with reader := .acquired readIdx }
  | copy (ptr : Nat) (value : Stamped T) (pc : s.reader = .acquired ptr)
      (found : s.queue.readSlot ptr = .ok value) : ReaderMoves s { s with reader := .copied value }
  | reload (value : Stamped T) (pc : s.reader = .copied value) :
      ReaderMoves s { s with reader := .committing value s.queue.readIdx }
  | receive (value : Stamped T) (readIdx : Nat) (pc : s.reader = .committing value readIdx) :
      ReaderMoves s { s with
        reader := .idle, received := s.received ++ [value],
        queue := { s.queue with readIdx := s.queue.nextIndex readIdx } }

theorem readerStep_moves {s t : Threads T} (moved : readerStep s = some t) : ReaderMoves s t := by
  unfold readerStep at moved
  cases pc : s.reader with
  | idle =>
    simp only [pc, Option.some.injEq] at moved
    exact moved ▸ .load pc
  | loadedRead readIdx =>
    simp only [pc] at moved
    split at moved
    next meet => exact Option.some.inj moved ▸ .empty readIdx pc meet
    next apart => exact Option.some.inj moved ▸ .acquire readIdx pc apart
  | acquired ptr =>
    simp only [pc] at moved
    split at moved
    next value found => exact Option.some.inj moved ▸ .copy ptr value pc found
    next => cases moved
  | copied value =>
    simp only [pc, Option.some.injEq] at moved
    exact moved ▸ .reload value pc
  | committing value readIdx =>
    simp only [pc, Option.some.injEq] at moved
    exact moved ▸ .receive value readIdx pc

inductive WriterMoves (s : Threads T) : Threads T → Prop
  | test (value : T) (writeIdx : Nat) (pc : s.writer = .loadedWrite value writeIdx) :
      WriterMoves s { s with
        writer := .acquired value writeIdx (decide (s.queue.nextIndex writeIdx = s.queue.readIdx)) }
  | store (value : T) (ptr : Nat) (wasFull : Bool) (pc : s.writer = .acquired value ptr wasFull)
      (inside : ptr < s.queue.buffer.length) :
      WriterMoves s { s with
        writer := .stored wasFull, written := s.written ++ [(s.written.length + 1, value)],
        queue := { s.queue with buffer := s.queue.buffer.set ptr (s.written.length + 1, value) } }
  | append (pc : s.writer = .stored false) :
      WriterMoves s { s with writer := .publishing (s.queue.nextIndex s.queue.writeIdx) false }
  | overwrite (pc : s.writer = .stored true) :
      WriterMoves s { s with writer := .overwriting (s.queue.nextIndex s.queue.writeIdx) }
  | load (nextWrite : Nat) (pc : s.writer = .overwriting nextWrite) :
      WriterMoves s { s with writer := .skipping nextWrite s.queue.readIdx }
  | skip (nextWrite readIdx : Nat) (pc : s.writer = .skipping nextWrite readIdx) :
      WriterMoves s { s with
        writer := .publishing nextWrite true,
        queue := { s.queue with readIdx := s.queue.nextIndex readIdx } }
  | publish (nextWrite : Nat) (wasFull : Bool) (pc : s.writer = .publishing nextWrite wasFull) :
      WriterMoves s { s with
        writer := .idle, queue := { s.queue with writeIdx := nextWrite },
        completed := s.completed + 1, overwrites := s.overwrites + if wasFull then 1 else 0 }

theorem writerStep_moves {s t : Threads T} (moved : writerStep s = some t) : WriterMoves s t := by
  unfold writerStep at moved
  cases pc : s.writer with
  | idle => simp only [pc, reduceCtorEq] at moved
  | loadedWrite value writeIdx =>
    simp only [pc, Option.some.injEq] at moved
    exact moved ▸ .test value writeIdx pc
  | acquired value ptr wasFull =>
    simp only [pc] at moved
    by_cases inside : ptr < s.queue.buffer.length
    · simp only [RWRoundQueue.writeSlot, if_pos inside, Option.some.injEq] at moved
      exact moved ▸ .store value ptr wasFull pc inside
    · simp only [RWRoundQueue.writeSlot, if_neg inside, reduceCtorEq] at moved
  | stored wasFull =>
    simp only [pc] at moved
    cases wasFull with
    | false => exact Option.some.inj moved ▸ .append pc
    | true => exact Option.some.inj moved ▸ .overwrite pc
  | overwriting nextWrite =>
    simp only [pc, Option.some.injEq] at moved
    exact moved ▸ .load nextWrite pc
  | skipping nextWrite readIdx =>
    simp only [pc, Option.some.injEq] at moved
    exact moved ▸ .skip nextWrite readIdx pc
  | publishing nextWrite wasFull =>
    simp only [pc, Option.some.injEq] at moved
    exact moved ▸ .publish nextWrite wasFull pc

theorem write_starts {s t : Threads T} {value : T} (moved : step s (.write value) = some t) :
    s.writer = .idle ∧ t = { s with writer := .loadedWrite value s.queue.writeIdx } := by
  cases pc : s.writer with
  | idle =>
    simp only [step, pc, Option.some.injEq] at moved
    exact ⟨rfl, moved.symm⟩
  | _ => simp only [step, pc, reduceCtorEq] at moved

/-! A thread that runs alone through one call does what the sequential function does. -/

theorem reader_alone_empty [Inhabited T] (capacity : Nat) {s : Threads T}
    {q : RWRoundQueue (Stamped T)} (idle : s.reader = .idle)
    (call : s.queue.tryRead = .ok (none, q)) :
    (threads capacity).runFrom s [.reader, .reader] = some { s with queue := q } := by
  obtain ⟨meet, rfl⟩ := RWRoundQueue.tryRead_none call
  cases s
  simp only at idle meet
  simp [System.runFrom, threads, step, readerStep, idle, meet]

theorem reader_alone [Inhabited T] (capacity : Nat) {s : Threads T} {value : Stamped T}
    {q : RWRoundQueue (Stamped T)} (idle : s.reader = .idle)
    (call : s.queue.tryRead = .ok (some value, q)) :
    (threads capacity).runFrom s (List.replicate 5 .reader) =
      some { s with queue := q, received := s.received ++ [value] } := by
  obtain ⟨meet, slot, rfl⟩ := RWRoundQueue.tryRead_some call
  cases s
  simp only at idle meet slot
  simp [System.runFrom, threads, step, readerStep, idle, meet, slot, List.replicate,
    RWRoundQueue.commitRead]

theorem writer_alone [Inhabited T] (capacity : Nat) {s : Threads T} {value : T} {full : Bool}
    {q : RWRoundQueue (Stamped T)} (idle : s.writer = .idle)
    (call : s.queue.writeOverwrite (s.written.length + 1, value) = .ok (full, q)) :
    (threads capacity).runFrom s
        (.write value :: List.replicate (if full then 6 else 4) .writer) =
      some { s with queue := q, written := s.written ++ [(s.written.length + 1, value)],
                    completed := s.completed + 1,
                    overwrites := s.overwrites + if full then 1 else 0 } := by
  unfold RWRoundQueue.writeOverwrite RWRoundQueue.acquireWritePtr at call
  by_cases inside : s.queue.writeIdx < s.queue.buffer.length
  · simp only [RWRoundQueue.writeSlot, if_pos inside, bind, Except.bind, Except.ok.injEq,
      Prod.mk.injEq] at call
    obtain ⟨verdict, rfl⟩ := call
    cases s
    simp only [RWRoundQueue.nextIndex] at idle inside verdict
    cases full with
    | false => simp [System.runFrom, threads, step, writerStep, idle, inside, verdict,
        List.replicate, RWRoundQueue.commitWrite, RWRoundQueue.writeSlot, RWRoundQueue.nextIndex]
    | true => simp [System.runFrom, threads, step, writerStep, idle, inside, verdict,
        List.replicate, RWRoundQueue.commitWrite, RWRoundQueue.writeSlot, RWRoundQueue.nextIndex]
  · simp [RWRoundQueue.writeSlot, if_neg inside, bind, Except.bind] at call

end SensorGateway.Queue.RoundQueueThreads

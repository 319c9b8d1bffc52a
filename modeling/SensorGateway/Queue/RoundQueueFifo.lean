import SensorGateway.Queue.RoundQueueOverwrite

/-! The ring queue between one reader and one writer that never finds it full. Only the reader then
moves `read_idx` and only the writer moves `write_idx`; what either has loaded of the other's index
may be out of date, but the slots it acts on are its own. -/

namespace SensorGateway.Queue.RoundQueueFifo
open SensorGateway.Lib.Transition SensorGateway.Lib.Ring RoundQueue RoundQueueThreads
open RoundQueueOverwrite (hasStored hasRoom)

variable {T : Type*}

/-- The load that completes `acquire_write_ptr` does not report a full queue. -/
def NeverFull (s : Threads T) : Move T → Prop
  | .writer =>
    match s.writer with
    | .loadedWrite _ writeIdx => s.queue.nextIndex writeIdx ≠ s.queue.readIdx
    | _ => True
  | _ => True

instance decidableNeverFull (s : Threads T) : (move : Move T) → Decidable (NeverFull s move)
  | .reader => isTrue trivial
  | .write _ => isTrue trivial
  | .writer =>
    match writer : s.writer with
    | .loadedWrite _ writeIdx =>
      decidable_of_iff (¬s.queue.nextIndex writeIdx = s.queue.readIdx) (by rw [NeverFull, writer])
    | .idle | .acquired _ _ _ | .stored _ | .overwriting _ | .skipping _ _ | .publishing _ _ =>
      isTrue (by rw [NeverFull, writer]; trivial)

/-- The reader has chosen the slot, or is going to choose it at its next step. -/
def AboutToRead (s : Threads T) (slot : Nat) : Prop :=
  s.reader = .acquired slot ∨ s.reader = .loadedRead slot ∧ slot ≠ s.queue.writeIdx

/-- The `len` slots from `read_idx` on. -/
def unreadSlots (q : RWRoundQueue (Stamped T)) : List (Option (Stamped T)) :=
  (List.range q.len).map fun i => q.buffer[(q.readIdx + i) % q.capacity]?

/-- The values received are the first ones of the completed writes, no slot is written that is
about to be read, and between calls the other written values are the ones in the queue. -/
structure InOrder (s : Threads T) : Prop where
  received : s.received <+: s.written.take s.completed
  spared : ∀ value ptr wasFull, s.writer = .acquired value ptr wasFull → ¬AboutToRead s ptr
  unread : s.reader = .idle → s.writer = .idle →
    unreadSlots s.queue = (s.written.drop s.received.length).map some

/-- 1 while the reader holds a value that it has not given out. -/
def holding : ReaderPc T → Nat
  | .acquired _ | .copied _ | .committing _ _ => 1
  | .idle | .loadedRead _ => 0

/-- The reader's `read_idx` is never out of date, and its slot is that of the next value. -/
def ReaderAt (s : Threads T) : Prop :=
  match s.reader with
  | .idle => True
  | .loadedRead readIdx => readIdx = s.received.length % s.queue.capacity
  | .acquired ptr => ptr = s.received.length % s.queue.capacity
  | .copied value => s.written[s.received.length]? = some value
  | .committing value readIdx =>
    s.written[s.received.length]? = some value ∧ readIdx = s.received.length % s.queue.capacity

/-- Nor is the writer's `write_idx`; its call is one that does not overwrite. -/
def WriterAt (s : Threads T) : Prop :=
  match s.writer with
  | .idle => True
  | .loadedWrite _ writeIdx => writeIdx = s.completed % s.queue.capacity
  | .acquired _ ptr wasFull => ptr = s.completed % s.queue.capacity ∧ wasFull = false
  | .stored wasFull => wasFull = false
  | .overwriting _ | .skipping _ _ => False
  | .publishing nextWrite wasFull =>
    nextWrite = (s.completed + 1) % s.queue.capacity ∧ wasFull = false

structure Fifo (s : Threads T) : Prop where
  power : s.queue.capacity.isPowerOfTwo
  slots : s.queue.buffer.length = s.queue.capacity
  recent : Recent s.queue.buffer s.written
  read : s.queue.readIdx = s.received.length % s.queue.capacity
  write : s.queue.writeIdx = s.completed % s.queue.capacity
  stored : s.written.length = s.completed + hasStored s.writer
  passed : s.received.length + holding s.reader ≤ s.completed
  room : s.completed + hasRoom s.writer < s.received.length + s.queue.capacity
  received : s.received = s.written.take s.received.length
  reader : ReaderAt s
  writer : WriterAt s

theorem fifo_init [Inhabited T] {capacity : Nat} (power : capacity.isPowerOfTwo) :
    Fifo (threads (T := T) capacity).init where
  power := power
  slots := by simp [threads]
  recent := Recent.nil _
  read := by simp [threads]
  write := by simp [threads]
  stored := rfl
  passed := le_refl _
  room := by simpa [threads, hasRoom] using Nat.pos_of_isPowerOfTwo power
  received := rfl
  reader := trivial
  writer := trivial

/-- A step that only moves the reader's program counter. -/
theorem Fifo.moveReader {s : Threads T} (fifo : Fifo s) (pc : ReaderPc T)
    (passed : s.received.length + holding pc ≤ s.completed)
    (reader : ReaderAt { s with reader := pc }) : Fifo { s with reader := pc } :=
  { fifo with passed := passed, reader := reader, writer := fifo.writer }

/-- A step that only moves the writer's program counter and keeps its progress. -/
theorem Fifo.moveWriter {s : Threads T} (fifo : Fifo s) (pc : WriterPc T)
    (stored : hasStored pc = hasStored s.writer)
    (room : s.completed + hasRoom pc < s.received.length + s.queue.capacity)
    (writer : WriterAt { s with writer := pc }) : Fifo { s with writer := pc } :=
  { fifo with
    stored := by simp only [stored]; exact fifo.stored
    room := room, reader := fifo.reader, writer := writer }

/-- The slot of the next value to read still holds it. -/
theorem Fifo.next_slot {s : Threads T} (fifo : Fifo s) {i : Nat} (unread : s.received.length ≤ i)
    (written : i < s.written.length) :
    s.queue.buffer[i % s.queue.capacity]? = s.written[i]? := by
  have stored := fifo.stored
  have room := fifo.room
  have bound : hasStored s.writer ≤ hasRoom s.writer := by
    have writer := fifo.writer
    unfold WriterAt at writer
    cases pc : s.writer <;> simp_all [hasStored, hasRoom]
  have latest := fifo.recent i written (by rw [fifo.slots]; omega)
  rwa [fifo.slots] at latest

theorem Fifo.receive {s : Threads T} (fifo : Fifo s) {value : Stamped T} {readIdx : Nat}
    (pc : s.reader = .committing value readIdx) :
    Fifo { s with
      reader := .idle, received := s.received ++ [value],
      queue := { s.queue with readIdx := s.queue.nextIndex readIdx } } := by
  have reader := fifo.reader
  have passed := fifo.passed
  have room := fifo.room
  simp only [ReaderAt, pc] at reader
  simp only [pc, holding] at passed
  obtain ⟨entry, index⟩ := reader
  exact { fifo with
    read := by
      simp only [index, List.length_append, List.length_singleton]
      exact nextIndex_mod s.queue fifo.power _
    passed := by simpa [holding] using passed
    room := by
      simp only [List.length_append, List.length_singleton]
      omega
    received := by
      calc
        s.received ++ [value] = s.written.take s.received.length ++ [value] := by
          rw [← fifo.received]
        _ = s.written.take (s.received ++ [value]).length := by
          rw [List.length_append, List.length_singleton, List.take_add_one, entry]
          rfl
    reader := trivial
    writer := fifo.writer }

theorem Fifo.readerStep {s t : Threads T} (fifo : Fifo s)
    (step : RoundQueueThreads.readerStep s = some t) : Fifo t := by
  have reader := fifo.reader
  have passed := fifo.passed
  cases readerStep_moves step with
  | load pc =>
    rw [pc] at passed
    exact fifo.moveReader _ passed fifo.read
  | empty readIdx pc meet =>
    rw [pc] at passed
    exact fifo.moveReader _ passed trivial
  | acquire readIdx pc apart =>
    simp only [ReaderAt, pc] at reader
    rw [pc] at passed
    have unfinished : s.received.length ≠ s.completed := by
      intro same
      rw [reader, fifo.write, same] at apart
      exact apart rfl
    refine fifo.moveReader _ ?_ reader
    simp only [holding] at passed ⊢
    omega
  | copy ptr value pc found =>
    simp only [ReaderAt, pc] at reader
    simp only [pc, holding] at passed
    have stored := fifo.stored
    have slot := fifo.next_slot (le_refl _) (by omega)
    refine fifo.moveReader _ passed ?_
    show s.written[s.received.length]? = some value
    rw [← slot, ← reader]
    unfold RWRoundQueue.readSlot at found
    cases held : s.queue.buffer[ptr]? <;> simp_all
  | reload value pc =>
    simp only [ReaderAt, pc] at reader
    rw [pc] at passed
    exact fifo.moveReader _ passed ⟨reader, fifo.read⟩
  | receive value readIdx pc => exact fifo.receive pc

/-- The value goes to the slot of the next position, which holds nothing that is unread. -/
theorem Fifo.store {s : Threads T} (fifo : Fifo s) {value : T} {ptr : Nat} {wasFull : Bool}
    (pc : s.writer = .acquired value ptr wasFull) :
    Fifo { s with
      writer := .stored wasFull,
      queue := { s.queue with buffer := s.queue.buffer.set ptr (s.written.length + 1, value) },
      written := s.written ++ [(s.written.length + 1, value)] } := by
  have stored := fifo.stored
  have passed := fifo.passed
  have room := fifo.room
  have writer := fifo.writer
  simp only [WriterAt, pc] at writer
  obtain ⟨index, free⟩ := writer
  simp only [pc, hasStored, Nat.add_zero] at stored
  have kept : ∀ entry, s.written[s.received.length]? = some entry →
      (s.written ++ [(s.written.length + 1, value)])[s.received.length]? = some entry := by
    intro entry found
    rw [List.getElem?_append_left (List.getElem?_eq_some_iff.mp found).1]
    exact found
  exact { fifo with
    slots := by simpa using fifo.slots
    recent := by
      have recent := fifo.recent.append (s.written.length + 1, value)
      have slot : s.written.length % s.queue.capacity = ptr := by rw [stored, index]
      rw [fifo.slots, slot] at recent
      exact recent
    stored := by simp [stored, hasStored]
    room := by simpa [pc, free, hasRoom] using room
    received := by
      have inside : s.received.length ≤ s.written.length := by omega
      simp only [List.take_append_of_le_length inside]
      exact fifo.received
    reader := by
      have reader := fifo.reader
      unfold ReaderAt at reader ⊢
      cases rpc : s.reader with
      | copied entry =>
        simp only [rpc] at reader ⊢
        exact kept entry reader
      | committing entry readIdx =>
        simp only [rpc] at reader ⊢
        exact ⟨kept entry reader.1, reader.2⟩
      | idle => trivial
      | loadedRead readIdx => simpa only [rpc] using reader
      | acquired ptr => simpa only [rpc] using reader
    writer := free }

/-- The last store of a call: one more value is there to be read. -/
theorem Fifo.publish {s : Threads T} (fifo : Fifo s) {nextWrite : Nat} {wasFull : Bool}
    (pc : s.writer = .publishing nextWrite wasFull) :
    Fifo { s with
      writer := .idle,
      queue := { s.queue with writeIdx := nextWrite },
      completed := s.completed + 1,
      overwrites := s.overwrites + if wasFull then 1 else 0 } := by
  have stored := fifo.stored
  have passed := fifo.passed
  have room := fifo.room
  have writer := fifo.writer
  simp only [WriterAt, pc] at writer
  simp only [pc, hasStored, hasRoom] at stored room
  exact { fifo with
    write := writer.1
    stored := by simpa [hasStored] using stored
    passed := by simp only; omega
    room := by simpa [hasRoom] using room
    reader := fifo.reader
    writer := trivial }

theorem Fifo.writerStep {s t : Threads T} (fifo : Fifo s) (ok : NeverFull s .writer)
    (step : RoundQueueThreads.writerStep s = some t) : Fifo t := by
  have writer := fifo.writer
  have room := fifo.room
  unfold NeverFull at ok
  cases writerStep_moves step with
  | test value writeIdx pc =>
    simp only [pc] at ok
    simp only [WriterAt, pc] at writer
    simp only [ok, decide_false]
    refine fifo.moveWriter _ (by rw [pc]; rfl) ?_ ⟨writer, rfl⟩
    simp only [pc, hasRoom] at room ⊢
    -- one step behind a full turn the indices would agree
    by_contra turn
    have meet : s.completed + 1 = s.received.length + s.queue.capacity := by omega
    rw [writer, nextIndex_mod s.queue fifo.power, fifo.read, meet, Nat.add_mod_right] at ok
    exact ok rfl
  | store value ptr wasFull pc inside => exact fifo.store pc
  | append pc =>
    rw [pc] at room
    refine fifo.moveWriter _ (by rw [pc]; rfl) room ⟨?_, rfl⟩
    rw [fifo.write, nextIndex_mod s.queue fifo.power]
  | overwrite pc => simp only [WriterAt, pc, Bool.true_eq_false] at writer
  | load nextWrite pc => simp only [WriterAt, pc] at writer
  | skip nextWrite readIdx pc => simp only [WriterAt, pc] at writer
  | publish nextWrite wasFull pc => exact fifo.publish pc

theorem Fifo.step {s t : Threads T} {move : Move T} (fifo : Fifo s) (ok : NeverFull s move)
    (step : RoundQueueThreads.step s move = some t) : Fifo t := by
  cases move with
  | reader => exact fifo.readerStep step
  | write value =>
    obtain ⟨pc, rfl⟩ := write_starts step
    have room := fifo.room
    rw [pc] at room
    exact fifo.moveWriter _ (by rw [pc]; rfl) room fifo.write
  | writer => exact fifo.writerStep ok step

theorem reachable_fifo [Inhabited T] {capacity : Nat} (power : capacity.isPowerOfTwo)
    {s : Threads T} (reach : (threads capacity).ReachableUnder NeverFull s) : Fifo s :=
  reach.invariant Fifo (fifo_init power) (fun _ _ _ _ fifo ok step => fifo.step ok step)

/-- Seen from the slots: `read_idx` and `write_idx` are as far apart as there are values unread. -/
theorem Fifo.len {s : Threads T} (fifo : Fifo s) :
    s.queue.len = s.completed - s.received.length := by
  have passed := fifo.passed
  have room := fifo.room
  rw [← gap_mod (c := s.queue.capacity) (by omega) (by omega), ← fifo.read, ← fifo.write]
  rfl

theorem Fifo.unreadSlots_eq {s : Threads T} (fifo : Fifo s) (idle : s.writer = .idle) :
    unreadSlots s.queue = (s.written.drop s.received.length).map some := by
  have stored := fifo.stored
  simp only [idle, hasStored, Nat.add_zero] at stored
  apply List.ext_getElem
  · simp [unreadSlots, fifo.len, stored]
  · intro i inRange inDrop
    have bound : s.received.length + i < s.written.length := by
      simp only [List.length_map, List.length_drop] at inDrop
      omega
    have slot := fifo.next_slot (Nat.le_add_right s.received.length i) bound
    rw [List.getElem?_eq_getElem bound] at slot
    simpa [unreadSlots, fifo.read, Nat.mod_add_mod] using slot

theorem Fifo.spared {s : Threads T} (fifo : Fifo s) {value : T} {ptr : Nat} {wasFull : Bool}
    (pc : s.writer = .acquired value ptr wasFull) : ¬AboutToRead s ptr := by
  have passed := fifo.passed
  have room := fifo.room
  have writer := fifo.writer
  have reader := fifo.reader
  simp only [WriterAt, pc] at writer
  have index : ptr = s.queue.writeIdx := by rw [writer.1, fifo.write]
  rintro (chosen | ⟨chosen, apart⟩)
  · simp only [ReaderAt, chosen] at reader
    simp only [chosen, holding] at passed
    have near : s.completed < s.received.length + s.queue.capacity := by omega
    exact mod_ne_of_lt passed near (reader.symm.trans writer.1)
  · exact apart index

theorem Fifo.inOrder {s : Threads T} (fifo : Fifo s) : InOrder s where
  received := by
    have passed := fifo.passed
    rw [fifo.received]
    exact List.take_prefix_take_left (by omega)
  spared := fun _ _ _ pc => fifo.spared pc
  unread := fun _ idle => fifo.unreadSlots_eq idle

/-- As long as it never overflows, the queue is first in, first out. -/
theorem fifo_without_overflow [Inhabited T] (capacity : Nat) (power : capacity.isPowerOfTwo)
    {s : Threads T} (reach : (threads capacity).ReachableUnder NeverFull s) : InOrder s :=
  (reachable_fifo power reach).inOrder

/-- The second write is stored and published while the reader is inside its first call. -/
def interleaved : List (Move Nat) :=
  RoundQueueOverwrite.writeAlone 10 false ++ [.reader, .reader] ++
    RoundQueueOverwrite.writeAlone 20 false ++ List.replicate 3 .reader

theorem fifo_without_overflow_interleaved :
    ∃ s : Threads Nat, s.received = [(1, 10)] ∧ unreadSlots s.queue = [some (2, 20)] ∧ InOrder s := by
  refine ⟨(((threads (T := Nat) 4).guarded NeverFull).run interleaved).get (by decide), by decide,
    by decide, ?_⟩
  exact fifo_without_overflow 4 ⟨2, rfl⟩
    (System.reachableUnder_of_guarded (System.reachable_of_run (Option.some_get _).symm))

end SensorGateway.Queue.RoundQueueFifo

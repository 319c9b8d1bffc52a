import SensorGateway.Queue.RoundQueueThreads

/-! Delivery when the writer may overwrite unread values. Both threads then move `read_idx` by a
separate load and store, and the full verdict is older than the step that acts on it. Four
kinds of overlap break delivery; in runs without them every value is delivered at most once and
in order, and no value is unaccounted for. -/

namespace SensorGateway.Queue.RoundQueueOverwrite
open SensorGateway.Lib.Transition SensorGateway.Lib.Ring RoundQueue RoundQueueThreads

variable {T : Type*}

/-- What a reader and a writer may rely on: writes are numbered 1, 2, 3, ..., the reader receives
values of writes with increasing numbers, and between calls every completed write is read,
unread, or reported as overwriting one. -/
structure Delivers (s : Threads T) : Prop where
  numbered : s.written.map Prod.fst = List.range' 1 s.written.length
  genuine : ∀ value ∈ s.received, value ∈ s.written
  ordered : (s.received.map Prod.fst).Pairwise (· < ·)
  counted : s.reader = .idle → s.writer = .idle →
    s.completed = s.received.length + s.queue.len + s.overwrites

/-- The slot that the reader has chosen and not copied yet. -/
def target : ReaderPc T → Option Nat
  | .acquired ptr => some ptr
  | _ => none

/-- The reader is between the load and the store of `commit_read`. -/
def commits : ReaderPc T → Bool
  | .committing _ _ => true
  | _ => false

/-- The writer is between the load and the store of `read_idx` in `commit_write`. -/
def skips : WriterPc T → Bool
  | .skipping _ _ => true
  | _ => false

/-- 1 once the call has moved `read_idx`. -/
def hasSkipped : WriterPc T → Nat
  | .publishing _ true => 1
  | _ => 0

/-- How many values have left the queue; the oldest unread one has the next number. -/
def gone (s : Threads T) : Nat := s.received.length + s.overwrites + hasSkipped s.writer

/-- The number of the write that the slot holds. -/
def numberAt (s : Threads T) (ptr : Nat) : Nat := (s.queue.buffer[ptr]?.map Prod.fst).getD 0

/-- The overlaps that are left out: choosing, by an index loaded earlier, a slot that holds a value newer
than the oldest unread one, storing into the slot that the reader has chosen, moving `read_idx` while the
other thread is between its load and its store of it, and moving it past the last unread value. -/
def Undisturbed (s : Threads T) : Move T → Prop
  | .reader =>
    match s.reader with
    | .loadedRead readIdx => readIdx ≠ s.queue.writeIdx → numberAt s readIdx ≤ gone s + 1
    | .committing _ _ => skips s.writer = false ∧ s.queue.readIdx ≠ s.queue.writeIdx
    | _ => True
  | .write _ => True
  | .writer =>
    match s.writer with
    | .acquired _ ptr _ => target s.reader ≠ some ptr
    | .skipping _ _ => commits s.reader = false ∧ s.queue.readIdx ≠ s.queue.writeIdx
    | _ => True

instance (s : Threads T) (move : Move T) : Decidable (Undisturbed s move) := by
  cases move with
  | reader => unfold Undisturbed; cases s.reader <;> simp only <;> infer_instance
  | write value => unfold Undisturbed; infer_instance
  | writer => unfold Undisturbed; cases s.writer <;> simp only <;> infer_instance

/-! The invariant speaks about absolute positions: `gone` values have left the queue, and the
indices are `gone` and `completed` modulo the capacity. -/

/-- 1 once the call has stored its value. -/
def hasStored : WriterPc T → Nat
  | .stored _ | .overwriting _ | .skipping _ _ | .publishing _ _ => 1
  | _ => 0

/-- 1 when a slot is free for the value without another move of `read_idx`. -/
def hasRoom : WriterPc T → Nat
  | .acquired _ _ false | .stored false | .publishing _ _ => 1
  | _ => 0

/-- Everything received so far was written before position `p`, which the queue has reached. -/
def Cursor (s : Threads T) (p : Nat) : Prop := p ≤ gone s ∧ s.received.Sublist (s.written.take p)

/-- The slot of position `p` has not been reused. -/
def Fresh (s : Threads T) (p : Nat) : Prop := s.written.length ≤ p + s.queue.capacity

def ReaderSound (s : Threads T) : Prop :=
  match s.reader with
  | .idle => Cursor s (gone s)
  | .loadedRead readIdx => ∃ p, Cursor s p ∧ readIdx = p % s.queue.capacity
  | .acquired ptr =>
    ∃ p, Cursor s p ∧ Fresh s p ∧ ptr = p % s.queue.capacity ∧ p < s.written.length
  | .copied value => ∃ p, Cursor s p ∧ s.written[p]? = some value
  | .committing value readIdx =>
    (∃ p, Cursor s p ∧ s.written[p]? = some value) ∧ readIdx = gone s % s.queue.capacity

def WriterSound (s : Threads T) : Prop :=
  match s.writer with
  | .idle | .stored _ => True
  | .loadedWrite _ writeIdx => writeIdx = s.completed % s.queue.capacity
  | .acquired _ ptr _ => ptr = s.completed % s.queue.capacity
  | .overwriting nextWrite | .publishing nextWrite _ =>
    nextWrite = (s.completed + 1) % s.queue.capacity
  | .skipping nextWrite readIdx =>
    nextWrite = (s.completed + 1) % s.queue.capacity ∧ readIdx = gone s % s.queue.capacity

structure Sound (s : Threads T) : Prop where
  power : s.queue.capacity.isPowerOfTwo
  slots : s.queue.buffer.length = s.queue.capacity
  numbered : s.written.map Prod.fst = List.range' 1 s.written.length
  recent : Recent s.queue.buffer s.written
  read : s.queue.readIdx = gone s % s.queue.capacity
  write : s.queue.writeIdx = s.completed % s.queue.capacity
  stored : s.written.length = s.completed + hasStored s.writer
  passed : gone s ≤ s.completed
  room : s.completed + hasRoom s.writer < gone s + s.queue.capacity
  reader : ReaderSound s
  writer : WriterSound s

theorem sound_init [Inhabited T] {capacity : Nat} (power : capacity.isPowerOfTwo) :
    Sound (threads (T := T) capacity).init where
  power := power
  slots := by simp [threads]
  numbered := rfl
  recent := Recent.nil _
  read := by simp [threads, gone, hasSkipped]
  write := by simp [threads]
  stored := rfl
  passed := le_refl _
  room := by simpa [threads, gone, hasSkipped, hasRoom] using Nat.pos_of_isPowerOfTwo power
  reader := by simp [ReaderSound, threads, Cursor]
  writer := trivial

/-- A cursor may lag behind, and later writes do not disturb it. -/
theorem Cursor.mono {s t : Threads T} {p : Nat} (cursor : Cursor s p) (later : gone s ≤ gone t)
    (received : t.received = s.received) (written : s.written <+: t.written)
    (reached : p ≤ s.written.length) : Cursor t p := by
  obtain ⟨more, written⟩ := written
  refine ⟨cursor.1.trans later, ?_⟩
  rw [received, ← written, List.take_append_of_le_length reached]
  exact cursor.2

theorem Cursor.advance {s : Threads T} {p q : Nat} (cursor : Cursor s p) (further : p ≤ q)
    (reached : q ≤ gone s) : Cursor s q :=
  ⟨reached, cursor.2.trans (List.take_sublist_take_left further)⟩

/-- What the reader relies on survives the writer's steps that neither reuse the slot it has chosen
nor move `read_idx` while it commits. -/
theorem ReaderSound.mono {s t : Threads T} (sound : ReaderSound s) (pc : t.reader = s.reader)
    (capacity : t.queue.capacity = s.queue.capacity) (received : t.received = s.received)
    (written : s.written <+: t.written) (reached : gone s ≤ s.written.length)
    (later : gone s ≤ gone t) (quiet : commits s.reader = true → gone t = gone s)
    (fresh : ∀ p, target s.reader = some (p % s.queue.capacity) → Fresh s p → Fresh t p) :
    ReaderSound t := by
  have keep : ∀ p, Cursor s p → Cursor t p := fun p cursor =>
    cursor.mono later received written (cursor.1.trans reached)
  have entries : ∀ (p : Nat) (entry : Stamped T), s.written[p]? = some entry →
      t.written[p]? = some entry := by
    intro p entry found
    obtain ⟨more, written⟩ := written
    rw [← written, List.getElem?_append_left (List.getElem?_eq_some_iff.mp found).1]
    exact found
  unfold ReaderSound at sound ⊢
  rw [pc, capacity]
  cases rpc : s.reader with
  | idle =>
    simp only [rpc] at sound ⊢
    exact (keep _ sound).advance later (le_refl _)
  | loadedRead readIdx =>
    simp only [rpc] at sound ⊢
    obtain ⟨p, cursor, here⟩ := sound
    exact ⟨p, keep p cursor, here⟩
  | acquired ptr =>
    simp only [rpc] at sound ⊢
    obtain ⟨p, cursor, young, here, old⟩ := sound
    exact ⟨p, keep p cursor, fresh p (by rw [rpc, target, here]) young, here,
      old.trans_le written.length_le⟩
  | copied value =>
    simp only [rpc] at sound ⊢
    obtain ⟨p, cursor, found⟩ := sound
    exact ⟨p, keep p cursor, entries p value found⟩
  | committing value readIdx =>
    simp only [rpc] at sound ⊢
    obtain ⟨⟨p, cursor, found⟩, here⟩ := sound
    rw [quiet (by rw [rpc]; rfl)]
    exact ⟨⟨p, keep p cursor, entries p value found⟩, here⟩

/-- A step that only moves the reader's program counter. -/
theorem Sound.moveReader {s : Threads T} (sound : Sound s) (pc : ReaderPc T)
    (reader : ReaderSound { s with reader := pc }) : Sound { s with reader := pc } :=
  { sound with reader := reader, writer := sound.writer }

/-- No position past the history is gone. -/
theorem Sound.reached {s : Threads T} (sound : Sound s) : gone s ≤ s.written.length := by
  have passed := sound.passed
  have stored := sound.stored
  omega

/-- A step that only moves the writer's program counter and keeps its progress. -/
theorem Sound.moveWriter {s : Threads T} (sound : Sound s) (pc : WriterPc T)
    (stored : hasStored pc = hasStored s.writer) (skipped : hasSkipped pc = hasSkipped s.writer)
    (room : s.completed + hasRoom pc < gone s + s.queue.capacity)
    (writer : WriterSound { s with writer := pc }) : Sound { s with writer := pc } := by
  have same : gone { s with writer := pc } = gone s := by simp only [gone, skipped]
  exact {
    power := sound.power, slots := sound.slots, numbered := sound.numbered
    recent := sound.recent, write := sound.write
    read := by rw [same]; exact sound.read
    stored := by simp only [stored]; exact sound.stored
    passed := by rw [same]; exact sound.passed
    room := by rw [same]; exact room
    reader := sound.reader.mono rfl rfl rfl (List.prefix_refl _) sound.reached same.ge
      (fun _ => same) (fun _ _ young => young)
    writer := writer }

/-- What `commit_read` and an overwriting `commit_write` do to the indices. -/
theorem Sound.nextRead {s : Threads T} (sound : Sound s) :
    s.queue.nextIndex (gone s % s.queue.capacity) = (gone s + 1) % s.queue.capacity :=
  nextIndex_mod s.queue sound.power (gone s)

/-- Different indices tell that something is unread. -/
theorem Sound.unread {s : Threads T} (sound : Sound s)
    (apart : s.queue.readIdx ≠ s.queue.writeIdx) : gone s < s.completed := by
  rcases Nat.lt_or_eq_of_le sound.passed with less | same
  · exact less
  · rw [sound.read, sound.write, same] at apart
    exact absurd rfl apart

/-- The slot that the reader chooses holds the last value stored at it, and that is not newer than the
oldest unread one. -/
theorem Sound.acquire {s : Threads T} (sound : Sound s) {readIdx : Nat}
    (loaded : ∃ p, Cursor s p ∧ readIdx = p % s.queue.capacity) (apart : readIdx ≠ s.queue.writeIdx)
    (old : numberAt s readIdx ≤ gone s + 1) : Sound { s with reader := .acquired readIdx } := by
  obtain ⟨p, cursor, index⟩ := loaded
  have stored := sound.stored
  have unfinished : p ≠ s.completed := by
    intro same
    rw [index, sound.write, same] at apart
    exact apart rfl
  have reached := cursor.1.trans sound.passed
  have positive := Nat.pos_of_isPowerOfTwo sound.power
  -- the last position that shares its slot with `p`
  obtain ⟨turns, later⟩ : ∃ turns, turns = (s.written.length - 1 - p) / s.queue.capacity := ⟨_, rfl⟩
  have whole := Nat.div_add_mod (s.written.length - 1 - p) s.queue.capacity
  have rest := Nat.mod_lt (s.written.length - 1 - p) positive
  rw [← later] at whole
  have slot : (p + s.queue.capacity * turns) % s.queue.capacity = readIdx := by
    rw [Nat.add_mul_mod_self_left, index]
  have latest := sound.recent (p + s.queue.capacity * turns) (by omega) (by rw [sound.slots]; omega)
  rw [sound.slots, slot] at latest
  have number : numberAt s readIdx = p + s.queue.capacity * turns + 1 := by
    rw [numberAt, latest, ← List.getElem?_map, sound.numbered,
      List.getElem?_range' (by omega), Option.getD_some]
    omega
  apply sound.moveReader
  refine ⟨p + s.queue.capacity * turns, ?_, ?_, slot.symm, ?_⟩
  · refine ⟨?_, cursor.2.trans (List.take_sublist_take_left (Nat.le_add_right _ _))⟩
    change p + s.queue.capacity * turns ≤ gone s
    omega
  · change s.written.length ≤ p + s.queue.capacity * turns + s.queue.capacity
    omega
  · change p + s.queue.capacity * turns < s.written.length
    omega

/-- The slot that the reader copies still holds the value of its position. -/
theorem Sound.copy {s : Threads T} (sound : Sound s) {ptr : Nat} {value : Stamped T}
    (pc : s.reader = .acquired ptr) (slot : s.queue.readSlot ptr = .ok value) :
    Sound { s with reader := .copied value } := by
  have reader := sound.reader
  simp only [ReaderSound, pc] at reader
  obtain ⟨p, cursor, fresh, index, reached⟩ := reader
  have latest := sound.recent p reached (by rw [sound.slots]; exact fresh)
  rw [sound.slots, ← index] at latest
  apply sound.moveReader
  refine ⟨p, cursor, ?_⟩
  change s.written[p]? = some value
  rw [← latest]
  unfold RWRoundQueue.readSlot at slot
  cases found : s.queue.buffer[ptr]? <;> simp_all

/-- The copied value joins the received ones while the writer does not move `read_idx`. -/
theorem Sound.receive {s : Threads T} (sound : Sound s) {value : Stamped T} {readIdx : Nat}
    (pc : s.reader = .committing value readIdx) (quiet : skips s.writer = false)
    (apart : s.queue.readIdx ≠ s.queue.writeIdx) :
    Sound { s with
      reader := .idle, received := s.received ++ [value],
      queue := { s.queue with readIdx := s.queue.nextIndex readIdx } } := by
  have reader := sound.reader
  have room := sound.room
  simp only [ReaderSound, pc] at reader
  obtain ⟨⟨p, cursor, entry⟩, index⟩ := reader
  have unread := sound.unread apart
  have next :
      gone { s with
        reader := .idle, received := s.received ++ [value],
        queue := { s.queue with readIdx := s.queue.nextIndex readIdx } } = gone s + 1 := by
    simp only [gone, List.length_append, List.length_singleton]
    omega
  exact {
    power := sound.power, slots := sound.slots, numbered := sound.numbered
    recent := sound.recent, write := sound.write, stored := sound.stored
    read := by
      rw [next]
      change s.queue.nextIndex readIdx = _
      rw [index, sound.nextRead]
    passed := by rw [next]; exact unread
    room := by rw [next]; change _ < _ + s.queue.capacity; simp only; omega
    reader := by
      refine ⟨le_refl _, ?_⟩
      rw [next]
      have longer : s.written.take (p + 1) = s.written.take p ++ [value] := by
        rw [List.take_add_one, entry]
        rfl
      have joined : (s.received ++ [value]).Sublist (s.written.take (p + 1)) := by
        rw [longer]
        exact cursor.2.append (List.Sublist.refl _)
      have reached := cursor.1
      exact joined.trans (List.take_sublist_take_left (by omega))
    writer := by
      have writer := sound.writer
      cases wpc : s.writer <;> simp_all [WriterSound, skips] }

theorem Sound.readerStep {s t : Threads T} (sound : Sound s) (ok : Undisturbed s .reader)
    (step : RoundQueueThreads.readerStep s = some t) : Sound t := by
  have reader := sound.reader
  have stored := sound.stored
  have room := sound.room
  cases readerStep_moves step with
  | load pc =>
    simp only [ReaderSound, pc] at reader
    apply sound.moveReader
    exact ⟨gone s, reader, sound.read⟩
  | empty readIdx pc meet =>
    simp only [ReaderSound, pc] at reader
    obtain ⟨p, cursor, index⟩ := reader
    apply sound.moveReader
    exact cursor.advance cursor.1 (le_refl _)
  | acquire readIdx pc apart =>
    simp only [ReaderSound, pc] at reader
    simp only [Undisturbed, pc] at ok
    exact sound.acquire reader apart (ok apart)
  | copy ptr value pc found => exact sound.copy pc found
  | reload value pc =>
    simp only [ReaderSound, pc] at reader
    apply sound.moveReader
    exact ⟨reader, sound.read⟩
  | receive value readIdx pc =>
    simp only [Undisturbed, pc] at ok
    exact sound.receive pc ok.1 ok.2

theorem Sound.write_step {s t : Threads T} (sound : Sound s) (value : T)
    (begin : RoundQueueThreads.step s (.write value) = some t) : Sound t := by
  obtain ⟨pc, rfl⟩ := write_starts begin
  have room := sound.room
  rw [pc] at room
  exact sound.moveWriter _ (by rw [pc]; rfl) (by rw [pc]; rfl) room sound.write

/-- Storing a value keeps the slot that the reader has chosen. -/
theorem Sound.store {s : Threads T} (sound : Sound s) {value : T} {ptr : Nat} {wasFull : Bool}
    (pc : s.writer = .acquired value ptr wasFull) (clear : target s.reader ≠ some ptr) :
    Sound { s with
      writer := .stored wasFull,
      queue := { s.queue with buffer := s.queue.buffer.set ptr (s.written.length + 1, value) },
      written := s.written ++ [(s.written.length + 1, value)] } := by
  have stored := sound.stored
  have room := sound.room
  have index := sound.writer
  simp only [WriterSound, pc] at index
  simp only [pc, hasStored, Nat.add_zero] at stored
  have skipped : hasSkipped (.stored wasFull : WriterPc T) = hasSkipped s.writer := by
    rw [pc]
    rfl
  exact {
    power := sound.power
    slots := by simpa using sound.slots
    numbered := by
      simp only [List.map_append, sound.numbered, List.length_append, List.length_singleton,
        List.map_singleton, List.range'_concat]
      rw [Nat.one_mul, Nat.add_comm 1]
    recent := by
      have recent := sound.recent.append (s.written.length + 1, value)
      have slot : s.written.length % s.queue.capacity = ptr := by rw [stored, index]
      rw [sound.slots, slot] at recent
      exact recent
    read := by simpa only [gone, skipped] using sound.read
    write := sound.write
    stored := by simp [stored, hasStored]
    passed := by simpa only [gone, skipped] using sound.passed
    room := by
      simp only [pc] at room
      simp only [gone, skipped]
      cases wasFull <;> exact room
    reader := by
      refine sound.reader.mono rfl rfl rfl (List.prefix_append _ _) sound.reached ?_ ?_ ?_
      · simp only [gone, skipped, le_refl]
      · simp only [gone, skipped, implies_true]
      · -- the writer's slot is the one of position `completed`, so `p` is not a full turn behind
        intro p here young
        unfold Fresh at young ⊢
        simp only [List.length_append, List.length_singleton]
        by_contra turn
        have behind : s.completed = p + s.queue.capacity := by omega
        rw [index, behind, Nat.add_mod_right] at clear
        exact clear here
    writer := trivial }

/-- Dropping the oldest value while the reader is not committing. -/
theorem Sound.skip {s : Threads T} (sound : Sound s) {nextWrite readIdx : Nat}
    (pc : s.writer = .skipping nextWrite readIdx) (quiet : commits s.reader = false)
    (apart : s.queue.readIdx ≠ s.queue.writeIdx) :
    Sound { s with
      writer := .publishing nextWrite true,
      queue := { s.queue with readIdx := s.queue.nextIndex readIdx } } := by
  have unread := sound.unread apart
  have stored := sound.stored
  have room := sound.room
  have indices := sound.writer
  simp only [WriterSound, pc] at indices
  simp only [pc] at stored room
  have next :
      gone { s with
        writer := .publishing nextWrite true,
        queue := { s.queue with readIdx := s.queue.nextIndex readIdx } } = gone s + 1 := by
    simp only [gone, pc, hasSkipped]
  exact {
    power := sound.power, slots := sound.slots, numbered := sound.numbered
    recent := sound.recent, write := sound.write, stored := stored
    read := by
      rw [next]
      change s.queue.nextIndex readIdx = _
      rw [indices.2, sound.nextRead]
    passed := by rw [next]; exact unread
    room := by
      rw [next]
      change s.completed + 1 < _ + s.queue.capacity
      simp only [hasRoom] at room
      omega
    reader := by
      refine sound.reader.mono rfl rfl rfl (List.prefix_refl _) sound.reached ?_ ?_ ?_
      · rw [next]
        exact Nat.le_succ _
      · rw [quiet]
        exact fun busy => absurd busy Bool.false_ne_true
      · exact fun _ _ young => young
    writer := indices.1 }

/-- The last store of a call: one more write is complete. -/
theorem Sound.publish {s : Threads T} (sound : Sound s) {nextWrite : Nat} {wasFull : Bool}
    (pc : s.writer = .publishing nextWrite wasFull) :
    Sound { s with
      writer := .idle,
      queue := { s.queue with writeIdx := nextWrite },
      completed := s.completed + 1,
      overwrites := s.overwrites + if wasFull then 1 else 0 } := by
  have index := sound.writer
  simp only [WriterSound, pc] at index
  have stored := sound.stored
  have passed := sound.passed
  have room := sound.room
  simp only [pc, hasStored, hasRoom] at stored room
  have same :
      gone { s with
        writer := .idle,
        queue := { s.queue with writeIdx := nextWrite },
        completed := s.completed + 1,
        overwrites := s.overwrites + if wasFull then 1 else 0 } = gone s := by
    simp only [gone, pc]
    cases wasFull <;> simp only [hasSkipped, Bool.false_eq_true, ↓reduceIte] <;> omega
  exact {
    power := sound.power, slots := sound.slots, numbered := sound.numbered
    recent := sound.recent, write := index, stored := by simpa [hasStored] using stored
    read := by rw [same]; exact sound.read
    passed := by rw [same]; change _ ≤ s.completed + 1; omega
    room := by rw [same]; exact room
    reader := sound.reader.mono rfl rfl rfl (List.prefix_refl _) sound.reached same.ge
      (fun _ => same) (fun _ _ young => young)
    writer := trivial }

theorem Sound.writerStep {s t : Threads T} (sound : Sound s) (ok : Undisturbed s .writer)
    (step : RoundQueueThreads.writerStep s = some t) : Sound t := by
  have room := sound.room
  have index := sound.writer
  have next : s.queue.nextIndex s.queue.writeIdx = (s.completed + 1) % s.queue.capacity := by
    rw [sound.write, nextIndex_mod s.queue sound.power]
  unfold Undisturbed at ok
  cases writerStep_moves step with
  | test value writeIdx pc =>
    simp only [WriterSound, pc] at index
    apply sound.moveWriter (.acquired value writeIdx _) (by rw [pc]; rfl) (by rw [pc]; rfl) _ index
    simp only [pc, hasRoom] at room
    rw [index, nextIndex_mod s.queue sound.power, sound.read]
    by_cases full : (s.completed + 1) % s.queue.capacity = gone s % s.queue.capacity
    · simpa only [full, decide_true, hasRoom] using room
    · -- one step behind a full turn the indices would agree
      simp only [full, decide_false, hasRoom]
      by_contra turn
      have meet : s.completed + 1 = gone s + s.queue.capacity := by omega
      rw [meet, Nat.add_mod_right] at full
      exact full rfl
  | store value ptr wasFull pc inside =>
    simp only [pc] at ok
    exact sound.store pc ok
  | append pc =>
    rw [pc] at room
    exact sound.moveWriter _ (by rw [pc]; rfl) (by rw [pc]; rfl) room next
  | overwrite pc =>
    rw [pc] at room
    exact sound.moveWriter _ (by rw [pc]; rfl) (by rw [pc]; rfl) room next
  | load nextWrite pc =>
    simp only [WriterSound, pc] at index
    rw [pc] at room
    refine sound.moveWriter _ (by rw [pc]; rfl) (by rw [pc]; rfl) room ⟨index, ?_⟩
    simpa only [gone, pc, hasSkipped] using sound.read
  | skip nextWrite readIdx pc =>
    simp only [pc] at ok
    exact sound.skip pc ok.1 ok.2
  | publish nextWrite wasFull pc => exact sound.publish pc

theorem Sound.step {s t : Threads T} {move : Move T} (sound : Sound s) (ok : Undisturbed s move)
    (step : RoundQueueThreads.step s move = some t) : Sound t := by
  cases move with
  | reader => exact sound.readerStep ok step
  | write value => exact sound.write_step value step
  | writer => exact sound.writerStep ok step

/-- The invariant of runs without the harmful overlaps. -/
theorem reachable_sound [Inhabited T] {capacity : Nat} (power : capacity.isPowerOfTwo)
    {s : Threads T} (reach : (threads capacity).ReachableUnder Undisturbed s) : Sound s :=
  reach.invariant Sound (sound_init power) (fun _ _ _ _ sound ok step => sound.step ok step)

theorem Sound.received_sublist {s : Threads T} (sound : Sound s) :
    s.received.Sublist s.written := by
  have cursor : ∃ p, Cursor s p := by
    have reader := sound.reader
    cases pc : s.reader <;> simp only [ReaderSound, pc] at reader
    · exact ⟨_, reader⟩
    · exact ⟨_, reader.choose_spec.1⟩
    · exact ⟨_, reader.choose_spec.1⟩
    · exact ⟨_, reader.choose_spec.1⟩
    · exact ⟨_, reader.1.choose_spec.1⟩
  obtain ⟨p, cursor⟩ := cursor
  exact cursor.2.trans (List.take_sublist _ _)

theorem Sound.delivers {s : Threads T} (sound : Sound s) : Delivers s where
  numbered := sound.numbered
  genuine := fun _ member => sound.received_sublist.subset member
  ordered := by
    have sublist := sound.received_sublist.map Prod.fst
    rw [sound.numbered] at sublist
    exact List.Pairwise.sublist sublist List.pairwise_lt_range'
  counted := by
    intro _ writerIdle
    have passed := sound.passed
    have room := sound.room
    simp only [writerIdle, hasRoom, Nat.add_zero] at room
    have count : s.queue.len = s.completed - gone s := by
      rw [← gap_mod passed room, ← sound.read, ← sound.write]
      rfl
    rw [count]
    simp only [gone, writerIdle, hasSkipped, Nat.add_zero] at passed ⊢
    omega

/-- Without the harmful overlaps the queue delivers, however full it gets. -/
theorem delivers_undisturbed [Inhabited T] (capacity : Nat) (power : capacity.isPowerOfTwo)
    {s : Threads T} (reach : (threads capacity).ReachableUnder Undisturbed s) : Delivers s :=
  (reachable_sound power reach).delivers

/-- One call of `write_overwrite` that runs alone, with the steps of an overwriting call or not. -/
def writeAlone (value : Nat) (wasFull : Bool) : List (Move Nat) :=
  .write value :: List.replicate (if wasFull then 6 else 4) .writer

def fill : List (Move Nat) := writeAlone 10 false ++ writeAlone 20 false ++ writeAlone 30 false

/-- A reader is about to copy when two writes overwrite the slot; it then reads on. -/
def lateCopy : List (Move Nat) :=
  fill ++ [.reader, .reader] ++ writeAlone 40 true ++ writeAlone 50 true ++ List.replicate 8 .reader

/-- A reader and an overwriting writer both store the same next `read_idx`. -/
def lostMove : List (Move Nat) :=
  fill ++ List.replicate 4 .reader ++ writeAlone 40 true ++ [.reader]

/-- A full queue of four slots delivers an older write after a newer one, and loses count. -/
theorem delivers_fails :
    (∃ s, (threads (T := Nat) 4).Reachable s ∧ s.received = [(5, 50), (4, 40)] ∧ ¬Delivers s) ∧
    (∃ s, (threads (T := Nat) 4).Reachable s ∧ s.reader = .idle ∧ s.writer = .idle ∧ s.completed = 4 ∧
      s.received.length + s.queue.len + s.overwrites = 5 ∧ ¬Delivers s) := by
  constructor
  · refine ⟨((threads (T := Nat) 4).run lateCopy).get (by decide),
      System.reachable_of_run (Option.some_get _).symm, by decide, ?_⟩
    exact fun delivers => absurd delivers.ordered (by decide)
  · refine ⟨((threads (T := Nat) 4).run lostMove).get (by decide),
      System.reachable_of_run (Option.some_get _).symm, by decide, by decide, by decide,
      by decide, ?_⟩
    exact fun delivers => absurd (delivers.counted (by decide) (by decide)) (by decide)

/-- The reader polls the empty queue while the first write is between its store and its end, and is
inside a call while an overwriting write runs up to its load of `read_idx`. -/
def politeOverwrite : List (Move Nat) :=
  [.reader, .write 10, .writer, .writer, .reader, .writer, .writer] ++ writeAlone 20 false ++
    writeAlone 30 false ++ [.reader, .reader] ++ [.write 40, .writer, .writer, .writer] ++
    List.replicate 3 .reader ++ List.replicate 3 .writer ++ List.replicate 5 .reader

theorem delivers_polite :
    ∃ s : Threads Nat, s.received = [(1, 10), (3, 30)] ∧ s.overwrites = 1 ∧ s.queue.len = 1 ∧ Delivers s := by
  refine ⟨(((threads (T := Nat) 4).guarded Undisturbed).run politeOverwrite).get (by decide), by decide,
    by decide, by decide, ?_⟩
  exact delivers_undisturbed 4 ⟨2, rfl⟩
    (System.reachableUnder_of_guarded (System.reachable_of_run (Option.some_get _).symm))

end SensorGateway.Queue.RoundQueueOverwrite

import SensorGateway.Lib.Ring

/-! The overwriting ring queue of `os_lib/src/queue.rs`, called by one thread at a time. A
pointer into the buffer is the index of its slot; a zeroed slot holds `default`. What the allocator
answers is part of the call that asks it. -/

namespace SensorGateway.Queue.RoundQueue
open SensorGateway.Lib.Ring

/-- `isize::MAX`, the largest size in bytes of one allocation. -/
def isizeMax : Nat := 2 ^ 63 - 1

structure RWRoundQueue (T : Type*) where
  buffer : List T
  capacity : Nat
  readIdx : Nat
  writeIdx : Nat
  deriving DecidableEq, Repr

inductive NewError where
  | invalidInput (message : String)
  | other (message : String)
  /-- The `unwrap` of an array layout that is larger than `isize::MAX` bytes. -/
  | layoutPanic
  deriving DecidableEq, Repr

/-- What stops a call before it returns. -/
inductive Fault where
  | outOfBounds (index : Nat)
  | capacityOverflow
  /-- The process ends in `handle_alloc_error`. -/
  | allocationRefused
  deriving DecidableEq, Repr

/-- `size` is the size of `T` in bytes and `allocated` tells whether the allocator succeeds. -/
def new {T : Type*} [Inhabited T] (size : Nat) (allocated : Bool) (capacity : Nat) :
    Except NewError (RWRoundQueue T) :=
  if capacity = 0 then .error (.invalidInput "Capacity must be greater than 0")
  else if ¬capacity.isPowerOfTwo then .error (.invalidInput "Capacity must be power of 2")
  else if isizeMax < size * capacity then .error .layoutPanic
  else if allocated = false then .error (.other "Memory allocation failed")
  else .ok { buffer := List.replicate capacity default, capacity, readIdx := 0, writeIdx := 0 }

variable {T : Type*}

def RWRoundQueue.nextIndex (q : RWRoundQueue T) (current : Nat) : Nat :=
  (current + 1) &&& (q.capacity - 1)

def RWRoundQueue.acquireReadPtr (q : RWRoundQueue T) : Option Nat :=
  if q.readIdx = q.writeIdx then none else some q.readIdx

def RWRoundQueue.commitRead (q : RWRoundQueue T) : RWRoundQueue T :=
  { q with readIdx := q.nextIndex q.readIdx }

/-- The slot to write and whether the queue was full. The source wraps the pair in `Some`. -/
def RWRoundQueue.acquireWritePtr (q : RWRoundQueue T) : Nat × Bool :=
  (q.writeIdx, q.nextIndex q.writeIdx = q.readIdx)

def RWRoundQueue.commitWrite (q : RWRoundQueue T) (wasFull : Bool) : RWRoundQueue T :=
  let nextWrite := q.nextIndex q.writeIdx
  let q := if wasFull then { q with readIdx := q.nextIndex q.readIdx } else q
  { q with writeIdx := nextWrite }

def RWRoundQueue.len (q : RWRoundQueue T) : Nat :=
  if q.readIdx ≤ q.writeIdx then q.writeIdx - q.readIdx
  else q.capacity - q.readIdx + q.writeIdx

def RWRoundQueue.isEmpty (q : RWRoundQueue T) : Bool := q.readIdx = q.writeIdx

def RWRoundQueue.readSlot (q : RWRoundQueue T) (ptr : Nat) : Except Fault T :=
  match q.buffer[ptr]? with
  | some value => .ok value
  | none => .error (.outOfBounds ptr)

def RWRoundQueue.writeSlot (q : RWRoundQueue T) (ptr : Nat) (value : T) :
    Except Fault (RWRoundQueue T) :=
  if ptr < q.buffer.length then .ok { q with buffer := q.buffer.set ptr value }
  else .error (.outOfBounds ptr)

def RWRoundQueue.tryRead (q : RWRoundQueue T) : Except Fault (Option T × RWRoundQueue T) :=
  match q.acquireReadPtr with
  | none => .ok (none, q)
  | some ptr => do
    let value ← q.readSlot ptr
    .ok (some value, q.commitRead)

def RWRoundQueue.writeOverwrite (q : RWRoundQueue T) (value : T) :
    Except Fault (Bool × RWRoundQueue T) := do
  let (ptr, wasFull) := q.acquireWritePtr
  let q ← q.writeSlot ptr value
  .ok (wasFull, q.commitWrite wasFull)

/-- The loop of `read_batch`: read until `max` items are taken or the queue is empty. -/
def RWRoundQueue.readUpTo (q : RWRoundQueue T) : Nat → Except Fault (List T × RWRoundQueue T)
  | 0 => .ok ([], q)
  | max + 1 => do
    let (item, q) ← q.tryRead
    match item with
    | none => .ok ([], q)
    | some item =>
      let (items, q) ← q.readUpTo max
      .ok (item :: items, q)

/-- `Vec::with_capacity(max)` panics when `max` items exceed `isize::MAX` bytes, asks for no memory when
they take none, and ends the process when the allocator has not got it. -/
def RWRoundQueue.readBatch (size : Nat) (q : RWRoundQueue T) (max : Nat) (allocated : Bool) :
    Except Fault (List T × RWRoundQueue T) :=
  if isizeMax < size * max then .error .capacityOverflow
  else if 0 < size * max ∧ allocated = false then .error .allocationRefused
  else q.readUpTo max

inductive Op (T : Type*) where
  | writeOverwrite (value : T)
  | tryRead
  /-- With the allocator's answer, should it be asked. -/
  | readBatch (max : Nat) (allocated : Bool)
  | len
  | isEmpty
  deriving DecidableEq, Repr

inductive Ret (T : Type*) where
  | wasFull (answer : Bool)
  | item (value : Option T)
  | items (values : List T)
  | count (n : Nat)
  | empty (answer : Bool)
  deriving DecidableEq, Repr

def RWRoundQueue.call (size : Nat) (q : RWRoundQueue T) :
    Op T → Except Fault (Ret T × RWRoundQueue T)
  | .writeOverwrite value => (q.writeOverwrite value).map (Prod.map .wasFull id)
  | .tryRead => q.tryRead.map (Prod.map .item id)
  | .readBatch max allocated => (q.readBatch size max allocated).map (Prod.map .items id)
  | .len => .ok (.count q.len, q)
  | .isEmpty => .ok (.empty q.isEmpty, q)

/-- Calls made one after another; the queue after each of them is part of the result. -/
def RWRoundQueue.calls (size : Nat) (q : RWRoundQueue T) :
    List (Op T) → Except Fault (List (Ret T × RWRoundQueue T))
  | [] => .ok []
  | op :: rest => do
    let (ret, q) ← q.call size op
    let later ← q.calls size rest
    .ok ((ret, q) :: later)

/-- Only a queue whose indices meet gives nothing, and it stays as it is. -/
theorem RWRoundQueue.tryRead_none {q q' : RWRoundQueue T} (read : q.tryRead = .ok (none, q')) :
    q.readIdx = q.writeIdx ∧ q' = q := by
  unfold RWRoundQueue.tryRead RWRoundQueue.acquireReadPtr at read
  by_cases meet : q.readIdx = q.writeIdx
  · simp only [if_pos meet, Except.ok.injEq, Prod.mk.injEq, true_and] at read
    exact ⟨meet, read.symm⟩
  · simp only [if_neg meet] at read
    cases slot : q.readSlot q.readIdx <;> simp [slot, bind, Except.bind] at read

theorem RWRoundQueue.tryRead_some {q q' : RWRoundQueue T} {value : T}
    (read : q.tryRead = .ok (some value, q')) :
    q.readIdx ≠ q.writeIdx ∧ q.readSlot q.readIdx = .ok value ∧ q' = q.commitRead := by
  unfold RWRoundQueue.tryRead RWRoundQueue.acquireReadPtr at read
  by_cases meet : q.readIdx = q.writeIdx
  · simp [if_pos meet] at read
  · simp only [if_neg meet] at read
    cases slot : q.readSlot q.readIdx with
    | error fault => simp [slot, bind, Except.bind] at read
    | ok copied =>
      simp only [slot, bind, Except.bind, Except.ok.injEq, Prod.mk.injEq, Option.some.injEq] at read
      obtain ⟨rfl, rfl⟩ := read
      exact ⟨meet, rfl, rfl⟩

/-! The abstract queue: a list that forgets its oldest item when a write finds it full. -/

def abstractCall (capacity : Nat) (xs : List T) : Op T → Ret T × List T
  | .writeOverwrite value =>
    if xs.length = capacity - 1 then (.wasFull true, (xs ++ [value]).tail)
    else (.wasFull false, xs ++ [value])
  | .tryRead => (.item xs.head?, xs.tail)
  | .readBatch max _ => (.items (xs.take (min max xs.length)), xs.drop (min max xs.length))
  | .len => (.count xs.length, xs)
  | .isEmpty => (.empty xs.isEmpty, xs)

def abstractCalls (capacity : Nat) (xs : List T) : List (Op T) → List (Ret T)
  | [] => []
  | op :: rest =>
    let (ret, xs) := abstractCall capacity xs op
    ret :: abstractCalls capacity xs rest

/-! The two agree: the unread items are the part of the write history that the read position
has not passed, and both indices are positions modulo the capacity. -/

/-- `first` items of `written` are gone; `xs` is what is left to read. -/
structure Holds (q : RWRoundQueue T) (written : List T) (first : Nat) (xs : List T) : Prop where
  power : q.capacity.isPowerOfTwo
  slots : q.buffer.length = q.capacity
  recent : Recent q.buffer written
  unread : xs = written.drop first
  passed : first ≤ written.length
  room : written.length < first + q.capacity
  read : q.readIdx = first % q.capacity
  write : q.writeIdx = written.length % q.capacity

theorem Holds.positive {q : RWRoundQueue T} {written xs : List T} {first : Nat}
    (holds : Holds q written first xs) : 0 < q.capacity :=
  Nat.pos_of_isPowerOfTwo holds.power

/-- The mask of a power of two is the remainder. -/
theorem nextIndex_mod (q : RWRoundQueue T) (power : q.capacity.isPowerOfTwo) (i : Nat) :
    q.nextIndex (i % q.capacity) = (i + 1) % q.capacity := by
  obtain ⟨k, power⟩ := power
  unfold RWRoundQueue.nextIndex
  rw [power, Nat.and_two_pow_sub_one_eq_mod, Nat.mod_add_mod]

theorem Holds.length {q : RWRoundQueue T} {written xs : List T} {first : Nat}
    (holds : Holds q written first xs) : xs.length = written.length - first := by
  rw [holds.unread, List.length_drop]

theorem Holds.indices {q : RWRoundQueue T} {written xs : List T} {first : Nat}
    (holds : Holds q written first xs) : q.readIdx < q.capacity ∧ q.writeIdx < q.capacity := by
  rw [holds.read, holds.write]
  exact ⟨Nat.mod_lt _ holds.positive, Nat.mod_lt _ holds.positive⟩

theorem Holds.len {q : RWRoundQueue T} {written xs : List T} {first : Nat}
    (holds : Holds q written first xs) : q.len = xs.length := by
  have count := gap_mod holds.passed holds.room
  rw [holds.length, ← count, ← holds.read, ← holds.write]
  rfl

/-- The indices meet exactly when nothing is unread. -/
theorem Holds.meet {q : RWRoundQueue T} {written xs : List T} {first : Nat}
    (holds : Holds q written first xs) : q.readIdx = q.writeIdx ↔ xs = [] := by
  rw [holds.read, holds.write, ← List.length_eq_zero_iff, holds.length]
  constructor
  · intro same
    by_contra unread
    exact mod_ne_of_lt (by omega) holds.room same
  · intro none
    have same : first = written.length := by have := holds.passed; omega
    rw [same]

theorem Holds.isEmpty {q : RWRoundQueue T} {written xs : List T} {first : Nat}
    (holds : Holds q written first xs) : q.isEmpty = xs.isEmpty := by
  have meet := holds.meet
  unfold RWRoundQueue.isEmpty
  cases xs <;> simp_all

/-- The full check sees that `capacity - 1` items are unread. -/
theorem Holds.full {q : RWRoundQueue T} {written xs : List T} {first : Nat}
    (holds : Holds q written first xs) :
    q.nextIndex q.writeIdx = q.readIdx ↔ xs.length = q.capacity - 1 := by
  have passed := holds.passed
  have room := holds.room
  rw [holds.write, holds.read, nextIndex_mod q holds.power, holds.length]
  constructor
  · intro same
    by_contra unfull
    exact mod_ne_of_lt (i := first) (j := written.length + 1) (by omega) (by omega) same.symm
  · intro count
    have next : written.length + 1 = first + q.capacity := by omega
    rw [next, Nat.add_mod_right]

/-- The read index is at the oldest unread item. -/
theorem Holds.front {q : RWRoundQueue T} {written xs : List T} {first : Nat}
    (holds : Holds q written first xs) {value : T} {rest : List T} (content : xs = value :: rest) :
    q.buffer[q.readIdx]? = some value ∧ written[first]? = some value := by
  have count := holds.length
  rw [content, List.length_cons] at count
  have entry : written[first]? = some value := by
    rw [← List.head?_drop, ← holds.unread, content]
    rfl
  have latest := holds.recent first (by omega) (by rw [holds.slots]; exact holds.room.le)
  rw [holds.slots, ← holds.read] at latest
  exact ⟨latest.trans entry, entry⟩

theorem Holds.tryRead {q : RWRoundQueue T} {written xs : List T} {first : Nat}
    (holds : Holds q written first xs) :
    ∃ q' first', q.tryRead = .ok (xs.head?, q') ∧ Holds q' written first' xs.tail ∧
      q'.capacity = q.capacity := by
  unfold RWRoundQueue.tryRead RWRoundQueue.acquireReadPtr
  cases content : xs with
  | nil =>
    rw [if_pos (holds.meet.mpr content)]
    subst content
    exact ⟨q, first, rfl, holds, rfl⟩
  | cons value rest =>
    have count := holds.length
    rw [content, List.length_cons] at count
    have shift : written.drop first = value :: rest := by rw [← holds.unread, content]
    have slot := (holds.front content).1
    rw [if_neg (fun same => by rw [holds.meet, content] at same; cases same)]
    simp only [RWRoundQueue.readSlot, slot]
    refine ⟨q.commitRead, first + 1, rfl, ?_, rfl⟩
    exact {
      power := holds.power, slots := holds.slots, recent := holds.recent
      unread := by rw [List.tail_cons, ← List.drop_drop, shift]; rfl
      passed := by omega
      room := by have := holds.room; change _ < _ + q.capacity; omega
      read := by
        change q.nextIndex q.readIdx = _
        rw [holds.read, nextIndex_mod q holds.power]
        rfl
      write := holds.write }

/-- The next value goes in at the back while `skip` items leave at the front. -/
theorem Holds.push {q : RWRoundQueue T} {written xs : List T} {first : Nat}
    (holds : Holds q written first xs) (value : T) (skip : Nat)
    (passed : first + skip ≤ written.length + 1)
    (room : written.length + 1 < first + skip + q.capacity) :
    Holds { q with buffer := q.buffer.set q.writeIdx value,
                   readIdx := (first + skip) % q.capacity, writeIdx := q.nextIndex q.writeIdx }
      (written ++ [value]) (first + skip) ((xs ++ [value]).drop skip) where
  power := holds.power
  slots := by simpa using holds.slots
  recent := by simpa only [holds.slots, ← holds.write] using holds.recent.append value
  unread := by
    rw [holds.unread, ← List.drop_append_of_le_length holds.passed, List.drop_drop]
  passed := by simpa using passed
  room := by simpa using room
  read := rfl
  write := by
    rw [holds.write, nextIndex_mod q holds.power, List.length_append, List.length_singleton]

/-- A write appends its value, and drops the oldest unread item of a full queue. -/
theorem Holds.append {q : RWRoundQueue T} {written xs : List T} {first : Nat}
    (holds : Holds q written first xs) (value : T) :
    ∃ q', q.writeOverwrite value = .ok (decide (xs.length = q.capacity - 1), q') ∧
      Holds q' (written ++ [value]) (first + if xs.length = q.capacity - 1 then 1 else 0)
        ((xs ++ [value]).drop (if xs.length = q.capacity - 1 then 1 else 0)) ∧
      q'.capacity = q.capacity := by
  have inside : q.writeIdx < q.buffer.length := by rw [holds.slots]; exact holds.indices.2
  have verdict : decide (q.nextIndex q.writeIdx = q.readIdx) =
      decide (xs.length = q.capacity - 1) := decide_eq_decide.mpr holds.full
  have count := holds.length
  have passed := holds.passed
  have room := holds.room
  simp only [RWRoundQueue.writeOverwrite, RWRoundQueue.acquireWritePtr, RWRoundQueue.writeSlot,
    if_pos inside, verdict]
  by_cases full : xs.length = q.capacity - 1
  · have pushed := holds.push value 1 (by omega) (by omega)
    rw [← nextIndex_mod q holds.power, ← holds.read] at pushed
    rw [if_pos full]
    refine ⟨_, ?_, pushed, rfl⟩
    simp only [full, decide_true]
    rfl
  · have pushed := holds.push value 0 (by omega) (by omega)
    rw [Nat.add_zero, ← holds.read] at pushed
    rw [if_neg full]
    refine ⟨_, ?_, pushed, rfl⟩
    simp only [full, decide_false]
    rfl

theorem Holds.writeOverwrite {q : RWRoundQueue T} {written xs : List T} {first : Nat}
    (holds : Holds q written first xs) (value : T) :
    ∃ full q' written' first' xs', q.writeOverwrite value = .ok (full, q') ∧
      abstractCall q.capacity xs (.writeOverwrite value) = (.wasFull full, xs') ∧
      Holds q' written' first' xs' ∧ q'.capacity = q.capacity := by
  obtain ⟨q', call, appended, same⟩ := holds.append value
  refine ⟨_, q', _, _, _, call, ?_, appended, same⟩
  by_cases full : xs.length = q.capacity - 1
  · simp [abstractCall, full]
  · simp [abstractCall, full]

end SensorGateway.Queue.RoundQueue

import SensorGateway.Queue.RoundQueueOverwrite

/-! One call of `len` by the reader thread while the writer thread overwrites. The call loads
`read_idx` and `write_idx` at two different instants, and every overwriting write in between has
moved both. -/

namespace SensorGateway.Queue.ConcurrentLen
open SensorGateway.Lib.Transition SensorGateway.Lib.Ring RoundQueue RoundQueueThreads
  RoundQueueOverwrite

variable {T : Type*}

/-- Where the reader is inside `len`. -/
inductive LenPc where
  | idle
  | loadedRead (readIdx : Nat)
  /-- The call is over; it had loaded `readIdx`. -/
  | returned (readIdx answer : Nat)
  deriving DecidableEq, Repr

/-- The true number of unread values at one instant. -/
def occupancy (q : RWRoundQueue T) : Nat := (q.writeIdx + q.capacity - q.readIdx) % q.capacity

structure LenCall (T : Type*) where
  threads : Threads T
  pc : LenPc
  /-- The occupancies at the instants of the call so far. -/
  seen : List Nat
  /-- How often the writer has stored `read_idx` since the call loaded it. -/
  skipped : Nat
  deriving DecidableEq, Repr

/-- The reader is between its two loads. -/
def LenPc.loaded : LenPc → Bool
  | .loadedRead _ => true
  | _ => false

def LenPc.over : LenPc → Bool
  | .returned _ _ => true
  | _ => false

/-- The call after a move of the writer. -/
def LenCall.written (s : LenCall T) (threads : Threads T) : LenCall T :=
  let stores := s.pc.loaded && skips s.threads.writer
  { s with threads, seen := s.seen ++ [occupancy threads.queue],
           skipped := s.skipped + if stores then 1 else 0 }

def lenStep (s : LenCall T) (move : Move T) : Option (LenCall T) :=
  match move with
  | .reader =>
    match s.pc with
    | .idle => some { s with pc := .loadedRead s.threads.queue.readIdx }
    | .loadedRead readIdx =>
      some { s with pc := .returned readIdx { s.threads.queue with readIdx }.len }
    | .returned _ _ => none
  | .write _ | .writer =>
    if s.pc.over then none
    else
      match step s.threads move with
      | none => none
      | some threads => some (s.written threads)

/-- The call of `len` from a given state of the two threads on. -/
def lenCall (start : Threads T) : System (LenCall T) (Move T) where
  init := { threads := start, pc := .idle, seen := [occupancy start.queue], skipped := 0 }
  step := lenStep

/-- A call that no write interrupts is `RWRoundQueue::len`. -/
theorem len_alone (start : Threads T) :
    ∃ s, (lenCall start).run [.reader, .reader] = some s ∧
      s.pc = .returned start.queue.readIdx start.queue.len :=
  ⟨_, rfl, rfl⟩

/-- What the queue's indices and the writer's locals are in every state of the two threads. -/
structure InRange (s : Threads T) : Prop where
  power : s.queue.capacity.isPowerOfTwo
  read : s.queue.readIdx < s.queue.capacity
  write : s.queue.writeIdx < s.queue.capacity
  next : ∀ nextWrite, (∃ wasFull, s.writer = .publishing nextWrite wasFull) ∨
    s.writer = .overwriting nextWrite ∨ (∃ readIdx, s.writer = .skipping nextWrite readIdx) →
    nextWrite < s.queue.capacity

/-- The writer has not loaded a `read_idx` that the reader has moved since. -/
def Fresh (s : Threads T) : Prop :=
  ∀ nextWrite readIdx, s.writer = .skipping nextWrite readIdx → readIdx = s.queue.readIdx

theorem nextIndex_lt (q : RWRoundQueue T) (power : q.capacity.isPowerOfTwo) (i : Nat) :
    q.nextIndex i < q.capacity := by
  have positive := Nat.pos_of_isPowerOfTwo power
  obtain ⟨k, power⟩ := power
  unfold RWRoundQueue.nextIndex
  rw [power, Nat.and_two_pow_sub_one_eq_mod, ← power]
  exact Nat.mod_lt _ positive

theorem occupancy_eq_len {s : Threads T} (range : InRange s) : occupancy s.queue = s.queue.len :=
  (gap_eq_mod range.read range.write).symm

/-- What a move of the writer does to the indices and to the locals it will store into them. -/
inductive IndexMove (s next : Threads T) : Prop
  /-- No index moves, and the writer holds no index that it will store. -/
  | keep (read : next.queue.readIdx = s.queue.readIdx) (write : next.queue.writeIdx = s.queue.writeIdx)
      (holds : ∀ nextWrite readIdx wasFull, next.writer ≠ .overwriting nextWrite ∧
        next.writer ≠ .skipping nextWrite readIdx ∧ next.writer ≠ .publishing nextWrite wasFull)
      (noStore : skips s.writer = false)
  | commit (same : next.queue = s.queue) (noStore : skips s.writer = false)
      (writer : next.writer = .overwriting (s.queue.nextIndex s.queue.writeIdx) ∨
        next.writer = .publishing (s.queue.nextIndex s.queue.writeIdx) false)
  | load (nextWrite : Nat) (same : next.queue = s.queue) (before : s.writer = .overwriting nextWrite)
      (writer : next.writer = .skipping nextWrite s.queue.readIdx)
  | skip (nextWrite readIdx : Nat) (before : s.writer = .skipping nextWrite readIdx)
      (queue : next.queue = { s.queue with readIdx := s.queue.nextIndex readIdx })
      (writer : next.writer = .publishing nextWrite true)
  | publish (nextWrite : Nat) (wasFull : Bool) (before : s.writer = .publishing nextWrite wasFull)
      (queue : next.queue = { s.queue with writeIdx := nextWrite }) (writer : next.writer = .idle)

theorem write_moves {s next : Threads T} {value : T} (moved : step s (.write value) = some next) :
    IndexMove s next ∧ next.queue.capacity = s.queue.capacity := by
  obtain ⟨pc, rfl⟩ := write_starts moved
  exact ⟨.keep rfl rfl (by simp) (by simp [pc, skips]), rfl⟩

theorem writer_moves {s next : Threads T} (moved : step s .writer = some next) :
    IndexMove s next ∧ next.queue.capacity = s.queue.capacity := by
  cases writerStep_moves moved with
  | test value writeIdx pc => exact ⟨.keep rfl rfl (by simp) (by simp [pc, skips]), rfl⟩
  | store value ptr wasFull pc inside => exact ⟨.keep rfl rfl (by simp) (by simp [pc, skips]), rfl⟩
  | append pc => exact ⟨.commit rfl (by simp [pc, skips]) (Or.inr rfl), rfl⟩
  | overwrite pc => exact ⟨.commit rfl (by simp [pc, skips]) (Or.inl rfl), rfl⟩
  | load nextWrite pc => exact ⟨.load nextWrite rfl pc rfl, rfl⟩
  | skip nextWrite readIdx pc => exact ⟨.skip nextWrite readIdx pc rfl rfl, rfl⟩
  | publish nextWrite wasFull pc => exact ⟨.publish nextWrite wasFull pc rfl rfl, rfl⟩

theorem IndexMove.inRange {s next : Threads T} (move : IndexMove s next)
    (same : next.queue.capacity = s.queue.capacity) (range : InRange s) : InRange next := by
  have inside := nextIndex_lt s.queue range.power
  constructor
  · rw [same]
    exact range.power
  · rw [same]
    cases move with
    | keep read write holds noStore => rw [read]; exact range.read
    | commit queue noStore writer => rw [queue]; exact range.read
    | load nextWrite queue before writer => rw [queue]; exact range.read
    | skip nextWrite readIdx before queue writer => rw [queue]; exact inside readIdx
    | publish nextWrite wasFull before queue writer => rw [queue]; exact range.read
  · rw [same]
    cases move with
    | keep read write holds noStore => rw [write]; exact range.write
    | commit queue noStore writer => rw [queue]; exact range.write
    | load nextWrite queue before writer => rw [queue]; exact range.write
    | skip nextWrite readIdx before queue writer => rw [queue]; exact range.write
    | publish nextWrite wasFull before queue writer =>
      rw [queue]
      exact range.next nextWrite (Or.inl ⟨wasFull, before⟩)
  · rw [same]
    intro n held
    cases move with
    | keep read write holds noStore =>
      obtain ⟨wasFull, held⟩ | held | ⟨readIdx, held⟩ := held
      · exact absurd held (holds n 0 wasFull).2.2
      · exact absurd held (holds n 0 false).1
      · exact absurd held (holds n readIdx false).2.1
    | commit queue noStore writer =>
      have stored : n = s.queue.nextIndex s.queue.writeIdx := by
        rcases writer with writer | writer <;> rw [writer] at held <;> simpa [eq_comm] using held
      rw [stored]
      exact inside _
    | load nextWrite queue before writer =>
      have stored : nextWrite = n := by rw [writer] at held; simpa using held
      exact range.next n (Or.inr (Or.inl (stored ▸ before)))
    | skip nextWrite readIdx before queue writer =>
      have stored : nextWrite = n := by rw [writer] at held; simpa using held
      exact range.next n (Or.inr (Or.inr ⟨readIdx, stored ▸ before⟩))
    | publish nextWrite wasFull before queue writer => simp [writer] at held

theorem reader_inRange {s next : Threads T} (moved : readerStep s = some next) (range : InRange s) :
    InRange next := by
  cases readerStep_moves moved with
  | receive value readIdx pc =>
    exact ⟨range.power, nextIndex_lt s.queue range.power readIdx, range.write, range.next⟩
  | _ => exact ⟨range.power, range.read, range.write, range.next⟩

/-- Every state that the two threads reach is a start for a call of `len`. -/
theorem inRange_reachable [Inhabited T] {capacity : Nat} (power : capacity.isPowerOfTwo)
    {s : Threads T} (reach : (threads capacity).Reachable s) : InRange s := by
  have positive := Nat.pos_of_isPowerOfTwo power
  apply System.Reaches.invariant reach InRange
  · exact ⟨power, positive, positive, by simp [threads]⟩
  · intro u move v range moved
    cases move with
    | reader => exact reader_inRange moved range
    | write value =>
      have moves := write_moves moved
      exact moves.1.inRange moves.2 range
    | writer =>
      have moves := writer_moves moved
      exact moves.1.inRange moves.2 range

/-- A `read_idx` that the writer loads during the call is the current one. -/
theorem IndexMove.fresh {s next : Threads T} (move : IndexMove s next) : Fresh next := by
  intro n r held
  cases move with
  | keep read write holds noStore => exact absurd held (holds n r false).2.1
  | commit queue noStore writer => rcases writer with writer | writer <;> simp [writer] at held
  | load nextWrite queue before writer =>
    rw [writer] at held
    simp only [WriterPc.skipping.injEq] at held
    rw [queue, held.2]
  | skip nextWrite readIdx before queue writer => simp [writer] at held
  | publish nextWrite wasFull before queue writer => simp [writer] at held

/-- `read_idx` now against the one the call loaded, by the stores in between. -/
structure Since (start : Threads T) (s : LenCall T) (readIdx : Nat) : Prop where
  inside : readIdx < s.threads.queue.capacity
  still : s.skipped = 0 → s.threads.queue.readIdx = readIdx
  /-- Every store moves it one on, unless the first one was loaded before the reader moved it. -/
  turned : Fresh start → s.threads.queue.readIdx = (readIdx + s.skipped) % s.threads.queue.capacity

structure Tracked (start : Threads T) (s : LenCall T) : Prop where
  range : InRange s.threads
  seen : occupancy s.threads.queue ∈ s.seen
  fresh : Fresh start → Fresh s.threads
  waiting : s.pc = .idle → s.skipped = 0
  loaded : ∀ readIdx, s.pc = .loadedRead readIdx → Since start s readIdx
  answered : ∀ readIdx answer, s.pc = .returned readIdx answer → Since start s readIdx ∧
    answer = gap s.threads.queue.capacity readIdx s.threads.queue.writeIdx

/-- The store of `read_idx` is the one step of the writer that moves it, and it is counted. -/
theorem Since.step {start : Threads T} {s : LenCall T} {next : Threads T} {readIdx : Nat}
    (since : Since start s readIdx) (loaded : s.pc.loaded = true) (move : IndexMove s.threads next)
    (same : next.queue.capacity = s.threads.queue.capacity)
    (power : s.threads.queue.capacity.isPowerOfTwo) (fresh : Fresh start → Fresh s.threads) :
    Since start (s.written next) readIdx := by
  have count : (s.written next).skipped = s.skipped + if skips s.threads.writer then 1 else 0 := by
    simp only [LenCall.written, loaded, Bool.true_and]
  by_cases stores : skips s.threads.writer = true
  · cases move with
    | skip nextWrite held before queue writer =>
      refine ⟨same ▸ since.inside, by simp [count, stores], fun start_fresh => ?_⟩
      have current : held = s.threads.queue.readIdx := fresh start_fresh nextWrite held before
      show next.queue.readIdx = (readIdx + (s.written next).skipped) % next.queue.capacity
      rw [count, if_pos stores, same, queue, current, since.turned start_fresh,
        nextIndex_mod s.threads.queue power, Nat.add_assoc]
    | keep read write holds noStore => simp [stores] at noStore
    | commit queue noStore writer => simp [stores] at noStore
    | load nextWrite queue before writer => simp [before, skips] at stores
    | publish nextWrite wasFull before queue writer => simp [before, skips] at stores
  · have unmoved : next.queue.readIdx = s.threads.queue.readIdx := by
      cases move with
      | keep read write holds noStore => exact read
      | commit queue noStore writer => rw [queue]
      | load nextWrite queue before writer => rw [queue]
      | skip nextWrite held before queue writer => simp [before, skips] at stores
      | publish nextWrite wasFull before queue writer => rw [queue]
    rw [if_neg stores, Nat.add_zero] at count
    refine ⟨same ▸ since.inside, fun none => ?_, fun start_fresh => ?_⟩
    · exact unmoved.trans (since.still (count ▸ none))
    · show next.queue.readIdx = (readIdx + (s.written next).skipped) % next.queue.capacity
      rw [count, unmoved, same]
      exact since.turned start_fresh

theorem tracked_init {start : Threads T} (range : InRange start) :
    Tracked start (lenCall start).init where
  range := range
  seen := by simp [lenCall]
  fresh := id
  waiting := fun _ => rfl
  loaded := by simp [lenCall]
  answered := by simp [lenCall]

theorem tracked_write {start : Threads T} {s : LenCall T} {next : Threads T} (tracked : Tracked start s)
    (running : s.pc.over = false) (move : IndexMove s.threads next)
    (same : next.queue.capacity = s.threads.queue.capacity) :
    Tracked start (s.written next) where
  range := move.inRange same tracked.range
  seen := by simp [LenCall.written]
  fresh := fun _ => move.fresh
  waiting := fun idle => by
    have idle : s.pc = .idle := idle
    simp [LenCall.written, idle, LenPc.loaded, tracked.waiting idle]
  loaded := fun readIdx loaded => by
    have loaded : s.pc = .loadedRead readIdx := loaded
    exact (tracked.loaded readIdx loaded).step (by rw [loaded]; rfl) move same tracked.range.power
      tracked.fresh
  answered := fun readIdx answer returned => by
    have returned : s.pc = .returned readIdx answer := returned
    simp [returned, LenPc.over] at running

theorem tracked_step {start : Threads T} {s next : LenCall T} {move : Move T}
    (tracked : Tracked start s) (moved : (lenCall start).step s move = some next) :
    Tracked start next := by
  change lenStep s move = some next at moved
  cases move with
  | reader =>
    cases before : s.pc with
    | idle =>
      simp only [lenStep, before, Option.some.injEq] at moved
      have none := tracked.waiting before
      subst moved
      have since : Since start { s with pc := .loadedRead s.threads.queue.readIdx }
          s.threads.queue.readIdx := by
        refine ⟨tracked.range.read, fun _ => rfl, fun _ => ?_⟩
        simp only [none, Nat.add_zero]
        exact (Nat.mod_eq_of_lt tracked.range.read).symm
      exact {
        range := tracked.range, seen := tracked.seen, fresh := tracked.fresh
        waiting := by simp
        loaded := fun readIdx same => by cases same; exact since
        answered := by simp }
    | loadedRead readIdx =>
      simp only [lenStep, before, Option.some.injEq] at moved
      have since := tracked.loaded readIdx before
      subst moved
      exact {
        range := tracked.range, seen := tracked.seen, fresh := tracked.fresh
        waiting := by simp
        loaded := by simp
        answered := fun loaded answer same => by
          cases same
          exact ⟨⟨since.inside, since.still, since.turned⟩, rfl⟩ }
    | returned readIdx answer => simp only [lenStep, before, reduceCtorEq] at moved
  | write value =>
    simp only [lenStep] at moved
    split at moved
    · simp only [reduceCtorEq] at moved
    · next running =>
      split at moved
      · simp only [reduceCtorEq] at moved
      · next threads wrote =>
        simp only [Option.some.injEq] at moved
        have moves := write_moves wrote
        exact moved ▸ tracked_write tracked (by simpa using running) moves.1 moves.2
  | writer =>
    simp only [lenStep] at moved
    split at moved
    · simp only [reduceCtorEq] at moved
    · next running =>
      split at moved
      · simp only [reduceCtorEq] at moved
      · next threads wrote =>
        simp only [Option.some.injEq] at moved
        have moves := writer_moves wrote
        exact moved ▸ tracked_write tracked (by simpa using running) moves.1 moves.2

/-- The value lies between the smallest and the largest of the occupancies. -/
def Between (value : Nat) (occupancies : List Nat) : Prop :=
  (∀ smallest ∈ occupancies.min?, smallest ≤ value) ∧ ∀ largest ∈ occupancies.max?, value ≤ largest

theorem between_of_mem {value : Nat} {occupancies : List Nat} (member : value ∈ occupancies) :
    Between value occupancies := by
  constructor
  · intro smallest least
    exact (List.min?_eq_some_iff.mp least).2 value member
  · intro largest most
    exact (List.max?_eq_some_iff.mp most).2 value member

theorem displaced {c loaded : Nat} (inside : loaded < c) (count moves : Nat) :
    (count + ((loaded + moves) % c + c - loaded)) % c = (count + moves) % c := by
  have turned : (loaded + moves) % c + c - loaded = (loaded + moves) % c + (c - loaded) := by omega
  have around : loaded + moves + (c - loaded) = moves + c := by omega
  have inner : ((loaded + moves) % c + (c - loaded)) % c = moves % c := by
    rw [Nat.mod_add_mod, around, Nat.add_mod_right]
  rw [turned, Nat.add_mod, inner, ← Nat.add_mod]

/-- A call of `len` under any number of overwriting writes. It counts from the `read_idx` it loaded
to the `write_idx` at its end, so it is off by the stores of `read_idx` in between, modulo the
capacity; without one it is the occupancy at its end. -/
theorem len_under_overwrites (start : Threads T) (range : InRange start) {schedule : List (Move T)}
    {s : LenCall T} {loaded answer : Nat} (runs : (lenCall start).run schedule = some s)
    (returned : s.pc = .returned loaded answer) :
    answer < s.threads.queue.capacity ∧
    answer = (occupancy s.threads.queue +
      (s.threads.queue.readIdx + s.threads.queue.capacity - loaded)) % s.threads.queue.capacity ∧
    (Fresh start → answer = (occupancy s.threads.queue + s.skipped) % s.threads.queue.capacity) ∧
    (s.skipped = 0 → s.threads.queue.readIdx = loaded) ∧
    (s.threads.queue.readIdx = loaded → answer = occupancy s.threads.queue ∧ Between answer s.seen ∧
      ((∀ o ∈ s.seen, o ≠ 0) → answer ≠ 0)) := by
  have tracked : Tracked start s :=
    (System.reachable_of_run runs).invariant (Tracked start) (tracked_init range)
      (fun _ _ _ held moved => tracked_step held moved)
  obtain ⟨since, counted⟩ := tracked.answered loaded answer returned
  have inRange := tracked.range
  have real : occupancy s.threads.queue =
      gap s.threads.queue.capacity s.threads.queue.readIdx s.threads.queue.writeIdx :=
    occupancy_eq_len inRange
  have off := gap_from since.inside inRange.read inRange.write
  rw [← real, ← counted] at off
  refine ⟨?_, off, fun fresh => ?_, since.still, fun same => ?_⟩
  · rw [counted]
    exact gap_lt since.inside inRange.write
  · -- Where the stores have turned `read_idx` to, its distance from the loaded one is their number.
    rw [off, since.turned fresh]
    exact displaced since.inside _ _
  · have exact_answer : answer = occupancy s.threads.queue := by rw [counted, real, same]
    refine ⟨exact_answer, between_of_mem (exact_answer ▸ tracked.seen), fun never => ?_⟩
    exact exact_answer ▸ never _ tracked.seen

/-- A full queue of four slots, built by three writes. -/
def full : Threads Nat := ((threads (T := Nat) 4).run fill).get (by decide)

/-- One overwriting write between the two loads of the call. -/
def overwriteBetween : List (Move Nat) := .reader :: writeAlone 40 true ++ [.reader]

/-- The call answers 0 although the queue holds two or three values all the time. -/
theorem len_zero_of_full :
    (threads (T := Nat) 4).Reachable full ∧
      ∃ s, (lenCall full).run overwriteBetween = some s ∧ s.pc = .returned 0 0 ∧
        s.seen.min? = some 2 ∧ s.seen.max? = some 3 ∧ ¬ Between 0 s.seen := by
  refine ⟨System.reachable_of_run (Option.some_get _).symm,
    ((lenCall full).run overwriteBetween).get (by decide), (Option.some_get _).symm, by decide, by decide,
    by decide, fun between => ?_⟩
  exact absurd (between.1 2 (by decide)) (by decide)

/-- A call that returns before the write moves `read_idx`. -/
def overwriteAfter : List (Move Nat) := [.reader, .write 40, .writer, .writer, .writer, .reader]

theorem len_under_overwrites_full :
    ∃ s, (lenCall full).run overwriteAfter = some s ∧ Between 3 s.seen := by
  have range : InRange full :=
    inRange_reachable ⟨2, rfl⟩ (System.reachable_of_run (Option.some_get _).symm)
  let s := ((lenCall full).run overwriteAfter).get (by decide)
  have runs : (lenCall full).run overwriteAfter = some s := (Option.some_get _).symm
  have returned : s.pc = .returned 0 3 := by decide
  exact ⟨s, runs, ((len_under_overwrites full range runs returned).2.2.2.2 (by decide)).2.1⟩

end SensorGateway.Queue.ConcurrentLen

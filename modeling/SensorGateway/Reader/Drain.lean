import SensorGateway.Polling.GovernorBounds
import SensorGateway.Reader.Threads

/-! What a reader thread has handed on when it exits. A drain begins by joining the generator, so from
then on the ring is the reader's alone, and the reader leaves its loop only behind a read that has
found the ring empty. -/

namespace SensorGateway.Reader.Drain
open SensorGateway.Lib.Transition SensorGateway.Lib.Ring SensorGateway.Types
open Polling.Governor Polling.Control Queue.RoundQueue Buffer.Manager
open Queue.RoundQueueThreads (Stamped)
open Polling.GovernorBounds (Bounded bounded_new invoke_bounded)
open Reader.Threads

variable {R F : Type} {cfg : ReaderConfig R F}

/-- The thread has ended, be it by a panic. -/
def isOver : ReaderPc R F → Bool
  | .finished | .panicked => true
  | _ => false

/-- The buffer stays open until the reader has ended, and a drain deadline does not pass. -/
def Calm (s : State R F) : Move R F → Prop
  | .call .shutdown => isOver s.reader = true
  | .reader clock =>
    match s.reader with
    | .deciding _ => ∀ deadline ∈ s.control.drainDeadline, clock.instant < deadline
    | _ => True
  | _ => True

instance decidableCalm (s : State R F) (move : Move R F) : Decidable (Calm s move) := by
  unfold Calm
  split
  · infer_instance
  · split <;> infer_instance
  · exact isTrue trivial

/-- The reading that the reader has taken and not yet pushed. -/
def inHand : ReaderPc R F → List (Stamped R × ReadingEnvelope F)
  | .pushing reading item | .waiting reading item => [(reading, item)]
  | _ => []

/-- What the reader pushes for a reading. -/
def Envelops (cfg : ReaderConfig R F) (entry : Stamped R × ReadingEnvelope F) : Prop :=
  entry.2.sensorId = cfg.sid ∧ entry.2.value = cfg.valueFn entry.1.2

/-- The readings taken are the readings pushed, in order, but for the one in hand. A reader that
has exited has stopped its generator and left nothing behind: each reading that was not
overwritten has been pushed once. -/
structure Lossless (cfg : ReaderConfig R F) (s : State R F) : Prop where
  inOrder : s.taken = (s.pushed ++ inHand s.reader).map Prod.fst
  values : ∀ entry ∈ s.pushed, Envelops cfg entry
  distinct : (s.written.map Prod.fst).Nodup
  oldestFirst : s.taken.Sublist s.written
  stopped : s.reader = .finished → s.sensor.generator = .returned
  drained : s.reader = .finished → s.sensor.queue.isEmpty = true
  handedOn : s.reader = .finished → s.taken = s.pushed.map Prod.fst
  everything : s.reader = .finished → (s.pushed.map Prod.fst ++ s.overwritten).Perm s.written
  returns : 0 ≤ cfg.governorCfg.integralLimit → isOver s.reader = true → s.reader = .finished

/-- The ring holds the readings written that have been neither taken nor overwritten. -/
structure Ring (queue : RWRoundQueue (Stamped R)) (written overwritten taken : List (Stamped R))
    (first : Nat) (unread : List (Stamped R)) : Prop where
  holds : Holds queue written first unread
  capacity : queue.capacity = maxQueueSize
  gone : (taken ++ overwritten).Perm (written.take first)
  inOrder : taken.Sublist (written.take first)
  numbered : written.map Prod.fst = List.range' 1 written.length

/-- A sensor that has been stopped has joined its generator. -/
structure Stopped (control : ReaderControl) (sensor : Sensor R) : Prop where
  draining : control.draining = true → control.sensorStopped = true
  stopped : control.sensorStopped = true → sensor.handle = false
  joined : sensor.handle = false → sensor.generator = .returned

/-- What the reader knows where it is. -/
def Knows (control : ReaderControl) (queue : RWRoundQueue (Stamped R)) : ReaderPc R F → Prop
  | .refused => False
  | .stopping resume | .joining resume => resume = .command ∨ resume = .stopFlag
  | .probingAfter | .reporting _ | .deciding _ =>
    control.sensorStopped = true → queue.isEmpty = true
  | .leaving | .lastReport | .finished => control.sensorStopped = true ∧ queue.isEmpty = true
  | _ => True

structure Sound (cfg : ReaderConfig R F) (s : State R F) : Prop where
  ring : ∃ first unread, Ring s.sensor.queue s.written s.overwritten s.taken first unread
  hand : s.taken = (s.pushed ++ inHand s.reader).map Prod.fst
  envelopes : ∀ entry ∈ s.pushed ++ inHand s.reader, Envelops cfg entry
  stopped : Stopped s.control s.sensor
  knows : Knows s.control s.sensor.queue s.reader
  unclosed : isOver s.reader = false → s.buffer.isShutdown = false
  fits : s.buffer.q.length ≤ cfg.manager.capacity
  governor : 0 ≤ cfg.governorCfg.integralLimit → Bounded s.governor
  returns : 0 ≤ cfg.governorCfg.integralLimit → s.reader ≠ .panicked

/-! The ring. -/

/-- Once the next reading is gone as well. -/
theorem take_next {written : List (Stamped R)} {first : Nat} {reading : Stamped R}
    (next : written[first]? = some reading) :
    written.take (first + 1) = written.take first ++ [reading] := by
  rw [List.take_add_one, next]
  rfl

theorem Ring.start [Inhabited R] :
    Ring (⟨List.replicate maxQueueSize default, maxQueueSize, 0, 0⟩ : RWRoundQueue (Stamped R))
      [] [] [] 0 [] where
  holds := {
    power := ⟨7, rfl⟩
    slots := List.length_replicate
    recent := Recent.nil _
    unread := rfl
    passed := Nat.zero_le 0
    room := Nat.succ_pos 127
    read := rfl
    write := rfl }
  capacity := rfl
  gone := List.Perm.refl []
  inOrder := List.Sublist.refl []
  numbered := rfl

section
variable {queue queue' : RWRoundQueue (Stamped R)} {written overwritten taken : List (Stamped R)}
  {first : Nat} {unread : List (Stamped R)}

theorem Ring.read (ring : Ring queue written overwritten taken first unread) {reading : Stamped R}
    (call : queue.tryRead = .ok (some reading, queue')) :
    Ring queue' written overwritten (taken ++ [reading]) (first + 1) unread.tail := by
  obtain ⟨after, first', reads, holds, capacity⟩ := ring.holds.tryRead
  rw [call, Except.ok.injEq, Prod.mk.injEq] at reads
  obtain ⟨head, rfl⟩ := reads
  have content : unread = reading :: unread.tail := List.eq_cons_of_mem_head? head.symm
  have next := (ring.holds.front content).2
  have moved : first' = first + 1 := by
    have before := ring.holds.length
    have later := holds.length
    have passed := holds.passed
    rw [content, List.length_cons] at before
    omega
  subst moved
  exact {
    holds := holds
    capacity := capacity.trans ring.capacity
    gone := by
      rw [take_next next]
      calc
        (taken ++ [reading] ++ overwritten).Perm (taken ++ overwritten ++ [reading]) := by
          rw [List.append_assoc, List.append_assoc]
          exact List.Perm.append_left taken List.perm_append_comm
        List.Perm _ (written.take first ++ [reading]) := ring.gone.append_right [reading]
    inOrder := by
      rw [take_next next]
      exact ring.inOrder.append (List.Sublist.refl [reading])
    numbered := ring.numbered }

theorem Ring.readNone (ring : Ring queue written overwritten taken first unread)
    (call : queue.tryRead = .ok (none, queue')) : queue' = queue ∧ queue.isEmpty = true := by
  obtain ⟨meet, same⟩ := RWRoundQueue.tryRead_none call
  refine ⟨same, ?_⟩
  rw [ring.holds.isEmpty, ring.holds.meet.mp meet]
  rfl

theorem Ring.write (ring : Ring queue written overwritten taken first unread) {reading : R}
    {wasFull : Bool}
    (call : queue.writeOverwrite (written.length + 1, reading) = .ok (wasFull, queue')) :
    ∃ first' unread', Ring queue' (written ++ [(written.length + 1, reading)])
      (overwritten ++ dropped queue wasFull) taken first' unread' := by
  obtain ⟨after, writes, holds, capacity⟩ := ring.holds.append (written.length + 1, reading)
  rw [call, Except.ok.injEq, Prod.mk.injEq] at writes
  obtain ⟨verdict, rfl⟩ := writes
  have numbered : (written ++ [(written.length + 1, reading)]).map Prod.fst =
      List.range' 1 (written ++ [(written.length + 1, reading)]).length := by
    rw [List.map_append, ring.numbered, List.length_append, List.length_singleton,
      List.range'_concat]
    simp [Nat.add_comm]
  by_cases full : unread.length = queue.capacity - 1
  · obtain ⟨oldest, rest, content⟩ : ∃ oldest rest, unread = oldest :: rest := by
      cases unread with
      | nil => rw [ring.capacity] at full; cases full
      | cons oldest rest => exact ⟨oldest, rest, rfl⟩
    obtain ⟨slot, next⟩ := ring.holds.front content
    have inside : first + 1 ≤ written.length := (List.getElem?_eq_some_iff.mp next).1
    have drops : dropped queue wasFull = [oldest] := by
      rw [verdict, decide_eq_true full, dropped, if_pos rfl, slot]
      rfl
    rw [if_pos full] at holds
    refine ⟨_, _, holds, capacity.trans ring.capacity, ?_, ?_, numbered⟩
    · rw [drops, List.take_append_of_le_length inside, take_next next, ← List.append_assoc]
      exact ring.gone.append_right [oldest]
    · rw [List.take_append_of_le_length inside]
      exact ring.inOrder.trans (List.take_sublist_take_left (Nat.le_succ first))
  · have drops : dropped queue wasFull = [] := by
      rw [verdict, decide_eq_false full, dropped, if_neg Bool.false_ne_true]
    rw [if_neg full] at holds
    refine ⟨_, _, holds, capacity.trans ring.capacity, ?_, ?_, numbered⟩
    · rw [drops, List.append_nil, Nat.add_zero, List.take_append_of_le_length ring.holds.passed]
      exact ring.gone
    · rw [Nat.add_zero, List.take_append_of_le_length ring.holds.passed]
      exact ring.inOrder

theorem Ring.drained (ring : Ring queue written overwritten taken first unread)
    (empty : queue.isEmpty = true) : (taken ++ overwritten).Perm written := by
  rw [ring.holds.isEmpty, List.isEmpty_iff] at empty
  have count := ring.holds.length
  have passed := ring.holds.passed
  rw [empty, List.length_nil] at count
  have gone := ring.gone
  rwa [List.take_of_length_le (by omega)] at gone

end

/-! The steps of the reader. -/

variable {s t : State R F}

theorem sound_start [Inhabited R] (now : SystemTime) : Sound cfg (reader cfg now).init where
  ring := ⟨0, [], Ring.start⟩
  hand := rfl
  envelopes := fun _ member => absurd member List.not_mem_nil
  stopped := ⟨nofun, nofun, nofun⟩
  knows := trivial
  unclosed := fun _ => rfl
  fits := Nat.zero_le _
  governor := bounded_new
  returns := fun _ => nofun

/-- The reader moves on to another place. -/
theorem Sound.goto (sound : Sound cfg s) (live : isOver s.reader = false) {control : ReaderControl}
    {next : ReaderPc R F} (stopped : Stopped control s.sensor)
    (hand : inHand next = inHand s.reader) (knows : Knows control s.sensor.queue next)
    (returns : next ≠ .panicked) : Sound cfg { s with control, reader := next } :=
  { sound with
    hand := by rw [hand]; exact sound.hand
    envelopes := by rw [hand]; exact sound.envelopes
    stopped := stopped
    knows := knows
    unclosed := fun _ => sound.unclosed live
    returns := fun _ => returns }

theorem Stopped.drain {control : ReaderControl} {sensor : Sensor R}
    (stopped : Stopped control sensor) (joined : sensor.handle = false) (instant : Instant) :
    Stopped (control.drain instant) sensor :=
  ⟨fun _ => rfl, fun _ => joined, stopped.joined⟩

theorem Stopped.obey {control : ReaderControl} {sensor : Sensor R}
    (stopped : Stopped control sensor) (governorCfg : AdaptivePollingConfig) (instant : Instant)
    {mode : ReaderControlMode} (other : mode ≠ .shutdownDrain) :
    Stopped (control.obey governorCfg instant mode) sensor := by
  cases mode with
  | shutdownDrain => exact absurd rfl other
  | automatic => exact ⟨stopped.draining, stopped.stopped, stopped.joined⟩
  | clampToNominal => exact ⟨stopped.draining, stopped.stopped, stopped.joined⟩
  | forceFastRecovery => exact ⟨stopped.draining, stopped.stopped, stopped.joined⟩

/-- Behind `sensor.stop()` in the loop over the commands or at the stop flag. -/
theorem Sound.resume (sound : Sound cfg s) (live : isOver s.reader = false)
    (empty : inHand s.reader = []) {resume : Resume} (origin : resume = .command ∨ resume = .stopFlag)
    (joined : s.sensor.handle = false) (instant : Instant) :
    Sound cfg { s with control := afterStop s.control instant resume, reader := resumeAt resume } := by
  have stopped := sound.stopped.drain joined instant
  rcases origin with rfl | rfl
  · exact sound.goto live stopped empty.symm trivial nofun
  · exact sound.goto live stopped empty.symm trivial nofun

theorem Sound.stopSensor (sound : Sound cfg s) (live : isOver s.reader = false)
    (empty : inHand s.reader = []) {resume : Resume} (origin : resume = .command ∨ resume = .stopFlag)
    (instant : Instant) : Sound cfg (stopSensor s instant resume) := by
  unfold Threads.stopSensor
  by_cases already : s.control.sensorStopped = true
  · rw [if_pos already]
    exact sound.resume live empty origin (sound.stopped.stopped already) instant
  · rw [if_neg already]
    exact sound.goto live sound.stopped empty.symm origin nofun

/-- A critical section of the reader's `push`. -/
theorem Sound.pushed (sound : Sound cfg s) {reading : Stamped R} {item : ReadingEnvelope F}
    (hand : inHand s.reader = [(reading, item)])
    {inner : Inner (ReadingEnvelope F)} (running : inner.isShutdown = false)
    (fits : inner.q.length ≤ cfg.manager.capacity) :
    Sound cfg (pushed s reading item (cfg.manager.pushLoop item inner)) := by
  have shut := pushLoop_isShutdown cfg.manager item inner
  have after := (pushLoop_effect cfg.manager item inner).fits fits
  have entry := sound.hand
  have envelopes := sound.envelopes
  rw [hand] at entry envelopes
  rcases pushLoop_open cfg.manager item running with waits | accepts
  · unfold Threads.pushed
    generalize cfg.manager.pushLoop item inner = result at waits shut after
    obtain ⟨exit, inner'⟩ := result
    subst waits
    exact { sound with
      hand := entry
      envelopes := envelopes
      knows := trivial
      unclosed := fun _ => shut.trans running
      fits := after
      returns := fun _ => nofun }
  · unfold Threads.pushed
    generalize cfg.manager.pushLoop item inner = result at accepts shut after
    obtain ⟨exit, inner'⟩ := result
    subst accepts
    rw [← List.append_nil (s.pushed ++ [(reading, item)])] at entry envelopes
    exact { sound with
      hand := entry
      envelopes := envelopes
      knows := trivial
      unclosed := fun _ => shut.trans running
      fits := after
      returns := fun _ => nofun }

theorem Sound.took (sound : Sound cfg s) {reading : Stamped R} {queue : RWRoundQueue (Stamped R)}
    (pc : s.reader = .reading) (read : s.sensor.queue.tryRead = .ok (some reading, queue))
    (now : SystemTime) :
    Sound cfg { s with
      sensor := { s.sensor with queue }, taken := s.taken ++ [reading],
      totalReads := s.totalReads + 1, lastSuccessfulRead := now,
      reader := .pushing reading ⟨cfg.sid, now, cfg.valueFn reading.2⟩ } := by
  obtain ⟨first, unread, ring⟩ := sound.ring
  have live : isOver s.reader = false := by rw [pc]; rfl
  have hand : inHand s.reader = [] := by rw [pc]; rfl
  have envelopes := sound.envelopes
  have entry := sound.hand
  rw [hand, List.append_nil] at envelopes entry
  exact { sound with
    ring := ⟨first + 1, unread.tail, ring.read read⟩
    hand := by rw [entry, inHand, List.map_append]; rfl
    envelopes := by
      intro pair member
      rcases List.mem_append.mp member with earlier | last
      · exact envelopes pair earlier
      · rw [List.mem_singleton.mp last]
        exact ⟨rfl, rfl⟩
    stopped := ⟨sound.stopped.draining, sound.stopped.stopped, sound.stopped.joined⟩
    knows := trivial
    unclosed := fun _ => sound.unclosed live
    returns := fun _ => nofun }

/-- A governor that starts bounded finds a next sleep and stays bounded. -/
theorem Sound.governs (sound : Sound cfg s) (limit : 0 ≤ cfg.governorCfg.integralLimit)
    (availableAfter : Nat) :
    ∃ g', s.governor.updateWithOverride availableAfter (bufferStats cfg s.buffer)
      s.control.governorOverride = some (g'.currentSleepUs, g') ∧ Bounded g' := by
  let call : Polling.GovernorBounds.Call :=
    ⟨availableAfter, bufferStats cfg s.buffer, s.control.governorOverride⟩
  have sane : call.Sane := ⟨cfg.manager.positive, sound.fits⟩
  obtain ⟨g', updates, bounded, -⟩ := invoke_bounded (sound.governor limit) sane
  exact ⟨g', updates, bounded⟩

theorem Sound.panicked (sound : Sound cfg s) {availableAfter : Nat}
    (pc : s.reader = .reporting availableAfter)
    (update : s.governor.updateWithOverride availableAfter (bufferStats cfg s.buffer)
      s.control.governorOverride = none) : Sound cfg { s with reader := .panicked } := by
  have entry := sound.hand
  have envelopes := sound.envelopes
  rw [pc] at entry envelopes
  exact { sound with
    hand := entry
    envelopes := envelopes
    knows := trivial
    unclosed := nofun
    returns := by
      intro limit
      obtain ⟨g', updates, -⟩ := sound.governs limit availableAfter
      rw [update] at updates
      cases updates }

theorem Sound.reported (sound : Sound cfg s) {availableAfter : Nat} {sleepUs : UInt64}
    {governor : AdaptivePollingGovernor} (pc : s.reader = .reporting availableAfter)
    (update : s.governor.updateWithOverride availableAfter (bufferStats cfg s.buffer)
      s.control.governorOverride = some (sleepUs, governor)) (statuses : List ReaderStatus) :
    Sound cfg { s with governor, statuses, reader := .deciding availableAfter } := by
  have live : isOver s.reader = false := by rw [pc]; rfl
  have knows := sound.knows
  have entry := sound.hand
  have envelopes := sound.envelopes
  rw [pc] at knows entry envelopes
  exact { sound with
    hand := entry
    envelopes := envelopes
    knows := knows
    unclosed := fun _ => sound.unclosed live
    governor := by
      intro limit
      obtain ⟨g', same, bounded⟩ := sound.governs limit availableAfter
      rw [update, Option.some.injEq, Prod.mk.injEq] at same
      rw [same.2]
      exact bounded
    returns := fun _ => nofun }

theorem Sound.told (sound : Sound cfg s) (stop : Bool) (commands : List ReaderControlMode) :
    Sound cfg { s with stop, commands } :=
  { sound with }

/-- `running` decides nothing until the generator tests it. -/
theorem Sound.signal (sound : Sound cfg s) (running : Bool) :
    Sound cfg { s with sensor := { s.sensor with running } } :=
  { sound with
    stopped := ⟨sound.stopped.draining, sound.stopped.stopped, sound.stopped.joined⟩ }

theorem Stopped.join {control : ReaderControl} {sensor : Sensor R} (stopped : Stopped control sensor)
    (free : ¬(sensor.handle = true ∧ sensor.generator ≠ .returned)) :
    Stopped control { sensor with handle := false } := by
  have returned : sensor.generator = .returned := by
    cases handle : sensor.handle with
    | true => exact not_ne_iff.mp (fun other => free ⟨handle, other⟩)
    | false => exact stopped.joined handle
  exact ⟨stopped.draining, fun _ => rfl, fun _ => returned⟩

theorem Sound.join (sound : Sound cfg s)
    (free : ¬(s.sensor.handle = true ∧ s.sensor.generator ≠ .returned)) :
    Sound cfg { s with sensor := { s.sensor with handle := false } } :=
  { sound with stopped := sound.stopped.join free }

theorem Sound.readerStep (sound : Sound cfg s) {clock : Clock}
    (step : readerStep cfg s clock = some t) : Sound cfg t := by
  obtain ⟨sensor, reader, control, governor, totalReads, lastSuccessfulRead, maxAvail, stop,
    commands, statuses, buffer, written, overwritten, taken, pushed⟩ := s
  cases readerStep_acts step with
  | listened pc | passed pc | stayed _ pc | woke pc =>
    cases pc
    exact sound.goto rfl sound.stopped rfl trivial fun panics => by cases panics
  | shutDown rest pc =>
    cases pc
    exact (sound.told true rest).stopSensor rfl rfl (Or.inl rfl) clock.instant
  | obeyed mode rest pc first other =>
    cases pc
    have obeyed := sound.stopped.obey cfg.governorCfg clock.instant other
    exact { sound with stopped := obeyed, knows := trivial }
  | signalled resume pc =>
    cases pc
    have signalled := sound.signal false
    exact signalled.goto rfl signalled.stopped rfl sound.knows fun panics => by cases panics
  | joined resume pc free =>
    cases pc
    exact (sound.join free).resume rfl rfl sound.knows rfl clock.instant
  | stopFlagged pc =>
    cases pc
    exact sound.stopSensor rfl rfl (Or.inr rfl) clock.instant
  | probed pc =>
    cases pc
    exact { sound with knows := trivial, returns := fun _ panics => by cases panics }
  | foundEmpty queue pc read =>
    cases pc
    obtain ⟨first, unread, ring⟩ := sound.ring
    obtain ⟨same, empty⟩ := ring.readNone read
    cases same
    exact sound.goto rfl sound.stopped rfl (fun _ => empty) fun panics => by cases panics
  | took reading queue pc read => exact sound.took pc read clock.now
  | push reading item pc =>
    cases pc
    have running : buffer.isShutdown = false := sound.unclosed rfl
    have loops : cfg.manager.push item buffer = cfg.manager.pushLoop item buffer := by
      rw [SensorBufferManager.push, running, if_neg Bool.false_ne_true]
    rw [loops]
    exact sound.pushed rfl running sound.fits
  | gaveUp pc =>
    cases pc
    exact sound.knows.elim
  | probedAgain pc =>
    cases pc
    exact { sound with knows := sound.knows, returns := fun _ panics => by cases panics }
  | panicked availableAfter pc update => exact sound.panicked pc update
  | reported availableAfter sleepUs governor pc update => exact sound.reported pc update _
  | left availableAfter pc ends =>
    cases pc
    -- the sensor is stopped wherever the reader leaves its loop
    have stopped := sound.stopped.draining ends.1
    exact sound.goto rfl sound.stopped rfl ⟨stopped, sound.knows stopped⟩
      fun panics => by cases panics
  | cleaned pc =>
    cases pc
    exact sound.goto rfl sound.stopped rfl sound.knows fun panics => by cases panics
  | stopsLast pc going =>
    cases pc
    exact absurd (going.symm.trans sound.knows.1) Bool.false_ne_true
  | lastReported pc =>
    cases pc
    exact { sound with
      knows := sound.knows
      unclosed := fun held => by cases held
      returns := fun _ panics => by cases panics }

/-! The other threads. -/

/-- Once the sensor is stopped its generator has returned, so a write finds nobody relying on an
empty ring. -/
theorem Knows.write {control : ReaderControl} {queue : RWRoundQueue (Stamped R)} {pc : ReaderPc R F}
    (knows : Knows control queue pc) (going : control.sensorStopped = false)
    (queue' : RWRoundQueue (Stamped R)) : Knows control queue' pc := by
  have unstopped : ¬control.sensorStopped = true := by rw [going]; exact Bool.false_ne_true
  cases pc with
  | refused | stopping _ | joining _ => exact knows
  | probingAfter | reporting _ | deciding _ => exact fun stopped => absurd stopped unstopped
  | leaving | lastReport | finished => exact absurd knows.1 unstopped
  | commanding | testingStop | probingBefore | reading | pushing _ _ | waiting _ _ | sleeping
  | panicked => trivial

/-- A generator that is still running shows that the sensor has not been stopped. -/
theorem Stopped.going {control : ReaderControl} {sensor : Sensor R} (stopped : Stopped control sensor)
    (running : sensor.generator ≠ .returned) :
    control.sensorStopped = false ∧ sensor.handle = true := by
  have held : sensor.handle = true := by
    by_contra released
    exact running (stopped.joined (Bool.eq_false_iff.mpr released))
  refine ⟨?_, held⟩
  by_contra halted
  have released := stopped.stopped (Bool.eq_true_of_not_eq_false halted)
  exact Bool.false_ne_true (released.symm.trans held)

/-- Nothing is known of the sensor while its generator runs, wherever that is. -/
theorem Stopped.generating {control : ReaderControl} {sensor sensor' : Sensor R}
    (stopped : Stopped control sensor) (running : sensor.generator ≠ .returned)
    (same : sensor'.handle = sensor.handle) : Stopped control sensor' := by
  obtain ⟨going, held⟩ := stopped.going running
  have unreleased : ¬sensor'.handle = false := by rw [same, held]; exact Bool.false_ne_true.symm
  have unstopped : ¬control.sensorStopped = true := by rw [going]; exact Bool.false_ne_true
  exact ⟨stopped.draining, fun halted => absurd halted unstopped,
    fun released => absurd released unreleased⟩

theorem Sound.generatorStep (sound : Sound cfg s) {reading : R}
    (step : generatorStep s reading = some t) : Sound cfg t := by
  have acts := generatorStep_acts step
  have running := acts.running
  cases acts with
  | tested | slept => exact { sound with stopped := sound.stopped.generating running rfl }
  | wrote wasFull queue pc write =>
    obtain ⟨first, unread, ring⟩ := sound.ring
    exact { sound with
      ring := ring.write write
      stopped := sound.stopped.generating running rfl
      knows := sound.knows.write (sound.stopped.going running).1 queue }

theorem Sound.step (sound : Sound cfg s) {move : Move R F} (calm : Calm s move)
    (step : step cfg s move = some t) : Sound cfg t := by
  cases move with
  | reader clock => exact sound.readerStep step
  | wake waited =>
    simp only [Threads.step] at step
    split at step
    · next reading item pc =>
      cases step
      have running := sound.unclosed (by rw [pc]; rfl)
      exact sound.pushed (by rw [pc]; rfl) running sound.fits
    · cases step
  | generator reading => exact sound.generatorStep step
  | command mode =>
    cases step
    exact sound.told s.stop _
  | setStop value =>
    cases step
    exact sound.told value s.commands
  | call call =>
    cases step
    exact { sound with
      unclosed := by
        intro live
        have other : call ≠ .shutdown := by
          rintro rfl
          exact Bool.false_ne_true (live.symm.trans calm)
        rw [← sound.unclosed live]
        exact enter_isShutdown cfg.manager s.buffer other
      fits := (enter_effect cfg.manager s.buffer call).fits sound.fits }
  | resume waited timedOut wait =>
    cases step
    exact { sound with
      unclosed := by
        intro live
        rw [← sound.unclosed live]
        exact resume_isShutdown cfg.manager s.buffer waited timedOut wait
      fits := (resume_effect cfg.manager s.buffer waited timedOut wait).fits sound.fits }

theorem reachable_sound [Inhabited R] {now : SystemTime}
    (reach : (reader cfg now).ReachableUnder Calm s) : Sound cfg s :=
  reach.invariant (Sound cfg) (sound_start now) (fun _ _ _ _ sound calm step => sound.step calm step)

theorem Sound.lossless (sound : Sound cfg s) : Lossless cfg s := by
  obtain ⟨first, unread, ring⟩ := sound.ring
  have knows (exited : s.reader = .finished) :
      s.control.sensorStopped = true ∧ s.sensor.queue.isEmpty = true := by
    have knows := sound.knows
    rw [exited] at knows
    exact knows
  have handedOn (exited : s.reader = .finished) : s.taken = s.pushed.map Prod.fst := by
    have hand := sound.hand
    simpa [exited, inHand] using hand
  exact {
    inOrder := sound.hand
    values := fun entry member => sound.envelopes entry (List.mem_append_left _ member)
    distinct := by rw [ring.numbered]; exact List.nodup_range'
    oldestFirst := ring.inOrder.trans (List.take_sublist first s.written)
    stopped := fun exited => sound.stopped.joined (sound.stopped.stopped (knows exited).1)
    drained := fun exited => (knows exited).2
    handedOn := handedOn
    everything := by
      intro exited
      rw [← handedOn exited]
      exact ring.drained (knows exited).2
    returns := by
      intro limit ended
      have unpanicked := sound.returns limit
      cases pc : s.reader <;> simp_all [isOver] }

/-- No reading is lost when a reader drains. -/
theorem drain_loses_nothing [Inhabited R] (cfg : ReaderConfig R F) (now : SystemTime)
    (reach : (reader cfg now).ReachableUnder Calm s) : Lossless cfg s :=
  (reachable_sound reach).lossless

def thermometer : ReaderConfig Nat Int where
  sid := "thermo-1"
  valueFn := Int.ofNat
  governorCfg := .default
  manager := ⟨4, Nat.succ_pos 3⟩

/-- A command finds one reading in the ring; the generator returns while `sensor.stop()` waits. -/
def commanded : List (Move Nat Int) :=
  [.generator 21, .generator 21, .command .shutdownDrain, .reader ⟨0, 0⟩, .reader ⟨0, 0⟩,
    .generator 0, .generator 0] ++ List.replicate 12 (.reader ⟨0, 0⟩)

theorem drain_loses_nothing_commanded :
    ∃ s : State Nat Int, isOver s.reader = true ∧
      s.pushed = [((1, 21), ⟨"thermo-1", 0, 21⟩)] ∧ Lossless thermometer s := by
  refine ⟨(((reader thermometer 0).guarded Calm).run commanded).get (by decide +kernel),
    by decide +kernel, by decide +kernel, ?_⟩
  exact drain_loses_nothing thermometer 0
    (System.reachableUnder_of_guarded (System.reachable_of_run (Option.some_get _).symm))

end SensorGateway.Reader.Drain

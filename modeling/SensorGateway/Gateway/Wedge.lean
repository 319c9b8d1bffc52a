import SensorGateway.Gateway.Lifecycle

/-! The gateway's shutdown. `main` joins the readers before it shuts the buffer down, so a reader that
waits inside `push` depends on the dispatcher. It is lost if the dispatcher has failed. -/

namespace SensorGateway.Gateway.Wedge
open SensorGateway.Lib.Transition Buffer.Manager Threads Steps Sections Lifecycle
open Buffer.Threads (Thread leave exitThread criticalSection moveThread moveThread_self)
variable {T : Type} (cfg : GatewayConfig)

def Full (s : State cfg.readers T) : Prop := cfg.buffer.capacity ≤ s.buffer.inner.q.length

instance (s : State cfg.readers T) : Decidable (Full cfg s) :=
  inferInstanceAs (Decidable (cfg.buffer.capacity ≤ s.buffer.inner.q.length))

/-- `main` joins a reader that waits inside `push` on a full buffer that is not shut down, and that
nobody can ever pop from or shut down. -/
def Wedged (s : State cfg.readers T) : Prop :=
  ∃ r rest item, s.main = .joinReaders (r :: rest) ∧
    s.buffer.thread (.reader r) = .waiting (.push item) ∧ Full cfg s ∧ shut s = false ∧
    ∀ t, (gateway cfg).Reaches s t → t.buffer.popped = s.buffer.popped ∧ shut t = false

def isWaiting (thread : Thread T) : Bool :=
  match thread with
  | .waiting _ => true
  | _ => false

/-- The one call in which a reader waits is `push`. -/
def waitsInPush {readers : Nat} (s : State readers T) (r : Fin readers) : Bool :=
  isWaiting (s.buffer.thread (.reader r))

/-- The dispatcher's next step is a failure. -/
def fails {readers : Nat} (s : State readers T) (go : Bool) : Bool :=
  match s.dispatcher with
  | .route => !go
  | .emit _ => !go
  | .sendFrame _ => decide (s.consumer = .done)
  | _ => false

/-- The consumer is about to shut the buffer down. -/
def closing : Consumer → Bool
  | .failed => true
  | .shutdownBuffer => true
  | _ => false

/-- Somebody looks after a reader that waits inside `push`. -/
def Helped {readers : Nat} (s : State readers T) : Prop :=
  inLoop s.dispatcher = true ∨ closing s.consumer = true

/-- Until the buffer is or is about to be shut down, the dispatcher does not fail while a reader waits
inside `push`, and no push meets a full buffer once the dispatcher has left its loop. -/
def Attended (s : State cfg.readers T) : Action cfg.readers T → Prop
  | .call (.reader _) => Full cfg s → shut s = false → Helped s
  | .wake (.reader _) _ => Full cfg s → shut s = false → Helped s
  | .dispatcher go => fails s go = true → shut s = false → closing s.consumer = false →
      ∀ r, waitsInPush s r = false
  | _ => True

instance {readers : Nat} (s : State readers T) : Decidable (Helped s) :=
  inferInstanceAs (Decidable (_ ∨ _))

instance (s : State cfg.readers T) (action : Action cfg.readers T) : Decidable (Attended cfg s action) := by
  unfold Attended
  split <;> infer_instance

section Watched
variable {cfg} {s next : State cfg.readers T} {action : Action cfg.readers T}

/-- Whoever waits inside `push` on an open buffer is looked after. -/
def Watched (s : State cfg.readers T) : Prop :=
  ∀ r, waitsInPush s r = true → shut s = false → Helped s

theorem isWaiting_of_stirs {before after : Thread T} (stirs : Stirs before after)
    (waits : isWaiting after = true) : isWaiting before = true := by
  cases stirs with
  | same => exact waits
  | woken | notified => cases waits

/-- A section that leaves the buffer open is nobody's but a reader's or the dispatcher's. -/
theorem helped_ran {t : Party cfg.readers} {exit : Exit T} {inner : Inner T} (ran : Ran s t exit inner)
    (isOpen : shut (lockStep s t exit inner) = false) (helped : Helped s) :
    Helped (lockStep s t exit inner) := by
  have consumer : (lockStep s t exit inner).consumer = s.consumer := by
    apply lockStep_consumer
    intro own
    subst own
    rw [shut_lockStep] at isOpen
    cases ran
    cases isOpen
  rw [Helped, Ran.inLoop ran, consumer]
  exact helped

theorem watched_ran (watched : Watched s) {t : Party cfg.readers} {exit : Exit T} {inner : Inner T}
    (ran : Ran s t exit inner)
    (attended : ∀ r, t = .reader r → Full cfg s → shut s = false → Helped s) :
    Watched (lockStep s t exit inner) := by
  intro r waits isOpen
  apply helped_ran ran isOpen
  obtain ⟨own, others⟩ := lockStep_thread s t exit inner
  by_cases same : Party.reader r = t
  · subst same
    cases ran with
    | blocked r item inner at_pc full before core => exact attended r rfl full before
    | pushed r item exit inner result at_pc through ends same =>
      rw [waitsInPush, own] at waits
      obtain rfl | ⟨condvar, rfl⟩ := ends <;> cases waits
    | closed t at_pc => simp at at_pc
  · have before : shut s = false := by
      by_contra closed
      rw [shut_lockStep, Ran.keeps_shut ran (by simpa using closed)] at isOpen
      cases isOpen
    exact watched r (isWaiting_of_stirs (others _ same) waits) before

/-- On an open buffer the dispatcher leaves its loop only by a failure. -/
theorem turn_stays (sound : Sound s) {go : Bool} (turn : Turn cfg s go next) (isOpen : shut s = false)
    (inside : inLoop s.dispatcher = true) (works : fails s go = false) :
    inLoop next.dispatcher = true := by
  have seen := sound.seen
  have flag : s.engineShutdown = false := by
    by_contra set
    obtain closed | out := sound.flag (by simpa using set)
    · rw [isOpen] at closed
      cases closed
    · rw [inside] at out
      cases out
  cases turn with
  | exitShut go at_pc | exitLen go at_pc =>
    rw [Seen, at_pc] at seen
    rw [flag] at seen
    cases seen
  | drained go at_pc =>
    rw [Seen, at_pc] at seen
    rw [isOpen] at seen
    cases seen
  | sentFinal go at_pc room =>
    rw [Seen, at_pc] at seen
    rw [isOpen] at seen
    cases seen
  | routeFailed at_pc | emitFailed final at_pc =>
    rw [fails, at_pc] at works
    cases works
  | sendFailed go final at_pc closed =>
    rw [fails, at_pc] at works
    simp [closed] at works
  | failed go at_pc =>
    rw [at_pc] at inside
    cases inside
  | exitFlag | drainedShut =>
    dsimp only
    split <;> rfl
  | expiry =>
    dsimp only
    split <;> rfl
  | _ => rfl

/-- The consumer and `main` on their own, when the consumer keeps to what it is about to do. -/
theorem Watched.apart (watched : Watched s) (consumer : Consumer) (frames idleRounds : Nat)
    (stop engineShutdown : Bool) (main : Main cfg.readers)
    (keeps : closing s.consumer = true → closing consumer = true) :
    Watched { s with
      consumer := consumer, frames := frames, idleRounds := idleRounds, stop := stop
      engineShutdown := engineShutdown, main := main } :=
  fun r waits isOpen => (watched r waits isOpen).imp_right keeps

theorem watched_step (sound : Sound s) (watched : Watched s) (attended : Attended cfg s action)
    (moved : Moves cfg s action next) : Watched next := by
  cases moved with
  | call t c calls before =>
    apply watched_ran watched (ran_call calls)
    rintro r rfl
    exact attended
  | wake t waited w timedOut before =>
    apply watched_ran watched (ran_wake (sound.fits t w (Or.inr ⟨timedOut, before⟩)) waited timedOut)
    rintro r rfl
    exact attended
  | stirred action thread stirs =>
    intro r waits
    exact watched r (isWaiting_of_stirs (stirs _) waits)
  | dispatcher go next outside turn =>
    obtain ⟨buffer, _, consumer, _⟩ := turn_frame turn
    intro r waits isOpen
    rw [waitsInPush, buffer] at waits
    rw [shut, buffer] at isOpen
    rw [Helped, consumer]
    by_cases about : closing s.consumer = true
    · exact Or.inr about
    · left
      have inside := (watched r waits isOpen).resolve_right about
      have works : fails s go = false := by
        by_contra failing
        have nobody := attended (by simpa using failing) isOpen (by simpa using about) r
        rw [waitsInPush, waits] at nobody
        cases nobody
      exact turn_stays sound turn isOpen inside works
  | received go at_pc | idle go at_pc | persisted go at_pc | checkedStop go at_pc
  | checkedShut go at_pc | checkedOpen go at_pc | flagged go at_pc | joinedEngine go at_pc =>
    apply watched.apart
    rw [at_pc]
    intro about
    cases about
  | unpersisted go at_pc => exact watched.apart _ _ _ _ _ _ (fun _ => rfl)
  | _ => exact watched

end Watched

section Served
variable {cfg} {s t : State cfg.readers T}

/-- Some run from here pops a reading or shuts the buffer down. -/
def Served (s : State cfg.readers T) : Prop :=
  ∃ t, (gateway cfg).Reaches s t ∧ (t.buffer.popped ≠ s.buffer.popped ∨ shut t = true)

theorem Served.back {action : Action cfg.readers T} (later : Served t)
    (moved : (gateway cfg).step s action = some t) (same : t.buffer.popped = s.buffer.popped) :
    Served s := by
  obtain ⟨u, reach, served⟩ := later
  exact ⟨u, (System.Reaches.single moved).trans reach, same ▸ served⟩

/-- A working dispatcher outside the buffer, which is open and holds something to pop. -/
structure Stocked (s : State cfg.readers T) : Prop where
  sound : Sound s
  isOpen : shut s = false
  stocked : s.buffer.inner.q ≠ []
  outside : s.buffer.thread .dispatcher = .outside
  unflagged : s.engineShutdown = false

/-- A step of the dispatcher or the consumer outside the buffer. -/
theorem Stocked.step (stocked : Stocked s) {action : Action cfg.readers T}
    (moved : (gateway cfg).step s action = some t) (buffer : t.buffer = s.buffer)
    (flag : t.engineShutdown = s.engineShutdown) : Stocked t where
  sound := sound_step stocked.sound (step_moves moved)
  isOpen := by rw [shut, buffer]; exact stocked.isOpen
  stocked := by rw [buffer]; exact stocked.stocked
  outside := by rw [buffer]; exact stocked.outside
  unflagged := flag.trans stocked.unflagged

theorem Stocked.free (stocked : Stocked s) : Threads.free s .dispatcher = true := by
  rw [Threads.free, stocked.outside]

theorem served_pop (stocked : Stocked s) (at_pc : s.dispatcher = .pop) : Served s := by
  obtain ⟨item, rest, queue⟩ := List.exists_cons_of_ne_nil stocked.stocked
  have moved : (gateway cfg).step s (.call .dispatcher) = some
      (lockStep s .dispatcher
        (SensorBufferManager.popTimeout cfg.sourcePopTimeout s.buffer.inner).1
        (SensorBufferManager.popTimeout cfg.sourcePopTimeout s.buffer.inner).2) := by
    simp [gateway, step, nextCall, at_pc, criticalSection, stocked.outside,
      SensorBufferManager.enter]
  refine ⟨_, System.Reaches.single moved, Or.inl ?_⟩
  rw [lockStep_buffer]
  simp [leave, SensorBufferManager.popTimeout, Inner.popFront, queue, Buffer.Threads.exitPopped,
    Exit.result?, Done.popped]

theorem served_drainedShut (stocked : Stocked s) (at_pc : s.dispatcher = .drainedShut) : Served s := by
  have moved : (gateway cfg).step s (.dispatcher true) = some { s with dispatcher := .pop } := by
    have isOpen : s.buffer.inner.isShutdown = false := stocked.isOpen
    simp [gateway, step, stocked.free, dispatcherStep, at_pc, isOpen]
  exact (served_pop (stocked.step moved rfl rfl) rfl).back moved rfl

theorem served_exitFlag (stocked : Stocked s) (at_pc : s.dispatcher = .exitFlag) : Served s := by
  have moved : (gateway cfg).step s (.dispatcher true) =
      some { s with dispatcher := .drainedShut } := by
    simp [gateway, step, stocked.free, dispatcherStep, at_pc, stocked.unflagged]
  exact (served_drainedShut (stocked.step moved rfl rfl) rfl).back moved rfl

theorem served_expiry (stocked : Stocked s) (at_pc : s.dispatcher = .expiry) : Served s := by
  have moved : (gateway cfg).step s (.dispatcher false) = some { s with dispatcher := .exitFlag } := by
    simp [gateway, step, stocked.free, dispatcherStep, at_pc]
  exact (served_exitFlag (stocked.step moved rfl rfl) rfl).back moved rfl

theorem served_route (stocked : Stocked s) (at_pc : s.dispatcher = .route) : Served s := by
  have moved : (gateway cfg).step s (.dispatcher true) =
      some { s with dispatcher := .expiry, sawData := true } := by
    simp [gateway, step, stocked.free, dispatcherStep, at_pc]
  exact (served_expiry (stocked.step moved rfl rfl) rfl).back moved rfl

/-- There is room on the output channel. -/
theorem served_sendRoom (stocked : Stocked s) (at_pc : s.dispatcher = .sendFrame false)
    (room : s.frames < cfg.outputCapacity) (active : s.consumer ≠ .done) : Served s := by
  have moved : (gateway cfg).step s (.dispatcher true) =
      some { s with dispatcher := .exitFlag, frames := s.frames + 1, sawData := false } := by
    simp [gateway, step, stocked.free, dispatcherStep, at_pc, room, active]
  exact (served_exitFlag (stocked.step moved rfl rfl) rfl).back moved rfl

theorem Stocked.consumer_free (stocked : Stocked s) : Threads.free s .consumer = true := by
  rw [Threads.free, stocked.sound.bystander .consumer (Or.inl rfl)]

theorem served_receive (stocked : Stocked s) (at_pc : s.dispatcher = .sendFrame false)
    (consumer : s.consumer = .receive) : Served s := by
  by_cases room : s.frames < cfg.outputCapacity
  · exact served_sendRoom stocked at_pc room (by simp [consumer])
  · have positive := cfg.outputPositive
    have some : 0 < s.frames := by omega
    have moved : (gateway cfg).step s (.consumer true) =
        .some { s with consumer := .persist, frames := s.frames - 1, idleRounds := 0 } := by
      simp [gateway, step, stocked.consumer_free, consumerStep, consumer, some]
    have fewer : s.frames - 1 < cfg.outputCapacity := by
      have fit := stocked.sound.fit
      omega
    exact (served_sendRoom (stocked.step moved rfl rfl) at_pc fewer (by simp)).back moved rfl

theorem served_shutdownBuffer (sound : Sound s) (consumer : s.consumer = .shutdownBuffer) :
    Served s := by
  have outside := sound.bystander .consumer (Or.inl rfl)
  have moved : (gateway cfg).step s (.call .consumer) = some
      (lockStep s .consumer (SensorBufferManager.shutdown s.buffer.inner).1
        (SensorBufferManager.shutdown s.buffer.inner).2) := by
    simp [gateway, step, nextCall, consumer, criticalSection, outside, SensorBufferManager.enter]
  refine ⟨_, System.Reaches.single moved, Or.inr ?_⟩
  rw [shut_lockStep]
  rfl

/-- Nothing keeps the consumer from shutting the buffer down. -/
theorem served_closing (sound : Sound s) (about : closing s.consumer = true) : Served s := by
  cases consumer : s.consumer with
  | failed =>
    have free : free s .consumer = true := by rw [free, sound.bystander .consumer (Or.inl rfl)]
    have moved : (gateway cfg).step s (.consumer true) =
        some { s with consumer := .shutdownBuffer, stop := true } := by
      simp [gateway, step, free, consumerStep, consumer]
    exact (served_shutdownBuffer (sound_step sound (step_moves moved)) rfl).back moved rfl
  | shutdownBuffer => exact served_shutdownBuffer sound consumer
  | _ =>
    rw [consumer] at about
    cases about

theorem served_checkShut (stocked : Stocked s) (at_pc : s.dispatcher = .sendFrame false)
    (consumer : s.consumer = .checkShut) : Served s := by
  have isOpen : s.buffer.inner.isShutdown = false := stocked.isOpen
  have moved : (gateway cfg).step s (.consumer true) = some { s with consumer := .receive } := by
    simp [gateway, step, stocked.consumer_free, consumerStep, consumer, isOpen]
  exact (served_receive (stocked.step moved rfl rfl) at_pc rfl).back moved rfl

/-- The consumer comes round to the output channel, or shuts the buffer down. -/
theorem served_send (stocked : Stocked s) (at_pc : s.dispatcher = .sendFrame false) : Served s := by
  have free := stocked.consumer_free
  have gone : left s.consumer = true → Served s := by
    intro gone
    have closed := stocked.sound.left gone
    rw [stocked.isOpen] at closed
    cases closed
  cases consumer : s.consumer with
  | receive => exact served_receive stocked at_pc consumer
  | persist =>
    have moved : (gateway cfg).step s (.consumer true) = some { s with consumer := .receive } := by
      simp [gateway, step, free, consumerStep, consumer]
    exact (served_receive (stocked.step moved rfl rfl) at_pc rfl).back moved rfl
  | failed | shutdownBuffer => exact served_closing stocked.sound (by rw [consumer]; rfl)
  | checkStop =>
    cases stop : s.stop with
    | true =>
      have moved : (gateway cfg).step s (.consumer true) =
          some { s with consumer := .checkShut } := by
        simp [gateway, step, free, consumerStep, consumer, stop]
      exact (served_checkShut (stocked.step moved rfl rfl) at_pc rfl).back moved rfl
    | false =>
      have moved : (gateway cfg).step s (.consumer true) = some { s with consumer := .receive } := by
        simp [gateway, step, free, consumerStep, consumer, stop]
      exact (served_receive (stocked.step moved rfl rfl) at_pc rfl).back moved rfl
  | checkShut => exact served_checkShut stocked at_pc consumer
  | shutdownEngine | joinEngine | done => exact gone (by rw [consumer]; rfl)

/-- A dispatcher outside the buffer gets round to its pop. -/
theorem served_outside (stocked : Stocked s) (inside : inLoop s.dispatcher = true) : Served s := by
  have seen := stocked.sound.seen
  have flag := stocked.unflagged
  have isOpen := stocked.isOpen
  unfold Seen at seen
  cases at_pc : s.dispatcher with
  | exitFlag => exact served_exitFlag stocked at_pc
  | drainedShut => exact served_drainedShut stocked at_pc
  | pop => exact served_pop stocked at_pc
  | route => exact served_route stocked at_pc
  | expiry => exact served_expiry stocked at_pc
  | emit final =>
    cases final with
    | true => simp [at_pc, isOpen] at seen
    | false =>
      have moved : (gateway cfg).step s (.dispatcher true) =
          some { s with dispatcher := .sendFrame false } := by
        simp [gateway, step, stocked.free, dispatcherStep, at_pc]
      exact (served_send (stocked.step moved rfl rfl) rfl).back moved rfl
  | sendFrame final =>
    cases final with
    | true => simp [at_pc, isOpen] at seen
    | false => exact served_send stocked at_pc
  | exitShut | exitLen => simp [at_pc, flag] at seen
  | drainedLen => simp [at_pc, isOpen] at seen
  | fail | ended => simp [at_pc, inLoop] at inside

theorem unflagged_of_inLoop (sound : Sound s) (isOpen : shut s = false)
    (inside : inLoop s.dispatcher = true) : s.engineShutdown = false := by
  by_contra set
  have closed := sound.flag (by simpa using set)
  simp [isOpen, inside] at closed

/-- The dispatcher's wait has ended. If it has timed out, its pop returns nothing and it comes back. -/
theorem served_ready (sound : Sound s) (isOpen : shut s = false) (nonempty : s.buffer.inner.q ≠ [])
    {w : Wait T} {timedOut : Bool} (thread : s.buffer.thread .dispatcher = .ready w timedOut) :
    Served s := by
  have fit := sound.fits .dispatcher w (Or.inr ⟨timedOut, thread⟩)
  have moved : (gateway cfg).step s (.wake .dispatcher 0) = some
      (lockStep s .dispatcher (cfg.buffer.resume s.buffer.inner 0 timedOut w).1
        (cfg.buffer.resume s.buffer.inner 0 timedOut w).2) := by
    simp [gateway, step, criticalSection, thread]
  have soundNext := sound_step sound (step_moves moved)
  cases w with
  | push | popBlocking => exact fit.elim
  | popTimeout remaining =>
    have at_pc : s.dispatcher = .pop := fit
    have unflagged := unflagged_of_inLoop sound isOpen (by rw [at_pc]; rfl)
    cases timedOut with
    | true =>
      have stocked : Stocked (lockStep s .dispatcher
          (cfg.buffer.resume s.buffer.inner 0 true (.popTimeout remaining)).1
          (cfg.buffer.resume s.buffer.inner 0 true (.popTimeout remaining)).2) :=
        ⟨soundNext, isOpen, nonempty, (lockStep_thread ..).1, unflagged⟩
      apply (served_expiry stocked rfl).back moved
      exact List.append_nil _
    | false =>
      obtain ⟨item, rest, queue⟩ := List.exists_cons_of_ne_nil nonempty
      refine ⟨_, System.Reaches.single moved, Or.inl ?_⟩
      rw [lockStep_buffer]
      simp [leave, SensorBufferManager.resume, SensorBufferManager.popTimeout, Inner.popFront, queue,
        Buffer.Threads.exitPopped, Exit.result?, Done.popped]

theorem served_waiting (sound : Sound s) (isOpen : shut s = false) (nonempty : s.buffer.inner.q ≠ [])
    {w : Wait T} (thread : s.buffer.thread .dispatcher = .waiting w) : Served s := by
  have moved : (gateway cfg).step s (.spurious .dispatcher) =
      some { s with buffer := moveThread s.buffer .dispatcher (.ready w false) } := by
    simp [gateway, step, bufferStep, Buffer.Threads.threads, Buffer.Threads.step, thread]
  have soundNext := sound_step sound (step_moves moved)
  exact (served_ready soundNext isOpen nonempty (moveThread_self ..)).back moved rfl

/-- The dispatcher owes a notification, which reaches somebody or nobody. -/
theorem served_notifying (sound : Sound s) (isOpen : shut s = false)
    (nonempty : s.buffer.inner.q ≠ []) (inside : inLoop s.dispatcher = true) {condvar : Condvar}
    {d : Done T} (thread : s.buffer.thread .dispatcher = .notifying condvar d) : Served s := by
  have unflagged := unflagged_of_inLoop sound isOpen inside
  obtain ⟨woken, buffer, moved, inner, popped, outside⟩ := exists_notify thread
  have stocked : Stocked { s with buffer := buffer } :=
    ⟨sound_step sound (step_moves moved), by rw [← isOpen, shut, shut, inner],
      by dsimp only; rwa [inner], outside, unflagged⟩
  exact (served_outside stocked inside).back moved popped

/-- A dispatcher in its loop can always get at a reading, or see the buffer shut down. -/
theorem served_of_inLoop (sound : Sound s) (isOpen : shut s = false) (nonempty : s.buffer.inner.q ≠ [])
    (inside : inLoop s.dispatcher = true) : Served s := by
  cases thread : s.buffer.thread .dispatcher with
  | outside =>
    have unflagged := unflagged_of_inLoop sound isOpen inside
    exact served_outside ⟨sound, isOpen, nonempty, thread, unflagged⟩ inside
  | waiting w => exact served_waiting sound isOpen nonempty thread
  | ready w timedOut => exact served_ready sound isOpen nonempty thread
  | notifying condvar d => exact served_notifying sound isOpen nonempty inside thread

end Served

/-- **The gateway never wedges**, as long as the dispatcher does not fail on a reader that waits inside
`push` and no push meets a full buffer after the dispatcher has left its loop, unless the consumer is
about to shut the buffer down. -/
theorem never_wedged {s : State cfg.readers T}
    (reach : (gateway cfg).ReachableUnder (Attended cfg) s) : ¬Wedged cfg s := by
  intro wedged
  obtain ⟨r, rest, item, joining, waiting, full, isOpen, forever⟩ := wedged
  have sound := sound_reachable reach.reaches
  have watched : Watched s := by
    apply System.ReachesUnder.invariant reach Watched
    · intro r waits
      cases waits
    · exact fun u action v before watched attended moved =>
        watched_step (sound_reachable before.reaches) watched attended (step_moves moved)
  have nonempty : s.buffer.inner.q ≠ [] := by
    intro empty
    have positive := cfg.buffer.positive
    rw [Full, empty, List.length_nil] at full
    omega
  have served : Served s := by
    obtain inside | about := watched r (by rw [waitsInPush, waiting]; rfl) isOpen
    · exact served_of_inLoop sound isOpen nonempty inside
    · exact served_closing sound about
  obtain ⟨t, later, popped | closed⟩ := served
  · exact popped (forever t later).1
  · rw [(forever t later).2] at closed
    cases closed

section Abandoned
variable {cfg} {s next : State cfg.readers T} {action : Action cfg.readers T}

/-- The dispatcher has gone, every frame has been received, and `main` joins a reader inside `push` on
a full buffer. -/
structure Abandoned (r : Fin cfg.readers) (rest : List (Fin cfg.readers)) (item : T)
    (s : State cfg.readers T) : Prop where
  joining : s.main = .joinReaders (r :: rest)
  inside : Inside (s.buffer.thread (.reader r)) (.push item)
  full : Full cfg s
  isOpen : shut s = false
  ended : s.dispatcher = .ended
  unread : s.frames = 0
  looking : s.consumer = .receive ∨ s.consumer = .checkStop ∨ s.consumer = .checkShut

variable {r : Fin cfg.readers} {rest : List (Fin cfg.readers)} {item : T}

/-- Only a reader can run a section, and it waits. -/
theorem abandoned_ran (sound : Sound s) (abandoned : Abandoned r rest item s)
    {t : Party cfg.readers} {exit : Exit T} {inner : Inner T} (ran : Ran s t exit inner) :
    Abandoned r rest item (lockStep s t exit inner) ∧
      (lockStep s t exit inner).buffer.popped = s.buffer.popped := by
  have own_pc := sound.fits _ _ abandoned.inside
  obtain ⟨own, others⟩ := lockStep_thread s t exit inner
  cases ran with
  | blocked r' item' inner at_pc full isOpen core =>
    have queue : inner.q = s.buffer.inner.q := congrArg Core.q core
    have flag : inner.isShutdown = s.buffer.inner.isShutdown := congrArg Core.isShutdown core
    refine ⟨⟨abandoned.joining, ?_, ?_, flag.trans abandoned.isOpen, abandoned.ended,
      abandoned.unread, abandoned.looking⟩, List.append_nil _⟩
    · by_cases same : r = r'
      · subst same
        have equal : ReaderPc.push item = .push item' := Eq.trans (Eq.symm own_pc) at_pc
        cases equal
        rw [own]
        exact Or.inl rfl
      · exact ((others (.reader r) (by simpa using same)).inside_iff _).mpr abandoned.inside
    · show cfg.buffer.capacity ≤ inner.q.length
      rw [queue]
      exact full
  | pushed r' item' exit inner result at_pc through ends same =>
    exact absurd ⟨abandoned.full, abandoned.isOpen⟩ through
  | starved remaining inner at_pc | popped exit inner result at_pc =>
    rw [abandoned.ended] at at_pc
    cases at_pc
  | closed t at_pc =>
    obtain ⟨_, consumer⟩ | ⟨_, main⟩ := at_pc
    · have looking := abandoned.looking
      simp [consumer] at looking
    · rw [abandoned.joining] at main
      cases main

theorem abandoned_step (sound : Sound s) (abandoned : Abandoned r rest item s)
    (moved : Moves cfg s action next) :
    Abandoned r rest item next ∧ next.buffer.popped = s.buffer.popped := by
  obtain ⟨joining, inside, full, isOpen, ended, unread, looking⟩ := abandoned
  have abandoned : Abandoned r rest item s :=
    ⟨joining, inside, full, isOpen, ended, unread, looking⟩
  have own_pc : (s.reader r).pc = .push item := sound.fits _ _ inside
  cases moved with
  | call t c calls before => exact abandoned_ran sound abandoned (ran_call calls)
  | wake t waited w timedOut before =>
    exact abandoned_ran sound abandoned
      (ran_wake (sound.fits t w (Or.inr ⟨timedOut, before⟩)) waited timedOut)
  | stirred action thread stirs =>
    exact ⟨⟨joining, ((stirs _).inside_iff _).mpr inside, full, isOpen, ended, unread, looking⟩, rfl⟩
  | reader | scheduler => exact ⟨⟨joining, inside, full, isOpen, ended, unread, looking⟩, rfl⟩
  | dispatcher go next outside turn =>
    cases turn <;> simp_all
  | received go at_pc some => omega
  | idle go at_pc none =>
    exact ⟨⟨joining, inside, full, isOpen, ended, unread, Or.inr (Or.inl rfl)⟩, rfl⟩
  | checkedStop go at_pc =>
    refine ⟨⟨joining, inside, full, isOpen, ended, unread, ?_⟩, rfl⟩
    dsimp only
    split
    · exact Or.inr (Or.inr rfl)
    · exact Or.inl rfl
  | checkedShut go at_pc closed =>
    rw [shut, closed] at isOpen
    cases isOpen
  | checkedOpen go at_pc isOpen' =>
    exact ⟨⟨joining, inside, full, isOpen, ended, unread, Or.inl rfl⟩, rfl⟩
  | persisted go at_pc | unpersisted go at_pc | flagged go at_pc | joinedEngine go at_pc =>
    simp [at_pc] at looking
  | joinedReader r' rest' waits gone =>
    rw [joining] at waits
    cases waits
    rw [exited, own_pc] at gone
    cases gone
  | signal waits | joinedScheduler waits | joinedAll waits | joinedConsumer waits =>
    rw [joining] at waits
    cases waits

/-- Nobody comes to the rescue of an abandoned reader. -/
theorem wedged_of_abandoned (sound : Sound s) (abandoned : Abandoned r rest item s)
    (waiting : s.buffer.thread (.reader r) = .waiting (.push item)) : Wedged cfg s := by
  refine ⟨r, rest, item, abandoned.joining, waiting, abandoned.full, abandoned.isOpen, ?_⟩
  intro t later
  have held := System.Reaches.invariant later
    (fun t => Sound t ∧ Abandoned r rest item t ∧ t.buffer.popped = s.buffer.popped)
    ⟨sound, abandoned, rfl⟩ ?_
  · exact ⟨held.2.2, held.2.1.isOpen⟩
  · intro u action v held moved
    obtain ⟨sound, abandoned, popped⟩ := held
    obtain ⟨after, same⟩ := abandoned_step sound abandoned (step_moves moved)
    exact ⟨sound_step sound (step_moves moved), after, same.trans popped⟩

end Abandoned

section Runs

/-- One reader and a buffer of one slot. -/
def small : GatewayConfig := ⟨1, ⟨1, by decide⟩, 5, 1, by decide⟩

def only : Fin small.readers := ⟨0, by decide⟩

/-- The reader puts its first reading into the buffer and is about to call `push` with the second. -/
def busy : List (Action 1 Nat) :=
  [.reader 0 none false, .reader 0 none false, .reader 0 (some 7) false, .call (.reader 0),
    .notify (.reader 0) none, .reader 0 (some 8) false]

/-- The dispatcher pops a reading, routes it and begins to close the window. -/
def popped : List (Action 1 Nat) :=
  [.dispatcher true, .dispatcher true, .call .dispatcher, .notify .dispatcher none, .dispatcher true,
    .dispatcher true]

/-- A report is late, the readings pile up, and the gateway is told to stop. -/
def late : List (Action 1 Nat) :=
  busy ++ popped ++ [.dispatcher false, .dispatcher true, .call (.reader 0), .notify (.reader 0) none,
    .reader 0 (some 9) false, .call (.reader 0), .signal, .scheduler, .join]

/-- The reader waits, and the gateway is told to stop while the dispatcher is in its loop. -/
def stopped : List (Action 1 Nat) :=
  busy ++ [.call (.reader 0), .signal, .scheduler, .join]

set_option maxRecDepth 8000 in
theorem never_wedged_stopped :
    ∃ s : State small.readers Nat, (gateway small).ReachableUnder (Attended small) s ∧
      s.main = .joinReaders [only] ∧ waitsInPush s only = true ∧ Full small s ∧ ¬Wedged small s := by
  let sys := (gateway (T := Nat) small).guarded (Attended small)
  let s := (sys.run stopped).get (by decide)
  have reach : (gateway small).ReachableUnder (Attended small) s :=
    System.reachableUnder_of_guarded (System.reachable_of_run (Option.some_get _).symm)
  exact ⟨s, reach, by decide, by decide, by decide, never_wedged small reach⟩

set_option maxRecDepth 8000 in
/-- The dispatcher fails on a late report, and the shutdown that follows never ends. -/
theorem shutdown_wedges :
    ∃ s : State small.readers Nat, (gateway small).Reachable s ∧ Wedged small s := by
  let s := ((gateway (T := Nat) small).run late).get (by decide)
  have reach : (gateway small).Reachable s := System.reachable_of_run (Option.some_get _).symm
  have waiting : s.buffer.thread (.reader only) = .waiting (.push 9) := rfl
  have abandoned : Abandoned only [] 9 s :=
    ⟨by decide, Or.inl waiting, by decide, by decide, by decide, by decide, Or.inl (by decide)⟩
  exact ⟨s, reach, wedged_of_abandoned (sound_reachable reach) abandoned waiting⟩

end Runs

end SensorGateway.Gateway.Wedge

import SensorGateway.Gateway.Sections

/-! The order in which the parts of the gateway go down: until the buffer has been shut down, the
consumer stays in its loop and only a failure takes the dispatcher out of its own. -/

namespace SensorGateway.Gateway.Lifecycle
open SensorGateway.Lib.Transition Buffer.Manager Threads Steps Sections
open Buffer.Threads (Thread leave exitThread)
variable {T : Type} {cfg : GatewayConfig}

/-- The consumer has left its loop. -/
def left : Consumer → Bool
  | .shutdownEngine => true
  | .joinEngine => true
  | .done => true
  | _ => false

/-- What the dispatcher has seen where it is. -/
def Seen {readers : Nat} (s : State readers T) : Prop :=
  match s.dispatcher with
  | .exitShut => s.engineShutdown = true
  | .exitLen => s.engineShutdown = true
  | .drainedLen => shut s = true
  | .emit true => shut s = true
  | .sendFrame true => shut s = true
  | _ => True

structure Sound (s : State cfg.readers T) : Prop where
  fits : ∀ t w, Inside (s.buffer.thread t) w → fits s t w
  bystander : ∀ t, t = .consumer ∨ t = .main → s.buffer.thread t = .outside
  left : left s.consumer = true → shut s = true
  flag : s.engineShutdown = true → shut s = true ∨ inLoop s.dispatcher = false
  seen : Seen s
  fit : s.frames ≤ cfg.outputCapacity

variable {s next : State cfg.readers T} {action : Action cfg.readers T}

/-- A section never opens the buffer again. -/
theorem Ran.keeps_shut {t : Party cfg.readers} {exit : Exit T} {inner : Inner T}
    (ran : Ran s t exit inner) (closed : shut s = true) : inner.isShutdown = true := by
  cases ran with
  | blocked r item inner at_pc full isOpen core | starved remaining inner at_pc empty core =>
    exact (congrArg Core.isShutdown core).trans closed
  | pushed r item exit inner result at_pc through ends same | popped exit inner result at_pc ends same =>
    exact same.trans closed
  | closed => rfl

theorem shut_lockStep (s : State cfg.readers T) (t : Party cfg.readers) (exit : Exit T) (inner : Inner T) :
    shut (lockStep s t exit inner) = inner.isShutdown := by
  rw [shut, lockStep_buffer]
  rfl

/-- The dispatcher is back from its pop, or where it was. -/
theorem Ran.dispatcher {t : Party cfg.readers} {exit : Exit T} {inner : Inner T}
    (ran : Ran s t exit inner) :
    (lockStep s t exit inner).dispatcher = s.dispatcher ∨
      s.dispatcher = .pop ∧ ((lockStep s t exit inner).dispatcher = .route ∨
        (lockStep s t exit inner).dispatcher = .expiry) := by
  cases ran with
  | popped exit inner result at_pc ends same =>
    rw [lockStep_ends s .dispatcher ends]
    cases result with
    | none => exact Or.inr ⟨at_pc, Or.inr rfl⟩
    | some item => exact Or.inr ⟨at_pc, Or.inl rfl⟩
  | starved remaining inner at_pc empty core => exact Or.inl rfl
  | blocked r | pushed r => exact Or.inl (lockStep_dispatcher s _ _ (by simp))
  | closed t at_pc =>
    left
    apply lockStep_dispatcher
    obtain ⟨rfl, _⟩ | ⟨rfl, _⟩ := at_pc <;> simp

theorem Ran.inLoop {t : Party cfg.readers} {exit : Exit T} {inner : Inner T}
    (ran : Ran s t exit inner) :
    inLoop (lockStep s t exit inner).dispatcher = inLoop s.dispatcher := by
  obtain same | ⟨at_pc, there | there⟩ := Ran.dispatcher ran
  · rw [same]
  · rw [at_pc, there]
    rfl
  · rw [at_pc, there]
    rfl

theorem seen_of_same (seen : Seen s) (same : next.dispatcher = s.dispatcher)
    (flag : s.engineShutdown = true → next.engineShutdown = true)
    (closed : shut s = true → shut next = true) : Seen next := by
  unfold Seen at seen ⊢
  rw [same]
  split at seen <;> first | exact flag seen | exact closed seen | trivial

theorem fits_of_same {t : Party cfg.readers} {w : Wait T} (fit : fits s t w)
    (reader : ∀ r, t = .reader r → (next.reader r).pc = (s.reader r).pc)
    (dispatcher : t = .dispatcher → next.dispatcher = s.dispatcher) : fits next t w := by
  cases t with
  | reader r =>
    cases w with
    | push item => exact (reader r rfl).trans fit
    | popBlocking | popTimeout => exact fit.elim
  | dispatcher =>
    cases w with
    | popTimeout remaining => exact (dispatcher rfl).trans fit
    | push | popBlocking => exact fit.elim
  | consumer | main => exact fit.elim

theorem fits_ran (sound : Sound s) {t : Party cfg.readers} {exit : Exit T} {inner : Inner T}
    (ran : Ran s t exit inner) (u : Party cfg.readers) (w : Wait T)
    (inside : Inside ((lockStep s t exit inner).buffer.thread u) w) :
    fits (lockStep s t exit inner) u w := by
  obtain ⟨own, others⟩ := lockStep_thread s t exit inner
  by_cases same : u = t
  · subst same
    rw [own] at inside
    cases ran with
    | blocked r item inner at_pc full isOpen core =>
      obtain waiting | ⟨_, ready⟩ := inside
      · cases waiting
        exact at_pc
      · cases ready
    | starved remaining inner at_pc empty core =>
      obtain waiting | ⟨_, ready⟩ := inside
      · cases waiting
        exact at_pc
      · cases ready
    | pushed r item exit inner result at_pc through ends same => exact absurd inside (ends.not_inside w)
    | popped exit inner result at_pc ends same => exact absurd inside (ends.not_inside w)
    | closed t at_pc => simp [exitThread, Inside] at inside
  · have before := sound.fits u w (((others u same).inside_iff w).mp inside)
    apply fits_of_same before
    · intro r named
      rw [lockStep_reader s exit inner (fun equal => same (named.trans equal.symm))]
    · intro named
      rw [lockStep_dispatcher s exit inner (fun equal => same (named.trans equal.symm))]

theorem Stirs.outside {before after : Thread T} (stirs : Stirs before after)
    (outside : before = .outside) : after = .outside := by
  subst outside
  cases stirs
  rfl

theorem bystander_ran (sound : Sound s) {t : Party cfg.readers} {exit : Exit T} {inner : Inner T}
    (ran : Ran s t exit inner) (u : Party cfg.readers) (bystander : u = .consumer ∨ u = .main) :
    (lockStep s t exit inner).buffer.thread u = .outside := by
  obtain ⟨own, others⟩ := lockStep_thread s t exit inner
  by_cases same : u = t
  · subst same
    rw [own]
    cases ran with
    | closed => rfl
    | _ => simp at bystander
  · exact Stirs.outside (others u same) (sound.bystander u bystander)

theorem left_ran (sound : Sound s) {t : Party cfg.readers} {exit : Exit T} {inner : Inner T}
    (ran : Ran s t exit inner) (gone : left (lockStep s t exit inner).consumer = true) :
    shut (lockStep s t exit inner) = true := by
  rw [shut_lockStep]
  by_cases own : t = .consumer
  · subst own
    cases ran
    rfl
  · rw [lockStep_consumer s exit inner own] at gone
    exact Ran.keeps_shut ran (sound.left gone)

theorem sound_ran (sound : Sound s) {t : Party cfg.readers} {exit : Exit T} {inner : Inner T}
    (ran : Ran s t exit inner) : Sound (lockStep s t exit inner) := by
  obtain ⟨flag, frames, _⟩ := lockStep_rest s exit inner t
  have closed : shut s = true → shut (lockStep s t exit inner) = true := by
    intro before
    rw [shut_lockStep]
    exact Ran.keeps_shut ran before
  constructor
  · exact fits_ran sound ran
  · exact bystander_ran sound ran
  · exact left_ran sound ran
  · rw [flag, Ran.inLoop ran]
    intro set
    exact (sound.flag set).imp_left closed
  · obtain same | ⟨_, there | there⟩ := Ran.dispatcher ran
    · exact seen_of_same sound.seen same (fun set => flag.trans set) closed
    · unfold Seen
      rw [there]
      trivial
    · unfold Seen
      rw [there]
      trivial
  · rw [frames]
    exact sound.fit

/-- What a step of the dispatcher leaves alone, and how it can leave its loop. -/
theorem turn_frame {go : Bool} (turn : Turn cfg s go next) :
    next.buffer = s.buffer ∧ next.reader = s.reader ∧ next.consumer = s.consumer ∧
      next.main = s.main := by
  cases turn <;> exact ⟨rfl, rfl, rfl, rfl⟩

theorem flag_turn (sound : Sound s) {go : Bool} (turn : Turn cfg s go next)
    (set : next.engineShutdown = true) : shut s = true ∨ inLoop next.dispatcher = false := by
  cases turn with
  | failed go at_pc => exact Or.inr rfl
  | routeFailed | emitFailed | sendFailed | sentFinal => exact Or.inr rfl
  | exitFlag go at_pc | exitShut go at_pc | exitLen go at_pc | drainedShut go at_pc | drained go at_pc
  | undrained go at_pc | routed at_pc | expiry go at_pc | collected final at_pc | sent go at_pc =>
    have before := sound.flag set
    rw [at_pc] at before
    exact Or.inl (before.resolve_right (by simp [inLoop]))

/-- A branch of the dispatcher is seen with what it has tested. -/
theorem seen_ite {readers : Nat} {s : State readers T} {test : Prop} [Decidable test]
    {yes no : Dispatcher} (passed : test → Seen { s with dispatcher := yes })
    (missed : ¬test → Seen { s with dispatcher := no }) :
    Seen { s with dispatcher := if test then yes else no } :=
  iteInduction (motive := fun pc => Seen { s with dispatcher := pc }) passed missed

theorem seen_turn (seen : Seen s) {go : Bool} (turn : Turn cfg s go next) : Seen next := by
  cases turn with
  | exitFlag go at_pc => exact seen_ite (fun set => set) (fun _ => trivial)
  | exitShut go at_pc =>
    rw [Seen, at_pc] at seen
    exact seen_ite (fun _ => seen) (fun _ => trivial)
  | exitLen go at_pc => exact seen_ite (fun _ => trivial) (fun _ => trivial)
  | drainedShut go at_pc => exact seen_ite (fun closed => closed) (fun _ => trivial)
  | drained go at_pc =>
    rw [Seen, at_pc] at seen
    exact seen_ite (fun _ => seen) (fun _ => trivial)
  | collected final at_pc =>
    rw [Seen, at_pc] at seen
    cases final with
    | true => exact seen
    | false => trivial
  | expiry go at_pc => exact seen_ite (fun _ => trivial) (fun _ => trivial)
  | _ => trivial

theorem sound_turn (sound : Sound s) (outside : s.buffer.thread .dispatcher = .outside) {go : Bool}
    (turn : Turn cfg s go next) : Sound next := by
  obtain ⟨buffer, reader, consumer, _⟩ := turn_frame turn
  have same : shut next = shut s := by rw [shut, buffer, shut]
  constructor
  · intro t w inside
    rw [buffer] at inside
    apply fits_of_same (sound.fits t w inside)
    · intro r _
      rw [reader]
    · rintro rfl
      rw [outside] at inside
      simp [Inside] at inside
  · rw [buffer]
    exact sound.bystander
  · rw [consumer, same]
    exact sound.left
  · rw [same]
    exact flag_turn sound turn
  · exact seen_turn sound.seen turn
  · cases turn with
    | sentFinal go at_pc room | sent go at_pc room => exact room
    | _ => exact sound.fit

/-- The consumer and `main` on their own, up to the consumer's way out of its loop. -/
theorem Sound.apart (sound : Sound s) (consumer : Consumer) (frames idleRounds : Nat) (stop : Bool)
    (main : Main cfg.readers) (gone : Lifecycle.left consumer = true → shut s = true)
    (fit : frames ≤ cfg.outputCapacity) :
    Sound { s with
      consumer := consumer, frames := frames, idleRounds := idleRounds, stop := stop, main := main } :=
  ⟨fun t w inside => fits_of_same (sound.fits t w inside) (fun _ _ => rfl) (fun _ => rfl),
    sound.bystander, gone, sound.flag, sound.seen, fit⟩

theorem sound_step (sound : Sound s) (moved : Moves cfg s action next) : Sound next := by
  cases moved with
  | call t c calls before => exact sound_ran sound (ran_call calls)
  | wake t waited w timedOut before =>
    exact sound_ran sound (ran_wake (sound.fits t w (Or.inr ⟨timedOut, before⟩)) waited timedOut)
  | stirred action thread stirs =>
    refine ⟨?_, ?_, sound.left, sound.flag, sound.seen, sound.fit⟩
    · intro t w inside
      exact sound.fits t w (((stirs t).inside_iff w).mp inside)
    · exact fun t bystander => Stirs.outside (stirs t) (sound.bystander t bystander)
  | reader r item leave reader stop outside before =>
    refine ⟨?_, sound.bystander, sound.left, sound.flag, sound.seen, sound.fit⟩
    intro t w inside
    refine fits_of_same (sound.fits t w inside) ?_ (fun _ => rfl)
    rintro r' rfl
    by_cases same : r' = r
    · subst same
      change Inside (s.buffer.thread (.reader r')) w at inside
      rw [outside] at inside
      simp [Inside] at inside
    · exact congrArg Reader.pc (Function.update_of_ne same _ _)
  | dispatcher go next outside turn => exact sound_turn sound outside turn
  | scheduler =>
    refine ⟨?_, sound.bystander, sound.left, sound.flag, sound.seen, sound.fit⟩
    intro t w inside
    exact fits_of_same (sound.fits t w inside) (fun _ _ => rfl) (fun _ => rfl)
  | flagged go at_pc =>
    have closed : shut s = true := sound.left (by rw [at_pc]; rfl)
    exact ⟨fun t w inside => fits_of_same (sound.fits t w inside) (fun _ _ => rfl) (fun _ => rfl),
      sound.bystander, fun _ => closed, fun _ => Or.inl closed,
      seen_of_same sound.seen rfl (fun _ => rfl) id, sound.fit⟩
  | received =>
    have fewer := Nat.le_trans (Nat.sub_le s.frames 1) sound.fit
    exact sound.apart _ _ _ _ _ (fun gone => absurd gone Bool.false_ne_true) fewer
  | idle | unpersisted | checkedOpen =>
    exact sound.apart _ _ _ _ _ (fun gone => absurd gone Bool.false_ne_true) sound.fit
  | persisted go at_pc =>
    refine sound.apart _ _ _ _ _ (fun gone => ?_) sound.fit
    cases go <;> cases gone
  | checkedStop go at_pc =>
    refine sound.apart _ _ _ _ _ (fun gone => ?_) sound.fit
    split at gone <;> cases gone
  | checkedShut go at_pc closed => exact sound.apart _ _ _ _ _ (fun _ => closed) sound.fit
  | joinedEngine go at_pc ended =>
    have closed : shut s = true := sound.left (by rw [at_pc]; rfl)
    exact sound.apart _ _ _ _ _ (fun _ => closed) sound.fit
  | signal | joinedScheduler | joinedAll | joinedReader | joinedConsumer =>
    exact sound.apart _ _ _ _ _ sound.left sound.fit

theorem sound_reachable (reach : (gateway cfg).Reachable s) : Sound s := by
  apply System.Reaches.invariant reach Sound
  · refine ⟨?_, fun _ _ => rfl, ?_, ?_, trivial, Nat.zero_le _⟩
    · intro t w inside
      obtain waiting | ⟨_, ready⟩ := inside
      · cases waiting
      · cases ready
    · intro gone
      cases gone
    · intro set
      cases set
  · exact fun u action v sound moved => sound_step sound (step_moves moved)

end SensorGateway.Gateway.Lifecycle

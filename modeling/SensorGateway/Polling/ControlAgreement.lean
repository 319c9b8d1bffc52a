import Mathlib.Data.List.Chain
import SensorGateway.Polling.Scheduler

/-! The scheduler sends a command only when it differs from the one before, and never hears back.
The reader's mode is still the one the scheduler takes it to have, once the commands on the way
have arrived. -/

namespace SensorGateway.Polling.ControlAgreement
open SensorGateway.Lib.Transition SensorGateway.Types Governor Control Scheduler

/-- The scheduler has not left its loop. -/
def InLoop : SchedulerPc → Prop
  | .testing | .receiving | .evaluating _ _ _ | .sleeping => True
  | .closing _ | .lastReceiving | .finished => False

/-- Every channel has been served a last time. -/
def Closed : SchedulerPc → Prop
  | .lastReceiving | .finished => True
  | .testing | .receiving | .evaluating _ _ _ | .sleeping | .closing _ => False

/-- What the scheduler and the reader of one sensor make of their channel. -/
structure Agree (governorCfg : String → AdaptivePollingConfig) (s : State) (id : String) : Prop where
  mode : InLoop s.pc → (s.control id).draining = false → ∀ now,
    ((s.control id).obeyAll (governorCfg id) now (s.pending id)).controlMode =
      (s.tables.lastCommand id).getD .automatic
  changes : (s.sent id).IsChain (· ≠ ·)
  ended : Closed s.pc → (s.sent id).getLast? = some .shutdownDrain

/-! What a step does to one channel and to its reader. -/

inductive Effect (governorCfg : String → AdaptivePollingConfig) (s t : State) (id : String) : Prop where
  | same (control : t.control id = s.control id) (exited : t.exited id = s.exited id)
      (pending : t.pending id = s.pending id) (sent : t.sent id = s.sent id)
  | sent (mode : ReaderControlMode) (control : t.control id = s.control id)
      (exited : t.exited id = s.exited id)
      (pending : t.pending id = if s.exited id then s.pending id else s.pending id ++ [mode])
      (sent : t.sent id = s.sent id ++ [mode])
  | obeyed (mode : ReaderControlMode) (now : Instant) (pending : s.pending id = mode :: t.pending id)
      (control : t.control id = (s.control id).obey (governorCfg id) now mode)
      (exited : t.exited id = s.exited id) (sent : t.sent id = s.sent id)
  | drained (control : (t.control id).draining = true) (sent : t.sent id = s.sent id)

variable {cfg : SchedulerConfig} {governorCfg : String → AdaptivePollingConfig}
  {channels : Channels}

theorem send_effect (s : State) (receiver : String) (mode : ReaderControlMode) (id : String) :
    Effect governorCfg s (s.send receiver mode) id := by
  by_cases same : id = receiver
  · subst same
    refine Effect.sent mode rfl rfl ?_ ?_
    · show (if s.exited id then s.pending else Function.update s.pending id (s.pending id ++ [mode])) id = _
      cases s.exited id <;> simp
    · exact Function.update_self ..
  · refine Effect.same rfl rfl ?_ ?_
    · show (if s.exited receiver then s.pending
        else Function.update s.pending receiver (s.pending receiver ++ [mode])) id = _
      cases s.exited receiver <;> simp [same]
    · exact Function.update_of_ne same ..

/-- The tables and the program counter are the scheduler's own. -/
theorem Effect.of_send {s t u : State} {id : String} (effect : Effect governorCfg s t id)
    (control : u.control = t.control) (exited : u.exited = t.exited)
    (pending : u.pending = t.pending) (sent : u.sent = t.sent) : Effect governorCfg s u id := by
  cases effect with
  | same here gone queue history =>
    exact .same (by rw [control, here]) (by rw [exited, gone]) (by rw [pending, queue])
      (by rw [sent, history])
  | sent mode here gone queue history =>
    exact .sent mode (by rw [control, here]) (by rw [exited, gone]) (by rw [pending, queue])
      (by rw [sent, history])
  | obeyed mode now queue here gone history =>
    exact .obeyed mode now (by rw [pending, queue]) (by rw [control, here]) (by rw [exited, gone])
      (by rw [sent, history])
  | drained here history => exact .drained (by rw [control, here]) (by rw [sent, history])

theorem schedulerStep_effect {s t : State} {now : SystemTime}
    (step : schedulerStep cfg channels s now = some t) (id : String) : Effect governorCfg s t id := by
  unfold schedulerStep at step
  cases pc : s.pc with
  | testing | sleeping =>
    simp only [pc, Option.some.injEq] at step
    subst step
    exact .same rfl rfl rfl rfl
  | receiving | lastReceiving =>
    cases statuses : s.statuses <;>
    · simp only [pc, statuses, Option.some.injEq] at step
      subst step
      exact .same rfl rfl rfl rfl
  | evaluating start ids snapshot =>
    cases ids with
    | nil =>
      simp only [pc, Option.some.injEq] at step
      subst step
      exact .same rfl rfl rfl rfl
    | cons receiver rest =>
      simp only [pc, Option.some.injEq] at step
      subst step
      cases (evaluate cfg start s.tables receiver).2.1 with
      | none => exact .same rfl rfl rfl rfl
      | some mode => exact (send_effect s receiver mode id).of_send rfl rfl rfl rfl
  | closing ids =>
    cases ids with
    | nil =>
      simp only [pc, Option.some.injEq] at step
      subst step
      exact .same rfl rfl rfl rfl
    | cons receiver rest =>
      simp only [pc, Option.some.injEq] at step
      subst step
      exact (send_effect s receiver .shutdownDrain id).of_send rfl rfl rfl rfl
  | finished => simp [pc] at step

theorem step_effect {s t : State} {move : Move}
    (step : Scheduler.step cfg governorCfg channels s move = some t)
    (id : String) : Effect governorCfg s t id := by
  cases move with
  | scheduler now => exact schedulerStep_effect step id
  | report status =>
    simp only [Scheduler.step, Option.ite_none_left_eq_some, Option.some.injEq] at step
    obtain ⟨-, rfl⟩ := step
    exact .same rfl rfl rfl rfl
  | obey reader now =>
    cases queue : s.pending reader with
    | nil => simp [Scheduler.step, queue] at step
    | cons mode rest =>
      simp only [Scheduler.step, queue, Option.some.injEq] at step
      subst step
      by_cases same : id = reader
      · subst same
        exact .obeyed mode now (by simp [queue]) (by simp) rfl rfl
      · exact .same (by simp [same]) rfl (by simp [same]) rfl
  | giveUp reader now =>
    simp only [Scheduler.step, Option.ite_none_left_eq_some, Option.some.injEq] at step
    obtain ⟨-, rfl⟩ := step
    by_cases same : id = reader
    · subst same
      exact .drained (by simp [ReaderControl.drain]) rfl
    · exact .same (by simp [same]) rfl rfl rfl
  | exit reader =>
    simp only [Scheduler.step, Option.ite_none_right_eq_some, Option.some.injEq] at step
    obtain ⟨⟨drains, -⟩, rfl⟩ := step
    by_cases same : id = reader
    · subst same
      exact .drained drains rfl
    · exact .same rfl (by simp [same]) (by simp [same]) rfl
  | raiseStop =>
    simp only [Scheduler.step, Option.some.injEq] at step
    subst step
    exact .same rfl rfl rfl rfl

/-! The reader's half: what is on the way decides its mode. -/

/-- The mode after the commands on the way is that of the last command sent. -/
def Heard (s : State) (id : String) : Prop :=
  (s.control id).draining = false → s.exited id = false ∧
    (s.pending id).getLast?.getD (s.control id).controlMode = (s.sent id).getLast?.getD .automatic

theorem Effect.heard {s t : State} {id : String} (effect : Effect governorCfg s t id)
    (heard : Heard s id) : Heard t id := by
  intro active
  cases effect with
  | same control exited pending sent =>
    rw [control] at active
    rw [control, exited, pending, sent]
    exact heard active
  | sent mode control exited pending sent =>
    rw [control] at active
    obtain ⟨here, -⟩ := heard active
    rw [control, exited, pending, sent, here]
    simp
  | obeyed mode now pending control exited sent =>
    rw [control] at active
    have before : (s.control id).draining = false := by
      cases mode <;> first | exact active | exact absurd active Bool.noConfusion
    obtain ⟨here, agrees⟩ := heard before
    refine ⟨by rw [exited, here], ?_⟩
    rw [pending, List.getLast?_cons, Option.getD_some] at agrees
    rw [control, sent, ReaderControl.obey_controlMode]
    exact agrees
  | drained control sent => simp [control] at active

/-! The scheduler's half: its table is the history of the channel. -/

/-- `ShutdownDrain` has not been sent to the sensor's reader. -/
def NotYet : SchedulerPc → String → Prop
  | .closing ids, id => id ∈ ids
  | .lastReceiving, _ | .finished, _ => False
  | .testing, _ | .receiving, _ | .evaluating _ _ _, _ | .sleeping, _ => True

structure Told (s : State) (id : String) : Prop where
  changes : (s.sent id).IsChain (· ≠ ·)
  table : NotYet s.pc id → (s.sent id).getLast? = s.tables.lastCommand id
  served : ¬NotYet s.pc id → (s.sent id).getLast? = some .shutdownDrain
  spared : s.tables.lastCommand id ≠ some .shutdownDrain

/-- Each channel is in the last loop once. -/
def Once : SchedulerPc → Prop
  | .closing ids => ids.Nodup
  | _ => True

theorem isChain_concat {modes : List ReaderControlMode} (chain : modes.IsChain (· ≠ ·))
    {mode : ReaderControlMode} (other : modes.getLast? ≠ some mode) :
    (modes ++ [mode]).IsChain (· ≠ ·) := by
  rw [List.isChain_append]
  refine ⟨chain, List.isChain_singleton mode, ?_⟩
  intro last isLast next isNext
  obtain rfl : mode = next := by simpa using isNext
  rintro rfl
  exact other isLast

/-- A sensor's turn sends the mode it enters into the table, if that is a new one. -/
theorem evaluate_cases (cfg : SchedulerConfig) (now : SystemTime) (tables : Tables) (id : String) :
    ((evaluate cfg now tables id).2.1 = none ∧
      (evaluate cfg now tables id).1.lastCommand = tables.lastCommand) ∨
    ∃ wanted, wanted ≠ .shutdownDrain ∧ tables.lastCommand id ≠ some wanted ∧
      (evaluate cfg now tables id).2.1 = some wanted ∧
      (evaluate cfg now tables id).1.lastCommand =
        Function.update tables.lastCommand id (some wanted) := by
  unfold evaluate
  cases tables.latestStatus id with
  | none => exact Or.inl ⟨rfl, rfl⟩
  | some status =>
    simp only
    generalize hits _ _ = warn
    generalize hits _ _ = crit
    by_cases new : tables.lastCommand id ≠ some (desired cfg now status warn crit)
    · rw [if_pos new]
      refine Or.inr ⟨_, ?_, new, rfl, rfl⟩
      unfold desired
      split
      · exact ReaderControlMode.noConfusion
      · split <;> exact ReaderControlMode.noConfusion
    · rw [if_neg new]
      exact Or.inl ⟨rfl, rfl⟩

/-- A step that sends nothing and leaves the table of commands and the loop it is in. -/
theorem Told.frame {s t : State} {id : String} (told : Told s id) (sent : t.sent id = s.sent id)
    (table : t.tables.lastCommand id = s.tables.lastCommand id)
    (loop : NotYet t.pc id ↔ NotYet s.pc id) : Told t id where
  changes := by rw [sent]; exact told.changes
  table := by rw [loop, sent, table]; exact told.table
  served := by rw [loop, sent]; exact told.served
  spared := by rw [table]; exact told.spared

theorem Told.evaluated {s : State} {id : String} (told : Told s id) {start : SystemTime}
    {receiver : String} {rest : List String} {snapshot : SchedulerStats}
    (pc : s.pc = .evaluating start (receiver :: rest) snapshot) (after : SchedulerStats) :
    Told { s.sendIf receiver (evaluate cfg start s.tables receiver).2.1 with
      tables := (evaluate cfg start s.tables receiver).1, pc := .evaluating start rest after } id := by
  have loop : NotYet s.pc id := by rw [pc]; trivial
  obtain ⟨quiet, table⟩ | ⟨wanted, open_, new, sends, table⟩ :=
    evaluate_cases cfg start s.tables receiver
  · rw [quiet]
    exact told.frame rfl (by rw [table]) (iff_of_true trivial loop)
  · rw [sends]
    by_cases same : id = receiver
    · subst same
      constructor
      · show (Function.update s.sent id (s.sent id ++ [wanted]) id).IsChain (· ≠ ·)
        rw [Function.update_self]
        exact isChain_concat told.changes (by rw [told.table loop]; exact new)
      · intro _
        show (Function.update s.sent id (s.sent id ++ [wanted]) id).getLast? = _
        rw [Function.update_self, List.getLast?_concat, table, Function.update_self]
      · exact fun ended => absurd trivial ended
      · rw [table, Function.update_self]
        exact fun bad => open_ (Option.some.inj bad)
    · refine told.frame (Function.update_of_ne same ..) ?_ (iff_of_true trivial loop)
      rw [table, Function.update_of_ne same]

theorem Told.closed {s : State} {id : String} (told : Told s id) (once : Once s.pc)
    {receiver : String} {rest : List String} (pc : s.pc = .closing (receiver :: rest)) :
    Told { s.send receiver .shutdownDrain with pc := .closing rest } id := by
  rw [pc] at once
  obtain ⟨fresh, -⟩ := List.nodup_cons.mp once
  by_cases same : id = receiver
  · subst same
    have before := told.table (by rw [pc]; exact List.mem_cons_self)
    constructor
    · show (Function.update s.sent id (s.sent id ++ [.shutdownDrain]) id).IsChain (· ≠ ·)
      rw [Function.update_self]
      exact isChain_concat told.changes (by rw [before]; exact told.spared)
    · exact fun left => absurd left fresh
    · intro _
      show (Function.update s.sent id (s.sent id ++ [.shutdownDrain]) id).getLast? = _
      rw [Function.update_self, List.getLast?_concat]
    · exact told.spared
  · refine told.frame (Function.update_of_ne same ..) rfl ?_
    rw [pc]
    exact ⟨fun left => List.mem_cons_of_mem _ left,
      fun left => (List.mem_cons.mp left).resolve_left same⟩

theorem schedulerStep_told {s t : State} {now : SystemTime} {id : String} (known : id ∈ channels.ids)
    (told : Told s id) (once : Once s.pc) (step : schedulerStep cfg channels s now = some t) :
    Told t id ∧ Once t.pc := by
  unfold schedulerStep at step
  cases pc : s.pc with
  | testing =>
    simp only [pc, Option.some.injEq] at step
    subst step
    have before : NotYet s.pc id := by rw [pc]; trivial
    cases s.stop with
    | true => exact ⟨told.frame rfl rfl (iff_of_true known before), channels.distinct⟩
    | false => exact ⟨told.frame rfl rfl (iff_of_true trivial before), trivial⟩
  | receiving =>
    have before : NotYet s.pc id := by rw [pc]; trivial
    cases statuses : s.statuses with
    | nil =>
      simp only [pc, statuses, Option.some.injEq] at step
      subst step
      exact ⟨told.frame rfl rfl (iff_of_true trivial before), trivial⟩
    | cons status rest =>
      simp only [pc, statuses, Option.some.injEq] at step
      subst step
      exact ⟨told.frame rfl rfl (iff_of_true trivial before), trivial⟩
  | evaluating start ids snapshot =>
    have before : NotYet s.pc id := by rw [pc]; trivial
    cases ids with
    | nil =>
      simp only [pc, Option.some.injEq] at step
      subst step
      exact ⟨told.frame rfl rfl (iff_of_true trivial before), trivial⟩
    | cons receiver rest =>
      simp only [pc, Option.some.injEq] at step
      subst step
      exact ⟨told.evaluated pc _, trivial⟩
  | sleeping =>
    simp only [pc, Option.some.injEq] at step
    subst step
    have before : NotYet s.pc id := by rw [pc]; trivial
    exact ⟨told.frame rfl rfl (iff_of_true trivial before), trivial⟩
  | closing ids =>
    cases ids with
    | nil =>
      simp only [pc, Option.some.injEq] at step
      subst step
      refine ⟨told.frame rfl rfl ?_, trivial⟩
      rw [pc]
      exact iff_of_false (fun bad => bad) List.not_mem_nil
    | cons receiver rest =>
      simp only [pc, Option.some.injEq] at step
      subst step
      rw [pc] at once
      exact ⟨told.closed (by rw [pc]; exact once) pc, (List.nodup_cons.mp once).2⟩
  | lastReceiving =>
    have after : ¬NotYet s.pc id := by rw [pc]; exact fun bad => bad
    cases statuses : s.statuses with
    | nil =>
      simp only [pc, statuses, Option.some.injEq] at step
      subst step
      exact ⟨told.frame rfl rfl (iff_of_false (fun bad => bad) after), trivial⟩
    | cons status rest =>
      simp only [pc, statuses, Option.some.injEq] at step
      subst step
      exact ⟨told.frame rfl rfl (iff_of_false (fun bad => bad) after), trivial⟩
  | finished => simp [pc] at step

/-- The readers do not touch what is the scheduler's. -/
theorem step_own {s t : State} {move : Move}
    (step : Scheduler.step cfg governorCfg channels s move = some t)
    (other : ∀ now, move ≠ .scheduler now) :
    t.pc = s.pc ∧ t.tables = s.tables ∧ t.sent = s.sent := by
  cases move with
  | scheduler now => exact absurd rfl (other now)
  | report status =>
    simp only [Scheduler.step, Option.ite_none_left_eq_some, Option.some.injEq] at step
    obtain ⟨-, rfl⟩ := step
    exact ⟨rfl, rfl, rfl⟩
  | obey reader now =>
    cases queue : s.pending reader with
    | nil => simp [Scheduler.step, queue] at step
    | cons mode rest =>
      simp only [Scheduler.step, queue, Option.some.injEq] at step
      subst step
      exact ⟨rfl, rfl, rfl⟩
  | giveUp reader now =>
    simp only [Scheduler.step, Option.ite_none_left_eq_some, Option.some.injEq] at step
    obtain ⟨-, rfl⟩ := step
    exact ⟨rfl, rfl, rfl⟩
  | exit reader =>
    simp only [Scheduler.step, Option.ite_none_right_eq_some, Option.some.injEq] at step
    obtain ⟨-, rfl⟩ := step
    exact ⟨rfl, rfl, rfl⟩
  | raiseStop =>
    simp only [Scheduler.step, Option.some.injEq] at step
    subst step
    exact ⟨rfl, rfl, rfl⟩

structure Sound (s : State) (id : String) : Prop where
  heard : Heard s id
  told : Told s id
  once : Once s.pc

theorem sound_init (id : String) : Sound (scheduler cfg governorCfg channels).init id where
  heard := fun _ => ⟨rfl, rfl⟩
  told := {
    changes := List.isChain_nil
    table := fun _ => rfl
    served := fun ended => absurd trivial ended
    spared := by
      intro bad
      cases bad }
  once := trivial

theorem Sound.step {s t : State} {move : Move} {id : String} (known : id ∈ channels.ids)
    (sound : Sound s id) (step : Scheduler.step cfg governorCfg channels s move = some t) :
    Sound t id := by
  have heard := (step_effect step id).heard sound.heard
  by_cases own : ∃ now, move = .scheduler now
  · obtain ⟨now, rfl⟩ := own
    obtain ⟨told, once⟩ := schedulerStep_told known sound.told sound.once step
    exact ⟨heard, told, once⟩
  · obtain ⟨pc, tables, sent⟩ := step_own step (fun now same => own ⟨now, same⟩)
    refine ⟨heard, sound.told.frame (by rw [sent]) (by rw [tables]) (by rw [pc]), ?_⟩
    rw [pc]
    exact sound.once

theorem reachable_sound {s : State} (reach : (scheduler cfg governorCfg channels).Reachable s)
    {id : String} (known : id ∈ channels.ids) : Sound s id :=
  System.Reaches.invariant reach (fun s => Sound s id) (sound_init id)
    (fun _ _ _ sound step => sound.step known step)

/-- The scheduler's table and the reader agree about every sensor, through every run. -/
theorem control_modes_agree {s : State} (reach : (scheduler cfg governorCfg channels).Reachable s)
    (id : String) (known : id ∈ channels.ids) : Agree governorCfg s id := by
  have sound := reachable_sound reach known
  constructor
  · intro loop active now
    have notYet : NotYet s.pc id := by
      cases pc : s.pc <;> simp_all [InLoop, NotYet]
    rw [ReaderControl.obeyAll_controlMode, (sound.heard active).2, sound.told.table notYet]
  · exact sound.told.changes
  · intro closed
    apply sound.told.served
    cases pc : s.pc <;> simp_all [Closed, NotYet]

/-! `ShutdownDrain` is the last command on a channel. -/

structure Heeds (s : State) (id : String) : Prop where
  order : DrainLast (s.sent id)
  unsent : NotYet s.pc id → .shutdownDrain ∉ s.sent id

theorem Heeds.frame {s t : State} {id : String} (heeds : Heeds s id) (sent : t.sent id = s.sent id)
    (earlier : NotYet t.pc id → NotYet s.pc id) : Heeds t id where
  order := by rw [sent]; exact heeds.order
  unsent := fun notYet => by rw [sent]; exact heeds.unsent (earlier notYet)

theorem drainLast_concat {modes : List ReaderControlMode} (unsent : .shutdownDrain ∉ modes)
    (order : DrainLast modes) (mode : ReaderControlMode) : DrainLast (modes ++ [mode]) := by
  refine List.pairwise_append.mpr ⟨order, List.pairwise_singleton _ mode, ?_⟩
  rintro first member later - rfl
  exact absurd member unsent

/-- A command to a reader that has not been sent `ShutdownDrain`. -/
theorem Heeds.send {s t : State} {receiver id : String} {mode : ReaderControlMode}
    (heeds : Heeds s id) (before : NotYet s.pc receiver)
    (sent : t.sent = (s.send receiver mode).sent) (earlier : NotYet t.pc id → NotYet s.pc id)
    (open_ : NotYet t.pc receiver → mode ≠ .shutdownDrain) : Heeds t id := by
  by_cases same : id = receiver
  · subst same
    have after : t.sent id = s.sent id ++ [mode] := by rw [sent]; exact Function.update_self ..
    refine ⟨by rw [after]; exact drainLast_concat (heeds.unsent before) heeds.order mode, ?_⟩
    intro notYet member
    rw [after] at member
    rcases List.mem_append.mp member with old | new
    · exact heeds.unsent before old
    · exact open_ notYet (List.mem_singleton.mp new).symm
  · exact heeds.frame (by rw [sent]; exact Function.update_of_ne same ..) earlier

theorem schedulerStep_heeds {s t : State} {now : SystemTime} {id : String}
    (heeds : Heeds s id) (once : Once s.pc) (step : schedulerStep cfg channels s now = some t) :
    Heeds t id := by
  unfold schedulerStep at step
  cases pc : s.pc with
  | testing | sleeping =>
    have before : NotYet s.pc id := by rw [pc]; trivial
    simp only [pc, Option.some.injEq] at step
    subst step
    exact heeds.frame rfl (fun _ => before)
  | receiving =>
    have before : NotYet s.pc id := by rw [pc]; trivial
    cases statuses : s.statuses <;>
    · simp only [pc, statuses, Option.some.injEq] at step
      subst step
      exact heeds.frame rfl (fun _ => before)
  | evaluating start ids snapshot =>
    have before (receiver : String) : NotYet s.pc receiver := by rw [pc]; trivial
    cases ids with
    | nil =>
      simp only [pc, Option.some.injEq] at step
      subst step
      exact heeds.frame rfl (fun _ => before id)
    | cons receiver rest =>
      simp only [pc, Option.some.injEq] at step
      subst step
      obtain ⟨quiet, -⟩ | ⟨wanted, open_, -, sends, -⟩ := evaluate_cases cfg start s.tables receiver
      · exact heeds.frame (by rw [quiet]; rfl) (fun _ => before id)
      · exact heeds.send (before receiver) (by rw [sends]; rfl) (fun _ => before id) (fun _ => open_)
  | closing ids =>
    rw [pc] at once
    cases ids with
    | nil =>
      simp only [pc, Option.some.injEq] at step
      subst step
      exact heeds.frame rfl (fun notYet => absurd notYet (fun bad => bad))
    | cons receiver rest =>
      simp only [pc, Option.some.injEq] at step
      subst step
      obtain ⟨fresh, -⟩ := List.nodup_cons.mp once
      refine heeds.send (by rw [pc]; exact List.mem_cons_self) rfl ?_ (fun left => absurd left fresh)
      rw [pc]
      exact fun left => List.mem_cons_of_mem _ left
  | lastReceiving =>
    cases statuses : s.statuses <;>
    · simp only [pc, statuses, Option.some.injEq] at step
      subst step
      exact heeds.frame rfl (fun notYet => absurd notYet (fun bad => bad))
  | finished => simp [pc] at step

/-- In every run the commands sent to a reader are in the order its drain relies on. -/
theorem sent_drainLast {s : State} (reach : (scheduler cfg governorCfg channels).Reachable s)
    (id : String) (known : id ∈ channels.ids) : DrainLast (s.sent id) := by
  have heeds : Heeds s id := by
    apply System.ReachesUnder.invariant reach (fun s => Heeds s id)
    · exact ⟨List.Pairwise.nil, fun _ => List.not_mem_nil⟩
    · intro u move v reach heeds _ step
      by_cases own : ∃ now, move = .scheduler now
      · obtain ⟨now, rfl⟩ := own
        exact schedulerStep_heeds heeds (reachable_sound reach known).once step
      · obtain ⟨pc, -, sent⟩ := step_own step (fun now same => own ⟨now, same⟩)
        exact heeds.frame (by rw [sent]) (fun notYet => pc ▸ notYet)
  exact heeds.order

/-- The one reader reports a backlog; the scheduler takes the report and turns to that reader. -/
def backlog : List Move :=
  [.report ⟨"force-1", 0, 0, 30, 0, false, (AdaptivePollingGovernor.new .default).stats, 0, 0, 0⟩,
    .scheduler 0, .scheduler 0, .scheduler 0, .scheduler 0]

def oneReader : Channels :=
  ⟨["force-1"], List.nodup_cons.mpr ⟨List.not_mem_nil, List.nodup_nil⟩⟩

theorem control_modes_agree_backlog :
    ∃ s : State, s.pending "force-1" = [.forceFastRecovery] ∧
      s.tables.lastCommand "force-1" = some .forceFastRecovery ∧
      Agree (fun _ => .default) s "force-1" := by
  refine ⟨((scheduler .default (fun _ => .default) oneReader).run backlog).get (by decide), by decide,
    by decide, ?_⟩
  exact control_modes_agree (System.reachable_of_run (Option.some_get _).symm) "force-1"
    List.mem_cons_self

end SensorGateway.Polling.ControlAgreement

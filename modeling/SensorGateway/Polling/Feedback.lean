import SensorGateway.Buffer.Stats
import SensorGateway.Polling.GovernorResponse

/-! The governors at work: each reader's governor polls the statistics of the buffer that all threads
share. What `Governor` takes for granted of its telemetry the buffer provides. -/

namespace SensorGateway.Polling.Feedback
open SensorGateway.Lib.Transition SensorGateway.Buffer SensorGateway.Buffer.Manager
open SensorGateway.Buffer.Stats
open Governor AdaptivePollingGovernor GovernorBounds

/-- What a governor reads of the statistics. -/
def telemetry (s : Stats.BufferStats) : Governor.BufferStats :=
  ⟨s.capacity, s.len, s.pushWaitNsTotal, s.popWaitNsTotal⟩

/-- The buffer with its threads, and a governor for each reader. -/
structure State (κ ι T : Type*) where
  buffer : Watched ι T
  governor : κ → AdaptivePollingGovernor
  /-- The waits that had ended when the reader polled last. -/
  polled : κ → List Ended

inductive Action (κ ι T : Type*) where
  | thread (action : Threads.Action ι T)
  /-- A reader takes the statistics and asks its governor for a sleep. -/
  | poll (reader : κ) (sensorAvailable : Nat) (overrideMode : GovernorOverride)

variable {κ ι T : Type*}

def State.call (s : State κ ι T) (manager : SensorBufferManager) (sensorAvailable : Nat)
    (overrideMode : GovernorOverride) : GovernorBounds.Call :=
  ⟨sensorAvailable, telemetry (Stats.stats manager s.buffer.state.inner), overrideMode⟩

variable [DecidableEq κ] [DecidableEq ι] [Fintype ι]

/-- A poll whose governor panics is no step. -/
def polling (manager : SensorBufferManager) (given : κ → AdaptivePollingConfig) :
    System (State κ ι T) (Action κ ι T) where
  init := ⟨(watching manager).init, fun reader => new (given reader), fun _ => []⟩
  step := fun s action =>
    match action with
    | .thread action =>
      ((watching manager).step s.buffer action).map fun next => { s with buffer := next }
    | .poll reader sensorAvailable overrideMode =>
      (invoke (s.governor reader) (s.call manager sensorAvailable overrideMode)).map fun outcome =>
        { s with
          governor := Function.update s.governor reader outcome.2
          polled := Function.update s.polled reader s.buffer.ended }

/-! ## One call -/

section
variable (g : AdaptivePollingGovernor)

theorem setMode_last (next : GovernorMode) :
    (g.setMode next).lastPushWaitDeltaNs = g.lastPushWaitDeltaNs ∧
      (g.setMode next).lastPopWaitDeltaNs = g.lastPopWaitDeltaNs ∧
      (g.setMode next).lastFillRatio = g.lastFillRatio := by
  unfold setMode
  split
  · exact ⟨rfl, rfl, rfl⟩
  · cases next <;> exact ⟨rfl, rfl, rfl⟩

/-- What a call with a buffer of some room reports of it. -/
theorem after_last {call : GovernorBounds.Call} (room : call.stats.capacity ≠ 0) :
    (after g call).lastPushWaitDeltaNs = call.stats.pushWaitNsTotal - g.prevPushWaitNsTotal ∧
      (after g call).lastPopWaitDeltaNs = call.stats.popWaitNsTotal - g.prevPopWaitNsTotal ∧
      (after g call).lastFillRatio = GovernorResponse.fill call := by
  by_cases emergency : (seen g call).Emergency call.overrideMode
  · rw [after_recovered room emergency]
    exact setMode_last (seen g call) .fastRecovery
  · rw [after_regulated room emergency]
    exact setMode_last { seen g call with integralError := integrated (seen g call) } _

end

/-! ## Whole runs -/

/-- A governor and the waits it has been told of. -/
structure Told (g : AdaptivePollingGovernor) (polled ended : List Ended) : Prop where
  bounded : Bounded g
  push : g.prevPushWaitNsTotal = (waitsFor .notFull polled).sum
  pop : g.prevPopWaitNsTotal = (waitsFor .notEmpty polled).sum
  past : polled <+: ended

variable {manager : SensorBufferManager} {given : κ → AdaptivePollingConfig}

omit [DecidableEq κ] in
/-- The buffer of every run is one that a governor can be asked about. -/
theorem call_sane {s : State κ ι T} (reach : (watching manager).Reachable s.buffer)
    (sensorAvailable : Nat) (overrideMode : GovernorOverride) :
    (s.call manager sensorAvailable overrideMode).Sane := by
  have lossless := Fifo.reachable_lossless (reaches_state reach)
  exact ⟨manager.positive, lossless.length_le.trans lossless.watermark_le⟩

omit [DecidableEq κ] in
theorem Told.polled {s : State κ ι T} (reach : (watching manager).Reachable s.buffer)
    {g : AdaptivePollingGovernor} {polled : List Ended} (told : Told g polled s.buffer.ended)
    (sensorAvailable : Nat) (overrideMode : GovernorOverride) :
    Told (after g (s.call manager sensorAvailable overrideMode)) s.buffer.ended s.buffer.ended := by
  have sane := call_sane reach sensorAvailable overrideMode
  obtain ⟨push, pop⟩ := after_prevWaits g sane.1.ne'
  have alone : ∀ call ∈ [s.call manager sensorAvailable overrideMode], call.Sane := by
    intro call member
    rw [List.mem_singleton.mp member]
    exact sane
  have bounded := GovernorResponse.foldl_bounded told.bounded alone
  exact {
    bounded
    push := push.trans (reachable_accounted reach .notFull).ns
    pop := pop.trans (reachable_accounted reach .notEmpty).ns
    past := List.prefix_refl _ }

/-- In every run: the buffer's own run, and each governor up to date with its last poll. -/
structure Sound (manager : SensorBufferManager) (s : State κ ι T) : Prop where
  buffer : (watching manager).Reachable s.buffer
  told : ∀ reader, Told (s.governor reader) (s.polled reader) s.buffer.ended

theorem Sound.step {s t : State κ ι T} {action : Action κ ι T} (sound : Sound manager s)
    (step : (polling manager given).step s action = some t) : Sound manager t := by
  obtain ⟨reach, told⟩ := sound
  cases action with
  | thread action =>
    obtain ⟨next, moved, rfl⟩ := Option.map_eq_some_iff.mp step
    refine ⟨reach.tail moved, ?_⟩
    intro reader
    have grows := ended_grows (System.Reaches.single moved)
    exact { told reader with past := (told reader).past.trans grows }
  | poll reader sensorAvailable overrideMode =>
    obtain ⟨⟨sleep, g⟩, answers, rfl⟩ := Option.map_eq_some_iff.mp step
    rw [invoke_eq (told reader).bounded.ordered, Option.some.injEq, Prod.mk.injEq] at answers
    obtain ⟨-, rfl⟩ := answers
    refine ⟨reach, ?_⟩
    intro other
    show Told (Function.update s.governor reader _ other) (Function.update s.polled reader _ other) _
    by_cases same : other = reader
    · subst same
      rw [Function.update_self, Function.update_self]
      exact (told other).polled reach sensorAvailable overrideMode
    · rw [Function.update_of_ne same, Function.update_of_ne same]
      exact told other

theorem reachable_sound (limit : ∀ reader, 0 ≤ (given reader).integralLimit) {s : State κ ι T}
    (reach : (polling manager given).Reachable s) : Sound manager s := by
  apply System.Reaches.invariant reach (Sound manager)
  · refine ⟨System.ReachesUnder.refl _, ?_⟩
    intro reader
    exact {
      bounded := bounded_new (limit reader)
      push := rfl
      pop := rfl
      past := List.prefix_refl _ }
  · intro u action v sound step
    exact sound.step step

/-- In every run of the threads and the governors, any reader may poll at any time: its governor
answers with a sleep in its range and is not in `FailSafe`, it reports the fill of the buffer and
the time of just those waits that have ended since the reader's last poll, and where a producer was
among them it answers with the shortest sleep. -/
theorem polls_answered (limit : ∀ reader, 0 ≤ (given reader).integralLimit) {s : State κ ι T}
    (reach : (polling manager given).Reachable s) (reader : κ) (sensorAvailable : Nat)
    (overrideMode : GovernorOverride) :
    ∃ since g, s.buffer.ended = s.polled reader ++ since ∧
      invoke (s.governor reader) (s.call manager sensorAvailable overrideMode) =
        some (g.currentSleepUs, g) ∧
      InRange g.cfg g.currentSleepUs ∧ g.mode ≠ .failSafe ∧
      g.lastFillRatio = (Stats.stats manager s.buffer.state.inner).fillRatio ∧
      g.lastPushWaitDeltaNs = (waitsFor .notFull since).sum ∧
      g.lastPopWaitDeltaNs = (waitsFor .notEmpty since).sum ∧
      (0 < (waitsFor .notFull since).sum →
        g.mode = .fastRecovery ∧ g.currentSleepUs = g.cfg.minSleepUs) := by
  obtain ⟨reached, told⟩ := reachable_sound limit reach
  obtain ⟨bounded, push, pop, since, more⟩ := told reader
  have sane := call_sane reached sensorAvailable overrideMode
  have room := sane.1.ne'
  obtain ⟨pushDelta, popDelta, filled⟩ := after_last (s.governor reader) room
  have later := (told reader).polled reached sensorAvailable overrideMode
  have pushed : (s.call manager sensorAvailable overrideMode).stats.pushWaitNsTotal =
      (waitsFor .notFull s.buffer.ended).sum := (reachable_accounted reached .notFull).ns
  have popped : (s.call manager sensorAvailable overrideMode).stats.popWaitNsTotal =
      (waitsFor .notEmpty s.buffer.ended).sum := (reachable_accounted reached .notEmpty).ns
  rw [← more, waitsFor_append, List.sum_append] at pushed popped
  rw [pushed, push, Nat.add_sub_cancel_left] at pushDelta
  rw [popped, pop, Nat.add_sub_cancel_left] at popDelta
  refine ⟨since, _, more.symm, invoke_eq bounded.ordered _, later.bounded.sleep, later.bounded.mode, ?_,
    pushDelta, popDelta, ?_⟩
  · rw [filled, fillRatio_eq manager.positive]
    rfl
  · intro waited
    have emergency : (seen (s.governor reader)
        (s.call manager sensorAvailable overrideMode)).Emergency overrideMode := by
      refine Or.inr (Or.inr (Or.inr ?_))
      show 0 < (s.call manager sensorAvailable overrideMode).stats.pushWaitNsTotal -
        (s.governor reader).prevPushWaitNsTotal
      rw [pushed, push, Nat.add_sub_cancel_left]
      exact waited
    obtain ⟨mode, sleep, -⟩ := GovernorResponse.after_emergency room emergency
    refine ⟨mode, ?_⟩
    rw [sleep, after_cfg]

/-- A producer has waited for five nanoseconds, and neither reader has polled since the start. -/
def handedOver : List (Action (Fin 2) (Fin 2) Nat) := Fifo.handover.map .thread

theorem polls_answered_handover :
    ∃ s : State (Fin 2) (Fin 2) Nat, s.buffer.ended = [⟨.notFull, 5⟩] ∧ ∃ since g,
      s.buffer.ended = s.polled 1 ++ since ∧
      invoke (s.governor 1) (s.call ⟨1, by decide⟩ 0 .none) = some (g.currentSleepUs, g) ∧
      g.lastPushWaitDeltaNs = (waitsFor .notFull since).sum := by
  let given : Fin 2 → AdaptivePollingConfig := fun _ => .default
  let manager : SensorBufferManager := ⟨1, by decide⟩
  let s := ((polling manager given).run handedOver).get (by decide)
  have reach : (polling manager given).Reachable s := System.reachable_of_run (Option.some_get _).symm
  obtain ⟨since, g, more, answers, -, -, -, push, -⟩ :=
    polls_answered (fun _ => zero_le_one) reach 1 0 .none
  exact ⟨s, by decide, since, g, more, answers, push⟩

end SensorGateway.Polling.Feedback

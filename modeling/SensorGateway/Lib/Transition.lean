import Mathlib.Logic.Relation

/-! Guarded executable transition systems. An action either moves a state or is disabled,
so an interleaving of any number of parties is a list of actions. Every nondeterministic
choice (which party moves, what the clock or a scheduler decides) is part of the action. -/

namespace SensorGateway.Lib.Transition

structure System (σ α : Type*) where
  init : σ
  step : σ → α → Option σ

namespace System
variable {σ α : Type*} (sys : System σ α)

/-- Replay a schedule. One disabled action fails the whole run. -/
def runFrom (s : σ) : List α → Option σ
  | [] => some s
  | action :: rest =>
    match sys.step s action with
    | none => none
    | some next => runFrom next rest

def run (schedule : List α) : Option σ := sys.runFrom sys.init schedule

/-- One step whose action meets `allowed` in the state it leaves. -/
def StepUnder (allowed : σ → α → Prop) (s t : σ) : Prop :=
  ∃ action, allowed s action ∧ sys.step s action = some t

/-- Some run from `s` to `t` all of whose steps meet the condition. -/
def ReachesUnder (allowed : σ → α → Prop) : σ → σ → Prop :=
  Relation.ReflTransGen (sys.StepUnder allowed)

def ReachableUnder (allowed : σ → α → Prop) (s : σ) : Prop :=
  sys.ReachesUnder allowed sys.init s

/-- Some run from `s` to `t`, without a condition on its steps. -/
def Reaches : σ → σ → Prop := sys.ReachesUnder (fun _ _ => True)

def Reachable (s : σ) : Prop := sys.Reaches sys.init s

/-- Each step of the replay meets the condition, as far as the replay gets. -/
def EachStepFrom (P : σ → α → σ → Prop) (s : σ) : List α → Prop
  | [] => True
  | action :: rest =>
    match sys.step s action with
    | none => True
    | some next => P s action next ∧ EachStepFrom P next rest

def EachStep (P : σ → α → σ → Prop) (schedule : List α) : Prop :=
  sys.EachStepFrom P sys.init schedule

/-- How many steps of the replay are among those counted. -/
def countFrom (counted : σ → α → Bool) (s : σ) : List α → Nat
  | [] => 0
  | action :: rest =>
    match sys.step s action with
    | none => 0
    | some next => (if counted s action then 1 else 0) + countFrom counted next rest

/-- The system restricted to the steps that meet a decidable condition. -/
def guarded (allowed : σ → α → Prop) [∀ s action, Decidable (allowed s action)] : System σ α where
  init := sys.init
  step := fun s action => if allowed s action then sys.step s action else none

variable {sys} {allowed : σ → α → Prop}

theorem ReachesUnder.refl (s : σ) : sys.ReachesUnder allowed s s := Relation.ReflTransGen.refl

theorem ReachesUnder.tail {s t u : σ} {action : α} (reach : sys.ReachesUnder allowed s t)
    (ok : allowed t action) (step : sys.step t action = some u) : sys.ReachesUnder allowed s u :=
  Relation.ReflTransGen.tail reach ⟨action, ok, step⟩

theorem Reaches.tail {s t u : σ} {action : α} (reach : sys.Reaches s t)
    (step : sys.step t action = some u) : sys.Reaches s u :=
  ReachesUnder.tail reach trivial step

theorem Reaches.single {s t : σ} {action : α} (step : sys.step s action = some t) :
    sys.Reaches s t :=
  Reaches.tail (ReachesUnder.refl s) step

theorem Reaches.trans {s t u : σ} (first : sys.Reaches s t) (second : sys.Reaches t u) :
    sys.Reaches s u :=
  Relation.ReflTransGen.trans first second

/-- What holds at the start of a run and survives each of its steps holds at its end. The step
case may use that the state it leaves is reached, so invariants are proved one on top of another. -/
theorem ReachesUnder.invariant {s t : σ} (reach : sys.ReachesUnder allowed s t)
    (Inv : σ → Prop) (start : Inv s)
    (preserved : ∀ u action v, sys.ReachesUnder allowed s u → Inv u → allowed u action →
      sys.step u action = some v → Inv v) : Inv t := by
  induction reach with
  | refl => exact start
  | tail before last ih =>
    obtain ⟨action, ok, step⟩ := last
    exact preserved _ action _ before ih ok step

theorem Reaches.invariant {s t : σ} (reach : sys.Reaches s t) (Inv : σ → Prop) (start : Inv s)
    (preserved : ∀ u action v, Inv u → sys.step u action = some v → Inv v) : Inv t :=
  ReachesUnder.invariant reach Inv start
    (fun u action v _ inv _ step => preserved u action v inv step)

/-- Weakening the condition keeps every run. -/
theorem ReachesUnder.mono {other : σ → α → Prop} {s t : σ} (reach : sys.ReachesUnder allowed s t)
    (weaker : ∀ u action, allowed u action → other u action) : sys.ReachesUnder other s t :=
  reach.invariant _ (ReachesUnder.refl s)
    (fun u action _ _ inv ok step => inv.tail (weaker u action ok) step)

theorem ReachesUnder.reaches {s t : σ} (reach : sys.ReachesUnder allowed s t) :
    sys.Reaches s t :=
  reach.mono (fun _ _ _ => trivial)

theorem reaches_of_runFrom {s t : σ} {schedule : List α} (replay : sys.runFrom s schedule = some t) :
    sys.Reaches s t := by
  induction schedule generalizing s with
  | nil =>
    simp only [runFrom, Option.some.injEq] at replay
    exact replay ▸ ReachesUnder.refl s
  | cons action rest ih =>
    cases step : sys.step s action with
    | none => simp [runFrom, step] at replay
    | some next =>
      simp only [runFrom, step] at replay
      exact (Reaches.single step).trans (ih replay)

theorem reachable_of_run {t : σ} {schedule : List α} (replay : sys.run schedule = some t) :
    sys.Reachable t :=
  reaches_of_runFrom replay

/-- Two conditions that agree on every step from a reachable state agree on every replay. -/
theorem eachStepFrom_congr {P Q : σ → α → σ → Prop} {s : σ} (reach : sys.Reachable s)
    (same : ∀ u action v, sys.Reachable u → sys.step u action = some v →
      (P u action v ↔ Q u action v)) (schedule : List α) :
    sys.EachStepFrom P s schedule ↔ sys.EachStepFrom Q s schedule := by
  induction schedule generalizing s with
  | nil => exact Iff.rfl
  | cons action rest ih =>
    cases step : sys.step s action with
    | none => simp only [EachStepFrom, step]
    | some next =>
      simp only [EachStepFrom, step]
      exact and_congr (same s action next reach step) (ih (reach.tail step))

theorem eachStep_congr {P Q : σ → α → σ → Prop}
    (same : ∀ u action v, sys.Reachable u → sys.step u action = some v →
      (P u action v ↔ Q u action v)) (schedule : List α) :
    sys.EachStep P schedule ↔ sys.EachStep Q schedule :=
  eachStepFrom_congr (ReachesUnder.refl _) same schedule

/-- An invariant that may look at the actions still to come gives what each step does. -/
theorem eachStepFrom_of_invariant {P : σ → α → σ → Prop} (Inv : σ → List α → Prop)
    (preserved : ∀ u action rest v, Inv u (action :: rest) → sys.step u action = some v →
      P u action v ∧ Inv v rest) {s : σ} {schedule : List α} (start : Inv s schedule) :
    sys.EachStepFrom P s schedule := by
  induction schedule generalizing s with
  | nil => trivial
  | cons action rest ih =>
    cases step : sys.step s action with
    | none => simp only [EachStepFrom, step]
    | some next =>
      obtain ⟨held, later⟩ := preserved s action rest next start step
      simp only [EachStepFrom, step]
      exact ⟨held, ih later⟩

/-- A measure that grows by one in the steps counted, and in no others, is their number. -/
theorem measure_eq_count {counted : σ → α → Bool} (measure : σ → Nat)
    (grows : ∀ u action v, sys.Reachable u → sys.step u action = some v →
      measure v = measure u + if counted u action then 1 else 0)
    {s t : σ} (reach : sys.Reachable s) {schedule : List α}
    (replay : sys.runFrom s schedule = some t) :
    measure t = measure s + sys.countFrom counted s schedule := by
  induction schedule generalizing s with
  | nil =>
    simp only [runFrom, Option.some.injEq] at replay
    rw [replay, countFrom, Nat.add_zero]
  | cons action rest ih =>
    cases step : sys.step s action with
    | none => simp [runFrom, step] at replay
    | some next =>
      simp only [runFrom, step] at replay
      simp only [countFrom, step]
      rw [ih (reach.tail step) replay, grows s action next reach step, Nat.add_assoc]

/-- A run of the guarded system is a run of the system under its guard. -/
theorem reachableUnder_of_guarded [∀ s action, Decidable (allowed s action)] {t : σ}
    (reach : (sys.guarded allowed).Reachable t) : sys.ReachableUnder allowed t := by
  refine Reaches.invariant reach (sys.ReachableUnder allowed) (ReachesUnder.refl _) ?_
  intro u action v inv step
  by_cases ok : allowed u action
  · simp only [guarded, if_pos ok] at step
    exact inv.tail ok step
  · simp [guarded, if_neg ok] at step

/-- The same for a replay. -/
theorem runFrom_of_guarded [∀ s action, Decidable (allowed s action)] {s t : σ} {schedule : List α}
    (replay : (sys.guarded allowed).runFrom s schedule = some t) :
    sys.runFrom s schedule = some t ∧
      sys.EachStepFrom (fun u action _ => allowed u action) s schedule := by
  induction schedule generalizing s with
  | nil => exact ⟨replay, trivial⟩
  | cons action rest ih =>
    by_cases ok : allowed s action
    · simp only [runFrom, guarded, if_pos ok] at replay
      cases step : sys.step s action with
      | none => simp [step] at replay
      | some next =>
        simp only [step] at replay
        obtain ⟨later, each⟩ := ih replay
        simp only [runFrom, EachStepFrom, step]
        exact ⟨later, ok, each⟩
    · simp [runFrom, guarded, if_neg ok] at replay

/-! Forward simulation: a system that does in a number of steps what another does in one. -/

/-- Each step of `sys` that meets the condition is matched by a run of `other` between related states. -/
def SimulatedBy {τ β : Type*} (sys : System σ α) (allowed : σ → α → Prop) (other : System τ β)
    (related : τ → σ → Prop) : Prop :=
  ∀ t s action next, related t s → allowed s action → sys.step s action = some next →
    ∃ u, other.Reaches t u ∧ related u next

/-- What is matched step by step is matched run by run. -/
theorem SimulatedBy.run {τ β : Type*} {other : System τ β} {related : τ → σ → Prop}
    (simulated : SimulatedBy sys allowed other related) {t : τ} {s next : σ} (start : related t s)
    (reach : sys.ReachesUnder allowed s next) : ∃ u, other.Reaches t u ∧ related u next := by
  apply reach.invariant (fun next => ∃ u, other.Reaches t u ∧ related u next)
  · exact ⟨t, ReachesUnder.refl t, start⟩
  · intro v action w _ matched ok step
    obtain ⟨u, reached, held⟩ := matched
    obtain ⟨x, further, again⟩ := simulated u v action w held ok step
    exact ⟨x, reached.trans further, again⟩

end System

end SensorGateway.Lib.Transition

import Mathlib.Data.List.MinMax
import Mathlib.Order.Nat
import SensorGateway.Lib.Relaxed
import SensorGateway.Lib.Transition

/-! `update_max` of `main.rs`: the greatest number of readings that have been available, kept in one
relaxed atomic. The weak exchange can fail for no reason, and a load can be behind. -/

namespace SensorGateway.Reader.Peak
open SensorGateway.Lib.Relaxed SensorGateway.Lib.Relaxed.Location SensorGateway.Lib.Transition
variable {ι : Type} [DecidableEq ι]

/-- Where a thread is in `update_max`. -/
inductive Place where
  | outside
  | entered (v : Nat)
  /-- In front of the test of the loop. -/
  | testing (v cur : Nat)
  deriving DecidableEq, Repr

/-- The value a thread has called with. -/
def Place.value : Place → Option Nat
  | .outside => none
  | .entered v => some v
  | .testing v _ => some v

/-- The cell, the threads, the calls that have begun and ended, and what plain loads have found. -/
structure State (ι : Type) where
  cell : Location ι Nat
  place : ι → Place
  called : List Nat
  finished : List (ι × Nat)
  reports : List (ι × Nat)

inductive Action (ι : Type) where
  | call (i : ι) (v : Nat)
  /-- The load at the start finds the value at that place of the cell's order. -/
  | load (i : ι) (at_place : Nat)
  | exchange (i : ι)
  /-- The exchange fails, with or without a reason, and gives the value it has found. -/
  | fail (i : ι) (at_place : Nat)
  /-- `v > cur` is false. -/
  | leave (i : ι)
  /-- `load` of a thread that is not in `update_max`. -/
  | report (i : ι) (at_place : Nat)

namespace State

def goto (s : State ι) (i : ι) (place : Place) : State ι :=
  { s with place := Function.update s.place i place }

@[simp] theorem place_goto_self (s : State ι) (i : ι) (place : Place) : (s.goto i place).place i = place :=
  Function.update_self ..

@[simp] theorem place_goto_other {i j : ι} (apart : j ≠ i) (s : State ι) (place : Place) :
    (s.goto i place).place j = s.place j := Function.update_of_ne apart ..

def finish (s : State ι) (i : ι) (v : Nat) : State ι :=
  { s.goto i .outside with finished := s.finished ++ [(i, v)] }

end State

def step (s : State ι) : Action ι → Option (State ι)
  | .call i v =>
    match s.place i with
    | .outside => some { s.goto i (.entered v) with called := s.called ++ [v] }
    | _ => none
  | .load i n =>
    match s.place i with
    | .entered v => (s.cell.load i n).map fun found => { s.goto i (.testing v found.1) with cell := found.2 }
    | _ => none
  | .exchange i =>
    match s.place i with
    | .testing v cur =>
      if cur < v ∧ s.cell.newest = some cur then some { s.finish i v with cell := s.cell.write i v }
      else none
    | _ => none
  | .fail i n =>
    match s.place i with
    | .testing v cur =>
      if cur < v then
        (s.cell.load i n).map fun found => { s.goto i (.testing v found.1) with cell := found.2 }
      else none
    | _ => none
  | .leave i =>
    match s.place i with
    | .testing v cur => if cur < v then none else some (s.finish i v)
    | _ => none
  | .report i n =>
    match s.place i with
    | .outside =>
      (s.cell.load i n).map fun found =>
        { s with cell := found.2, reports := s.reports ++ [(i, found.1)] }
    | _ => none

def peak : System (State ι) (Action ι) where
  init := ⟨.init 0, fun _ => .outside, [], [], []⟩
  step := step

/-! What holds in every state. -/

/-- What plain loads of the thread have found. -/
def reportsOf (s : State ι) (i : ι) : List Nat :=
  (s.reports.filter fun report => decide (report.1 = i)).map Prod.snd

/-- A thread has met at least what its calls have ended with and what it has reported. -/
structure Sound (s : State ι) : Prop where
  rising : s.cell.Rising
  origin : ∀ x ∈ s.cell.values, x = 0 ∨ x ∈ s.called
  held : ∀ i v, (s.place i).value = some v → v ∈ s.called
  tested : ∀ i v cur, s.place i = .testing v cur → s.cell.met i = some cur
  accounted : ∀ v ∈ s.called, (∃ i, (i, v) ∈ s.finished) ∨ ∃ i, (s.place i).value = some v
  finished : ∀ i v, (i, v) ∈ s.finished → ∀ x, s.cell.met i = some x → v ≤ x
  reported : ∀ i y, (i, y) ∈ s.reports → y ∈ s.cell.values ∧ ∀ x, s.cell.met i = some x → y ≤ x
  ordered : ∀ i, (reportsOf s i).Pairwise (· ≤ ·)

section
variable {s t : State ι} {i : ι} {v cur : Nat}

/-- A thread goes on in the cell, inside the same call. -/
theorem Sound.moved (sound : Sound s) {cell : Location ι Nat} {place : ι → Place} (rising : cell.Rising)
    (grows : ∀ x ∈ s.cell.values, x ∈ cell.values) (origin : ∀ x ∈ cell.values, x = 0 ∨ x ∈ s.called)
    (ahead : ∀ j x y, s.cell.met j = some x → cell.met j = some y → x ≤ y)
    (same : ∀ j, (place j).value = (s.place j).value)
    (tested : ∀ j v cur, place j = .testing v cur → cell.met j = some cur) :
    Sound { s with cell, place } where
  rising := rising
  origin := origin
  held := fun j v holds => sound.held j v (same j ▸ holds)
  tested := tested
  accounted := by
    intro v called
    rcases sound.accounted v called with done | ⟨j, holds⟩
    · exact Or.inl done
    · exact Or.inr ⟨j, (same j).trans holds⟩
  finished := by
    intro j v done y met
    obtain ⟨x, before⟩ := sound.rising.met_isSome j
    exact (sound.finished j v done x before).trans (ahead j x y before met)
  reported := by
    intro j y there
    obtain ⟨member, least⟩ := sound.reported j y there
    refine ⟨grows y member, ?_⟩
    intro z met
    obtain ⟨x, before⟩ := sound.rising.met_isSome j
    exact (least x before).trans (ahead j x z before met)
  ordered := sound.ordered

theorem Sound.finish (sound : Sound s) (holds : (s.place i).value = some v)
    (enough : ∀ x, s.cell.met i = some x → v ≤ x) : Sound (s.finish i v) where
  rising := sound.rising
  origin := sound.origin
  held := by
    intro j w value
    change ((s.goto i .outside).place j).value = some w at value
    by_cases here : j = i
    · subst here
      rw [State.place_goto_self] at value
      cases value
    · rw [State.place_goto_other here] at value
      exact sound.held j w value
  tested := by
    intro j w cur at_test
    change (s.goto i .outside).place j = .testing w cur at at_test
    by_cases here : j = i
    · subst here
      rw [State.place_goto_self] at at_test
      cases at_test
    · rw [State.place_goto_other here] at at_test
      exact sound.tested j w cur at_test
  accounted := by
    intro w called
    rcases sound.accounted w called with ⟨j, done⟩ | ⟨j, value⟩
    · exact Or.inl ⟨j, List.mem_append_left _ done⟩
    · by_cases here : j = i
      · subst here
        obtain rfl : v = w := Option.some.inj (holds.symm.trans value)
        exact Or.inl ⟨j, List.mem_append_right _ List.mem_cons_self⟩
      · exact Or.inr ⟨j, (congrArg Place.value (State.place_goto_other here s _)).trans value⟩
  finished := by
    intro j w done x met
    rcases List.mem_append.mp done with old | new
    · exact sound.finished j w old x met
    · cases List.mem_singleton.mp new
      exact enough x met
  reported := sound.reported
  ordered := sound.ordered

/-- The load takes its thread forward, and no other. -/
theorem meet_ahead (rising : s.cell.Rising) {n x : Nat} (forward : s.cell.seen i ≤ n)
    (there : s.cell.values[n]? = some x) (j : ι) (y z : Nat) (before : s.cell.met j = some y)
    (after : (s.cell.meet i n).met j = some z) : y ≤ z := by
  by_cases here : j = i
  · subst here
    rw [met_meet_self there] at after
    cases after
    exact rising.le_of_le forward before there
  · rw [met_meet_other here, before] at after
    exact (Option.some.inj after).le

/-- What a thread in the loop does with a value it has loaded. -/
theorem Sound.loaded (sound : Sound s) (holds : (s.place i).value = some v) {n x : Nat}
    {cell : Location ι Nat} (found : s.cell.load i n = some (x, cell)) :
    Sound { s.goto i (.testing v x) with cell } := by
  obtain ⟨forward, there, rfl⟩ := load_eq_some found
  apply sound.moved (sound.rising.meet there) (fun _ member => member) sound.origin
    (meet_ahead sound.rising forward there)
  · intro j
    by_cases here : j = i
    · subst here
      rw [State.place_goto_self, holds]
      rfl
    · rw [State.place_goto_other here]
  · intro j w cur at_test
    by_cases here : j = i
    · subst here
      rw [State.place_goto_self] at at_test
      cases at_test
      exact met_meet_self there
    · rw [State.place_goto_other here] at at_test
      rw [met_meet_other here]
      exact sound.tested j w cur at_test

theorem Sound.exchanged (sound : Sound s) (here : s.place i = .testing v cur) (above : cur < v)
    (last : s.cell.newest = some cur) : Sound { s.finish i v with cell := s.cell.write i v } := by
  have holds : (s.place i).value = some v := by rw [here]; rfl
  have written : Sound { s.goto i (.testing v v) with cell := s.cell.write i v } := by
    apply sound.moved (sound.rising.write last above) fun _ => List.mem_append_left _
    · intro x member
      rcases List.mem_append.mp member with old | new
      · exact sound.origin x old
      · rw [List.mem_singleton.mp new]
        exact Or.inr (sound.held i v holds)
    · intro j x y before after
      by_cases same : j = i
      · subst same
        rw [met_write_self] at after
        cases after
        exact (sound.rising.le_newest (List.mem_of_getElem? before) last).trans above.le
      · rw [sound.rising.met_write_other same, before] at after
        exact (Option.some.inj after).le
    · intro j
      by_cases same : j = i
      · subst same
        rw [State.place_goto_self, holds]
        rfl
      · rw [State.place_goto_other same]
    · intro j w other at_test
      by_cases same : j = i
      · subst same
        rw [State.place_goto_self] at at_test
        cases at_test
        exact met_write_self
      · rw [State.place_goto_other same] at at_test
        rw [sound.rising.met_write_other same]
        exact sound.tested j w other at_test
  have done := written.finish (i := i) (v := v) (congrArg Place.value (State.place_goto_self ..)) (by
    intro x met
    rw [met_write_self] at met
    exact (Option.some.inj met).le)
  rw [State.finish, State.goto, State.goto, Function.update_idem] at done
  exact done

theorem reportsOf_concat (s : State ι) (i j : ι) (x : Nat) :
    reportsOf { s with reports := s.reports ++ [(i, x)] } j =
      if i = j then reportsOf s j ++ [x] else reportsOf s j := by
  unfold reportsOf
  by_cases same : i = j
  · simp [List.filter_append, same]
  · simp [List.filter_append, same]

theorem mem_reportsOf {x : Nat} : x ∈ reportsOf s i ↔ (i, x) ∈ s.reports := by
  simp [reportsOf]

/-- A plain load reports what its thread meets. -/
theorem Sound.report (sound : Sound s) {n x : Nat} {cell : Location ι Nat}
    (found : s.cell.load i n = some (x, cell)) (outside : s.place i = .outside) :
    Sound { s with cell, reports := s.reports ++ [(i, x)] } := by
  obtain ⟨forward, there, rfl⟩ := load_eq_some found
  have moved : Sound { s with cell := s.cell.meet i n, place := s.place } := by
    apply sound.moved (sound.rising.meet there) (fun _ member => member) sound.origin
      (meet_ahead sound.rising forward there) (fun _ => rfl)
    intro j v cur at_test
    have apart : j ≠ i := by
      rintro rfl
      cases outside.symm.trans at_test
    rw [met_meet_other apart]
    exact sound.tested j v cur at_test
  have met : (s.cell.meet i n).met i = some x := met_meet_self there
  constructor
  · exact moved.rising
  · exact moved.origin
  · exact moved.held
  · exact moved.tested
  · exact moved.accounted
  · exact moved.finished
  · intro j y member
    rcases List.mem_append.mp member with old | new
    · exact moved.reported j y old
    · cases List.mem_singleton.mp new
      refine ⟨List.mem_of_getElem? there, ?_⟩
      intro z again
      exact (Option.some.inj (met.symm.trans again)).le
  · intro j
    rw [reportsOf_concat (s := { s with cell := s.cell.meet i n })]
    split
    next same =>
      subst same
      apply List.pairwise_append.mpr
      refine ⟨moved.ordered i, List.pairwise_singleton _ _, ?_⟩
      intro y old z new
      rw [List.mem_singleton.mp new]
      exact (moved.reported i y (mem_reportsOf.mp old)).2 x met
    next => exact moved.ordered j

theorem Sound.call (sound : Sound s) (outside : s.place i = .outside) (v : Nat) :
    Sound { s.goto i (.entered v) with called := s.called ++ [v] } where
  rising := sound.rising
  origin := fun x member => (sound.origin x member).imp_right (List.mem_append_left _)
  held := by
    intro j w holds
    change ((s.goto i (.entered v)).place j).value = some w at holds
    by_cases here : j = i
    · subst here
      rw [State.place_goto_self] at holds
      cases holds
      exact List.mem_append_right _ List.mem_cons_self
    · rw [State.place_goto_other here] at holds
      exact List.mem_append_left _ (sound.held j w holds)
  tested := by
    intro j w cur at_test
    change (s.goto i (.entered v)).place j = .testing w cur at at_test
    by_cases here : j = i
    · subst here
      rw [State.place_goto_self] at at_test
      cases at_test
    · rw [State.place_goto_other here] at at_test
      exact sound.tested j w cur at_test
  accounted := by
    intro w called
    rcases List.mem_append.mp called with old | new
    · rcases sound.accounted w old with done | ⟨j, holds⟩
      · exact Or.inl done
      · have apart : j ≠ i := by
          rintro rfl
          rw [outside] at holds
          cases holds
        exact Or.inr ⟨j, (congrArg Place.value (State.place_goto_other apart s _)).trans holds⟩
    · refine Or.inr ⟨i, ?_⟩
      rw [List.mem_singleton.mp new]
      exact congrArg Place.value (State.place_goto_self s i _)
  finished := sound.finished
  reported := sound.reported
  ordered := sound.ordered

theorem Sound.step (sound : Sound s) {action : Action ι} (moved : peak.step s action = some t) :
    Sound t := by
  change Peak.step s action = some t at moved
  cases action with
  | call i v =>
    rw [Peak.step] at moved
    split at moved
    · cases moved
      exact sound.call ‹_› v
    · cases moved
  | load i n =>
    rw [Peak.step] at moved
    split at moved
    next v here =>
      obtain ⟨found, loaded, rfl⟩ := Option.map_eq_some_iff.mp moved
      exact sound.loaded (by rw [here]; rfl) loaded
    next => cases moved
  | exchange i =>
    rw [Peak.step] at moved
    split at moved
    next v cur here =>
      rw [Option.ite_none_right_eq_some] at moved
      obtain ⟨⟨above, last⟩, moved⟩ := moved
      cases moved
      exact sound.exchanged here above last
    next => cases moved
  | fail i n =>
    rw [Peak.step] at moved
    split at moved
    next v cur here =>
      rw [Option.ite_none_right_eq_some] at moved
      obtain ⟨found, loaded, rfl⟩ := Option.map_eq_some_iff.mp moved.2
      exact sound.loaded (by rw [here]; rfl) loaded
    next => cases moved
  | leave i =>
    rw [Peak.step] at moved
    split at moved
    next v cur here =>
      rw [Option.ite_none_left_eq_some] at moved
      obtain ⟨below, moved⟩ := moved
      cases moved
      refine sound.finish (by rw [here]; rfl) ?_
      intro x met
      obtain rfl : cur = x := Option.some.inj ((sound.tested i v cur here).symm.trans met)
      omega
    next => cases moved
  | report i n =>
    rw [Peak.step] at moved
    split at moved
    next here =>
      obtain ⟨found, loaded, rfl⟩ := Option.map_eq_some_iff.mp moved
      exact sound.report loaded here
    next => cases moved

theorem reachable_sound (reach : peak.Reachable s) : Sound s := by
  apply System.Reaches.invariant reach Sound
  · constructor
    · exact rising_init 0
    · exact fun x member => Or.inl (List.mem_singleton.mp member)
    · exact fun i v holds => by cases holds
    · exact fun i v cur at_test => by cases at_test
    · exact fun v called => absurd called List.not_mem_nil
    · exact fun i v done => absurd done List.not_mem_nil
    · exact fun i y there => absurd there List.not_mem_nil
    · exact fun i => List.Pairwise.nil
  · exact fun u action v sound moved => sound.step moved

theorem Sound.le_newest (sound : Sound s) {x : Nat} (done : (i, v) ∈ s.finished)
    (last : s.cell.newest = some x) : v ≤ x := by
  obtain ⟨y, met⟩ := sound.rising.met_isSome i
  exact (sound.finished i v done y met).trans (sound.rising.le_newest (List.mem_of_getElem? met) last)

/-- Once every call has ended the cell holds the greatest value of all. -/
theorem Sound.newest_outside [Inhabited ι] (sound : Sound s) (outside : ∀ i, s.place i = .outside) :
    s.cell.newest = some (s.called.foldr max 0) := by
  obtain ⟨x, last⟩ := sound.rising.newest_isSome default
  have above : s.called.foldr max 0 ≤ x := by
    apply List.max_le_of_forall_le
    intro v called
    rcases sound.accounted v called with ⟨i, done⟩ | ⟨i, inside⟩
    · exact sound.le_newest done last
    · rw [outside i] at inside
      cases inside
  have below : x ≤ s.called.foldr max 0 := by
    rcases sound.origin x (List.mem_of_getLast? last) with rfl | called
    · exact Nat.zero_le _
    · exact List.le_max_of_le called (le_refl x)
  rw [last, Nat.le_antisymm below above]

/-- The next report of a thread is at least the values of its calls. -/
theorem Sound.next_report (sound : Sound s) {n : Nat} (moved : peak.step s (.report i n) = some t) :
    ∃ x, t.reports = s.reports ++ [(i, x)] ∧ ∀ v, (i, v) ∈ s.finished → v ≤ x := by
  change Peak.step s (.report i n) = some t at moved
  rw [Peak.step] at moved
  split at moved
  next here =>
    obtain ⟨⟨x, cell⟩, loaded, rfl⟩ := Option.map_eq_some_iff.mp moved
    refine ⟨x, rfl, ?_⟩
    intro v done
    have after := sound.report loaded here
    obtain ⟨-, there, rfl⟩ := load_eq_some loaded
    exact after.finished i v done x (met_meet_self there)
  next => cases moved

end

/-- Any number of threads in `update_max`, with weak exchanges and loads that are behind: what a thread
reports is a value some call had or 0, never less than before and never less than the thread's own calls;
the cell is never below a call that has ended, and it is the greatest value once all have. -/
theorem peak_exact [Inhabited ι] (s : State ι) (reach : peak.Reachable s) :
    (∀ i x, (i, x) ∈ s.reports → x = 0 ∨ x ∈ s.called) ∧
      (∀ i, (reportsOf s i).Pairwise (· ≤ ·)) ∧
      (∀ i n t, peak.step s (.report i n) = some t →
        ∃ x, t.reports = s.reports ++ [(i, x)] ∧ ∀ v, (i, v) ∈ s.finished → v ≤ x) ∧
      (∀ i v x, (i, v) ∈ s.finished → s.cell.newest = some x → v ≤ x) ∧
      ((∀ i, s.place i = .outside) → s.cell.newest = some (s.called.foldr max 0)) := by
  have sound := reachable_sound reach
  refine ⟨?_, sound.ordered, fun i n t moved => sound.next_report moved,
    fun i v x done last => sound.le_newest done last, sound.newest_outside⟩
  intro i x there
  exact sound.origin x (sound.reported i x there).1

/-- Two threads call with 5 and 3; the exchange of the second fails, it loads 5 and leaves. -/
def overtaken : List (Action Bool) :=
  [.call true 5, .call false 3, .load true 0, .load false 0, .exchange true, .fail false 1, .leave false,
    .report false 1]

theorem peak_exact_overtaken :
    ∃ s : State Bool, peak.run overtaken = some s ∧ s.cell.values = [0, 5] ∧
      s.reports = [(false, 5)] ∧ s.cell.newest = some (s.called.foldr max 0) := by
  let s := (peak.run overtaken).get (by decide)
  have replay : peak.run overtaken = some s := (Option.some_get _).symm
  exact ⟨s, replay, by decide, by decide,
    (peak_exact s (System.reachable_of_run replay)).2.2.2.2 (by decide)⟩

end SensorGateway.Reader.Peak

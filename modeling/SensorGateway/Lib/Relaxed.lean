import Mathlib.Data.List.Basic
import Mathlib.Logic.Function.Basic
import Mathlib.Order.Lattice

/-! One atomic location under relaxed ordering. Its values have one order, in which no thread ever goes
back, and a load may find any value from where the thread is. A read-modify-write works on the newest. -/

namespace SensorGateway.Lib.Relaxed
variable {ι α : Type*}

/-- The values in their order, and the place of the newest one that each thread has met. -/
structure Location (ι α : Type*) where
  values : List α
  seen : ι → Nat

namespace Location

def init (start : α) : Location ι α := ⟨[start], fun _ => 0⟩

def newest (l : Location ι α) : Option α := l.values.getLast?

/-- The newest value that the thread has met. -/
def met (l : Location ι α) (i : ι) : Option α := l.values[l.seen i]?

section
variable [DecidableEq ι]

/-- The thread meets the value at a place. -/
def meet (l : Location ι α) (i : ι) (place : Nat) : Location ι α :=
  { l with seen := Function.update l.seen i place }

/-- The load finds the value at a place that the thread has not gone beyond. -/
def load (l : Location ι α) (i : ι) (place : Nat) : Option (α × Location ι α) :=
  if l.seen i ≤ place then l.values[place]?.map fun x => (x, l.meet i place) else none

/-- The write part of a read-modify-write. -/
def write (l : Location ι α) (i : ι) (x : α) : Location ι α :=
  ⟨l.values ++ [x], Function.update l.seen i l.values.length⟩

end

/-- Each value is above those before it. -/
structure Rising [LT α] (l : Location ι α) : Prop where
  sorted : l.values.Pairwise (· < ·)
  inside : ∀ i, l.seen i < l.values.length

theorem rising_init [LT α] (start : α) : (init start : Location ι α).Rising :=
  ⟨List.pairwise_singleton _ _, fun _ => Nat.one_pos⟩

section
variable [DecidableEq ι] {l m : Location ι α} {i j : ι} {place : Nat} {x y : α}

theorem load_eq_some (loaded : l.load i place = some (x, m)) :
    l.seen i ≤ place ∧ l.values[place]? = some x ∧ m = l.meet i place := by
  rw [load, Option.ite_none_right_eq_some] at loaded
  obtain ⟨forward, found⟩ := loaded
  obtain ⟨value, there, same⟩ := Option.map_eq_some_iff.mp found
  cases same
  exact ⟨forward, there, rfl⟩

@[simp] theorem seen_meet_self : (l.meet i place).seen i = place := Function.update_self ..

@[simp] theorem seen_meet_other (apart : j ≠ i) : (l.meet i place).seen j = l.seen j :=
  Function.update_of_ne apart ..

@[simp] theorem seen_write_self : (l.write i x).seen i = l.values.length := Function.update_self ..

@[simp] theorem seen_write_other (apart : j ≠ i) : (l.write i x).seen j = l.seen j :=
  Function.update_of_ne apart ..

theorem met_meet_self (there : l.values[place]? = some x) : (l.meet i place).met i = some x := by
  rw [met, seen_meet_self]
  exact there

theorem met_meet_other (apart : j ≠ i) : (l.meet i place).met j = l.met j := by
  rw [met, seen_meet_other apart]
  rfl

theorem met_write_self : (l.write i x).met i = some x := by
  rw [met, seen_write_self]
  exact List.getElem?_concat_length

end

section
variable [LinearOrder α] {l : Location ι α} {i j : ι} {place : Nat} {x y : α}

theorem Rising.met_isSome (rising : l.Rising) (i : ι) : ∃ x, l.met i = some x :=
  ⟨_, List.getElem?_eq_getElem (rising.inside i)⟩

/-- A value further on is no smaller. -/
theorem Rising.le_of_le (rising : l.Rising) {a b : Nat} (order : a ≤ b) (first : l.values[a]? = some x)
    (second : l.values[b]? = some y) : x ≤ y := by
  obtain ⟨inside, rfl⟩ := List.getElem?_eq_some_iff.mp first
  obtain ⟨within, rfl⟩ := List.getElem?_eq_some_iff.mp second
  rcases Nat.lt_or_eq_of_le order with before | same
  · exact (List.pairwise_iff_getElem.mp rising.sorted a b inside within before).le
  · subst same
    exact le_refl _

theorem Rising.le_newest (rising : l.Rising) (member : x ∈ l.values) (last : l.newest = some y) :
    x ≤ y := by
  obtain ⟨a, first⟩ := List.mem_iff_getElem?.mp member
  have bound := (List.getElem?_eq_some_iff.mp first).1
  rw [newest, List.getLast?_eq_getElem?] at last
  exact rising.le_of_le (by omega) first last

theorem Rising.newest_isSome (rising : l.Rising) (i : ι) : ∃ x, l.newest = some x := by
  obtain ⟨x, met⟩ := rising.met_isSome i
  cases last : l.newest with
  | none =>
    rw [newest, List.getLast?_eq_none_iff] at last
    rw [Location.met, last, List.getElem?_nil] at met
    cases met
  | some y => exact ⟨y, rfl⟩

variable [DecidableEq ι]

theorem Rising.meet (rising : l.Rising) (there : l.values[place]? = some x) : (l.meet i place).Rising := by
  refine ⟨rising.sorted, ?_⟩
  intro j
  by_cases same : j = i
  · subst same
    rw [seen_meet_self]
    exact (List.getElem?_eq_some_iff.mp there).1
  · rw [seen_meet_other same]
    exact rising.inside j

/-- Only a greater value is written. -/
theorem Rising.write (rising : l.Rising) (last : l.newest = some y) (above : y < x) :
    (l.write i x).Rising := by
  constructor
  · apply List.pairwise_append.mpr
    refine ⟨rising.sorted, List.pairwise_singleton _ _, ?_⟩
    intro a old b new
    rw [List.mem_singleton.mp new]
    exact (rising.le_newest old last).trans_lt above
  · intro j
    have length : (l.write i x).values.length = l.values.length + 1 := List.length_append
    have inside := rising.inside j
    by_cases same : j = i
    · subst same
      rw [seen_write_self]
      omega
    · rw [seen_write_other same]
      omega

theorem Rising.met_write_other (rising : l.Rising) (apart : j ≠ i) : (l.write i x).met j = l.met j := by
  rw [met, seen_write_other apart]
  exact List.getElem?_append_left (rising.inside j)

end

end Location

end SensorGateway.Lib.Relaxed

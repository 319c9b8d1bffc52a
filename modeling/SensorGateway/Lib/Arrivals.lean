import Mathlib.Algebra.BigOperators.Group.Finset.Basic
import Mathlib.Algebra.BigOperators.Group.Finset.Piecewise
import Mathlib.Data.Fintype.Defs
import Mathlib.Data.List.Destutter

/-! How often a history changes, and where it arrives when it does. A history is the value it starts
with and the values after each step. -/

namespace SensorGateway.Lib.Arrivals
variable {α : Type*} [DecidableEq α]

/-- How often the history arrives at `x` from elsewhere. -/
def arrivals (x start : α) : List α → Nat
  | [] => 0
  | next :: later => (if start ≠ next ∧ next = x then 1 else 0) + arrivals x next later

def changes (start : α) : List α → Nat
  | [] => 0
  | next :: later => (if start ≠ next then 1 else 0) + changes next later

/-- Every change arrives somewhere. -/
theorem sum_arrivals [Fintype α] (start : α) (history : List α) :
    ∑ x, arrivals x start history = changes start history := by
  induction history generalizing start with
  | nil => simp only [arrivals, changes, Finset.sum_const_zero]
  | cons next later ih =>
    simp only [arrivals, changes, Finset.sum_add_distrib, ih]
    congr 1
    by_cases moves : start = next
    · simp [moves]
    · simp [moves]

/-- A history is at `x` at some time just when it starts there or arrives there. -/
theorem mem_iff_arrivals (x start : α) (history : List α) :
    x ∈ start :: history ↔ start = x ∨ 0 < arrivals x start history := by
  induction history generalizing start with
  | nil => simp [arrivals, eq_comm]
  | cons next later ih =>
    rw [List.mem_cons, ih, arrivals, eq_comm]
    by_cases here : start = x
    · simp [here]
    · by_cases there : next = x
      · subst there
        have arrives : 0 < 1 + arrivals next next later := by omega
        simp [here, arrives]
      · simp [here, there]

theorem arrivals_le_length (x start : α) (history : List α) :
    arrivals x start history ≤ history.length := by
  induction history generalizing start with
  | nil => exact le_refl 0
  | cons next later ih =>
    have rest := ih next
    rw [arrivals, List.length_cons]
    split <;> omega

/-! A history without its repetitions. -/

theorem getLast?_destutter' (start : α) (history : List α) :
    (history.destutter' (· ≠ ·) start).getLast? = (start :: history).getLast? := by
  induction history generalizing start with
  | nil => rfl
  | cons next later ih =>
    by_cases moves : start ≠ next
    · rw [List.destutter'_cons_pos _ moves, List.getLast?_cons, ih, List.getLast?_cons_cons,
        List.getLast?_cons, Option.getD_some]
    · obtain rfl : start = next := not_not.mp moves
      rw [List.destutter'_cons_neg _ moves, ih, List.getLast?_cons_cons]

theorem getLast?_destutter (history : List α) :
    (history.destutter (· ≠ ·)).getLast? = history.getLast? := by
  cases history with
  | nil => rfl
  | cons start later => exact getLast?_destutter' start later

theorem destutter'_concat (start : α) (history : List α) (last : α) :
    (history ++ [last]).destutter' (· ≠ ·) start = history.destutter' (· ≠ ·) start ++
      if (start :: history).getLast? = some last then [] else [last] := by
  induction history generalizing start with
  | nil => by_cases same : start = last <;> simp [same]
  | cons next later ih =>
    rw [List.getLast?_cons_cons]
    by_cases moves : start ≠ next
    · rw [List.cons_append, List.destutter'_cons_pos _ moves, List.destutter'_cons_pos _ moves, ih,
        List.cons_append]
    · obtain rfl : start = next := not_not.mp moves
      rw [List.cons_append, List.destutter'_cons_neg _ moves, List.destutter'_cons_neg _ moves, ih]

/-- The value added last is left out just when the history was there already. -/
theorem destutter_concat (history : List α) (last : α) :
    (history ++ [last]).destutter (· ≠ ·) = history.destutter (· ≠ ·) ++
      if history.getLast? = some last then [] else [last] := by
  cases history with
  | nil => rfl
  | cons start later => exact destutter'_concat start later last

/-! How long the last of a history has been as it is. -/

/-- The number of values at the end that all meet the condition. -/
def streak {β : Type*} (p : β → Bool) (history : List β) : Nat :=
  (history.reverse.takeWhile p).length

theorem streak_concat {β : Type*} (p : β → Bool) (history : List β) (last : β) :
    streak p (history ++ [last]) = if p last then streak p history + 1 else 0 := by
  unfold streak
  rw [List.reverse_concat, List.takeWhile_cons]
  split <;> rfl

end SensorGateway.Lib.Arrivals

import Mathlib.Data.List.Basic
import Mathlib.Data.Nat.ModEq

/-! Positions of a ring. An index of a ring of `c` slots is an absolute position modulo `c`;
two positions less than `c` apart never share a slot. -/

namespace SensorGateway.Lib.Ring

theorem mod_ne_of_lt {c i j : Nat} (below : i < j) (near : j < i + c) : i % c ≠ j % c := by
  intro same
  have split : j = i + (j - i) := by omega
  rw [split] at same
  have zero : (j - i) % c = 0 := by
    have chain : i + (j - i) ≡ i + 0 [MOD c] := by simpa [Nat.ModEq] using same.symm
    simpa [Nat.ModEq] using Nat.ModEq.add_left_cancel' i chain
  rw [Nat.mod_eq_of_lt (by omega)] at zero
  omega

/-- The number of slots from index `r` on to index `w`, going round at most once. -/
def gap (c r w : Nat) : Nat := if r ≤ w then w - r else c - r + w

theorem gap_mod {c i j : Nat} (ordered : i ≤ j) (near : j < i + c) :
    gap c (i % c) (j % c) = j - i := by
  have positive : 0 < c := by omega
  have low := Nat.mod_lt i positive
  have high := Nat.mod_lt j positive
  have baseI := Nat.div_add_mod i c
  have baseJ := Nat.div_add_mod j c
  have quotients : i / c ≤ j / c := Nat.div_le_div_right ordered
  have quotients' : j / c ≤ i / c + 1 := by
    have raise : j / c ≤ (i + c) / c := Nat.div_le_div_right (by omega)
    rwa [Nat.add_div_right i positive] at raise
  unfold gap
  rcases (by omega : j / c = i / c ∨ j / c = i / c + 1) with same | next
  · rw [same] at baseJ
    rw [if_pos (by omega)]
    omega
  · rw [next, Nat.mul_add, Nat.mul_one] at baseJ
    rw [if_neg (by omega)]
    omega

/-- The gap is the difference of the indices modulo the number of slots. -/
theorem gap_eq_mod {c r w : Nat} (low : r < c) (high : w < c) : gap c r w = (w + c - r) % c := by
  unfold gap
  by_cases ordered : r ≤ w
  · have turned : w + c - r = w - r + c := by omega
    rw [if_pos ordered, turned, Nat.add_mod_right, Nat.mod_eq_of_lt (by omega)]
  · rw [if_neg ordered, Nat.mod_eq_of_lt (by omega)]
    omega

theorem gap_lt {c r w : Nat} (low : r < c) (high : w < c) : gap c r w < c := by
  rw [gap_eq_mod low high]
  exact Nat.mod_lt _ (by omega)

/-- A gap counted from another index is off by the distance of the two. -/
theorem gap_from {c r r' w : Nat} (low : r < c) (low' : r' < c) (high : w < c) :
    gap c r w = (gap c r' w + (r' + c - r)) % c := by
  have turned : w + c - r' + (r' + c - r) = w + c - r + c := by omega
  rw [gap_eq_mod low high, gap_eq_mod low' high, Nat.mod_add_mod, turned, Nat.add_mod_right]

/-- The slots hold the latest entries of a history that was written round the ring. -/
def Recent {T : Type*} (slots history : List T) : Prop :=
  ∀ j, j < history.length → history.length ≤ j + slots.length →
    slots[j % slots.length]? = history[j]?

theorem Recent.nil {T : Type*} (slots : List T) : Recent slots [] := by
  intro j bound
  simp at bound

/-- Writing the next entry into the next slot keeps the latest entries readable. -/
theorem Recent.append {T : Type*} {slots history : List T} (recent : Recent slots history)
    (value : T) : Recent (slots.set (history.length % slots.length) value) (history ++ [value]) := by
  intro j bound near
  simp only [List.length_append, List.length_singleton, List.length_set] at bound near ⊢
  by_cases old : j < history.length
  · have apart : j % slots.length ≠ history.length % slots.length := mod_ne_of_lt old (by omega)
    rw [List.getElem?_set_ne (Ne.symm apart), List.getElem?_append_left old]
    exact recent j old (by omega)
  · have last : j = history.length := by omega
    subst last
    have slot : history.length % slots.length < slots.length := Nat.mod_lt _ (by omega)
    rw [List.getElem?_set_self slot, List.getElem?_append_right (le_refl _)]
    simp

end SensorGateway.Lib.Ring

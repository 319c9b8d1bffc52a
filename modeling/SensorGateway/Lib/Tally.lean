import Mathlib.Algebra.BigOperators.Group.Finset.Basic
import Mathlib.Algebra.BigOperators.Group.Finset.Piecewise
import Mathlib.Algebra.Order.BigOperators.Group.Finset

/-! Counting over a finite family of parties of which one changes at a time. Each party carries a
weight in its local state; the total moves by exactly what the changed party's weight moves. -/

namespace SensorGateway.Lib.Tally
variable {ι σ : Type*} [Fintype ι]

/-- The total weight of all parties. -/
def tally (weight : σ → Nat) (parties : ι → σ) : Nat := ∑ i, weight (parties i)

theorem tally_update [DecidableEq ι] (weight : σ → Nat) (parties : ι → σ) (i : ι) (after : σ) :
    tally weight (Function.update parties i after) + weight (parties i) =
      tally weight parties + weight after := by
  have others : ∑ j ∈ Finset.univ.erase i, weight (Function.update parties i after j) =
      ∑ j ∈ Finset.univ.erase i, weight (parties j) := by
    apply Finset.sum_congr rfl
    intro j member
    rw [Function.update_of_ne (Finset.ne_of_mem_erase member)]
  have before := Finset.sum_erase_add Finset.univ (fun j => weight (parties j)) (Finset.mem_univ i)
  have changed := Finset.sum_erase_add Finset.univ
    (fun j => weight (Function.update parties i after j)) (Finset.mem_univ i)
  simp only [Function.update_self, others] at changed
  show (∑ j, weight (Function.update parties i after j)) + weight (parties i) =
    (∑ j, weight (parties j)) + weight after
  omega

theorem tally_eq_zero {weight : σ → Nat} {parties : ι → σ} :
    tally weight parties = 0 ↔ ∀ i, weight (parties i) = 0 := by
  simp [tally, Finset.sum_eq_zero_iff]

theorem tally_le {weight : σ → Nat} {parties : ι → σ} {bound : Nat}
    (each : ∀ i, weight (parties i) ≤ bound) : tally weight parties ≤ bound * Fintype.card ι := by
  have total := Finset.sum_le_card_nsmul Finset.univ (fun i => weight (parties i)) bound
    (fun i _ => each i)
  rw [Finset.card_univ, Nat.nsmul_eq_mul, Nat.mul_comm] at total
  exact total

end SensorGateway.Lib.Tally

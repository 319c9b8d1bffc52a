import Mathlib.Control.Monad.Basic

/-! Computations over a state that can fail. A failure keeps the state it happened in, so a rule
says what holds after a success and what holds after a failure. -/

namespace SensorGateway.Lib.Fallible

/-- `?`-style code: every operation may end the whole computation with an error. -/
abbrev FallibleM (ε σ α : Type) := ExceptT ε (StateM σ) α

variable {ε σ α β : Type}

/-- Started in `s`, the computation ends well in a state that meets `post`, or fails in one that
meets `fail`. -/
def Ensures (m : FallibleM ε σ α) (s : σ) (post : α → σ → Prop) (fail : ε → σ → Prop) : Prop :=
  match m.run.run s with
  | (.ok a, t) => post a t
  | (.error e, t) => fail e t

namespace Ensures
variable {s : σ} {post post' : α → σ → Prop} {fail fail' : ε → σ → Prop}

theorem pure {a : α} (holds : post a s) : Ensures (Pure.pure a) s post fail := holds

theorem throw {e : ε} (holds : fail e s) : Ensures (throw e) s post fail := holds

theorem modifies {f : σ → σ} {post : Unit → σ → Prop} (holds : post () (f s)) :
    Ensures (modify f) s post fail := holds

theorem gets {post : σ → σ → Prop} (holds : post s s) : Ensures get s post fail := holds

theorem sets {t : σ} {post : PUnit → σ → Prop} (holds : post ⟨⟩ t) : Ensures (set t) s post fail :=
  holds

theorem bind {m : FallibleM ε σ α} {next : α → FallibleM ε σ β} {post : β → σ → Prop}
    (first : Ensures m s (fun a t => Ensures (next a) t post fail) fail) :
    Ensures (m >>= next) s post fail := by
  unfold Ensures at first ⊢
  rw [ExceptT.run_bind, StateT.run_bind]
  cases result : m.run.run s with
  | mk value t =>
    simp only [result] at first
    cases value with
    | ok a => exact first
    | error e => exact first

theorem tryCatch {m : FallibleM ε σ α} {handle : ε → FallibleM ε σ α}
    (first : Ensures m s post (fun e t => Ensures (handle e) t post fail)) :
    Ensures (MonadExcept.tryCatch m handle) s post fail := by
  unfold Ensures at first ⊢
  rw [ExceptT.run_tryCatch, StateT.run_bind]
  cases result : m.run.run s with
  | mk value t =>
    simp only [result] at first
    cases value with
    | ok a => exact first
    | error e => exact first

theorem mono {m : FallibleM ε σ α} (holds : Ensures m s post fail)
    (good : ∀ a t, post a t → post' a t) (bad : ∀ e t, fail e t → fail' e t) :
    Ensures m s post' fail' := by
  unfold Ensures at holds ⊢
  cases result : m.run.run s with
  | mk value t =>
    simp only [result] at holds
    cases value with
    | ok a => exact good a t holds
    | error e => exact bad e t holds

/-- A first part of which something is known already. -/
theorem seq {m : FallibleM ε σ α} {next : α → FallibleM ε σ β} {post : β → σ → Prop}
    {between : α → σ → Prop} (first : Ensures m s between fail')
    (rest : ∀ a t, between a t → Ensures (next a) t post fail)
    (ends : ∀ e t, fail' e t → fail e t) : Ensures (m >>= next) s post fail :=
  bind (first.mono rest ends)

end Ensures

end SensorGateway.Lib.Fallible

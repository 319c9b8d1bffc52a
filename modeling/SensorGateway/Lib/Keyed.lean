import Mathlib.Data.List.Basic

/-! Computations that keep one value for each key. Items of different keys do not meet, so what such a
computation makes of a key depends on that key's items alone, whatever they are interleaved with. -/

namespace SensorGateway.Lib.Keyed

/-- A fold over items that updates the value of the item's key and may put out results, each of
which carries the key it belongs to. -/
structure KeyedFold (σ α κ V β : Type*) [DecidableEq κ] where
  key : α → κ
  tag : β → κ
  next : Option V → α → V
  emit : V → α → List β
  step : σ → α → σ
  get : σ → κ → Option V
  out : σ → List β
  get_step : ∀ s x k, get (step s x) k = if key x = k then some (next (get s k) x) else get s k
  out_step : ∀ s x, out (step s x) = out s ++ emit (next (get s (key x)) x) x
  tag_emit : ∀ v x b, b ∈ emit v x → tag b = key x

namespace KeyedFold
variable {σ α κ V β : Type*} [DecidableEq κ] (c : KeyedFold σ α κ V β)

def run (s : σ) (items : List α) : σ := items.foldl c.step s

/-- The items of one key, in order. -/
def group (k : κ) (items : List α) : List α := items.filter fun x => decide (c.key x = k)

/-- The results of one key's items. -/
def results : Option V → List α → List β
  | _, [] => []
  | old, x :: rest =>
    let value := c.next old x
    c.emit value x ++ results (some value) rest

/-- A key's value is the fold over its own items. -/
theorem get_run (s : σ) (items : List α) (k : κ) :
    c.get (c.run s items) k =
      (c.group k items).foldl (fun old x => some (c.next old x)) (c.get s k) := by
  induction items generalizing s with
  | nil => rfl
  | cons x rest ih =>
    show c.get (c.run (c.step s x) rest) k = _
    rw [ih, c.get_step]
    by_cases same : c.key x = k
    · simp [group, same]
    · simp [group, same]

theorem filter_emit (v : V) (x : α) (k : κ) :
    ((c.emit v x).filter fun b => decide (c.tag b = k)) = if c.key x = k then c.emit v x else [] := by
  by_cases same : c.key x = k
  · rw [if_pos same, List.filter_eq_self]
    exact fun b member => decide_eq_true ((c.tag_emit v x b member).trans same)
  · rw [if_neg same, List.filter_eq_nil_iff]
    exact fun b member tagged => same ((c.tag_emit v x b member).symm.trans (of_decide_eq_true tagged))

/-- A key's results are those of its own items. -/
theorem filter_out_run (s : σ) (items : List α) (k : κ) :
    ((c.out (c.run s items)).filter fun b => decide (c.tag b = k)) =
      ((c.out s).filter fun b => decide (c.tag b = k)) ++
        c.results (c.get s k) (c.group k items) := by
  induction items generalizing s with
  | nil => simp [run, group, results]
  | cons x rest ih =>
    show ((c.out (c.run (c.step s x) rest)).filter fun b => decide (c.tag b = k)) = _
    rw [ih, c.out_step, List.filter_append, c.filter_emit, c.get_step]
    by_cases same : c.key x = k
    · simp [group, results, same]
    · simp [group, same]

end KeyedFold

section Merge
variable {κ V : Type*} [Ord κ] [Std.TransOrd κ] [Std.LawfulEqOrd κ]

/-- Fold the entries of `t` into `m`. -/
def mergeInto (f : Option V → V → V) (m t : Std.ExtTreeMap κ V compare) : Std.ExtTreeMap κ V compare :=
  t.foldl (fun acc k v => acc.alter k fun old => some (f old v)) m

theorem foldl_alter_of_not_mem (f : Option V → V → V) (entries : List (κ × V))
    (m : Std.ExtTreeMap κ V compare) (k : κ) (absent : ∀ entry ∈ entries, entry.1 ≠ k) :
    (entries.foldl (fun acc entry => acc.alter entry.1 fun old => some (f old entry.2)) m)[k]? =
      m[k]? := by
  induction entries generalizing m with
  | nil => rfl
  | cons entry rest ih =>
    have apart : ¬compare entry.1 k = Ordering.eq := by
      rw [Std.compare_eq_iff_eq]
      exact absent entry List.mem_cons_self
    rw [List.foldl_cons, ih _ (fun other member => absent other (List.mem_cons_of_mem _ member)),
      Std.ExtTreeMap.getElem?_alter, if_neg apart]

theorem foldl_alter_of_mem (f : Option V → V → V) (entries : List (κ × V))
    (distinct : entries.Pairwise fun a b => ¬compare a.1 b.1 = Ordering.eq)
    (m : Std.ExtTreeMap κ V compare) (k : κ) (v : V) (member : (k, v) ∈ entries) :
    (entries.foldl (fun acc entry => acc.alter entry.1 fun old => some (f old entry.2)) m)[k]? =
      some (f m[k]? v) := by
  induction entries generalizing m with
  | nil => cases member
  | cons entry rest ih =>
    obtain ⟨others, later⟩ := List.pairwise_cons.mp distinct
    rw [List.foldl_cons]
    obtain here | there := List.mem_cons.mp member
    · subst here
      have absent : ∀ other ∈ rest, other.1 ≠ k := by
        intro other inRest same
        exact others other inRest (by rw [Std.compare_eq_iff_eq]; exact same.symm)
      rw [foldl_alter_of_not_mem f rest _ k absent, Std.ExtTreeMap.getElem?_alter_self]
    · have apart : ¬compare entry.1 k = Ordering.eq := others (k, v) there
      rw [ih later _ there, Std.ExtTreeMap.getElem?_alter, if_neg apart]

/-- Each entry of `t` meets the entry of `m` with its key once; the others stay. -/
theorem getElem?_mergeInto (f : Option V → V → V) (m t : Std.ExtTreeMap κ V compare) (k : κ) :
    (mergeInto f m t)[k]? = match t[k]? with
      | some v => some (f m[k]? v)
      | none => m[k]? := by
  unfold mergeInto
  rw [Std.ExtTreeMap.foldl_eq_foldl_toList]
  cases found : t[k]? with
  | some v =>
    have member := Std.ExtTreeMap.mem_toList_iff_getElem?_eq_some.mpr found
    exact foldl_alter_of_mem f t.toList Std.ExtTreeMap.distinct_keys_toList m k v member
  | none =>
    apply foldl_alter_of_not_mem f t.toList m k
    rintro ⟨other, v⟩ member rfl
    rw [Std.ExtTreeMap.mem_toList_iff_getElem?_eq_some, found] at member
    cases member

end Merge

end SensorGateway.Lib.Keyed

import Mathlib.Data.List.Perm.Basic

/-! A list regrouped by the keys of its items: one group after the other, each in the order of the
list. -/

namespace SensorGateway.Lib.Grouping
variable {A K : Type} [DecidableEq K] (key : A → K)

def group (items : List A) (k : K) : List A := items.filter fun item => decide (key item = k)

def grouped (items : List A) (keys : List K) : List A := keys.flatMap (group key items)

variable {key}

theorem mem_group {items : List A} {k : K} {item : A} :
    item ∈ group key items k ↔ item ∈ items ∧ key item = k := by
  rw [group, List.mem_filter, decide_eq_true_eq]

theorem group_append (first second : List A) (k : K) :
    group key (first ++ second) k = group key first k ++ group key second k :=
  List.filter_append _ _

theorem group_eq_nil {items : List A} {k : K} (none : ∀ item ∈ items, key item ≠ k) :
    group key items k = [] :=
  List.filter_eq_nil_iff.mpr fun item member => by simpa using none item member

theorem filter_group (items : List A) (k : K) (p : A → Bool) :
    (group key items k).filter p = group key (items.filter p) k := by
  rw [group, group, List.filter_filter, List.filter_filter]
  congr 1
  funext item
  exact Bool.and_comm _ _

theorem group_map {f : A → A} (kept : ∀ item, key (f item) = key item) (items : List A) (k : K) :
    group key (items.map f) k = (group key items k).map f := by
  rw [group, group, List.filter_map]
  congr 2
  funext item
  rw [Function.comp_apply, kept]

theorem grouped_map {f : A → A} (kept : ∀ item, key (f item) = key item) (items : List A)
    (keys : List K) : grouped key (items.map f) keys = (grouped key items keys).map f := by
  rw [grouped, grouped, List.map_flatMap]
  exact List.flatMap_congr fun k _ => group_map kept items k

/-- Keys that are all different lose and repeat nothing. -/
theorem grouped_perm {items : List A} {keys : List K} (distinct : keys.Nodup) :
    (grouped key items keys).Perm (items.filter fun item => decide (key item ∈ keys)) := by
  induction keys with
  | nil => simp [grouped]
  | cons k rest ih =>
    obtain ⟨absent, others⟩ := List.nodup_cons.mp distinct
    have first : (items.filter fun item => decide (key item ∈ k :: rest)).filter
        (fun item => decide (key item = k)) = group key items k := by
      rw [List.filter_filter, group]
      congr 1
      funext item
      by_cases here : key item = k <;> simp [here]
    have later : (items.filter fun item => decide (key item ∈ k :: rest)).filter
        (fun item => !decide (key item = k)) = items.filter fun item => decide (key item ∈ rest) := by
      rw [List.filter_filter]
      congr 1
      funext item
      by_cases here : key item = k
      · simp [here, absent]
      · simp [here]
    have split := List.filter_append_perm (fun item => decide (key item = k))
      (items.filter fun item => decide (key item ∈ k :: rest))
    rw [first, later] at split
    exact ((ih others).append_left _).trans split

/-- Within a group nothing is reordered. -/
theorem group_grouped {items : List A} {keys : List K} (distinct : keys.Nodup) (k : K) :
    group key (grouped key items keys) k = if k ∈ keys then group key items k else [] := by
  have same (other : K) : group key (group key items other) k =
      if other = k then group key items k else [] := by
    rw [group, group, List.filter_filter]
    by_cases here : other = k
    · subst here
      rw [if_pos rfl, group]
      congr 1
      funext item
      rw [Bool.and_self]
    · rw [if_neg here, List.filter_eq_nil_iff]
      intro item _ both
      simp only [Bool.and_eq_true, decide_eq_true_eq] at both
      exact here (both.2.symm.trans both.1)
  induction keys with
  | nil => rfl
  | cons other rest ih =>
    obtain ⟨absent, others⟩ := List.nodup_cons.mp distinct
    have split : group key (grouped key items (other :: rest)) k =
        group key (group key items other) k ++ group key (grouped key items rest) k :=
      group_append _ _ k
    rw [split, same, ih others]
    by_cases here : other = k
    · subst here
      rw [if_pos rfl, if_neg absent, if_pos List.mem_cons_self, List.append_nil]
    · rw [if_neg here, List.nil_append]
      simp [Ne.symm here]

/-- The groups follow each other as their keys do. -/
theorem pairwise_grouped {items : List A} {keys : List K} {R : K → K → Prop} (reflexive : ∀ k, R k k)
    (ordered : keys.Pairwise R) :
    (grouped key items keys).Pairwise fun a b => R (key a) (key b) := by
  rw [grouped, List.pairwise_flatMap]
  constructor
  · intro k _
    apply List.pairwise_of_forall_mem_list
    intro a first b second
    rw [(mem_group.mp first).2, (mem_group.mp second).2]
    exact reflexive k
  · apply ordered.imp
    intro k l related a first b second
    rw [(mem_group.mp first).2, (mem_group.mp second).2]
    exact related

omit [DecidableEq K] in
theorem nodup_of_asymmetric {keys : List K} {R : K → K → Prop} (asymmetric : ∀ k l, R k l → ¬R l k)
    (apart : keys.Pairwise R) : keys.Nodup := by
  apply apart.imp
  rintro k _ less rfl
  exact asymmetric k k less less

/-- The items in front of a group are those of the keys that come before it. -/
theorem length_grouped_before {items : List A} {before after : List K} {k : K} {R : K → K → Prop}
    [DecidableRel R] (asymmetric : ∀ k l, R k l → ¬R l k)
    (ordered : (before ++ k :: after).Pairwise R)
    (known : ∀ item ∈ items, key item ∈ before ++ k :: after) :
    (grouped key items before).length = items.countP fun item => decide (R (key item) k) := by
  have distinct := nodup_of_asymmetric asymmetric (List.pairwise_append.mp ordered).1
  rw [(grouped_perm distinct).length_eq, ← List.countP_eq_length_filter]
  apply List.countP_congr
  intro item member
  rw [decide_eq_true_eq, decide_eq_true_eq]
  obtain ⟨-, behind, across⟩ := List.pairwise_append.mp ordered
  constructor
  · intro front
    exact across _ front k List.mem_cons_self
  · intro less
    rcases List.mem_append.mp (known item member) with front | rest
    · exact front
    rcases List.mem_cons.mp rest with same | later
    · rw [same] at less
      exact absurd less (asymmetric _ _ less)
    · exact absurd less (asymmetric _ _ ((List.pairwise_cons.mp behind).1 _ later))

/-- Rows put behind each other, each of its own key, are the groups of the whole. -/
theorem group_flatMap (key : A → K) {keys : List K} (distinct : keys.Nodup) {rows : K → List A}
    (own : ∀ k, ∀ item ∈ rows k, key item = k) (k : K) :
    group key (keys.flatMap rows) k = if k ∈ keys then rows k else [] := by
  induction keys with
  | nil => rfl
  | cons other rest ih =>
    obtain ⟨absent, others⟩ := List.nodup_cons.mp distinct
    rw [List.flatMap_cons, group_append, ih others]
    by_cases here : other = k
    · subst here
      rw [if_neg absent, if_pos List.mem_cons_self, List.append_nil, group, List.filter_eq_self]
      exact fun item member => decide_eq_true (own other item member)
    · have none : group key (rows other) k = [] :=
        group_eq_nil fun item member same => here ((own other item member).symm.trans same)
      rw [none, List.nil_append]
      simp only [List.mem_cons, Ne.symm here, false_or]

end SensorGateway.Lib.Grouping

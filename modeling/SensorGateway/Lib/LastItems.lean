import Mathlib.Order.Lattice
import SensorGateway.Lib.Grouping

/-! The groups of a list against another list, which is ordered by its keys and has as many items of each
key, read backwards. -/

namespace SensorGateway.Lib.LastItems
open Grouping
variable {A K : Type} [DecidableEq K] {key : A → K}

theorem grouped_filter_ne {items : List A} {keys : List K} {k : K} (absent : k ∉ keys) :
    grouped key (items.filter fun item => !decide (key item = k)) keys = grouped key items keys := by
  rw [grouped, grouped]
  apply List.flatMap_congr
  intro other member
  rw [group, group, List.filter_filter]
  congr 1
  funext item
  by_cases here : key item = other
  · have apart : other ≠ k := fun same => absent (same ▸ member)
    simp [here, apart]
  · simp [here]

theorem group_filter_ne {items : List A} {k l : K} (apart : l ≠ k) :
    group key (items.filter fun item => !decide (key item = k)) l = group key items l := by
  have single : grouped key (items.filter fun item => !decide (key item = k)) [l] =
      grouped key items [l] :=
    grouped_filter_ne (by simpa using apart.symm)
  simpa [grouped] using single

theorem covered_rest {items : List A} {k : K} {rest : List K} (absent : k ∉ rest)
    (covered : ∀ l, l ∈ k :: rest ↔ ∃ item ∈ items, key item = l) (l : K) :
    l ∈ rest ↔ ∃ item ∈ items.filter fun item => !decide (key item = k), key item = l := by
  constructor
  · intro member
    obtain ⟨item, there, rfl⟩ := (covered l).mp (List.mem_cons_of_mem _ member)
    refine ⟨item, List.mem_filter.mpr ⟨there, ?_⟩, rfl⟩
    have apart : key item ≠ k := fun same => absent (same ▸ member)
    simpa using apart
  · rintro ⟨item, there, rfl⟩
    obtain ⟨inside, apart⟩ := List.mem_filter.mp there
    rcases List.mem_cons.mp ((covered _).mpr ⟨item, inside, rfl⟩) with same | member
    · simp [same] at apart
    · exact member

/-- Of the first items of a list, those of one key, when they all follow each other. -/
theorem group_take {before middle after : List A} {k : K} (front : ∀ item ∈ before, key item ≠ k)
    (here : ∀ item ∈ middle, key item = k) (behind : ∀ item ∈ after, key item ≠ k) (n : Nat) :
    group key ((before ++ (middle ++ after)).take n) k = middle.take (n - before.length) := by
  have whole : group key (middle.take (n - before.length)) k = middle.take (n - before.length) :=
    List.filter_eq_self.mpr fun item member => decide_eq_true (here item (List.mem_of_mem_take member))
  rw [List.take_append, List.take_append, group_append, group_append, whole,
    group_eq_nil fun item member => front item (List.mem_of_mem_take member),
    group_eq_nil fun item member => behind item (List.mem_of_mem_take member), List.nil_append,
    List.append_nil]

variable (key) in
theorem perm_iff_groups {first second : List A} :
    first.Perm second ↔ ∀ k, (group key first k).Perm (group key second k) := by
  constructor
  · intro perm k
    exact perm.filter _
  · intro all
    classical
    rw [List.perm_iff_count]
    intro item
    have inside (items : List A) : (group key items (key item)).count item = items.count item :=
      List.count_filter (decide_eq_true rfl)
    rw [← inside first, ← inside second]
    exact (all (key item)).count_eq item

variable (key) in
/-- The lists have equally many items of each key. -/
def SameSizes (items other : List A) : Prop :=
  ∀ k, (group key items k).length = (group key other k).length

theorem SameSizes.covered {items other : List A} (sizes : SameSizes key items other) (k : K) :
    (∃ item ∈ items, key item = k) ↔ ∃ item ∈ other, key item = k := by
  have present (list : List A) : (∃ item ∈ list, key item = k) ↔ 0 < (group key list k).length := by
    rw [List.length_pos_iff_exists_mem]
    exact exists_congr fun item => mem_group.symm
  rw [present, present, sizes]

theorem SameSizes.known {items other : List A} {keys : List K} (sizes : SameSizes key items other)
    (covered : ∀ k, k ∈ keys ↔ ∃ item ∈ items, key item = k) (item : A) (member : item ∈ other) :
    key item ∈ keys :=
  (covered _).mpr ((sizes.covered _).mpr ⟨item, member, rfl⟩)

theorem SameSizes.filter_ne {items other : List A} (sizes : SameSizes key items other) (k : K) :
    SameSizes key (items.filter fun item => !decide (key item = k))
      (other.filter fun item => !decide (key item = k)) := by
  intro l
  by_cases here : l = k
  · subst here
    have none (list : List A) : group key (list.filter fun item => !decide (key item = l)) l = [] :=
      group_eq_nil fun item member same => by simp [same] at member
    rw [none, none]
  · rw [group_filter_ne here, group_filter_ne here, sizes]

/-- As much is taken of a group as the groups before it leave. -/
theorem group_take_grouped {items : List A} {keys : List K} {R : K → K → Prop} [DecidableRel R]
    (asymmetric : ∀ k l, R k l → ¬R l k) (apart : keys.Pairwise R)
    (known : ∀ item ∈ items, key item ∈ keys) {k : K} (member : k ∈ keys) (n : Nat) :
    group key ((grouped key items keys).take n) k =
      (group key items k).take (n - items.countP fun item => R (key item) k) := by
  obtain ⟨before, after, rfl⟩ := List.append_of_mem member
  obtain ⟨-, alone, across⟩ := List.nodup_append.mp (nodup_of_asymmetric asymmetric apart)
  have others (some : List K) (absent : k ∉ some) : ∀ item ∈ grouped key items some, key item ≠ k := by
    intro item there same
    obtain ⟨l, inside, grouped⟩ := List.mem_flatMap.mp there
    rw [(mem_group.mp grouped).2] at same
    exact absent (same ▸ inside)
  have groups : grouped key items (before ++ k :: after) =
      grouped key items before ++ (group key items k ++ grouped key items after) := by
    rw [grouped, List.flatMap_append, List.flatMap_cons, grouped, grouped]
  rw [groups, group_take, length_grouped_before asymmetric apart known]
  · exact others before fun inside => across k inside k List.mem_cons_self rfl
  · exact fun item there => (mem_group.mp there).2
  · exact others after (List.nodup_cons.mp alone).1

/-! The order of the keys. -/

variable [LinearOrder K]

/-- An ordered list has the items of a key between the smaller and the greater ones. -/
theorem eq_around_group {items : List A} (ordered : items.Pairwise fun a b => key a ≤ key b) (k : K) :
    items = (items.filter fun item => key item < k) ++
      (group key items k ++ items.filter fun item => k < key item) := by
  induction items with
  | nil => rfl
  | cons item rest ih =>
    obtain ⟨above, others⟩ := List.pairwise_cons.mp ordered
    have tail := ih others
    rcases lt_trichotomy (key item) k with less | here | greater
    · have front : group key (item :: rest) k = group key rest k := by
        simp [group, less.ne]
      rw [List.filter_cons_of_pos (by simpa using less), front,
        List.filter_cons_of_neg (by simpa using less.le), List.cons_append]
      exact congrArg (item :: ·) tail
    · have none : (rest.filter fun other => key other < k) = [] := by
        rw [List.filter_eq_nil_iff]
        intro other member
        simpa [here] using above other member
      have front : group key (item :: rest) k = item :: group key rest k := by
        simp [group, here]
      rw [none, List.nil_append] at tail
      rw [List.filter_cons_of_neg (by simp [here]), none, front,
        List.filter_cons_of_neg (by simp [here]), List.nil_append, List.cons_append]
      exact congrArg (item :: ·) tail
    · have all : ∀ other ∈ item :: rest, k < key other := by
        intro other member
        rcases List.mem_cons.mp member with rfl | later
        · exact greater
        · exact greater.trans_le (above other later)
      have small : ((item :: rest).filter fun other => key other < k) = [] := by
        rw [List.filter_eq_nil_iff]
        intro other member
        simpa using (all other member).le
      have none : group key (item :: rest) k = [] := by
        rw [group, List.filter_eq_nil_iff]
        intro other member
        simpa using (all other member).ne'
      rw [small, none, List.nil_append, List.nil_append, List.filter_eq_self.mpr]
      intro other member
      exact decide_eq_true (all other member)

/-- The items of the greatest key are the last ones of an ordered list. -/
theorem eq_append_group {items : List A} (ordered : items.Pairwise fun a b => key a ≤ key b) {k : K}
    (greatest : ∀ item ∈ items, key item ≤ k) :
    items = (items.filter fun item => !decide (key item = k)) ++ group key items k := by
  have none : (items.filter fun item => k < key item) = [] := by
    rw [List.filter_eq_nil_iff]
    intro item member
    simpa using greatest item member
  have smaller : (items.filter fun item => key item < k) =
      items.filter fun item => !decide (key item = k) := by
    apply List.filter_congr
    intro item member
    rw [← decide_not, decide_eq_decide]
    exact (greatest item member).lt_iff_ne
  have around := eq_around_group ordered k
  rwa [none, List.append_nil, smaller] at around

/-- One group against the last items: the rest of the groups is against the rest of the items. -/
theorem take_append_reverse_iff {front back : List A} (sizes : front.length = back.length)
    (rest items : List A) (n : Nat) :
    (front ++ rest).take n = (back.reverse ++ items).take n ↔
      front.take n = back.reverse.take n ∧
        rest.take (n - front.length) = items.take (n - front.length) := by
  rw [List.take_append, List.take_append, List.length_reverse, ← sizes]
  constructor
  · intro same
    exact List.append_inj same (by simp [sizes])
  · rintro ⟨first, second⟩
    rw [first, second]

/-- What has to be true of a group for the first items of the groups to be the last items of the other
list: the keys behind it are smaller, and as far as it is looked at it is the group of the other list read
backwards. -/
def Backwards (key : A → K) (items other : List A) (n : Nat) (before : List K) (k : K)
    (after : List K) : Prop :=
  (grouped key items before).length < n →
    (∀ later ∈ after, later < k) ∧
      (group key items k).take (n - (grouped key items before).length) =
        (group key other k).reverse.take (n - (grouped key items before).length)

/-- A split of a list is before its first item or behind it. -/
theorem forall_split_cons {B : Type} {head : B} {rest : List B} {P : List B → B → List B → Prop} :
    (∀ before b after, head :: rest = before ++ b :: after → P before b after) ↔
      P [] head rest ∧ ∀ before b after, rest = before ++ b :: after → P (head :: before) b after := by
  constructor
  · intro all
    refine ⟨all [] head rest rfl, ?_⟩
    rintro before b after rfl
    exact all (head :: before) b after rfl
  · rintro ⟨first, later⟩ before b after split
    cases before with
    | nil =>
      cases split
      exact first
    | cons other before =>
      cases split
      exact later before b after rfl

theorem head_largest {items other : List A} {k : K} {rest : List K} {n : Nat}
    (ordered : other.Pairwise fun a b => key a ≤ key b) (absent : k ∉ rest)
    (covered : ∀ l, l ∈ k :: rest ↔ ∃ item ∈ items, key item = l) (sizes : SameSizes key items other)
    (reached : n ≠ 0) (same : (grouped key items (k :: rest)).take n = other.reverse.take n) :
    ∀ later ∈ rest, later < k := by
  have heads := congrArg List.head? same
  rw [List.head?_take, List.head?_take, if_neg reached, if_neg reached, List.head?_reverse] at heads
  obtain ⟨first, member, named⟩ := (covered k).mp List.mem_cons_self
  obtain ⟨top, tail, front⟩ := List.exists_cons_of_ne_nil
    (List.ne_nil_of_mem (mem_group.mpr ⟨member, named⟩))
  have topKey : key top = k := (mem_group.mp (front ▸ List.mem_cons_self : top ∈ group key items k)).2
  rw [grouped, List.flatMap_cons, front, List.cons_append, List.head?_cons] at heads
  obtain ⟨init, split⟩ := List.getLast?_eq_some_iff.mp heads.symm
  intro later inside
  obtain ⟨item, there, known⟩ :=
    (sizes.covered later).mp ((covered later).mp (List.mem_cons_of_mem _ inside))
  have below : key item ≤ k := by
    rw [split] at there ordered
    rcases List.mem_append.mp there with front | last
    · rw [← topKey]
      exact (List.pairwise_append.mp ordered).2.2 item front top (List.mem_singleton_self _)
    · rw [List.mem_singleton.mp last, topKey]
  rw [known] at below
  exact lt_of_le_of_ne below fun equal => absent (equal ▸ inside)

theorem backwards_cons {items other : List A} {k l : K} {rest before after : List K} {n : Nat}
    (absent : k ∉ rest) (split : rest = before ++ l :: after) :
    Backwards key (items.filter fun item => !decide (key item = k))
        (other.filter fun item => !decide (key item = k)) (n - (group key items k).length)
        before l after ↔
      Backwards key items other n (k :: before) l after := by
  have apart : l ≠ k := by
    rintro rfl
    exact absent (split ▸ List.mem_append_right _ List.mem_cons_self)
  have front : k ∉ before := fun member => absent (split ▸ List.mem_append_left _ member)
  have length : (grouped key items (k :: before)).length =
      (group key items k).length + (grouped key items before).length := by
    rw [grouped, List.flatMap_cons, List.length_append, grouped]
  rw [Backwards, Backwards, grouped_filter_ne front, group_filter_ne apart, group_filter_ne apart,
    length, Nat.sub_sub, Nat.lt_sub_iff_add_lt']

/-- Nothing is in front of the first group. -/
theorem backwards_first {items other : List A} {k : K} {rest : List K} {n : Nat} (reached : n ≠ 0)
    (largest : ∀ later ∈ rest, later < k) : Backwards key items other n [] k rest ↔
      (group key items k).take n = (group key other k).reverse.take n := by
  simp only [Backwards, grouped, List.flatMap_nil, List.length_nil, Nat.sub_zero]
  exact ⟨fun both => (both (Nat.pos_of_ne_zero reached)).2, fun same _ => ⟨largest, same⟩⟩

/-- The group of the greatest key is against the end of the ordered list, the others are against the rest
of it. -/
theorem take_grouped_cons_iff {items other : List A} {k : K} {rest : List K}
    (ordered : other.Pairwise fun a b => key a ≤ key b) (absent : k ∉ rest)
    (greatest : ∀ item ∈ other, key item ≤ k) (sizes : SameSizes key items other) (n : Nat) :
    (grouped key items (k :: rest)).take n = other.reverse.take n ↔
      (group key items k).take n = (group key other k).reverse.take n ∧
        (grouped key (items.filter fun item => !decide (key item = k)) rest).take
            (n - (group key items k).length) =
          (other.filter fun item => !decide (key item = k)).reverse.take
            (n - (group key items k).length) := by
  have backwards : other.reverse = (group key other k).reverse ++
      (other.filter fun item => !decide (key item = k)).reverse := by
    rw [← List.reverse_append, ← eq_append_group ordered greatest]
  have groups : grouped key items (k :: rest) = group key items k ++
      grouped key (items.filter fun item => !decide (key item = k)) rest := by
    rw [grouped_filter_ne absent, grouped, List.flatMap_cons, grouped]
  rw [groups, backwards, take_append_reverse_iff (sizes k)]

/-- The groups of all keys begin with the last items of the ordered list exactly when each group that is
reached does. -/
theorem take_grouped_iff {items other : List A} {keys : List K}
    (ordered : other.Pairwise fun a b => key a ≤ key b) (distinct : keys.Nodup)
    (covered : ∀ k, k ∈ keys ↔ ∃ item ∈ items, key item = k) (sizes : SameSizes key items other)
    (n : Nat) :
    (grouped key items keys).take n = other.reverse.take n ↔
      ∀ before k after, keys = before ++ k :: after → Backwards key items other n before k after := by
  induction keys generalizing items other n with
  | nil =>
    have none : other = [] := List.eq_nil_iff_forall_not_mem.mpr fun item member =>
      absurd (sizes.known covered item member) List.not_mem_nil
    subst none
    simp [grouped]
  | cons k rest ih =>
    obtain ⟨absent, others⟩ := List.nodup_cons.mp distinct
    rw [forall_split_cons]
    by_cases reached : n = 0
    · subst reached
      simp [Backwards]
    by_cases largest : ∀ later ∈ rest, later < k
    · have greatest : ∀ item ∈ other, key item ≤ k := fun item member =>
        (List.mem_cons.mp (sizes.known covered item member)).elim le_of_eq fun later =>
          le_of_lt (largest _ later)
      rw [take_grouped_cons_iff ordered absent greatest sizes, backwards_first reached largest,
        ih (ordered.filter _) others (covered_rest absent covered) (sizes.filter_ne k)]
      refine and_congr_right fun _ => ?_
      refine forall_congr' fun before => forall_congr' fun l => forall_congr' fun after =>
        forall_congr' fun same => ?_
      exact backwards_cons absent same
    · constructor
      · intro same
        exact absurd (head_largest ordered absent covered sizes reached same) largest
      · rintro ⟨first, -⟩
        exact absurd (first (Nat.pos_of_ne_zero reached)).1 largest

theorem group_take_reverse {items : List A} (ordered : items.Pairwise fun a b => key a ≤ key b) (k : K)
    (n : Nat) :
    group key (items.reverse.take n) k =
      (group key items k).reverse.take (n - items.countP fun item => k < key item) := by
  have backwards : items.reverse = (items.filter fun item => k < key item).reverse ++
      ((group key items k).reverse ++ (items.filter fun item => key item < k).reverse) := by
    rw [← List.reverse_append, ← List.reverse_append, List.append_assoc]
    exact congrArg List.reverse (eq_around_group ordered k)
  rw [backwards, group_take, List.length_reverse, ← List.countP_eq_length_filter]
  · intro item there
    exact (of_decide_eq_true (List.mem_filter.mp (List.mem_reverse.mp there)).2).ne'
  · exact fun item there => (mem_group.mp (List.mem_reverse.mp there)).2
  · intro item there
    exact (of_decide_eq_true (List.mem_filter.mp (List.mem_reverse.mp there)).2).ne

/-- The groups of all keys begin with the last items of the ordered list in some order exactly when as
much of each group is taken from the front as from the back. -/
theorem perm_take_grouped_iff {items other : List A} {keys : List K} {R : K → K → Prop}
    [DecidableRel R] (asymmetric : ∀ k l, R k l → ¬R l k) (apart : keys.Pairwise R)
    (ordered : other.Pairwise fun a b => key a ≤ key b)
    (covered : ∀ k, k ∈ keys ↔ ∃ item ∈ items, key item = k) (sizes : SameSizes key items other)
    (n : Nat) :
    ((grouped key items keys).take n).Perm (other.reverse.take n) ↔
      ∀ k ∈ keys, ((group key items k).take (n - items.countP fun item => R (key item) k)).Perm
        ((group key other k).reverse.take (n - other.countP fun item => k < key item)) := by
  have known : ∀ item ∈ items, key item ∈ keys := fun item there => (covered _).mpr ⟨item, there, rfl⟩
  rw [perm_iff_groups key]
  constructor
  · intro all k member
    rw [← group_take_grouped asymmetric apart known member, ← group_take_reverse ordered]
    exact all k
  · intro all k
    by_cases member : k ∈ keys
    · rw [group_take_grouped asymmetric apart known member, group_take_reverse ordered]
      exact all k member
    · have none : ∀ item ∈ other, key item ≠ k := fun item there same =>
        member ((covered k).mpr ((sizes.covered k).mpr ⟨item, there, same⟩))
      rw [group_eq_nil, group_eq_nil]
      · intro item there
        exact none item (List.mem_reverse.mp (List.mem_of_mem_take there))
      · intro item there
        obtain ⟨l, listed, inside⟩ := List.mem_flatMap.mp (List.mem_of_mem_take there)
        rw [(mem_group.mp inside).2]
        exact fun same => member (same ▸ listed)

end SensorGateway.Lib.LastItems

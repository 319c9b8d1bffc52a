import Mathlib.Data.List.Basic
import Mathlib.Data.String.Basic

/-! JSON values over any type of floating-point numbers. A text gives the members of an object in its
own order; a library that keeps them in a sorted map has one member a name. -/

namespace SensorGateway.Lib.Json

inductive Document (N : Type) where
  | null
  | bool (value : Bool)
  | int (value : Int)
  | float (value : N)
  | string (value : String)
  | array (items : List (Document N))
  | object (members : List (String × Document N))
  deriving Repr

variable {N : Type}

/-- Into its place in the order of the names. -/
def insertSorted {V : Type} (name : String) (value : V) : List (String × V) → List (String × V)
  | [] => [(name, value)]
  | (other, kept) :: rest =>
    if name < other then (name, value) :: (other, kept) :: rest
    else (other, kept) :: insertSorted name value rest

/-- A member of a text in front of others, which override it. -/
def addMember {V : Type} (name : String) (value : V) (members : List (String × V)) :
    List (String × V) :=
  if (members.lookup name).isSome then members else insertSorted name value members

/-- The map of the given members. -/
def sortMembers {V : Type} (members : List (String × V)) : List (String × V) :=
  members.foldr (fun member rest => addMember member.1 member.2 rest) []

namespace Document

/-! What a sorted map makes of a tree. -/
mutual
def canonical : Document N → Document N
  | .array items => .array (canonicalItems items)
  | .object members => .object (canonicalMembers members)
  | .null => .null
  | .bool value => .bool value
  | .int value => .int value
  | .float value => .float value
  | .string value => .string value

def canonicalItems : List (Document N) → List (Document N)
  | [] => []
  | item :: rest => canonical item :: canonicalItems rest

def canonicalMembers : List (String × Document N) → List (String × Document N)
  | [] => []
  | (name, value) :: rest => addMember name (canonical value) (canonicalMembers rest)
end

/-! How deep arrays and objects are nested. -/
mutual
def depth : Document N → Nat
  | .array items => depthItems items + 1
  | .object members => depthMembers members + 1
  | .null | .bool _ | .int _ | .float _ | .string _ => 0

def depthItems : List (Document N) → Nat
  | [] => 0
  | item :: rest => max (depth item) (depthItems rest)

def depthMembers : List (String × Document N) → Nat
  | [] => 0
  | (_, value) :: rest => max (depth value) (depthMembers rest)
end

/-! Another number in the place of each number. -/
mutual
def map (f : N → N) : Document N → Document N
  | .array items => .array (mapItems f items)
  | .object members => .object (mapMembers f members)
  | .float value => .float (f value)
  | .null => .null
  | .bool value => .bool value
  | .int value => .int value
  | .string value => .string value

def mapItems (f : N → N) : List (Document N) → List (Document N)
  | [] => []
  | item :: rest => map f item :: mapItems f rest

def mapMembers (f : N → N) : List (String × Document N) → List (String × Document N)
  | [] => []
  | (name, value) :: rest => (name, map f value) :: mapMembers f rest
end

def get (name : String) : Document N → Option (Document N)
  | .object members => members.lookup name
  | _ => none

def asU64 : Document N → Option Nat
  | .int (.ofNat n) => some n
  | _ => none

def asStr : Document N → Option String
  | .string value => some value
  | _ => none

def asArray : Document N → Option (List (Document N))
  | .array items => some items
  | _ => none

end Document

section
variable {V : Type} {name : String} {value : V} {members : List (String × V)}

theorem lookup_insertSorted (absent : members.lookup name = none) (key : String) :
    (insertSorted name value members).lookup key =
      if key = name then some value else members.lookup key := by
  induction members with
  | nil =>
    by_cases same : key = name
    · simp [insertSorted, same]
    · simp [insertSorted, List.lookup_cons, same, beq_false_of_ne same]
  | cons head rest ih =>
    obtain ⟨other, kept⟩ := head
    have apart : name ≠ other := by
      rintro rfl
      simp at absent
    have below : rest.lookup name = none := by
      simpa [List.lookup_cons, beq_false_of_ne apart] using absent
    unfold insertSorted
    by_cases first : name < other
    · rw [if_pos first]
      by_cases same : key = name
      · simp [same]
      · simp [List.lookup_cons, same, beq_false_of_ne same]
    · rw [if_neg first]
      by_cases here : key = other
      · have differ : key ≠ name := by rw [here]; exact Ne.symm apart
        simp [here, Ne.symm apart]
      · simp only [List.lookup_cons, beq_false_of_ne here]
        exact ih below

/-- The members behind it decide, if one of them has the name. -/
theorem lookup_addMember (key : String) :
    (addMember name value members).lookup key =
      (members.lookup key).or (if key = name then some value else none) := by
  unfold addMember
  cases found : members.lookup name with
  | none =>
    rw [Option.isSome_none, if_neg Bool.false_ne_true, lookup_insertSorted found]
    by_cases same : key = name
    · rw [if_pos same, if_pos same, same, found, Option.none_or]
    · rw [if_neg same, if_neg same, Option.or_none]
  | some kept =>
    rw [Option.isSome_some, if_pos rfl]
    by_cases same : key = name
    · rw [same, found, Option.some_or]
    · rw [if_neg same, Option.or_none]

/-- Names in strict order. -/
def Sorted (members : List (String × V)) : Prop := members.Pairwise fun a b => a.1 < b.1

theorem lookup_eq_none_of_sorted (sorted : Sorted ((name, value) :: members)) :
    members.lookup name = none := by
  rw [List.lookup_eq_none_iff]
  intro member there
  rw [bne_iff_ne]
  exact ((List.pairwise_cons.mp sorted).1 member there).ne

theorem addMember_of_sorted (sorted : Sorted ((name, value) :: members)) :
    addMember name value members = (name, value) :: members := by
  rw [addMember, lookup_eq_none_of_sorted sorted, Option.isSome_none, if_neg Bool.false_ne_true]
  cases members with
  | nil => rfl
  | cons head rest =>
    have before : name < head.1 := (List.pairwise_cons.mp sorted).1 head List.mem_cons_self
    rw [insertSorted, if_pos before]

theorem sortMembers_of_sorted (sorted : Sorted members) : sortMembers members = members := by
  induction members with
  | nil => rfl
  | cons head rest ih =>
    have behind : sortMembers rest = rest := ih (List.pairwise_cons.mp sorted).2
    rw [sortMembers, List.foldr_cons]
    exact (congrArg (addMember head.1 head.2) behind).trans (addMember_of_sorted sorted)

theorem mem_insertSorted {member : String × V} (there : member ∈ insertSorted name value members) :
    member = (name, value) ∨ member ∈ members := by
  induction members with
  | nil => exact Or.inl (List.mem_singleton.mp there)
  | cons head rest ih =>
    obtain ⟨other, kept⟩ := head
    rw [insertSorted] at there
    split at there
    · exact List.mem_cons.mp there
    · obtain rfl | behind := List.mem_cons.mp there
      · exact Or.inr List.mem_cons_self
      · exact (ih behind).imp_right (List.mem_cons_of_mem _)

theorem mem_addMember {member : String × V} (there : member ∈ addMember name value members) :
    member = (name, value) ∨ member ∈ members := by
  rw [addMember] at there
  split at there
  · exact Or.inr there
  · exact mem_insertSorted there

theorem sorted_insertSorted (sorted : Sorted members) (absent : members.lookup name = none) :
    Sorted (insertSorted name value members) := by
  induction members with
  | nil => exact List.pairwise_singleton _ _
  | cons head rest ih =>
    obtain ⟨other, kept⟩ := head
    obtain ⟨least, behind⟩ := List.pairwise_cons.mp sorted
    have apart : name ≠ other := by
      rintro rfl
      simp at absent
    have missing : rest.lookup name = none := by
      simpa [List.lookup_cons, beq_false_of_ne apart] using absent
    rw [insertSorted]
    by_cases first : name < other
    · rw [if_pos first]
      refine List.pairwise_cons.mpr ⟨?_, sorted⟩
      intro member there
      obtain rfl | later := List.mem_cons.mp there
      · exact first
      · exact first.trans (least member later)
    · rw [if_neg first]
      refine List.pairwise_cons.mpr ⟨?_, ih behind missing⟩
      intro member there
      obtain rfl | old := mem_insertSorted there
      · exact (not_lt.mp first).lt_of_ne (Ne.symm apart)
      · exact least member old

theorem sorted_addMember (sorted : Sorted members) : Sorted (addMember name value members) := by
  rw [addMember]
  cases found : members.lookup name with
  | some kept => exact sorted
  | none => exact sorted_insertSorted sorted found

/-- Where no name occurs twice, the map has every member. -/
theorem lookup_sortMembers (distinct : (members.map Prod.fst).Nodup) (key : String) :
    (sortMembers members).lookup key = members.lookup key := by
  induction members with
  | nil => rfl
  | cons head rest ih =>
    obtain ⟨other, kept⟩ := head
    rw [List.map_cons, List.nodup_cons] at distinct
    have behind := ih distinct.2
    rw [sortMembers, List.foldr_cons]
    rw [sortMembers] at behind
    rw [lookup_addMember, behind]
    by_cases same : key = other
    · have absent : rest.lookup other = none := by
        rw [List.lookup_eq_none_iff]
        intro member there
        rw [bne_iff_ne]
        intro here
        exact distinct.1 (List.mem_map.mpr ⟨member, there, here.symm⟩)
      simp [same, absent]
    · simp [List.lookup_cons, same, beq_false_of_ne same]

/-- The place in the order of the names does not depend on the values. -/
theorem insertSorted_map (g : V → V) :
    insertSorted name (g value) (members.map fun member => (member.1, g member.2)) =
      (insertSorted name value members).map fun member => (member.1, g member.2) := by
  induction members with
  | nil => rfl
  | cons head rest ih =>
    obtain ⟨other, kept⟩ := head
    rw [insertSorted, List.map_cons, insertSorted]
    split
    · rfl
    · rw [List.map_cons, ih]

theorem lookup_map (g : V → V) (key : String) :
    (members.map fun member => (member.1, g member.2)).lookup key = (members.lookup key).map g := by
  induction members with
  | nil => rfl
  | cons head rest ih =>
    rw [List.map_cons, List.lookup_cons, List.lookup_cons, ih]
    split <;> rfl

theorem addMember_map (g : V → V) :
    addMember name (g value) (members.map fun member => (member.1, g member.2)) =
      (addMember name value members).map fun member => (member.1, g member.2) := by
  rw [addMember, addMember, lookup_map, Option.isSome_map, insertSorted_map]
  split <;> rfl

end

namespace Document

theorem canonicalItems_eq (items : List (Document N)) : canonicalItems items = items.map canonical := by
  induction items with
  | nil => rfl
  | cons item rest ih => rw [canonicalItems, ih, List.map_cons]

/-- A tree in which no name occurs twice has the members of its text. -/
theorem lookup_canonicalMembers {members : List (String × Document N)}
    (distinct : (members.map Prod.fst).Nodup) (key : String) :
    (canonicalMembers members).lookup key = (members.lookup key).map canonical := by
  induction members with
  | nil => rfl
  | cons head rest ih =>
    obtain ⟨name, value⟩ := head
    rw [List.map_cons, List.nodup_cons] at distinct
    rw [canonicalMembers, lookup_addMember, ih distinct.2]
    by_cases same : key = name
    · have absent : rest.lookup name = none := by
        rw [List.lookup_eq_none_iff]
        intro other member
        rw [bne_iff_ne]
        intro here
        exact distinct.1 (List.mem_map.mpr ⟨other, member, here.symm⟩)
      simp [same, absent]
    · simp [List.lookup_cons, same, beq_false_of_ne same]

theorem canonicalMembers_sorted : ∀ members : List (String × Document N), Sorted (canonicalMembers members)
  | [] => List.Pairwise.nil
  | (_, _) :: rest => sorted_addMember (canonicalMembers_sorted rest)

/-- Sorted members that are themselves canonical stay as they are. -/
theorem canonicalMembers_of_sorted {members : List (String × Document N)} (sorted : Sorted members)
    (fixed : ∀ member ∈ members, member.2.canonical = member.2) :
    canonicalMembers members = members := by
  induction members with
  | nil => rfl
  | cons head rest ih =>
    obtain ⟨name, value⟩ := head
    have here : value.canonical = value := fixed _ List.mem_cons_self
    have behind := ih (List.pairwise_cons.mp sorted).2 fun member there =>
      fixed member (List.mem_cons_of_mem _ there)
    rw [canonicalMembers, behind, here, addMember_of_sorted sorted]

mutual
theorem canonical_canonical : ∀ v : Document N, v.canonical.canonical = v.canonical
  | .null | .bool _ | .int _ | .float _ | .string _ => rfl
  | .array items => congrArg Document.array (canonicalItems_canonicalItems items)
  | .object members =>
    congrArg Document.object
      (canonicalMembers_of_sorted (canonicalMembers_sorted members) (canonicalMembers_fixed members))

theorem canonicalItems_canonicalItems : ∀ items : List (Document N),
    canonicalItems (canonicalItems items) = canonicalItems items
  | [] => rfl
  | item :: rest =>
    congrArg₂ List.cons (canonical_canonical item) (canonicalItems_canonicalItems rest)

theorem canonicalMembers_fixed : ∀ members : List (String × Document N),
    ∀ member ∈ canonicalMembers members, member.2.canonical = member.2
  | [], _, there => by cases there
  | (_, value) :: rest, member, there => by
    obtain rfl | behind := mem_addMember there
    · exact canonical_canonical value
    · exact canonicalMembers_fixed rest member behind
end

theorem depthMembers_insertSorted (name : String) (value : Document N)
    (members : List (String × Document N)) :
    depthMembers (insertSorted name value members) = max value.depth (depthMembers members) := by
  induction members with
  | nil => rfl
  | cons head rest ih =>
    obtain ⟨other, kept⟩ := head
    rw [insertSorted]
    split
    · rfl
    · rw [depthMembers, ih, depthMembers, Nat.max_left_comm]

theorem depthMembers_addMember (name : String) (value : Document N)
    (members : List (String × Document N)) :
    depthMembers (addMember name value members) ≤ max value.depth (depthMembers members) := by
  rw [addMember]
  split
  · exact Nat.le_max_right _ _
  · exact (depthMembers_insertSorted name value members).le

mutual
theorem depth_canonical : ∀ v : Document N, v.canonical.depth ≤ v.depth
  | .null | .bool _ | .int _ | .float _ | .string _ => Nat.le_refl 0
  | .array items => Nat.succ_le_succ (depthItems_canonical items)
  | .object members => Nat.succ_le_succ (depthMembers_canonical members)

theorem depthItems_canonical : ∀ items : List (Document N),
    depthItems (canonicalItems items) ≤ depthItems items
  | [] => Nat.le_refl 0
  | item :: rest => max_le_max (depth_canonical item) (depthItems_canonical rest)

theorem depthMembers_canonical : ∀ members : List (String × Document N),
    depthMembers (canonicalMembers members) ≤ depthMembers members
  | [] => Nat.le_refl 0
  | (name, value) :: rest =>
    (depthMembers_addMember name value.canonical (canonicalMembers rest)).trans
      (max_le_max (depth_canonical value) (depthMembers_canonical rest))
end

theorem get_canonical {members : List (String × Document N)} {key : String}
    (distinct : (members.map Prod.fst).Nodup) :
    (canonical (.object members)).get key = (members.lookup key).map canonical := by
  rw [canonical, get, lookup_canonicalMembers distinct]

section
variable (f : N → N)

theorem mapItems_eq (items : List (Document N)) : mapItems f items = items.map (map f) := by
  induction items with
  | nil => rfl
  | cons item rest ih => rw [mapItems, ih, List.map_cons]

theorem mapMembers_eq (members : List (String × Document N)) :
    mapMembers f members = members.map fun member => (member.1, map f member.2) := by
  induction members with
  | nil => rfl
  | cons head rest ih => rw [mapMembers, ih, List.map_cons]

mutual
theorem canonical_map : ∀ v : Document N, (v.map f).canonical = v.canonical.map f
  | .null | .bool _ | .int _ | .float _ | .string _ => rfl
  | .array items => congrArg Document.array (canonicalItems_map items)
  | .object members => congrArg Document.object (canonicalMembers_map members)

theorem canonicalItems_map : ∀ items : List (Document N),
    canonicalItems (mapItems f items) = mapItems f (canonicalItems items)
  | [] => rfl
  | item :: rest => congrArg₂ List.cons (canonical_map item) (canonicalItems_map rest)

theorem canonicalMembers_map : ∀ members : List (String × Document N),
    canonicalMembers (mapMembers f members) = mapMembers f (canonicalMembers members)
  | [] => rfl
  | (name, value) :: rest => by
    rw [mapMembers, canonicalMembers, canonicalMembers, canonical_map value,
      canonicalMembers_map rest, mapMembers_eq, mapMembers_eq, addMember_map]
end

mutual
theorem depth_map : ∀ v : Document N, (v.map f).depth = v.depth
  | .null | .bool _ | .int _ | .float _ | .string _ => rfl
  | .array items => congrArg Nat.succ (depthItems_map items)
  | .object members => congrArg Nat.succ (depthMembers_map members)

theorem depthItems_map : ∀ items : List (Document N), depthItems (mapItems f items) = depthItems items
  | [] => rfl
  | item :: rest => congrArg₂ max (depth_map item) (depthItems_map rest)

theorem depthMembers_map : ∀ members : List (String × Document N),
    depthMembers (mapMembers f members) = depthMembers members
  | [] => rfl
  | (_, value) :: rest => congrArg₂ max (depth_map value) (depthMembers_map rest)
end

variable {f}

mutual
/-- Where every number stays, the tree does. -/
theorem map_of_fixed (fixed : ∀ x, f x = x) : ∀ v : Document N, v.map f = v
  | .null | .bool _ | .int _ | .string _ => rfl
  | .float value => congrArg Document.float (fixed value)
  | .array items => congrArg Document.array (mapItems_of_fixed fixed items)
  | .object members => congrArg Document.object (mapMembers_of_fixed fixed members)

theorem mapItems_of_fixed (fixed : ∀ x, f x = x) : ∀ items : List (Document N), mapItems f items = items
  | [] => rfl
  | item :: rest => congrArg₂ List.cons (map_of_fixed fixed item) (mapItems_of_fixed fixed rest)

theorem mapMembers_of_fixed (fixed : ∀ x, f x = x) :
    ∀ members : List (String × Document N), mapMembers f members = members
  | [] => rfl
  | (name, value) :: rest =>
    congrArg₂ List.cons (congrArg (Prod.mk name) (map_of_fixed fixed value))
      (mapMembers_of_fixed fixed rest)
end

end

end Document

end SensorGateway.Lib.Json

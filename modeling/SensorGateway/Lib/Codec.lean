import Mathlib.Data.List.Basic

/-! What a decoder makes of encoded values when only some of them survive, one value and a list of
them. -/

namespace SensorGateway.Lib.Codec

variable {A B V : Type}

/-- The decoder makes of every encoded value that survives a certain result, and refuses the others. -/
def ReadsAs (encode : A → Option V) (decode : V → Option B) (Survives : A → Prop)
    [DecidablePred Survives] (result : A → B) : Prop :=
  ∀ a v, encode a = some v → decode v = if Survives a then some (result a) else none

/-- The decoder gives back every encoded value that survives, and refuses the others. -/
def ReadsBack (encode : A → Option V) (decode : V → Option A) (Survives : A → Prop)
    [DecidablePred Survives] : Prop :=
  ∀ a v, encode a = some v → decode v = if Survives a then some a else none

theorem guarded_bind {p : Prop} [Decidable p] (a : A) (next : A → Option V) :
    (if p then some a else none).bind next = if p then next a else none := by
  by_cases holds : p
  · rw [if_pos holds, if_pos holds, Option.bind_some]
  · rw [if_neg holds, if_neg holds, Option.bind_none]

theorem mapM_cons_eq_some {f : A → Option V} {a : A} {rest : List A} {vs : List V} :
    (a :: rest).mapM f = some vs ↔ ∃ v tail, f a = some v ∧ rest.mapM f = some tail ∧ vs = v :: tail := by
  rw [List.mapM_cons]
  cases first : f a with
  | none => simp
  | some v =>
    cases others : rest.mapM f with
    | none => simp
    | some tail => simp [eq_comm]

theorem mapM_append_singleton {f : A → Option V} {items : List A} {a : A} {vs : List V} {v : V} :
    (items ++ [a]).mapM f = some (vs ++ [v]) ↔ items.mapM f = some vs ∧ f a = some v := by
  rw [List.mapM_append]
  cases items.mapM f with
  | none => simp
  | some front =>
    cases last : f a with
    | none => simp [last]
    | some w => simp [last]

theorem length_of_mapM {f : A → Option V} {items : List A} {vs : List V}
    (mapped : items.mapM f = some vs) : vs.length = items.length := by
  induction items generalizing vs with
  | nil =>
    cases mapped
    rfl
  | cons a rest ih =>
    obtain ⟨v, tail, -, others, rfl⟩ := mapM_cons_eq_some.mp mapped
    rw [List.length_cons, List.length_cons, ih others]

theorem exists_of_mapM {f : A → Option V} {items : List A} {vs : List V} {a : A}
    (mapped : items.mapM f = some vs) (member : a ∈ items) : ∃ v, f a = some v := by
  induction items generalizing vs with
  | nil => cases member
  | cons b rest ih =>
    obtain ⟨v, tail, first, others, -⟩ := mapM_cons_eq_some.mp mapped
    obtain rfl | behind := List.mem_cons.mp member
    · exact ⟨v, first⟩
    · exact ih others behind

/-- What a scan makes of encoded items, when it takes some of them and drops the others. -/
theorem filterMap_of_mapM {encode : A → Option V} {scan : V → Option B} {taken : A → Prop}
    [DecidablePred taken] {result : A → B} (each : ReadsAs encode scan taken result)
    {items : List A} {vs : List V} (mapped : items.mapM encode = some vs) :
    vs.filterMap scan = (items.filter fun a => decide (taken a)).map result := by
  induction items generalizing vs with
  | nil =>
    cases mapped
    rfl
  | cons a rest ih =>
    obtain ⟨v, tail, first, others, rfl⟩ := mapM_cons_eq_some.mp mapped
    have here := each a v first
    by_cases takes : taken a
    · rw [if_pos takes] at here
      have kept : (a :: rest).filter (fun a => decide (taken a)) =
          a :: rest.filter fun a => decide (taken a) := List.filter_cons_of_pos (by simpa using takes)
      rw [List.filterMap_cons_some here, ih others, kept, List.map_cons]
    · rw [if_neg takes] at here
      have dropped : (a :: rest).filter (fun a => decide (taken a)) =
          rest.filter fun a => decide (taken a) := List.filter_cons_of_neg (by simpa using takes)
      rw [List.filterMap_cons_none here, ih others, dropped]

/-- A list survives when each of its items does. -/
theorem ReadsAs.list {encode : A → Option V} {decode : V → Option B} {Survives : A → Prop}
    [DecidablePred Survives] {result : A → B} (reads : ReadsAs encode decode Survives result) :
    ReadsAs (List.mapM encode) (List.mapM decode) (fun items => ∀ a ∈ items, Survives a)
      (List.map result) := by
  intro items
  induction items with
  | nil =>
    intro vs encoded
    cases encoded
    simp
  | cons a rest ih =>
    intro vs encoded
    obtain ⟨v, tail, first, others, rfl⟩ := mapM_cons_eq_some.mp encoded
    have ended := ih tail others
    rw [List.mapM_cons, reads a v first, ended]
    by_cases survives : Survives a
    · by_cases all : ∀ b ∈ rest, Survives b
      · rw [if_pos survives, if_pos all, if_pos (List.forall_mem_cons.mpr ⟨survives, all⟩)]
        rfl
      · rw [if_neg all, if_pos survives, if_neg fun both => all (List.forall_mem_cons.mp both).2]
        rfl
    · rw [if_neg survives, if_neg fun both => survives (List.forall_mem_cons.mp both).1]
      rfl

theorem ReadsBack.list {encode : A → Option V} {decode : V → Option A} {Survives : A → Prop}
    [DecidablePred Survives] (back : ReadsBack encode decode Survives) :
    ReadsBack (List.mapM encode) (List.mapM decode) fun items => ∀ a ∈ items, Survives a := by
  have reads : ReadsAs encode decode Survives id := back
  intro items vs encoded
  rw [reads.list items vs encoded, List.map_id]

end SensorGateway.Lib.Codec

import Mathlib.Data.List.Basic

/-! A search through sources that are opened one after the other. It keeps the items that are wanted,
may stop as soon as it has enough of them, and fails at the first source it cannot read. -/

namespace SensorGateway.Lib.Scan
variable {S A E : Type}

/-- The wanted items of one source are put behind those taken before, up to the limit. -/
def fill (wanted : A → Bool) (limit : Nat) : List A → List A → List A
  | [], taken => taken
  | item :: rest, taken =>
    if wanted item then
      let taken := taken ++ [item]
      if limit ≤ taken.length then taken else fill wanted limit rest taken
    else fill wanted limit rest taken

/-- A source is opened as long as the limit has not been reached. -/
def scan (read : S → Except E (List A)) (wanted : A → Bool) (limit : Nat) :
    List S → List A → Except E (List A)
  | [], taken => .ok taken
  | source :: rest, taken =>
    if limit ≤ taken.length then .ok taken
    else
      match read source with
      | .error e => .error e
      | .ok items => scan read wanted limit rest (fill wanted limit items taken)

/-- The search without a limit. -/
def scanAll (read : S → Except E (List A)) (wanted : A → Bool) :
    List S → List A → Except E (List A)
  | [], taken => .ok taken
  | source :: rest, taken =>
    match read source with
    | .error e => .error e
    | .ok items => scanAll read wanted rest (taken ++ items.filter wanted)

/-- Stopping early is the same as cutting what the whole source gives. -/
theorem fill_eq (wanted : A → Bool) {limit : Nat} (items : List A) {taken : List A}
    (room : taken.length < limit) :
    fill wanted limit items taken = (taken ++ items.filter wanted).take limit := by
  induction items generalizing taken with
  | nil =>
    rw [fill, List.filter_nil, List.append_nil, List.take_of_length_le (Nat.le_of_lt room)]
  | cons item rest ih =>
    rw [fill]
    by_cases want : wanted item = true
    · have longer : (taken ++ [item]).length = taken.length + 1 := List.length_append
      have split : taken ++ (item :: rest).filter wanted = (taken ++ [item]) ++ rest.filter wanted := by
        rw [List.filter_cons_of_pos want, List.append_assoc, List.singleton_append]
      rw [if_pos want, split]
      by_cases full : limit ≤ (taken ++ [item]).length
      · have exact_ : (taken ++ [item]).length = limit := by omega
        simp only
        rw [if_pos full, ← exact_, List.take_left]
      · simp only
        rw [if_neg full, ih (by omega)]
    · rw [if_neg want, ih room, List.filter_cons_of_neg want]

/-- The search either reads the source or fails at it. -/
def Reads (read : S → Except E (List A)) (contents : S → List A) (Readable : S → Prop) (source : S) :
    Prop :=
  Readable source ∧ read source = .ok (contents source) ∨
    ¬Readable source ∧ ∃ e, read source = .error e

/-- Every source that the search opens, when it starts with `count` items, can be read. -/
def OpensReadable (wanted : A → Bool) (contents : S → List A) (Readable : S → Prop) (limit : Nat)
    (sources : List S) (count : Nat) : Prop :=
  ∀ before source after, sources = before ++ source :: after →
    count + (before.flatMap contents).countP wanted < limit → Readable source

section
variable {read : S → Except E (List A)} {wanted : A → Bool} {contents : S → List A}
  {Readable : S → Prop} {limit : Nat}

theorem opensReadable_cons {source : S} {rest : List S} {count : Nat} (room : count < limit) :
    OpensReadable wanted contents Readable limit (source :: rest) count ↔
      Readable source ∧ OpensReadable wanted contents Readable limit rest
        (min limit (count + (contents source).countP wanted)) := by
  have counted (before : List S) : ((source :: before).flatMap contents).countP wanted =
      (contents source).countP wanted + (before.flatMap contents).countP wanted := by
    rw [List.flatMap_cons, List.countP_append]
  constructor
  · intro all
    refine ⟨all [] source rest rfl room, ?_⟩
    intro before other after split reached
    refine all (source :: before) other after (congrArg (source :: ·) split) ?_
    rw [counted]
    omega
  · rintro ⟨first, later⟩ before other after split reached
    cases before with
    | nil =>
      cases split
      exact first
    | cons head before =>
      cases split
      refine later before other after rfl ?_
      rw [counted] at reached
      omega

theorem scan_map {T : Type} (name : T → S) (sources : List T) (taken : List A) :
    scan read wanted limit (sources.map name) taken =
      scan (fun source => read (name source)) wanted limit sources taken := by
  induction sources generalizing taken with
  | nil => rfl
  | cons source rest ih =>
    rw [List.map_cons, scan, scan]
    cases read (name source) with
    | error e => rfl
    | ok items => simp only [ih]

theorem scanAll_map {T : Type} (name : T → S) (sources : List T) (taken : List A) :
    scanAll read wanted (sources.map name) taken =
      scanAll (fun source => read (name source)) wanted sources taken := by
  induction sources generalizing taken with
  | nil => rfl
  | cons source rest ih =>
    rw [List.map_cons, scanAll, scanAll]
    cases read (name source) with
    | error e => rfl
    | ok items => exact ih _

/-- The search gives the first wanted items of all sources together, and it fails exactly when it comes
to a source that cannot be read before it has enough. -/
theorem scan_reads (wanted : A → Bool) {sources : List S}
    (reads : ∀ source ∈ sources, Reads read contents Readable source) {taken : List A}
    (small : taken.length ≤ limit) :
    (OpensReadable wanted contents Readable limit sources taken.length →
      scan read wanted limit sources taken =
        .ok ((taken ++ (sources.flatMap contents).filter wanted).take limit)) ∧
    (¬OpensReadable wanted contents Readable limit sources taken.length →
      ∃ e, scan read wanted limit sources taken = .error e) := by
  induction sources generalizing taken with
  | nil =>
    constructor
    · intro _
      rw [scan, List.flatMap_nil, List.filter_nil, List.append_nil, List.take_of_length_le small]
    · intro unreadable
      refine absurd ?_ unreadable
      intro before source after split
      cases before <;> cases split
  | cons source rest ih =>
    obtain ⟨here, others⟩ := List.forall_mem_cons.mp reads
    rw [scan]
    by_cases full : limit ≤ taken.length
    · rw [if_pos full]
      constructor
      · intro _
        rw [List.take_append_of_le_length full, List.take_of_length_le small]
      · intro unreadable
        exact absurd (fun before other after split reached => absurd reached (by omega)) unreadable
    · have room := Nat.lt_of_not_le full
      rw [if_neg full, opensReadable_cons room]
      rcases here with ⟨readable, found⟩ | ⟨unreadable, e, failed⟩
      · have filled := fill_eq wanted (contents source) room
        have counted : (fill wanted limit (contents source) taken).length =
            min limit (taken.length + (contents source).countP wanted) := by
          rw [filled, List.length_take, List.length_append, List.countP_eq_length_filter]
        have fits : (fill wanted limit (contents source) taken).length ≤ limit := by omega
        obtain ⟨good, bad⟩ := ih others fits
        rw [counted] at good bad
        simp only [found]
        constructor
        · rintro ⟨-, later⟩
          rw [good later, filled, List.flatMap_cons, List.filter_append, ← List.append_assoc]
          generalize taken ++ (contents source).filter wanted = front
          rw [List.take_append, List.take_append, List.take_take, Nat.min_self, List.length_take]
          congr 3
          omega
        · intro none
          exact bad fun later => none ⟨readable, later⟩
      · simp only [failed]
        exact ⟨fun good => absurd good.1 unreadable, fun _ => ⟨e, rfl⟩⟩

theorem scanAll_reads (wanted : A → Bool) {sources : List S}
    (reads : ∀ source ∈ sources, Reads read contents Readable source) (taken : List A) :
    ((∀ source ∈ sources, Readable source) →
      scanAll read wanted sources taken = .ok (taken ++ (sources.flatMap contents).filter wanted)) ∧
    ((¬∀ source ∈ sources, Readable source) →
      ∃ e, scanAll read wanted sources taken = .error e) := by
  induction sources generalizing taken with
  | nil =>
    constructor
    · intro _
      rw [scanAll, List.flatMap_nil, List.filter_nil, List.append_nil]
    · exact fun unreadable => absurd (fun source member => by cases member) unreadable
  | cons source rest ih =>
    obtain ⟨here, others⟩ := List.forall_mem_cons.mp reads
    rw [scanAll, List.forall_mem_cons]
    rcases here with ⟨readable, found⟩ | ⟨unreadable, e, failed⟩
    · obtain ⟨good, bad⟩ := ih others (taken ++ (contents source).filter wanted)
      simp only [found]
      constructor
      · rintro ⟨-, later⟩
        rw [good later, List.flatMap_cons, List.filter_append, List.append_assoc]
      · exact fun none => bad fun later => none ⟨readable, later⟩
    · simp only [failed]
      exact ⟨fun good => absurd good.1 unreadable, fun _ => ⟨e, rfl⟩⟩

end

end SensorGateway.Lib.Scan

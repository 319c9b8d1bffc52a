import Mathlib.Data.List.Basic
import Mathlib.Data.List.DropRight

/-! Text files read line by line and written back as a whole. -/

namespace SensorGateway.Lib.Lines

abbrev Text := List Char

/-- The Unicode property `White_Space`, which `trim` removes. -/
def isWhiteSpace (c : Char) : Bool :=
  let n := c.toNat
  (9 ≤ n && n ≤ 13) || n == 32 || n == 0x85 || n == 0xA0 || n == 0x1680 ||
    (0x2000 ≤ n && n ≤ 0x200A) || n == 0x2028 || n == 0x2029 || n == 0x202F || n == 0x205F || n == 0x3000

def isBlank (line : Text) : Bool := line.all isWhiteSpace

/-- One carriage return less at the end, if there is one. -/
def stripReturn (line : Text) : Text :=
  if line.getLast? = some '\r' then line.dropLast else line

/-- `str::lines`: a line ends in `\n` or `\r\n`; the last one need not end at all. -/
def lines (text : Text) : List Text :=
  let pieces := text.splitOn '\n'
  pieces.dropLast.map stripReturn ++ (pieces.getLast?.toList.filter fun last => last ≠ [])

/-- The lines joined by `\n`, with a final one unless there is nothing to end. -/
def unlines (rows : List Text) : Text :=
  let text := ['\n'].intercalate rows
  if text = [] then [] else text ++ ['\n']

/-- A line without the carriage returns that belong to its ending. -/
def trimReturns (line : Text) : Text := line.rdropWhile (· == '\r')

/-- What a line-based log holds: its non-blank lines, whatever their line endings. -/
def entries (text : Text) : List Text :=
  ((text.splitOn '\n').filter fun line => !isBlank line).map trimReturns

/-- The lines of a file without the blank ones. -/
def nonBlankLines (text : Text) : List Text := (lines text).filter fun line => !isBlank line

/-- No line of the file ends in a carriage return besides the one that belongs to its ending. -/
def Trimmed (text : Text) : Prop := ∀ line ∈ nonBlankLines text, trimReturns line = line

theorem isBlank_append (a b : Text) : isBlank (a ++ b) = (isBlank a && isBlank b) := List.all_append

theorem stripReturn_append (line : Text) : stripReturn (line ++ ['\r']) = line := by
  simp [stripReturn]

/-- A line either ends in a carriage return, which `stripReturn` takes away, or stays. -/
theorem stripReturn_cases (line : Text) :
    line = stripReturn line ++ ['\r'] ∨ stripReturn line = line := by
  by_cases ends : line.getLast? = some '\r'
  · left
    obtain ⟨front, rfl⟩ := List.getLast?_eq_some_iff.mp ends
    rw [stripReturn_append]
  · right
    rw [stripReturn, if_neg ends]

theorem isBlank_stripReturn (line : Text) : isBlank (stripReturn line) = isBlank line := by
  obtain ends | same := stripReturn_cases line
  · conv => rhs; rw [ends]
    rw [isBlank_append]
    simp [isBlank, isWhiteSpace]
  · rw [same]

theorem trimReturns_stripReturn (line : Text) : trimReturns (stripReturn line) = trimReturns line := by
  obtain ends | same := stripReturn_cases line
  · conv => rhs; rw [ends]
    simp [trimReturns]
  · rw [same]

theorem trimReturns_of_not_mem {line : Text} (none : '\r' ∉ line) : trimReturns line = line := by
  rw [trimReturns, List.rdropWhile_eq_self_iff]
  intro nonempty
  simp only [beq_iff_eq]
  intro ends
  exact none (ends ▸ List.getLast_mem nonempty)

/-- A line without carriage returns at its end loses none. -/
theorem stripReturn_of_trimmed {line : Text} (trimmed : trimReturns line = line) :
    stripReturn line = line := by
  obtain ends | same := stripReturn_cases line
  · have shorter : (trimReturns (stripReturn line)).length ≤ (stripReturn line).length :=
      (List.rdropWhile_prefix _ _).length_le
    have longer := congrArg List.length ends
    rw [List.length_append, List.length_singleton] at longer
    rw [trimReturns_stripReturn, trimmed] at shorter
    omega
  · exact same

theorem stripReturn_eq_self_iff {line : Text} : stripReturn line = line ↔ trimReturns line = line := by
  refine ⟨?_, stripReturn_of_trimmed⟩
  intro stays
  rw [trimReturns, List.rdropWhile_eq_self_iff]
  intro nonempty ending
  rw [beq_iff_eq] at ending
  have shorter := congrArg List.length stays
  rw [stripReturn, if_pos (by rw [List.getLast?_eq_some_getLast nonempty, ending]),
    List.length_dropLast] at shorter
  have positive := List.length_pos_of_ne_nil nonempty
  omega

/-- Between separators there is no separator. -/
theorem not_mem_splitOn {separator : Char} {text piece : Text} (member : piece ∈ text.splitOn separator) :
    separator ∉ piece := by
  induction text generalizing piece with
  | nil =>
    rw [List.splitOn_nil, List.mem_singleton] at member
    simp [member]
  | cons c rest ih =>
    rw [List.splitOn_cons_eq_if_modifyHead] at member
    by_cases same : (c == separator) = true
    · rw [if_pos same, List.mem_cons] at member
      obtain rfl | later := member
      · exact List.not_mem_nil
      · exact ih later
    · rw [if_neg same] at member
      cases pieces : rest.splitOn separator with
      | nil => exact absurd pieces (List.splitOn_ne_nil separator rest)
      | cons first others =>
        rw [pieces, List.modifyHead_cons, List.mem_cons] at member
        obtain rfl | later := member
        · have apart : c ≠ separator := by simpa using same
          have clean := ih (pieces ▸ List.mem_cons_self)
          simp [clean, apart.symm]
        · exact ih (pieces ▸ List.mem_cons_of_mem _ later)

/-- Blankness does not depend on a carriage return at the end. -/
theorem filter_map_stripReturn (rows : List Text) :
    (rows.map stripReturn).filter (fun line => !isBlank line) =
      (rows.filter fun line => !isBlank line).map stripReturn := by
  rw [List.filter_map]
  congr 1
  apply List.filter_congr
  intro line _
  rw [Function.comp_apply, isBlank_stripReturn]

/-- Reading a file with `lines` and dropping the blank ones sees its entries. -/
theorem entries_lines (text : Text) :
    ((lines text).filter fun line => !isBlank line).map trimReturns = entries text := by
  unfold lines entries
  have nonempty := List.splitOn_ne_nil '\n' text
  generalize text.splitOn '\n' = pieces at nonempty
  obtain ⟨front, last, rfl⟩ := (List.eq_nil_or_concat pieces).resolve_left nonempty
  have inner : ((front.map stripReturn).filter fun line => !isBlank line).map trimReturns =
      (front.filter fun line => !isBlank line).map trimReturns := by
    rw [filter_map_stripReturn, List.map_map]
    congr 1
    funext line
    exact trimReturns_stripReturn line
  by_cases empty : last = []
  · have blank : isBlank [] = true := rfl
    simp [inner, empty, blank]
  · simp [inner, empty]

theorem not_mem_lines {text line : Text} (member : line ∈ lines text) : '\n' ∉ line := by
  rw [lines, List.mem_append] at member
  obtain stripped | final := member
  · obtain ⟨piece, inFront, rfl⟩ := List.mem_map.mp stripped
    have clean := not_mem_splitOn (List.dropLast_subset _ inFront)
    obtain ends | same := stripReturn_cases piece
    · exact fun bad => clean (ends ▸ List.mem_append_left _ bad)
    · rw [same]
      exact clean
  · have there := (List.mem_filter.mp final).1
    rw [Option.mem_toList] at there
    exact not_mem_splitOn (List.mem_of_getLast? there)

/-- A file written from lines holds them as entries. -/
theorem entries_unlines {rows : List Text} (single : ∀ line ∈ rows, '\n' ∉ line) :
    entries (unlines rows) = (rows.filter fun line => !isBlank line).map trimReturns := by
  by_cases none : rows = []
  · subst none
    decide
  · have split := List.splitOn_intercalate '\n' single none
    unfold unlines entries
    by_cases empty : ['\n'].intercalate rows = []
    · simp only [empty, if_true]
      rw [empty] at split
      rw [split]
    · simp only [if_neg empty]
      rw [List.splitOn_append_cons_self, split, List.splitOn_nil, List.filter_append]
      simp [isBlank]

/-- Any lines are read back without the blank ones, and each without a carriage return at its end. -/
theorem nonBlankLines_unlines {rows : List Text} (single : ∀ line ∈ rows, '\n' ∉ line) :
    nonBlankLines (unlines rows) = (rows.filter fun line => !isBlank line).map stripReturn := by
  by_cases none : rows = []
  · subst none
    rfl
  · have split := List.splitOn_intercalate '\n' single none
    unfold nonBlankLines unlines lines
    by_cases empty : ['\n'].intercalate rows = []
    · rw [empty, List.splitOn_nil] at split
      rw [if_pos empty, ← split]
      rfl
    · rw [if_neg empty, List.splitOn_append_cons_self, split, List.splitOn_nil]
      simp [filter_map_stripReturn]

/-- Lines that are not blank are read back as they were written, but for a carriage return. -/
theorem lines_unlines {rows : List Text} (single : ∀ line ∈ rows, '\n' ∉ line)
    (bright : ∀ line ∈ rows, isBlank line = false) :
    lines (unlines rows) = rows.map stripReturn := by
  by_cases none : rows = []
  · subst none
    rfl
  · have split := List.splitOn_intercalate '\n' single none
    have some : ['\n'].intercalate rows ≠ [] := by
      intro empty
      rw [empty, List.splitOn_nil] at split
      have blank := bright [] (split ▸ List.mem_singleton_self _)
      exact absurd blank (by decide)
    unfold lines unlines
    rw [if_neg some, List.splitOn_append_cons_self, split, List.splitOn_nil]
    simp

section
variable {A : Type} {reader : Text → Option A}

/-- A reader to which a carriage return at the end means nothing. -/
def IgnoresReturns (reader : Text → Option A) : Prop := ∀ text, reader (text ++ ['\r']) = reader text

theorem IgnoresReturns.trimReturns (ignores : IgnoresReturns reader) (line : Text) :
    reader (Lines.trimReturns line) = reader line := by
  induction line using List.reverseRecOn with
  | nil => rfl
  | append_singleton front c ih =>
    by_cases ending : c = '\r'
    · have shorter : Lines.trimReturns (front ++ [c]) = Lines.trimReturns front := by
        rw [Lines.trimReturns, List.rdropWhile_concat_pos _ _ _ (by simp [ending]), Lines.trimReturns]
      rw [shorter, ih, ending, ignores front]
    · have same : Lines.trimReturns (front ++ [c]) = front ++ [c] :=
        List.rdropWhile_concat_neg _ _ _ (by simp [ending])
      rw [same]

/-- Such a reader may as well read the entries. -/
theorem IgnoresReturns.mapM_lines (ignores : IgnoresReturns reader) (text : Text) :
    ((lines text).filter fun line => !isBlank line).mapM reader = (entries text).mapM reader := by
  rw [← entries_lines, List.mapM_map]
  congr 1
  funext line
  exact (ignores.trimReturns line).symm

theorem IgnoresReturns.filterMap_lines (ignores : IgnoresReturns reader)
    (blank : ∀ line, isBlank line = true → reader line = none) (text : Text) :
    (lines text).filterMap reader = (entries text).filterMap reader := by
  have dropped : ((lines text).filter fun line => !isBlank line).filterMap reader =
      (lines text).filterMap reader := by
    induction lines text with
    | nil => rfl
    | cons line rest ih =>
      by_cases empty : isBlank line = true
      · simp [empty, ih, blank line empty]
      · simp [empty, ih, List.filterMap_cons]
  rw [← entries_lines, List.filterMap_map, ← dropped]
  congr 1
  funext line
  exact (ignores.trimReturns line).symm

end

end SensorGateway.Lib.Lines

import SensorGateway.Lib.Lines

/-! Lines appended to a text file by writers that may be cut short. What has been written of a line
stays, and the next line goes right behind it. -/

namespace SensorGateway.Lib.Appends
open Lines

/-! ## Ended lines -/

/-- The lines that have been ended. -/
def finished (text : Text) : List Text := (text.splitOn '\n').dropLast

/-- What stands behind the last of them. -/
def unfinished (text : Text) : Text := (text.splitOn '\n').getLastD []

theorem finished_unfinished (text : Text) : finished text ++ [unfinished text] = text.splitOn '\n' := by
  have nonempty := List.splitOn_ne_nil '\n' text
  rw [finished, unfinished, List.getLastD_eq_getLast?, List.getLast?_eq_some_getLast nonempty,
    Option.getD_some, List.dropLast_concat_getLast]

@[simp] theorem unfinished_nil : unfinished [] = [] := rfl

@[simp] theorem finished_nil : finished [] = [] := rfl

/-- More of the line that is being written. -/
theorem splitOn_append_piece (text : Text) {piece : Text} (single : '\n' ∉ piece) :
    (text ++ piece).splitOn '\n' = finished text ++ [unfinished text ++ piece] := by
  induction text with
  | nil =>
    apply List.splitOnP_eq_singleton
    intro c member
    exact beq_false_of_ne (fun same => single (same ▸ member))
  | cons c rest ih =>
    have parts := finished_unfinished rest
    have whole := finished_unfinished (c :: rest)
    rw [List.splitOn_cons_eq_if_modifyHead] at whole
    rw [List.cons_append, List.splitOn_cons_eq_if_modifyHead, ih]
    by_cases same : (c == '\n') = true
    · rw [if_pos same, ← parts, ← List.cons_append] at whole
      obtain ⟨front, last⟩ := List.append_inj' whole rfl
      rw [if_pos same, front, List.singleton_inj.mp last, List.cons_append]
    · rw [if_neg same, ← parts] at whole
      rw [if_neg same]
      cases before : finished rest with
      | nil =>
        rw [before, List.nil_append, List.modifyHead_cons, ← List.nil_append [c :: _]] at whole
        obtain ⟨front, last⟩ := List.append_inj' whole rfl
        rw [front, List.singleton_inj.mp last]
        rfl
      | cons first others =>
        rw [before, List.cons_append, List.modifyHead_cons, ← List.cons_append] at whole
        obtain ⟨front, last⟩ := List.append_inj' whole rfl
        rw [front, List.singleton_inj.mp last]
        rfl

theorem finished_append_piece (text : Text) {piece : Text} (single : '\n' ∉ piece) :
    finished (text ++ piece) = finished text ∧ unfinished (text ++ piece) = unfinished text ++ piece := by
  have parts := finished_unfinished (text ++ piece)
  rw [splitOn_append_piece text single] at parts
  obtain ⟨front, last⟩ := List.append_inj' parts rfl
  exact ⟨front, List.singleton_inj.mp last⟩

/-- The line that is being written, and its end. -/
theorem finished_append_line (text : Text) {row : Text} (single : '\n' ∉ row) :
    finished (text ++ (row ++ ['\n'])) = finished text ++ [unfinished text ++ row] ∧
      unfinished (text ++ (row ++ ['\n'])) = [] := by
  have parts := finished_unfinished (text ++ (row ++ ['\n']))
  rw [← List.append_assoc, List.splitOn_append_cons_self, splitOn_append_piece text single,
    List.splitOn_nil] at parts
  rw [← List.append_assoc]
  obtain ⟨front, last⟩ := List.append_inj' parts rfl
  exact ⟨front, List.singleton_inj.mp last⟩

section
variable {A : Type} {reader : Text → Option A}

/-- A reader of lines reads what has been ended, and then what has not. -/
theorem filterMap_lines (ignores : IgnoresReturns reader)
    (blank : ∀ line, isBlank line = true → reader line = none) (text : Text) :
    (lines text).filterMap reader =
      (finished text).filterMap reader ++ (reader (unfinished text)).toList := by
  rw [ignores.filterMap_lines blank, entries, ← finished_unfinished, List.filterMap_map,
    List.filterMap_filter]
  have same : (fun line => if (!isBlank line) = true then (reader ∘ trimReturns) line else none) =
      reader := by
    funext line
    by_cases empty : isBlank line = true
    · simp [empty, blank line empty]
    · simp [empty, ignores.trimReturns line]
  rw [same, List.filterMap_append]
  rfl

end

/-! ## Entries -/

/-- A value of whose line so many characters have been written. The line feed is one of them. -/
structure Entry (V : Type*) where
  value : V
  kept : Nat
  deriving DecidableEq, Repr

section
variable {V : Type*} (row : V → Text)

def written (entry : Entry V) : Text := (row entry.value ++ ['\n']).take entry.kept

def content (entries : List (Entry V)) : Text := entries.flatMap (written row)

/-- The line has been written up to its end. -/
def Whole (entry : Entry V) : Prop := (row entry.value).length < entry.kept

instance wholeDecidable (entry : Entry V) : Decidable (Whole row entry) :=
  inferInstanceAs (Decidable (_ < _))

def cut (entries : List (Entry V)) : List (Entry V) := entries.filter fun a => ¬Whole row a

def wholes (entries : List (Entry V)) : List (Entry V) := entries.filter fun a => Whole row a

/-- Those written up to their end that have a line to themselves. -/
def intact (before : Text) : List (Entry V) → List (Entry V)
  | [] => []
  | entry :: rest =>
    let behind := intact (before ++ written row entry) rest
    if Whole row entry ∧ unfinished before = [] then entry :: behind else behind

/-- Whether a line has been left without its end. -/
def loose (text : Text) : Nat := if unfinished text = [] then 0 else 1

theorem loose_le (text : Text) : loose text ≤ 1 := by
  unfold loose
  split <;> omega

theorem content_append (first second : List (Entry V)) :
    content row (first ++ second) = content row first ++ content row second := List.flatMap_append

theorem content_cons (before : Text) (entry : Entry V) (rest : List (Entry V)) :
    before ++ content row (entry :: rest) = before ++ written row entry ++ content row rest :=
  (List.append_assoc _ _ _).symm

variable {row}

theorem written_whole {entry : Entry V} (whole : Whole row entry) :
    written row entry = row entry.value ++ ['\n'] := by
  apply List.take_of_length_le
  rw [List.length_append, List.length_singleton]
  exact whole

/-- What has been written of a line that was cut short is a part of it. -/
theorem written_cut {entry : Entry V} (broken : ¬Whole row entry) :
    written row entry = (row entry.value).take entry.kept :=
  List.take_append_of_le_length (Nat.le_of_not_lt broken)

theorem finished_cut (text : Text) {entry : Entry V} (single : '\n' ∉ row entry.value)
    (broken : ¬Whole row entry) : finished (text ++ written row entry) = finished text := by
  rw [written_cut broken]
  exact (finished_append_piece text (fun bad => single (List.mem_of_mem_take bad))).1

theorem finished_whole (text : Text) {entry : Entry V} (single : '\n' ∉ row entry.value)
    (whole : Whole row entry) :
    finished (text ++ written row entry) = finished text ++ [unfinished text ++ row entry.value] ∧
      unfinished (text ++ written row entry) = [] := by
  rw [written_whole whole]
  exact finished_append_line text single

/-- Every line that is written up to its end is intact, but for one behind each that is not. -/
theorem wholes_length_le (before : Text) {entries : List (Entry V)}
    (single : ∀ a ∈ entries, '\n' ∉ row a.value) :
    (wholes row entries).length ≤
      loose before + (intact row before entries).length + (cut row entries).length := by
  induction entries generalizing before with
  | nil => exact Nat.zero_le _
  | cons a rest ih =>
    obtain ⟨here, others⟩ := List.forall_mem_cons.mp single
    have later := ih (before ++ written row a) others
    by_cases whole : Whole row a
    · have ended : loose (before ++ written row a) = 0 := if_pos (finished_whole before here whole).2
      by_cases clean : unfinished before = []
      · simp only [wholes, cut, intact, whole, clean, List.filter_cons, decide_true, not_true_eq_false,
          decide_false, and_self, if_true, Bool.false_eq_true, if_false, List.length_cons] at later ⊢
        omega
      · have open_ : loose before = 1 := if_neg clean
        simp only [wholes, cut, intact, whole, clean, List.filter_cons, decide_true, not_true_eq_false,
          decide_false, and_false, if_true, Bool.false_eq_true, if_false, List.length_cons] at later ⊢
        omega
    · have some := loose_le (before ++ written row a)
      simp only [wholes, cut, intact, whole, List.filter_cons, decide_true, not_false_eq_true,
        decide_false, false_and, if_true, Bool.false_eq_true, if_false, List.length_cons] at later ⊢
      omega

variable {A : Type} {reader : Text → Option A} (what : V → A)

/-- Intact lines are read back in their order, with at most one other for each that was cut short. -/
theorem finished_content (before : Text) {entries : List (Entry V)}
    (single : ∀ a ∈ entries, '\n' ∉ row a.value)
    (reads : ∀ a ∈ entries, reader (row a.value) = some (what a.value)) :
    ∃ added, (finished (before ++ content row entries)).filterMap reader =
        (finished before).filterMap reader ++ added ∧
      List.Sublist ((intact row before entries).map fun a => what a.value) added ∧
      added.length + loose (before ++ content row entries) ≤
        loose before + (intact row before entries).length + (cut row entries).length := by
  induction entries generalizing before with
  | nil => exact ⟨[], by simp [content], List.Sublist.refl _, by simp [content, intact, cut]⟩
  | cons a rest ih =>
    obtain ⟨here, others⟩ := List.forall_mem_cons.mp single
    obtain ⟨reads_here, reads_others⟩ := List.forall_mem_cons.mp reads
    obtain ⟨added, values, part, bound⟩ := ih (before ++ written row a) others reads_others
    rw [content_cons]
    by_cases whole : Whole row a
    · obtain ⟨lines_here, ended⟩ := finished_whole before here whole
      have closed : loose (before ++ written row a) = 0 := if_pos ended
      rw [lines_here, List.filterMap_append] at values
      refine ⟨[unfinished before ++ row a.value].filterMap reader ++ added,
        values.trans (List.append_assoc _ _ _), ?_, ?_⟩
      · by_cases clean : unfinished before = []
        · simp only [intact, whole, clean, and_self, if_true, List.nil_append, List.map_cons,
            List.filterMap_cons, reads_here, List.filterMap_nil, List.singleton_append]
          exact part.cons_cons _
        · simp only [intact, whole, clean, and_false, if_false]
          exact part.trans (List.sublist_append_right _ _)
      · have one : ([unfinished before ++ row a.value].filterMap reader).length ≤ 1 :=
          List.length_filterMap_le ..
        rw [List.length_append]
        by_cases clean : unfinished before = []
        · simp only [intact, cut, whole, clean, List.filter_cons, and_self, if_true, not_true_eq_false,
            decide_false, Bool.false_eq_true, if_false, List.length_cons] at bound one ⊢
          omega
        · have open_ : loose before = 1 := if_neg clean
          simp only [intact, cut, whole, clean, List.filter_cons, and_false, not_true_eq_false,
            decide_false, Bool.false_eq_true, if_false] at bound ⊢
          omega
    · rw [finished_cut before here whole] at values
      have some := loose_le (before ++ written row a)
      refine ⟨added, values, ?_, ?_⟩
      · simp only [intact, whole, false_and, if_false]
        exact part
      · simp only [intact, cut, whole, List.filter_cons, false_and, if_false, not_false_eq_true,
          decide_true, if_true, List.length_cons] at bound ⊢
        omega

/-- Where no line has been cut short, every line is intact. -/
theorem intact_of_whole {before : Text} (clean : unfinished before = []) {entries : List (Entry V)}
    (single : ∀ a ∈ entries, '\n' ∉ row a.value) (whole : ∀ a ∈ entries, Whole row a) :
    intact row before entries = entries ∧ unfinished (before ++ content row entries) = [] := by
  induction entries generalizing before with
  | nil => exact ⟨rfl, by simpa [content] using clean⟩
  | cons a rest ih =>
    obtain ⟨here, others⟩ := List.forall_mem_cons.mp single
    obtain ⟨whole_here, whole_others⟩ := List.forall_mem_cons.mp whole
    obtain ⟨behind, ended⟩ := ih (finished_whole before here whole_here).2 others whole_others
    rw [content_cons]
    exact ⟨by rw [intact, if_pos ⟨whole_here, clean⟩, behind], ended⟩

theorem cut_eq_nil {entries : List (Entry V)} (whole : ∀ a ∈ entries, Whole row a) :
    cut row entries = [] := by
  rw [cut, List.filter_eq_nil_iff]
  intro a member
  simp [whole a member]

/-- They are then all that is read, and what comes later is read behind them. -/
theorem finished_wholes {entries : List (Entry V)} (single : ∀ a ∈ entries, '\n' ∉ row a.value)
    (reads : ∀ a ∈ entries, reader (row a.value) = some (what a.value))
    (whole : ∀ a ∈ entries, Whole row a) :
    (finished (content row entries)).filterMap reader = entries.map fun a => what a.value := by
  obtain ⟨added, values, part, bound⟩ := finished_content what [] single reads
  obtain ⟨all, -⟩ := intact_of_whole unfinished_nil single whole
  rw [all] at part bound
  rw [cut_eq_nil whole, List.length_nil, Nat.add_zero] at bound
  have clean : loose [] = 0 := rfl
  have few : added.length ≤ (entries.map fun a => what a.value).length := by
    rw [List.length_map]
    omega
  exact values.trans (part.eq_of_length_le few).symm

end

end SensorGateway.Lib.Appends

import SensorGateway.Storage.HourlyLog
import SensorGateway.Storage.Texts

/-! The hourly writer over whole runs. It caches the lines of one file and rewrites that file at every
call; seen from the directory, each call appends one line to the log of its hour. -/

namespace SensorGateway.Storage.HourlyAppend
open SensorGateway.Lib.ExtendedRat SensorGateway.Lib.Fallible SensorGateway.Lib.Lines
open SensorGateway.Types Disk Persist HourlyLog Encoding Texts
open Persist.HourlyWriter (At push)
variable {F Value : Type} (serde : Serde F Value)

/-- A call of `append_jsonl`. -/
structure Append (F : Type) where
  unixHour : Int
  frame : AggregatedFrame F

/-- A new writer on the files that an earlier run, or somebody else, has left. -/
def opened (files : Files) : Store := ⟨files, HourlyWriter.new, [], [], []⟩

/-- Every file operation goes through. -/
def append (s : Store) (call : Append F) : Except IoError Unit × Store :=
  (appendJsonl serde call.unixHour call.frame .ok .none).run.run s

def appendAll (s : Store) (calls : List (Append F)) : Store :=
  calls.foldl (fun s call => (append serde s call).2) s

/-- The lines that the calls add to the log of an hour. A frame that is refused adds none. -/
def appended (calls : List (Append F)) (hour : Int) : List Text :=
  calls.filterMap fun call => if call.unixHour = hour then serde.frame call.frame else none

/-- What the file of an hour holds, if there is one. -/
def contentAt (files : Files) (hour : Int) : Text := ((files (hourPath hour)).map File.text).getD []

/-- These rows are the log of the hour: what it held at first, and what has been appended. -/
structure Holds (files : Files) (hour : Int) (added rows : List Text) : Prop where
  single : ∀ row ∈ rows, '\n' ∉ row
  bright : ∀ row ∈ rows, isBlank row = false
  content : rows.map trimReturns = entries (contentAt files hour) ++ added
  trimmed : Trimmed (contentAt files hour) → ∀ row ∈ rows, trimReturns row = row

theorem holds_initial (files : Files) (hour : Int) :
    Holds files hour [] (nonBlankLines (contentAt files hour)) where
  single := fun row member => not_mem_lines (List.mem_of_mem_filter member)
  bright := fun row member => by simpa using (List.mem_filter.mp member).2
  content := by
    rw [List.append_nil]
    exact entries_lines _
  trimmed := fun trimmed => trimmed

/-- Rows written to a file and read back are the log still. -/
theorem Holds.reread {files : Files} {hour : Int} {added rows : List Text}
    (holds : Holds files hour added rows) :
    Holds files hour added (nonBlankLines (unlines rows)) := by
  have back : nonBlankLines (unlines rows) = rows.map stripReturn := by
    rw [nonBlankLines_unlines holds.single, List.filter_eq_self.mpr]
    intro row member
    rw [holds.bright row member]
    rfl
  constructor
  · exact fun row member => not_mem_lines (List.mem_of_mem_filter member)
  · exact fun row member => by simpa using (List.mem_filter.mp member).2
  · rw [back, List.map_map, ← holds.content]
    congr 1
    funext row
    exact trimReturns_stripReturn row
  · intro trimmed line member
    rw [back] at member
    obtain ⟨row, there, rfl⟩ := List.mem_map.mp member
    have bare := holds.trimmed trimmed row there
    rw [stripReturn_of_trimmed bare, bare]

theorem Holds.push {files : Files} {hour : Int} {added rows : List Text}
    (holds : Holds files hour added rows) {frame : AggregatedFrame F} {line : Text}
    (serialized : serde.frame frame = some line) :
    Holds files hour (added ++ [line]) (rows ++ [line]) := by
  obtain ⟨single, plain, brace⟩ := serde.compact frame line serialized
  have bare := trimReturns_of_not_mem plain
  constructor
  · intro row member
    rcases List.mem_append.mp member with old | new
    · exact holds.single row old
    · rw [List.mem_singleton.mp new]
      exact single
  · intro row member
    rcases List.mem_append.mp member with old | new
    · exact holds.bright row old
    · rw [List.mem_singleton.mp new]
      exact bright_of_brace brace
  · rw [List.map_append, holds.content, List.map_singleton, bare, List.append_assoc]
  · intro trimmed row member
    rcases List.mem_append.mp member with old | new
    · exact holds.trimmed trimmed row old
    · rw [List.mem_singleton.mp new]
      exact bare

/-- Where no line was longer than its ending, the file reads as it did, with the new lines behind. -/
theorem Holds.lines_eq {files : Files} {hour : Int} {added rows : List Text}
    (holds : Holds files hour added rows) (trimmed : Trimmed (contentAt files hour)) :
    lines (unlines rows) = nonBlankLines (contentAt files hour) ++ added := by
  have bare := holds.trimmed trimmed
  have initial : entries (contentAt files hour) = nonBlankLines (contentAt files hour) := by
    rw [← entries_lines]
    exact (List.map_congr_left (g := id) trimmed).trans (List.map_id _)
  calc
    lines (unlines rows) = rows.map stripReturn := lines_unlines holds.single holds.bright
    _ = rows.map trimReturns := by
      apply List.map_congr_left
      intro row member
      rw [stripReturn_of_trimmed (bare row member), bare row member]
    _ = nonBlankLines (contentAt files hour) ++ added := by rw [holds.content, initial]

/-- The directory and the cache after some calls. What an hour holds is on disk once something has
been appended to it; the cache has all of its own hour. -/
structure Simulates (files : Files) (calls : List (Append F)) (s : Store) : Prop where
  consistent : Consistent s.hourly
  cache : ∀ hour, s.hourly.currentUnixHour = some hour →
    Holds files hour (appended serde calls hour) s.hourly.currentLines
  untouched : ∀ hour, appended serde calls hour = [] →
    s.now.text (hourPath hour) = (opened files).now.text (hourPath hour)
  touched : ∀ hour, appended serde calls hour ≠ [] → ∃ rows,
    Holds files hour (appended serde calls hour) rows ∧
      s.now.text (hourPath hour) = some (unlines rows)

theorem simulates_opened (files : Files) : Simulates serde files [] (opened files) where
  consistent := consistent_new
  cache := fun hour there => by cases there
  untouched := fun _ _ => rfl
  touched := fun hour some => absurd rfl some

variable {serde}

/-- After the rotation the cache holds the hour asked for, wherever the writer was before. -/
theorem Simulates.holds_rotated {files : Files} {calls : List (Append F)} {s : Store}
    (simulates : Simulates serde files calls s) (hour : Int) :
    Holds files hour (appended serde calls hour) (rotated s hour).currentLines := by
  by_cases here : At s.hourly hour
  · rw [HourlyLog.rotated, if_pos here]
    exact simulates.cache hour here.1
  · rw [HourlyLog.rotated, if_neg here]
    show Holds files hour _ (nonBlankLines ((s.now.text (hourPath hour)).getD []))
    by_cases none : appended serde calls hour = []
    · rw [simulates.untouched hour none, none]
      exact holds_initial files hour
    · obtain ⟨rows, holds, there⟩ := simulates.touched hour none
      rw [there]
      exact holds.reread

variable (serde) in
theorem appended_concat (calls : List (Append F)) (call : Append F) (hour : Int) :
    appended serde (calls ++ [call]) hour = appended serde calls hour ++
      (if call.unixHour = hour then serde.frame call.frame else none).toList := by
  rw [appended, List.filterMap_append]
  congr 1

/-- A refused frame leaves the directory alone. -/
theorem Simulates.refused {files : Files} {calls : List (Append F)} {s : Store}
    (simulates : Simulates serde files calls s) {call : Append F}
    (refused : serde.frame call.frame = none) :
    Simulates serde files (calls ++ [call]) { s with hourly := rotated s call.unixHour } := by
  have same (hour : Int) : appended serde (calls ++ [call]) hour = appended serde calls hour := by
    rw [appended_concat, refused, ite_self]
    exact List.append_nil _
  constructor
  · exact simulates.consistent.rotated _
  · intro hour there
    rw [eq_of_rotated there, same]
    exact simulates.holds_rotated call.unixHour
  · intro hour none
    rw [same] at none
    exact simulates.untouched hour none
  · intro hour some
    rw [same] at some ⊢
    exact simulates.touched hour some

/-- One line is appended to the log of one hour. -/
theorem Simulates.published {files : Files} {calls : List (Append F)} {s t : Store}
    (simulates : Simulates serde files calls s) {call : Append F} {line : Text}
    (serialized : serde.frame call.frame = some line)
    (published : Published { s with hourly := push (rotated s call.unixHour) line } t
      (hourCall (push (rotated s call.unixHour) line) call.unixHour)) :
    Simulates serde files (calls ++ [call]) t := by
  have here : appended serde (calls ++ [call]) call.unixHour =
      appended serde calls call.unixHour ++ [line] := by
    rw [appended_concat, if_pos rfl, serialized]
    rfl
  have elsewhere {hour : Int} (other : hour ≠ call.unixHour) :
      appended serde (calls ++ [call]) hour = appended serde calls hour := by
    rw [appended_concat, if_neg other.symm]
    exact List.append_nil _
  have kept {hour : Int} (other : hour ≠ call.unixHour) :
      t.now.text (hourPath hour) = s.now.text (hourPath hour) :=
    published.keeps (lasting_hourPath hour) fun same => other (hourPath_inj same)
  have log := (simulates.holds_rotated call.unixHour).push serde serialized
  rw [← here] at log
  constructor
  · rw [published.hourly]
    exact (simulates.consistent.rotated _).push (serde.compact _ _ serialized).1
  · intro hour there
    rw [published.hourly] at there ⊢
    rw [eq_of_rotated there]
    exact log
  · intro hour none
    by_cases other : hour = call.unixHour
    · rw [other, here] at none
      exact absurd none (List.append_ne_nil_of_right_ne_nil _ (List.cons_ne_nil _ _))
    · rw [elsewhere other] at none
      rw [kept other]
      exact simulates.untouched hour none
  · intro hour some
    by_cases other : hour = call.unixHour
    · subst other
      exact ⟨_, log, published.now.2.1⟩
    · rw [elsewhere other] at some ⊢
      rw [kept other]
      exact simulates.touched hour some

variable (serde) in
/-- One call either publishes the cache with its line or is refused its frame. -/
theorem append_cases {s : Store} (consistent : Consistent s.hourly) (call : Append F) :
    (∃ line, serde.frame call.frame = some line ∧ (append serde s call).1 = .ok () ∧
      Published { s with hourly := push (rotated s call.unixHour) line } (append serde s call).2
        (hourCall (push (rotated s call.unixHour) line) call.unixHour)) ∨
      serde.frame call.frame = none ∧ (∃ e, (append serde s call).1 = .error e) ∧
        (append serde s call).2 = { s with hourly := rotated s call.unixHour } := by
  have ends := append_ensures serde consistent call.unixHour call.frame .ok .none
  unfold Ensures at ends
  unfold append
  cases result : (appendJsonl serde call.unixHour call.frame .ok .none).run.run s with
  | mk answer t =>
    simp only [result] at ends ⊢
    cases answer with
    | ok done =>
      obtain ⟨-, -, line, serialized, published⟩ := ends
      exact Or.inl ⟨line, serialized, rfl, published⟩
    | error e =>
      obtain ⟨failed, -⟩ | ⟨refused, same⟩ | ⟨dirty, -⟩ := ends
      · exact absurd (Or.inr trivial) failed
      · exact Or.inr ⟨refused, ⟨e, rfl⟩, same⟩
      · exact absurd rfl dirty

theorem Simulates.append {files : Files} {calls : List (Append F)} {s : Store}
    (simulates : Simulates serde files calls s) (call : Append F) :
    Simulates serde files (calls ++ [call]) (append serde s call).2 := by
  rcases append_cases serde simulates.consistent call with
    ⟨line, serialized, -, published⟩ | ⟨refused, -, same⟩
  · exact simulates.published serialized published
  · rw [same]
    exact simulates.refused refused

variable (serde)

theorem simulates_appendAll (files : Files) (calls : List (Append F)) :
    Simulates serde files calls (appendAll serde (opened files) calls) := by
  induction calls using List.reverseRecOn with
  | nil => exact simulates_opened serde files
  | append_singleton calls call ih =>
    rw [appendAll, List.foldl_append]
    exact ih.append call

/-- After any calls: an hour to which nothing has been appended has the file it had, and any other has
its log, followed by the lines appended for it in the order of the calls. The log is kept up to carriage
returns at the ends of its lines, and exactly where there are none. -/
theorem writer_appends (files : Files) (calls : List (Append F)) (hour : Int) :
    (appended serde calls hour = [] →
      (appendAll serde (opened files) calls).now.text (hourPath hour) =
        (opened files).now.text (hourPath hour)) ∧
      (appended serde calls hour ≠ [] → ∃ text,
        (appendAll serde (opened files) calls).now.text (hourPath hour) = some text ∧
          (lines text).map trimReturns =
            entries (contentAt files hour) ++ appended serde calls hour ∧
          (Trimmed (contentAt files hour) →
            lines text = nonBlankLines (contentAt files hour) ++ appended serde calls hour)) := by
  have simulates := simulates_appendAll serde files calls
  refine ⟨simulates.untouched hour, ?_⟩
  intro some
  obtain ⟨rows, holds, there⟩ := simulates.touched hour some
  refine ⟨_, there, ?_, holds.lines_eq⟩
  rw [lines_unlines holds.single holds.bright, List.map_map, ← holds.content]
  congr 1
  funext row
  exact trimReturns_stripReturn row

/-- An hour file whose only line ends in two carriage returns. -/
def endedTwice : Files := fun path =>
  if path = hourPath 0 then some ⟨"abc\r\r\n".toList, false⟩ else none

def emptyFrame : AggregatedFrame Extended := ⟨0, 0, 0, ∅, []⟩

/-- The writer reads the line with one carriage return, and writes it so that none is left. -/
theorem returns_not_kept : ∃ line text,
    exactJson.serde.frame emptyFrame = some line ∧
      nonBlankLines (contentAt endedTwice 0) = ["abc\r".toList] ∧
      (appendAll exactJson.serde (opened endedTwice) [⟨0, emptyFrame⟩]).now.text (hourPath 0) =
        some text ∧
      lines text = ["abc".toList, line] := by
  have initial : nonBlankLines (contentAt endedTwice 0) = ["abc\r".toList] := by decide
  rcases append_cases exactJson.serde (s := opened endedTwice) consistent_new ⟨0, emptyFrame⟩ with
    ⟨line, serialized, -, published⟩ | ⟨refused, -⟩
  · have cache : (push (rotated (opened endedTwice) 0) line).currentLines =
        ["abc\r".toList, line] :=
      congrArg (· ++ [line]) initial
    have there := published.now.2.1
    refine ⟨line, _, serialized, initial, there, ?_⟩
    obtain ⟨single, plain, brace⟩ := exactJson.serde.compact emptyFrame line serialized
    simp only [hourCall, cache]
    rw [lines_unlines]
    · rw [List.map_cons, List.map_singleton,
        stripReturn_of_trimmed (trimReturns_of_not_mem plain)]
      rfl
    · intro row member
      rcases List.mem_cons.mp member with rfl | later
      · decide
      · rw [List.mem_singleton.mp later]
        exact single
    · intro row member
      rcases List.mem_cons.mp member with rfl | later
      · decide
      · rw [List.mem_singleton.mp later]
        exact bright_of_brace brace
  · exact absurd refused (by simp [SerdeJson.serde, SerdeJson.frameText, encodeFrame, encodeTime, emptyFrame])

end SensorGateway.Storage.HourlyAppend

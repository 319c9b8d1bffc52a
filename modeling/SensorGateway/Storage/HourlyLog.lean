import SensorGateway.Storage.Persist

/-! What one request does to the hourly log: the writer's line cache against the file it stands for,
and the contract of `append_jsonl`. -/

namespace SensorGateway.Storage.HourlyLog
open SensorGateway.Lib.Fallible SensorGateway.Lib.Lines SensorGateway.Types Disk Persist
open Persist.HourlyWriter (At push)

/-- The lines of an hour's log file; a file that is absent has none. -/
def linesAt (o : Observation) (unixHour : Int) : List Text :=
  ((o.text (hourPath unixHour)).map nonBlankLines).getD []

/-- Its entries, whatever the line endings. -/
def logAt (o : Observation) (unixHour : Int) : List Text :=
  ((o.text (hourPath unixHour)).map entries).getD []

/-- The cached lines as the entries they are written out to. -/
def cached (hourly : HourlyWriter) : List Text :=
  (hourly.currentLines.filter fun line => !isBlank line).map trimReturns

/-- The cached lines as they are read back from the file. -/
def readBack (hourly : HourlyWriter) : List Text :=
  (hourly.currentLines.filter fun line => !isBlank line).map stripReturn

/-- The writer's path is that of its hour, and every cached line is one line. -/
structure Consistent (hourly : HourlyWriter) : Prop where
  path : hourly.currentPath = hourly.currentUnixHour.map hourPath
  single : ∀ line ∈ hourly.currentLines, '\n' ∉ line

/-- The writer after `rotate_if_needed` has succeeded. -/
def rotated (s : Store) (unixHour : Int) : HourlyWriter :=
  if At s.hourly unixHour then s.hourly
  else
    let content := (s.now.text (hourPath unixHour)).getD []
    ⟨some unixHour, some (hourPath unixHour), (lines content).filter fun line => !isBlank line⟩

theorem lasting_hourPath (unixHour : Int) : (hourPath unixHour).Lasting := by
  simp [Path.Lasting, hourPath, hourFilename]

theorem hourPath_inj {a b : Int} (same : hourPath a = hourPath b) : a = b := by
  simpa [hourPath, hourFilename] using same

theorem consistent_new : Consistent HourlyWriter.new := ⟨rfl, fun _ member => by cases member⟩

theorem Consistent.rotated {s : Store} (consistent : Consistent s.hourly) (unixHour : Int) :
    Consistent (rotated s unixHour) := by
  unfold HourlyLog.rotated
  by_cases here : At s.hourly unixHour
  · rw [if_pos here]
    exact consistent
  · rw [if_neg here]
    exact ⟨rfl, fun line member => not_mem_lines (List.mem_of_mem_filter member)⟩

theorem Consistent.push {hourly : HourlyWriter} (consistent : Consistent hourly) {line : Text}
    (single : '\n' ∉ line) : Consistent (push hourly line) := by
  refine ⟨consistent.path, ?_⟩
  intro row member
  obtain old | new := List.mem_append.mp member
  · exact consistent.single row old
  · rw [List.mem_singleton.mp new]
    exact single

theorem rotated_path {s : Store} (consistent : Consistent s.hourly) (unixHour : Int) :
    (rotated s unixHour).currentPath = some (hourPath unixHour) := by
  unfold rotated
  by_cases here : At s.hourly unixHour
  · rw [if_pos here, consistent.path, here.1, Option.map_some]
  · rw [if_neg here]

theorem rotated_hour (s : Store) (unixHour : Int) :
    (rotated s unixHour).currentUnixHour = some unixHour := by
  unfold rotated
  by_cases here : At s.hourly unixHour
  · rw [if_pos here, here.1]
  · rw [if_neg here]

theorem eq_of_rotated {s : Store} {unixHour hour : Int}
    (there : (rotated s unixHour).currentUnixHour = some hour) : hour = unixHour := by
  rw [rotated_hour, Option.some.injEq] at there
  exact there.symm

theorem cached_push (hourly : HourlyWriter) {line : Text} (bright : isBlank line = false)
    (plain : '\r' ∉ line) : cached (push hourly line) = cached hourly ++ [line] := by
  simp [cached, push, List.filter_append, bright, trimReturns_of_not_mem plain]

/-- A line the serializer writes is not blank: it has a brace in it. -/
theorem bright_of_brace {line : Text} (brace : '{' ∈ line) : isBlank line = false := by
  rw [isBlank, List.all_eq_false]
  exact ⟨'{', brace, by decide⟩

theorem readBack_push (hourly : HourlyWriter) {line : Text} (bright : isBlank line = false)
    (plain : '\r' ∉ line) : readBack (push hourly line) = readBack hourly ++ [line] := by
  simp [readBack, push, List.filter_append, bright,
    stripReturn_of_trimmed (trimReturns_of_not_mem plain)]

/-- A rotation reads the lines of the file; read back, they have lost what `stripReturn` takes. -/
theorem readBack_rotated {s : Store} {unixHour : Int} (away : ¬At s.hourly unixHour) :
    readBack (rotated s unixHour) = (linesAt s.now unixHour).map stripReturn := by
  have twice (rows : List Text) : (rows.filter fun line => !isBlank line).filter
      (fun line => !isBlank line) = rows.filter fun line => !isBlank line := by
    rw [List.filter_filter]
    simp
  unfold rotated
  rw [if_neg away]
  cases found : s.now.text (hourPath unixHour) with
  | none => simp [readBack, linesAt, found, lines, isBlank]
  | some content =>
    simp only [readBack, linesAt, found, Option.getD_some, Option.map_some, twice, nonBlankLines]

theorem logAt_eq (o : Observation) (unixHour : Int) :
    logAt o unixHour = (linesAt o unixHour).map trimReturns := by
  unfold logAt linesAt
  cases o.text (hourPath unixHour) with
  | none => rfl
  | some content => exact (entries_lines content).symm

theorem cached_eq (hourly : HourlyWriter) : cached hourly = (readBack hourly).map trimReturns := by
  rw [cached, readBack, List.map_map]
  congr 1
  funext line
  exact (trimReturns_stripReturn line).symm

/-- A rotation reads exactly the entries of the file. -/
theorem cached_rotated {s : Store} {unixHour : Int} (away : ¬At s.hourly unixHour) :
    cached (rotated s unixHour) = logAt s.now unixHour := by
  rw [cached_eq, readBack_rotated away, logAt_eq, List.map_map]
  congr 1
  funext line
  exact trimReturns_stripReturn line

theorem rotateIfNeeded_ensures (s : Store) (unixHour : Int) (read : Verdict) :
    Ensures (HourlyWriter.rotateIfNeeded unixHour read) s
      (fun _ t => (At s.hourly unixHour ∨ read = .ok) ∧ t = { s with hourly := rotated s unixHour })
      (fun _ t => ¬(At s.hourly unixHour ∨ read = .ok) ∧ t = s) := by
  unfold HourlyWriter.rotateIfNeeded
  apply Ensures.bind
  apply Ensures.gets
  by_cases here : At s.hourly unixHour
  · rw [if_pos here]
    apply Ensures.pure
    exact ⟨Or.inl here, by rw [rotated, if_pos here]⟩
  · rw [if_neg here]
    apply Ensures.bind
    apply Ensures.tryCatch
    apply Ensures.seq (readToString_ensures s (hourPath unixHour) read)
    · rintro content t ⟨rfl, ok, found⟩
      apply Ensures.pure
      apply Ensures.modifies
      exact ⟨Or.inr ok, by simp only [rotated, if_neg here, found, Option.getD_some]⟩
    · rintro e t ⟨rfl, ⟨rfl, ok, absent⟩ | ⟨rfl, failed⟩⟩
      · apply Ensures.pure
        apply Ensures.modifies
        exact ⟨Or.inr ok, by simp [rotated, if_neg here, absent, lines]⟩
      · apply Ensures.throw
        exact ⟨fun fine => fine.elim here failed, rfl⟩

variable {F Value : Type} (serde : Serde F Value)

/-- The request's line reaches the log: the rotation can read, the frame can be serialized, and the
hour file is put in place. -/
def Goes (s : Store) (frame : AggregatedFrame F) (read : Verdict) (faults : WriteFaults) : Prop :=
  (At s.hourly (frameHour frame) ∨ read = .ok) ∧ (serde.frame frame).isSome ∧ faults.Clean

instance (s : Store) (frame : AggregatedFrame F) (read : Verdict) (faults : WriteFaults) :
    Decidable (Goes serde s frame read faults) :=
  inferInstanceAs (Decidable (_ ∧ _))

/-- The hour file as `append_jsonl` publishes it. -/
def hourCall (hourly : HourlyWriter) (unixHour : Int) : Publication :=
  ⟨hourPath unixHour, unlines hourly.currentLines⟩

/-- How far a failing `append_jsonl` can have come. -/
inductive Stuck (s : Store) (frame : AggregatedFrame F) : Store → Prop where
  | before : Stuck s frame s
  | rotated : Stuck s frame { s with hourly := rotated s (frameHour frame) }
  | pushed (line : Text) (serialized : serde.frame frame = some line) (t : Store)
      (abandoned : Abandoned
        { s with hourly := push (HourlyLog.rotated s (frameHour frame)) line } t
        (hourCall (push (HourlyLog.rotated s (frameHour frame)) line) (frameHour frame))) :
      Stuck s frame t

/-- What `append_jsonl` does for any hour, and how far it comes where it fails. -/
theorem append_ensures {s : Store} (consistent : Consistent s.hourly) (unixHour : Int)
    (frame : AggregatedFrame F) (read : Verdict) (faults : WriteFaults) :
    Ensures (appendJsonl serde unixHour frame read faults) s
      (fun _ t => (At s.hourly unixHour ∨ read = .ok) ∧ faults.Clean ∧
        ∃ line, serde.frame frame = some line ∧
          Published { s with hourly := push (rotated s unixHour) line } t
            (hourCall (push (rotated s unixHour) line) unixHour))
      (fun _ t => ¬(At s.hourly unixHour ∨ read = .ok) ∧ t = s ∨
        serde.frame frame = none ∧ t = { s with hourly := rotated s unixHour } ∨
        ¬faults.Clean ∧ ∃ line, serde.frame frame = some line ∧
          Abandoned { s with hourly := push (rotated s unixHour) line } t
            (hourCall (push (rotated s unixHour) line) unixHour)) := by
  unfold appendJsonl
  apply Ensures.seq (rotateIfNeeded_ensures s unixHour read)
  · rintro - t ⟨reads, rfl⟩
    cases serialized : serde.frame frame with
    | none =>
      apply Ensures.throw
      exact Or.inr (Or.inl ⟨rfl, rfl⟩)
    | some line =>
      apply Ensures.bind
      apply Ensures.modifies
      unfold HourlyWriter.flush
      apply Ensures.bind
      apply Ensures.gets
      have path : (push (rotated s unixHour) line).currentPath = some (hourPath unixHour) :=
        rotated_path consistent _
      simp only [path]
      apply (atomicWriteBytes_ensures _ (lasting_hourPath _) _ faults).mono
      · intro _ t success
        exact ⟨reads, success.1, line, rfl, success.2⟩
      · intro e t ended
        exact Or.inr (Or.inr ⟨ended.1, line, rfl, ended.2⟩)
  · rintro e t ⟨failed, rfl⟩
    exact Or.inl ⟨failed, rfl⟩

theorem appendJsonl_ensures {s : Store} (consistent : Consistent s.hourly) (frame : AggregatedFrame F)
    (read : Verdict) (faults : WriteFaults) :
    Ensures (appendJsonl serde (frameHour frame) frame read faults) s
      (fun _ t => Goes serde s frame read faults ∧ ∃ line, serde.frame frame = some line ∧
        Published { s with hourly := push (rotated s (frameHour frame)) line } t
          (hourCall (push (rotated s (frameHour frame)) line) (frameHour frame)))
      (fun _ t => ¬Goes serde s frame read faults ∧ Stuck serde s frame t) := by
  apply (append_ensures serde consistent (frameHour frame) frame read faults).mono
  · rintro _ t ⟨reads, clean, line, serialized, published⟩
    exact ⟨⟨reads, Option.isSome_of_eq_some serialized, clean⟩, line, serialized, published⟩
  · rintro e t (⟨failed, rfl⟩ | ⟨refused, rfl⟩ | ⟨failed, line, serialized, abandoned⟩)
    · exact ⟨fun goes => failed goes.1, Stuck.before⟩
    · exact ⟨fun goes => by simp [Goes, refused] at goes, Stuck.rotated⟩
    · exact ⟨fun goes => failed goes.2.2, Stuck.pushed line serialized t abandoned⟩

/-! The log seen across a write. -/

theorem logAt_congr {o o' : Observation} {hour : Int}
    (same : o'.text (hourPath hour) = o.text (hourPath hour)) : logAt o' hour = logAt o hour := by
  rw [logAt, same, logAt]

theorem linesAt_congr {o o' : Observation} {hour : Int}
    (same : o'.text (hourPath hour) = o.text (hourPath hour)) : linesAt o' hour = linesAt o hour := by
  rw [linesAt, same, linesAt]

/-- The writer and the log file of every hour are as before. -/
def SameLog (s t : Store) : Prop :=
  t.hourly = s.hourly ∧ ∀ hour, t.now.text (hourPath hour) = s.now.text (hourPath hour)

theorem SameLog.trans {s t u : Store} (first : SameLog s t) (second : SameLog t u) : SameLog s u :=
  ⟨second.1.trans first.1, fun hour => (second.2 hour).trans (first.2 hour)⟩

theorem SameLog.log {s t : Store} (same : SameLog s t) (hour : Int) : logAt t.now hour = logAt s.now hour :=
  logAt_congr (same.2 hour)

/-- A runtime artifact is no hour file. -/
theorem sameLog_of_published {s t : Store} {call : Publication} (published : Published s t call)
    (base : call.path.folder = .base) : SameLog s t := by
  refine ⟨published.hourly, ?_⟩
  intro hour
  apply published.keeps (lasting_hourPath hour)
  intro same
  simp [← same, hourPath] at base

theorem sameLog_of_abandoned {s t : Store} {call : Publication} (abandoned : Abandoned s t call) :
    SameLog s t :=
  ⟨abandoned.hourly, fun hour => abandoned.now.2 _ (lasting_hourPath hour)⟩

/-- The writer between two file operations: its cache extends the file of its hour. -/
structure Ahead (s : Store) : Prop where
  consistent : Consistent s.hourly
  extends_log : ∀ hour, s.hourly.currentUnixHour = some hour → logAt s.now hour <+: cached s.hourly

theorem Ahead.rotated {s : Store} (ahead : Ahead s) (hour : Int) :
    logAt s.now hour <+: cached (rotated s hour) := by
  by_cases here : At s.hourly hour
  · rw [HourlyLog.rotated, if_pos here]
    exact ahead.extends_log hour here.1
  · exact ⟨[], by rw [List.append_nil, cached_rotated here]⟩

/-- The request's line has been put behind the cached lines and all of them are in the log file. -/
structure Added (s t : Store) (frame : AggregatedFrame F) (line : Text) : Prop where
  serialized : serde.frame frame = some line
  hourly : t.hourly = push (rotated s (frameHour frame)) line
  consistent : Consistent t.hourly
  written : t.now.text (hourPath (frameHour frame)) = some (unlines t.hourly.currentLines)
  kept : ∀ hour, hour ≠ frameHour frame → t.now.text (hourPath hour) = s.now.text (hourPath hour)

/-- No log file has changed, whatever the writer has cached. -/
structure Spared (s t : Store) : Prop where
  ahead : Ahead t
  kept : ∀ hour, t.now.text (hourPath hour) = s.now.text (hourPath hour)

variable {serde}

namespace Added
variable {s t u : Store} {frame : AggregatedFrame F} {line : Text}

theorem log (added : Added serde s t frame line) :
    logAt t.now (frameHour frame) = cached (rotated s (frameHour frame)) ++ [line] := by
  obtain ⟨-, plain, brace⟩ := serde.compact frame line added.serialized
  rw [logAt, added.written, Option.map_some, Option.getD_some,
    entries_unlines added.consistent.single, ← cached_push _ (bright_of_brace brace) plain,
    ← added.hourly, cached]

theorem lines (added : Added serde s t frame line) :
    linesAt t.now (frameHour frame) = readBack (rotated s (frameHour frame)) ++ [line] := by
  obtain ⟨-, plain, brace⟩ := serde.compact frame line added.serialized
  rw [linesAt, added.written, Option.map_some, Option.getD_some,
    nonBlankLines_unlines added.consistent.single, ← readBack_push _ (bright_of_brace brace) plain,
    ← added.hourly, readBack]

theorem others (added : Added serde s t frame line) {hour : Int} (apart : hour ≠ frameHour frame) :
    logAt t.now hour = logAt s.now hour :=
  logAt_congr (added.kept hour apart)

theorem sameLog (added : Added serde s t frame line) (same : SameLog t u) :
    Added serde s u frame line where
  serialized := added.serialized
  hourly := same.1.trans added.hourly
  consistent := same.1 ▸ added.consistent
  written := by rw [same.2, same.1, added.written]
  kept := fun hour apart => (same.2 hour).trans (added.kept hour apart)

end Added

theorem Spared.logs {s t : Store} (spared : Spared s t) (hour : Int) :
    logAt t.now hour = logAt s.now hour :=
  logAt_congr (spared.kept hour)

theorem Added.ahead {s t : Store} {frame : AggregatedFrame F} {line : Text}
    (added : Added serde s t frame line) : Ahead t := by
  obtain ⟨-, plain, brace⟩ := serde.compact frame line added.serialized
  refine ⟨added.consistent, ?_⟩
  intro hour at_hour
  rw [added.hourly] at at_hour
  have log : logAt t.now hour = cached t.hourly := by
    rw [eq_of_rotated at_hour, added.log, added.hourly, cached_push _ (bright_of_brace brace) plain]
  exact ⟨[], by rw [List.append_nil, log]⟩

theorem Ahead.sameLog {s t : Store} (ahead : Ahead s) (same : SameLog s t) : Ahead t := by
  constructor
  · rw [same.1]
    exact ahead.consistent
  · intro hour at_hour
    rw [same.1] at at_hour ⊢
    rw [same.log]
    exact ahead.extends_log hour at_hour

theorem Ahead.rotate {s : Store} (ahead : Ahead s) (hour : Int) :
    Ahead { s with hourly := HourlyLog.rotated s hour } := by
  refine ⟨ahead.consistent.rotated hour, ?_⟩
  intro other at_hour
  rw [eq_of_rotated at_hour]
  exact ahead.rotated hour

theorem Ahead.pushed {s : Store} (ahead : Ahead s) {frame : AggregatedFrame F} {line : Text}
    (serialized : serde.frame frame = some line) (hour : Int) :
    Ahead { s with hourly := push (HourlyLog.rotated s hour) line } := by
  obtain ⟨single, plain, brace⟩ := serde.compact frame line serialized
  refine ⟨(ahead.consistent.rotated hour).push single, ?_⟩
  intro other at_hour
  rw [eq_of_rotated at_hour]
  simp only [cached_push _ (bright_of_brace brace) plain]
  exact (ahead.rotated hour).trans (List.prefix_append _ _)

theorem Stuck.spared {s t : Store} {frame : AggregatedFrame F} (stuck : Stuck serde s frame t)
    (ahead : Ahead s) : Spared s t := by
  cases stuck with
  | before => exact ⟨ahead, fun _ => rfl⟩
  | rotated => exact ⟨ahead.rotate _, fun _ => rfl⟩
  | pushed line serialized t abandoned =>
    have same := sameLog_of_abandoned abandoned
    exact ⟨(ahead.pushed serialized _).sameLog same, same.2⟩

theorem added_of_published {s t : Store} {frame : AggregatedFrame F} {line : Text}
    (serialized : serde.frame frame = some line) (consistent : Consistent s.hourly)
    (published : Published { s with hourly := push (rotated s (frameHour frame)) line } t
      (hourCall (push (rotated s (frameHour frame)) line) (frameHour frame))) :
    Added serde s t frame line where
  serialized := serialized
  hourly := published.hourly
  consistent := by
    rw [published.hourly]
    exact (consistent.rotated _).push (serde.compact frame line serialized).1
  written := by
    rw [published.hourly]
    exact published.now.2.1
  kept := fun hour apart =>
    published.keeps (lasting_hourPath hour) fun same => apart (hourPath_inj same)

end SensorGateway.Storage.HourlyLog

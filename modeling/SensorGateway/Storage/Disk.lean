import Mathlib.Logic.Function.Basic
import SensorGateway.Lib.Fallible
import SensorGateway.Lib.Lines

/-! The storage worker's file system: a map from paths to contents in which every operation may
fail, and `atomic_write_bytes` over it. Each state the map goes through is recorded, for it is what
another process may read. -/

namespace SensorGateway.Storage.Disk
open SensorGateway.Lib.Fallible SensorGateway.Lib.Lines

/-- The data directory, or `frames` in it. -/
inductive Folder where
  | base
  | frames
  deriving DecidableEq, Repr

/-- The stem of a file name; `hour n` is the text `hour-n`. -/
inductive Stem where
  | hour (unixHour : Int)
  | latest
  | stats
  | snapshot
  deriving DecidableEq, Repr

inductive Extension where
  | json
  | jsonl
  | tmp
  deriving DecidableEq, Repr

structure FileName where
  stem : Stem
  extension : Option Extension
  deriving DecidableEq, Repr

structure Path where
  folder : Folder
  name : FileName
  deriving DecidableEq, Repr

def Path.withExtension (path : Path) (extension : Extension) : Path :=
  { path with name := { path.name with extension := some extension } }

/-- A path that is no temporary name of another one. -/
def Path.Lasting (path : Path) : Prop := path.name.extension ≠ some .tmp

instance (path : Path) : Decidable path.Lasting :=
  inferInstanceAs (Decidable (path.name.extension ≠ some .tmp))

/-- A file, and whether it has been written since it was last synced. -/
structure File where
  text : Text
  dirty : Bool
  deriving DecidableEq, Repr

abbrev Files := Path → Option File

/-- The kind of an `std::io::Error`. -/
inductive IoError where
  | notFound
  | invalidData
  | other
  deriving DecidableEq, Repr

/-- Whether an operation goes through. A failing write has written `written` characters. -/
inductive Verdict where
  | ok
  | fail (written : Nat)
  deriving DecidableEq, Repr

/-- A call of `atomic_write_bytes`. -/
structure Publication where
  path : Path
  text : Text
  deriving DecidableEq, Repr

/-- What a reader can find: the files, and the renames that have led to them. -/
structure Observation where
  files : Files
  renamed : List Publication

def Observation.text (o : Observation) (path : Path) : Option Text := (o.files path).map File.text

structure HourlyWriter where
  currentUnixHour : Option Int
  currentPath : Option Path
  currentLines : List Text
  deriving DecidableEq, Repr

/-- The files, the writer, and the history: calls of `atomic_write_bytes` in the order in which they
began, renames in the order in which they happened, and every state the files went through. -/
structure Store where
  files : Files
  hourly : HourlyWriter
  calls : List Publication
  renamed : List Publication
  seen : List Observation

namespace Store

def now (s : Store) : Observation := ⟨s.files, s.renamed⟩

def begin (s : Store) (call : Publication) : Store := { s with calls := s.calls ++ [call] }

def put (s : Store) (path : Path) (file : File) : Store :=
  let files := Function.update s.files path (some file)
  { s with files, seen := s.seen ++ [⟨files, s.renamed⟩] }

def move (s : Store) (source target : Path) (file : File) : Store :=
  let files := Function.update (Function.update s.files target (some file)) source none
  let renamed := s.renamed ++ [⟨target, file.text⟩]
  { s with files, renamed, seen := s.seen ++ [⟨files, renamed⟩] }

end Store

abbrev IoM := FallibleM IoError Store

/-- `File::create`. -/
def create (path : Path) : Verdict → IoM Unit
  | .ok => modify (·.put path ⟨[], true⟩)
  | .fail _ => throw .other

/-- `write_all` through a handle whose file has not been replaced. -/
def writeAll (path : Path) (text : Text) (verdict : Verdict) : IoM Unit := do
  let s ← get
  match s.files path with
  | none => throw .notFound
  | some file =>
    match verdict with
    | .ok => set (s.put path ⟨file.text ++ text, true⟩)
    | .fail written =>
      set (s.put path ⟨file.text ++ text.take written, true⟩)
      throw .other

def flush : Verdict → IoM Unit
  | .ok => pure ()
  | .fail _ => throw .other

def rename (source target : Path) (verdict : Verdict) : IoM Unit := do
  let s ← get
  match verdict, s.files source with
  | .ok, some file => set (s.move source target file)
  | .ok, none => throw .notFound
  | .fail _, _ => throw .other

/-- `fs::read_to_string`. -/
def readToString (path : Path) (verdict : Verdict) : IoM Text := do
  let s ← get
  match verdict, s.files path with
  | .ok, some file => pure file.text
  | .ok, none => throw .notFound
  | .fail _, _ => throw .other

/-- What becomes of the four operations of one `atomic_write_bytes`. -/
structure WriteFaults where
  create : Verdict
  write : Verdict
  flush : Verdict
  rename : Verdict
  deriving DecidableEq, Repr

namespace WriteFaults

def none : WriteFaults := ⟨.ok, .ok, .ok, .ok⟩

def Clean (faults : WriteFaults) : Prop := faults = none

instance (faults : WriteFaults) : Decidable faults.Clean := inferInstanceAs (Decidable (_ = _))

end WriteFaults

def atomicWriteBytes (path : Path) (bytes : Text) (faults : WriteFaults) : IoM Unit := do
  modify (·.begin ⟨path, bytes⟩)
  let tmp := path.withExtension .tmp
  create tmp faults.create
  writeAll tmp bytes faults.write
  flush faults.flush
  rename tmp path faults.rename

/-! What one `atomic_write_bytes` does, seen from the paths that last. -/

namespace Observation

/-- The same renames and the same lasting files. -/
def Agrees (o o' : Observation) : Prop :=
  o'.renamed = o.renamed ∧ ∀ path, path.Lasting → o'.text path = o.text path

/-- `o'` is `o` after the call has put its text in place. -/
def Publishes (o : Observation) (call : Publication) (o' : Observation) : Prop :=
  o'.renamed = o.renamed ++ [call] ∧ o'.text call.path = some call.text ∧
    ∀ path, path.Lasting → path ≠ call.path → o'.text path = o.text path

theorem Agrees.refl (o : Observation) : o.Agrees o := ⟨rfl, fun _ _ => rfl⟩

theorem Agrees.trans {o o' o'' : Observation} (first : o.Agrees o') (second : o'.Agrees o'') :
    o.Agrees o'' :=
  ⟨second.1.trans first.1, fun path lasting =>
    (second.2 path lasting).trans (first.2 path lasting)⟩

theorem Agrees.publishes {o o' o'' : Observation} {call : Publication} (first : o.Agrees o')
    (second : o'.Publishes call o'') : o.Publishes call o'' := by
  refine ⟨by rw [second.1, first.1], second.2.1, ?_⟩
  intro path lasting other
  exact (second.2.2 path lasting other).trans (first.2 path lasting)

end Observation

/-- From `s` to `t` only temporary files have changed. -/
structure Quiet (s t : Store) : Prop where
  hourly : t.hourly = s.hourly
  calls : t.calls = s.calls
  renamed : t.renamed = s.renamed
  now : s.now.Agrees t.now
  seen : ∀ o ∈ t.seen, o ∈ s.seen ∨ s.now.Agrees o

namespace Quiet

theorem refl (s : Store) : Quiet s s :=
  ⟨rfl, rfl, rfl, Observation.Agrees.refl _, fun _ member => Or.inl member⟩

theorem trans {s t u : Store} (first : Quiet s t) (second : Quiet t u) : Quiet s u := by
  refine ⟨second.hourly.trans first.hourly, second.calls.trans first.calls,
    second.renamed.trans first.renamed, first.now.trans second.now, ?_⟩
  intro o member
  obtain old | late := second.seen o member
  · exact first.seen o old
  · exact Or.inr (first.now.trans late)

theorem put {s : Store} {path : Path} (temporary : ¬path.Lasting) (file : File) :
    Quiet s (s.put path file) := by
  have same : s.now.Agrees (s.put path file).now := by
    refine ⟨rfl, ?_⟩
    intro other lasting
    have apart : other ≠ path := fun same => temporary (same ▸ lasting)
    simp only [Observation.text, Store.now, Store.put, Function.update_of_ne apart]
  refine ⟨rfl, rfl, rfl, same, ?_⟩
  intro o member
  obtain old | new := List.mem_append.mp member
  · exact Or.inl old
  · rw [List.mem_singleton.mp new]
    exact Or.inr same

end Quiet

theorem not_lasting_tmp (path : Path) : ¬(path.withExtension .tmp).Lasting := by
  simp [Path.Lasting, Path.withExtension]

theorem create_ensures (s : Store) {path : Path} (temporary : ¬path.Lasting) (verdict : Verdict) :
    Ensures (create path verdict) s
      (fun _ t => verdict = .ok ∧ Quiet s t ∧ t.files path = some ⟨[], true⟩)
      (fun _ t => verdict ≠ .ok ∧ Quiet s t) := by
  cases verdict with
  | ok => exact Ensures.modifies ⟨rfl, Quiet.put temporary _, Function.update_self ..⟩
  | fail written => exact Ensures.throw ⟨by simp, Quiet.refl s⟩

theorem writeAll_ensures (s : Store) {path : Path} (temporary : ¬path.Lasting) (text : Text)
    (verdict : Verdict) (empty : s.files path = some ⟨[], true⟩) :
    Ensures (writeAll path text verdict) s
      (fun _ t => verdict = .ok ∧ Quiet s t ∧ t.files path = some ⟨text, true⟩)
      (fun _ t => verdict ≠ .ok ∧ Quiet s t) := by
  unfold writeAll
  apply Ensures.bind
  apply Ensures.gets
  simp only [empty]
  cases verdict with
  | ok => exact Ensures.sets ⟨rfl, Quiet.put temporary _, Function.update_self ..⟩
  | fail written =>
    apply Ensures.bind
    apply Ensures.sets
    exact Ensures.throw ⟨by simp, Quiet.put temporary _⟩

/-- From `s` to `t` one call of `atomic_write_bytes` has gone through. -/
structure Published (s t : Store) (call : Publication) : Prop where
  hourly : t.hourly = s.hourly
  calls : t.calls = s.calls ++ [call]
  renamed : t.renamed = s.renamed ++ [call]
  now : s.now.Publishes call t.now
  seen : ∀ o ∈ t.seen, o ∈ s.seen ∨ s.now.Agrees o ∨ s.now.Publishes call o

theorem Published.keeps {s t : Store} {target path : Path} {text : Text}
    (published : Published s t ⟨target, text⟩) (lasting : path.Lasting) (apart : path ≠ target) :
    t.now.text path = s.now.text path :=
  published.now.2.2 path lasting apart

/-- From `s` to `t` one call of `atomic_write_bytes` has begun and failed. -/
structure Abandoned (s t : Store) (call : Publication) : Prop where
  hourly : t.hourly = s.hourly
  calls : t.calls = s.calls ++ [call]
  renamed : t.renamed = s.renamed
  now : s.now.Agrees t.now
  seen : ∀ o ∈ t.seen, o ∈ s.seen ∨ s.now.Agrees o

theorem Quiet.abandoned {s t : Store} {call : Publication} (quiet : Quiet (s.begin call) t) :
    Abandoned s t call :=
  ⟨quiet.hourly, quiet.calls, quiet.renamed, quiet.now, quiet.seen⟩

theorem Quiet.published {s t u : Store} {call : Publication} (quiet : Quiet (s.begin call) t)
    (now : t.now.Publishes call u.now) (seen : u.seen = t.seen ++ [u.now])
    (same : u.hourly = t.hourly ∧ u.calls = t.calls) : Published s u call := by
  have publishes : s.now.Publishes call u.now := quiet.now.publishes now
  refine ⟨same.1.trans quiet.hourly, same.2.trans quiet.calls, publishes.1, publishes, ?_⟩
  intro o member
  rw [seen, List.mem_append, List.mem_singleton] at member
  obtain old | new := member
  · exact (quiet.seen o old).imp_right Or.inl
  · rw [new]
    exact Or.inr (Or.inr publishes)

/-- The temporary file carries the complete text into place. -/
theorem move_publishes (s : Store) {path : Path} (lasting : path.Lasting) (text : Text) :
    s.now.Publishes ⟨path, text⟩ (s.move (path.withExtension .tmp) path ⟨text, true⟩).now := by
  have differ : ∀ other : Path, other.Lasting → other ≠ path.withExtension .tmp :=
    fun other stays same => not_lasting_tmp path (same ▸ stays)
  refine ⟨rfl, ?_, ?_⟩
  · simp only [Observation.text, Store.now, Store.move, Function.update_of_ne (differ path lasting),
      Function.update_self, Option.map_some]
  · intro other stays apart
    simp only [Observation.text, Store.now, Store.move, Function.update_of_ne (differ other stays),
      Function.update_of_ne apart]

/-- `atomic_write_bytes` goes through exactly when its four operations do; if it does not, no
lasting file has changed. -/
theorem atomicWriteBytes_ensures (s : Store) {path : Path} (lasting : path.Lasting) (bytes : Text)
    (faults : WriteFaults) :
    Ensures (atomicWriteBytes path bytes faults) s
      (fun _ t => faults.Clean ∧ Published s t ⟨path, bytes⟩)
      (fun _ t => ¬faults.Clean ∧ Abandoned s t ⟨path, bytes⟩) := by
  have temporary := not_lasting_tmp path
  unfold atomicWriteBytes
  apply Ensures.bind
  apply Ensures.modifies
  apply Ensures.seq (create_ensures (s.begin ⟨path, bytes⟩) temporary faults.create)
  · intro _ t success
    obtain ⟨created, quiet, there⟩ := success
    apply Ensures.seq (writeAll_ensures t temporary bytes faults.write there)
    · intro _ u success
      obtain ⟨written, quiet', complete⟩ := success
      have before := quiet.trans quiet'
      apply Ensures.bind
      cases flushed : faults.flush with
      | ok =>
        apply Ensures.pure
        unfold rename
        apply Ensures.bind
        apply Ensures.gets
        cases renamed : faults.rename with
        | ok =>
          simp only [complete]
          apply Ensures.sets
          constructor
          · cases faults
            simp_all [WriteFaults.Clean, WriteFaults.none]
          · exact before.published (move_publishes u lasting bytes) rfl ⟨rfl, rfl⟩
        | fail count =>
          apply Ensures.throw
          refine ⟨?_, before.abandoned⟩
          rintro rfl
          simp [WriteFaults.none] at renamed
      | fail count =>
        apply Ensures.throw
        refine ⟨?_, before.abandoned⟩
        rintro rfl
        simp [WriteFaults.none] at flushed
    · intro e u ended
      obtain ⟨failed, quiet'⟩ := ended
      refine ⟨?_, (quiet.trans quiet').abandoned⟩
      rintro rfl
      exact failed rfl
  · intro e t ended
    obtain ⟨failed, quiet⟩ := ended
    refine ⟨?_, quiet.abandoned⟩
    rintro rfl
    exact failed rfl

/-- Reading changes nothing; it fails as absent only where no file is. -/
theorem readToString_ensures (s : Store) (path : Path) (verdict : Verdict) :
    Ensures (readToString path verdict) s
      (fun text t => t = s ∧ verdict = .ok ∧ s.now.text path = some text)
      (fun e t => t = s ∧
        (e = .notFound ∧ verdict = .ok ∧ s.now.text path = none ∨ e = .other ∧ verdict ≠ .ok)) := by
  unfold readToString
  apply Ensures.bind
  apply Ensures.gets
  cases verdict with
  | ok =>
    cases found : s.files path with
    | some file => exact Ensures.pure ⟨rfl, rfl, by simp [Observation.text, Store.now, found]⟩
    | none =>
      exact Ensures.throw ⟨rfl, Or.inl ⟨rfl, rfl, by simp [Observation.text, Store.now, found]⟩⟩
  | fail written => exact Ensures.throw ⟨rfl, Or.inr ⟨rfl, by simp⟩⟩

end SensorGateway.Storage.Disk

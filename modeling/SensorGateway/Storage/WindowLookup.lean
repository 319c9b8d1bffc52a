import Mathlib.Data.List.Dedup
import Mathlib.Data.List.Lex
import SensorGateway.Storage.Collection
import SensorGateway.Storage.LogFile

/-! The search of the web server for the frame of a window, over the files that any number of gateway
runs have left. -/

namespace SensorGateway.Storage.WindowLookup
open SensorGateway.Lib SensorGateway.Lib.Codec SensorGateway.Lib.ExtendedRat
open SensorGateway.Lib.Lines SensorGateway.Lib.Transition SensorGateway.Types
open Disk Persist Reliable Encoding Texts LogFile Collection
variable {F : Type} [F64 F]

/-! `main.rs`. -/

/-- The components of a path, by which paths are compared. -/
def pathComponents (path : Path) : List String :=
  match path.folder with
  | .base => ["data", fileNameText path.name]
  | .frames => ["data", "frames", fileNameText path.name]

def pathText (path : Path) : String :=
  match path.folder with
  | .base => "data/" ++ fileNameText path.name
  | .frames => "data/frames/" ++ fileNameText path.name

/-- `path.to_string_lossy().contains(".tmp")`. -/
def MentionsTmp (path : Path) : Prop := ".tmp".toList <:+: (pathText path).toList

instance (path : Path) : Decidable (MentionsTmp path) := inferInstanceAs (Decidable (_ <:+: _))

/-- The entries that `read_dir` gives for the folder, of all that it could give. -/
def collectJsonlInDir (listing : List Path) (folder : Folder) : List Path :=
  listing.filter fun path =>
    path.folder = folder ∧ path.name.extension = some .jsonl ∧ ¬MentionsTmp path

def getDataFiles (listing : List Path) : List Path :=
  let files := collectJsonlInDir listing .base ++ collectJsonlInDir listing .frames
  (files.mergeSort fun a b => decide (pathComponents a ≤ pathComponents b)).reverse

variable (json : SerdeJson F)

/-- The loops of `find_frame_by_window_id`. -/
def findInFiles (o : Observation) (windowId : Nat) :
    List Path → Except WebAppError (Option (AggregatedFrame F))
  | [] => .ok none
  | file :: rest =>
    match readJsonlFile json o file with
    | .error e => .error e
    | .ok frames =>
      match frames.find? fun frame => frame.windowId = windowId with
      | some frame => .ok (some frame)
      | none => findInFiles o windowId rest

def findFrameByWindowId (o : Observation) (listing : List Path) (windowId : Nat) :
    Except WebAppError (Option (AggregatedFrame F)) :=
  findInFiles json o windowId (getDataFiles listing)

/-- As far as the search looks at it, the listing is the directory. -/
structure Lists (listing : List Path) (o : Observation) : Prop where
  distinct : listing.Nodup
  jsonl : ∀ path, path.name.extension = some .jsonl →
    (path ∈ listing ↔ (o.text path).isSome = true)

def hourName (hour : Int) : String := "hour-" ++ String.ofList (JsonText.intText hour) ++ ".jsonl"

theorem pathComponents_hourPath (hour : Int) :
    pathComponents (hourPath hour) = ["data", "frames", hourName hour] := rfl

theorem hourName_inj {a b : Int} (same : hourName a = hourName b) : a = b := by
  have texts := congrArg String.toList same
  simp only [hourName, String.toList_append, String.toList_ofList, List.append_cancel_right_eq,
    List.append_cancel_left_eq] at texts
  have read := JsonText.readInt_intText a
  rw [texts, JsonText.readInt_intText] at read
  exact (Option.some.inj read).symm

theorem pathComponents_inj {a b : Int}
    (same : pathComponents (hourPath a) = pathComponents (hourPath b)) : a = b := by
  rw [pathComponents_hourPath, pathComponents_hourPath] at same
  exact hourName_inj (List.head_eq_of_cons_eq (List.tail_eq_of_cons_eq (List.tail_eq_of_cons_eq same)))

theorem not_mentionsTmp (hour : Int) : ¬MentionsTmp (hourPath hour) := by
  intro infixed
  have there : 'p' ∈ (pathText (hourPath hour)).toList := infixed.subset (by decide)
  have text : pathText (hourPath hour) = "data/frames/" ++ hourName hour := rfl
  rw [text, hourName, String.toList_append, String.toList_append, String.toList_append] at there
  simp only [List.mem_append, String.toList_ofList] at there
  rcases there with front | (name | number) | ending
  · exact absurd front (by decide)
  · exact absurd name (by decide)
  · exact absurd (JsonText.intText_numeric hour 'p' number) (by decide)
  · exact absurd ending (by decide)

/-- The file of the first hour is looked at before that of the second. -/
def Before (a b : Int) : Prop := pathComponents (hourPath b) < pathComponents (hourPath a)

theorem Before.asymm {a b : Int} (first : Before a b) : ¬Before b a := lt_asymm first

theorem before_or_eq {a b : Int} (late : ¬Before b a) : Before a b ∨ a = b := by
  rcases (not_lt.mp late).lt_or_eq with less | same
  · exact Or.inl less
  · exact Or.inr (pathComponents_inj same.symm)

instance beforeDecidable : DecidableRel Before := fun _ _ => inferInstanceAs (Decidable (_ < _))

/-- The files the search looks at, in its order. -/
structure Scan (o : Observation) (files : List Path) : Prop where
  ordered : files.Pairwise fun a b => pathComponents b < pathComponents a
  hour : ∀ file ∈ files, ∃ hour, file = hourPath hour
  mem : ∀ hour, hourPath hour ∈ files ↔ (o.text (hourPath hour)).isSome = true

theorem mem_getDataFiles {listing : List Path} {file : Path} :
    file ∈ getDataFiles listing ↔
      file ∈ listing ∧ file.name.extension = some .jsonl ∧ ¬MentionsTmp file := by
  simp only [getDataFiles, collectJsonlInDir, List.mem_reverse, List.mem_mergeSort, List.mem_append,
    List.mem_filter, decide_eq_true_eq]
  cases file.folder <;> simp

theorem sorted_getDataFiles (listing : List Path) :
    (getDataFiles listing).Pairwise fun a b => pathComponents b ≤ pathComponents a := by
  rw [getDataFiles, List.pairwise_reverse]
  apply List.Pairwise.imp of_decide_eq_true
  apply List.pairwise_mergeSort
  · intro a b c first second
    exact decide_eq_true ((of_decide_eq_true first).trans (of_decide_eq_true second))
  · intro a b
    rw [Bool.or_eq_true, decide_eq_true_eq, decide_eq_true_eq]
    exact le_total _ _

theorem nodup_getDataFiles {listing : List Path} (distinct : listing.Nodup) :
    (getDataFiles listing).Nodup := by
  rw [getDataFiles, (List.reverse_perm _).nodup_iff, (List.mergeSort_perm _ _).nodup_iff,
    List.nodup_append]
  refine ⟨distinct.filter _, distinct.filter _, ?_⟩
  intro a first b second same
  have base := of_decide_eq_true (List.mem_filter.mp first).2
  have frames := of_decide_eq_true (List.mem_filter.mp second).2
  rw [same, frames.1] at base
  exact absurd base.1 (by decide)

variable {json} {o : Observation} {stored : List (AggregatedFrame F)} {listing : List Path}

/-- A listing of the directory. -/
theorem lists_hours (holding : Stored json.serde o stored) :
    Lists (stored.map fun frame => hourPath (frameHour frame)).dedup o where
  distinct := List.nodup_dedup _
  jsonl := by
    intro path jsonl
    rw [List.mem_dedup, List.mem_map, holding.isSome_iff jsonl]
    exact exists_congr fun frame => and_congr_right fun _ => eq_comm

theorem scan_getDataFiles (holding : Stored json.serde o stored) (lists : Lists listing o) :
    Scan o (getDataFiles listing) := by
  have hour : ∀ file ∈ getDataFiles listing, ∃ hour, file = hourPath hour := by
    intro file member
    obtain ⟨listed, jsonl, -⟩ := mem_getDataFiles.mp member
    exact holding.only file jsonl ((lists.jsonl file jsonl).mp listed)
  refine ⟨?_, hour, ?_⟩
  · have both := (sorted_getDataFiles listing).and (nodup_getDataFiles lists.distinct)
    apply both.imp_of_mem
    intro a b first second both
    obtain ⟨x, rfl⟩ := hour a first
    obtain ⟨y, rfl⟩ := hour b second
    refine both.1.lt_of_ne fun same => both.2 ?_
    rw [pathComponents_inj same]
  · intro hour
    rw [mem_getDataFiles, lists.jsonl (hourPath hour) rfl]
    exact ⟨fun found => found.1, fun there => ⟨there, rfl, not_mentionsTmp hour⟩⟩

/-- The search ends at the first file that has the window, if every file in front of it could be read. -/
theorem findInFiles_eq_some {windowId : Nat} {frame : AggregatedFrame F} {files : List Path} :
    findInFiles json o windowId files = .ok (some frame) ↔
      ∃ before file after read, files = before ++ file :: after ∧
        (∀ other ∈ before, ∃ frames, readJsonlFile json o other = .ok frames ∧
          ∀ g ∈ frames, g.windowId ≠ windowId) ∧
        readJsonlFile json o file = .ok read ∧
        read.find? (fun g => g.windowId = windowId) = some frame := by
  induction files with
  | nil => simp [findInFiles]
  | cons file rest ih =>
    rw [findInFiles]
    cases first : readJsonlFile json o file with
    | error e =>
      refine ⟨fun bad => (by cases bad), ?_⟩
      rintro ⟨before, other, after, read, split, passed, here, -⟩
      cases before with
      | nil =>
        cases split
        rw [first] at here
        cases here
      | cons head before =>
        cases split
        obtain ⟨frames, readable, -⟩ := passed file List.mem_cons_self
        rw [first] at readable
        cases readable
    | ok frames =>
      simp only
      cases found : frames.find? fun g => decide (g.windowId = windowId) with
      | some g =>
        constructor
        · intro same
          cases same
          exact ⟨[], file, rest, frames, rfl, fun _ member => (by cases member), first, found⟩
        · rintro ⟨before, other, after, read, split, passed, here, match_⟩
          cases before with
          | nil =>
            cases split
            cases first.symm.trans here
            cases found.symm.trans match_
            rfl
          | cons head before =>
            cases split
            obtain ⟨frames', readable, apart⟩ := passed file List.mem_cons_self
            cases first.symm.trans readable
            have same : g.windowId = windowId := by simpa using List.find?_some found
            exact absurd same (apart g (List.mem_of_find?_eq_some found))
      | none =>
        rw [ih]
        have none : ∀ g ∈ frames, g.windowId ≠ windowId := by
          intro g member same
          exact absurd (decide_eq_true same) (List.find?_eq_none.mp found g member)
        constructor
        · rintro ⟨before, other, after, read, rfl, passed, here, match_⟩
          refine ⟨file :: before, other, after, read, rfl, ?_, here, match_⟩
          exact List.forall_mem_cons.mpr ⟨⟨frames, first, none⟩, passed⟩
        · rintro ⟨before, other, after, read, split, passed, here, match_⟩
          cases before with
          | nil =>
            cases split
            cases first.symm.trans here
            rw [found] at match_
            cases match_
          | cons head before =>
            cases split
            exact ⟨before, other, after, read, rfl, (List.forall_mem_cons.mp passed).2, here, match_⟩

/-- An hour file can be read when JSON has every number in it. -/
theorem readJsonlFile_stored (holding : Stored json.serde o stored) {hour : Int}
    (there : (o.text (hourPath hour)).isSome = true) (frames : List (AggregatedFrame F)) :
    readJsonlFile json o (hourPath hour) = .ok frames ↔
      (∀ g ∈ ofHour stored hour, Written g) ∧ frames = (ofHour stored hour).map json.rereadFrame := by
  obtain ⟨content, text⟩ := Option.isSome_iff_exists.mp there
  have lines := holding.log hour
  rw [HourlyLog.logAt, text, Option.map_some, Option.getD_some] at lines
  rw [readJsonlFile_some json text, gathered_eq_ok,
    json.toFrame_frameText.list (ofHour stored hour) (entries content) lines]
  by_cases all : ∀ g ∈ ofHour stored hour, Written g
  · rw [if_pos all, Option.some.injEq, and_iff_right all]
    exact eq_comm
  · rw [if_neg all]
    exact ⟨fun bad => (by cases bad), fun good => absurd good.1 all⟩

/-- A number that JSON does not have makes the file of its hour unreadable. -/
theorem readJsonlFile_cases (holding : Stored json.serde o stored) {hour : Int}
    (there : (o.text (hourPath hour)).isSome = true) :
    (∀ g ∈ ofHour stored hour, Written g) ∧
        readJsonlFile json o (hourPath hour) = .ok ((ofHour stored hour).map json.rereadFrame) ∨
      (¬∀ g ∈ ofHour stored hour, Written g) ∧
        ∃ e, readJsonlFile json o (hourPath hour) = .error e := by
  by_cases all : ∀ g ∈ ofHour stored hour, Written g
  · exact Or.inl ⟨all, (readJsonlFile_stored holding there _).mpr ⟨all, rfl⟩⟩
  · refine Or.inr ⟨all, ?_⟩
    cases read : readJsonlFile json o (hourPath hour) with
    | error e => exact ⟨e, rfl⟩
    | ok frames => exact absurd ((readJsonlFile_stored holding there frames).mp read).1 all

variable (json) in
/-- The search comes to a frame that is read back as the answer, in the hour of the frame, before it comes
to another one with its number or to a file it cannot read. -/
structure FirstOfItsNumber (stored : List (AggregatedFrame F)) (frame answer : AggregatedFrame F) :
    Prop where
  readable : ∀ g ∈ stored, ¬Before (frameHour frame) (frameHour g) → Written g
  earlier : ∀ g ∈ stored, Before (frameHour g) (frameHour frame) → g.windowId ≠ frame.windowId
  first : ((ofHour stored (frameHour frame)).find? fun g => g.windowId = frame.windowId).map
    json.rereadFrame = some answer

/-- The number of a window is read back as it is. -/
theorem find?_map_reread (frames : List (AggregatedFrame F)) (windowId : Nat) :
    (frames.map json.rereadFrame).find? (fun g => g.windowId = windowId) =
      (frames.find? fun g => g.windowId = windowId).map json.rereadFrame :=
  List.find?_map ..

/-- In front of the file of an hour are those of the hours whose files are looked at before. -/
theorem Scan.mem_front {files before after : List Path} {hour : Int} (scan : Scan o files)
    (split : files = before ++ hourPath hour :: after) (other : Int) :
    hourPath other ∈ before ↔ (o.text (hourPath other)).isSome = true ∧ Before other hour := by
  have ordered := scan.ordered
  rw [split, List.pairwise_append, List.pairwise_cons] at ordered
  obtain ⟨-, ⟨behind, -⟩, front⟩ := ordered
  rw [← scan.mem other, split, List.mem_append, List.mem_cons]
  constructor
  · intro member
    exact ⟨Or.inl member, front _ member _ List.mem_cons_self⟩
  · rintro ⟨member | same | later, early⟩
    · exact member
    · rw [HourlyLog.hourPath_inj same] at early
      exact absurd early (lt_irrefl _)
    · exact absurd (behind _ later) (lt_asymm early)

/-- When the search gets past the files in front of an hour's file. -/
theorem passed_iff (holding : Stored json.serde o stored) {files before after : List Path} {hour : Int}
    (scan : Scan o files) (split : files = before ++ hourPath hour :: after) (windowId : Nat) :
    (∀ file ∈ before, ∃ frames, readJsonlFile json o file = .ok frames ∧
        ∀ g ∈ frames, g.windowId ≠ windowId) ↔
      ∀ g ∈ stored, Before (frameHour g) hour → Written g ∧ g.windowId ≠ windowId := by
  constructor
  · intro passed g member early
    have there := holding.isSome member
    obtain ⟨frames, readable, apart⟩ := passed _ ((scan.mem_front split _).mpr ⟨there, early⟩)
    obtain ⟨written, rfl⟩ := (readJsonlFile_stored holding there frames).mp readable
    have inside := mem_ofHour.mpr ⟨member, rfl⟩
    exact ⟨written g inside, apart (json.rereadFrame g) (List.mem_map_of_mem inside)⟩
  · intro front file member
    obtain ⟨other, rfl⟩ := scan.hour file (split ▸ List.mem_append_left _ member)
    obtain ⟨there, early⟩ := (scan.mem_front split other).mp member
    refine ⟨(ofHour stored other).map json.rereadFrame,
      (readJsonlFile_stored holding there _).mpr ⟨?_, rfl⟩, ?_⟩
    · intro g inside
      obtain ⟨gMember, rfl⟩ := mem_ofHour.mp inside
      exact (front g gMember early).1
    · rw [List.forall_mem_map]
      intro g inside
      obtain ⟨gMember, rfl⟩ := mem_ofHour.mp inside
      exact (front g gMember early).2

theorem findFrame_iff (holding : Stored json.serde o stored) (lists : Lists listing o)
    {frame answer : AggregatedFrame F} (member : frame ∈ stored)
    (hourly : frameHour answer = frameHour frame) :
    findFrameByWindowId json o listing frame.windowId = .ok (some answer) ↔
      FirstOfItsNumber json stored frame answer := by
  have scan := scan_getDataFiles holding lists
  rw [findFrameByWindowId, findInFiles_eq_some]
  constructor
  · rintro ⟨before, file, after, read, split, passed, here, found⟩
    have listed : file ∈ getDataFiles listing := by
      rw [split]
      exact List.mem_append_right _ List.mem_cons_self
    obtain ⟨hour, rfl⟩ := scan.hour file listed
    obtain ⟨all, rfl⟩ := (readJsonlFile_stored holding ((scan.mem hour).mp listed) read).mp here
    rw [find?_map_reread] at found
    obtain ⟨g, match_, same⟩ := Option.map_eq_some_iff.mp found
    obtain rfl : frameHour frame = hour := by
      rw [← hourly, ← same]
      exact (mem_ofHour.mp (List.mem_of_find?_eq_some match_)).2
    have front := (passed_iff holding scan split frame.windowId).mp passed
    refine ⟨?_, fun g gMember early => (front g gMember early).2, found⟩
    intro g gMember late
    obtain early | same := before_or_eq late
    · exact (front g gMember early).1
    · exact all g (mem_ofHour.mpr ⟨gMember, same⟩)
  · intro first
    have there := holding.isSome member
    obtain ⟨before, after, split⟩ := List.append_of_mem ((scan.mem _).mpr there)
    refine ⟨before, _, after, (ofHour stored (frameHour frame)).map json.rereadFrame, split,
      (passed_iff holding scan split _).mpr ?_, (readJsonlFile_stored holding there _).mpr ⟨?_, rfl⟩,
      (find?_map_reread _ _).trans first.first⟩
    · intro g gMember early
      exact ⟨first.readable g gMember early.asymm, first.earlier g gMember early⟩
    · intro g inside
      obtain ⟨gMember, same⟩ := mem_ofHour.mp inside
      refine first.readable g gMember ?_
      rw [same]
      exact lt_irrefl _

end SensorGateway.Storage.WindowLookup

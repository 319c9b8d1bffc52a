import SensorGateway.Dashboard.Entry
import SensorGateway.Storage.Collection

/-! The latest frame as storage and the dashboard have it. The runtime snapshot is only written for a
frame that comes with stats, and the dashboard prefers it, so the two agree exactly while it holds the
last frame or cannot be read. The numbers of what is read and printed again are as the parser has them. -/

namespace SensorGateway.Dashboard.Latest
open SensorGateway.Lib.Json SensorGateway.Lib.JsonText SensorGateway.Lib.Lines
open SensorGateway.Lib.ExtendedRat SensorGateway.Lib.Transition SensorGateway.Types
open Storage.Disk Storage.Persist Storage.Encoding Storage.Texts Storage.Collection
open Endpoints Entry
variable {F : Type} [F64 F] (json : SerdeJson F)

/-- The response has the JSON of the frame, whatever the order of its members. -/
def Shows (response : HttpResponse) (frame : AggregatedFrame F) : Prop :=
  response.status = .ok ∧ ∃ v u, encodeFrame frame = some v ∧ u.canonical = v.canonical ∧
    response.body = json.toText u

/-- Without a time range `/sensor/<id>` answers from the frame. -/
def SensorsFrom (o : Observation) (frame : AggregatedFrame F) : Prop :=
  ∀ id sinceQuery untilQuery, id ≠ "" → parseU64Opt sinceQuery = none → parseU64Opt untilQuery = none →
    sensor json o (some id) sinceQuery untilQuery = frameAnswer json frame id

/-- `/latest` answers the frame and `/sensor/<id>` answers from it, to the last bit. -/
def AnswersExactly (o : Observation) (frame : AggregatedFrame F) : Prop :=
  Shows json (latest json o) frame ∧ SensorsFrom json o frame

/-- The same with the numbers as they are read back. `/latest` may also show the text of the frame as
it was written. -/
def AnswersFrom (o : Observation) (frame : AggregatedFrame F) : Prop :=
  (Shows json (latest json o) frame ∨ Shows json (latest json o) (json.rereadFrame frame)) ∧
    SensorsFrom json o (json.rereadFrame frame)

/-- Two frames that no reader of their JSON can tell apart. -/
def SameJson (a b : AggregatedFrame F) : Prop :=
  (encodeFrame a).map Document.canonical = (encodeFrame b).map Document.canonical

/-- Two frames of the same JSON once their numbers have been read back, perhaps more than once. -/
def Alike (a b : AggregatedFrame F) : Prop :=
  ∃ m n, SameJson (json.rereadFrame^[m] a) (json.rereadFrame^[n] b)

/-- The endpoints answer from the frame or one that is alike. -/
def AnswersLike (o : Observation) (frame : AggregatedFrame F) : Prop :=
  ∃ other, Alike json other frame ∧ AnswersFrom json o other

/-- The runtime snapshot of these stats is not nested too deep. -/
def Followed (stats : Value F) : Prop := stats.depth < recursionLimit

instance followedDecidable : DecidablePred (Followed (F := F)) :=
  fun stats => Nat.decLt stats.depth recursionLimit

/-- The last stats that came with a frame, if the dashboard can read them. -/
def Read (requests : List (PersistRequest F (Value F))) (pair : AggregatedFrame F × Value F) : Prop :=
  lastPair requests = some pair ∧ Followed pair.2

/-- The last stats, if the dashboard can read them, came with the last frame or one like it. -/
def Current (requests : List (PersistRequest F (Value F))) (last : AggregatedFrame F) : Prop :=
  ∀ pair, Read requests pair → Alike json pair.1 last

/-- The frame the dashboard reads is the last one to the last bit, as far as the endpoints show it. -/
structure CurrentExactly (requests : List (PersistRequest F (Value F)))
    (last : AggregatedFrame F) : Prop where
  paired : ∀ pair, Read requests pair → SameJson (json.rereadFrame pair.1) last
  unpaired : (∀ pair, ¬Read requests pair) → ∀ id ∈ last.perSensor, id ≠ "" →
    frameEntry (json.rereadFrame last) id = frameEntry last id

/-! Frames of the same JSON. -/

section
variable {json} {a b c : AggregatedFrame F}

omit json in
theorem SameJson.windowId (same : SameJson a b) {v : Value F} (encoded : encodeFrame a = some v) :
    a.windowId = b.windowId := by
  rw [SameJson, encoded, Option.map_some] at same
  obtain ⟨u, encoded', same⟩ := Option.map_eq_some_iff.mp same.symm
  have first := (reads_of_encodeFrame encoded).windowId
  rw [← same, (reads_of_encodeFrame encoded').windowId] at first
  simpa [encodeU64] using first.symm

theorem SameJson.reread (same : SameJson a b) :
    SameJson (json.rereadFrame a) (json.rereadFrame b) := by
  have canonical (frame : AggregatedFrame F) :
      (encodeFrame (json.rereadFrame frame)).map Document.canonical =
        ((encodeFrame frame).map Document.canonical).map (Document.map json.reread) := by
    rw [SerdeJson.rereadFrame, Storage.Reread.encodeFrame_reread, Option.map_map, Option.map_map]
    congr 1
    funext v
    exact Document.canonical_map json.reread v
  rw [SameJson, canonical, canonical, same]

theorem SameJson.iterate (same : SameJson a b) (n : Nat) :
    SameJson (json.rereadFrame^[n] a) (json.rereadFrame^[n] b) := by
  induction n with
  | zero => exact same
  | succ n ih =>
    rw [Function.iterate_succ_apply', Function.iterate_succ_apply']
    exact ih.reread

theorem alike_of_same (same : SameJson a b) : Alike json a b := ⟨0, 0, same⟩

theorem alike_reread (frame : AggregatedFrame F) : Alike json (json.rereadFrame frame) frame :=
  ⟨0, 1, rfl⟩

theorem Alike.symm (alike : Alike json a b) : Alike json b a := by
  obtain ⟨m, n, same⟩ := alike
  exact ⟨n, m, Eq.symm same⟩

theorem Alike.trans (first : Alike json a b) (second : Alike json b c) : Alike json a c := by
  obtain ⟨m, n, same⟩ := first
  obtain ⟨p, q, same'⟩ := second
  refine ⟨p + m, n + q, ?_⟩
  have left : SameJson (json.rereadFrame^[p] _) (json.rereadFrame^[p] _) := same.iterate p
  have right : SameJson (json.rereadFrame^[n] _) (json.rereadFrame^[n] _) := same'.iterate n
  rw [← Function.iterate_add_apply, ← Function.iterate_add_apply] at left right
  rw [Nat.add_comm n p] at right
  exact Eq.trans left right

theorem windowId_iterate (frame : AggregatedFrame F) (n : Nat) :
    (json.rereadFrame^[n] frame).windowId = frame.windowId := by
  induction n with
  | zero => rfl
  | succ n ih =>
    rw [Function.iterate_succ_apply']
    exact ih

end

theorem depth_encodeSnapshot {frame : AggregatedFrame F} {v : Value F}
    (encoded : encodeFrame frame = some v) (stats : Value F) :
    (encodeSnapshot v stats).depth ≤ recursionLimit ↔ Followed stats := by
  have shallow := depth_encodeFrame encoded
  simp only [encodeSnapshot, Document.depth, Document.depthMembers, Followed, recursionLimit]
  omega

theorem get_encodeSnapshot (v stats : Value F) :
    ((encodeSnapshot v stats).map json.reread).canonical.get "latest" =
      some (v.map json.reread).canonical := by
  have distinct : (["latest", "stats"]).Nodup := by decide
  exact Document.get_canonical distinct

section
variable {json} {o : Observation} {frame : AggregatedFrame F} {v : Value F}

theorem sensor_eq {id : String} {sinceQuery untilQuery : Option String}
    (named : id ≠ "") (since : parseU64Opt sinceQuery = none) (til : parseU64Opt untilQuery = none) :
    sensor json o (some id) sinceQuery untilQuery = sensorLatest json o id := by
  unfold sensor
  simp [named, since, til]

/-- Where the snapshot says nothing, `/latest` is the file of the frame and the sensors are read from
it. -/
theorem answers_of_file (encoded : encodeFrame frame = some v)
    (absent : readRuntimeSnapshotField json o "latest" = none)
    (text : o.text latestSnapshotPath = some (json.toText v)) :
    Shows json (latest json o) frame ∧ SensorsFrom json o (json.rereadFrame frame) := by
  constructor
  · rw [latest, snapshotEndpoint, absent]
    simp only [jsonFileResponse, text]
    exact ⟨rfl, v, v, encoded, rfl, rfl⟩
  · intro id sinceQuery untilQuery named since til
    rw [sensor_eq named since til, sensorLatest, absent, Option.none_or, readJsonValue, text,
      Option.bind_some, json.toValue_frame encoded]
    exact sensorInFrame_eq json (reads_of_encodeFrame (json.encodeFrame_reread encoded)) id

/-- Where the snapshot has a frame, all answers are from it. -/
theorem answers_of_snapshot (encoded : encodeFrame frame = some v)
    (there : readRuntimeSnapshotField json o "latest" = some v.canonical) :
    AnswersExactly json o frame := by
  constructor
  · rw [latest, snapshotEndpoint, there]
    exact ⟨rfl, v, _, encoded, Document.canonical_canonical v, rfl⟩
  · intro id sinceQuery untilQuery named since til
    rw [sensor_eq named since til, sensorLatest, there, Option.some_or]
    exact sensorInFrame_eq json (reads_of_encodeFrame encoded) id

theorem answersFrom_of_snapshot (encoded : encodeFrame frame = some v)
    (there : readRuntimeSnapshotField json o "latest" = some (v.map json.reread).canonical) :
    AnswersFrom json o frame :=
  have answers := answers_of_snapshot (json.encodeFrame_reread encoded) there
  ⟨Or.inr answers.1, answers.2⟩

/-- The snapshot's frame is the only one whose JSON `/latest` has. -/
theorem shows_snapshot_iff (encoded : encodeFrame frame = some v)
    (there : readRuntimeSnapshotField json o "latest" = some v.canonical) (other : AggregatedFrame F) :
    Shows json (latest json o) other ↔ SameJson frame other := by
  rw [SameJson, encoded, Option.map_some, latest, snapshotEndpoint, there]
  constructor
  · rintro ⟨-, w, u, encoded', same, body⟩
    have printed : v.canonical = u := json.toText_injective body
    rw [encoded', Option.map_some, ← same, ← printed, Document.canonical_canonical]
  · intro same
    obtain ⟨w, encoded', canonical⟩ := Option.map_eq_some_iff.mp same.symm
    refine ⟨rfl, w, v.canonical, encoded', ?_, rfl⟩
    rw [Document.canonical_canonical, canonical]

/-- The entries of two frames tell whether the sensors answer the same from them. -/
theorem sensorsFrom_iff {other : AggregatedFrame F} (sensors : SensorsFrom json o frame)
    (members : ∀ id, id ∈ frame.perSensor ↔ id ∈ other.perSensor) :
    SensorsFrom json o other ↔
      ∀ id ∈ other.perSensor, id ≠ "" → frameEntry frame id = frameEntry other id := by
  constructor
  · intro same id member named
    have answer := (sensors id none none named rfl rfl).symm.trans (same id none none named rfl rfl)
    rw [frameAnswer, if_pos ((members id).mpr member), frameAnswer, if_pos member] at answer
    exact json.toText_injective (congrArg HttpResponse.body answer)
  · intro entries id sinceQuery untilQuery named since til
    rw [sensors id sinceQuery untilQuery named since til, frameAnswer, frameAnswer]
    by_cases member : id ∈ other.perSensor
    · rw [if_pos member, if_pos ((members id).mpr member), entries id member named]
    · rw [if_neg member, if_neg fun there => member ((members id).mp there)]

end

section
variable {json} {w : Worker F (Value F)}

/-- The frame the dashboard finds in the runtime snapshot. -/
theorem snapshot_latest (kept : Kept json.serde w) :
    readRuntimeSnapshotField json w.store.now "latest" =
      (lastPair (requests w)).bind fun pair =>
        if Followed pair.2 then (encodeFrame (json.rereadFrame pair.1)).map Document.canonical
        else none := by
  rw [readRuntimeSnapshotField, readJsonValue, kept.snapshot]
  cases last : lastPair (requests w) with
  | none => rfl
  | some pair =>
    obtain ⟨frame, stats⟩ := pair
    cases encoded : encodeFrame frame with
    | none =>
      have none : encodeFrame (json.rereadFrame frame) = none := by
        rw [SerdeJson.rereadFrame, Storage.Reread.encodeFrame_reread, encoded, Option.map_none]
      simp [SerdeJson.serde, encoded, none]
    | some v =>
      have depth := depth_encodeSnapshot encoded stats
      simp only [SerdeJson.serde, encoded, Option.map_some, Option.bind_some, json.toValue_toText,
        json.encodeFrame_reread encoded]
      by_cases followed : Followed stats
      · rw [if_pos (depth.mpr followed), if_pos followed, Option.bind_some, get_encodeSnapshot]
      · rw [if_neg fun shallow => followed (depth.mp shallow), if_neg followed, Option.bind_none]

/-- The file of the last frame. -/
theorem text_latest (kept : Kept json.serde w) {last : AggregatedFrame F}
    (isLast : (frames w).getLast? = some last) :
    ∃ v, encodeFrame last = some v ∧
      w.store.now.text latestSnapshotPath = some (json.toText v) := by
  obtain ⟨line, serialized⟩ := kept.stored.serialized (List.mem_of_getLast? isLast)
  obtain ⟨v, encoded, rfl⟩ := json.frameText_eq_some.mp serialized
  exact ⟨v, encoded, by rw [kept.latest, isLast, Option.bind_some, serialized]⟩

/-- Either the dashboard reads the frame of the last stats, or it reads the file of the last frame. -/
theorem source_cases (kept : Kept json.serde w) {last : AggregatedFrame F}
    (isLast : (frames w).getLast? = some last) :
    (∃ pair v, Read (requests w) pair ∧ encodeFrame pair.1 = some v ∧
      readRuntimeSnapshotField json w.store.now "latest" = some (v.map json.reread).canonical) ∨
    (∀ pair, ¬Read (requests w) pair) ∧
      Shows json (latest json w.store.now) last ∧
        SensorsFrom json w.store.now (json.rereadFrame last) := by
  have found := snapshot_latest kept
  have file (absent : readRuntimeSnapshotField json w.store.now "latest" = none) :
      Shows json (latest json w.store.now) last ∧
        SensorsFrom json w.store.now (json.rereadFrame last) := by
    obtain ⟨v, encoded, text⟩ := text_latest kept isLast
    exact answers_of_file encoded absent text
  cases paired : lastPair (requests w) with
  | none =>
    rw [paired, Option.bind_none] at found
    refine Or.inr ⟨?_, file found⟩
    rintro pair ⟨isPair, -⟩
    cases paired.symm.trans isPair
  | some pair =>
    rw [paired, Option.bind_some] at found
    by_cases followed : Followed pair.2
    · obtain ⟨line, serialized⟩ := kept.stored.serialized (mem_of_lastPair paired)
      obtain ⟨v, encoded, -⟩ := json.frameText_eq_some.mp serialized
      rw [if_pos followed, json.encodeFrame_reread encoded, Option.map_some] at found
      exact Or.inl ⟨pair, v, ⟨paired, followed⟩, encoded, found⟩
    · rw [if_neg followed] at found
      refine Or.inr ⟨?_, file found⟩
      rintro other ⟨isPair, deep⟩
      obtain rfl : pair = other := Option.some.inj (paired.symm.trans isPair)
      exact absurd deep followed

theorem Read.unique {requests : List (PersistRequest F (Value F))} {a b : AggregatedFrame F × Value F}
    (first : Read requests a) (second : Read requests b) : a = b :=
  Option.some.inj (first.1.symm.trans second.1)

theorem answersLike_iff (kept : Kept json.serde w) {last : AggregatedFrame F}
    (isLast : (frames w).getLast? = some last) :
    AnswersLike json w.store.now last ↔ Current json (requests w) last := by
  rcases source_cases kept isLast with ⟨pair, v, read, encoded, there⟩ | ⟨unread, shows, sensors⟩
  · have again := json.encodeFrame_reread encoded
    constructor
    · rintro ⟨other, alike, answers⟩ pair' read'
      obtain rfl := read.unique read'
      have shown : Alike json (json.rereadFrame pair.1) other := by
        rcases answers.1 with exactly | rereads
        · exact alike_of_same ((shows_snapshot_iff again there other).mp exactly)
        · exact (alike_of_same ((shows_snapshot_iff again there _).mp rereads)).trans
            (alike_reread other)
      exact (alike_reread pair.1).symm.trans (shown.trans alike)
    · intro current
      exact ⟨pair.1, current pair read, answersFrom_of_snapshot encoded there⟩
  · constructor
    · intro _ pair read
      exact absurd read (unread pair)
    · intro _
      exact ⟨last, alike_of_same rfl, Or.inl shows, sensors⟩

theorem answersExactly_iff (kept : Kept json.serde w) {last : AggregatedFrame F}
    (isLast : (frames w).getLast? = some last) :
    AnswersExactly json w.store.now last ↔ CurrentExactly json (requests w) last := by
  rcases source_cases kept isLast with ⟨pair, v, read, encoded, there⟩ | ⟨unread, shows, sensors⟩
  · have again := json.encodeFrame_reread encoded
    constructor
    · intro answers
      refine ⟨?_, fun unread => absurd read (unread pair)⟩
      intro pair' read'
      obtain rfl := read.unique read'
      exact (shows_snapshot_iff again there last).mp answers.1
    · intro current
      have same := current.paired pair read
      rw [SameJson, again, Option.map_some] at same
      obtain ⟨w, encoded', canonical⟩ := Option.map_eq_some_iff.mp same.symm
      rw [← canonical] at there
      exact answers_of_snapshot encoded' there
  · have entries := sensorsFrom_iff sensors (mem_reread last)
    constructor
    · intro answers
      exact ⟨fun pair read => absurd read (unread pair), fun _ => entries.mp answers.2⟩
    · intro current
      exact ⟨shows, entries.mpr (current.unpaired unread)⟩

end

/-- After any accepted requests in an empty directory: when the endpoints answer the last frame with its
numbers as they are read back, and when they answer it to the last bit. -/
theorem latest_agrees (w : Worker F (Value F)) (reach : (worker json.serde fun _ => none).Reachable w)
    (all : AllAccepted w) (last : AggregatedFrame F) (isLast : (frames w).getLast? = some last) :
    (AnswersLike json w.store.now last ↔ Current json (requests w) last) ∧
      (AnswersExactly json w.store.now last ↔ CurrentExactly json (requests w) last) :=
  have kept := reachable_kept reach all
  ⟨answersLike_iff kept isLast, answersExactly_iff kept isLast⟩

/-- A frame without readings, and a request for it without failures. -/
def emptyFrame (windowId : Nat) : AggregatedFrame Extended := ⟨windowId, 0, 0, ∅, []⟩

def frameRequest (windowId : Nat) (statsSnapshot : Option (Value Extended)) :
    PersistRequest Extended (Value Extended) :=
  ⟨emptyFrame windowId, statsSnapshot, .none, 7⟩

theorem frameRequest_run (wanted : List (Nat × Option (Value Extended))) :
    ∃ w, (worker exactJson.serde fun _ => none).Reachable w ∧ AllAccepted w ∧
      requests w = wanted.map fun call => frameRequest call.1 call.2 := by
  apply exists_run
  intro request member
  obtain ⟨call, -, rfl⟩ := List.mem_map.mp member
  exact ⟨rfl, rfl⟩

/-- A frame without stats and then one with stats. -/
theorem latest_agrees_published :
    ∃ w, AllAccepted w ∧ requests w = [frameRequest 0 none, frameRequest 1 (some .null)] ∧
      AnswersLike exactJson w.store.now (emptyFrame 1) ∧
      AnswersExactly exactJson w.store.now (emptyFrame 1) := by
  obtain ⟨w, reach, all, wanted⟩ := frameRequest_run [(0, none), (1, some .null)]
  have isLast : (frames w).getLast? = some (emptyFrame 1) := by
    rw [frames, wanted]
    rfl
  have isPair : lastPair (requests w) = some (emptyFrame 1, .null) := by
    rw [wanted]
    rfl
  have paired : ∀ pair, Read (requests w) pair → pair.1 = emptyFrame 1 := by
    rintro pair ⟨there, -⟩
    cases isPair.symm.trans there
    rfl
  obtain ⟨like, exactly⟩ := latest_agrees exactJson w reach all (emptyFrame 1) isLast
  refine ⟨w, all, wanted, like.mpr ?_, exactly.mpr ⟨?_, ?_⟩⟩
  · intro pair read
    rw [paired pair read]
    exact alike_of_same rfl
  · intro pair read
    rw [paired pair read, exactJson_roundTrips.rereadFrame]
    rfl
  · exact fun unread => absurd ⟨isPair, by decide⟩ (unread _)

/-- A frame with stats and then one without: the dashboard stays with the first one. -/
theorem latest_stale :
    ∃ w, (worker exactJson.serde fun _ => none).Reachable w ∧ AllAccepted w ∧
      requests w = [frameRequest 0 (some .null), frameRequest 1 none] ∧
      AnswersFrom exactJson w.store.now (emptyFrame 0) ∧
      ¬AnswersLike exactJson w.store.now (emptyFrame 1) ∧
      ¬AnswersExactly exactJson w.store.now (emptyFrame 1) := by
  obtain ⟨w, reach, all, wanted⟩ := frameRequest_run [(0, some .null), (1, none)]
  have kept := reachable_kept reach all
  have isLast : (frames w).getLast? = some (emptyFrame 1) := by
    rw [frames, wanted]
    rfl
  have isPair : lastPair (requests w) = some (emptyFrame 0, .null) := by
    rw [wanted]
    rfl
  have read : Read (requests w) (emptyFrame 0, .null) := ⟨isPair, by decide⟩
  have found := snapshot_latest kept
  rw [isPair] at found
  have encoded (n : Nat) : ∃ v, encodeFrame (exactJson.rereadFrame^[n] (emptyFrame 0)) = some v := by
    induction n with
    | zero => exact ⟨_, rfl⟩
    | succ n ih =>
      obtain ⟨v, ih⟩ := ih
      rw [Function.iterate_succ_apply']
      exact ⟨_, exactJson.encodeFrame_reread ih⟩
  have apart : ¬Alike exactJson (emptyFrame 0) (emptyFrame 1) := by
    rintro ⟨m, n, same⟩
    obtain ⟨v, encoded⟩ := encoded m
    have ids := same.windowId encoded
    rw [windowId_iterate, windowId_iterate] at ids
    exact absurd ids (by decide)
  refine ⟨w, reach, all, wanted, answersFrom_of_snapshot rfl found, ?_, ?_⟩
  · rw [answersLike_iff kept isLast]
    exact fun current => apart (current _ read)
  · rw [answersExactly_iff kept isLast]
    exact fun current => apart ((alike_reread _).symm.trans (alike_of_same (current.paired _ read)))

end SensorGateway.Dashboard.Latest

import Mathlib.Data.Finset.Card
import SensorGateway.Storage.LatestFrames

/-! The statistics of the web server. Its newest window is the one with the greatest number, and every run
of the gateway numbers its windows from zero. -/

namespace SensorGateway.Storage.NewestWindow
open SensorGateway.Lib.ExtendedRat SensorGateway.Lib.Grouping SensorGateway.Lib.Transition
open SensorGateway.Types
open Disk Persist Encoding Texts LogFile Collection WindowLookup Restarts LatestFrames
variable {F : Type}

/-! `main.rs`. -/

structure WebStats where
  totalFrames : Nat
  latestWindowId : Nat
  latestWindowEnd : SystemTime
  sensorCount : Nat
  anomalyCount : Nat
  lastUpdated : SystemTime
  deriving DecidableEq, Repr

/-- The variables of the loops. -/
structure Counted where
  totalFrames : Nat
  sensorSet : Finset String
  anomalyCount : Nat
  latestWindowId : Nat
  latestWindowEnd : SystemTime

/-- Nothing has been read; the end of no window is the Unix epoch. -/
def Counted.zero : Counted := ⟨0, ∅, 0, 0, 0⟩

/-- The body of the inner loop. -/
def countFrame (c : Counted) (frame : AggregatedFrame F) : Counted :=
  let c := if c.latestWindowId < frame.windowId then
      { c with latestWindowId := frame.windowId, latestWindowEnd := frame.windowEnd }
    else c
  { c with
    sensorSet := frame.perSensor.keys.foldl (fun set sensorId => insert sensorId set) c.sensorSet
    anomalyCount := c.anomalyCount + frame.anomalies.length }

def countFrames (c : Counted) (frames : List (AggregatedFrame F)) : Counted :=
  frames.foldl countFrame { c with totalFrames := c.totalFrames + frames.length }

/-! The loops as one pass over the frames. -/

/-- The newest window so far and its end. -/
def newer (latest : Nat × SystemTime) (frame : AggregatedFrame F) : Nat × SystemTime :=
  if latest.1 < frame.windowId then (frame.windowId, frame.windowEnd) else latest

def latestOf (latest : Nat × SystemTime) (frames : List (AggregatedFrame F)) : Nat × SystemTime :=
  frames.foldl newer latest

def sensorsOf (frames : List (AggregatedFrame F)) : Finset String :=
  (frames.flatMap fun frame => frame.perSensor.keys).toFinset

def anomaliesOf (frames : List (AggregatedFrame F)) : Nat :=
  (frames.map fun frame => frame.anomalies.length).sum

theorem foldl_countFrame (frames : List (AggregatedFrame F)) (c : Counted) :
    frames.foldl countFrame c =
      ⟨c.totalFrames, c.sensorSet ∪ sensorsOf frames, c.anomalyCount + anomaliesOf frames,
        (latestOf (c.latestWindowId, c.latestWindowEnd) frames).1,
        (latestOf (c.latestWindowId, c.latestWindowEnd) frames).2⟩ := by
  induction frames generalizing c with
  | nil => simp [sensorsOf, anomaliesOf, latestOf]
  | cons frame rest ih =>
    have inserted (ids : List String) (set : Finset String) :
        ids.foldl (fun set sensorId => insert sensorId set) set = set ∪ ids.toFinset := by
      induction ids generalizing set with
      | nil => simp
      | cons id ids ih =>
        rw [List.foldl_cons, ih, List.toFinset_cons, Finset.insert_union, Finset.union_insert]
    have sensors : sensorsOf (frame :: rest) = frame.perSensor.keys.toFinset ∪ sensorsOf rest := by
      rw [sensorsOf, List.flatMap_cons, List.toFinset_append, sensorsOf]
    have anomalies : anomaliesOf (frame :: rest) = frame.anomalies.length + anomaliesOf rest := by
      rw [anomaliesOf, List.map_cons, List.sum_cons, anomaliesOf]
    have latest (start : Nat × SystemTime) :
        latestOf start (frame :: rest) = latestOf (newer start frame) rest := rfl
    rw [List.foldl_cons, ih, sensors, anomalies, latest, ← Finset.union_assoc, ← Nat.add_assoc]
    unfold countFrame newer
    simp only [inserted]
    split <;> rfl

theorem countFrames_append (c : Counted) (first second : List (AggregatedFrame F)) :
    countFrames (countFrames c first) second = countFrames c (first ++ second) := by
  unfold countFrames
  simp only [foldl_countFrame, List.foldl_append, List.length_append, Finset.union_assoc, Nat.add_assoc]

theorem countFrames_zero {frames stored : List (AggregatedFrame F)} (perm : frames.Perm stored) :
    countFrames .zero frames =
      ⟨stored.length, sensorsOf stored, anomaliesOf stored, (latestOf (0, 0) frames).1,
        (latestOf (0, 0) frames).2⟩ := by
  have sensors : sensorsOf frames = sensorsOf stored :=
    List.toFinset_eq_of_perm _ _ (perm.flatMap_right _)
  have anomalies : anomaliesOf frames = anomaliesOf stored := (perm.map _).sum_eq
  rw [countFrames, foldl_countFrame, sensors, anomalies, perm.length_eq]
  simp [Counted.zero]

/-- What the start is replaced by is the first of the frames with the greatest number. -/
theorem latestOf_cases (frames : List (AggregatedFrame F)) (start : Nat × SystemTime) :
    (latestOf start frames = start ∧ ∀ g ∈ frames, g.windowId ≤ start.1) ∨
      ∃ before f after, frames = before ++ f :: after ∧ start.1 < f.windowId ∧
        (∀ g ∈ before, g.windowId < f.windowId) ∧ (∀ g ∈ after, g.windowId ≤ f.windowId) ∧
        latestOf start frames = (f.windowId, f.windowEnd) := by
  induction frames generalizing start with
  | nil => exact Or.inl ⟨rfl, fun g member => (by cases member)⟩
  | cons frame rest ih =>
    have step : latestOf start (frame :: rest) = latestOf (newer start frame) rest := rfl
    rw [step]
    by_cases above : start.1 < frame.windowId
    · have next : newer start frame = (frame.windowId, frame.windowEnd) := if_pos above
      rw [next]
      rcases ih (frame.windowId, frame.windowEnd) with
        ⟨same, below⟩ | ⟨before, f, after, rfl, less, front, behind, latest⟩
      · exact Or.inr ⟨[], frame, rest, rfl, above, fun g member => (by cases member), below, same⟩
      · refine Or.inr ⟨frame :: before, f, after, rfl, above.trans less, ?_, behind, latest⟩
        exact List.forall_mem_cons.mpr ⟨less, front⟩
    · have next : newer start frame = start := if_neg above
      rw [next]
      rcases ih start with ⟨same, below⟩ | ⟨before, f, after, rfl, less, front, behind, latest⟩
      · exact Or.inl ⟨same, List.forall_mem_cons.mpr ⟨Nat.le_of_not_lt above, below⟩⟩
      · refine Or.inr ⟨frame :: before, f, after, rfl, less, ?_, behind, latest⟩
        exact List.forall_mem_cons.mpr ⟨by omega, front⟩

/-- The statistics name a window that none of the frames ends after. -/
structure Newest (stored : List (AggregatedFrame F)) (stats : WebStats) : Prop where
  greatest : ∀ g ∈ stored, g.windowEnd ≤ stats.latestWindowEnd
  named : ∃ f ∈ stored, f.windowId = stats.latestWindowId ∧ f.windowEnd = stats.latestWindowEnd

/-- The frame has the greatest number, not zero, and the last end, and the frames of other runs with its
number that end before it are in files that are looked at later. -/
structure Leads (stored : List (AggregatedFrame F)) (f : AggregatedFrame F) : Prop where
  numbered : 0 < f.windowId
  number : ∀ g ∈ stored, g.windowId ≤ f.windowId
  last : ∀ g ∈ stored, g.windowEnd ≤ f.windowEnd
  repeated : ∀ g ∈ stored, g.windowId = f.windowId → g.windowEnd < f.windowEnd →
    Before (frameHour f) (frameHour g)

/-- The newest window can be told from its number, or all there are end with the epoch. -/
def NumberTells (stored : List (AggregatedFrame F)) : Prop :=
  (∀ g ∈ stored, g.windowId = 0 ∧ g.windowEnd = 0) ∨ ∃ f ∈ stored, Leads stored f

/-- The one frame is read before the other: from an earlier file, or in the same one and no later. -/
def ReadBefore (a b : AggregatedFrame F) : Prop :=
  Before (frameHour a) (frameHour b) ∨ frameHour a = frameHour b ∧ a.windowEnd ≤ b.windowEnd

section
variable {stored : List (AggregatedFrame F)} {files : List Path} {hours : List Int}

theorem readBefore_grouped (known : Hours stored files hours)
    (ordered : stored.Pairwise fun a b => a.windowEnd ≤ b.windowEnd) :
    (grouped frameHour stored hours).Pairwise ReadBefore := by
  rw [grouped, List.pairwise_flatMap]
  constructor
  · intro hour _
    apply (ordered.filter _).imp_of_mem
    intro a b first second less
    exact Or.inr ⟨(mem_group.mp first).2.trans (mem_group.mp second).2.symm, less⟩
  · apply known.ordered.imp
    intro k l less a first b second
    rw [ReadBefore, (mem_group.mp first).2, (mem_group.mp second).2]
    exact Or.inl less

/-- A frame behind another one of its number ends no later only if its file is looked at later. -/
theorem before_of_readBefore {f g : AggregatedFrame F} (read : ReadBefore f g)
    (earlier : g.windowEnd < f.windowEnd) : Before (frameHour f) (frameHour g) := by
  rcases read with less | ⟨-, later⟩
  · exact less
  · exact absurd earlier (not_lt.mpr later)

/-- The frame the loops end with: none has a greater number, and none of its number is read before it. -/
structure Chosen (stored : List (AggregatedFrame F)) (f : AggregatedFrame F) : Prop where
  member : f ∈ stored
  numbered : 0 < f.windowId
  number : ∀ g ∈ stored, g.windowId ≤ f.windowId
  follows : ∀ g ∈ stored, g.windowId = f.windowId → g.windowEnd ≠ f.windowEnd → ReadBefore f g

theorem latestOf_grouped (known : Hours stored files hours)
    (ordered : stored.Pairwise fun a b => a.windowEnd ≤ b.windowEnd) :
    (latestOf (0, 0) (grouped frameHour stored hours) = (0, 0) ∧ ∀ g ∈ stored, g.windowId = 0) ∨
      ∃ f, Chosen stored f ∧
        latestOf (0, 0) (grouped frameHour stored hours) = (f.windowId, f.windowEnd) := by
  have pass := readBefore_grouped known ordered
  have inside (g : AggregatedFrame F) : g ∈ grouped frameHour stored hours ↔ g ∈ stored :=
    known.perm.mem_iff
  rcases latestOf_cases (grouped frameHour stored hours) (0, 0) with
    ⟨same, below⟩ | ⟨before, f, after, split, numbered, front, behind, latest⟩
  · exact Or.inl ⟨same, fun g there => Nat.le_zero.mp (below g ((inside g).mpr there))⟩
  · have place (g : AggregatedFrame F) (known : g ∈ stored) : g ∈ before ∨ g = f ∨ g ∈ after := by
      have member := (inside g).mpr known
      rwa [split, List.mem_append, List.mem_cons] at member
    refine Or.inr ⟨f, ⟨(inside f).mp (by rw [split]; simp), numbered, ?_, ?_⟩, latest⟩
    · intro g known
      rcases place g known with early | rfl | late
      · exact Nat.le_of_lt (front g early)
      · exact Nat.le_refl _
      · exact behind g late
    · intro g known same other
      rcases place g known with early | rfl | late
      · exact absurd same (Nat.ne_of_lt (front g early))
      · exact absurd rfl other
      · rw [split, List.pairwise_append, List.pairwise_cons] at pass
        exact pass.2.1.1 g late

theorem Chosen.last_iff {f : AggregatedFrame F} (chosen : Chosen stored f) :
    (∀ g ∈ stored, g.windowEnd ≤ f.windowEnd) ↔ ∃ top ∈ stored, Leads stored top := by
  constructor
  · intro last
    refine ⟨f, chosen.member, chosen.numbered, chosen.number, last, ?_⟩
    intro g known same earlier
    exact before_of_readBefore (chosen.follows g known same earlier.ne) earlier
  · rintro ⟨top, known, leads⟩
    have same : top.windowId = f.windowId :=
      Nat.le_antisymm (chosen.number top known) (leads.number f chosen.member)
    have ends : f.windowEnd = top.windowEnd := by
      by_contra other
      have earlier := lt_of_le_of_ne (leads.last f chosen.member) other
      have less := leads.repeated f chosen.member same.symm earlier
      rcases chosen.follows top known same (Ne.symm other) with early | ⟨hour, -⟩
      · exact less.asymm early
      · rw [hour] at less
        exact less.asymm less
    intro g member
    rw [ends]
    exact leads.last g member

theorem numberTells_iff (known : Hours stored files hours) (some : stored ≠ [])
    (nonneg : ∀ g ∈ stored, 0 ≤ g.windowEnd)
    (ordered : stored.Pairwise fun a b => a.windowEnd ≤ b.windowEnd) :
    ((∀ g ∈ stored, g.windowEnd ≤ (latestOf (0, 0) (grouped frameHour stored hours)).2) ∧
      ∃ f ∈ stored, f.windowId = (latestOf (0, 0) (grouped frameHour stored hours)).1 ∧
        f.windowEnd = (latestOf (0, 0) (grouped frameHour stored hours)).2) ↔ NumberTells stored := by
  obtain ⟨first, member⟩ := List.exists_mem_of_ne_nil stored some
  rcases latestOf_grouped known ordered with ⟨same, zero⟩ | ⟨f, chosen, latest⟩
  · rw [same]
    constructor
    · rintro ⟨greatest, -⟩
      exact Or.inl fun g there => ⟨zero g there, le_antisymm (greatest g there) (nonneg g there)⟩
    · rintro (epoch | ⟨f, there, leads⟩)
      · exact ⟨fun g there => le_of_eq (epoch g there).2, first, member, epoch first member⟩
      · exact absurd leads.numbered (by rw [zero f there]; decide)
  · rw [latest]
    constructor
    · rintro ⟨greatest, -⟩
      exact Or.inr (chosen.last_iff.mp greatest)
    · rintro (epoch | top)
      · exact absurd chosen.numbered (by rw [(epoch f chosen.member).1]; decide)
      · exact ⟨chosen.last_iff.mpr top, f, chosen.member, rfl, rfl⟩

end

variable [F64 F] (json : SerdeJson F)

def countFiles (o : Observation) : List Path → Counted → Except WebAppError Counted
  | [], c => .ok c
  | file :: rest, c =>
    match readJsonlFile json o file with
    | .error e => .error e
    | .ok frames => countFiles o rest (countFrames c frames)

def computeStats (o : Observation) (listing : List Path) (now : SystemTime) :
    Except WebAppError WebStats :=
  match countFiles json o ((getDataFiles listing).take 10) .zero with
  | .error e => .error e
  | .ok c =>
    .ok ⟨c.totalFrames, c.latestWindowId, c.latestWindowEnd, c.sensorSet.card, c.anomalyCount, now⟩

variable {json} {o : Observation} {stored : List (AggregatedFrame F)} {listing : List Path}

/-- Nothing of what is counted is changed when a frame is read back. -/
theorem countFrames_reread (c : Counted) (frames : List (AggregatedFrame F)) :
    countFrames c (frames.map json.rereadFrame) = countFrames c frames := by
  have same (c : Counted) (frame : AggregatedFrame F) :
      countFrame c (json.rereadFrame frame) = countFrame c frame := by
    have keys : (json.rereadFrame frame).perSensor.keys = frame.perSensor.keys := Std.ExtTreeMap.keys_map
    have count : (json.rereadFrame frame).anomalies.length = frame.anomalies.length := List.length_map _
    unfold countFrame
    rw [keys, count]
    rfl
  rw [countFrames, countFrames, List.foldl_map, List.length_map]
  simp only [same]

theorem countFiles_eq_ok (holding : Stored json.serde o stored) {hours : List Int}
    (there : ∀ hour ∈ hours, (o.text (hourPath hour)).isSome = true) (c found : Counted) :
    countFiles json o (hours.map hourPath) c = .ok found ↔
      (∀ hour ∈ hours, ∀ g ∈ ofHour stored hour, Written g) ∧
        found = countFrames c (grouped frameHour stored hours) := by
  induction hours generalizing c with
  | nil =>
    rw [List.map_nil, countFiles, Except.ok.injEq]
    refine ⟨fun same => ⟨fun hour member => (by cases member), same.symm⟩, fun both => both.2.symm⟩
  | cons hour rest ih =>
    obtain ⟨here, others⟩ := List.forall_mem_cons.mp there
    have groups : grouped frameHour stored (hour :: rest) =
        ofHour stored hour ++ grouped frameHour stored rest := rfl
    rw [List.map_cons, countFiles, List.forall_mem_cons]
    rcases readJsonlFile_cases holding here with ⟨all, read⟩ | ⟨lost, e, read⟩
    · rw [read]
      simp only [countFrames_reread]
      rw [ih others, and_iff_right all, groups, countFrames_append]
    · rw [read]
      exact ⟨fun bad => (by cases bad), fun good => absurd good.1.1 lost⟩

/-- All counts, when all files are among the ten. -/
theorem computeStats_eq_ok (holding : Stored json.serde o stored) {hours : List Int}
    (known : Hours stored (getDataFiles listing) hours)
    (few : (stored.map frameHour).dedup.length ≤ 10) (now : SystemTime) (stats : WebStats) :
    computeStats json o listing now = .ok stats ↔
      (∀ g ∈ stored, Written g) ∧
        stats = ⟨stored.length, (latestOf (0, 0) (grouped frameHour stored hours)).1,
          (latestOf (0, 0) (grouped frameHour stored hours)).2, (sensorsOf stored).card,
          anomaliesOf stored, now⟩ := by
  have there := known.there holding
  have all : hours.Perm (stored.map frameHour).dedup := by
    rw [List.perm_ext_iff_of_nodup known.distinct (List.nodup_dedup _)]
    intro hour
    rw [known.covered, List.mem_dedup, List.mem_map]
  have taken : (getDataFiles listing).take 10 = hours.map hourPath := by
    rw [known.files, List.take_of_length_le]
    rw [List.length_map, all.length_eq]
    exact few
  have readable : (∀ hour ∈ hours, ∀ g ∈ ofHour stored hour, Written g) ↔ ∀ g ∈ stored, Written g := by
    constructor
    · intro each g member
      exact each _ ((known.covered _).mpr ⟨g, member, rfl⟩) g (mem_ofHour.mpr ⟨member, rfl⟩)
    · intro each hour _ g inside
      exact each g (mem_ofHour.mp inside).1
  rw [computeStats, taken]
  cases count : countFiles json o (hours.map hourPath) .zero with
  | error e =>
    refine ⟨fun bad => (by cases bad), fun good => ?_⟩
    have fine := (countFiles_eq_ok holding there .zero _).mpr ⟨readable.mpr good.1, rfl⟩
    rw [count] at fine
    cases fine
  | ok found =>
    obtain ⟨written, rfl⟩ := (countFiles_eq_ok holding there .zero found).mp count
    rw [and_iff_right (readable.mp written), countFrames_zero known.perm, Except.ok.injEq]
    exact eq_comm

theorem windowEnd_nonneg (holding : Stored json.serde o stored) {frame : AggregatedFrame F}
    (member : frame ∈ stored) : 0 ≤ frame.windowEnd := by
  obtain ⟨line, serialized⟩ := holding.serialized member
  obtain ⟨v, encoded, -⟩ := json.frameText_eq_some.mp serialized
  obtain ⟨-, windowEnd, -, -, ended, -, -⟩ := encodeFrame_eq_some encoded
  exact (encodeTime_eq_some ended).1

variable (json)

/-- After any history of runs into at most ten hour files. -/
theorem stats_newest_iff (s : History F) (reach : (gateway json).Reachable s)
    (some : s.acknowledged ≠ [])
    (ordered : s.acknowledged.Pairwise fun a b => a.windowEnd ≤ b.windowEnd)
    (few : (s.acknowledged.map frameHour).dedup.length ≤ 10) (listing : List Path)
    (lists : Lists listing s.worker.store.now) (now : SystemTime) :
    (∃ stats, computeStats json s.worker.store.now listing now = .ok stats ∧
        Newest s.acknowledged stats) ↔
      (∀ g ∈ s.acknowledged, Written g) ∧ NumberTells s.acknowledged := by
  have holding := (sound_reachable reach).stored
  obtain ⟨hours, known⟩ := exists_hours holding lists
  rw [← numberTells_iff known some (fun g member => windowEnd_nonneg holding member) ordered]
  constructor
  · rintro ⟨stats, answer, newest⟩
    obtain ⟨written, rfl⟩ := (computeStats_eq_ok holding known few now stats).mp answer
    exact ⟨written, newest.greatest, newest.named⟩
  · rintro ⟨written, greatest, named⟩
    exact ⟨_, (computeStats_eq_ok holding known few now _).mpr ⟨written, rfl⟩, greatest, named⟩

/-- Two windows of one run, in two hours. -/
theorem stats_newest_second :
    ∃ (s : History Extended) (listing : List Path) (stats : WebStats),
      s.acknowledged = [quietWindow 0 1, quietWindow 1 3601] ∧
      computeStats exactJson s.worker.store.now listing 0 = .ok stats ∧
      Newest [quietWindow 0 1, quietWindow 1 3601] stats := by
  obtain ⟨t, reach, both⟩ := exists_pair 1 3601
  have leads : Leads [quietWindow 0 1, quietWindow 1 3601] (quietWindow 1 3601) := by
    constructor <;> decide
  obtain ⟨stats, answer, newest⟩ := (stats_newest_iff exactJson t reach (by rw [both]; decide)
    (by rw [both]; decide) (by rw [both]; decide) _ (lists_hours (sound_reachable reach).stored) 0).mpr
      (by rw [both]; exact ⟨pair_written 1 3601, Or.inr ⟨_, by simp, leads⟩⟩)
  rw [both] at newest
  exact ⟨t, _, stats, both, answer, newest⟩

/-- The first window there is: the end of the newest window is the epoch. -/
theorem first_window_missed :
    ∃ (s : History Extended) (listing : List Path), (gateway exactJson).Reachable s ∧
      Lists listing s.worker.store.now ∧ s.acknowledged = [quietWindow 0 1] ∧
      computeStats exactJson s.worker.store.now listing 7 = .ok ⟨1, 0, 0, 0, 0, 7⟩ ∧
      ¬Newest [quietWindow 0 1] ⟨1, 0, 0, 0, 0, 7⟩ := by
  obtain ⟨s, reach, -, -, acknowledged⟩ :=
    exists_quiet (System.ReachesUnder.refl (gateway exactJson).init) rfl 1
  change s.acknowledged = [quietWindow 0 1] at acknowledged
  have stored := (sound_reachable reach).stored
  have lists := lists_hours stored
  obtain ⟨hours, known⟩ := exists_hours stored lists
  have few : (s.acknowledged.map frameHour).dedup.length ≤ 10 := by
    rw [acknowledged]
    decide
  have alone : grouped frameHour s.acknowledged hours = [quietWindow 0 1] := by
    have perm := known.perm
    rw [acknowledged] at perm ⊢
    exact List.perm_singleton.mp perm
  refine ⟨s, _, reach, lists, acknowledged, (computeStats_eq_ok stored known few 7 _).mpr ?_, ?_⟩
  · rw [alone, acknowledged]
    refine ⟨List.forall_mem_singleton.mpr (quietWindow_written 0 1), ?_⟩
    have sensors : sensorsOf [quietWindow 0 1] = ∅ := by
      simp [sensorsOf, quietWindow]
    rw [sensors]
    rfl
  · intro newest
    exact absurd (newest.greatest _ (List.mem_singleton_self _)) (by decide)

end SensorGateway.Storage.NewestWindow

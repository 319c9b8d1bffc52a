import Mathlib.Data.Set.List
import SensorGateway.Lib.LastItems
import SensorGateway.Storage.Restarts

/-! The query of the web server for the latest frames. It reads the hour files from the last name to the
first and every file from its first line, so what it takes to be the latest frames depends on the names
of the hours and on how many frames they have. -/

namespace SensorGateway.Storage.LatestFrames
open SensorGateway.Lib.ExtendedRat SensorGateway.Lib.Grouping SensorGateway.Lib.LastItems
open SensorGateway.Lib.Transition SensorGateway.Types
open Disk Persist Encoding Texts LogFile Collection WindowLookup Restarts
variable {F : Type}

/-- The hours that have a file, as the files are looked at. -/
structure Hours (stored : List (AggregatedFrame F)) (files : List Path) (hours : List Int) : Prop where
  files : files = hours.map hourPath
  ordered : hours.Pairwise Before
  covered : ∀ hour, hour ∈ hours ↔ ∃ frame ∈ stored, frameHour frame = hour

/-- As many frames are in the files that are looked at before the one of the hour. -/
def framesBefore (stored : List (AggregatedFrame F)) (hour : Int) : Nat :=
  stored.countP fun g => decide (Before (frameHour g) hour)

/-- As many frames are in the hours after the hour. -/
def framesAfter (stored : List (AggregatedFrame F)) (hour : Int) : Nat :=
  stored.countP fun g => hour < frameHour g

/-- The file of the hour is opened. -/
def Reached (stored : List (AggregatedFrame F)) (limit : Nat) (hour : Int) : Prop :=
  framesBefore stored hour < limit

section
variable {stored : List (AggregatedFrame F)} {files : List Path} {hours : List Int}

theorem Hours.distinct (known : Hours stored files hours) : hours.Nodup :=
  nodup_of_asymmetric (fun _ _ => Before.asymm) known.ordered

/-- The hours have all the frames. -/
theorem Hours.perm (known : Hours stored files hours) : (grouped frameHour stored hours).Perm stored := by
  refine (grouped_perm known.distinct).trans (.of_eq ?_)
  exact List.filter_eq_self.mpr fun frame member =>
    decide_eq_true ((known.covered _).mpr ⟨frame, member, rfl⟩)

theorem Hours.place (known : Hours stored files hours) {frame : AggregatedFrame F}
    (member : frame ∈ stored) : ∃ before after, hours = before ++ frameHour frame :: after :=
  List.append_of_mem ((known.covered _).mpr ⟨frame, member, rfl⟩)

theorem Hours.framesBefore_eq {before after : List Int} {hour : Int}
    (known : Hours stored files hours) (split : hours = before ++ hour :: after) :
    (grouped frameHour stored before).length = framesBefore stored hour := by
  have ordered : (before ++ hour :: after).Pairwise Before := split ▸ known.ordered
  refine length_grouped_before (fun _ _ => Before.asymm) ordered ?_
  intro g member
  rw [← split]
  exact (known.covered _).mpr ⟨g, member, rfl⟩

/-- The hours behind an hour are those that are looked at after it. -/
theorem Hours.mem_after {before after : List Int} {hour : Int} (known : Hours stored files hours)
    (split : hours = before ++ hour :: after) (later : Int) :
    later ∈ after ↔ ∃ g ∈ stored, frameHour g = later ∧ Before hour later := by
  have ordered := known.ordered
  rw [split, List.pairwise_append, List.pairwise_cons] at ordered
  obtain ⟨-, ⟨behind, -⟩, across⟩ := ordered
  constructor
  · intro member
    obtain ⟨g, there, named⟩ := (known.covered later).mp (by rw [split]; simp [member])
    exact ⟨g, there, named, behind later member⟩
  · rintro ⟨g, there, rfl, less⟩
    have inside := (known.covered _).mpr ⟨g, there, rfl⟩
    rw [split, List.mem_append, List.mem_cons] at inside
    rcases inside with front | same | member
    · exact absurd less (across _ front _ List.mem_cons_self).asymm
    · rw [same] at less
      exact absurd less less.asymm
    · exact member

theorem Hours.ne_nil (known : Hours stored files hours) {hour : Int}
    (member : hour ∈ hours) : group frameHour stored hour ≠ [] := by
  obtain ⟨frame, there, named⟩ := (known.covered hour).mp member
  exact List.ne_nil_of_mem (mem_group.mpr ⟨there, named⟩)

/-- Only the first hour has no frames in front of it. -/
theorem Hours.framesBefore_eq_zero {first : Int} {rest : List Int}
    (known : Hours stored files (first :: rest)) {frame : AggregatedFrame F} (member : frame ∈ stored) :
    framesBefore stored (frameHour frame) = 0 ↔ frameHour frame = first := by
  obtain ⟨before, after, split⟩ := known.place member
  rw [← known.framesBefore_eq split, List.length_eq_zero_iff]
  cases before with
  | nil =>
    cases split
    exact iff_of_true rfl rfl
  | cons other before =>
    have apart := known.distinct
    rw [split] at apart
    cases split
    refine iff_of_false ?_ fun same => (List.nodup_cons.mp apart).1 ?_
    · exact fun none => known.ne_nil List.mem_cons_self (List.append_eq_nil_iff.mp none).1
    · rw [← same]
      exact List.mem_append_right _ List.mem_cons_self

/-- The first frame of the result is the first one of the first file. -/
theorem Hours.head_iff (known : Hours stored files hours) {target : List (AggregatedFrame F)}
    (sizes : SameSizes frameHour stored target) (limit : Nat) :
    ((grouped frameHour stored hours).take limit).head? = (target.reverse.take limit).head? ↔
      ∀ frame ∈ stored, Reached stored limit (frameHour frame) →
        framesBefore stored (frameHour frame) = 0 →
          (ofHour stored (frameHour frame)).head? = target.getLast? := by
  rw [List.head?_take, List.head?_take, List.head?_reverse]
  by_cases none : limit = 0
  · subst none
    simp [Reached]
  rw [if_neg none, if_neg none]
  cases hours with
  | nil =>
    have empty : stored = [] := List.eq_nil_iff_forall_not_mem.mpr fun frame member =>
      List.not_mem_nil ((known.covered _).mpr ⟨frame, member, rfl⟩)
    have nothing : target = [] := List.eq_nil_iff_forall_not_mem.mpr fun frame member =>
      List.not_mem_nil (sizes.known known.covered frame member)
    subst empty nothing
    simp [grouped]
  | cons first rest =>
    have head : (grouped frameHour stored (first :: rest)).head? = (ofHour stored first).head? := by
      have some := known.ne_nil (List.mem_cons_self (a := first))
      rw [grouped, List.flatMap_cons, List.head?_append_of_ne_nil _ some]
      rfl
    rw [head]
    constructor
    · intro same frame member _ front
      rw [(known.framesBefore_eq_zero member).mp front]
      exact same
    · intro all
      obtain ⟨frame, member, rfl⟩ := (known.covered first).mp List.mem_cons_self
      have front := (known.framesBefore_eq_zero member).mpr rfl
      exact all frame member (by rw [Reached, front]; omega) front

/-- Changes to the frames that keep their hours. -/
theorem Hours.map {f : AggregatedFrame F → AggregatedFrame F}
    (kept : ∀ frame, frameHour (f frame) = frameHour frame) (known : Hours stored files hours) :
    Hours (stored.map f) files hours where
  files := known.files
  ordered := known.ordered
  covered := by
    intro hour
    rw [known.covered]
    constructor
    · rintro ⟨frame, member, rfl⟩
      exact ⟨f frame, List.mem_map_of_mem member, kept frame⟩
    · rintro ⟨_, member, rfl⟩
      obtain ⟨frame, there, rfl⟩ := List.mem_map.mp member
      exact ⟨frame, there, (kept frame).symm⟩

theorem framesBefore_map {f : AggregatedFrame F → AggregatedFrame F}
    (kept : ∀ frame, frameHour (f frame) = frameHour frame) (stored : List (AggregatedFrame F))
    (hour : Int) : framesBefore (stored.map f) hour = framesBefore stored hour := by
  rw [framesBefore, List.countP_map, framesBefore]
  congr 1
  funext frame
  rw [Function.comp_apply, kept]

theorem unixSeconds_getD (t : SystemTime) : (unixSeconds t).getD 0 = t.toNat / 1000000000 := by
  unfold unixSeconds
  split
  · next early => rw [Int.toNat_of_nonpos (le_of_lt early), Option.getD_none]
  · rfl

theorem frameHour_le {a b : AggregatedFrame F} (ordered : a.windowEnd ≤ b.windowEnd) :
    frameHour a ≤ frameHour b := by
  have seconds := Nat.div_le_div_right (c := 1000000000) (Int.toNat_le_toNat ordered)
  rw [← unixSeconds_getD, ← unixSeconds_getD] at seconds
  exact Int.ediv_le_ediv (by decide) (Int.ofNat_le.mpr seconds)

end

variable [F64 F] (json : SerdeJson F)

/-! `main.rs`. -/

/-- The loop of `load_latest_frames`. -/
def loadFrom (o : Observation) (limit : Nat) :
    List Path → List (AggregatedFrame F) → Except WebAppError (List (AggregatedFrame F))
  | [], allFrames => .ok allFrames
  | file :: rest, allFrames =>
    if limit ≤ allFrames.length then .ok allFrames
    else
      match readJsonlFile json o file with
      | .error e => .error e
      | .ok frames =>
        let allFrames := allFrames ++ frames
        loadFrom o limit rest (if limit < allFrames.length then allFrames.take limit else allFrames)

def loadLatestFrames (o : Observation) (listing : List Path) (limit : Nat) :
    Except WebAppError (List (AggregatedFrame F)) :=
  loadFrom json o limit (getDataFiles listing) []

variable {json} {o : Observation} {stored : List (AggregatedFrame F)} {listing files : List Path}

theorem exists_hours (holding : Stored json.serde o stored) (lists : Lists listing o) :
    ∃ hours, Hours stored (getDataFiles listing) hours := by
  have scan := scan_getDataFiles holding lists
  have mapped : getDataFiles listing ∈ Set.range (List.map hourPath) := by
    rw [Set.range_list_map]
    intro file member
    obtain ⟨hour, same⟩ := scan.hour file member
    exact ⟨hour, same.symm⟩
  obtain ⟨hours, same⟩ := mapped
  refine ⟨hours, same.symm, ?_, ?_⟩
  · have ordered := scan.ordered
    rw [← same, List.pairwise_map] at ordered
    exact ordered
  · intro hour
    have there := scan.mem hour
    rw [← same, List.mem_map_of_injective fun _ _ => HourlyLog.hourPath_inj] at there
    rw [there, holding.isSome_iff rfl]
    refine exists_congr fun frame => and_congr_right fun _ => ?_
    exact ⟨fun path => (HourlyLog.hourPath_inj path).symm, fun equal => congrArg hourPath equal.symm⟩

theorem Hours.there {hours : List Int} (known : Hours stored files hours)
    (holding : Stored json.serde o stored) : ∀ hour ∈ hours, (o.text (hourPath hour)).isSome = true := by
  intro hour member
  obtain ⟨frame, inside, rfl⟩ := (known.covered hour).mp member
  exact holding.isSome inside

/-- Every file that the loop opens can be read, when it starts with `count` frames. -/
def Readable (stored : List (AggregatedFrame F)) (hours : List Int) (limit count : Nat) : Prop :=
  ∀ before hour after, hours = before ++ hour :: after →
    count + (grouped frameHour stored before).length < limit → ∀ g ∈ ofHour stored hour, Written g

theorem readable_cons {hour : Int} {rest : List Int} {limit count : Nat} (open_ : count < limit) :
    Readable stored (hour :: rest) limit count ↔
      (∀ g ∈ ofHour stored hour, Written g) ∧
        Readable stored rest limit (min limit (count + (ofHour stored hour).length)) := by
  have length (before : List Int) : (grouped frameHour stored (hour :: before)).length =
      (ofHour stored hour).length + (grouped frameHour stored before).length :=
    List.length_append
  rw [Readable, forall_split_cons]
  refine and_congr ?_ ?_
  · exact ⟨fun first => first open_, fun all _ => all⟩
  · refine forall_congr' fun before => forall_congr' fun other => forall_congr' fun after =>
      imp_congr_right fun _ => imp_congr_left ?_
    rw [length]
    omega

theorem truncate_eq {A : Type} (frames : List A) (limit : Nat) :
    (if limit < frames.length then frames.take limit else frames) = frames.take limit := by
  split
  · rfl
  · next fits => rw [List.take_of_length_le (Nat.le_of_not_lt fits)]

theorem take_take_append {A : Type} (front rest : List A) (n : Nat) :
    (front.take n ++ rest).take n = (front ++ rest).take n := by
  rw [List.take_append, List.take_append, List.take_take, List.length_take]
  congr 2
  · exact Nat.min_self n
  · omega

theorem loadFrom_eq_ok (holding : Stored json.serde o stored) {limit : Nat} {hours : List Int}
    (there : ∀ hour ∈ hours, (o.text (hourPath hour)).isSome = true)
    {allFrames : List (AggregatedFrame F)} (small : allFrames.length ≤ limit)
    (found : List (AggregatedFrame F)) :
    loadFrom json o limit (hours.map hourPath) allFrames = .ok found ↔
      Readable stored hours limit allFrames.length ∧
        found = (allFrames ++ (grouped frameHour stored hours).map json.rereadFrame).take limit := by
  induction hours generalizing allFrames with
  | nil =>
    have none : Readable stored [] limit allFrames.length := by
      intro before hour after split
      cases before <;> cases split
    rw [List.map_nil, loadFrom, Except.ok.injEq, and_iff_right none, grouped, List.flatMap_nil,
      List.map_nil, List.append_nil, List.take_of_length_le small]
    exact eq_comm
  | cons hour rest ih =>
    obtain ⟨here, others⟩ := List.forall_mem_cons.mp there
    rw [List.map_cons, loadFrom]
    by_cases full : limit ≤ allFrames.length
    · have closed : Readable stored (hour :: rest) limit allFrames.length :=
        fun before other after split reached => absurd reached (by omega)
      rw [if_pos full, Except.ok.injEq, and_iff_right closed, List.take_append_of_le_length full,
        List.take_of_length_le small]
      exact eq_comm
    · have groups : (grouped frameHour stored (hour :: rest)).map json.rereadFrame =
          (ofHour stored hour).map json.rereadFrame ++
            (grouped frameHour stored rest).map json.rereadFrame := List.map_append
      rw [if_neg full, readable_cons (Nat.lt_of_not_le full), groups]
      rcases readJsonlFile_cases holding here with ⟨all, read⟩ | ⟨lost, e, read⟩
      · rw [read]
        simp only [truncate_eq]
        rw [ih others (by rw [List.length_take]; omega), List.length_take, List.length_append,
          List.length_map, and_iff_right all, take_take_append, List.append_assoc]
      · rw [read]
        exact ⟨fun bad => (by cases bad), fun good => absurd good.1.1 lost⟩

variable (json) in
theorem frameHour_reread (frame : AggregatedFrame F) :
    frameHour (json.rereadFrame frame) = frameHour frame := rfl

/-- The result, from the hours in the order of their files. -/
theorem loadLatestFrames_eq_ok (holding : Stored json.serde o stored) {hours : List Int}
    (known : Hours stored (getDataFiles listing) hours) {limit : Nat}
    {found : List (AggregatedFrame F)} :
    loadLatestFrames json o listing limit = .ok found ↔
      Readable stored hours limit 0 ∧
        found = (grouped frameHour (stored.map json.rereadFrame) hours).take limit := by
  rw [loadLatestFrames, known.files, loadFrom_eq_ok holding (known.there holding) (Nat.zero_le _),
    List.nil_append, List.length_nil, grouped_map (frameHour_reread json)]

/-! When the result is what the query is named for: the frames stored last, just as they were or as they
are read back. -/

variable (json) in
/-- Of the hours whose files are opened: JSON has all numbers, the file names are in the order of the
hours, and the frames that are taken, as they are read back, are the last ones that are wanted of the hour,
read backwards. -/
structure LastFirst (stored wanted : List (AggregatedFrame F)) (limit : Nat) : Prop where
  readable : ∀ frame ∈ stored, Reached stored limit (frameHour frame) → Written frame
  later : ∀ frame ∈ stored, Reached stored limit (frameHour frame) →
    ∀ g ∈ stored, Before (frameHour frame) (frameHour g) → frameHour g < frameHour frame
  mirrored : ∀ frame ∈ stored, Reached stored limit (frameHour frame) →
    ((ofHour stored (frameHour frame)).map json.rereadFrame).take
        (limit - framesBefore stored (frameHour frame)) =
      (ofHour wanted (frameHour frame)).reverse.take (limit - framesBefore stored (frameHour frame))

variable (json) in
/-- From the front of the files as many frames of every hour are taken, and as they are read back the same
ones, as from the end of what is wanted; and the first of them is the last that is wanted. -/
structure LastTaken (stored wanted : List (AggregatedFrame F)) (limit : Nat) : Prop where
  readable : ∀ frame ∈ stored, Reached stored limit (frameHour frame) → Written frame
  newest : ∀ frame ∈ stored, Reached stored limit (frameHour frame) →
    framesBefore stored (frameHour frame) = 0 →
      ((ofHour stored (frameHour frame)).map json.rereadFrame).head? = wanted.getLast?
  taken : ∀ frame ∈ stored,
    (((ofHour stored (frameHour frame)).map json.rereadFrame).take
        (limit - framesBefore stored (frameHour frame))).Perm
      ((ofHour wanted (frameHour frame)).reverse.take (limit - framesAfter wanted (frameHour frame)))

theorem Hours.readable_iff {hours : List Int} (known : Hours stored files hours) (limit : Nat) :
    Readable stored hours limit 0 ↔
      ∀ frame ∈ stored, Reached stored limit (frameHour frame) → Written frame := by
  constructor
  · intro readable frame member reached
    obtain ⟨before, after, split⟩ := known.place member
    rw [Reached, ← known.framesBefore_eq split] at reached
    refine readable before _ after split ?_ frame (mem_ofHour.mpr ⟨member, rfl⟩)
    rwa [Nat.zero_add]
  · intro written before hour after split reached g inside
    obtain ⟨member, rfl⟩ := mem_ofHour.mp inside
    rw [Nat.zero_add, known.framesBefore_eq split] at reached
    exact written g member reached

theorem ofHour_reread (stored : List (AggregatedFrame F)) (hour : Int) :
    ofHour (stored.map json.rereadFrame) hour = (ofHour stored hour).map json.rereadFrame :=
  group_map (frameHour_reread json) stored hour

theorem Hours.lastFirst_iff {hours : List Int} (known : Hours stored files hours)
    (wanted : List (AggregatedFrame F)) (limit : Nat) :
    (Readable stored hours limit 0 ∧
      ∀ before hour after, hours = before ++ hour :: after →
        Backwards frameHour (stored.map json.rereadFrame) wanted limit before hour after) ↔
      LastFirst json stored wanted limit := by
  have front {before after : List Int} {hour : Int} (split : hours = before ++ hour :: after) :
      (grouped frameHour (stored.map json.rereadFrame) before).length = framesBefore stored hour := by
    rw [grouped_map (frameHour_reread json), List.length_map, known.framesBefore_eq split]
  rw [known.readable_iff]
  constructor
  · rintro ⟨written, backwards⟩
    refine ⟨written, ?_, ?_⟩
    · intro frame member reached g there less
      obtain ⟨before, after, split⟩ := known.place member
      rw [Reached, ← front split] at reached
      exact (backwards before _ after split reached).1 _
        ((known.mem_after split _).mpr ⟨g, there, rfl, less⟩)
    · intro frame member reached
      obtain ⟨before, after, split⟩ := known.place member
      rw [Reached, ← front split] at reached
      rw [← front split, ← ofHour_reread]
      exact (backwards before _ after split reached).2
  · intro lastFirst
    refine ⟨lastFirst.readable, ?_⟩
    intro before hour after split reached
    obtain ⟨frame, member, rfl⟩ := (known.covered hour).mp (by rw [split]; simp)
    rw [front split] at reached ⊢
    have mirrored := lastFirst.mirrored frame member reached
    rw [← ofHour_reread] at mirrored
    refine ⟨?_, mirrored⟩
    intro later behind
    obtain ⟨g, there, rfl, less⟩ := (known.mem_after split later).mp behind
    exact lastFirst.later frame member reached g there less

/-- Where no two frames end at the same time, every hour that is reached has one frame only. -/
theorem LastFirst.single {limit : Nat} (lastFirst : LastFirst json stored stored limit)
    (distinct : (stored.map AggregatedFrame.windowEnd).Nodup) {frame : AggregatedFrame F}
    (member : frame ∈ stored) (reached : Reached stored limit (frameHour frame)) :
    ofHour stored (frameHour frame) = [frame] := by
  have mirrored := congrArg List.head? (lastFirst.mirrored frame member reached)
  have some : limit - framesBefore stored (frameHour frame) ≠ 0 := Nat.sub_ne_zero_of_lt reached
  rw [List.head?_take, List.head?_take, if_neg some, if_neg some, List.head?_reverse] at mirrored
  have inside : frame ∈ ofHour stored (frameHour frame) := mem_ofHour.mpr ⟨member, rfl⟩
  have apart : ((ofHour stored (frameHour frame)).map AggregatedFrame.windowEnd).Nodup :=
    distinct.sublist (List.filter_sublist.map _)
  generalize ofHour stored (frameHour frame) = group at mirrored inside apart
  cases group with
  | nil => cases inside
  | cons first rest =>
    rcases List.eq_nil_or_concat rest with rfl | ⟨middle, last, rfl⟩
    · rw [List.mem_singleton.mp inside]
    · rw [List.concat_eq_append] at mirrored apart
      rw [← List.cons_append, List.getLast?_concat, List.map_append, List.map_cons, List.cons_append,
        List.head?_cons, Option.some.injEq] at mirrored
      have ends : first.windowEnd = last.windowEnd := by
        rw [← mirrored]
        rfl
      rw [List.map_cons, List.map_append, List.nodup_cons, ends] at apart
      exact absurd (List.mem_append_right _ (List.mem_singleton_self _)) apart.1

variable (json)

/-- For every directory that storage has written, whatever the frames and the order of the listing: when
the result is the log read backwards, and when it is the last frames in any order, the newest first. The
frames that are wanted are the stored ones, or the stored ones as they are read back. -/
theorem latest_frames_iff (o : Observation) (stored : List (AggregatedFrame F))
    (holding : Stored json.serde o stored)
    (ordered : stored.Pairwise fun a b => a.windowEnd ≤ b.windowEnd) (listing : List Path)
    (lists : Lists listing o) (limit : Nat) (wanted : List (AggregatedFrame F))
    (either : wanted = stored ∨ wanted = stored.map json.rereadFrame) :
    (loadLatestFrames json o listing limit = .ok (wanted.reverse.take limit) ↔
        LastFirst json stored wanted limit) ∧
      ((∃ found, loadLatestFrames json o listing limit = .ok found ∧
          found.Perm (wanted.reverse.take limit) ∧
          found.head? = (wanted.reverse.take limit).head?) ↔ LastTaken json stored wanted limit) := by
  obtain ⟨hours, known⟩ := exists_hours holding lists
  have hourly : wanted.Pairwise fun a b => frameHour a ≤ frameHour b := by
    rcases either with rfl | rfl
    · exact ordered.imp frameHour_le
    · exact List.pairwise_map.mpr (ordered.imp frameHour_le)
  have sizes : SameSizes frameHour (stored.map json.rereadFrame) wanted := by
    intro hour
    rcases either with rfl | rfl
    · rw [group_map (frameHour_reread json), List.length_map]
    · rfl
  have again := known.map (frameHour_reread json)
  constructor
  · rw [loadLatestFrames_eq_ok holding known, eq_comm (a := wanted.reverse.take limit),
      take_grouped_iff hourly known.distinct again.covered sizes]
    exact known.lastFirst_iff wanted limit
  · have perm := perm_take_grouped_iff (fun _ _ => Before.asymm) known.ordered hourly again.covered sizes
      limit
    have front (hour : Int) : framesBefore (stored.map json.rereadFrame) hour = framesBefore stored hour :=
      framesBefore_map (frameHour_reread json) stored hour
    have newest := again.head_iff sizes limit
    simp only [List.forall_mem_map, Reached, front, ofHour_reread, frameHour_reread] at newest
    constructor
    · rintro ⟨found, answer, same, first⟩
      obtain ⟨readable, rfl⟩ := (loadLatestFrames_eq_ok holding known).mp answer
      refine ⟨(known.readable_iff limit).mp readable, newest.mp first, ?_⟩
      intro frame member
      rw [← front, ← ofHour_reread]
      exact perm.mp same _ ((known.covered _).mpr ⟨frame, member, rfl⟩)
    · intro last
      refine ⟨_, (loadLatestFrames_eq_ok holding known).mpr
        ⟨(known.readable_iff limit).mpr last.readable, rfl⟩, perm.mpr ?_, newest.mpr last.newest⟩
      intro hour member
      obtain ⟨frame, there, rfl⟩ := (known.covered hour).mp member
      have taken := last.taken frame there
      rw [← front, ← ofHour_reread] at taken
      exact taken

/-- Two windows of one run, in two hours. -/
theorem latest_frames_hours :
    ∃ (s : History Extended) (listing : List Path), (gateway exactJson).Reachable s ∧
      s.acknowledged = [quietWindow 0 1, quietWindow 1 3601] ∧
      loadLatestFrames exactJson s.worker.store.now listing 2 =
        .ok [quietWindow 1 3601, quietWindow 0 1] := by
  obtain ⟨t, reach, both⟩ := exists_pair 1 3601
  have stored := (sound_reachable reach).stored
  rw [both] at stored
  refine ⟨t, _, reach, both, (latest_frames_iff exactJson _ [quietWindow 0 1, quietWindow 1 3601]
    stored (by decide) _ (lists_hours stored) 2 _ (Or.inl rfl)).1.mpr ?_⟩
  constructor
  · exact fun frame member _ => pair_written 1 3601 frame member
  · intro frame member _ g there less
    rcases List.mem_cons.mp member with rfl | member
    · rcases List.mem_cons.mp there with rfl | there
      · exact absurd less less.asymm
      · rw [List.mem_singleton.mp there] at less
        exact absurd less (by decide)
    · rw [List.mem_singleton.mp member] at less ⊢
      rcases List.mem_cons.mp there with rfl | there
      · decide
      · rw [List.mem_singleton.mp there] at less
        exact absurd less less.asymm
  · intro frame member _
    rcases List.mem_cons.mp member with rfl | member
    · rfl
    · rw [List.mem_singleton.mp member]
      rfl

/-- Two windows of one run, in one hour: the first one is returned as the latest. -/
theorem first_window_returned :
    ∃ (s : History Extended) (listing : List Path), (gateway exactJson).Reachable s ∧
      Lists listing s.worker.store.now ∧
      s.acknowledged = [quietWindow 0 1, quietWindow 1 2] ∧
      (s.acknowledged.Pairwise fun a b => a.windowEnd ≤ b.windowEnd) ∧
      loadLatestFrames exactJson s.worker.store.now listing 1 = .ok [quietWindow 0 1] ∧
      s.acknowledged.reverse.take 1 = [quietWindow 1 2] ∧ quietWindow 0 1 ≠ quietWindow 1 2 := by
  obtain ⟨t, reach, both⟩ := exists_pair 1 2
  have stored := (sound_reachable reach).stored
  have lists := lists_hours stored
  obtain ⟨hours, known⟩ := exists_hours stored lists
  have written : ∀ g ∈ t.acknowledged, Written g := by
    rw [both]
    exact pair_written 1 2
  have only : hours = [0] := by
    apply List.perm_singleton.mp
    rw [List.perm_ext_iff_of_nodup known.distinct (List.nodup_singleton 0)]
    intro hour
    rw [known.covered, both, List.exists_mem_cons_iff, List.exists_mem_cons_iff, List.mem_singleton]
    have hours : frameHour (quietWindow 0 1) = 0 ∧ frameHour (quietWindow 1 2) = 0 := by decide
    rw [hours.1, hours.2]
    simp [eq_comm]
  refine ⟨t, _, reach, lists, both, ?_, (loadLatestFrames_eq_ok stored known).mpr ⟨?_, ?_⟩, ?_, ?_⟩
  · rw [both]
    decide
  · intro before hour after _ _ g inside
    exact written g (mem_ofHour.mp inside).1
  · rw [only, both]
    rfl
  · rw [both]
    rfl
  · intro same
    exact absurd (congrArg AggregatedFrame.windowId same) (by decide)

end SensorGateway.Storage.LatestFrames

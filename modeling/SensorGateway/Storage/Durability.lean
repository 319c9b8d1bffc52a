import SensorGateway.Storage.Acknowledged

/-! What `sync_on_shutdown` leaves unsynced. Every publication leaves a file that has not been synced,
and the worker syncs once, at its end: the runtime artifacts and the one hour file that its writer
is at by then. -/

namespace SensorGateway.Storage.Durability
open SensorGateway.Lib.Fallible SensorGateway.Lib.Lines SensorGateway.Lib.Transition
open SensorGateway.Types
open Disk Persist HourlyLog Handle
open Persist.HourlyWriter (push)

/-! The runtime artifacts and the hour files as they are published. -/

/-- No published file has been synced since. -/
def Unsynced (s : Store) : Prop :=
  ∀ call ∈ s.renamed, call.path.Lasting ∧ ∃ file, s.files call.path = some file ∧ file.dirty = true

/-- The paths published so far, in the order of the renames. -/
def published (s : Store) : List Path := s.renamed.map Publication.path

/-- From `s` to `t` the files of the given paths have been published, and nothing has been synced. -/
structure Writes (s t : Store) (paths : List Path) : Prop where
  hourly : t.hourly = s.hourly
  published : published t = published s ++ paths
  unsynced : Unsynced s → Unsynced t

theorem Writes.trans {s t u : Store} {first second : List Path} (before : Writes s t first)
    (after : Writes t u second) : Writes s u (first ++ second) where
  hourly := after.hourly.trans before.hourly
  published := by rw [after.published, before.published, List.append_assoc]
  unsynced := fun unsynced => after.unsynced (before.unsynced unsynced)

theorem Unsynced.put {s : Store} (unsynced : Unsynced s) {path : Path} (temporary : ¬path.Lasting)
    (file : File) : Unsynced (s.put path file) := by
  intro call member
  obtain ⟨lasting, held⟩ := unsynced call member
  have apart : call.path ≠ path := fun same => temporary (same ▸ lasting)
  refine ⟨lasting, ?_⟩
  simp only [Store.put, Function.update_of_ne apart]
  exact held

theorem Unsynced.move {s : Store} (unsynced : Unsynced s) {source target : Path}
    (temporary : ¬source.Lasting) (lasting : target.Lasting) (text : Text) :
    Unsynced (s.move source target ⟨text, true⟩) := by
  have differ : ∀ path : Path, path.Lasting → path ≠ source := fun path stays same =>
    temporary (same ▸ stays)
  intro call member
  by_cases there : call.path = target
  · refine ⟨there ▸ lasting, ⟨text, true⟩, ?_, rfl⟩
    simp only [Store.move, there, Function.update_of_ne (differ target lasting), Function.update_self]
  · have old : call ∈ s.renamed := by
      obtain old | new := List.mem_append.mp member
      · exact old
      · exact absurd (congrArg Publication.path (List.mem_singleton.mp new)) there
    obtain ⟨stays, held⟩ := unsynced call old
    refine ⟨stays, ?_⟩
    simp only [Store.move, Function.update_of_ne (differ _ stays), Function.update_of_ne there]
    exact held

/-- One call of `atomic_write_bytes`. What it renames into place is a file just written. -/
theorem atomicWriteBytes_writes (s : Store) {path : Path} (lasting : path.Lasting) (bytes : Text) :
    Ensures (atomicWriteBytes path bytes .none) s (fun _ t => Writes s t [path]) (fun _ _ => False) := by
  have temporary := not_lasting_tmp path
  let begun := s.begin ⟨path, bytes⟩
  let created := begun.put (path.withExtension .tmp) ⟨[], true⟩
  let written := created.put (path.withExtension .tmp) ⟨[] ++ bytes, true⟩
  have there : created.files (path.withExtension .tmp) = some ⟨[], true⟩ := Function.update_self ..
  have complete : written.files (path.withExtension .tmp) = some ⟨[] ++ bytes, true⟩ :=
    Function.update_self ..
  have creates : Ensures (create (path.withExtension .tmp) .ok) begun (fun _ t => t = created)
      (fun _ _ => False) := Ensures.modifies rfl
  have writes : Ensures (writeAll (path.withExtension .tmp) bytes .ok) created
      (fun _ t => t = written) (fun _ _ => False) := by
    unfold writeAll
    apply Ensures.bind
    apply Ensures.gets
    simp only [there]
    exact Ensures.sets rfl
  have renames : Ensures (rename (path.withExtension .tmp) path .ok) written
      (fun _ t => t = written.move (path.withExtension .tmp) path ⟨[] ++ bytes, true⟩)
      (fun _ _ => False) := by
    unfold rename
    apply Ensures.bind
    apply Ensures.gets
    simp only [complete]
    exact Ensures.sets rfl
  have writes_path : Writes s (written.move (path.withExtension .tmp) path ⟨[] ++ bytes, true⟩) [path] := by
    refine ⟨rfl, ?_, fun unsynced => ?_⟩
    · show List.map _ (_ ++ [_]) = _
      rw [List.map_append]
      rfl
    · have unsynced : Unsynced begun := unsynced
      exact ((unsynced.put temporary _).put temporary _).move temporary lasting _
  unfold atomicWriteBytes
  apply Ensures.bind
  apply Ensures.modifies
  refine Ensures.seq creates ?_ (fun _ _ => False.elim)
  rintro _ _ rfl
  refine Ensures.seq writes ?_ (fun _ _ => False.elim)
  rintro _ _ rfl
  apply Ensures.bind
  apply Ensures.pure
  refine renames.mono ?_ (fun _ _ => id)
  rintro _ _ rfl
  exact writes_path

theorem atomicWriteJson_writes (s : Store) {path : Path} (lasting : path.Lasting)
    (serialized : Option Text) :
    Ensures (atomicWriteJson path serialized .none) s (fun _ t => Writes s t [path])
      (fun _ _ => False) :=
  atomicWriteBytes_writes s lasting _

variable {F Value : Type}

/-- The runtime artifacts that one request publishes. -/
def artifactPaths (statsSnapshot : Option Value) : List Path :=
  [latestSnapshotPath] ++
    (if statsSnapshot.isSome then [statsSnapshotPath, runtimeSnapshotPath] else []) ++ [latestIndexPath]

variable (serde : Serde F Value)

theorem publishArtifacts_writes (s : Store) (frame : AggregatedFrame F) (statsSnapshot : Option Value) :
    Ensures (publishArtifacts serde frame statsSnapshot .none) s
      (fun _ t => Writes s t (artifactPaths statsSnapshot)) (fun _ _ => False) := by
  unfold publishArtifacts
  refine Ensures.seq (atomicWriteJson_writes s (by decide) _) ?_ (fun _ _ => False.elim)
  intro _ t latest
  cases statsSnapshot with
  | none =>
    apply Ensures.bind
    apply Ensures.gets
    exact (atomicWriteJson_writes t (by decide) _).mono (fun _ _ index => latest.trans index)
      (fun _ _ => id)
  | some stats =>
    simp only
    refine Ensures.seq (atomicWriteJson_writes t (by decide) _) ?_ (fun _ _ => False.elim)
    intro _ u written
    refine Ensures.seq (atomicWriteJson_writes u (by decide) _) ?_ (fun _ _ => False.elim)
    intro _ v paired
    apply Ensures.bind
    apply Ensures.gets
    exact (atomicWriteJson_writes v (by decide) _).mono
      (fun _ _ index => latest.trans (written.trans (paired.trans index))) (fun _ _ => id)

/-- The paths that one request publishes. -/
def requestPaths (frame : AggregatedFrame F) (statsSnapshot : Option Value) : List Path :=
  if (serde.frame frame).isSome then hourPath (frameHour frame) :: artifactPaths statsSnapshot else []

/-- From `s` to `t` the writer has turned to the given hour and the given paths have been published. -/
structure Serves (s t : Store) (unixHour : Int) (paths : List Path) : Prop where
  consistent : Consistent t.hourly
  current : t.hourly.currentPath = some (hourPath unixHour)
  published : published t = published s ++ paths
  unsynced : Unsynced s → Unsynced t

theorem appendJsonl_serves {s : Store} (consistent : Consistent s.hourly) (unixHour : Int)
    (frame : AggregatedFrame F) :
    Ensures (appendJsonl serde unixHour frame .ok .none) s
      (fun _ t => (serde.frame frame).isSome = true ∧ Serves s t unixHour [hourPath unixHour])
      (fun _ t => (serde.frame frame).isSome = false ∧ Serves s t unixHour []) := by
  have path := rotated_path consistent unixHour
  have turned := consistent.rotated unixHour
  unfold appendJsonl
  refine Ensures.seq (rotateIfNeeded_ensures s unixHour .ok) ?_ ?_
  · rintro _ _ ⟨-, rfl⟩
    cases serialized : serde.frame frame with
    | none =>
      apply Ensures.throw
      exact ⟨rfl, turned, path, (List.append_nil _).symm, id⟩
    | some line =>
      obtain ⟨single, -, -⟩ := serde.compact frame line serialized
      apply Ensures.bind
      apply Ensures.modifies
      unfold HourlyWriter.flush
      apply Ensures.bind
      apply Ensures.gets
      have pushedPath : (push (rotated s unixHour) line).currentPath = some (hourPath unixHour) := path
      simp only [pushedPath]
      refine (atomicWriteBytes_writes _ (lasting_hourPath unixHour) _).mono ?_ (fun _ _ => False.elim)
      intro _ t writes
      refine ⟨rfl, ?_, ?_, writes.published, writes.unsynced⟩
      · rw [writes.hourly]
        exact turned.push single
      · rw [writes.hourly]
        exact path
  · rintro _ _ ⟨failed, -⟩
    exact absurd (Or.inr rfl) failed

theorem persist_serves {s : Store} (consistent : Consistent s.hourly) (frame : AggregatedFrame F)
    (statsSnapshot : Option Value) :
    Ensures (persistRuntimeArtifacts serde frame statsSnapshot .none) s
      (fun _ t => Serves s t (frameHour frame) (requestPaths serde frame statsSnapshot))
      (fun _ t => Serves s t (frameHour frame) (requestPaths serde frame statsSnapshot)) := by
  unfold persistRuntimeArtifacts requestPaths
  refine Ensures.seq (appendJsonl_serves serde consistent (frameHour frame) frame) ?_ ?_
  · rintro _ t ⟨serializable, serves⟩
    refine (publishArtifacts_writes serde t frame statsSnapshot).mono ?_ (fun _ _ => False.elim)
    intro _ u writes
    rw [if_pos serializable]
    refine ⟨?_, ?_, ?_, fun unsynced => writes.unsynced (serves.unsynced unsynced)⟩
    · rw [writes.hourly]
      exact serves.consistent
    · rw [writes.hourly]
      exact serves.current
    · rw [writes.published, serves.published, List.append_assoc]
      rfl
  · rintro _ t ⟨refused, serves⟩
    rw [refused]
    exact serves

theorem persistWithMetrics_serves {w : Worker F Value} (consistent : Consistent w.store.hourly)
    (frame : AggregatedFrame F) (statsSnapshot : Option Value) (persistUs : Nat) :
    Serves w.store (persistWithMetrics serde ⟨frame, statsSnapshot, .none, persistUs⟩ w).2.1
      (frameHour frame) (requestPaths serde frame statsSnapshot) := by
  have ends := persist_serves serde consistent frame statsSnapshot
  unfold persistWithMetrics
  unfold Ensures at ends
  cases result : (persistRuntimeArtifacts serde frame statsSnapshot .none).run.run w.store with
  | mk answer store =>
    simp only [result] at ends ⊢
    cases answer with
    | ok done => exact ends
    | error err => exact ends

/-! The sync at the end. -/

/-- No published file has been written since it was last synced. -/
def AllSynced (s : Store) : Prop :=
  ∀ path ∈ published s, ∀ file, s.files path = some file → file.dirty = false

theorem foldl_syncFile (paths : List Path) (files : Files) (path : Path) :
    paths.foldl syncFile files path =
      if path ∈ paths then (files path).map fun file => { file with dirty := false } else files path := by
  induction paths generalizing files with
  | nil => rfl
  | cons head rest ih =>
    rw [List.foldl_cons, ih]
    by_cases here : path = head
    · subst here
      simp [syncFile, Function.comp_def]
    · simp [syncFile, here]

/-- The files that `sync_all` and `sync_snapshot_files` open. -/
def syncedPaths (s : Store) : List Path :=
  s.hourly.currentPath.toList ++
    [latestSnapshotPath, latestIndexPath, statsSnapshotPath, runtimeSnapshotPath]

/-- The sync leaves exactly those published files behind that it does not open. -/
theorem allSynced_syncAll {s : Store} (unsynced : Unsynced s) :
    AllSynced (syncAll s) ↔ ∀ path ∈ published s, path ∈ syncedPaths s := by
  have content (path : Path) : (syncAll s).files path =
      if path ∈ syncedPaths s then (s.files path).map fun file => { file with dirty := false }
      else s.files path := foldl_syncFile (syncedPaths s) s.files path
  constructor
  · intro synced path member
    by_contra missed
    obtain ⟨call, renamed, rfl⟩ := List.mem_map.mp member
    obtain ⟨-, file, there, dirty⟩ := unsynced call renamed
    have still : (syncAll s).files call.path = some file := by rw [content, if_neg missed, there]
    exact Bool.false_ne_true ((synced call.path member file still).symm.trans dirty)
  · intro opened path member file there
    rw [content, if_pos (opened path member), Option.map_eq_some_iff] at there
    obtain ⟨old, -, rfl⟩ := there
    rfl

theorem artifactPaths_synced (s : Store) (statsSnapshot : Option Value) :
    ∀ path ∈ artifactPaths statsSnapshot, path ∈ syncedPaths s := by
  intro path member
  cases statsSnapshot <;> simp [artifactPaths] at member <;> simp [syncedPaths] <;> tauto

theorem hourPath_synced (s : Store) (hour : Int) :
    hourPath hour ∈ syncedPaths s ↔ s.hourly.currentPath = some (hourPath hour) := by
  simp [syncedPaths, hourPath, latestSnapshotPath, latestIndexPath, statsSnapshotPath,
    runtimeSnapshotPath]

/-! The worker behind its handle. -/

variable {n : Nat}

/-- What holds until the worker syncs. -/
structure Open (s : State n F Value) : Prop where
  consistent : Consistent s.store.hourly
  current : s.store.hourly.currentPath =
    s.processed.getLast?.map fun entry => hourPath (frameHour entry.1.frame)
  published : published s.store =
    s.processed.flatMap fun entry => requestPaths serde entry.1.frame entry.1.statsSnapshot
  unsynced : Unsynced s.store

/-- Every request that was written was written in the hour of the last one processed. -/
def OneHour (processed : List (Ticketed F Value × Except StorageError Unit)) : Prop :=
  ∀ entry ∈ processed, (serde.frame entry.1.frame).isSome = true →
    ∀ last ∈ processed.getLast?, frameHour entry.1.frame = frameHour last.1.frame

theorem Open.sync {s : State n F Value} (before : Open serde s) :
    AllSynced (syncAll s.store) ↔ OneHour serde s.processed := by
  rw [allSynced_syncAll before.unsynced, before.published]
  constructor
  · intro opened entry member serializable last final
    have path := opened (hourPath (frameHour entry.1.frame)) (List.mem_flatMap.mpr
      ⟨entry, member, by simp [requestPaths, serializable]⟩)
    rw [hourPath_synced, before.current, Option.mem_def.mp final, Option.map_some,
      Option.some.injEq] at path
    exact (hourPath_inj path).symm
  · intro oneHour path member
    obtain ⟨entry, processed, written⟩ := List.mem_flatMap.mp member
    unfold requestPaths at written
    split at written
    · next serializable =>
      rcases List.mem_cons.mp written with rfl | artifact
      · obtain ⟨last, final⟩ : ∃ last, s.processed.getLast? = some last :=
          Option.ne_none_iff_exists'.mp (fun none => by
            rw [List.getLast?_eq_none_iff] at none
            simp [none] at processed)
        rw [hourPath_synced, before.current, final, Option.map_some,
          oneHour entry processed serializable last final]
      · exact artifactPaths_synced s.store _ path artifact
    · cases written

/-- The worker is behind its sync. -/
def hasSynced : WorkerPc F Value → Bool
  | .closing | .ended => true
  | _ => false

/-- What the sync will do, or has done. -/
structure Durable (cfg : HandleConfig F Value) (s : State n F Value) : Prop where
  before : hasSynced s.worker = false → Open cfg.serde s
  after : hasSynced s.worker = true → cfg.syncOnShutdown = true →
    (AllSynced s.store ↔ OneHour cfg.serde s.processed)

/-- A step that leaves the files and the requests processed alone. -/
theorem Durable.frame {cfg : HandleConfig F Value} {s t : State n F Value} (durable : Durable cfg s)
    (store : t.store = s.store) (processed : t.processed = s.processed)
    (worker : hasSynced t.worker = hasSynced s.worker) : Durable cfg t where
  before := by
    rw [worker]
    intro running
    obtain ⟨consistent, current, published, unsynced⟩ := durable.before running
    constructor
    · rw [store]
      exact consistent
    · rw [store, processed]
      exact current
    · rw [store, processed]
      exact published
    · rw [store]
      exact unsynced
  after := by
    rw [worker, store, processed]
    exact durable.after

variable {cfg : HandleConfig F Value} {s t : State n F Value}

/-- The threads with a clone of the handle touch neither the files nor the worker. -/
theorem clientStep_frame {i : Fin n} (moved : clientStep cfg s i = some t) :
    t.store = s.store ∧ t.processed = s.processed ∧ t.worker = s.worker := by
  unfold clientStep at moved
  cases pc : s.clients i with
  | idle | dropped => simp only [pc, reduceCtorEq] at moved
  | sending call =>
    simp only [pc] at moved
    split at moved
    · rw [← Option.some.inj moved]
      exact ⟨rfl, rfl, rfl⟩
    · split at moved
      · rw [← Option.some.inj moved]
        exact ⟨rfl, rfl, rfl⟩
      · cases moved
  | waiting call =>
    simp only [pc] at moved
    split at moved
    · cases moved
    · rw [← Option.some.inj moved]
      exact ⟨rfl, rfl, rfl⟩
    · rw [← Option.some.inj moved]
      exact ⟨rfl, rfl, rfl⟩
  | stopping =>
    simp only [pc, Option.some.injEq] at moved
    rw [← moved]
    exact ⟨rfl, rfl, rfl⟩
  | sendingShutdown =>
    simp only [pc] at moved
    split at moved
    · rw [← Option.some.inj moved]
      exact ⟨rfl, rfl, rfl⟩
    · split at moved
      · rw [← Option.some.inj moved]
        exact ⟨rfl, rfl, rfl⟩
      · cases moved
  | takingJoin =>
    simp only [pc] at moved
    split at moved <;> rw [← Option.some.inj moved] <;> exact ⟨rfl, rfl, rfl⟩
  | joining =>
    simp only [pc] at moved
    split at moved
    · rw [← Option.some.inj moved]
      exact ⟨rfl, rfl, rfl⟩
    · cases moved

theorem Durable.persist (durable : Durable cfg s) {call : Ticketed F Value} {loop : Loop}
    (pc : s.worker = .persisting call loop) {persistUs : Nat}
    (moved : workerStep cfg s persistUs = some t) : Durable cfg t := by
  have before := durable.before (by rw [pc]; rfl)
  simp only [workerStep, pc, Option.some.injEq] at moved
  have serves := persistWithMetrics_serves cfg.serde (w := ⟨s.store, s.metrics, []⟩) before.consistent
    call.frame call.statsSnapshot persistUs
  rw [← moved]
  refine ⟨fun _ => ?_, fun synced => by cases synced⟩
  constructor
  · exact serves.consistent
  · rw [List.getLast?_concat]
    exact serves.current
  · rw [List.flatMap_append, List.flatMap_singleton, ← before.published]
    exact serves.published
  · exact serves.unsynced before.unsynced

theorem Durable.workerStep (durable : Durable cfg s) {persistUs : Nat}
    (moved : workerStep cfg s persistUs = some t) : Durable cfg t := by
  cases pc : s.worker with
  | persisting call loop => exact durable.persist pc moved
  | syncing =>
    have before := durable.before (by rw [pc]; rfl)
    simp only [Handle.workerStep, pc, Option.some.injEq] at moved
    rw [← moved]
    refine ⟨fun unsynced => (by cases unsynced), fun _ syncs => ?_⟩
    rw [if_pos syncs]
    exact before.sync
  | testing =>
    simp only [Handle.workerStep, pc, Option.some.injEq] at moved
    rw [← moved]
    refine durable.frame rfl rfl ?_
    rw [pc]
    cases s.shutdown <;> rfl
  | receiving =>
    simp only [Handle.workerStep, pc] at moved
    split at moved
    · rw [← Option.some.inj moved]
      exact durable.frame rfl rfl (by rw [pc]; rfl)
    · rw [← Option.some.inj moved]
      exact durable.frame rfl rfl (by rw [pc]; rfl)
    · split at moved
      · rw [← Option.some.inj moved]
        exact durable.frame rfl rfl (by rw [pc]; rfl)
      · cases moved
  | counting call answer metrics loop =>
    simp only [Handle.workerStep, pc, Option.some.injEq] at moved
    rw [← moved]
    exact durable.frame rfl rfl (by rw [pc]; rfl)
  | acking call answer loop =>
    simp only [Handle.workerStep, pc, Option.some.injEq] at moved
    rw [← moved]
    refine durable.frame rfl rfl ?_
    rw [pc]
    cases loop <;> rfl
  | draining =>
    simp only [Handle.workerStep, pc] at moved
    split at moved <;> rw [← Option.some.inj moved] <;>
      exact durable.frame rfl rfl (by simp only [pc, hasSynced])
  | closing =>
    simp only [Handle.workerStep, pc, Option.some.injEq] at moved
    rw [← moved]
    exact durable.frame rfl rfl (by rw [pc]; rfl)
  | ended => simp only [Handle.workerStep, pc, reduceCtorEq] at moved

theorem reachable_durable {initial : Files} (reach : (handle cfg n initial).Reachable s) :
    Durable cfg s := by
  apply System.Reaches.invariant reach (Durable cfg)
  · exact ⟨fun _ => ⟨consistent_new, rfl, rfl, fun _ member => by cases member⟩, nofun⟩
  · intro u move v durable moved
    cases move with
    | worker persistUs => exact durable.workerStep moved
    | client i =>
      obtain ⟨store, processed, worker⟩ := clientStep_frame moved
      exact durable.frame store processed (by rw [worker])
    | persist i frame statsSnapshot | shutdown i | drop i =>
      simp only [handle, Handle.step, Option.ite_none_right_eq_some, Option.some.injEq] at moved
      rw [← moved.2]
      exact durable.frame rfl rfl rfl

/-- Once the worker has ended after a sync, the files it has published are all synced exactly when
every request that was written was written in the hour of the last one. -/
theorem durable_iff_one_hour (cfg : HandleConfig F Value) (syncs : cfg.syncOnShutdown = true) (n : Nat)
    (initial : Files) (s : State n F Value) (reach : (handle cfg n initial).Reachable s)
    (ended : s.worker.hasEnded = true) : AllSynced s.store ↔ OneHour cfg.serde s.processed := by
  refine (reachable_durable reach).after ?_ syncs
  cases pc : s.worker <;> simp only [pc, WorkerPc.hasEnded, Bool.false_eq_true] at ended
  rfl

/-- One thread persists two frames whose windows end at the given seconds, and shuts down. -/
def twoFrames (i : Fin n) (first second : Nat) : List (Move n Int Text) :=
  [.persist i (plainRequest 1 first none .none).frame none, .client i] ++
    List.replicate 5 (.worker 7) ++ [.client i] ++
    [.persist i (plainRequest 2 second none .none).frame none, .client i] ++
    List.replicate 5 (.worker 7) ++ [.client i, .shutdown i, .client i] ++ List.replicate 4 (.worker 7)

theorem durable_same_hour :
    ∃ s : State 1 Int Text, s.worker.hasEnded = true ∧ s.processed.length = 2 ∧ AllSynced s.store := by
  let s := ((handle Acknowledged.plainConfig 1 fun _ => none).run (twoFrames 0 5 6)).get (by decide +kernel)
  have reach : (handle Acknowledged.plainConfig 1 fun _ => none).Reachable s :=
    System.reachable_of_run (Option.some_get _).symm
  have oneHour : OneHour plainSerde s.processed := by
    unfold OneHour
    decide +kernel
  exact ⟨s, by decide +kernel, by decide +kernel,
    (durable_iff_one_hour Acknowledged.plainConfig rfl 1 _ s reach (by decide +kernel)).mpr oneHour⟩

/-- The log of an hour that the writer has rotated away from is never synced. -/
theorem rotated_hour_unsynced :
    ∃ s : State 1 Int Text, (handle Acknowledged.plainConfig 1 fun _ => none).Reachable s ∧
      s.worker.hasEnded = true ∧ hourPath 0 ∈ published s.store ∧
      (s.store.files (hourPath 0)).map File.dirty = some true ∧ ¬AllSynced s.store := by
  let s := ((handle Acknowledged.plainConfig 1 fun _ => none).run (twoFrames 0 5 3605)).get
    (by decide +kernel)
  have member : hourPath 0 ∈ published s.store := by decide +kernel
  have dirty : (s.store.files (hourPath 0)).map File.dirty = some true := by decide +kernel
  refine ⟨s, System.reachable_of_run (Option.some_get _).symm, by decide +kernel, member, dirty, ?_⟩
  intro synced
  obtain ⟨file, there, unsynced⟩ := Option.map_eq_some_iff.mp dirty
  exact Bool.false_ne_true ((synced _ member file there).symm.trans unsynced)

end SensorGateway.Storage.Durability

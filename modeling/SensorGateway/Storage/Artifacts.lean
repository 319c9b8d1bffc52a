import Mathlib.Data.List.Basic
import SensorGateway.Storage.Crashes

/-! The JSON files that each request replaces, over all failures, crashes and restarts: what is in such a
file comes from one request, and no request after that one has been acknowledged. -/

namespace SensorGateway.Storage.Artifacts
open SensorGateway.Lib.Fallible SensorGateway.Lib.Lines SensorGateway.Lib.Transition
open SensorGateway.Types Disk Persist HourlyLog Publication Crashes
open Persist.HourlyWriter (push)
variable {F Value : Type}

/-- The files that a request replaces with what it has come with. -/
def replaced : List Path := [latestSnapshotPath, statsSnapshotPath, runtimeSnapshotPath]

/-- The calls that replace them. -/
def artifacts (serde : Serde F Value) (request : PersistRequest F Value) : List Publication :=
  ⟨latestSnapshotPath, jsonBytes (serde.frame request.frame)⟩ ::
    match request.statsSnapshot with
    | none => []
    | some stats =>
      [⟨statsSnapshotPath, jsonBytes (serde.value stats)⟩,
        ⟨runtimeSnapshotPath, jsonBytes (serde.snapshot request.frame stats)⟩]

/-- A call for one of these files is an artifact of the request, whose frame has been logged. -/
def Fits (serde : Serde F Value) (request : PersistRequest F Value) (call : Publication) : Prop :=
  call.path ∈ replaced → (serde.frame request.frame).isSome = true ∧ call ∈ artifacts serde request

/-- The calls have come from the request. -/
structure Adds (serde : Serde F Value) (request : PersistRequest F Value) (calls new more : List Publication) :
    Prop where
  grown : more = calls ++ new
  fits : ∀ call ∈ new, Fits serde request call

/-- From `s` to `t`, at every moment, some calls of the request have gone through. -/
structure Step (serde : Serde F Value) (request : PersistRequest F Value) (s t : Store)
    (new : List Publication) : Prop where
  now : Adds serde request s.renamed new t.renamed
  seen : ∀ o ∈ t.seen, o ∈ s.seen ∨ ∃ part, Adds serde request s.renamed part o.renamed

section
variable {serde : Serde F Value} {request : PersistRequest F Value} {s t u : Store} {call : Publication}
  {new newer calls more most : List Publication}

theorem Adds.refl (calls : List Publication) : Adds serde request calls [] calls :=
  ⟨(List.append_nil _).symm, fun _ member => absurd member List.not_mem_nil⟩

theorem Adds.trans (first : Adds serde request calls new more) (second : Adds serde request more newer most) :
    Adds serde request calls (new ++ newer) most := by
  refine ⟨?_, ?_⟩
  · rw [second.grown, first.grown, List.append_assoc]
  · intro call member
    rcases List.mem_append.mp member with earlier | later
    · exact first.fits call earlier
    · exact second.fits call later

theorem Adds.single (calls : List Publication) (fits : Fits serde request call) :
    Adds serde request calls [call] (calls ++ [call]) :=
  ⟨rfl, fun _ member => List.mem_singleton.mp member ▸ fits⟩

theorem Step.refl (s : Store) : Step serde request s s [] :=
  ⟨Adds.refl _, fun _ member => Or.inl member⟩

theorem Step.trans (first : Step serde request s t new) (second : Step serde request t u newer) :
    Step serde request s u (new ++ newer) := by
  refine ⟨first.now.trans second.now, ?_⟩
  intro o member
  rcases second.seen o member with earlier | ⟨part, later⟩
  · exact first.seen o earlier
  · exact Or.inr ⟨_, first.now.trans later⟩

theorem step_of_published (published : Published s t call) (fits : Fits serde request call) :
    Step serde request s t [call] := by
  constructor
  · rw [published.renamed]
    exact Adds.single _ fits
  · intro o member
    rcases published.seen o member with earlier | during | done
    · exact Or.inl earlier
    · refine Or.inr ⟨[], ?_⟩
      rw [during.1]
      exact Adds.refl _
    · refine Or.inr ⟨[call], ?_⟩
      rw [done.1]
      exact Adds.single _ fits

theorem step_of_abandoned (abandoned : Abandoned s t call) : Step serde request s t [] := by
  constructor
  · rw [abandoned.renamed]
    exact Adds.refl _
  · intro o member
    rcases abandoned.seen o member with earlier | during
    · exact Or.inl earlier
    · refine Or.inr ⟨[], ?_⟩
      rw [during.1]
      exact Adds.refl _

theorem artifact_latest (made : call ∈ artifacts serde request) (about : call.path = latestSnapshotPath) :
    call.text = jsonBytes (serde.frame request.frame) := by
  unfold artifacts at made
  rcases List.mem_cons.mp made with rfl | other
  · rfl
  · cases snapshot : request.statsSnapshot with
    | none =>
      rw [snapshot] at other
      exact absurd other List.not_mem_nil
    | some stats =>
      rw [snapshot] at other
      rcases List.mem_pair.mp other with rfl | rfl <;> cases about

theorem artifact_stats (made : call ∈ artifacts serde request) (about : call.path = statsSnapshotPath) :
    ∃ stats, request.statsSnapshot = some stats ∧ call.text = jsonBytes (serde.value stats) := by
  unfold artifacts at made
  rcases List.mem_cons.mp made with rfl | other
  · cases about
  · cases snapshot : request.statsSnapshot with
    | none =>
      rw [snapshot] at other
      exact absurd other List.not_mem_nil
    | some stats =>
      rw [snapshot] at other
      rcases List.mem_pair.mp other with rfl | rfl
      · exact ⟨stats, rfl, rfl⟩
      · cases about

theorem artifact_snapshot (made : call ∈ artifacts serde request)
    (about : call.path = runtimeSnapshotPath) :
    ∃ stats, request.statsSnapshot = some stats ∧
      call.text = jsonBytes (serde.snapshot request.frame stats) := by
  unfold artifacts at made
  rcases List.mem_cons.mp made with rfl | other
  · cases about
  · cases snapshot : request.statsSnapshot with
    | none =>
      rw [snapshot] at other
      exact absurd other List.not_mem_nil
    | some stats =>
      rw [snapshot] at other
      rcases List.mem_pair.mp other with rfl | rfl
      · cases about
      · exact ⟨stats, rfl, rfl⟩

/-- A request with stats has a call for each of the files. -/
theorem exists_artifact (serde : Serde F Value) (with_stats : request.statsSnapshot.isSome = true)
    {path : Path} (path_replaced : path ∈ replaced) :
    ∃ call ∈ artifacts serde request, call.path = path := by
  obtain ⟨stats, snapshot⟩ := Option.isSome_iff_exists.mp with_stats
  rw [artifacts, snapshot]
  simp only [replaced, List.mem_cons, List.not_mem_nil, or_false] at path_replaced
  rcases path_replaced with rfl | rfl | rfl
  · exact ⟨_, List.mem_cons_self, rfl⟩
  · exact ⟨_, List.mem_cons_of_mem _ List.mem_cons_self, rfl⟩
  · exact ⟨_, List.mem_cons_of_mem _ (List.mem_cons_of_mem _ List.mem_cons_self), rfl⟩

theorem not_replaced_index : latestIndexPath ∉ replaced := by decide

theorem not_replaced_hour (hour : Int) : hourPath hour ∉ replaced := by
  simp [replaced, hourPath, hourFilename, latestSnapshotPath, statsSnapshotPath, runtimeSnapshotPath]

/-- One more file is replaced, or nothing is. -/
theorem atomicWriteJson_step (step : Step serde request s t new) {path : Path} (lasting : path.Lasting)
    (serialized : Option Text) (faults : WriteFaults)
    (fits : Fits serde request ⟨path, jsonBytes serialized⟩) :
    Ensures (atomicWriteJson path serialized faults) t
      (fun _ u => Step serde request s u (new ++ [⟨path, jsonBytes serialized⟩]))
      (fun _ u => ∃ new, Step serde request s u new) := by
  apply (atomicWriteBytes_ensures t lasting (jsonBytes serialized) faults).mono
  · exact fun _ u done => step.trans (step_of_published done.2 fits)
  · exact fun _ u ended => ⟨_, step.trans (step_of_abandoned ended.2)⟩

/-- A request that succeeds has replaced all its files. -/
def Done (serde : Serde F Value) (request : PersistRequest F Value) (s t : Store) : Prop :=
  ∃ new, Step serde request s t new ∧ ∀ call ∈ artifacts serde request, call ∈ new

theorem publishArtifacts_step (step : Step serde request s t new)
    (logged : (serde.frame request.frame).isSome = true) :
    Ensures (publishArtifacts serde request.frame request.statsSnapshot request.faults) t
      (fun _ u => Done serde request s u) (fun _ u => ∃ new, Step serde request s u new) := by
  have index {u : Store} {new : List Publication} (step : Step serde request s u new)
      (all : ∀ call ∈ artifacts serde request, call ∈ new) :
      Ensures (do
        let s ← get
        let idx := latestIndex request.frame (HourlyWriter.currentHourFile s.hourly)
        atomicWriteJson latestIndexPath (serde.index idx) request.faults.index) u
        (fun _ v => Done serde request s v) (fun _ v => ∃ new, Step serde request s v new) := by
    apply Ensures.bind
    apply Ensures.gets
    apply (atomicWriteJson_step step (by decide) _ _ fun other => absurd other not_replaced_index).mono
    · exact fun _ v done => ⟨_, done, fun call member => List.mem_append_left _ (all call member)⟩
    · exact fun _ _ ended => ended
  have first : Fits serde request ⟨latestSnapshotPath, jsonBytes (serde.frame request.frame)⟩ :=
    fun _ => ⟨logged, List.mem_cons_self⟩
  unfold publishArtifacts
  apply Ensures.seq (atomicWriteJson_step step (by decide) _ _ first)
  · rintro _ u step
    cases snapshot : request.statsSnapshot with
    | none =>
      apply index step
      intro call member
      rw [artifacts, snapshot, List.mem_singleton] at member
      rw [member]
      exact List.mem_append_right _ List.mem_cons_self
    | some stats =>
      have mine : artifacts serde request =
          [⟨latestSnapshotPath, jsonBytes (serde.frame request.frame)⟩,
            ⟨statsSnapshotPath, jsonBytes (serde.value stats)⟩,
            ⟨runtimeSnapshotPath, jsonBytes (serde.snapshot request.frame stats)⟩] := by
        rw [artifacts, snapshot]
      have second : Fits serde request ⟨statsSnapshotPath, jsonBytes (serde.value stats)⟩ :=
        fun _ => ⟨logged, by simp [mine]⟩
      have third : Fits serde request
          ⟨runtimeSnapshotPath, jsonBytes (serde.snapshot request.frame stats)⟩ :=
        fun _ => ⟨logged, by simp [mine]⟩
      simp only
      apply Ensures.seq (atomicWriteJson_step step (by decide) _ _ second)
      · rintro _ v step
        apply Ensures.seq (atomicWriteJson_step step (by decide) _ _ third)
        · rintro _ w step
          apply index step
          intro call member
          rw [mine] at member
          simp only [List.append_assoc, List.mem_append]
          exact Or.inr (by simpa using member)
        · exact fun _ _ ended => ended
      · exact fun _ _ ended => ended
  · exact fun _ _ ended => ended

theorem persist_step (serde : Serde F Value) (consistent : Consistent s.hourly)
    (request : PersistRequest F Value) :
    Ensures (persistRuntimeArtifacts serde request.frame request.statsSnapshot request.faults) s
      (fun _ t => Done serde request s t) (fun _ t => ∃ new, Step serde request s t new) := by
  have cached {hourly : HourlyWriter} {t : Store} {new : List Publication}
      (step : Step serde request { s with hourly := hourly } t new) : Step serde request s t new :=
    ⟨step.now, step.seen⟩
  unfold persistRuntimeArtifacts
  apply Ensures.seq (appendJsonl_ensures serde consistent request.frame _ _)
  · rintro _ t ⟨-, line, serialized, published⟩
    have fits : Fits serde request
        (hourCall (push (rotated s (frameHour request.frame)) line) (frameHour request.frame)) :=
      fun other => absurd other (not_replaced_hour _)
    exact publishArtifacts_step (cached (step_of_published published fits))
      (Option.isSome_of_eq_some serialized)
  · rintro e t ⟨-, stuck⟩
    cases stuck with
    | before => exact ⟨[], Step.refl s⟩
    | rotated => exact ⟨[], cached (Step.refl _)⟩
    | pushed line serialized t abandoned => exact ⟨[], cached (step_of_abandoned abandoned)⟩

/-- One request: some of its calls at every moment, and all if it is acknowledged. -/
theorem serve_step (serde : Serde F Value) {w : Worker F Value} (consistent : Consistent w.store.hourly)
    (request : PersistRequest F Value) :
    ∃ new, Step serde request w.store (serve serde w request).store new ∧
      ((persistWithMetrics serde request w).1.isOk = true →
        ∀ call ∈ artifacts serde request, call ∈ new) := by
  have ends := persist_step serde consistent request
  unfold Ensures at ends
  unfold serve persistWithMetrics
  cases result : (persistRuntimeArtifacts serde request.frame request.statsSnapshot
      request.faults).run.run w.store with
  | mk answer store =>
    simp only [result] at ends ⊢
    cases answer with
    | ok done =>
      obtain ⟨new, step, all⟩ := ends
      exact ⟨new, step, fun _ => all⟩
    | error err =>
      obtain ⟨new, step⟩ := ends
      exact ⟨new, step, fun ok => by cases ok⟩

end

/-! All requests. -/

/-- The last call for the path. -/
def lastCall (calls : List Publication) (path : Path) : Option Publication :=
  (calls.filter fun call => decide (call.path = path)).getLast?

/-- No acknowledged request among these replaces the file. -/
def Untouched (serde : Serde F Value) (path : Path) (sent : List (Sent F Value)) : Prop :=
  ∀ x ∈ sent, x.acknowledged = true → ∀ call ∈ artifacts serde x.request, call.path ≠ path

/-- The file is from one of the requests and was left alone by all acknowledged ones after it. -/
inductive Fresh (serde : Serde F Value) (path : Path) (sent : List (Sent F Value)) :
    Option Publication → Prop
  | missing (none_done : Untouched serde path sent) : Fresh serde path sent none
  | from_request (before after : List (Sent F Value)) (x : Sent F Value) (call : Publication)
      (split : sent = before ++ x :: after) (logged : (serde.frame x.request.frame).isSome = true)
      (made : call ∈ artifacts serde x.request) (about : call.path = path)
      (newest : Untouched serde path after) : Fresh serde path sent (some call)

section
variable {serde : Serde F Value} {initial : Files} {sent : List (Sent F Value)} {path : Path}
  {calls new more : List Publication} {x : Sent F Value}

theorem Untouched.concat (untouched : Untouched serde path sent)
    (last : x.acknowledged = true → ∀ call ∈ artifacts serde x.request, call.path ≠ path) :
    Untouched serde path (sent ++ [x]) := by
  intro y member ok
  rcases List.mem_append.mp member with old | new
  · exact untouched y old ok
  · obtain rfl := List.mem_singleton.mp new
    exact last ok

/-- No request among these has been acknowledged, if they come with stats. -/
theorem Untouched.unacknowledged (untouched : Untouched serde path sent) (path_replaced : path ∈ replaced)
    (with_stats : ∀ x ∈ sent, x.request.statsSnapshot.isSome = true) :
    ∀ x ∈ sent, x.acknowledged = false := by
  intro x member
  by_contra ok
  obtain ⟨call, made, about⟩ := exists_artifact serde (with_stats x member) path_replaced
  exact untouched x member (Bool.eq_true_of_not_eq_false ok) call made about

/-- The next request replaces the file, or leaves it and is not acknowledged with a new one for it. -/
theorem Fresh.concat (fresh : Fresh serde path sent (lastCall calls path)) (path_replaced : path ∈ replaced)
    (adds : Adds serde x.request calls new more)
    (all : x.acknowledged = true → ∀ call ∈ artifacts serde x.request, call ∈ new) :
    Fresh serde path (sent ++ [x]) (lastCall more path) := by
  have split : lastCall more path = (lastCall new path).or (lastCall calls path) := by
    rw [lastCall, adds.grown, List.filter_append, List.getLast?_append]
    rfl
  rw [split]
  cases last : lastCall new path with
  | some call =>
    have member := List.mem_filter.mp (List.mem_of_getLast? last)
    have about : call.path = path := of_decide_eq_true member.2
    obtain ⟨logged, made⟩ := adds.fits call member.1 (about ▸ path_replaced)
    exact Fresh.from_request sent [] x call rfl logged made about fun _ none => absurd none List.not_mem_nil
  | none =>
    have left : x.acknowledged = true → ∀ call ∈ artifacts serde x.request, call.path ≠ path := by
      intro ok call made about
      rw [lastCall, List.getLast?_eq_none_iff, List.filter_eq_nil_iff] at last
      exact last call (all ok call made) (decide_eq_true about)
    rw [Option.none_or]
    generalize lastCall calls path = found at fresh ⊢
    cases fresh with
    | missing none_done => exact Fresh.missing (none_done.concat left)
    | from_request before after y call split logged made about newest =>
      refine Fresh.from_request before (after ++ [x]) y call ?_ logged made about (newest.concat left)
      rw [split, List.append_assoc]
      rfl

/-- Over all failures, crashes and restarts. -/
theorem reachable_fresh {s : History F Value} (reach : (crashing serde initial).Reachable s)
    (path_replaced : path ∈ replaced) :
    Fresh serde path s.sent (lastCall s.worker.store.renamed path) := by
  apply System.ReachesUnder.invariant reach
    (fun s => Fresh serde path s.sent (lastCall s.worker.store.renamed path))
  · exact Fresh.missing fun x member => absurd member List.not_mem_nil
  · intro u event v before fresh _ moved
    have ahead := (Safe.watched (reachable_sound before).safe).ahead
    cases event with
    | persist request =>
      cases moved
      obtain ⟨new, step, all⟩ := serve_step serde ahead.consistent request
      exact fresh.concat path_replaced step.now all
    | crash request moment =>
      obtain ⟨o, there, rfl⟩ := Option.map_eq_some_iff.mp moved
      obtain ⟨new, step, -⟩ := serve_step serde ahead.consistent request
      have adds : ∃ part, Adds serde request u.worker.store.renamed part o.renamed := by
        rcases step.seen o (List.mem_of_getElem? there) with at_start | some_part
        · rw [List.mem_singleton.mp at_start]
          exact ⟨[], Adds.refl _⟩
        · exact some_part
      obtain ⟨part, adds⟩ := adds
      exact fresh.concat path_replaced (x := ⟨request, none⟩) adds fun ok => by cases ok
    | restart =>
      cases moved
      exact fresh

/-- The file itself, in a directory that was empty. -/
theorem reachable_text {s : History F Value} (reach : (crashing serde fun _ => none).Reachable s)
    (lasting : path.Lasting) :
    s.worker.store.now.text path = (lastCall s.worker.store.renamed path).map Publication.text := by
  have complete := (reachable_sound reach).safe.now.complete path lasting
  have same : lastRenamed s.worker.store.now path = lastCall s.worker.store.renamed path := rfl
  rw [same] at complete
  cases last : lastCall s.worker.store.renamed path with
  | none =>
    rw [last] at complete
    exact complete
  | some call =>
    rw [last] at complete
    exact complete

end

end SensorGateway.Storage.Artifacts

import SensorGateway.Storage.HourlyLog

/-! A failed request and the hourly log. The log stays what the acknowledged requests have made it
exactly as long as no request fails behind its own line, no line waits in the writer's cache, and the
writer comes to no line that it would write back shorter. -/

namespace SensorGateway.Storage.FailedPersist
open SensorGateway.Lib.Fallible SensorGateway.Lib.Lines SensorGateway.Lib.Transition
open SensorGateway.Types Disk Persist HourlyLog
open Persist.HourlyWriter (At push)
variable {F Value : Type} (serde : Serde F Value)

/-- The lines of the requests for an hour that were answered `Ok`, in order. -/
def acknowledged (answered : List (PersistRequest F Value × Except StorageError Unit)) (hour : Int) :
    List Text :=
  (answered.filter fun a => a.2.isOk && decide (frameHour a.1.frame = hour)).filterMap
    fun a => serde.frame a.1.frame

/-- Every hour file holds what it held at the start and then the acknowledged lines, and the metrics
count these. -/
structure Faithful (initial : Files) (w : Worker F Value) : Prop where
  log : ∀ hour, linesAt w.store.now hour =
    linesAt ⟨initial, []⟩ hour ++ acknowledged serde w.answered hour
  count : w.metrics.persistedFrames = (w.answered.filter fun a => a.2.isOk).length

/-- Everything a request writes after its hour file goes through. -/
def RestGoes (request : PersistRequest F Value) : Prop :=
  request.faults.latest.Clean ∧
    (request.statsSnapshot.isSome → request.faults.stats.Clean ∧ request.faults.snapshot.Clean) ∧
    request.faults.index.Clean

instance (request : PersistRequest F Value) : Decidable (RestGoes request) :=
  inferInstanceAs (Decidable (_ ∧ _))

/-- The file of the hour stays as it is when the writer writes it again: the cached lines are those of
the file, or a rotation reads lines that do not end in a carriage return. -/
def Unaltered (s : Store) (hour : Int) : Prop :=
  (At s.hourly hour → readBack s.hourly = linesAt s.now hour) ∧
    (¬At s.hourly hour → ∀ line ∈ linesAt s.now hour, trimReturns line = line)

instance (s : Store) (hour : Int) : Decidable (Unaltered s hour) :=
  inferInstanceAs (Decidable (_ ∧ _))

/-- If the request gets its line into the log, then behind the lines that are there, and without a
failure behind it. -/
def Settled (w : Worker F Value) (request : PersistRequest F Value) : Prop :=
  Goes serde w.store request.frame request.faults.read request.faults.hour →
    Unaltered w.store (frameHour request.frame) ∧ RestGoes request

instance (w : Worker F Value) (request : PersistRequest F Value) :
    Decidable (Settled serde w request) :=
  inferInstanceAs (Decidable (_ → _))

theorem atomicWriteJson_ensures (s : Store) {path : Path} (lasting : path.Lasting)
    (base : path.folder = .base) (serialized : Option Text) (faults : WriteFaults) :
    Ensures (atomicWriteJson path serialized faults) s
      (fun _ t => faults.Clean ∧ SameLog s t) (fun _ t => ¬faults.Clean ∧ SameLog s t) := by
  apply (atomicWriteBytes_ensures s lasting (jsonBytes serialized) faults).mono
  · exact fun _ t ⟨clean, published⟩ => ⟨clean, sameLog_of_published published base⟩
  · exact fun _ t ⟨failed, abandoned⟩ => ⟨failed, sameLog_of_abandoned abandoned⟩

theorem publishArtifacts_ensures (s : Store) (request : PersistRequest F Value) :
    Ensures (publishArtifacts serde request.frame request.statsSnapshot request.faults) s
      (fun _ t => RestGoes request ∧ SameLog s t) (fun _ t => ¬RestGoes request ∧ SameLog s t) := by
  unfold publishArtifacts
  apply Ensures.seq (atomicWriteJson_ensures s (by decide) rfl _ _)
  · intro _ t success
    obtain ⟨latest, same⟩ := success
    cases snapshot : request.statsSnapshot with
    | none =>
      simp only
      apply Ensures.bind
      apply Ensures.gets
      apply (atomicWriteJson_ensures t (by decide) rfl _ _).mono
      · intro _ u success
        obtain ⟨index, same'⟩ := success
        exact ⟨⟨latest, by simp [snapshot], index⟩, same.trans same'⟩
      · intro e u ended
        obtain ⟨failed, same'⟩ := ended
        exact ⟨fun goes => failed goes.2.2, same.trans same'⟩
    | some stats =>
      simp only
      apply Ensures.seq (atomicWriteJson_ensures t (by decide) rfl _ _)
      · intro _ u success
        obtain ⟨statsWritten, same₁⟩ := success
        apply Ensures.seq (atomicWriteJson_ensures u (by decide) rfl _ _)
        · intro _ v success
          obtain ⟨snapshotWritten, same₂⟩ := success
          have through := (same.trans same₁).trans same₂
          apply Ensures.bind
          apply Ensures.gets
          apply (atomicWriteJson_ensures v (by decide) rfl _ _).mono
          · intro _ w success
            obtain ⟨index, same₃⟩ := success
            exact ⟨⟨latest, fun _ => ⟨statsWritten, snapshotWritten⟩, index⟩, through.trans same₃⟩
          · intro e w ended
            obtain ⟨failed, same₃⟩ := ended
            exact ⟨fun goes => failed goes.2.2, through.trans same₃⟩
        · intro e v ended
          obtain ⟨failed, same₂⟩ := ended
          refine ⟨?_, (same.trans same₁).trans same₂⟩
          exact fun goes => failed (goes.2.1 (by simp [snapshot])).2
      · intro e u ended
        obtain ⟨failed, same₁⟩ := ended
        refine ⟨?_, same.trans same₁⟩
        exact fun goes => failed (goes.2.1 (by simp [snapshot])).1
  · intro e t ended
    obtain ⟨failed, same⟩ := ended
    exact ⟨fun goes => failed goes.1, same⟩

theorem persist_ensures {s : Store} (ahead : Ahead s) (request : PersistRequest F Value) :
    Ensures (persistRuntimeArtifacts serde request.frame request.statsSnapshot request.faults) s
      (fun _ t => Goes serde s request.frame request.faults.read request.faults.hour ∧
        RestGoes request ∧ ∃ line, Added serde s t request.frame line)
      (fun _ t =>
        (Goes serde s request.frame request.faults.read request.faults.hour ∧ ¬RestGoes request ∧
          ∃ line, Added serde s t request.frame line) ∨
        (¬Goes serde s request.frame request.faults.read request.faults.hour ∧ Spared s t)) := by
  unfold persistRuntimeArtifacts
  apply Ensures.seq (appendJsonl_ensures serde ahead.consistent request.frame _ _)
  · intro _ t success
    obtain ⟨goes, line, serialized, published⟩ := success
    have added := added_of_published serialized ahead.consistent published
    apply (publishArtifacts_ensures serde t request).mono
    · intro _ u success
      obtain ⟨rest, same⟩ := success
      exact ⟨goes, rest, line, added.sameLog same⟩
    · intro e u ended
      obtain ⟨failed, same⟩ := ended
      exact Or.inl ⟨goes, failed, line, added.sameLog same⟩
  · intro e t ended
    obtain ⟨failed, stuck⟩ := ended
    exact Or.inr ⟨failed, stuck.spared ahead⟩

/-- What one request does, in the three ways it can end. -/
inductive Served (w : Worker F Value) (request : PersistRequest F Value) : Worker F Value → Prop where
  | ok (store : Store) (metrics : StorageMetrics) (line : Text)
      (goes : Goes serde w.store request.frame request.faults.read request.faults.hour)
      (rest : RestGoes request) (added : Added serde w.store store request.frame line)
      (count : metrics.persistedFrames = w.metrics.persistedFrames + 1) :
      Served w request ⟨store, metrics, w.answered ++ [(request, .ok ())]⟩
  | late (store : Store) (metrics : StorageMetrics) (line : Text)
      (goes : Goes serde w.store request.frame request.faults.read request.faults.hour)
      (rest : ¬RestGoes request) (added : Added serde w.store store request.frame line)
      (count : metrics.persistedFrames = w.metrics.persistedFrames) :
      Served w request ⟨store, metrics, w.answered ++ [(request, .error .workerFailed)]⟩
  | early (store : Store) (metrics : StorageMetrics)
      (goes : ¬Goes serde w.store request.frame request.faults.read request.faults.hour)
      (spared : Spared w.store store)
      (count : metrics.persistedFrames = w.metrics.persistedFrames) :
      Served w request ⟨store, metrics, w.answered ++ [(request, .error .workerFailed)]⟩

theorem serve_served {w : Worker F Value} (ahead : Ahead w.store) (request : PersistRequest F Value) :
    Served serde w request (serve serde w request) := by
  have ends := persist_ensures serde ahead request
  unfold Ensures at ends
  unfold serve persistWithMetrics
  cases result : (persistRuntimeArtifacts serde request.frame request.statsSnapshot
      request.faults).run.run w.store with
  | mk answer store =>
    simp only [result] at ends ⊢
    cases answer with
    | ok done =>
      obtain ⟨goes, rest, line, added⟩ := ends
      exact Served.ok store _ line goes rest added rfl
    | error err =>
      obtain ⟨goes, rest, line, added⟩ | ⟨goes, spared⟩ := ends
      · exact Served.late store _ line goes rest added rfl
      · exact Served.early store _ goes spared rfl

theorem acknowledged_append (answered : List (PersistRequest F Value × Except StorageError Unit))
    (request : PersistRequest F Value) (answer : Except StorageError Unit) (hour : Int) :
    acknowledged serde (answered ++ [(request, answer)]) hour =
      acknowledged serde answered hour ++
        if answer.isOk ∧ frameHour request.frame = hour then (serde.frame request.frame).toList
        else [] := by
  unfold acknowledged
  rw [List.filter_append, List.filterMap_append]
  congr 1
  by_cases counts : answer.isOk ∧ frameHour request.frame = hour
  · rw [if_pos counts]
    cases line : serde.frame request.frame <;> simp [counts.1, counts.2, line]
  · rw [if_neg counts]
    rw [not_and_or] at counts
    obtain bad | bad := counts <;> simp [bad]

theorem Served.ahead {w next : Worker F Value} {request : PersistRequest F Value}
    (served : Served serde w request next) : Ahead next.store := by
  cases served with
  | ok store metrics line goes rest added count => exact added.ahead
  | late store metrics line goes rest added count => exact added.ahead
  | early store metrics goes spared count => exact spared.ahead

theorem readBack_rotated_iff (s : Store) (hour : Int) :
    readBack (rotated s hour) = linesAt s.now hour ↔ Unaltered s hour := by
  by_cases here : At s.hourly hour
  · rw [rotated, if_pos here]
    exact ⟨fun same => ⟨fun _ => same, fun away => absurd here away⟩, fun unaltered => unaltered.1 here⟩
  · have same : (linesAt s.now hour).map stripReturn = linesAt s.now hour ↔
        ∀ line ∈ linesAt s.now hour, trimReturns line = line := by
      conv_lhs => rhs; rw [← List.map_id (linesAt s.now hour)]
      rw [List.map_inj_left]
      exact forall₂_congr fun _ _ => stripReturn_eq_self_iff
    rw [readBack_rotated here, same]
    exact ⟨fun bare => ⟨fun there => absurd there here, fun _ => bare⟩, fun unaltered => unaltered.2 here⟩

variable {initial : Files} {w : Worker F Value} {request : PersistRequest F Value} {store : Store}
  {metrics : StorageMetrics}

theorem ok_faithful_iff {line : Text} (faithful : Faithful serde initial w)
    (added : Added serde w.store store request.frame line)
    (count : metrics.persistedFrames = w.metrics.persistedFrames + 1) :
    Faithful serde initial ⟨store, metrics, w.answered ++ [(request, .ok ())]⟩ ↔
      Unaltered w.store (frameHour request.frame) := by
  have now_acknowledged : acknowledged serde (w.answered ++ [(request, .ok ())])
      (frameHour request.frame) = acknowledged serde w.answered (frameHour request.frame) ++ [line] := by
    rw [acknowledged_append, if_pos ⟨rfl, rfl⟩, added.serialized, Option.toList_some]
  rw [← readBack_rotated_iff]
  constructor
  · intro next
    have written := next.log (frameHour request.frame)
    rw [added.lines, now_acknowledged, ← List.append_assoc, ← faithful.log] at written
    exact List.append_cancel_right written
  · intro same
    constructor
    · intro hour
      by_cases this : hour = frameHour request.frame
      · rw [this, added.lines, now_acknowledged, ← List.append_assoc, ← faithful.log, same]
      · rw [acknowledged_append, if_neg (fun bad => this bad.2.symm), List.append_nil, ← faithful.log]
        exact linesAt_congr (added.kept hour this)
    · rw [count, faithful.count, List.filter_append, List.length_append]
      rfl

/-- A request that fails behind its line leaves a line that no acknowledgement accounts for. -/
theorem late_not_faithful (metrics : StorageMetrics) {line : Text} (ahead : Ahead w.store)
    (faithful : Faithful serde initial w)
    (added : Added serde w.store store request.frame line) :
    ¬Faithful serde initial ⟨store, metrics, w.answered ++ [(request, .error .workerFailed)]⟩ := by
  intro next
  have written := next.log (frameHour request.frame)
  rw [added.lines, acknowledged_append, if_neg (fun bad => absurd bad.1 (by decide)), List.append_nil,
    ← faithful.log] at written
  have longer := (ahead.rotated (frameHour request.frame)).length_le
  rw [logAt_eq, cached_eq, List.length_map, List.length_map] at longer
  have lengths := congrArg List.length written
  rw [List.length_append, List.length_singleton] at lengths
  omega

theorem early_faithful (faithful : Faithful serde initial w) (spared : Spared w.store store)
    (count : metrics.persistedFrames = w.metrics.persistedFrames) :
    Faithful serde initial ⟨store, metrics, w.answered ++ [(request, .error .workerFailed)]⟩ := by
  constructor
  · intro hour
    rw [acknowledged_append, if_neg (fun bad => absurd bad.1 (by decide)), List.append_nil,
      ← faithful.log]
    exact linesAt_congr (spared.kept hour)
  · rw [count, faithful.count, List.filter_append, List.length_append]
    rfl

/-- A request keeps the log faithful exactly when it is settled. -/
theorem serve_faithful_iff (ahead : Ahead w.store) (faithful : Faithful serde initial w)
    (request : PersistRequest F Value) :
    Faithful serde initial (serve serde w request) ↔ Settled serde w request := by
  have served := serve_served serde ahead request
  generalize serve serde w request = next at served
  cases served with
  | ok store metrics line goes rest added count =>
    rw [ok_faithful_iff serde faithful added count]
    exact ⟨fun unaltered _ => ⟨unaltered, rest⟩, fun settled => (settled goes).1⟩
  | late store metrics line goes rest added count =>
    have bad := late_not_faithful serde metrics ahead faithful added
    exact ⟨fun next => absurd next bad, fun settled => absurd (settled goes).2 rest⟩
  | early store metrics goes spared count =>
    exact ⟨fun _ goes' => absurd goes' goes, fun _ => early_faithful serde faithful spared count⟩

theorem reachable_ahead (reach : (worker serde initial).Reachable w) : Ahead w.store := by
  apply System.Reaches.invariant reach (fun w => Ahead w.store)
  · exact ⟨consistent_new, fun hour at_hour => by cases at_hour⟩
  · intro u request v ahead moved
    obtain rfl : serve serde u request = v := Option.some.inj moved
    exact (serve_served serde ahead request).ahead serde

/-- As long as every request is settled, each hour file holds its initial lines and the acknowledged
lines and the metrics count these; and the first request that is not settled breaks this. -/
theorem faithful_iff_settled (initial : Files) (w : Worker F Value)
    (reach : (worker serde initial).ReachableUnder (Settled serde) w) :
    Faithful serde initial w ∧
      ∀ request, Faithful serde initial (serve serde w request) ↔ Settled serde w request := by
  have faithful : Faithful serde initial w := by
    apply System.ReachesUnder.invariant reach (Faithful serde initial)
    · exact ⟨fun hour => (List.append_nil _).symm, rfl⟩
    · intro u request v before faithful settled moved
      obtain rfl : serve serde u request = v := Option.some.inj moved
      exact (serve_faithful_iff serde (reachable_ahead serde before.reaches) faithful request).mpr
        settled
  exact ⟨faithful, serve_faithful_iff serde (reachable_ahead serde reach.reaches) faithful⟩

/-- A frame is persisted, the next one cannot be read for, and a third one of the same hour follows. -/
def patient : List (PersistRequest Int Text) :=
  [plainRequest 1 5 none .none, plainRequest 2 3605 none { Faults.none with read := .fail 0 },
    plainRequest 3 7 none .none]

set_option maxRecDepth 8000 in
theorem faithful_patient :
    ∃ w, (worker plainSerde fun _ => none).ReachableUnder (Settled plainSerde) w ∧
      Faithful plainSerde (fun _ => none) w ∧ (linesAt w.store.now 0).length = 2 := by
  let sys := (worker plainSerde fun _ => none).guarded (Settled plainSerde)
  let w := (sys.run patient).get (by decide)
  have reach : (worker plainSerde fun _ => none).ReachableUnder (Settled plainSerde) w :=
    System.reachableUnder_of_guarded (System.reachable_of_run (Option.some_get _).symm)
  exact ⟨w, reach, (faithful_iff_settled plainSerde _ w reach).1, by decide⟩

/-- The hour file cannot be renamed for the first frame, so the request fails; the second frame then
takes the first one's line into the log. -/
def resurrected : List (PersistRequest Int Text) :=
  [plainRequest 1 5 none { Faults.none with hour := { WriteFaults.none with rename := .fail 0 } },
    plainRequest 2 7 none .none]

set_option maxRecDepth 8000 in
theorem failed_line_returns :
    ∃ w, (worker plainSerde fun _ => none).Reachable w ∧ ¬Faithful plainSerde (fun _ => none) w := by
  let w := ((worker plainSerde fun _ => none).run resurrected).get (by decide)
  refine ⟨w, System.reachable_of_run (Option.some_get _).symm, ?_⟩
  intro faithful
  have lengths := congrArg List.length (faithful.log 0)
  exact absurd lengths (by decide)

end SensorGateway.Storage.FailedPersist

import SensorGateway.Storage.HourlyLog

/-! What a concurrent reader can find, at any moment and after any mix of failures: every lasting file
is untouched or complete, the snapshot pairs one request's frame and stats, and the index names a file
that holds its frame. -/

namespace SensorGateway.Storage.Publication
open SensorGateway.Lib.Fallible SensorGateway.Lib.Lines SensorGateway.Lib.Transition
open SensorGateway.Types Disk Persist HourlyLog
open Persist.HourlyWriter (push)
variable {F Value : Type} (serde : Serde F Value)

/-- The call whose text the path holds, if any has been renamed into place. -/
def lastRenamed (o : Observation) (path : Path) : Option Publication :=
  (o.renamed.filter fun call => decide (call.path = path)).getLast?

/-- The index record that names a frame and the hour file it is logged in. -/
def frameIndex (frame : AggregatedFrame F) : LatestIndex :=
  latestIndex frame (some (hourFilename (frameHour frame)))

/-- The text pairs a frame that is logged with the stats of the same request. -/
def Pairs (requests : List (PersistRequest F Value)) (text : Text) : Prop :=
  ∃ request ∈ requests, ∃ stats, request.statsSnapshot = some stats ∧
    serde.snapshot request.frame stats = some text

/-- The text is the index of a request whose line the hour file it names holds. -/
def Indexes (requests : List (PersistRequest F Value)) (o : Observation) (text : Text) : Prop :=
  ∃ request ∈ requests, serde.index (frameIndex request.frame) = some text ∧
    ∃ line, serde.frame request.frame = some line ∧ line ∈ logAt o (frameHour request.frame)

structure Intact (initial : Files) (requests : List (PersistRequest F Value)) (o : Observation) :
    Prop where
  complete : ∀ path, path.Lasting →
    o.text path = match lastRenamed o path with
      | some call => some call.text
      | none => (initial path).map File.text
  paired : ∀ call ∈ o.renamed, call.path = runtimeSnapshotPath → Pairs serde requests call.text
  indexed : ∀ call, lastRenamed o latestIndexPath = some call → Indexes serde requests o call.text

theorem lastRenamed_eq_none {o : Observation} {path : Path} :
    lastRenamed o path = none ↔ ∀ call ∈ o.renamed, call.path ≠ path := by
  simp only [lastRenamed, List.getLast?_eq_none_iff, List.filter_eq_nil_iff, decide_eq_true_eq, ne_eq]

theorem lastRenamed_mem {o : Observation} {path : Path} {call : Publication}
    (last : lastRenamed o path = some call) : call ∈ o.renamed ∧ call.path = path := by
  have member := List.mem_filter.mp (List.mem_of_getLast? last)
  exact ⟨member.1, of_decide_eq_true member.2⟩

theorem lastRenamed_publishes {o o' : Observation} {call : Publication} (publishes : o.Publishes call o')
    (path : Path) :
    lastRenamed o' path = if call.path = path then some call else lastRenamed o path := by
  rw [lastRenamed, publishes.1, List.filter_append]
  by_cases same : call.path = path
  · simp [same]
  · simp [same, lastRenamed]

variable {serde} {initial : Files} {requests : List (PersistRequest F Value)}

theorem Intact.agrees {o o' : Observation} (intact : Intact serde initial requests o)
    (agrees : o.Agrees o') : Intact serde initial requests o' := by
  have same : ∀ path, lastRenamed o' path = lastRenamed o path := by
    intro path
    rw [lastRenamed, agrees.1, lastRenamed]
  constructor
  · intro path lasting
    rw [agrees.2 path lasting, same]
    exact intact.complete path lasting
  · rw [agrees.1]
    exact intact.paired
  · intro call last
    rw [same] at last
    obtain ⟨request, member, text, line, serialized, there⟩ := intact.indexed call last
    exact ⟨request, member, text, line, serialized, (logAt_congr (agrees.2 _ (lasting_hourPath _))).symm ▸ there⟩

/-- A path that something has been renamed to holds the text of the last such call. -/
theorem Intact.held {o : Observation} (intact : Intact serde initial requests o) {path : Path}
    (lasting : path.Lasting) (written : ∃ call ∈ o.renamed, call.path = path) :
    ∃ call, lastRenamed o path = some call ∧ o.text path = some call.text := by
  obtain ⟨call, member, about⟩ := written
  have complete := intact.complete path lasting
  cases last : lastRenamed o path with
  | none => exact absurd about (lastRenamed_eq_none.mp last call member)
  | some final =>
    simp only [last] at complete
    exact ⟨final, rfl, complete⟩

theorem Intact.untouched {o : Observation} (intact : Intact serde initial requests o) {path : Path}
    (lasting : path.Lasting) (never : ∀ call ∈ o.renamed, call.path ≠ path) :
    o.text path = (initial path).map File.text := by
  have complete := intact.complete path lasting
  rwa [lastRenamed_eq_none.mpr never] at complete

/-- Requests that come later take nothing away. -/
theorem Intact.mono {more : List (PersistRequest F Value)} {o : Observation}
    (intact : Intact serde initial requests o) (grows : ∀ request ∈ requests, request ∈ more) :
    Intact serde initial more o := by
  refine ⟨intact.complete, ?_, ?_⟩
  · intro call member snapshot
    obtain ⟨request, old, rest⟩ := intact.paired call member snapshot
    exact ⟨request, grows request old, rest⟩
  · intro call last
    obtain ⟨request, old, rest⟩ := intact.indexed call last
    exact ⟨request, grows request old, rest⟩

/-- A call may be renamed into place when it pairs one request, indexes a logged frame and takes no
line out of an hour file, whichever of these it is about. -/
structure Fit (serde : Serde F Value) (requests : List (PersistRequest F Value)) (o : Observation)
    (call : Publication) : Prop where
  lasting : call.path.Lasting
  pairs : call.path = runtimeSnapshotPath → Pairs serde requests call.text
  indexes : call.path = latestIndexPath → Indexes serde requests o call.text
  keeps : ∀ hour, call.path = hourPath hour → ∀ line ∈ logAt o hour, line ∈ entries call.text

theorem Intact.publishes {o o' : Observation} {call : Publication}
    (intact : Intact serde initial requests o) (fit : Fit serde requests o call)
    (publishes : o.Publishes call o') : Intact serde initial requests o' := by
  have logs : ∀ hour, ∀ line ∈ logAt o hour, line ∈ logAt o' hour := by
    intro hour line there
    by_cases about : call.path = hourPath hour
    · have text : o'.text (hourPath hour) = some call.text := about ▸ publishes.2.1
      rw [logAt, text, Option.map_some, Option.getD_some]
      exact fit.keeps hour about line there
    · rw [logAt_congr (publishes.2.2 _ (lasting_hourPath hour) (Ne.symm about))]
      exact there
  constructor
  · intro path lasting
    rw [lastRenamed_publishes publishes]
    by_cases about : call.path = path
    · rw [if_pos about, ← about, publishes.2.1]
    · rw [if_neg about, publishes.2.2 path lasting (Ne.symm about)]
      exact intact.complete path lasting
  · intro other member snapshot
    rw [publishes.1, List.mem_append, List.mem_singleton] at member
    obtain old | rfl := member
    · exact intact.paired other old snapshot
    · exact fit.pairs snapshot
  · intro other last
    rw [lastRenamed_publishes publishes] at last
    by_cases about : call.path = latestIndexPath
    · rw [if_pos about, Option.some.injEq] at last
      subst last
      obtain ⟨request, member, text, line, serialized, there⟩ := fit.indexes about
      exact ⟨request, member, text, line, serialized, logs _ line there⟩
    · rw [if_neg about] at last
      obtain ⟨request, member, text, line, serialized, there⟩ := intact.indexed other last
      exact ⟨request, member, text, line, serialized, logs _ line there⟩

/-- Every observation so far is intact, and whatever has been renamed was a call begun. -/
structure Safe (serde : Serde F Value) (initial : Files) (requests : List (PersistRequest F Value))
    (s : Store) : Prop where
  ahead : Ahead s
  now : Intact serde initial requests s.now
  seen : ∀ o ∈ s.seen, Intact serde initial requests o
  begun : ∀ call ∈ s.renamed, call ∈ s.calls
  seen_begun : ∀ o ∈ s.seen, ∀ call ∈ o.renamed, call ∈ s.calls

theorem Safe.mono {more : List (PersistRequest F Value)} {s : Store}
    (safe : Safe serde initial requests s) (grows : ∀ request ∈ requests, request ∈ more) :
    Safe serde initial more s :=
  ⟨safe.ahead, safe.now.mono grows, fun o member => (safe.seen o member).mono grows, safe.begun,
    safe.seen_begun⟩

/-- The writer's cache is in no file. -/
theorem Safe.withHourly {s : Store} (safe : Safe serde initial requests s) {hourly : HourlyWriter}
    (ahead : Ahead { s with hourly := hourly }) : Safe serde initial requests { s with hourly := hourly } :=
  ⟨ahead, safe.now, safe.seen, safe.begun, safe.seen_begun⟩

theorem Safe.abandoned {s t : Store} {call : Publication} (safe : Safe serde initial requests s)
    (abandoned : Abandoned s t call) (ahead : Ahead t) : Safe serde initial requests t := by
  have old : ∀ other ∈ s.calls, other ∈ t.calls := by
    rw [abandoned.calls]
    exact fun other member => List.mem_append_left _ member
  constructor
  · exact ahead
  · exact safe.now.agrees abandoned.now
  · intro o member
    obtain before | during := abandoned.seen o member
    · exact safe.seen o before
    · exact safe.now.agrees during
  · rw [abandoned.renamed]
    exact fun other member => old other (safe.begun other member)
  · intro o member other renamed
    obtain before | during := abandoned.seen o member
    · exact old other (safe.seen_begun o before other renamed)
    · rw [during.1] at renamed
      exact old other (safe.begun other renamed)

theorem Safe.published {s t : Store} {call : Publication} (safe : Safe serde initial requests s)
    (published : Published s t call) (fit : Fit serde requests s.now call) (ahead : Ahead t) :
    Safe serde initial requests t := by
  have old : ∀ other ∈ s.calls ++ [call], other ∈ t.calls := by
    rw [published.calls]
    exact fun other member => member
  have through : ∀ other ∈ s.renamed ++ [call], other ∈ t.calls := by
    intro other member
    obtain before | last := List.mem_append.mp member
    · exact old other (List.mem_append_left _ (safe.begun other before))
    · exact old other (List.mem_append_right _ last)
  constructor
  · exact ahead
  · exact safe.now.publishes fit published.now
  · intro o member
    obtain before | during | after := published.seen o member
    · exact safe.seen o before
    · exact safe.now.agrees during
    · exact safe.now.publishes fit after
  · rw [published.renamed]
    exact through
  · intro o member other renamed
    obtain before | during | after := published.seen o member
    · exact old other (List.mem_append_left _ (safe.seen_begun o before other renamed))
    · rw [during.1] at renamed
      exact through other (List.mem_append_left _ renamed)
    · rw [after.1] at renamed
      exact through other renamed

theorem atomicWriteJson_safe {s : Store} (safe : Safe serde initial requests s) {path : Path}
    (base : path.folder = .base) (serialized : Option Text) (faults : WriteFaults)
    (fit : Fit serde requests s.now ⟨path, jsonBytes serialized⟩) :
    Ensures (atomicWriteJson path serialized faults) s
      (fun _ t => Safe serde initial requests t ∧ SameLog s t)
      (fun _ t => Safe serde initial requests t) := by
  apply (atomicWriteBytes_ensures s fit.lasting (jsonBytes serialized) faults).mono
  · intro _ t success
    obtain ⟨-, published⟩ := success
    have same := sameLog_of_published published base
    exact ⟨safe.published published fit (safe.ahead.sameLog same), same⟩
  · intro e t ended
    obtain ⟨-, abandoned⟩ := ended
    exact safe.abandoned abandoned (safe.ahead.sameLog (sameLog_of_abandoned abandoned))

/-- The hour file is rewritten with everything it holds. -/
theorem fit_hourCall {s : Store} (ahead : Ahead s) {frame : AggregatedFrame F} {line : Text}
    (serialized : serde.frame frame = some line) :
    Fit serde requests s.now
      (hourCall (push (rotated s (frameHour frame)) line) (frameHour frame)) := by
  obtain ⟨single, plain, brace⟩ := serde.compact frame line serialized
  refine ⟨lasting_hourPath _, fun same => ?_, fun same => ?_, ?_⟩
  · simp [hourCall, hourPath, runtimeSnapshotPath] at same
  · simp [hourCall, hourPath, latestIndexPath] at same
  · intro hour same row there
    rw [← hourPath_inj same] at there
    have written : entries (hourCall (push (rotated s (frameHour frame)) line) (frameHour frame)).text =
        cached (push (rotated s (frameHour frame)) line) :=
      entries_unlines ((ahead.consistent.rotated _).push single).single
    rw [written, cached_push _ (bright_of_brace brace) plain]
    exact List.mem_append_left _ ((ahead.rotated _).subset there)

/-- Where the request's line is: in the file of the hour the writer is at. -/
def Logged (serde : Serde F Value) (frame : AggregatedFrame F) (s : Store) : Prop :=
  s.hourly.currentUnixHour = some (frameHour frame) ∧
    ∃ line, serde.frame frame = some line ∧ line ∈ logAt s.now (frameHour frame)

theorem Logged.sameLog {frame : AggregatedFrame F} {s t : Store} (logged : Logged serde frame s)
    (same : SameLog s t) : Logged serde frame t := by
  obtain ⟨hour, line, serialized, there⟩ := logged
  exact ⟨same.1 ▸ hour, line, serialized, (same.log _).symm ▸ there⟩

theorem appendJsonl_safe {s : Store} (safe : Safe serde initial requests s) (frame : AggregatedFrame F)
    (read : Verdict) (faults : WriteFaults) :
    Ensures (appendJsonl serde (frameHour frame) frame read faults) s
      (fun _ t => Safe serde initial requests t ∧ Logged serde frame t)
      (fun _ t => Safe serde initial requests t) := by
  apply (appendJsonl_ensures serde safe.ahead.consistent frame read faults).mono
  · intro _ t success
    obtain ⟨-, line, serialized, published⟩ := success
    have added := added_of_published serialized safe.ahead.consistent published
    have pushed := safe.withHourly (safe.ahead.pushed serialized (frameHour frame))
    refine ⟨pushed.published published (fit_hourCall safe.ahead serialized) added.ahead,
      ?_, line, serialized, ?_⟩
    · rw [added.hourly]
      exact rotated_hour s (frameHour frame)
    · rw [added.log]
      exact List.mem_append_right _ List.mem_cons_self
  · intro e t ended
    obtain ⟨-, stuck⟩ := ended
    cases stuck with
    | before => exact safe
    | rotated => exact safe.withHourly (safe.ahead.rotate _)
    | pushed line serialized t abandoned =>
      have pushed := safe.ahead.pushed serialized (frameHour frame)
      exact (safe.withHourly pushed).abandoned abandoned
        (pushed.sameLog (sameLog_of_abandoned abandoned))

theorem fit_plain {o : Observation} {call : Publication} (lasting : call.path.Lasting)
    (base : call.path.folder = .base) (snapshot : call.path ≠ runtimeSnapshotPath)
    (index : call.path ≠ latestIndexPath) : Fit serde requests o call := by
  refine ⟨lasting, fun same => absurd same snapshot, fun same => absurd same index, ?_⟩
  intro hour same
  rw [same] at base
  simp [hourPath] at base

/-- The pair is one of a frame and its own statistics. -/
theorem fit_snapshot {o : Observation} {request : PersistRequest F Value} (current : request ∈ requests)
    {line : Text} (serialized : serde.frame request.frame = some line) {stats : Value}
    (snapshot : request.statsSnapshot = some stats) :
    Fit serde requests o ⟨runtimeSnapshotPath, jsonBytes (serde.snapshot request.frame stats)⟩ := by
  obtain ⟨text, written⟩ := serde.pairable request.frame line stats serialized
  exact ⟨by simp [Path.Lasting, runtimeSnapshotPath],
    fun _ => ⟨request, current, stats, snapshot, by simp [written, jsonBytes]⟩,
    fun same => by simp [latestIndexPath, runtimeSnapshotPath] at same,
    fun hour same => by simp [runtimeSnapshotPath, hourPath] at same⟩

/-- The index names the hour file that has the frame's line. -/
theorem fit_index {s : Store} {request : PersistRequest F Value} (current : request ∈ requests)
    (logged : Logged serde request.frame s) :
    Fit serde requests s.now ⟨latestIndexPath, jsonBytes (serde.index (frameIndex request.frame))⟩ := by
  obtain ⟨text, written⟩ := serde.indexable (frameIndex request.frame)
  exact ⟨by simp [Path.Lasting, latestIndexPath],
    fun same => by simp [latestIndexPath, runtimeSnapshotPath] at same,
    fun _ => ⟨request, current, by simp [written, jsonBytes], logged.2⟩,
    fun hour same => by simp [latestIndexPath, hourPath] at same⟩

/-- The index is written last, whatever has been written before it. -/
theorem latestIndex_safe {s : Store} {request : PersistRequest F Value} (current : request ∈ requests)
    (safe : Safe serde initial requests s) (logged : Logged serde request.frame s) :
    Ensures (do
        let s ← get
        let idx := latestIndex request.frame (HourlyWriter.currentHourFile s.hourly)
        atomicWriteJson latestIndexPath (serde.index idx) request.faults.index) s
      (fun _ t => Safe serde initial requests t) (fun _ t => Safe serde initial requests t) := by
  apply Ensures.bind
  apply Ensures.gets
  have named : HourlyWriter.currentHourFile s.hourly = some (hourFilename (frameHour request.frame)) := by
    rw [HourlyWriter.currentHourFile, logged.1, Option.map_some]
  simp only [named]
  apply (atomicWriteJson_safe safe rfl _ _ (fit_index current logged)).mono
  · exact fun _ _ done => done.1
  · exact fun _ _ bad => bad

theorem publishArtifacts_safe {s : Store} {request : PersistRequest F Value}
    (current : request ∈ requests) (safe : Safe serde initial requests s)
    (logged : Logged serde request.frame s) :
    Ensures (publishArtifacts serde request.frame request.statsSnapshot request.faults) s
      (fun _ t => Safe serde initial requests t) (fun _ t => Safe serde initial requests t) := by
  unfold publishArtifacts
  apply Ensures.bind
  have plain : Fit serde requests s.now ⟨latestSnapshotPath, jsonBytes (serde.frame request.frame)⟩ :=
    fit_plain (by simp [Path.Lasting, latestSnapshotPath]) rfl
      (by simp [latestSnapshotPath, runtimeSnapshotPath]) (by simp [latestSnapshotPath, latestIndexPath])
  apply (atomicWriteJson_safe safe rfl _ _ plain).mono
  · intro _ t success
    obtain ⟨safe₁, same₁⟩ := success
    have logged₁ := logged.sameLog same₁
    cases snapshot : request.statsSnapshot with
    | none => exact latestIndex_safe current safe₁ logged₁
    | some stats =>
      simp only
      apply Ensures.bind
      have plain' : Fit serde requests t.now ⟨statsSnapshotPath, jsonBytes (serde.value stats)⟩ :=
        fit_plain (by simp [Path.Lasting, statsSnapshotPath]) rfl
          (by simp [statsSnapshotPath, runtimeSnapshotPath])
          (by simp [statsSnapshotPath, latestIndexPath])
      apply (atomicWriteJson_safe safe₁ rfl _ _ plain').mono
      · intro _ u success
        obtain ⟨safe₂, same₂⟩ := success
        apply Ensures.bind
        obtain ⟨-, line, serialized, -⟩ := logged
        apply (atomicWriteJson_safe safe₂ rfl _ _ (fit_snapshot current serialized snapshot)).mono
        · intro _ v success
          obtain ⟨safe₃, same₃⟩ := success
          exact latestIndex_safe current safe₃ ((logged₁.sameLog same₂).sameLog same₃)
        · exact fun _ _ bad => bad
      · exact fun _ _ bad => bad
  · exact fun _ _ bad => bad

theorem serve_safe {w : Worker F Value} {request : PersistRequest F Value}
    (safe : Safe serde initial (w.answered.map Prod.fst) w.store) :
    Safe serde initial ((serve serde w request).answered.map Prod.fst) (serve serde w request).store := by
  let requests := w.answered.map Prod.fst ++ [request]
  have grown : Safe serde initial requests w.store :=
    safe.mono (fun other member => List.mem_append_left _ member)
  have current : request ∈ requests := List.mem_append_right _ List.mem_cons_self
  have ends : Ensures
      (persistRuntimeArtifacts serde request.frame request.statsSnapshot request.faults) w.store
      (fun _ t => Safe serde initial requests t) (fun _ t => Safe serde initial requests t) := by
    unfold persistRuntimeArtifacts
    apply Ensures.seq (appendJsonl_safe grown request.frame _ _)
    · exact fun _ t ⟨safe, logged⟩ => publishArtifacts_safe current safe logged
    · exact fun _ _ bad => bad
  unfold Ensures at ends
  unfold serve persistWithMetrics
  cases result : (persistRuntimeArtifacts serde request.frame request.statsSnapshot
      request.faults).run.run w.store with
  | mk answer store =>
    simp only [result] at ends ⊢
    cases answer <;> simpa [requests] using ends

theorem reachable_safe {w : Worker F Value} (reach : (worker serde initial).Reachable w) :
    Safe serde initial (w.answered.map Prod.fst) w.store := by
  apply System.Reaches.invariant reach
    (fun w => Safe serde initial (w.answered.map Prod.fst) w.store)
  · have untouched : Intact serde initial [] ⟨initial, []⟩ :=
      ⟨fun _ _ => rfl, fun _ member => absurd member List.not_mem_nil, fun _ last => nomatch last⟩
    refine ⟨⟨consistent_new, fun hour at_hour => by cases at_hour⟩, untouched, ?_, ?_, ?_⟩
    · intro o member
      rw [List.mem_singleton.mp member]
      exact untouched
    · exact fun call member => by cases member
    · intro o member call renamed
      rw [List.mem_singleton.mp member] at renamed
      cases renamed
  · intro u request v safe moved
    obtain rfl : serve serde u request = v := Option.some.inj moved
    exact serve_safe safe

/-- In every state the files go through, whatever has failed before: a lasting file is untouched or
holds the complete text of one call; a written `snapshot.json` is a pair of one request; and the hour
file a written `latest` names holds the line of the frame it names. -/
theorem publication_untorn (serde : Serde F Value) (initial : Files) (w : Worker F Value)
    (reach : (worker serde initial).Reachable w) (o : Observation) (observed : o ∈ w.store.seen) :
    (∀ path, path.Lasting →
      ((∀ call ∈ o.renamed, call.path ≠ path) ∧ o.text path = (initial path).map File.text) ∨
        ∃ call ∈ w.store.calls, call.path = path ∧ o.text path = some call.text) ∧
    ((∃ call ∈ o.renamed, call.path = runtimeSnapshotPath) →
      ∃ text, o.text runtimeSnapshotPath = some text ∧
        Pairs serde (w.answered.map Prod.fst) text) ∧
    ((∃ call ∈ o.renamed, call.path = latestIndexPath) →
      ∃ text, o.text latestIndexPath = some text ∧
        Indexes serde (w.answered.map Prod.fst) o text) := by
  have safe := reachable_safe reach
  have intact := safe.seen o observed
  refine ⟨?_, ?_, ?_⟩
  · intro path lasting
    by_cases written : ∃ call ∈ o.renamed, call.path = path
    · obtain ⟨call, last, text⟩ := intact.held lasting written
      obtain ⟨member, about⟩ := lastRenamed_mem last
      exact Or.inr ⟨call, safe.seen_begun o observed call member, about, text⟩
    · have never : ∀ call ∈ o.renamed, call.path ≠ path :=
        fun call member about => written ⟨call, member, about⟩
      exact Or.inl ⟨never, intact.untouched lasting never⟩
  · intro written
    obtain ⟨call, last, text⟩ := intact.held (by decide) written
    obtain ⟨member, about⟩ := lastRenamed_mem last
    exact ⟨call.text, text, intact.paired call member about⟩
  · intro written
    obtain ⟨call, last, text⟩ := intact.held (by decide) written
    exact ⟨call.text, text, intact.indexed call last⟩

/-- A request is published; the next one, of another hour, fails at its index. -/
def interrupted : List (PersistRequest Int Text) :=
  [plainRequest 1 5 (some ['{', '}']) .none,
    plainRequest 2 3605 none { Faults.none with index := { WriteFaults.none with write := .fail 3 } }]

set_option maxRecDepth 8000 in
theorem publication_untorn_interrupted :
    ∃ w, (worker plainSerde fun _ => none).Reachable w ∧ ∃ o ∈ w.store.seen,
      ∃ text, o.text latestIndexPath = some text ∧
        Indexes plainSerde (w.answered.map Prod.fst) o text := by
  let w := ((worker plainSerde fun _ => none).run interrupted).get (by decide)
  let o := w.store.seen.getLast (by decide)
  have reach : (worker plainSerde fun _ => none).Reachable w :=
    System.reachable_of_run (Option.some_get _).symm
  have observed : o ∈ w.store.seen := List.getLast_mem _
  have written : ∃ call ∈ o.renamed, call.path = latestIndexPath := by decide
  exact ⟨w, reach, o, observed, (publication_untorn plainSerde _ w reach o observed).2.2 written⟩

end SensorGateway.Storage.Publication

import Mathlib.Data.List.Dedup
import SensorGateway.Lib.Grouping
import SensorGateway.Storage.Collection
import SensorGateway.Storage.Publication

/-! Process crashes. The storage process can end between any two of its file operations, and a worker
started afterwards goes on with the files as they are and with nothing in its cache. -/

namespace SensorGateway.Storage.Crashes
open SensorGateway.Lib SensorGateway.Lib.Fallible SensorGateway.Lib.Lines
open SensorGateway.Lib.Transition SensorGateway.Types Disk Persist HourlyLog Publication
open Persist.HourlyWriter (At push)
variable {F Value : Type} (serde : Serde F Value)

/-- A request and the answer its sender has got, if the process has lived to give one. -/
structure Sent (F Value : Type) where
  request : PersistRequest F Value
  answer : Option (Except StorageError Unit)

def Sent.acknowledged (sent : Sent F Value) : Bool := sent.answer.any Except.isOk

/-- The worker going on, and the requests that it and all workers before it were sent. -/
structure History (F Value : Type) where
  worker : Worker F Value
  sent : List (Sent F Value)

inductive Event (F Value : Type) where
  | persist (request : PersistRequest F Value)
  /-- The process ends while it serves the request, after so many changes to the files. -/
  | crash (request : PersistRequest F Value) (moment : Nat)
  | restart

/-- The worker in front of a request, with the states of the files counted from here on. -/
def watched (w : Worker F Value) : Worker F Value :=
  { w with store := { w.store with seen := [w.store.now] } }

/-- A new process on the files that the last one has left. -/
def reopened (o : Observation) : Worker F Value where
  store := ⟨o.files, HourlyWriter.new, o.renamed, o.renamed, [o]⟩
  metrics := StorageMetrics.default
  answered := []

/-- Any requests with any failures of their operations, crashes and restarts. -/
def crashing (initial : Files) : System (History F Value) (Event F Value) where
  init := ⟨(worker serde initial).init, []⟩
  step := fun s event =>
    match event with
    | .persist request =>
      some ⟨serve serde (watched s.worker) request,
        s.sent ++ [⟨request, some (persistWithMetrics serde request (watched s.worker)).1⟩]⟩
    | .crash request moment =>
      (serve serde (watched s.worker) request).store.seen[moment]?.map fun o =>
        ⟨reopened o, s.sent ++ [⟨request, none⟩]⟩
    | .restart => some ⟨reopened s.worker.store.now, s.sent⟩

/-- The requests for an hour. -/
def ofHour (sent : List (Sent F Value)) (hour : Int) : List (Sent F Value) :=
  sent.filter fun x => decide (frameHour x.request.frame = hour)

def linesOf (sent : List (Sent F Value)) : List Text :=
  sent.filterMap fun x => serde.frame x.request.frame

/-- The log of an hour is what it was at the start and then one line for each of the requests kept,
in the order in which they were sent. All acknowledged ones are among these. -/
structure Keeps (initial : Files) (o : Observation) (sent : List (Sent F Value)) (hour : Int)
    (kept : List (Sent F Value)) : Prop where
  of_sent : kept.Sublist (ofHour sent hour)
  acknowledged : ((ofHour sent hour).filter Sent.acknowledged).Sublist kept
  serialized : ∀ x ∈ kept, (serde.frame x.request.frame).isSome
  log : logAt o hour = logAt ⟨initial, []⟩ hour ++ linesOf serde kept

/-! One request: where its line is at each moment. -/

/-- A moment has the same log files as another. -/
def SameFiles (o o' : Observation) : Prop :=
  ∀ path, path.name.extension = some .jsonl → o'.text path = o.text path

/-- What a moment of a request shows of the log files. -/
inductive Shows (s : Store) (frame : AggregatedFrame F) (o : Observation) : Prop where
  | before (same : SameFiles s.now o)
  | after (line text : Text) (serialized : serde.frame frame = some line)
      (there : o.text (hourPath (frameHour frame)) = some text)
      (rows : entries text = cached (rotated s (frameHour frame)) ++ [line])
      (others : ∀ path, path.name.extension = some .jsonl → path ≠ hourPath (frameHour frame) →
        o.text path = s.now.text path)

theorem SameFiles.log {o o' : Observation} (same : SameFiles o o') (hour : Int) :
    logAt o' hour = logAt o hour := by
  rw [logAt, same (hourPath hour) rfl, logAt]

theorem lasting_of_jsonl {path : Path} (jsonl : path.name.extension = some .jsonl) : path.Lasting := by
  rw [Path.Lasting, jsonl]
  decide

theorem sameFiles_of_agrees {o o' : Observation} (agrees : o.Agrees o') : SameFiles o o' :=
  fun path jsonl => agrees.2 path (lasting_of_jsonl jsonl)

theorem sameFiles_of_publishes {o o' : Observation} {call : Publication}
    (publishes : o.Publishes call o') (artifact : call.path.name.extension ≠ some .jsonl) :
    SameFiles o o' := by
  intro path jsonl
  apply publishes.2.2 path (lasting_of_jsonl jsonl)
  rintro rfl
  exact artifact jsonl

/-- From `s` to `t` no log file has changed at any moment, nor has the writer. -/
structure Calm (s t : Store) : Prop where
  hourly : t.hourly = s.hourly
  now : SameFiles s.now t.now
  seen : ∀ o ∈ t.seen, o ∈ s.seen ∨ SameFiles s.now o

theorem Calm.refl (s : Store) : Calm s s := ⟨rfl, fun _ _ => rfl, fun _ member => Or.inl member⟩

theorem SameFiles.trans {o o' o'' : Observation} (first : SameFiles o o') (second : SameFiles o' o'') :
    SameFiles o o'' :=
  fun path jsonl => (second path jsonl).trans (first path jsonl)

theorem Calm.trans {s t u : Store} (first : Calm s t) (second : Calm t u) : Calm s u := by
  refine ⟨second.hourly.trans first.hourly, first.now.trans second.now, ?_⟩
  intro o member
  rcases second.seen o member with earlier | same
  · exact first.seen o earlier
  · exact Or.inr (first.now.trans same)

theorem calm_of_published {s t : Store} {call : Publication} (published : Published s t call)
    (artifact : call.path.name.extension ≠ some .jsonl) : Calm s t := by
  refine ⟨published.hourly, sameFiles_of_publishes published.now artifact, ?_⟩
  intro o member
  rcases published.seen o member with earlier | during | done
  · exact Or.inl earlier
  · exact Or.inr (sameFiles_of_agrees during)
  · exact Or.inr (sameFiles_of_publishes done artifact)

theorem calm_of_abandoned {s t : Store} {call : Publication} (abandoned : Abandoned s t call) :
    Calm s t := by
  refine ⟨abandoned.hourly, sameFiles_of_agrees abandoned.now, ?_⟩
  intro o member
  rcases abandoned.seen o member with earlier | during
  · exact Or.inl earlier
  · exact Or.inr (sameFiles_of_agrees during)

theorem atomicWriteJson_calm {s t : Store} (calm : Calm s t) {path : Path} (lasting : path.Lasting)
    (artifact : path.name.extension ≠ some .jsonl) (serialized : Option Text) (faults : WriteFaults) :
    Ensures (atomicWriteJson path serialized faults) t (fun _ u => Calm s u) (fun _ u => Calm s u) := by
  apply (atomicWriteBytes_ensures t lasting (jsonBytes serialized) faults).mono
  · exact fun _ u done => calm.trans (calm_of_published done.2 artifact)
  · exact fun _ u ended => calm.trans (calm_of_abandoned ended.2)

/-- However far the runtime artifacts get, the logs stay as they are. -/
theorem publishArtifacts_calm (s : Store) (request : PersistRequest F Value) :
    Ensures (publishArtifacts serde request.frame request.statsSnapshot request.faults) s
      (fun _ t => Calm s t) (fun _ t => Calm s t) := by
  have index {t : Store} (calm : Calm s t) :
      Ensures (do
        let s ← get
        let idx := latestIndex request.frame (HourlyWriter.currentHourFile s.hourly)
        atomicWriteJson latestIndexPath (serde.index idx) request.faults.index) t
        (fun _ t => Calm s t) (fun _ t => Calm s t) := by
    apply Ensures.bind
    apply Ensures.gets
    exact atomicWriteJson_calm calm (by decide) (by decide) _ _
  unfold publishArtifacts
  apply Ensures.seq (atomicWriteJson_calm (Calm.refl s) (by decide) (by decide) _ _)
  · intro _ t calm
    cases request.statsSnapshot with
    | none => exact index calm
    | some stats =>
      simp only
      apply Ensures.seq (atomicWriteJson_calm calm (by decide) (by decide) _ _)
      · intro _ u calm
        apply Ensures.seq (atomicWriteJson_calm calm (by decide) (by decide) _ _)
        · exact fun _ v calm => index calm
        · exact fun _ _ calm => calm
      · exact fun _ _ calm => calm
  · exact fun _ _ calm => calm

variable {serde}

theorem Shows.sameFiles {s : Store} {frame : AggregatedFrame F} {o o' : Observation}
    (shows : Shows serde s frame o) (same : SameFiles o o') : Shows serde s frame o' := by
  cases shows with
  | before first => exact Shows.before (first.trans same)
  | after line text serialized there rows others =>
    refine Shows.after line text serialized ((same _ rfl).trans there) rows ?_
    intro path jsonl apart
    exact (same path jsonl).trans (others path jsonl apart)

/-- The hour file as it is once the line of the frame has been put behind the cached ones. -/
theorem shows_of_publishes {s : Store} (ahead : Ahead s) {frame : AggregatedFrame F} {line : Text}
    (serialized : serde.frame frame = some line) {o : Observation}
    (done : s.now.Publishes
      (hourCall (push (rotated s (frameHour frame)) line) (frameHour frame)) o) :
    Shows serde s frame o := by
  obtain ⟨single, plain, brace⟩ := serde.compact frame line serialized
  refine Shows.after line _ serialized done.2.1 ?_ ?_
  · rw [hourCall, entries_unlines ((ahead.consistent.rotated _).push single).single]
    exact cached_push _ (bright_of_brace brace) plain
  · exact fun path jsonl apart => done.2.2 path (lasting_of_jsonl jsonl) apart

/-- The log files, now and at each moment of the request so far. -/
def ShowsAll (serde : Serde F Value) (s : Store) (frame : AggregatedFrame F) (t : Store) : Prop :=
  Shows serde s frame t.now ∧ ∀ o ∈ t.seen, Shows serde s frame o

/-- The line of a request is in the log at once or not at all. -/
theorem persist_shows (serde : Serde F Value) {s : Store} (ahead : Ahead s) (alone : s.seen = [s.now])
    (request : PersistRequest F Value) :
    Ensures (persistRuntimeArtifacts serde request.frame request.statsSnapshot request.faults) s
      (fun _ t => (∃ line, Added serde s t request.frame line) ∧ ShowsAll serde s request.frame t)
      (fun _ t => ((∃ line, Added serde s t request.frame line) ∨ Stuck serde s request.frame t) ∧
        ShowsAll serde s request.frame t) := by
  have start : ∀ o ∈ s.seen, Shows serde s request.frame o := by
    intro o member
    rw [alone, List.mem_singleton] at member
    exact Shows.before fun path _ => by rw [member]
  unfold persistRuntimeArtifacts
  apply Ensures.seq (appendJsonl_ensures serde ahead.consistent request.frame _ _)
  · rintro _ t ⟨-, line, serialized, published⟩
    have added := added_of_published serialized ahead.consistent published
    have done : Shows serde s request.frame t.now := shows_of_publishes ahead serialized published.now
    have during : ∀ o ∈ t.seen, Shows serde s request.frame o := by
      intro o member
      rcases published.seen o member with earlier | agrees | done
      · exact start o earlier
      · exact Shows.before (sameFiles_of_agrees agrees)
      · exact shows_of_publishes ahead serialized done
    have later (u : Store) (calm : Calm t u) :
        Added serde s u request.frame line ∧ ShowsAll serde s request.frame u := by
      have same : SameLog t u := ⟨calm.hourly, fun hour => calm.now (hourPath hour) rfl⟩
      refine ⟨added.sameLog same, done.sameFiles calm.now, ?_⟩
      intro o member
      rcases calm.seen o member with earlier | same
      · exact during o earlier
      · exact done.sameFiles same
    apply (publishArtifacts_calm serde t request).mono
    · exact fun _ u calm => ⟨⟨line, (later u calm).1⟩, (later u calm).2⟩
    · exact fun _ u calm => ⟨Or.inl ⟨line, (later u calm).1⟩, (later u calm).2⟩
  · rintro e t ⟨-, stuck⟩
    refine ⟨Or.inr stuck, ?_⟩
    cases stuck with
    | before => exact ⟨Shows.before fun _ _ => rfl, start⟩
    | rotated => exact ⟨Shows.before fun _ _ => rfl, start⟩
    | pushed line serialized t abandoned =>
      refine ⟨Shows.before (sameFiles_of_agrees abandoned.now), ?_⟩
      intro o member
      rcases abandoned.seen o member with earlier | agrees
      · exact start o earlier
      · exact Shows.before (sameFiles_of_agrees agrees)

/-! All requests: which of them have their lines in the log. -/

/-- What the writer has cached: the lines kept, and those of later requests that have failed. -/
structure Caches (serde : Serde F Value) (initial : Files) (s : Store) (sent : List (Sent F Value))
    (hour : Int) (kept pending : List (Sent F Value)) : Prop where
  keeps : Keeps serde initial s.now sent hour kept
  of_sent : (kept ++ pending).Sublist (ofHour sent hour)
  serialized : ∀ x ∈ pending, (serde.frame x.request.frame).isSome
  cache : cached (rotated s hour) = logAt ⟨initial, []⟩ hour ++ linesOf serde (kept ++ pending)

variable {initial : Files} {s t : Store} {o : Observation} {sent : List (Sent F Value)} {hour : Int}
  {kept pending : List (Sent F Value)} {x : Sent F Value}

theorem ofHour_append_here (sent : List (Sent F Value)) (here : frameHour x.request.frame = hour) :
    ofHour (sent ++ [x]) hour = ofHour sent hour ++ [x] := by
  simp [ofHour, List.filter_append, here]

theorem ofHour_append_away (sent : List (Sent F Value)) (away : frameHour x.request.frame ≠ hour) :
    ofHour (sent ++ [x]) hour = ofHour sent hour := by
  simp [ofHour, List.filter_append, away]

theorem ofHour_sublist_append (sent : List (Sent F Value)) (x : Sent F Value) (hour : Int) :
    (ofHour sent hour).Sublist (ofHour (sent ++ [x]) hour) := by
  rw [ofHour, ofHour, List.filter_append]
  exact List.sublist_append_left _ _

theorem linesOf_append (first second : List (Sent F Value)) :
    linesOf serde (first ++ second) = linesOf serde first ++ linesOf serde second :=
  List.filterMap_append

theorem linesOf_singleton {line : Text} (serialized : serde.frame x.request.frame = some line) :
    linesOf serde [x] = [line] := by
  simp [linesOf, serialized]

/-- A writer with nothing in its cache but the log. -/
theorem Keeps.caches (keeps : Keeps serde initial t.now sent hour kept)
    (level : cached (rotated t hour) = logAt t.now hour) :
    Caches serde initial t sent hour kept [] := by
  constructor
  · exact keeps
  · rw [List.append_nil]
    exact keeps.of_sent
  · exact fun y member => by cases member
  · rw [List.append_nil, level, keeps.log]

/-- A request that is not acknowledged may leave the log as it is. -/
theorem Keeps.unanswered (keeps : Keeps serde initial o sent hour kept) {o' : Observation}
    (same : logAt o' hour = logAt o hour) (silent : x.acknowledged = false) :
    Keeps serde initial o' (sent ++ [x]) hour kept := by
  constructor
  · exact keeps.of_sent.trans (ofHour_sublist_append sent x hour)
  · have none : ([x].filter fun y => decide (frameHour y.request.frame = hour)).filter
        Sent.acknowledged = [] := by
      rw [List.filter_comm, List.filter_cons_of_neg (by simp [silent]), List.filter_nil, List.filter_nil]
    rw [ofHour, List.filter_append, List.filter_append, none, List.append_nil]
    exact keeps.acknowledged
  · exact keeps.serialized
  · exact same.trans keeps.log

/-- A request of another hour leaves this one alone. -/
theorem Keeps.elsewhere (keeps : Keeps serde initial o sent hour kept) {o' : Observation}
    (same : logAt o' hour = logAt o hour) (away : frameHour x.request.frame ≠ hour) :
    Keeps serde initial o' (sent ++ [x]) hour kept := by
  constructor
  · rw [ofHour_append_away sent away]
    exact keeps.of_sent
  · rw [ofHour_append_away sent away]
    exact keeps.acknowledged
  · exact keeps.serialized
  · exact same.trans keeps.log

/-- The line of a request comes into the log behind all that the writer has cached. -/
theorem Caches.gained (caches : Caches serde initial s sent hour kept pending) {line : Text}
    (here : frameHour x.request.frame = hour) (serialized : serde.frame x.request.frame = some line)
    (log : logAt o hour = cached (rotated s hour) ++ [line]) :
    Keeps serde initial o (sent ++ [x]) hour (kept ++ pending ++ [x]) := by
  constructor
  · rw [ofHour_append_here sent here]
    exact caches.of_sent.append_right [x]
  · rw [ofHour_append_here sent here, List.filter_append]
    have before : ((ofHour sent hour).filter Sent.acknowledged).Sublist (kept ++ pending) :=
      caches.keeps.acknowledged.trans (List.sublist_append_left kept pending)
    exact before.append List.filter_sublist
  · intro y member
    simp only [List.mem_append, List.mem_singleton] at member
    rcases member with (old | waiting) | rfl
    · exact caches.keeps.serialized y old
    · exact caches.serialized y waiting
    · exact Option.isSome_of_eq_some serialized
  · rw [log, caches.cache, linesOf_append (kept ++ pending) [x], linesOf_singleton serialized,
      List.append_assoc]

/-- At each moment of a request that nobody hears of, the log has the lines of some of the requests. -/
theorem Caches.shown (caches : Caches serde initial s sent hour kept pending)
    (shows : Shows serde s x.request.frame o) (silent : x.acknowledged = false) :
    ∃ kept', Keeps serde initial o (sent ++ [x]) hour kept' := by
  cases shows with
  | before same => exact ⟨kept, caches.keeps.unanswered (same.log hour) silent⟩
  | after line text serialized there rows others =>
    by_cases here : frameHour x.request.frame = hour
    · subst here
      refine ⟨_, caches.gained rfl serialized ?_⟩
      rw [logAt, there, Option.map_some, Option.getD_some, rows]
    · have same : logAt o hour = logAt s.now hour := by
        rw [logAt, others (hourPath hour) rfl fun same => here (hourPath_inj same).symm, logAt]
      exact ⟨kept, caches.keeps.elsewhere same here⟩

/-- Once the line is in the log, the cache has no other line. -/
theorem level_of_added {frame : AggregatedFrame F} {line : Text}
    (added : Added serde s t frame line) (hour : Int) :
    cached (rotated t hour) = logAt t.now hour := by
  by_cases here : At t.hourly hour
  · obtain ⟨single, plain, brace⟩ := serde.compact frame line added.serialized
    have current : hour = frameHour frame := by
      have at_hour := here.1
      rw [added.hourly] at at_hour
      exact eq_of_rotated at_hour
    rw [rotated, if_pos here, added.hourly, cached_push _ (bright_of_brace brace) plain, current,
      added.log]
  · exact cached_rotated here

theorem Caches.added (caches : Caches serde initial s sent hour kept pending) {line : Text}
    (added : Added serde s t x.request.frame line) :
    ∃ kept', Caches serde initial t (sent ++ [x]) hour kept' [] := by
  have level := level_of_added added hour
  by_cases here : frameHour x.request.frame = hour
  · subst here
    exact ⟨_, (caches.gained rfl added.serialized added.log).caches level⟩
  · have same := added.others (Ne.symm here)
    exact ⟨kept, (caches.keeps.elsewhere same here).caches level⟩

/-- The writer is at the hour it has rotated to. -/
theorem at_rotated {s : Store} (consistent : Consistent s.hourly) (hour : Int) :
    At (rotated s hour) hour := by
  refine ⟨rotated_hour s hour, ?_⟩
  rw [rotated_path consistent hour]
  rfl

/-- A request that fails in front of the log may leave its line in the cache. -/
theorem Caches.stuck (caches : Caches serde initial s sent hour kept pending) (ahead : Ahead s)
    (stuck : Stuck serde s x.request.frame t) (silent : x.acknowledged = false) :
    ∃ pending', Caches serde initial t (sent ++ [x]) hour kept pending' := by
  have logs := (stuck.spared ahead).logs hour
  have keeps := caches.keeps.unanswered logs silent
  have grown := caches.of_sent.trans (ofHour_sublist_append sent x hour)
  have consistent := ahead.consistent
  -- The writer has moved to the hour of the request, and has dropped its cache of another one.
  have left {hourly : HourlyWriter} (moved : t.hourly = hourly)
      (there : hourly.currentUnixHour = some (frameHour x.request.frame))
      (away : frameHour x.request.frame ≠ hour) :
      ∃ pending', Caches serde initial t (sent ++ [x]) hour kept pending' := by
    have gone : ¬At t.hourly hour := by
      intro at_hour
      have same := at_hour.1
      rw [moved, there, Option.some.injEq] at same
      exact away same
    exact ⟨[], keeps.caches (cached_rotated gone)⟩
  cases stuck with
  | before => exact ⟨pending, keeps, grown, caches.serialized, caches.cache⟩
  | rotated =>
    by_cases here : frameHour x.request.frame = hour
    · subst here
      refine ⟨pending, keeps, grown, caches.serialized, ?_⟩
      rw [HourlyLog.rotated, if_pos (at_rotated consistent _)]
      exact caches.cache
    · exact left rfl (rotated_hour s _) here
  | pushed line serialized t abandoned =>
    obtain ⟨single, plain, brace⟩ := serde.compact _ line serialized
    by_cases here : frameHour x.request.frame = hour
    · subst here
      refine ⟨pending ++ [x], keeps, ?_, ?_, ?_⟩
      · rw [ofHour_append_here sent rfl, ← List.append_assoc]
        exact caches.of_sent.append_right [x]
      · intro y member
        rcases List.mem_append.mp member with waiting | last
        · exact caches.serialized y waiting
        · rw [List.mem_singleton.mp last, serialized]
          rfl
      · have there : At t.hourly (frameHour x.request.frame) := by
          rw [abandoned.hourly]
          exact at_rotated consistent _
        rw [HourlyLog.rotated, if_pos there, abandoned.hourly]
        simp only
        rw [cached_push _ (bright_of_brace brace) plain, caches.cache, List.append_assoc,
          ← linesOf_singleton serialized, ← linesOf_append, List.append_assoc]
    · exact left abandoned.hourly (rotated_hour s _) here

/-- The invariant of the history. -/
structure Sound (serde : Serde F Value) (initial : Files) (s : History F Value) : Prop where
  safe : Safe serde initial (s.sent.map Sent.request) s.worker.store
  logs : ∀ hour, ∃ kept pending, Caches serde initial s.worker.store s.sent hour kept pending

theorem Caches.watched {w : Worker F Value}
    (caches : Caches serde initial w.store sent hour kept pending) :
    Caches serde initial (watched w).store sent hour kept pending :=
  ⟨caches.keeps, caches.of_sent, caches.serialized, caches.cache⟩

theorem Safe.watched {w : Worker F Value} {requests : List (PersistRequest F Value)}
    (safe : Safe serde initial requests w.store) : Safe serde initial requests (watched w).store where
  ahead := ⟨safe.ahead.consistent, safe.ahead.extends_log⟩
  now := safe.now
  seen := by
    intro o member
    rw [List.mem_singleton.mp member]
    exact safe.now
  begun := safe.begun
  seen_begun := by
    intro o member
    rw [List.mem_singleton.mp member]
    exact safe.begun

/-- What a served request has done, and what can be seen while it is served. -/
theorem serve_shows {w : Worker F Value} (ahead : Ahead (watched w).store)
    (request : PersistRequest F Value) :
    ShowsAll serde (watched w).store request.frame (serve serde (watched w) request).store ∧
      ((∃ line, Added serde (watched w).store (serve serde (watched w) request).store
          request.frame line) ∨
        Stuck serde (watched w).store request.frame (serve serde (watched w) request).store ∧
          (persistWithMetrics serde request (watched w)).1.isOk = false) := by
  have ends := persist_shows serde ahead rfl request
  unfold Ensures at ends
  unfold serve persistWithMetrics
  cases result : (persistRuntimeArtifacts serde request.frame request.statsSnapshot
      request.faults).run.run (watched w).store with
  | mk answer store =>
    simp only [result] at ends ⊢
    cases answer with
    | ok done => exact ⟨ends.2, Or.inl ends.1⟩
    | error err => exact ⟨ends.2, ends.1.imp_right fun stuck => ⟨stuck, rfl⟩⟩

/-- The files stay safe whoever has asked for what before. -/
theorem serve_safe_sent {w : Worker F Value}
    (safe : Safe serde initial (sent.map Sent.request) w.store) (request : PersistRequest F Value) :
    Safe serde initial (sent.map Sent.request ++ [request]) (serve serde w request).store := by
  let told : Worker F Value := { w with answered := sent.map fun x => (x.request, .ok ()) }
  have requests : told.answered.map Prod.fst = sent.map Sent.request := by
    rw [List.map_map]
    rfl
  have kept : Safe serde initial ((serve serde told request).answered.map Prod.fst)
      (serve serde told request).store := serve_safe (requests ▸ safe)
  have grown : (serve serde told request).answered.map Prod.fst =
      sent.map Sent.request ++ [request] := by
    rw [← requests, ← List.map_singleton (f := Prod.fst) (a := (request, _)), ← List.map_append]
    rfl
  rw [grown] at kept
  exact kept

theorem safe_reopened {requests : List (PersistRequest F Value)}
    (intact : Intact serde initial requests o) :
    Safe serde initial requests (reopened o : Worker F Value).store where
  ahead := ⟨consistent_new, fun hour at_hour => by cases at_hour⟩
  now := intact
  seen := by
    intro other member
    rw [List.mem_singleton.mp member]
    exact intact
  begun := fun call member => member
  seen_begun := by
    intro other member call renamed
    rw [List.mem_singleton.mp member] at renamed
    exact renamed

theorem Keeps.reopened (keeps : Keeps serde initial o sent hour kept) :
    Caches serde initial (reopened o : Worker F Value).store sent hour kept [] :=
  Keeps.caches (t := (Crashes.reopened o).store) keeps (cached_rotated fun at_hour => by cases at_hour.1)

/-- Every log file is that of an hour and has a line in it. -/
def Filled (o : Observation) : Prop :=
  ∀ path, path.name.extension = some .jsonl → (o.text path).isSome = true →
    ∃ hour, path = hourPath hour ∧ logAt o hour ≠ []

theorem Filled.shows (filled : Filled s.now) {frame : AggregatedFrame F}
    (shows : Shows serde s frame o) : Filled o := by
  intro path jsonl there
  cases shows with
  | before same =>
    rw [same path jsonl] at there
    obtain ⟨hour, rfl, some_line⟩ := filled path jsonl there
    exact ⟨hour, rfl, same.log hour ▸ some_line⟩
  | after line text serialized found rows others =>
    by_cases here : path = hourPath (frameHour frame)
    · refine ⟨frameHour frame, here, ?_⟩
      rw [logAt, found, Option.map_some, Option.getD_some, rows]
      exact List.append_ne_nil_of_right_ne_nil _ (List.cons_ne_nil _ _)
    · have same := others path jsonl here
      rw [same] at there
      obtain ⟨hour, rfl, some_line⟩ := filled path jsonl there
      refine ⟨hour, rfl, ?_⟩
      rwa [logAt, same]

variable {u : History F Value} {v : History F Value}

theorem Sound.filled_step (sound : Sound serde initial u) (filled : Filled u.worker.store.now)
    {event : Event F Value} (moved : (crashing serde initial).step u event = some v) :
    Filled v.worker.store.now := by
  have ahead := (Safe.watched sound.safe).ahead
  cases event with
  | persist request =>
    cases moved
    exact Filled.shows (s := (watched u.worker).store) filled (serve_shows ahead request).1.1
  | crash request moment =>
    obtain ⟨o, at_moment, rfl⟩ := Option.map_eq_some_iff.mp moved
    have member := List.mem_of_getElem? at_moment
    exact Filled.shows (s := (watched u.worker).store) filled ((serve_shows ahead request).1.2 o member)
  | restart =>
    cases moved
    exact filled

theorem Sound.step (sound : Sound serde initial u) {event : Event F Value}
    (moved : (crashing serde initial).step u event = some v) : Sound serde initial v := by
  have safe := Safe.watched sound.safe
  cases event with
  | persist request =>
    cases moved
    obtain ⟨-, done⟩ := serve_shows safe.ahead request
    refine ⟨?_, ?_⟩
    · rw [List.map_append]
      exact serve_safe_sent safe request
    · intro hour
      let x : Sent F Value := ⟨request, some (persistWithMetrics serde request (watched u.worker)).1⟩
      obtain ⟨kept, pending, caches⟩ := sound.logs hour
      rcases done with ⟨line, added⟩ | ⟨stuck, failed⟩
      · obtain ⟨kept', after⟩ := caches.watched.added (x := x) added
        exact ⟨kept', [], after⟩
      · obtain ⟨pending', after⟩ := caches.watched.stuck (x := x) safe.ahead stuck failed
        exact ⟨kept, pending', after⟩
  | crash request moment =>
    obtain ⟨o, at_moment, rfl⟩ := Option.map_eq_some_iff.mp moved
    have member := List.mem_of_getElem? at_moment
    refine ⟨?_, ?_⟩
    · rw [List.map_append]
      exact safe_reopened ((serve_safe_sent safe request).seen o member)
    · intro hour
      obtain ⟨kept, pending, caches⟩ := sound.logs hour
      have shows := (serve_shows safe.ahead request).1.2 o member
      obtain ⟨kept', keeps⟩ := caches.watched.shown (x := ⟨request, none⟩) shows rfl
      exact ⟨kept', [], keeps.reopened⟩
  | restart =>
    cases moved
    refine ⟨safe_reopened sound.safe.now, ?_⟩
    intro hour
    obtain ⟨kept, pending, caches⟩ := sound.logs hour
    exact ⟨kept, [], caches.keeps.reopened⟩

theorem sound_start (serde : Serde F Value) (initial : Files) :
    Sound serde initial (crashing serde initial).init where
  safe := reachable_safe (System.ReachesUnder.refl _)
  logs := by
    intro hour
    refine ⟨[], [], Keeps.caches (t := (worker serde initial).init.store) ?_ ?_⟩
    · exact ⟨List.Sublist.refl [], List.Sublist.refl [], fun x member => (by cases member),
        (List.append_nil _).symm⟩
    · exact cached_rotated fun at_hour => by cases at_hour.1

theorem reachable_sound {s : History F Value} (reach : (crashing serde initial).Reachable s) :
    Sound serde initial s :=
  System.Reaches.invariant reach (Sound serde initial) (sound_start serde initial)
    (fun _ _ _ sound moved => sound.step moved)

/-- In every hour the log is what it was at the start and then a line of each request kept. -/
theorem exists_kept {s : History F Value} (reach : (crashing serde initial).Reachable s) (hour : Int) :
    ∃ kept, Keeps serde initial s.worker.store.now s.sent hour kept := by
  obtain ⟨kept, pending, caches⟩ := (reachable_sound reach).logs hour
  exact ⟨kept, caches.keeps⟩

/-- No crash loses an acknowledged frame, and no frame is logged twice or out of order. -/
theorem acknowledged_survive (serde : Serde F Value) (initial : Files) (s : History F Value)
    (reach : (crashing serde initial).Reachable s) (hour : Int) :
    ∃ kept, Keeps serde initial s.worker.store.now s.sent hour kept :=
  exists_kept reach hour

/-- A frame is published; the next request gets its line into the log and the process ends before the
answer; the frame after it is of another hour. -/
def interrupted : List (Event Int Text) :=
  [.persist (plainRequest 1 5 none .none), .crash (plainRequest 2 6 none .none) 6,
    .persist (plainRequest 3 3605 none .none)]

set_option maxRecDepth 8000 in
theorem acknowledged_survive_interrupted :
    ∃ s : History Int Text, (crashing plainSerde fun _ => none).run interrupted = some s ∧
      (ofHour s.sent 0).map Sent.acknowledged = [true, false] ∧
      (logAt s.worker.store.now 0).length = 2 ∧
      ∃ kept, Keeps plainSerde (fun _ => none) s.worker.store.now s.sent 0 kept := by
  let s := ((crashing plainSerde fun _ => none).run interrupted).get (by decide)
  have replay : (crashing plainSerde fun _ => none).run interrupted = some s :=
    (Option.some_get _).symm
  exact ⟨s, replay, by decide, by decide,
    acknowledged_survive plainSerde _ s (System.reachable_of_run replay) 0⟩

/-- What a crash leaves of the artifacts: a lasting file is as it was at the start or complete, the
runtime snapshot is of one request, and the hour file that `latest` names has the line of its frame. -/
theorem artifacts_survive (serde : Serde F Value) (initial : Files) (s : History F Value)
    (reach : (crashing serde initial).Reachable s) :
    (∀ path, path.Lasting →
      s.worker.store.now.text path = (initial path).map File.text ∨
        ∃ call ∈ s.worker.store.renamed, call.path = path ∧
          s.worker.store.now.text path = some call.text) ∧
    ((∃ call ∈ s.worker.store.renamed, call.path = runtimeSnapshotPath) →
      ∃ text, s.worker.store.now.text runtimeSnapshotPath = some text ∧
        Pairs serde (s.sent.map Sent.request) text) ∧
    ((∃ call ∈ s.worker.store.renamed, call.path = latestIndexPath) →
      ∃ text, s.worker.store.now.text latestIndexPath = some text ∧
        Indexes serde (s.sent.map Sent.request) s.worker.store.now text) := by
  have intact := (reachable_sound reach).safe.now
  refine ⟨?_, ?_, ?_⟩
  · intro path lasting
    by_cases written : ∃ call ∈ s.worker.store.renamed, call.path = path
    · obtain ⟨call, last, text⟩ := intact.held lasting written
      obtain ⟨member, about⟩ := lastRenamed_mem last
      exact Or.inr ⟨call, member, about, text⟩
    · exact Or.inl (intact.untouched lasting fun call member about => written ⟨call, member, about⟩)
  · intro written
    obtain ⟨call, last, text⟩ := intact.held (by decide) written
    obtain ⟨member, about⟩ := lastRenamed_mem last
    exact ⟨call.text, text, intact.paired call member about⟩
  · intro written
    obtain ⟨call, last, text⟩ := intact.held (by decide) written
    exact ⟨call.text, text, intact.indexed call last⟩

set_option maxRecDepth 8000 in
theorem artifacts_survive_interrupted :
    ∃ s : History Int Text, (crashing plainSerde fun _ => none).run interrupted = some s ∧
      ∃ text, s.worker.store.now.text latestIndexPath = some text ∧
        Indexes plainSerde (s.sent.map Sent.request) s.worker.store.now text := by
  let s := ((crashing plainSerde fun _ => none).run interrupted).get (by decide)
  have replay : (crashing plainSerde fun _ => none).run interrupted = some s :=
    (Option.some_get _).symm
  have written : ∃ call ∈ s.worker.store.renamed, call.path = latestIndexPath := by decide
  exact ⟨s, replay,
    (artifacts_survive plainSerde _ s (System.reachable_of_run replay)).2.2 written⟩

/-! A directory that was empty: it holds a collection of frames, as if some of the requests had been
served by one process without failures. -/

def framesOf (sent : List (Sent F Value)) : List (AggregatedFrame F) :=
  sent.map fun x => x.request.frame

theorem mem_ofHour {y : Sent F Value} :
    y ∈ ofHour sent hour ↔ y ∈ sent ∧ frameHour y.request.frame = hour := by
  rw [ofHour, List.mem_filter, decide_eq_true_eq]

theorem linesOf_framesOf (serialized : ∀ y ∈ kept, (serde.frame y.request.frame).isSome) :
    (framesOf kept).mapM serde.frame = some (linesOf serde kept) := by
  induction kept with
  | nil => rfl
  | cons y rest ih =>
    obtain ⟨here, others⟩ := List.forall_mem_cons.mp serialized
    obtain ⟨line, written⟩ := Option.isSome_iff_exists.mp here
    have below := ih others
    rw [framesOf, linesOf] at below
    rw [framesOf, linesOf, List.map_cons, List.mapM_cons, below, List.filterMap_cons, written]
    rfl

/-- The frames that the log files hold are some of those sent, hour by hour in their order, with all
acknowledged ones among them. -/
def Retains (sent : List (Sent F Value)) (frames : List (AggregatedFrame F)) : Prop :=
  ∀ hour, (Collection.ofHour frames hour).Sublist (framesOf (ofHour sent hour)) ∧
    (framesOf ((ofHour sent hour).filter Sent.acknowledged)).Sublist (Collection.ofHour frames hour)

theorem reachable_filled {s : History F Value}
    (reach : (crashing serde fun _ => none).Reachable s) : Filled s.worker.store.now := by
  apply System.ReachesUnder.invariant reach (fun s => Filled s.worker.store.now)
  · intro path jsonl there
    cases there
  · exact fun u event v before filled _ moved => (reachable_sound before).filled_step filled moved

/-- After any failures and crashes the directory is one that requests without failures have filled. -/
theorem stored_after_crashes (serde : Serde F Value) (s : History F Value)
    (reach : (crashing serde fun _ => none).Reachable s) :
    ∃ frames, Collection.Stored serde s.worker.store.now frames ∧ Retains s.sent frames := by
  have sound := reachable_sound reach
  choose kept keeps using fun hour => exists_kept reach hour
  let hours := (s.sent.map fun x => frameHour x.request.frame).dedup
  let frames := hours.flatMap fun hour => framesOf (kept hour)
  have own (hour : Int) : ∀ frame ∈ framesOf (kept hour), frameHour frame = hour := by
    intro frame member
    obtain ⟨y, inside, rfl⟩ := List.mem_map.mp member
    exact (mem_ofHour.mp ((keeps hour).of_sent.subset inside)).2
  have row (hour : Int) : Collection.ofHour frames hour = framesOf (kept hour) := by
    have grouped : Collection.ofHour frames hour =
        if hour ∈ hours then framesOf (kept hour) else [] :=
      Grouping.group_flatMap frameHour (List.nodup_dedup _) own hour
    rw [grouped]
    by_cases listed : hour ∈ hours
    · rw [if_pos listed]
    · rw [if_neg listed]
      cases inside : kept hour with
      | nil => rfl
      | cons y rest =>
        have member : y ∈ ofHour s.sent hour :=
          (keeps hour).of_sent.subset (inside ▸ List.mem_cons_self)
        obtain ⟨among, here⟩ := mem_ofHour.mp member
        exact absurd (List.mem_dedup.mpr (List.mem_map.mpr ⟨y, among, here⟩)) listed
  have rows (hour : Int) : (framesOf (kept hour)).mapM serde.frame =
      some (logAt s.worker.store.now hour) := by
    rw [linesOf_framesOf (keeps hour).serialized, (keeps hour).log]
    rfl
  have filled := reachable_filled reach
  refine ⟨frames, ⟨?_, ?_⟩, ?_⟩
  · intro hour
    rw [row]
    have mapped := rows hour
    cases there : s.worker.store.now.text (hourPath hour) with
    | none =>
      rw [logAt, there] at mapped
      have lengths := Codec.length_of_mapM mapped
      rw [List.eq_nil_of_length_eq_zero lengths.symm]
      exact .absent
    | some text =>
      obtain ⟨other, same, nonempty⟩ := filled (hourPath hour) rfl (there ▸ rfl)
      rw [← hourPath_inj same] at nonempty
      have content := mapped
      rw [logAt, there, Option.map_some, Option.getD_some] at content
      refine .present text _ ?_ content
      intro empty
      rw [empty] at mapped
      exact nonempty (Option.some.inj mapped).symm
  · intro path jsonl there
    obtain ⟨hour, here, -⟩ := filled path jsonl there
    exact ⟨hour, here⟩
  · intro hour
    rw [row]
    exact ⟨(keeps hour).of_sent.map _, (keeps hour).acknowledged.map _⟩

end SensorGateway.Storage.Crashes

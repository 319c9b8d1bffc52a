import SensorGateway.Dashboard.Latest
import SensorGateway.Gateway.StatsSnapshot
import SensorGateway.Storage.Artifacts

/-! The dashboard's pages on the files of any gateway processes, each of which can fail or end anywhere:
what they show comes from one request, and no request after it has been acknowledged. -/

namespace SensorGateway.Gateway.Pages
open SensorGateway.Lib.ExtendedRat SensorGateway.Lib.Json SensorGateway.Lib.Lines
open SensorGateway.Lib.Transition SensorGateway.Types
open Dashboard.Endpoints Dashboard.Entry Dashboard.Latest
open Engine.Exactness (crossed twoWorkers)
open Engine.Reduce Engine.Threads Engine.Window Gateway.Pipeline Gateway.StatsSnapshot
open Storage.Artifacts Storage.Crashes Storage.Disk Storage.Encoding Storage.Persist Storage.Texts
variable {F : Type} [F64 F]

/-! Requests one after another, process by process. -/

/-- The `k`-th request of one of the runs, with none acknowledged after it. -/
def Newest (runs : List (Run F (Value F))) (r : Run F (Value F)) (k : Nat) (x : Sent F (Value F)) : Prop :=
  ∃ earlier later, runs = earlier ++ r :: later ∧ r.sent[k]? = some x ∧
    (∀ y ∈ r.sent.drop (k + 1), y.acknowledged = false) ∧ ∀ q ∈ later, ∀ y ∈ q.sent, y.acknowledged = false

/-- No request of any run has been acknowledged. -/
def NoneDone (runs : List (Run F (Value F))) : Prop := ∀ r ∈ runs, ∀ y ∈ r.sent, y.acknowledged = false

/-- Where a request among all of them belongs. -/
theorem newest_of_split {runs : List (Run F (Value F))} {before after : List (Sent F (Value F))}
    {x : Sent F (Value F)} (split : runs.flatMap Run.sent = before ++ x :: after)
    (undone : ∀ y ∈ after, y.acknowledged = false) : ∃ r k, Newest runs r k x := by
  induction runs generalizing before with
  | nil => cases before <;> cases split
  | cons first rest ih =>
    rw [List.flatMap_cons] at split
    rcases List.append_eq_append_iff.mp split with ⟨mid, rfl, others⟩ | ⟨mid, mine, others⟩
    · obtain ⟨r, k, earlier, later, rfl, newest⟩ := ih others
      exact ⟨r, k, first :: earlier, later, rfl, newest⟩
    · cases mid with
      | nil =>
        have behind : rest.flatMap Run.sent = [] ++ x :: after := others.symm
        obtain ⟨r, k, earlier, later, rfl, newest⟩ := ih behind
        exact ⟨r, k, first :: earlier, later, rfl, newest⟩
      | cons head tail =>
        rw [List.cons_append, List.cons.injEq] at others
        obtain ⟨rfl, behind⟩ := others
        refine ⟨first, before.length, [], rest, rfl, ?_, ?_, ?_⟩
        · rw [mine, List.getElem?_append_right (le_refl _), Nat.sub_self]
          rfl
        · have rest_of : first.sent.drop (before.length + 1) = tail := by
            rw [mine, ← List.drop_drop, List.drop_left, List.drop_one, List.tail_cons]
          rw [rest_of]
          exact fun y member => undone y (behind ▸ List.mem_append_left _ member)
        · intro q member y mine
          exact undone y (behind ▸ List.mem_append_right _ (List.mem_flatMap.mpr ⟨q, member, mine⟩))

/-- The request is one of those sent, and none after it has been acknowledged. -/
def Last (sent : List (Sent F (Value F))) (x : Sent F (Value F)) : Prop :=
  ∃ before after, sent = before ++ x :: after ∧ ∀ y ∈ after, y.acknowledged = false

/-- Every request has come with stats, and the files are the last that have been renamed. -/
structure Files (json : SerdeJson F) (sent : List (Sent F (Value F))) (o : Observation) : Prop where
  with_stats : ∀ x ∈ sent, x.request.statsSnapshot.isSome = true
  fresh : ∀ path ∈ replaced, Fresh json.serde path sent (lastCall o.renamed path)
  text : ∀ path ∈ replaced, o.text path = (lastCall o.renamed path).map Publication.text

/-- The one JSON is the other, or what is read back from its text, with the members in any order. -/
def Copies (json : SerdeJson F) (shown v : Value F) : Prop :=
  v.canonical = shown.canonical ∨ v.canonical = (shown.map json.reread).canonical

section
variable {json : SerdeJson F} {sent : List (Sent F (Value F))} {o : Observation} {path : Path}

theorem Files.missing (files : Files json sent o) (path_replaced : path ∈ replaced)
    (absent : o.text path = none) : ∀ x ∈ sent, x.acknowledged = false := by
  have fresh := files.fresh path path_replaced
  rw [files.text path path_replaced, Option.map_eq_none_iff] at absent
  rw [absent] at fresh
  cases fresh with
  | missing none_done => exact none_done.unacknowledged path_replaced files.with_stats

/-- The call a file is from, and its request. -/
theorem Files.found (files : Files json sent o) (path_replaced : path ∈ replaced) {text : Text}
    (there : o.text path = some text) :
    ∃ x call, Last sent x ∧ (json.serde.frame x.request.frame).isSome = true ∧
      call ∈ artifacts json.serde x.request ∧ call.path = path ∧ call.text = text := by
  have fresh := files.fresh path path_replaced
  rw [files.text path path_replaced] at there
  obtain ⟨call, last, same⟩ := Option.map_eq_some_iff.mp there
  rw [last] at fresh
  cases fresh with
  | from_request before after x call split logged made about newest =>
    refine ⟨x, call, ⟨before, after, split, ?_⟩, logged, made, about, same⟩
    apply newest.unacknowledged path_replaced
    intro y member
    apply files.with_stats y
    rw [split]
    exact List.mem_append_right _ (List.mem_cons_of_mem _ member)

theorem encoded_of_logged {frame : AggregatedFrame F} (logged : (json.serde.frame frame).isSome = true) :
    ∃ v, encodeFrame frame = some v := by
  obtain ⟨line, written⟩ := Option.isSome_iff_exists.mp logged
  obtain ⟨v, encoded, -⟩ := json.frameText_eq_some.mp written
  exact ⟨v, encoded⟩

/-- What the runtime snapshot gives for a key, if it can be read. -/
theorem Files.field (files : Files json sent o) {key : String} {v : Value F}
    (there : readRuntimeSnapshotField json o key = some v) :
    ∃ x latest stats, Last sent x ∧ encodeFrame x.request.frame = some latest ∧
      x.request.statsSnapshot = some stats ∧
      ((encodeSnapshot latest stats).map json.reread).canonical.get key = some v := by
  obtain ⟨snapshot, read, field⟩ := Option.bind_eq_some_iff.mp there
  obtain ⟨text, file, parsed⟩ := Option.bind_eq_some_iff.mp read
  obtain ⟨x, call, last, logged, made, about, rfl⟩ := files.found (by decide) file
  obtain ⟨latest, encoded⟩ := encoded_of_logged logged
  obtain ⟨stats, with_stats, written⟩ := artifact_snapshot made about
  have printed : call.text = json.toText (encodeSnapshot latest stats) := by
    rw [written]
    show jsonBytes ((encodeFrame x.request.frame).map _) = _
    rw [encoded]
    rfl
  rw [printed, json.toValue_toText, Option.ite_none_right_eq_some] at parsed
  obtain ⟨-, parsed⟩ := parsed
  rw [← Option.some.inj parsed] at field
  exact ⟨x, latest, stats, last, encoded, with_stats, field⟩

variable (json) in
theorem get_stats (latest stats : Value F) :
    ((encodeSnapshot latest stats).map json.reread).canonical.get "stats" =
      some (stats.map json.reread).canonical := by
  have distinct : (["latest", "stats"]).Nodup := by decide
  exact Document.get_canonical distinct

/-- `/stats` shows the stats of a request, or there are none and nothing has been acknowledged. -/
theorem Files.stats (files : Files json sent o) :
    (stats json o).status = .notFound ∧ (∀ x ∈ sent, x.acknowledged = false) ∨
    ∃ x shown v, Last sent x ∧ x.request.statsSnapshot = some shown ∧ Copies json shown v ∧
      stats json o = jsonValueResponse json .ok v := by
  unfold Dashboard.Endpoints.stats snapshotEndpoint
  cases found : readRuntimeSnapshotField json o "stats" with
  | some v =>
    obtain ⟨x, latest, shown, last, -, with_stats, field⟩ := files.field found
    rw [get_stats] at field
    cases field
    exact Or.inr ⟨x, shown, _, last, with_stats, Or.inr (Document.canonical_canonical _), rfl⟩
  | none =>
    simp only [jsonFileResponse]
    cases text : o.text statsSnapshotPath with
    | none => exact Or.inl ⟨rfl, files.missing (by decide) text⟩
    | some bytes =>
      obtain ⟨x, call, last, -, made, about, rfl⟩ := files.found (by decide) text
      obtain ⟨shown, with_stats, written⟩ := artifact_stats made about
      refine Or.inr ⟨x, shown, shown, last, with_stats, Or.inl rfl, ?_⟩
      rw [written]
      rfl

/-- `/latest` and `/sensor/<id>` answer from the frame of a request, or there is none and nothing has
been acknowledged. -/
theorem Files.latest (files : Files json sent o) :
    (latest json o).status = .notFound ∧ (∀ x ∈ sent, x.acknowledged = false) ∨
    ∃ x, Last sent x ∧ AnswersFrom json o x.request.frame := by
  cases found : readRuntimeSnapshotField json o "latest" with
  | some v =>
    obtain ⟨x, frame, shown, last, encoded, -, field⟩ := files.field found
    rw [get_encodeSnapshot] at field
    cases field
    exact Or.inr ⟨x, last, answersFrom_of_snapshot encoded found⟩
  | none =>
    cases text : o.text latestSnapshotPath with
    | none =>
      refine Or.inl ⟨?_, files.missing (by decide) text⟩
      simp only [Dashboard.Endpoints.latest, snapshotEndpoint, found, jsonFileResponse, text]
    | some bytes =>
      obtain ⟨x, call, last, logged, made, about, rfl⟩ := files.found (by decide) text
      obtain ⟨v, encoded⟩ := encoded_of_logged logged
      have written : o.text latestSnapshotPath = some (json.toText v) := by
        rw [text, artifact_latest made about]
        show some (jsonBytes ((encodeFrame x.request.frame).map json.toText)) = _
        rw [encoded]
        rfl
      have answers := answers_of_file encoded found written
      exact Or.inr ⟨x, last, Or.inl answers.1, answers.2⟩

end

section
variable {message : IoError → String} {ratio : ℚ → F} {cfg : AggregationConfig F} {hash : String → Nat}
  {json : SerdeJson F} {now : SystemTime} {s : State F (Value F) cfg.workers}

theorem all_built (reach : (reporting message ratio cfg hash json now).Reachable s) :
    ∀ r ∈ runs s, AllBuilt message ratio r.sent := by
  have reports := reachable_reports reach
  intro r member
  rcases List.mem_append.mp member with old | last
  · exact reports.past r old
  · rw [List.mem_singleton.mp last]
    exact reports.built

theorem reachable_reported (reach : (reporting message ratio cfg hash json now).Reachable s)
    {r : Run F (Value F)} (member : r ∈ runs s) {k : Nat} {x : Sent F (Value F)}
    (found : r.sent[k]? = some x) :
    ∃ v, x.request.statsSnapshot = some v ∧ Reported message ratio cfg.detection r k v := by
  have sound := reachable_sound (pipeline_reachable reach)
  exact reported_of_built (sound.delivers_runs r member) found (all_built reach r member k x found)

theorem reachable_files (reach : (reporting message ratio cfg hash json now).Reachable s) :
    Files json s.storage.sent s.storage.worker.store.now := by
  have sound := reachable_sound (pipeline_reachable reach)
  constructor
  · intro x asked
    rw [sound.sent_runs] at asked
    obtain ⟨r, member, mine⟩ := List.mem_flatMap.mp asked
    obtain ⟨k, found⟩ := List.mem_iff_getElem?.mp mine
    obtain ⟨v, snapshot, -⟩ := reachable_reported reach member found
    exact Option.isSome_of_eq_some snapshot
  · exact fun path path_replaced => reachable_fresh sound.storage path_replaced
  · intro path path_replaced
    apply reachable_text sound.storage
    simp only [replaced, List.mem_cons, List.not_mem_nil, or_false] at path_replaced
    rcases path_replaced with rfl | rfl | rfl <;> decide

theorem noneDone_of_sent (sound : Sound cfg hash json.serde s)
    (undone : ∀ x ∈ s.storage.sent, x.acknowledged = false) : NoneDone (runs s) := by
  intro r member y mine
  exact undone y (sound.sent_runs ▸ List.mem_flatMap.mpr ⟨r, member, mine⟩)

theorem newest_of_last (sound : Sound cfg hash json.serde s) {x : Sent F (Value F)}
    (last : Last s.storage.sent x) : ∃ r k, Newest (runs s) r k x := by
  obtain ⟨before, after, split, undone⟩ := last
  exact newest_of_split (sound.sent_runs.symm.trans split) undone

theorem Newest.place {runs : List (Run F (Value F))} {r : Run F (Value F)} {k : Nat}
    {x : Sent F (Value F)} (newest : Newest runs r k x) : r ∈ runs ∧ r.sent[k]? = some x := by
  obtain ⟨earlier, later, rfl, found, -⟩ := newest
  exact ⟨List.mem_append_right _ List.mem_cons_self, found⟩

end

/-- Whatever fails and whenever a process ends: each request comes with a snapshot that counts the frames
its process has persisted before, and the dashboard's page shows the one of a request after which none
has been acknowledged. It is missing only as long as there has been no such request. -/
theorem stats_page_true (message : IoError → String) (ratio : ℚ → F) (cfg : AggregationConfig F)
    (hash : String → Nat) (json : SerdeJson F) (now : SystemTime) (s : State F (Value F) cfg.workers)
    (reach : (reporting message ratio cfg hash json now).Reachable s) :
    (∀ r ∈ runs s, ∀ k x, r.sent[k]? = some x →
      ∃ v, x.request.statsSnapshot = some v ∧ Reported message ratio cfg.detection r k v) ∧
    ((stats json s.storage.worker.store.now).status = .notFound ∧ NoneDone (runs s) ∨
      ∃ r k x shown v, Newest (runs s) r k x ∧ Reported message ratio cfg.detection r k shown ∧
        Copies json shown v ∧
        stats json s.storage.worker.store.now = jsonValueResponse json .ok v) := by
  have sound := reachable_sound (pipeline_reachable reach)
  refine ⟨fun r member k x found => reachable_reported reach member found, ?_⟩
  rcases (reachable_files reach).stats with ⟨missing, undone⟩ | ⟨x, shown, v, last, snapshot, same, response⟩
  · exact Or.inl ⟨missing, noneDone_of_sent sound undone⟩
  · obtain ⟨r, k, newest⟩ := newest_of_last sound last
    obtain ⟨member, found⟩ := newest.place
    obtain ⟨u, there, reported⟩ := reachable_reported reach member found
    obtain rfl : u = shown := Option.some.inj (there.symm.trans snapshot)
    exact Or.inr ⟨r, k, x, u, v, newest, reported, same, response⟩

/-- One window is persisted with its snapshot, and the process ends. -/
def onePersisted : List (Action Extended Shared 2) :=
  (crossed (.finite 7) (.finite 9)).map .engine ++
    [.consumer, .persist idle .none 7, .crash 9]

theorem not_noneDone {runs : List (Run F (Value F))}
    (done : (runs.flatMap Run.sent).any Sent.acknowledged = true) : ¬NoneDone runs := by
  intro undone
  obtain ⟨y, sent, ok⟩ := List.any_eq_true.mp done
  obtain ⟨r, member, mine⟩ := List.mem_flatMap.mp sent
  cases ok.symm.trans (undone r member y mine)

set_option maxRecDepth 8000 in
theorem stats_page_true_onePersisted :
    ∃ s, (reporting (fun _ => "") .finite (twoWorkers 0) String.length exactJson 0).run
        onePersisted = some s ∧
      ∃ r k x shown v, Newest (runs s) r k x ∧
        Reported (fun _ => "") .finite (twoWorkers 0).detection r k shown ∧
        Copies exactJson shown v ∧
        stats exactJson s.storage.worker.store.now = jsonValueResponse exactJson .ok v := by
  let system := reporting (fun _ => "") .finite (twoWorkers 0) String.length exactJson 0
  let s := (system.run onePersisted).get (by decide)
  have replay : system.run onePersisted = some s := (Option.some_get _).symm
  have page := (stats_page_true _ _ _ _ _ 0 s (System.reachable_of_run replay)).2
  exact ⟨s, replay, page.resolve_left fun missing => not_noneDone (by decide) missing.2⟩

/-- Whatever fails and whenever a process ends: `/latest` and `/sensor/<id>` answer from one frame, which
is exact for its piece of the readings of its process and is not older than the last one acknowledged. -/
theorem latest_pages_true (message : IoError → String) (ratio : ℚ → F) (cfg : AggregationConfig F)
    (hash : String → Nat) (json : SerdeJson F) (now : SystemTime) (s : State F (Value F) cfg.workers)
    (reach : (reporting message ratio cfg hash json now).Reachable s) :
    (latest json s.storage.worker.store.now).status = .notFound ∧ NoneDone (runs s) ∨
      ∃ r k x readings, Newest (runs s) r k x ∧ r.windows[k]? = some (x.request.frame, readings) ∧
        Exact cfg.detection k readings x.request.frame ∧
        AnswersFrom json s.storage.worker.store.now x.request.frame := by
  have sound := reachable_sound (pipeline_reachable reach)
  rcases (reachable_files reach).latest with ⟨missing, undone⟩ | ⟨x, last, answers⟩
  · exact Or.inl ⟨missing, noneDone_of_sent sound undone⟩
  · obtain ⟨r, k, newest⟩ := newest_of_last sound last
    obtain ⟨member, found⟩ := newest.place
    obtain ⟨readings, window, exact⟩ := frame_of_sent (sound.delivers_runs r member) found
    exact Or.inr ⟨r, k, x, readings, newest, window, exact, answers⟩

set_option maxRecDepth 8000 in
theorem latest_pages_true_onePersisted :
    ∃ s, (reporting (fun _ => "") .finite (twoWorkers 0) String.length exactJson 0).run
        onePersisted = some s ∧
      ∃ r k x readings, Newest (runs s) r k x ∧ r.windows[k]? = some (x.request.frame, readings) ∧
        Exact (twoWorkers 0).detection k readings x.request.frame ∧
        AnswersFrom exactJson s.storage.worker.store.now x.request.frame := by
  let system := reporting (fun _ => "") .finite (twoWorkers 0) String.length exactJson 0
  let s := (system.run onePersisted).get (by decide)
  have replay : system.run onePersisted = some s := (Option.some_get _).symm
  have pages := latest_pages_true _ _ _ _ _ 0 s (System.reachable_of_run replay)
  exact ⟨s, replay, pages.resolve_left fun missing => not_noneDone (by decide) missing.2⟩

end SensorGateway.Gateway.Pages

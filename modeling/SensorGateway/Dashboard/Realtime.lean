import SensorGateway.Dashboard.SensorFile
import SensorGateway.Engine.Exactness
import SensorGateway.Statistics.Summary

/-! `/api/realtime-aggregated`: the statistics of everything in the sensor files, computed afresh for each
request. The engine computes its own from the readings that the same readers push into the buffer. -/

namespace SensorGateway.Dashboard.Realtime
open SensorGateway.Lib.Json SensorGateway.Lib.Lines SensorGateway.Lib.Appends SensorGateway.Lib.UnixPath
open SensorGateway.Lib.ExtendedRat SensorGateway.Lib.Saturating SensorGateway.Lib.Transition
open SensorGateway.Types
open Engine.Exactness (twoWorkers)
open Storage.Encoding Storage.Texts Endpoints RawSensor SensorFile

section
variable {F : Type} [F64 F] (json : SerdeJson F)

/-- The sensors that `read_raw_sensor_data` asks for. -/
def sensors : List String := ["thermo-1", "thermo-2", "accel-1", "accel-2", "force-1"]

/-- A file that cannot be read counts as empty. -/
def readingsOf (host : Host) (sensor : String) : List (Value F) :=
  match readSensorFile json host sensor with
  | .ok readings => readings
  | .error _ => []

def readRawSensorData (host : Host) : SensorMap (List (Value F)) :=
  sensors.foldl (fun allData sensor => allData.insert sensor (readingsOf json host sensor)) ∅

/-- The number a line of a file gives, if it gives one. -/
def readingNumber (reading : Value F) : Option F := (reading.get "value").bind decodeF64

/-- The inner loop of `aggregate_from_raw_data`. -/
def readingStats (readings : List (Value F)) : SensorStats F :=
  readings.foldl
    (fun stats reading =>
      match readingNumber reading with
      | some value => stats.update value
      | none => stats)
    SensorStats.default

/-- The two times are those the clock shows at the end. -/
def aggregateFromRawData (sensorData : SensorMap (List (Value F))) (start now : SystemTime) :
    AggregatedFrame F where
  windowId := 1
  windowStart := start - 1000000000
  windowEnd := now
  perSensor := sensorData.map fun _ readings => readingStats readings
  anomalies := []

def getRealtimeAggregated (host : Host) (start now : SystemTime) : AggregatedFrame F :=
  aggregateFromRawData (readRawSensorData json host) start now

theorem getElem?_insertAll {V : Type} (names : List String) (f : String → V) (map : SensorMap V)
    (name : String) : (names.foldl (fun map name => map.insert name (f name)) map)[name]? =
      if name ∈ names then some (f name) else map[name]? := by
  induction names generalizing map with
  | nil => simp
  | cons first rest ih =>
    rw [List.foldl_cons, ih]
    by_cases behind : name ∈ rest
    · rw [if_pos behind, if_pos (List.mem_cons_of_mem _ behind)]
    · rw [if_neg behind]
      by_cases here : name = first
      · subst here
        simp
      · have apart : ¬compare first name = Ordering.eq := by
          rw [Std.compare_eq_iff_eq]
          exact fun same => here same.symm
        rw [Std.ExtTreeMap.getElem?_insert, if_neg apart, if_neg]
        simp [here, behind]

/-- The answer has one entry for each of the five, from its own file. -/
theorem getElem?_realtime (host : Host) (start now : SystemTime) (name : String) :
    (getRealtimeAggregated json host start now).perSensor[name]? =
      if name ∈ sensors then some (readingStats (readingsOf json host name)) else none := by
  rw [getRealtimeAggregated, aggregateFromRawData]
  dsimp only
  rw [Std.ExtTreeMap.getElem?_map, readRawSensorData, getElem?_insertAll]
  split <;> rfl

/-- Of a reading that JSON has no number for, the file keeps none. -/
theorem readingNumber_readingValue (sensorId : String) (timestamp value : F) :
    readingNumber (readingValue sensorId timestamp value) =
      if F64.isFinite value = true then some value else none := by
  rw [← decodeF64_encodeF64, readingNumber, readingValue_eq]
  rfl

theorem readingStats_eq (readings : List (Value F)) :
    readingStats readings =
      (readings.filterMap readingNumber).foldl (fun stats x => stats.update x) SensorStats.default := by
  rw [List.foldl_filterMap, readingStats]
  rfl

end

/-! ## The readers between the files and the engine -/

variable {F : Type} [F64 F]

/-- A process with its sensor files and its engine. -/
structure State (F : Type) [F64 F] (W : Nat) where
  files : SensorFile.State F
  engine : Engine.Threads.State F W
  /-- The value that the sensor's reader has taken and not pushed yet. -/
  held : SensorId → Option F
  /-- The values that a closed buffer has refused. -/
  refused : SensorId → List F
  /-- The values that the sensor's reader has taken. -/
  taken : SensorId → List F

inductive Action (F : Type) (W : Nat) where
  /-- A reader takes a value from its sensor, and opens the file or fails to. -/
  | read (id : SensorId) (timestamp value : F) (opened : Bool)
  /-- A step of the write. -/
  | write (action : SensorFile.Action F)
  /-- The write has ended and the value goes into the buffer. -/
  | push (id : SensorId) (ts : SystemTime)
  | engine (action : Engine.Threads.Action F W)

/-- The steps inside a call. -/
def Inside : SensorFile.Action F → Prop
  | .append _ _ | .finish _ | .fail _ => True
  | .enter _ _ _ | .refuse _ _ _ | .kill => False

instance insideDecidable (action : SensorFile.Action F) : Decidable (Inside action) := by
  cases action <;> unfold Inside <;> infer_instance

/-- The steps of the engine that are not the readers'. -/
def Own {W : Nat} : Engine.Threads.Action F W → Prop
  | .produce _ => False
  | _ => True

instance ownDecidable {W : Nat} : (action : Engine.Threads.Action F W) → Decidable (Own action)
  | .produce _ => .isFalse id
  | .closeSource | .dispatcher .. | .worker _ | .recvFrame | .shutdown | .drop | .join => .isTrue trivial

section
variable (json : SerdeJson F) (cwd : Place) (cfg : Engine.Threads.AggregationConfig F)
  (hash : String → Nat)

def step (s : State F cfg.workers) : Action F cfg.workers → Option (State F cfg.workers)
  | .read id timestamp value opened =>
    let call : SensorFile.Action F := if opened then .enter id timestamp value else .refuse id timestamp value
    if s.held id = none then
      (SensorFile.step json cwd s.files call).map fun files =>
        { s with
          files
          held := Function.update s.held id (some value)
          taken := Function.update s.taken id (s.taken id ++ [value]) }
    else none
  | .write action =>
    if Inside action then
      (SensorFile.step json cwd s.files action).map fun files => { s with files }
    else none
  | .push id ts =>
    match s.held id with
    | none => none
    | some value =>
      if s.files.writing id = none then
        if s.engine.sourceShut then
          some { s with
            held := Function.update s.held id none
            refused := Function.update s.refused id (s.refused id ++ [value]) }
        else
          (Engine.Threads.step cfg hash s.engine (.produce ⟨id.name, ts, value⟩)).map fun engine =>
            { s with engine, held := Function.update s.held id none }
      else none
  | .engine action =>
    if Own action then
      (Engine.Threads.step cfg hash s.engine action).map fun engine => { s with engine }
    else none

/-- The process begins with the files as an earlier one has left them. -/
def gateway (started : SystemTime) (old : SensorFile.State F) :
    System (State F cfg.workers) (Action F cfg.workers) where
  init :=
    { files := old.killed, engine := (Engine.Threads.engine cfg hash started).init, held := fun _ => none
      refused := fun _ => [], taken := fun _ => [] }
  step := step json cwd cfg hash

end

/-! ## What the steps keep -/

theorem values_inside {json : SerdeJson F} {cwd : Place} {s t : SensorFile.State F}
    {action : SensorFile.Action F} (inside : Inside action)
    (step : SensorFile.step json cwd s action = some t) (id : SensorId) :
    ((t.written id).map fun call => call.value) = (s.written id).map fun call => call.value := by
  cases action with
  | enter | refuse | kill => exact inside.elim
  | append target n =>
    cases busy : s.writing target with
    | none => simp [SensorFile.step, busy] at step
    | some call =>
      simp only [SensorFile.step, busy, Option.ite_none_right_eq_some, Option.some.injEq] at step
      obtain ⟨-, rfl⟩ := step
      rw [State.written_update]
      by_cases same : id = target
      · subst same
        rw [if_pos rfl, State.written_busy busy, List.map_append, List.map_append]
        rfl
      · rw [if_neg same]
  | finish target | fail target =>
    cases busy : s.writing target with
    | none => simp [SensorFile.step, busy] at step
    | some call =>
      simp only [SensorFile.step, busy, Option.ite_none_right_eq_some, Option.ite_none_left_eq_some,
        Option.some.injEq] at step
      obtain ⟨-, rfl⟩ := step
      rw [State.written_leave]
      by_cases same : id = target
      · subst same
        rw [if_pos rfl, State.written_busy busy]
      · rw [if_neg same]

theorem values_read {json : SerdeJson F} {cwd : Place} {s t : SensorFile.State F} {target : SensorId}
    {timestamp value : F} {opened : Bool}
    (step : SensorFile.step json cwd s
      (if opened then .enter target timestamp value else .refuse target timestamp value) = some t)
    (id : SensorId) :
    ((t.written id).map fun call => call.value) = ((s.written id).map fun call => call.value) ++
      if id = target then [readingValue target.name timestamp value] else [] := by
  cases opened with
  | true =>
    simp only [if_true, SensorFile.step, Option.ite_none_right_eq_some, Option.some.injEq] at step
    obtain ⟨idle, rfl⟩ := step
    rw [State.written_update]
    by_cases same : id = target
    · subst same
      rw [if_pos rfl, if_pos rfl, State.written_idle idle, List.map_append]
      rfl
    · rw [if_neg same, if_neg same, List.append_nil]
  | false =>
    simp only [Bool.false_eq_true, if_false, SensorFile.step, Option.ite_none_right_eq_some,
      Option.some.injEq] at step
    obtain ⟨idle, rfl⟩ := step
    rw [State.written_leave]
    by_cases same : id = target
    · subst same
      rw [if_pos rfl, if_pos rfl, State.written_idle idle, List.map_append]
      rfl
    · rw [if_neg same, if_neg same, List.append_nil]

/-- The engine takes readings from the buffer and puts none there. -/
theorem supply_own {cfg : Engine.Threads.AggregationConfig F} {hash : String → Nat}
    {s t : Engine.Threads.State F cfg.workers} {action : Engine.Threads.Action F cfg.workers}
    (own : Own action) (step : Engine.Threads.step cfg hash s action = some t) :
    t.popped ++ t.queue = s.popped ++ s.queue ∧ (s.sourceShut = true → t.sourceShut = true) := by
  have taken : (Engine.Threads.engine cfg hash 0).step s action = some t := step
  cases Engine.Steps.step_moves cfg hash taken with
  | produce => exact own.elim
  | popSome now r rest at_pc head =>
    refine ⟨?_, fun shut => shut⟩
    rw [head, List.append_assoc]
    rfl
  | closeSource => exact ⟨rfl, fun _ => rfl⟩
  | _ => exact ⟨rfl, fun shut => shut⟩

/-- The numbers that the file of a sensor gives, if no call is cut short. -/
def numbers (files : SensorFile.State F) (id : SensorId) : List F :=
  ((files.written id).map fun call => call.value).filterMap readingNumber

/-- The values of the sensor's readings. -/
def sensorValues (readings : List (ReadingEnvelope F)) (id : SensorId) : List F :=
  (Engine.Reduce.ofSensor readings id.name).map ReadingEnvelope.value

/-- Each value a reader has taken is in the file if JSON has a number for it, and it is in the engine, or
refused, or about to be pushed. -/
structure Flows (numbersBefore : List F) {W : Nat} (s : State F W) (id : SensorId) : Prop where
  filed : numbers s.files id = numbersBefore ++ (s.taken id).filter fun value => F64.isFinite value
  passed : s.taken id =
    sensorValues (s.engine.popped ++ s.engine.queue) id ++ s.refused id ++ (s.held id).toList
  closed : s.refused id ≠ [] → s.engine.sourceShut = true

section
variable {json : SerdeJson F} {cwd : Place} {cfg : Engine.Threads.AggregationConfig F}
  {hash : String → Nat} {started : SystemTime} {old : SensorFile.State F}

omit [F64 F] in
theorem sensorValues_concat (readings : List (ReadingEnvelope F)) (other id : SensorId)
    (ts : SystemTime) (value : F) : sensorValues (readings ++ [⟨other.name, ts, value⟩]) id =
      sensorValues readings id ++ if id = other then [value] else [] := by
  unfold sensorValues Engine.Reduce.ofSensor
  rw [List.filter_append, List.map_append]
  by_cases same : id = other
  · subst same
    simp
  · have apart : other.name ≠ id.name := fun names => same (SensorId.ext names.symm)
    simp [same, apart]

theorem flows_step {s t : State F cfg.workers} {action : Action F cfg.workers}
    {before : SensorId → List F} (flows : ∀ id, Flows (before id) s id)
    (step : (gateway json cwd cfg hash started old).step s action = some t) (id : SensorId) :
    Flows (before id) t id := by
  have here := flows id
  cases action with
  | read target timestamp value opened =>
    simp only [gateway, Realtime.step, Option.ite_none_right_eq_some, Option.map_eq_some_iff] at step
    obtain ⟨free, files, wrote, rfl⟩ := step
    have values := values_read wrote id
    refine ⟨?_, ?_, here.closed⟩
    · rw [numbers, values, List.filterMap_append]
      show numbers s.files id ++ _ = _ ++ (Function.update s.taken target _ id).filter _
      rw [here.filed]
      by_cases same : id = target
      · subst same
        rw [if_pos rfl, Function.update_self, List.filter_append, List.append_assoc]
        by_cases finite : F64.isFinite value = true
        · simp [readingNumber_readingValue, finite]
        · simp [readingNumber_readingValue, finite]
      · simp [same]
    · show Function.update s.taken target _ id = _ ++ (Function.update s.held target _ id).toList
      by_cases same : id = target
      · subst same
        rw [Function.update_self, Function.update_self, here.passed, free]
        simp
      · rw [Function.update_of_ne same, Function.update_of_ne same]
        exact here.passed
  | write action =>
    simp only [gateway, Realtime.step, Option.ite_none_right_eq_some, Option.map_eq_some_iff] at step
    obtain ⟨inside, files, wrote, rfl⟩ := step
    refine ⟨?_, here.passed, here.closed⟩
    rw [numbers, values_inside inside wrote id]
    exact here.filed
  | push target ts =>
    cases held : s.held target with
    | none => simp [gateway, Realtime.step, held] at step
    | some value =>
      simp only [gateway, Realtime.step, held, Option.ite_none_right_eq_some] at step
      obtain ⟨-, step⟩ := step
      by_cases shut : s.engine.sourceShut = true
      · rw [if_pos shut, Option.some.injEq] at step
        subst step
        refine ⟨here.filed, ?_, fun _ => shut⟩
        show s.taken id = _ ++ Function.update s.refused target _ id ++
          (Function.update s.held target _ id).toList
        by_cases same : id = target
        · subst same
          rw [Function.update_self, Function.update_self, here.passed, held]
          simp
        · rw [Function.update_of_ne same, Function.update_of_ne same]
          exact here.passed
      · rw [if_neg shut, Option.map_eq_some_iff] at step
        obtain ⟨engine, produced, rfl⟩ := step
        simp only [Engine.Threads.step, if_neg shut, Option.some.injEq] at produced
        subst produced
        refine ⟨here.filed, ?_, here.closed⟩
        show s.taken id = sensorValues (s.engine.popped ++ (s.engine.queue ++ _)) id ++ s.refused id ++
          (Function.update s.held target _ id).toList
        rw [← List.append_assoc, sensorValues_concat]
        by_cases same : id = target
        · subst same
          have none_refused : s.refused id = [] := by
            by_contra some
            exact shut (here.closed some)
          rw [if_pos rfl, Function.update_self, here.passed, held, none_refused]
          simp
        · rw [if_neg same, Function.update_of_ne same, List.append_nil]
          exact here.passed
  | engine action =>
    simp only [gateway, Realtime.step, Option.ite_none_right_eq_some, Option.map_eq_some_iff] at step
    obtain ⟨own, engine, moved, rfl⟩ := step
    obtain ⟨supply, shut⟩ := supply_own own moved
    refine ⟨here.filed, ?_, fun some => shut (here.closed some)⟩
    show s.taken id = sensorValues (engine.popped ++ engine.queue) id ++ _ ++ _
    rw [supply]
    exact here.passed

/-- In every run: the runs of the files and of the engine, and what flows between them. -/
structure Sound (json : SerdeJson F) (cwd : Place) (cfg : Engine.Threads.AggregationConfig F)
    (hash : String → Nat) (started : SystemTime) (old : SensorFile.State F) (s : State F cfg.workers) :
    Prop where
  files : (recording json cwd).Reaches old.killed s.files
  engine : (Engine.Threads.engine cfg hash started).Reachable s.engine
  flows : ∀ id, Flows (numbers old.killed id) s id

theorem sound_reachable {s : State F cfg.workers}
    (reach : (gateway json cwd cfg hash started old).Reachable s) :
    Sound json cwd cfg hash started old s := by
  apply System.Reaches.invariant reach
  · refine ⟨System.ReachesUnder.refl _, System.ReachesUnder.refl _, ?_⟩
    intro id
    exact ⟨(List.append_nil _).symm, rfl, fun some => absurd rfl some⟩
  · intro u action v sound step
    have flows := flows_step sound.flows step
    cases action with
    | read target timestamp value opened =>
      simp only [gateway, Realtime.step, Option.ite_none_right_eq_some, Option.map_eq_some_iff] at step
      obtain ⟨-, files, wrote, rfl⟩ := step
      exact ⟨sound.files.tail wrote, sound.engine, flows⟩
    | write action =>
      simp only [gateway, Realtime.step, Option.ite_none_right_eq_some, Option.map_eq_some_iff] at step
      obtain ⟨-, files, wrote, rfl⟩ := step
      exact ⟨sound.files.tail wrote, sound.engine, flows⟩
    | push target ts =>
      cases held : u.held target with
      | none => simp [gateway, Realtime.step, held] at step
      | some value =>
        simp only [gateway, Realtime.step, held, Option.ite_none_right_eq_some] at step
        obtain ⟨-, step⟩ := step
        split at step
        · cases step
          exact ⟨sound.files, sound.engine, flows⟩
        · obtain ⟨engine, produced, rfl⟩ := Option.map_eq_some_iff.mp step
          have moved : (Engine.Threads.engine cfg hash started).step u.engine
              (.produce ⟨target.name, ts, value⟩) = some engine := produced
          exact ⟨sound.files, sound.engine.tail moved, flows⟩
    | engine action =>
      simp only [gateway, Realtime.step, Option.ite_none_right_eq_some, Option.map_eq_some_iff] at step
      obtain ⟨-, engine, moved, rfl⟩ := step
      exact ⟨sound.files, sound.engine.tail moved, flows⟩

end

/-! ## The two ways to the statistics -/

section
open Statistics.Summary Extended

/-- The reading is a number. -/
def Numeric (r : ReadingEnvelope Extended) : Prop := F64.isFinite r.value = true

def number : Extended → ℚ
  | finite q => q
  | infinity | negInfinity | nan => 0

/-- The values of the sensor's readings. -/
def valuesOf (readings : List (ReadingEnvelope Extended)) (sensor : String) : List ℚ :=
  (Engine.Reduce.ofSensor readings sensor).map fun r => number r.value

theorem finite_number {x : Extended} (isNumber : F64.isFinite x = true) : x = finite (number x) := by
  cases x with
  | finite q => rfl
  | infinity | negInfinity | nan => cases isNumber

theorem mem_ofSensor {readings : List (ReadingEnvelope Extended)} {sensor : String}
    {r : ReadingEnvelope Extended} :
    r ∈ Engine.Reduce.ofSensor readings sensor ↔ r ∈ readings ∧ r.sensorId = sensor := by
  rw [Engine.Reduce.ofSensor, List.mem_filter, decide_eq_true_eq]

/-- Numbers taken in one after another, as rationals. -/
theorem foldl_numbers {values : List Extended} (numeric : ∀ value ∈ values, F64.isFinite value = true)
    (stats : SensorStats Extended) : values.foldl (fun stats x => stats.update x) stats =
      (values.map number).foldl (fun stats x => stats.update (finite x)) stats := by
  induction values generalizing stats with
  | nil => rfl
  | cons value rest ih =>
    obtain ⟨here, others⟩ := List.forall_mem_cons.mp numeric
    rw [List.foldl_cons, List.map_cons, List.foldl_cons, ih others, ← finite_number here]

theorem valuesOf_eq (readings : List (ReadingEnvelope Extended)) (id : SensorId) :
    valuesOf readings id.name = (sensorValues readings id).map number := by
  rw [valuesOf, sensorValues, List.map_map]
  rfl

/-- What the frames put out so far say of a sensor, merged in their order. -/
def framesMerged (emitted : List (AggregatedFrame Extended × List (ReadingEnvelope Extended)))
    (sensor : String) : SensorStats Extended :=
  (emitted.filterMap fun made => made.1.perSensor[sensor]?).foldl SensorStats.merge SensorStats.default

theorem valuesOf_append (first second : List (ReadingEnvelope Extended)) (sensor : String) :
    valuesOf (first ++ second) sensor = valuesOf first sensor ++ valuesOf second sensor := by
  rw [valuesOf, Engine.Reduce.ofSensor, List.filter_append, List.map_append]
  rfl

/-- An exact frame's entry for a sensor whose readings are numbers. -/
theorem entry_of_exact {d : Engine.Reduce.Detection Extended} {k : Nat}
    {frame : AggregatedFrame Extended} {readings : List (ReadingEnvelope Extended)} {sensor : String}
    (exact_ : Engine.Window.Exact d k readings frame)
    (numeric : ∀ r ∈ Engine.Reduce.ofSensor readings sensor, Numeric r) :
    (frame.perSensor[sensor]? = none ∧ valuesOf readings sensor = []) ∨
      frame.perSensor[sensor]? = some (summarize (valuesOf readings sensor)) := by
  rw [exact_.perSensor, Engine.Reduce.summary, valuesOf]
  cases group : Engine.Reduce.ofSensor readings sensor with
  | nil => exact Or.inl ⟨rfl, rfl⟩
  | cons r rest =>
    rw [group] at numeric
    have values : ∀ value ∈ (r :: rest).map ReadingEnvelope.value, F64.isFinite value = true :=
      List.forall_mem_map.mpr numeric
    have folded := foldl_numbers values SensorStats.default
    rw [List.foldl_map, List.map_map] at folded
    right
    rw [← collect_eq]
    exact congrArg some folded

theorem framesMerged_eq {d : Engine.Reduce.Detection Extended}
    {emitted : List (AggregatedFrame Extended × List (ReadingEnvelope Extended))} {sensor : String}
    (exact_ : ∀ made ∈ emitted, ∃ k, Engine.Window.Exact d k made.2 made.1)
    (numeric : ∀ r ∈ Engine.Reduce.ofSensor (emitted.flatMap Prod.snd) sensor, Numeric r)
    (small : (valuesOf (emitted.flatMap Prod.snd) sensor).length ≤ u64Max) :
    framesMerged emitted sensor = summarize (valuesOf (emitted.flatMap Prod.snd) sensor) := by
  induction emitted using List.reverseRecOn with
  | nil => exact summarize_nil.symm
  | append_singleton front made ih =>
    have split : (front ++ [made]).flatMap Prod.snd = front.flatMap Prod.snd ++ made.2 := by simp
    rw [split] at numeric small ⊢
    rw [valuesOf_append, List.length_append] at small
    have earlier := ih (fun other member => exact_ other (List.mem_append_left _ member))
      (fun r member => numeric r (by
        rw [mem_ofSensor] at member ⊢
        exact ⟨List.mem_append_left _ member.1, member.2⟩)) (by omega)
    obtain ⟨k, whole⟩ := exact_ made List.mem_concat_self
    have last : ∀ r ∈ Engine.Reduce.ofSensor made.2 sensor, Numeric r := by
      intro r member
      apply numeric
      rw [mem_ofSensor] at member ⊢
      exact ⟨List.mem_append_right _ member.1, member.2⟩
    rw [framesMerged] at earlier
    rw [framesMerged, List.filterMap_append, List.foldl_append, earlier, valuesOf_append]
    obtain ⟨absent, nothing⟩ | there := entry_of_exact whole last
    · simp [absent, nothing]
    · simp only [List.filterMap_cons, there, List.filterMap_nil, List.foldl_cons, List.foldl_nil]
      exact merge_summarize small

/-- The values of a sensor that no frame holds yet: in the engine's window, in the buffer, refused by it,
and with the reader. -/
def onTheWay {W : Nat} (s : State Extended W) (id : SensorId) : List ℚ :=
  valuesOf (s.engine.window ++ s.engine.queue) id.name ++ (s.refused id ++ (s.held id).toList).map number

theorem numbers_finite {json : SerdeJson Extended} {cwd : Place} {files : SensorFile.State Extended}
    (reach : (recording json cwd).Reachable files) (id : SensorId) :
    ∀ x ∈ numbers files id, F64.isFinite x = true := by
  intro x member
  obtain ⟨v, there, gives⟩ := List.mem_filterMap.mp member
  obtain ⟨call, among, rfl⟩ := List.mem_map.mp there
  obtain ⟨timestamp, value, same⟩ := (holds_reachable reach id).readings call among
  rw [same, readingNumber_readingValue, Option.ite_none_right_eq_some, Option.some.injEq] at gives
  exact gives.2 ▸ gives.1

/-- The answer for a sensor whose file is whole. -/
theorem realtime_whole {json : SerdeJson Extended} (exact : json.RoundTrips) {cwd : Place}
    {files : SensorFile.State Extended} (reach : (recording json cwd).Reachable files) {id : SensorId}
    (asked : id.name ∈ sensors)
    (whole : ∀ call ∈ files.written id, Whole json.toText call) (start now : SystemTime) :
    (getRealtimeAggregated json (files.host cwd) start now).perSensor[id.name]? =
      some (summarize ((numbers files id).map number)) := by
  have found : readingsOf json (files.host cwd) id.name =
      (files.written id).map fun call => call.value := by
    rw [readingsOf, readSensorFile_eq, (holds_reachable reach id).read_whole whole]
    exact List.map_congr_left fun call _ => Document.map_of_fixed exact call.value
  rw [getElem?_realtime, if_pos asked, found, readingStats_eq, ← collect_eq, collect,
    ← foldl_numbers (numbers_finite reach id)]
  rfl

section
variable {cfg : Engine.Threads.AggregationConfig Extended} {hash : String → Nat}
  {json : SerdeJson Extended} {cwd : Place} {started : SystemTime} {old : SensorFile.State Extended}
  {s : State Extended cfg.workers} (reach : (gateway json cwd cfg hash started old).Reachable s)
  {id : SensorId} (numeric : ∀ value ∈ s.taken id, F64.isFinite value = true)
include reach numeric

/-- The numbers of the file, in its order, are those it had at the start, those of the frames and those no
frame holds yet. -/
theorem numbers_filed : (numbers s.files id).map number = (numbers old.killed id).map number ++
    (valuesOf (s.engine.emitted.flatMap Prod.snd) id.name ++ onTheWay s id) := by
  have sound := sound_reachable reach
  have flows := sound.flows id
  have recorded := Engine.Exactness.recorded_reachable sound.engine
  have all : ((s.taken id).filter fun value => F64.isFinite value) = s.taken id :=
    List.filter_eq_self.mpr numeric
  rw [flows.filed, all, flows.passed, recorded.popped, onTheWay]
  simp only [valuesOf_eq, sensorValues, Engine.Reduce.ofSensor, List.filter_append, List.map_append,
    List.append_assoc]

theorem framesMerged_emitted
    (small : (valuesOf (s.engine.emitted.flatMap Prod.snd) id.name).length ≤ u64Max) :
    framesMerged s.engine.emitted id.name =
      summarize (valuesOf (s.engine.emitted.flatMap Prod.snd) id.name) := by
  have sound := sound_reachable reach
  have recorded := Engine.Exactness.recorded_reachable sound.engine
  apply framesMerged_eq (d := cfg.detection) _ _ small
  · intro made member
    obtain ⟨k, found⟩ := List.getElem?_of_mem member
    exact ⟨k, recorded.exact k made.1 made.2 found⟩
  · intro r member
    apply numeric
    rw [(sound.flows id).passed, recorded.popped, List.append_assoc, List.append_assoc]
    apply List.mem_append_left
    rw [mem_ofSensor] at member
    exact List.mem_map_of_mem (mem_ofSensor.mpr ⟨List.mem_append_left _ member.1, member.2⟩)

end

/-- In every run, as long as no write has been cut short, every value is a number and JSON gives each number
back as it is: what is computed afresh from the file of a sensor is what it was at the start, merged with
what the engine's frames say since then, and with the values no frame holds yet. -/
theorem realtime_agrees (cfg : Engine.Threads.AggregationConfig Extended) (hash : String → Nat)
    (json : SerdeJson Extended) (exact : json.RoundTrips) (cwd : Place) (started : SystemTime)
    (old : SensorFile.State Extended) (earlier : (recording json cwd).Reachable old)
    (s : State Extended cfg.workers) (reach : (gateway json cwd cfg hash started old).Reachable s)
    (id : SensorId) (asked : id.name ∈ sensors)
    (numeric : ∀ value ∈ s.taken id, F64.isFinite value = true)
    (whole : ∀ call ∈ s.files.written id, Whole json.toText call)
    (small : (s.files.written id).length ≤ u64Max) (start now : SystemTime) :
    ∃ before,
      (getRealtimeAggregated json (old.host cwd) start now).perSensor[id.name]? = some before ∧
      (getRealtimeAggregated json (s.files.host cwd) start now).perSensor[id.name]? =
        some ((before.merge (framesMerged s.engine.emitted id.name)).merge (collect (onTheWay s id))) := by
  have files := (sound_reachable reach).files
  have left : (recording json cwd).Reachable old.killed :=
    earlier.tail (show (recording json cwd).step old .kill = some old.killed from rfl)
  have whole_before : ∀ call ∈ old.killed.written id, Whole json.toText call := by
    intro call member
    rw [State.written_idle rfl] at member
    exact whole call (List.mem_append_left _ ((calls_grow files id).subset member))
  have parts := numbers_filed reach numeric
  have count : ((numbers s.files id).map number).length ≤ u64Max := by
    rw [List.length_map]
    refine (List.length_filterMap_le _ _).trans ?_
    rw [List.length_map]
    exact small
  rw [parts, List.length_append, List.length_append] at count
  refine ⟨_, realtime_whole exact left asked whole_before start now, ?_⟩
  rw [realtime_whole exact (left.trans files) asked whole start now,
    framesMerged_emitted reach numeric (by omega), collect_eq, merge_summarize (by omega),
    merge_summarize (by rw [List.length_append]; omega), parts, List.append_assoc]

/-- The reader takes a value and writes its whole line. -/
def taking (timestamp value : Extended) : List (Action Extended 2) :=
  let line := exactJson.toText (readingValue thermo.name timestamp value) ++ ['\n']
  [.read thermo timestamp value true, .write (.append thermo line.length), .write (.finish thermo)]

/-- A window of one reading, and another reading that has not been pushed. -/
def oneWindow : List (Action Extended 2) :=
  let go : Action Extended 2 := .engine (.dispatcher true 5)
  taking (finite 1) (finite 7) ++ .push thermo 1 :: List.replicate 7 go ++
    List.replicate 5 (.engine (.worker ⟨0, Nat.two_pos⟩)) ++
      List.replicate 3 (.engine (.worker ⟨1, Nat.one_lt_two⟩)) ++ [go, go, go] ++
        taking (finite 2) (finite 9)

set_option maxRecDepth 8000 in
theorem realtime_agrees_oneWindow :
    ∃ (s : State Extended 2) (before : SensorStats Extended),
      s.engine.emitted.length = 1 ∧ onTheWay s thermo = [9] ∧
      (getRealtimeAggregated exactJson (s.files.host []) 0 0).perSensor[thermo.name]? =
        some ((before.merge (framesMerged s.engine.emitted thermo.name)).merge
          (collect (onTheWay s thermo))) := by
  let sys := gateway exactJson [] (twoWorkers 0) String.length 0 (recording exactJson []).init
  let s := (sys.run oneWindow).get (by decide)
  have reach : sys.Reachable s := System.reachable_of_run (Option.some_get _).symm
  have agrees := realtime_agrees (twoWorkers 0) String.length exactJson exactJson_roundTrips [] 0
    (recording exactJson []).init (System.ReachesUnder.refl _) s reach thermo (by decide) (by decide)
    (by decide) (by decide) 0 0
  obtain ⟨before, -, now⟩ := agrees
  exact ⟨s, before, by decide, by decide, now⟩

end

end SensorGateway.Dashboard.Realtime

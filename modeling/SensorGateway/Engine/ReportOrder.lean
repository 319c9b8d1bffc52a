import SensorGateway.Engine.Reduce
import SensorGateway.Lib.Moments

/-! The reduction does not depend on the order in which the reports arrive, whatever summaries they
hold, as long as no count gets so large that it saturates. -/

namespace SensorGateway.Engine.ReportOrder
open SensorGateway.Lib.ExtendedRat SensorGateway.Lib.Moments SensorGateway.Lib.Saturating
open SensorGateway.Lib.Keyed SensorGateway.Types Extended Reduce

/-- A summary as a report may hold it: of nothing, or of some readings with numbers for their mean
and their sum of squared distances. -/
inductive Sound : SensorStats Extended → Prop where
  | nothing : Sound SensorStats.default
  | some (count : Nat) (min max : Extended) (mean m2 : ℚ) (positive : 0 < count) :
    Sound ⟨count, min, max, finite mean, finite m2⟩

/-- Two summaries of something, merged without saturation. -/
theorem merge_some {n m : Nat} (x x' y y' : Extended) (a s b t : ℚ) (first : 0 < n) (second : 0 < m)
    (small : n + m ≤ u64Max) :
    SensorStats.merge ⟨n, x, x', finite a, finite s⟩ ⟨m, y, y', finite b, finite t⟩ =
      ⟨n + m, least x y, greatest x' y', finite (pooledMean (n : ℚ) a m b),
        finite (pooledDeviation (n : ℚ) a s m b t)⟩ := by
  have total : (n : ℚ) + m ≠ 0 := by exact_mod_cast (by omega : n + m ≠ 0)
  have counted : toNat u64Max (finite ((n : ℚ) + m)) = n + m := by
    rw [← Nat.cast_add, toNat_natCast small]
  unfold SensorStats.merge
  rw [if_neg first.ne', if_neg second.ne']
  simp only [F64.ofCount, F64.toCount, F64.least, F64.greatest, finite_sub, finite_add, finite_mul,
    finite_div _ total, counted]
  rfl

theorem merge_nothing {stats : SensorStats Extended} (sound : Sound stats) :
    stats.merge SensorStats.default = stats := by
  cases sound with
  | nothing => rfl
  | some count min max mean m2 positive =>
    unfold SensorStats.merge
    rw [if_neg positive.ne']
    rfl

theorem Sound.merge {a b : SensorStats Extended} (first : Sound a) (second : Sound b)
    (small : a.count + b.count ≤ u64Max) :
    Sound (a.merge b) ∧ (a.merge b).count = a.count + b.count := by
  cases first with
  | nothing =>
    rw [SensorStats.merge_default]
    exact ⟨second, (Nat.zero_add _).symm⟩
  | some n x x' mean s positive =>
    cases second with
    | nothing =>
      rw [merge_nothing (.some n x x' mean s positive)]
      exact ⟨.some n x x' mean s positive, rfl⟩
    | some m y y' mean' t positive' =>
      rw [merge_some x x' y y' mean s mean' t positive positive' small]
      exact ⟨.some _ _ _ _ _ (by omega), rfl⟩

theorem merge_comm {a b : SensorStats Extended} (first : Sound a) (second : Sound b)
    (small : a.count + b.count ≤ u64Max) : a.merge b = b.merge a := by
  cases first with
  | nothing => rw [SensorStats.merge_default, merge_nothing second]
  | some n x x' mean s positive =>
    cases second with
    | nothing => rw [SensorStats.merge_default, merge_nothing (.some n x x' mean s positive)]
    | some m y y' mean' t positive' =>
      have swapped : m + n ≤ u64Max := by
        rw [Nat.add_comm]
        exact small
      have total : (n : ℚ) + m ≠ 0 := by exact_mod_cast (by omega : n + m ≠ 0)
      rw [merge_some x x' y y' mean s mean' t positive positive' small,
        merge_some y y' x x' mean' t mean s positive' positive swapped, Nat.add_comm,
        least_comm, greatest_comm, pooledMean_comm _ _ total, pooledDeviation_comm]

/-- Two summaries may be merged into a third in either order. -/
theorem merge_right_comm {z a b : SensorStats Extended} (onto : Sound z) (first : Sound a)
    (second : Sound b) (small : z.count + a.count + b.count ≤ u64Max) :
    (z.merge a).merge b = (z.merge b).merge a := by
  cases onto with
  | nothing =>
    rw [SensorStats.merge_default, SensorStats.merge_default]
    exact merge_comm first second (by simpa [SensorStats.default] using small)
  | some k w w' mean₀ r positive₀ =>
    have base := Sound.some k w w' mean₀ r positive₀
    cases first with
    | nothing =>
      obtain ⟨sound, -⟩ := base.merge second (by dsimp only [SensorStats.default] at small ⊢; omega)
      rw [merge_nothing base, merge_nothing sound]
    | some n x x' mean s positive =>
      cases second with
      | nothing =>
        obtain ⟨sound, -⟩ := base.merge (.some n x x' mean s positive)
          (by dsimp only [SensorStats.default] at small ⊢; omega)
        rw [merge_nothing base, merge_nothing sound]
      | some m y y' mean' t positive' =>
        dsimp only at small
        have one : (k : ℚ) + n ≠ 0 := by exact_mod_cast (by omega : k + n ≠ 0)
        have other : (k : ℚ) + m ≠ 0 := by exact_mod_cast (by omega : k + m ≠ 0)
        have all : (k : ℚ) + n + m ≠ 0 := by exact_mod_cast (by omega : k + n + m ≠ 0)
        rw [merge_some w w' x x' mean₀ r mean s positive₀ positive (by omega),
          merge_some w w' y y' mean₀ r mean' t positive₀ positive' (by omega),
          merge_some _ _ y y' _ _ mean' t (by omega) positive' small,
          merge_some _ _ x x' _ _ mean s (by omega) positive (by omega),
          Nat.cast_add, Nat.cast_add, Nat.add_right_comm, least_right_comm, greatest_right_comm,
          pooledMean_right_comm _ _ _ one other all,
          pooledDeviation_right_comm _ _ _ _ _ _ one other all]

def total (group : List (SensorStats Extended)) : Nat := (group.map SensorStats.count).sum

/-- A permutation of the summaries comes to the same. The induction is on the permutation, for every
summary they are merged into. -/
theorem foldl_merge_perm {a b : List (SensorStats Extended)} (perm : a.Perm b)
    {z : SensorStats Extended} (onto : Sound z) (sound : ∀ stats ∈ a, Sound stats)
    (small : z.count + total a ≤ u64Max) :
    a.foldl SensorStats.merge z = b.foldl SensorStats.merge z := by
  induction perm generalizing z with
  | nil => rfl
  | cons x _ ih =>
    simp only [total, List.map_cons, List.sum_cons] at small
    obtain ⟨merged, counts⟩ := onto.merge (sound x List.mem_cons_self) (by omega)
    apply ih merged fun stats member => sound stats (List.mem_cons_of_mem x member)
    rw [counts, total]
    omega
  | swap x y rest =>
    simp only [total, List.map_cons, List.sum_cons] at small
    have first := sound y List.mem_cons_self
    have second := sound x (List.mem_cons_of_mem y List.mem_cons_self)
    rw [List.foldl_cons, List.foldl_cons, List.foldl_cons, List.foldl_cons,
      merge_right_comm onto first second (by omega)]
  | trans one _ ih ih' =>
    rw [ih onto sound small]
    apply ih' onto fun stats member => sound stats (one.symm.subset member)
    rwa [total, ← (one.map SensorStats.count).sum_eq]

/-- The summaries of one sensor in some reports, in the order of the reports. -/
def summariesOf (reports : List (WindowReport Extended)) (sensor : String) :
    List (SensorStats Extended) :=
  reports.filterMap fun rep => rep.bucket[sensor]?

/-- What the summaries of a sensor come to, if there are any. -/
def mergedSummaries : List (SensorStats Extended) → Option (SensorStats Extended)
  | [] => none
  | stats :: rest => some ((stats :: rest).foldl SensorStats.merge SensorStats.default)

theorem mergedSummaries_perm {a b : List (SensorStats Extended)} (perm : a.Perm b)
    (sound : ∀ stats ∈ a, Sound stats) (small : total a ≤ u64Max) :
    mergedSummaries a = mergedSummaries b := by
  have folds := foldl_merge_perm perm .nothing sound (by simpa [SensorStats.default] using small)
  cases a with
  | nil => rw [perm.nil_eq]
  | cons x rest =>
    cases b with
    | nil => exact absurd perm.eq_nil (List.cons_ne_nil x rest)
    | cons y rest' => exact congrArg some folds

theorem getElem?_foldl_mergeReport (reports : List (WindowReport Extended))
    (merged : SensorMap (SensorStats Extended) × List (AnomalyRecord Extended)) (sensor : String) :
    (reports.foldl mergeReport merged).1[sensor]? =
      (summariesOf reports sensor).foldl
        (fun old stats => some ((old.getD SensorStats.default).merge stats)) merged.1[sensor]? := by
  induction reports generalizing merged with
  | nil => rfl
  | cons rep rest ih =>
    rw [List.foldl_cons, ih, mergeReport, getElem?_mergeInto]
    unfold summariesOf
    rw [List.filterMap_cons]
    cases rep.bucket[sensor]? with
    | none => rfl
    | some stats => rfl

theorem foldl_getD (group : List (SensorStats Extended)) (z : SensorStats Extended) :
    group.foldl (fun old stats => some ((old.getD SensorStats.default).merge stats)) (some z) =
      some (group.foldl SensorStats.merge z) := by
  induction group generalizing z with
  | nil => rfl
  | cons stats rest ih => exact ih (z.merge stats)

theorem merged_sensor (reports : List (WindowReport Extended)) (sensor : String) :
    (reports.foldl mergeReport (∅, [])).1[sensor]? =
      mergedSummaries (summariesOf reports sensor) := by
  have fresh : (∅ : SensorMap (SensorStats Extended))[sensor]? = none :=
    Std.ExtTreeMap.getElem?_empty
  rw [getElem?_foldl_mergeReport, fresh]
  cases summariesOf reports sensor with
  | nil => rfl
  | cons stats rest => exact foldl_getD rest _

theorem merged_anomalies (reports : List (WindowReport Extended))
    (merged : SensorMap (SensorStats Extended) × List (AnomalyRecord Extended)) :
    (reports.foldl mergeReport merged).2 = merged.2 ++ reports.flatMap WindowReport.anomalies := by
  induction reports generalizing merged with
  | nil => exact (List.append_nil _).symm
  | cons rep rest ih =>
    rw [List.foldl_cons, ih, List.flatMap_cons, ← List.append_assoc]
    rfl

section
variable {F : Type} [F64 F]

/-- As many reports as are expected are all there is to it. -/
theorem reduceFrom_reports (reports : List (WindowReport F)) (later : List (Received F))
    (merged : SensorMap (SensorStats F) × List (AnomalyRecord F)) :
    reduceFrom merged reports.length (reports.map .report ++ later) =
      some (.ok (reports.foldl mergeReport merged)) := by
  induction reports generalizing merged with
  | nil => rfl
  | cons rep rest ih => exact ih (mergeReport merged rep)

/-- What ends the wait for a report. -/
def failure : WindowCollectError → Received F
  | .timeout => .timeout
  | .disconnected => .disconnected

/-- Nothing of the reports that came first is left. -/
theorem reduceFrom_failure (reports : List (WindowReport F)) (error : WindowCollectError)
    (later : List (Received F)) (merged : SensorMap (SensorStats F) × List (AnomalyRecord F))
    {expected : Nat} (short : reports.length < expected) :
    reduceFrom merged expected (reports.map .report ++ failure error :: later) =
      some (.error error) := by
  induction reports generalizing merged expected with
  | nil =>
    obtain ⟨more, rfl⟩ := Nat.exists_eq_add_of_lt short
    cases error <;> rfl
  | cons rep rest ih =>
    rw [List.length_cons] at short
    obtain ⟨more, rfl⟩ : ∃ more, expected = more + 1 := ⟨expected - 1, by omega⟩
    exact ih (mergeReport merged rep) (by omega)

end

/-- Reports whose summaries are sound, and whose counts for a sensor add up to a `u64`. -/
structure Acceptable (reports : List (WindowReport Extended)) : Prop where
  sound : ∀ rep ∈ reports, ∀ (sensor : String) (stats : SensorStats Extended),
    rep.bucket[sensor]? = some stats → Sound stats
  small : ∀ sensor, total (summariesOf reports sensor) ≤ u64Max

/-- The reports may come in any order. A wait that fails before the last leaves nothing. -/
theorem reduction_order_independent (reports : List (WindowReport Extended))
    (acceptable : Acceptable reports) :
    (∃ perSensor : SensorMap (SensorStats Extended),
      (∀ sensor, perSensor[sensor]? = mergedSummaries (summariesOf reports sensor)) ∧
      ∀ (order : List (WindowReport Extended)) later, order.Perm reports →
        ∃ anomalies, reduceWindowReports (order.map .report ++ later) reports.length =
          some (.ok (perSensor, anomalies)) ∧
          anomalies.Perm (reports.flatMap WindowReport.anomalies)) ∧
      ∀ (came : List (WindowReport Extended)) error later expected, came.length < expected →
        reduceWindowReports (came.map .report ++ failure error :: later) expected =
          some (.error error) := by
  refine ⟨⟨(reports.foldl mergeReport (∅, [])).1, merged_sensor reports, ?_⟩, ?_⟩
  · intro order later perm
    refine ⟨(order.foldl mergeReport (∅, [])).2, ?_, ?_⟩
    · have same : (order.foldl mergeReport (∅, [])).1 = (reports.foldl mergeReport (∅, [])).1 := by
        apply Std.ExtTreeMap.ext_getElem?
        intro sensor
        have groups : (summariesOf reports sensor).Perm (summariesOf order sensor) :=
          perm.symm.filterMap _
        rw [merged_sensor, merged_sensor]
        refine (mergedSummaries_perm groups ?_ (acceptable.small sensor)).symm
        intro stats member
        obtain ⟨rep, there, found⟩ := List.mem_filterMap.mp member
        exact acceptable.sound rep there sensor stats found
      rw [reduceWindowReports, ← perm.length_eq, reduceFrom_reports, ← same]
    · rw [merged_anomalies, List.nil_append]
      exact perm.flatMap_right _
  · intro came error later expected short
    exact reduceFrom_failure came error later (∅, []) short

/-- A report about one sensor. -/
def about (stats : SensorStats Extended) : WindowReport Extended :=
  ⟨(∅ : SensorMap (SensorStats Extended)).insert "temp" stats, []⟩

theorem about_bucket (stats : SensorStats Extended) (sensor : String) :
    (about stats).bucket[sensor]? = if "temp" = sensor then some stats else none := by
  unfold about
  rw [Std.ExtTreeMap.getElem?_insert, Std.ExtTreeMap.getElem?_empty]
  simp only [Std.compare_eq_iff_eq]

/-- One reading of 2, and two of 5. -/
def overlapping : List (WindowReport Extended) :=
  [about ⟨1, finite 2, finite 2, finite 2, finite 0⟩, about ⟨2, finite 5, finite 5, finite 5, finite 0⟩]

theorem overlapping_acceptable : Acceptable overlapping where
  sound := by
    intro rep member sensor stats found
    simp only [overlapping, List.mem_cons, List.not_mem_nil, or_false] at member
    rcases member with rfl | rfl
    · rw [about_bucket] at found
      split_ifs at found
      rw [← Option.some.inj found]
      exact .some 1 (finite 2) (finite 2) 2 0 Nat.one_pos
    · rw [about_bucket] at found
      split_ifs at found
      rw [← Option.some.inj found]
      exact .some 2 (finite 5) (finite 5) 5 0 Nat.two_pos
  small := by
    intro sensor
    simp only [overlapping, summariesOf, List.filterMap_cons, List.filterMap_nil, about_bucket]
    by_cases temp : "temp" = sensor
    · simp only [if_pos temp]
      decide
    · simp only [if_neg temp]
      decide

theorem reduction_order_independent_overlapping :
    ∃ perSensor : SensorMap (SensorStats Extended), ∃ anomalies,
      reduceWindowReports (overlapping.reverse.map .report) 2 =
        some (.ok (perSensor, anomalies)) ∧
      perSensor["temp"]? = mergedSummaries (summariesOf overlapping "temp") := by
  obtain ⟨⟨perSensor, merged, any⟩, -⟩ :=
    reduction_order_independent overlapping overlapping_acceptable
  obtain ⟨anomalies, reduces, -⟩ := any overlapping.reverse [] (List.reverse_perm _)
  rw [List.append_nil] at reduces
  exact ⟨perSensor, anomalies, reduces, merged "temp"⟩

/-- As many readings as a `u64` counts, all of the same value. -/
def saturated (value : ℚ) : WindowReport Extended :=
  about ⟨u64Max, finite value, finite value, finite value, finite 0⟩

def meanOf (answers : List (WindowReport Extended)) : Option Extended := do
  let (perSensor, _) ← (← reduceWindowReports (answers.map .report) answers.length).toOption
  let stats ← perSensor["temp"]?
  some stats.mean

/-- A count that saturates weighs too little, and which reports it stands for depends on the order. -/
theorem saturated_order_dependent :
    [saturated 0, saturated 1, saturated 0].Perm [saturated 0, saturated 0, saturated 1] ∧
      (∀ value, Sound ⟨u64Max, finite value, finite value, finite value, finite 0⟩) ∧
      meanOf [saturated 0, saturated 0, saturated 1] = some (finite (1 / 2)) ∧
      meanOf [saturated 0, saturated 1, saturated 0] = some (finite (1 / 4)) :=
  ⟨(List.Perm.swap _ _ _).cons _, fun value => .some _ _ _ value 0 (by decide), by decide +kernel,
    by decide +kernel⟩

end SensorGateway.Engine.ReportOrder

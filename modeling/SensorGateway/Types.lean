import Mathlib.Algebra.Ring.Int.Defs
import Mathlib.Data.List.Basic
import Mathlib.Data.Nat.Sqrt
import SensorGateway.Lib.ExtendedRat
import SensorGateway.Lib.Saturating

/-! The records that pass through the gateway, over any carrier of the floating-point operations
the code uses. Counts and window numbers are natural numbers: the source has a `u64` for each and
adds to it one at a time, so that a run is taken to end before one of them comes to `2 ^ 64`. -/

namespace SensorGateway.Types
open SensorGateway.Lib.ExtendedRat SensorGateway.Lib.Saturating

/-- The `f64` operations of the gateway. -/
class F64 (F : Type) extends Zero F, Add F, Sub F, Mul F, Div F, LT F where
  decLt : DecidableLT F
  infinity : F
  negInfinity : F
  /-- `f64::min` and `f64::max`. -/
  least : F → F → F
  greatest : F → F → F
  /-- `count as f64`. -/
  ofCount : Nat → F
  /-- `x as u64`. -/
  toCount : F → Nat
  sqrt : F → F
  abs : F → F
  isFinite : F → Bool

instance decidableLT {F : Type} [F64 F] : DecidableLT F := F64.decLt

/-- Whole numbers, to run the model on. -/
instance : F64 Int where
  decLt := inferInstance
  infinity := 2 ^ 64
  negInfinity := -2 ^ 64
  least := fun a b => if b < a then b else a
  greatest := fun a b => if a < b then b else a
  ofCount := Int.ofNat
  toCount := Int.toNat
  sqrt := fun a => Int.ofNat a.toNat.sqrt
  abs := fun a => if a < 0 then -a else a
  isFinite := fun _ => true

/-- `f64` without rounding. -/
instance exactF64 : F64 Extended where
  decLt := Extended.decidableLess
  infinity := .infinity
  negInfinity := .negInfinity
  least := Extended.least
  greatest := Extended.greatest
  ofCount := fun n => .finite n
  toCount := Extended.toNat u64Max
  sqrt := Extended.sqrt
  abs := Extended.abs
  isFinite := Extended.isFinite

/-- Nanoseconds since the Unix epoch. -/
abbrev SystemTime := Int

structure ReadingEnvelope (F : Type) where
  sensorId : String
  ts : SystemTime
  value : F
  deriving DecidableEq, Repr

structure AnomalyRecord (F : Type) where
  sensorId : String
  ts : SystemTime
  value : F
  z : F
  deriving DecidableEq, Repr

structure SensorStats (F : Type) where
  count : Nat
  min : F
  max : F
  mean : F
  m2 : F
  deriving DecidableEq, Repr

/-- A `HashMap` with sensor ids as keys; nothing depends on the order of its entries. -/
abbrev SensorMap (V : Type) := Std.ExtTreeMap String V compare

structure AggregatedFrame (F : Type) where
  windowId : Nat
  windowStart : SystemTime
  windowEnd : SystemTime
  perSensor : SensorMap (SensorStats F)
  anomalies : List (AnomalyRecord F)

namespace SensorStats
variable {F : Type} [F64 F]

/-- `SensorStats::default`. -/
def default : SensorStats F := ⟨0, F64.infinity, F64.negInfinity, 0, 0⟩

/-- One Welford step. -/
def update (stats : SensorStats F) (x : F) : SensorStats F :=
  if stats.count = 0 then ⟨1, x, x, x, 0⟩
  else
    let count := stats.count + 1
    let delta := x - stats.mean
    let mean := stats.mean + delta / F64.ofCount count
    let delta2 := x - mean
    { count
      min := if x < stats.min then x else stats.min
      max := if stats.max < x then x else stats.max
      mean
      m2 := stats.m2 + delta * delta2 }

/-- Two Welford states merged by Chan's parallel algorithm. -/
def merge (stats other : SensorStats F) : SensorStats F :=
  if stats.count = 0 then other
  else if other.count = 0 then stats
  else
    let nA : F := F64.ofCount stats.count
    let nB : F := F64.ofCount other.count
    let n := nA + nB
    let delta := other.mean - stats.mean
    { count := F64.toCount n
      min := F64.least stats.min other.min
      max := F64.greatest stats.max other.max
      mean := stats.mean + delta * (nB / n)
      m2 := stats.m2 + other.m2 + delta * delta * (nA * nB / n) }

def varianceSample (stats : SensorStats F) : F :=
  if stats.count ≤ 1 then 0 else stats.m2 / F64.ofCount (stats.count - 1)

def stddevSample (stats : SensorStats F) : F := F64.sqrt stats.varianceSample

theorem count_update (stats : SensorStats F) (x : F) : (stats.update x).count = stats.count + 1 := by
  unfold update
  by_cases empty : stats.count = 0
  · rw [if_pos empty, empty]
  · rw [if_neg empty]

theorem merge_default (stats : SensorStats F) : default.merge stats = stats := rfl

end SensorStats

end SensorGateway.Types

import Mathlib.Algebra.Order.Field.Rat
import Mathlib.Data.Nat.Sqrt
import Mathlib.Data.Rat.Floor

/-! Floating-point arithmetic without rounding: the rationals with two infinities and a value for
results that are not numbers. There is one zero. -/

namespace SensorGateway.Lib.ExtendedRat

inductive Extended where
  | finite (q : ℚ)
  | infinity
  | negInfinity
  | nan
  deriving DecidableEq, Repr

namespace Extended

def neg : Extended → Extended
  | finite q => finite (-q)
  | infinity => negInfinity
  | negInfinity => infinity
  | nan => nan

def add : Extended → Extended → Extended
  | finite p, finite q => finite (p + q)
  | nan, _ | _, nan => nan
  | infinity, negInfinity | negInfinity, infinity => nan
  | infinity, _ | _, infinity => infinity
  | negInfinity, _ | _, negInfinity => negInfinity

/-- An infinity with the sign of `q`. -/
def infinite (q : ℚ) : Extended := if 0 < q then infinity else if q < 0 then negInfinity else nan

/-- A number with the sign of the value, to find the sign of a product. -/
def sign : Extended → ℚ
  | finite q => q
  | infinity => 1
  | negInfinity => -1
  | nan => 0

def mul : Extended → Extended → Extended
  | finite p, finite q => finite (p * q)
  | nan, _ | _, nan => nan
  | x, y => infinite (x.sign * y.sign)

def div : Extended → Extended → Extended
  | finite p, finite q => if q = 0 then infinite p else finite (p / q)
  | finite _, infinity | finite _, negInfinity => finite 0
  | infinity, finite q => if q < 0 then negInfinity else infinity
  | negInfinity, finite q => if q < 0 then infinity else negInfinity
  | _, _ => nan

/-- No value is below or above `nan`. -/
def Less : Extended → Extended → Prop
  | finite p, finite q => p < q
  | negInfinity, finite _ | negInfinity, infinity | finite _, infinity => True
  | _, _ => False

instance decidableLess (x y : Extended) : Decidable (Less x y) := by
  cases x <;> cases y <;> unfold Less <;> infer_instance

instance zeroExtended : Zero Extended := ⟨finite 0⟩
instance addExtended : Add Extended := ⟨add⟩
instance subExtended : Sub Extended := ⟨fun x y => add x (neg y)⟩
instance mulExtended : Mul Extended := ⟨mul⟩
instance divExtended : Div Extended := ⟨div⟩
instance ltExtended : LT Extended := ⟨Less⟩

/-- The smaller of two values; `nan` stands back. -/
def least (x y : Extended) : Extended :=
  if x = nan then y else if Less y x then y else x

def greatest (x y : Extended) : Extended :=
  if x = nan then y else if Less x y then y else x

def abs (x : Extended) : Extended := if Less x (finite 0) then neg x else x

/-- A square root rounded down to a multiple of the reciprocal of the denominator: the rationals have
no others, and what depends on a root is stated over the extended reals. -/
def sqrt : Extended → Extended
  | finite q => if q < 0 then nan else finite (((q.num.toNat * q.den).sqrt : ℚ) / q.den)
  | infinity => infinity
  | negInfinity | nan => nan

/-- `x as u64`. -/
def toNat (bound : Nat) : Extended → Nat
  | finite q => min ⌊q⌋₊ bound
  | infinity => bound
  | negInfinity | nan => 0

def isFinite : Extended → Bool
  | finite _ => true
  | infinity | negInfinity | nan => false

/-- The least element of a list, if there is one. -/
def ofMinimum : WithTop ℚ → Extended
  | some q => finite q
  | none => infinity

def ofMaximum : WithBot ℚ → Extended
  | some q => finite q
  | none => negInfinity

variable (p q : ℚ)

@[simp] theorem finite_add : finite p + finite q = finite (p + q) := rfl

@[simp] theorem finite_sub : finite p - finite q = finite (p - q) := by
  show finite (p + -q) = _
  rw [← sub_eq_add_neg]

@[simp] theorem finite_mul : finite p * finite q = finite (p * q) := rfl

@[simp] theorem finite_lt : finite p < finite q ↔ p < q := Iff.rfl

theorem zero_eq : (0 : Extended) = finite 0 := rfl

@[simp] theorem finite_div {q : ℚ} (nonzero : q ≠ 0) : finite p / finite q = finite (p / q) := by
  show (if q = 0 then infinite p else finite (p / q)) = _
  rw [if_neg nonzero]

@[simp] theorem ofMinimum_coe : ofMinimum (q : WithTop ℚ) = finite q := rfl

@[simp] theorem ofMaximum_coe : ofMaximum (q : WithBot ℚ) = finite q := rfl

theorem finite_least : least (finite p) (finite q) = finite (min p q) := by
  unfold least
  by_cases below : q < p
  · have less : Less (finite q) (finite p) := below
    simp [less, min_eq_right below.le]
  · have less : ¬Less (finite q) (finite p) := below
    simp [less, min_eq_left (not_lt.mp below)]

theorem finite_greatest : greatest (finite p) (finite q) = finite (max p q) := by
  unfold greatest
  by_cases below : p < q
  · have less : Less (finite p) (finite q) := below
    simp [less, max_eq_right below.le]
  · have less : ¬Less (finite p) (finite q) := below
    simp [less, max_eq_left (not_lt.mp below)]

@[simp] theorem least_nan (x : Extended) : least x nan = x := by
  cases x <;> rfl

@[simp] theorem nan_least (x : Extended) : least nan x = x := rfl

@[simp] theorem greatest_nan (x : Extended) : greatest x nan = x := by
  cases x <;> rfl

@[simp] theorem nan_greatest (x : Extended) : greatest nan x = x := rfl

theorem least_comm (x y : Extended) : least x y = least y x := by
  cases x with
  | finite p =>
    cases y with
    | finite q => rw [finite_least, finite_least, min_comm]
    | _ => rfl
  | infinity => cases y <;> rfl
  | negInfinity => cases y <;> rfl
  | nan => simp

theorem greatest_comm (x y : Extended) : greatest x y = greatest y x := by
  cases x with
  | finite p =>
    cases y with
    | finite q => rw [finite_greatest, finite_greatest, max_comm]
    | _ => rfl
  | infinity => cases y <;> rfl
  | negInfinity => cases y <;> rfl
  | nan => simp

@[simp] theorem least_infinity_finite : least infinity (finite p) = finite p := rfl
@[simp] theorem least_finite_infinity : least (finite p) infinity = finite p := rfl
@[simp] theorem least_negInfinity_finite : least negInfinity (finite p) = negInfinity := rfl
@[simp] theorem least_finite_negInfinity : least (finite p) negInfinity = negInfinity := rfl

@[simp] theorem greatest_infinity_finite : greatest infinity (finite p) = infinity := rfl
@[simp] theorem greatest_finite_infinity : greatest (finite p) infinity = infinity := rfl
@[simp] theorem greatest_negInfinity_finite : greatest negInfinity (finite p) = finite p := rfl
@[simp] theorem greatest_finite_negInfinity : greatest (finite p) negInfinity = finite p := rfl

/-- Where two numbers meet an infinity, the numbers meet first or last. -/
theorem least_right_comm (x y z : Extended) : least (least x y) z = least (least x z) y := by
  cases x <;> cases y <;> cases z <;> first
    | rfl
    | simp [finite_least, min_comm, min_left_comm]

theorem greatest_right_comm (x y z : Extended) :
    greatest (greatest x y) z = greatest (greatest x z) y := by
  cases x <;> cases y <;> cases z <;> first
    | rfl
    | simp [finite_greatest, max_comm, max_left_comm]

theorem toNat_natCast {n bound : Nat} (small : n ≤ bound) : toNat bound (finite n) = n := by
  simp [toNat, small]

end Extended

end SensorGateway.Lib.ExtendedRat

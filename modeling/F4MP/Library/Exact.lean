import F4MP.Library.SoftFloat

/-!
# Exact numbers and NaN

C's `float` read over a field: nothing is rounded, what has no value is NaN, arithmetic on NaN is NaN
and every comparison with NaN is false.
-/

namespace SoftFloat

inductive Exact (K : Type) where
  | nan
  | num (x : K)
  deriving DecidableEq

/-- The function that C's `sqrt` is read as. -/
class SquareRoot (K : Type) where
  root : K → K

instance : SquareRoot ℚ := ⟨Rat.sqrt⟩

noncomputable instance : SquareRoot ℝ := ⟨Real.sqrt⟩

/-- The root of a number is exact. -/
def HasRoot {K : Type} [Mul K] [Zero K] [LE K] [SquareRoot K] (x : K) : Prop :=
  0 ≤ SquareRoot.root x ∧ SquareRoot.root x * SquareRoot.root x = x

instance {K : Type} [Mul K] [Zero K] [LE K] [SquareRoot K] [DecidableLE K] [DecidableEq K] (x : K) :
    Decidable (HasRoot x) := inferInstanceAs (Decidable (_ ∧ _))

theorem hasRoot_real {x : ℝ} (nonneg : 0 ≤ x) : HasRoot x :=
  ⟨Real.sqrt_nonneg x, Real.mul_self_sqrt nonneg⟩

theorem HasRoot.pos {K : Type} [Field K] [LinearOrder K] [SquareRoot K] {x : K} (exact : HasRoot x)
    (positive : 0 < x) : 0 < SquareRoot.root x := by
  refine lt_of_le_of_ne exact.1 fun zero => ?_
  rw [← exact.2, ← zero, mul_zero] at positive
  exact lt_irrefl _ positive

namespace Exact
variable {K : Type}

def isNum : Exact K → Bool
  | nan => false
  | num _ => true

def lift (op : K → K → K) : Exact K → Exact K → Exact K
  | num x, num y => num (op x y)
  | _, _ => nan

def compare (r : K → K → Prop) [DecidableRel r] : Exact K → Exact K → Bool
  | num x, num y => decide (r x y)
  | _, _ => false

@[simp] theorem isNum_num (x : K) : (num x).isNum = true := rfl

@[simp] theorem isNum_nan : (nan : Exact K).isNum = false := rfl

@[simp] theorem isNum_lift (op : K → K → K) (x y : Exact K) :
    (lift op x y).isNum = (x.isNum && y.isNum) := by
  cases x with
  | nan => rfl
  | num x => cases y <;> rfl

theorem isNum_iff {x : Exact K} : x.isNum = true ↔ ∃ a, x = num a := by
  cases x with
  | nan => exact iff_of_false Bool.false_ne_true fun ⟨_, is⟩ => by cases is
  | num a => exact iff_of_true rfl ⟨a, rfl⟩

theorem isNum_of_compare {r : K → K → Prop} [DecidableRel r] {x y : Exact K}
    (holds : compare r x y = true) : x.isNum = true ∧ y.isNum = true := by
  cases x with
  | nan => cases holds
  | num x =>
      cases y with
      | nan => cases holds
      | num y => exact ⟨rfl, rfl⟩

section Field
variable [Field K] [LinearOrder K] [SquareRoot K]

instance : CFloat (Exact K) where
  lit numerator denominator := num (numerator / denominator)
  add := lift (· + ·)
  sub := lift (· - ·)
  mul := lift (· * ·)
  div
    | num x, num y => if y = 0 then nan else num (x / y)
    | _, _ => nan
  sqrt
    | num x => if x < 0 then nan else num (SquareRoot.root x)
    | nan => nan
  lt := compare (· < ·)
  le := compare (· ≤ ·)
  eq := compare (· = ·)

open CFloat

theorem lit_num (numerator : Int) (denominator : Nat) :
    (lit numerator denominator : Exact K) = num ((numerator : K) / (denominator : K)) := rfl

theorem sub_num (x y : K) : sub (num x) (num y) = num (x - y) := rfl

theorem mul_num (x y : K) : mul (num x) (num y) = num (x * y) := rfl

theorem div_num {x y : K} (divisor : y ≠ 0) : div (num x) (num y) = num (x / y) := if_neg divisor

theorem sqrt_num {x : K} (nonneg : 0 ≤ x) : sqrt (num x) = num (SquareRoot.root x) :=
  if_neg (not_lt.mpr nonneg)

theorem lt_num {x y : K} : lt (num x) (num y) = true ↔ x < y := decide_eq_true_iff

@[simp] theorem isNum_add (x y : Exact K) : (add x y).isNum = (x.isNum && y.isNum) := isNum_lift _ x y

@[simp] theorem isNum_sub (x y : Exact K) : (sub x y).isNum = (x.isNum && y.isNum) := isNum_lift _ x y

@[simp] theorem isNum_mul (x y : Exact K) : (mul x y).isNum = (x.isNum && y.isNum) := isNum_lift _ x y

theorem isNum_of_div {x y : Exact K} (number : (div x y).isNum = true) :
    x.isNum = true ∧ y.isNum = true := by
  cases x with
  | nan => cases number
  | num x =>
      cases y with
      | nan => cases number
      | num y => exact ⟨rfl, rfl⟩

theorem le_iff_of_not_lt {x y : Exact K} (notBelow : lt y x = false) :
    le x y = true ↔ x.isNum = true ∧ y.isNum = true := by
  refine ⟨isNum_of_compare, fun numbers => ?_⟩
  obtain ⟨a, rfl⟩ := isNum_iff.mp numbers.1
  obtain ⟨b, rfl⟩ := isNum_iff.mp numbers.2
  exact decide_eq_true (not_lt.mp (of_decide_eq_false notBelow))

end Field

end Exact

end SoftFloat

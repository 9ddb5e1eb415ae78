import F4MP.Library.SoftFloat

/-!
# Exact rationals and reals

C's `float` read over the rationals, for code that neither divides by zero nor needs a root, and over
the reals, for code that takes no root of a negative number.
-/

namespace SoftFloat
open CFloat

instance : CFloat ℚ where
  lit numerator denominator := numerator / denominator
  add := (· + ·)
  sub := (· - ·)
  mul := (· * ·)
  div := (· / ·)
  sqrt := Rat.sqrt
  lt x y := decide (x < y)
  le x y := decide (x ≤ y)
  eq x y := decide (x = y)

section Rational
variable (x y : ℚ)

@[simp] theorem rat_lit (numerator : Int) (denominator : Nat) :
    (lit numerator denominator : ℚ) = numerator / denominator := rfl

@[simp] theorem rat_add : add x y = x + y := rfl

@[simp] theorem rat_sub : sub x y = x - y := rfl

@[simp] theorem rat_mul : mul x y = x * y := rfl

@[simp] theorem rat_lt : lt x y = decide (x < y) := rfl

@[simp] theorem rat_eq : eq x y = decide (x = y) := rfl

end Rational

noncomputable instance : CFloat ℝ where
  lit numerator denominator := numerator / denominator
  add := (· + ·)
  sub := (· - ·)
  mul := (· * ·)
  div := (· / ·)
  sqrt := Real.sqrt
  lt x y := decide (x < y)
  le x y := decide (x ≤ y)
  eq x y := decide (x = y)

section Real
variable (x y : ℝ)

@[simp] theorem real_lit (numerator : Int) (denominator : Nat) :
    (lit numerator denominator : ℝ) = numerator / denominator := rfl

@[simp] theorem real_sub : sub x y = x - y := rfl

@[simp] theorem real_div : div x y = x / y := rfl

@[simp] theorem real_lt : lt x y = decide (x < y) := rfl

@[simp] theorem real_le : le x y = decide (x ≤ y) := rfl

end Real

end SoftFloat

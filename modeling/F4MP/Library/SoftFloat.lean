import Mathlib

/-!
# Floating point in C

`CFloat` lists the operations C has on `float`, so that code can be read over any arithmetic:
over `Binary32`, the IEEE 754 single format computed on its bit patterns, or over an exact one.
-/

namespace SoftFloat

/-- The constants, operations and comparisons of C's `float`. -/
class CFloat (F : Type) where
  /-- The constant `numerator / denominator`. -/
  lit : Int → Nat → F
  add : F → F → F
  sub : F → F → F
  mul : F → F → F
  div : F → F → F
  sqrt : F → F
  lt : F → F → Bool
  le : F → F → Bool
  eq : F → F → Bool

/-- How a `float` stands in memory. -/
class WireFloat (F : Type) where
  toBits : F → UInt32
  ofBits : UInt32 → F

class LawfulWireFloat (F : Type) [WireFloat F] : Prop where
  ofBits_toBits : ∀ x : F, WireFloat.ofBits (WireFloat.toBits x) = x

/-- The classification of C's `float`. -/
class FloatClass (F : Type) where
  isfinite : F → Bool

/-! ## The single format -/

structure Binary32 where
  bits : UInt32
  deriving DecidableEq, Repr

namespace Binary32

inductive Value where
  | nan
  | infinite (negative : Bool)
  | finite (negative : Bool) (mantissa : Nat) (exponent : Int)
  deriving DecidableEq

def value (x : Binary32) : Value :=
  let n := x.bits.toNat
  let negative := n / 2 ^ 31 == 1
  let biased : Nat := n / 2 ^ 23 % 2 ^ 8
  let fraction : Nat := n % 2 ^ 23
  if biased = 255 then (if fraction = 0 then .infinite negative else .nan)
  else if biased = 0 then .finite negative fraction (-149)
  else .finite negative (fraction + 2 ^ 23) ((biased : Int) - 150)

def pack (negative : Bool) (biased fraction : Nat) : Binary32 :=
  ⟨UInt32.ofNat ((if negative then 2 ^ 31 else 0) + biased * 2 ^ 23 + fraction)⟩

def nan : Binary32 := pack false 255 (2 ^ 22)

def infinite (negative : Bool) : Binary32 := pack negative 255 0

/-- `m / 2 ^ shift` to the nearest integer, ties to even. -/
def nearest (m shift : Nat) : Nat :=
  let quotient := m / 2 ^ shift
  let twice := 2 * (m % 2 ^ shift)
  if 2 ^ shift < twice ∨ (twice = 2 ^ shift ∧ quotient % 2 = 1) then quotient + 1 else quotient

/-- The single nearest to `m * 2 ^ e`, with gradual underflow. -/
def round (negative : Bool) (m : Nat) (e : Int) : Binary32 :=
  if m = 0 then pack negative 0 0
  else
    let unit : Int := max (e + Nat.log2 m - 23) (-149)
    let k := if unit ≤ e then m * 2 ^ (e - unit).toNat else nearest m (unit - e).toNat
    -- A carry out of the significand moves to the next binade.
    let (k, unit) := if k = 2 ^ 24 then (2 ^ 23, unit + 1) else (k, unit)
    if k < 2 ^ 23 then pack negative 0 k
    else if 105 ≤ unit then infinite negative
    else pack negative (unit + 150).toNat (k - 2 ^ 23)

/-- The integer square root, one bit at a time. -/
def isqrt (n : Nat) : Nat → Nat → Nat
  | 0, root => root
  | k + 1, root =>
      let next := root + 2 ^ k
      if next * next ≤ n then isqrt n k next else isqrt n k root

def neg (x : Binary32) : Binary32 := ⟨x.bits ^^^ 0x80000000⟩

/-- A finite value as a multiple of `2 ^ base`, for `base` at most its exponent. -/
def scaled (negative : Bool) (m : Nat) (e base : Int) : Int :=
  let n : Int := m * 2 ^ (e - base).toNat
  if negative then -n else n

def lit (numerator : Int) (denominator : Nat) : Binary32 :=
  let n := numerator.natAbs * 2 ^ 64
  round (numerator < 0) (2 * (n / denominator) + (if n % denominator = 0 then 0 else 1)) (-65)

def add (x y : Binary32) : Binary32 :=
  match x.value, y.value with
  | .nan, _ | _, .nan => nan
  | .infinite a, .infinite b => if a = b then infinite a else nan
  | .infinite a, .finite .. => infinite a
  | .finite .., .infinite b => infinite b
  | .finite a m e, .finite b n f =>
      let base := min e f
      let sum := scaled a m e base + scaled b n f base
      if sum = 0 then pack (a && b) 0 0 else round (sum < 0) sum.natAbs base

def sub (x y : Binary32) : Binary32 :=
  match y.value with
  | .nan => nan
  | _ => add x (neg y)

def mul (x y : Binary32) : Binary32 :=
  match x.value, y.value with
  | .nan, _ | _, .nan => nan
  | .infinite a, .infinite b => infinite (a != b)
  | .infinite a, .finite b n _ => if n = 0 then nan else infinite (a != b)
  | .finite a m _, .infinite b => if m = 0 then nan else infinite (a != b)
  | .finite a m e, .finite b n f => round (a != b) (m * n) (e + f)

def div (x y : Binary32) : Binary32 :=
  match x.value, y.value with
  | .nan, _ | _, .nan => nan
  | .infinite _, .infinite _ => nan
  | .infinite a, .finite b _ _ => infinite (a != b)
  | .finite a _ _, .infinite b => pack (a != b) 0 0
  | .finite a m e, .finite b n f =>
      if n = 0 then (if m = 0 then nan else infinite (a != b))
      else
        let scaled := m * 2 ^ 50
        let sticky := if scaled % n = 0 then 0 else 1
        round (a != b) (2 * (scaled / n) + sticky) (e - f - 51)

def sqrt (x : Binary32) : Binary32 :=
  match x.value with
  | .nan => nan
  | .infinite negative => if negative then nan else x
  | .finite negative m e =>
      if m = 0 then x
      else if negative then nan
      else
        let (m, e) := if e % 2 = 0 then (m, e) else (2 * m, e - 1)
        let scaled := m * 2 ^ 52
        let root := isqrt scaled 40 0
        let sticky := if root * root = scaled then 0 else 1
        round false (2 * root + sticky) (e / 2 - 27)

def lt (x y : Binary32) : Bool :=
  match x.value, y.value with
  | .nan, _ | _, .nan => false
  | .infinite a, .infinite b => a && !b
  | .infinite a, .finite .. => a
  | .finite .., .infinite b => !b
  | .finite a m e, .finite b n f => scaled a m e (min e f) < scaled b n f (min e f)

def eq (x y : Binary32) : Bool :=
  match x.value, y.value with
  | .infinite a, .infinite b => a == b
  | .finite a m e, .finite b n f => scaled a m e (min e f) == scaled b n f (min e f)
  | _, _ => false

instance : CFloat Binary32 where
  lit := lit
  add := add
  sub := sub
  mul := mul
  div := div
  sqrt := sqrt
  lt := lt
  le x y := lt x y || eq x y
  eq := eq

instance : FloatClass Binary32 where
  isfinite x :=
    match x.value with
    | .finite .. => true
    | _ => false

instance : WireFloat Binary32 where
  toBits := bits
  ofBits := mk

instance : LawfulWireFloat Binary32 where
  ofBits_toBits _ := rfl

example : (CFloat.sqrt (CFloat.lit 2 1) : Binary32) = ⟨0x3FB504F3⟩ := by decide +kernel

end Binary32

end SoftFloat

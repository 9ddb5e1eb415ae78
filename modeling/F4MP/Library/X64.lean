import Mathlib

/-!
# Lengths of x86-64 instructions

An instruction as the opcode map of 64-bit mode lays it out: prefixes, an opcode of one or two bytes, a
ModRM byte with its SIB byte and displacement, and an immediate. The map covers pushes, moves, integer
arithmetic, near branches and the long `nop`.
-/

namespace X64

/-! ## Prefixes -/

def isRex (b : UInt8) : Bool := 0x40 ≤ b && b ≤ 0x4F

/-- A REX prefix that asks for operands of eight bytes. -/
def isRexW (b : UInt8) : Bool := isRex b && b &&& 8 != 0

/-- The operand-size and address-size prefixes, and those that repeat. -/
def isLegacyPrefix (b : UInt8) : Bool := b == 0x66 || b == 0x67 || b == 0xF2 || b == 0xF3

def isPrefix (b : UInt8) : Bool := isRex b || isLegacyPrefix b

/-- A REX prefix counts only right before the opcode. -/
def wide (prefixes : List UInt8) : Bool := prefixes.getLast?.any isRexW

/-- The bytes of an operand. -/
def operandSize (prefixes : List UInt8) : Nat :=
  if wide prefixes then 8 else if prefixes.contains 0x66 then 2 else 4

theorem any_of_wide {prefixes : List UInt8} (counts : wide prefixes = true) :
    prefixes.any isRexW = true := by
  simp only [wide, Option.any_eq_true] at counts
  obtain ⟨last, isLast, rexW⟩ := counts
  exact List.any_eq_true.mpr ⟨last, List.mem_of_getLast? isLast, rexW⟩

/-! ## The opcode map -/

inductive Immediate where
  | absent
  | byte
  /-- As wide as the operands, up to four bytes. -/
  | operand
  /-- As wide as the operands. -/
  | wide
  /-- A near branch takes four bytes, whatever its operand size. -/
  | near
  deriving DecidableEq

structure Format where
  modrm : Bool := false
  immediate : Immediate := .absent
  /-- A branch relative to the next instruction. -/
  branch : Bool := false
  /-- There is no such instruction in 64-bit mode. -/
  invalid : Bool := false
  deriving DecidableEq

/-- The opcodes whose operands are a ModRM byte and what it asks for. -/
def modrmOpcodes : List UInt8 :=
  [0x01, 0x03, 0x21, 0x23, 0x29, 0x2B, 0x31, 0x33, 0x39, 0x3B, 0x63, 0x85, 0x87, 0x89, 0x8B, 0x8D, 0xFF]

def oneByte (opcode : UInt8) : Option Format :=
  if 0x50 ≤ opcode ∧ opcode ≤ 0x5F then some {}
  else if [0x90, 0xC3, 0xCC].contains opcode then some {}
  else if opcode = 0x68 then some { immediate := .operand }
  else if opcode = 0x6A then some { immediate := .byte }
  else if 0x70 ≤ opcode ∧ opcode ≤ 0x7F ∨ opcode = 0xEB then some { immediate := .byte, branch := true }
  else if opcode = 0xE8 ∨ opcode = 0xE9 then some { immediate := .near, branch := true }
  else if 0xB8 ≤ opcode ∧ opcode ≤ 0xBF then some { immediate := .wide }
  else if modrmOpcodes.contains opcode then some { modrm := true }
  else if [0x80, 0x83, 0xC0, 0xC1, 0xC6].contains opcode then some { modrm := true, immediate := .byte }
  else if opcode = 0x82 then some { modrm := true, immediate := .byte, invalid := true }
  else if [0x69, 0x81, 0xC7].contains opcode then some { modrm := true, immediate := .operand }
  else none

/-- The opcodes behind `0F`. -/
def twoByte (opcode : UInt8) : Option Format :=
  if 0x80 ≤ opcode ∧ opcode ≤ 0x8F then some { immediate := .near, branch := true }
  else if opcode = 0x1F then some { modrm := true }
  else none

/-- An opcode with its format, and the bytes behind it. -/
structure Opcode where
  bytes : List UInt8
  format : Format
  operands : List UInt8

def opcode? : List UInt8 → Option Opcode
  | [] => none
  | first :: rest =>
      if first = 0x0F then
        match rest with
        | [] => none
        | second :: operands =>
            (twoByte second).map fun format => ⟨[first, second], format, operands⟩
      else (oneByte first).map fun format => ⟨[first], format, rest⟩

theorem opcode?_oneByte {first : UInt8} {format : Format} (rest : List UInt8)
    (known : first ≠ 0x0F ∧ oneByte first = some format) :
    opcode? (first :: rest) = some ⟨[first], format, rest⟩ := by
  simp only [opcode?, if_neg known.1, known.2, Option.map_some]

theorem opcode?_eq_some {code : List UInt8} {i : Opcode} (known : opcode? code = some i) :
    code = i.bytes ++ i.operands ∧ i.bytes ≠ [] ∧
      ∀ operands, opcode? (i.bytes ++ operands) = some { i with operands } := by
  cases code with
  | nil => cases known
  | cons first rest =>
      by_cases two : first = 0x0F
      · obtain rfl := two
        cases rest with
        | nil => cases known
        | cons second operands =>
            obtain ⟨format, inMap, rfl⟩ := Option.map_eq_some_iff.mp known
            refine ⟨rfl, List.cons_ne_nil _ _, fun operands' => ?_⟩
            exact Option.map_eq_some_iff.mpr ⟨format, inMap, rfl⟩
      · simp only [opcode?, if_neg two] at known
        obtain ⟨format, inMap, rfl⟩ := Option.map_eq_some_iff.mp known
        exact ⟨rfl, List.cons_ne_nil _ _, fun operands' => opcode?_oneByte operands' ⟨two, inMap⟩⟩

/-! ## Operands -/

abbrev modField (modrm : UInt8) : UInt8 := modrm >>> 6

abbrev rmField (modrm : UInt8) : UInt8 := modrm &&& 7

/-- The displacement behind a ModRM byte that has no SIB byte. -/
def displacement (modrm : UInt8) : Nat :=
  if modField modrm = 1 then 1
  else if modField modrm = 2 ∨ modField modrm = 0 ∧ rmField modrm = 5 then 4
  else 0

/-- The displacement behind a ModRM byte and a SIB byte. -/
def sibDisplacement (modrm sib : UInt8) : Nat :=
  if modField modrm = 1 then 1
  else if modField modrm = 2 ∨ modField modrm = 0 ∧ sib &&& 7 = 5 then 4
  else 0

/-- The bytes of a ModRM byte, its SIB byte and its displacement. -/
def modrmLength : List UInt8 → Option Nat
  | [] => none
  | modrm :: rest =>
      if rmField modrm = 4 ∧ modField modrm ≠ 3 then
        match rest with
        | [] => none
        | sib :: _ => some (2 + sibDisplacement modrm sib)
      else some (1 + displacement modrm)

/-- An operand that lies relative to the next instruction. -/
def ripRelative : List UInt8 → Bool
  | [] => false
  | modrm :: _ => modField modrm == 0 && rmField modrm == 5

theorem modrmLength_take {code : List UInt8} {m n : Nat} (known : modrmLength code = some m)
    (covered : m ≤ n) (tail : List UInt8) :
    modrmLength (code.take n ++ tail) = some m ∧
      ripRelative (code.take n ++ tail) = ripRelative code := by
  cases code with
  | nil => cases known
  | cons modrm rest =>
      simp only [modrmLength] at known
      split at known
      · rename_i scaled
        cases rest with
        | nil => cases known
        | cons sib rest =>
            obtain rfl := Option.some.inj known
            obtain ⟨k, rfl⟩ := Nat.exists_eq_add_of_le covered
            rw [show 2 + sibDisplacement modrm sib + k = sibDisplacement modrm sib + k + 1 + 1 by omega]
            exact ⟨if_pos scaled, rfl⟩
      · rename_i direct
        obtain rfl := Option.some.inj known
        obtain ⟨k, rfl⟩ := Nat.exists_eq_add_of_le covered
        rw [show 1 + displacement modrm + k = displacement modrm + k + 1 by omega]
        exact ⟨if_neg direct, rfl⟩

namespace Opcode

/-- The bytes behind the opcode, for immediates of these sizes. -/
def operandLength (i : Opcode) (size : Immediate → Nat) : Option Nat :=
  if i.format.modrm then (modrmLength i.operands).map (· + size i.format.immediate)
  else some (size i.format.immediate)

/-- Moving the instruction changes what it refers to. -/
def relative (i : Opcode) : Bool := i.format.branch || i.format.modrm && ripRelative i.operands

/-- What lies behind the operands does not matter. -/
theorem operandLength_take {i : Opcode} {size : Immediate → Nat} {n : Nat}
    (known : i.operandLength size = some n) (tail : List UInt8) :
    { i with operands := i.operands.take n ++ tail : Opcode }.operandLength size = some n ∧
      { i with operands := i.operands.take n ++ tail : Opcode }.relative = i.relative := by
  simp only [operandLength, relative] at known ⊢
  cases modrm : i.format.modrm with
  | false =>
      rw [modrm] at known
      exact ⟨known, rfl⟩
  | true =>
      rw [modrm] at known
      obtain ⟨m, memory, rfl⟩ := Option.map_eq_some_iff.mp known
      obtain ⟨same, rip⟩ := modrmLength_take memory (Nat.le_add_right m _) tail
      rw [same, rip]
      exact ⟨rfl, rfl⟩

theorem operandLength_eq_some {i : Opcode} {size : Immediate → Nat} {n : Nat}
    (known : i.operandLength size = some n) (size' : Immediate → Nat) :
    i.operandLength size' = some n ↔ size' i.format.immediate = size i.format.immediate := by
  simp only [operandLength] at known ⊢
  split at known
  · rename_i modrm
    obtain ⟨m, memory, rfl⟩ := Option.map_eq_some_iff.mp known
    simp [modrm, memory]
  · rename_i modrm
    cases known
    simp [modrm]

end Opcode

/-! ## Instructions -/

def Immediate.size (prefixes : List UInt8) : Immediate → Nat
  | absent => 0
  | byte => 1
  | operand => min 4 (operandSize prefixes)
  | wide => operandSize prefixes
  | near => 4

/-- The length of the instruction that starts here. -/
def length (code : List UInt8) : Option Nat :=
  let prefixes := code.takeWhile isPrefix
  match opcode? (code.dropWhile isPrefix) with
  | none => none
  | some i =>
      if i.format.invalid then none
      else (i.operandLength (·.size prefixes)).map (prefixes.length + i.bytes.length + ·)

/-- The instruction that starts here is a relative branch, or has an operand relative to the next
instruction. -/
def relative (code : List UInt8) : Bool := (opcode? (code.dropWhile isPrefix)).any (·.relative)

end X64

import F4MP.Library.X64
import F4MP.Library.Wire

/-!
# Running x86-64 code

A processor takes the instruction at its instruction pointer. The few instructions that a detour is
written with have their effect here; what all others do is a parameter. Code that does not depend on
where it lies does the same wherever it is moved to.
-/

namespace X64

/-! ## Code in memory -/

abbrev Bytes := UInt64 → UInt8

/-- The bytes from `a` on, as many as one instruction can have. -/
def window (code : Bytes) (a : UInt64) : List UInt8 :=
  (List.range 15).map fun i => code (a + UInt64.ofNat i)

def Holds (code : Bytes) (a : UInt64) (bytes : List UInt8) : Prop :=
  ∀ i (inside : i < bytes.length), code (a + UInt64.ofNat i) = bytes[i]

def overwrite (a : UInt64) (bytes : List UInt8) (code : Bytes) : Bytes := fun x =>
  bytes.getD (x - a).toNat (code x)

/-- No address is in both ranges. -/
def Apart (a : UInt64) (n : Nat) (b : UInt64) (m : Nat) : Prop :=
  ∀ i < n, ∀ j < m, a + UInt64.ofNat i ≠ b + UInt64.ofNat j

section Memory

variable {code : Bytes} {a b : UInt64} {bytes more : List UInt8}

theorem ofNat_add_length (xs : List UInt8) (i : Nat) :
    a + UInt64.ofNat (xs.length + i) = a + UInt64.ofNat xs.length + UInt64.ofNat i := by
  rw [UInt64.ofNat_add, UInt64.add_assoc]

theorem Holds.nil : Holds code a [] := fun _ inside => absurd inside (Nat.not_lt_zero _)

theorem holds_append : Holds code a (bytes ++ more) ↔
    Holds code a bytes ∧ Holds code (a + UInt64.ofNat bytes.length) more := by
  constructor
  · intro holds
    refine ⟨fun i inside => ?_, fun i inside => ?_⟩
    · rw [holds i (by rw [List.length_append]; omega), List.getElem_append_left inside]
    · rw [← ofNat_add_length, holds (bytes.length + i) (by rw [List.length_append]; omega),
        List.getElem_append_right (by omega)]
      simp
  · rintro ⟨first, second⟩ i inside
    by_cases early : i < bytes.length
    · rw [first i early, List.getElem_append_left early]
    · obtain ⟨j, rfl⟩ := Nat.exists_eq_add_of_le (not_lt.mp early)
      rw [List.length_append] at inside
      rw [ofNat_add_length, second j (by omega), List.getElem_append_right (by omega)]
      simp

theorem window_of_holds (holds : Holds code a bytes) (short : bytes.length ≤ 15) :
    ∃ tail, window code a = bytes ++ tail := by
  refine ⟨(window code a).drop bytes.length, ?_⟩
  have opens : (window code a).take bytes.length = bytes := by
    refine List.ext_getElem (by simp [window]; omega) fun i _ inside => ?_
    rw [List.getElem_take, ← holds i inside]
    simp [window]
  exact (opens ▸ List.take_append_drop bytes.length (window code a)).symm

theorem overwrite_holds (short : bytes.length ≤ 2 ^ 64) (a : UInt64) (code : Bytes) :
    Holds (overwrite a bytes code) a bytes := by
  intro i inside
  have index : (a + UInt64.ofNat i - a).toNat = i := by
    rw [UInt64.add_comm, UInt64.add_sub_cancel, UInt64.toNat_ofNat_of_lt' (show i < 2 ^ 64 by omega)]
  rw [overwrite, index, List.getD_eq_getElem _ _ inside]

theorem overwrite_outside {x : UInt64} (outside : bytes.length ≤ (x - a).toNat) :
    overwrite a bytes code x = code x := List.getD_eq_default _ _ outside

theorem Holds.overwrite (holds : Holds code b more) (apart : Apart a bytes.length b more.length) :
    Holds (overwrite a bytes code) b more := by
  intro i inside
  rw [overwrite_outside, holds i inside]
  by_contra within
  refine apart _ (not_le.mp within) i inside ?_
  rw [UInt64.ofNat_toNat, UInt64.add_comm, UInt64.sub_add_cancel]

theorem Apart.symm {n m : Nat} (apart : Apart a n b m) : Apart b m a n :=
  fun i hi j hj same => apart j hj i hi same.symm

end Memory

/-! ## The processor -/

/-- The registers that a detour names, all others, and the memory. -/
structure Cpu (ρ : Type) where
  rax : UInt64
  r11 : UInt64
  rsp : UInt64
  flags : UInt64
  others : ρ
  memory : Bytes

def load (a : UInt64) (n : Nat) (memory : Bytes) : Nat :=
  Wire.leValue ((List.range n).map fun i => memory (a + UInt64.ofNat i))

def store (a : UInt64) (n value : Nat) (memory : Bytes) : Bytes :=
  overwrite a (Wire.leBytes n value) memory

namespace Cpu

variable {ρ : Type}

def push (value : UInt64) (cpu : Cpu ρ) : Cpu ρ :=
  { cpu with
    rsp := cpu.rsp - 8
    memory := store (cpu.rsp - 8) 8 value.toNat cpu.memory }

/-- The value on top of the stack. -/
def top (cpu : Cpu ρ) : UInt64 := UInt64.ofNat (load cpu.rsp 8 cpu.memory)

def drop (cpu : Cpu ρ) : Cpu ρ := { cpu with rsp := cpu.rsp + 8 }

end Cpu

/-- The instructions that a detour is written with. -/
inductive Instruction
  | nop | pushfq | pushRax | pushR11 | popfq | popRax | popR11
  | movRax (value : UInt64) | movR11 (value : UInt64)
  /-- `add dword ptr [r11], 1` -/
  | incrementR11
  | jmpRax

namespace Instruction

def bytes : Instruction → List UInt8
  | nop => [0x90]
  | pushfq => [0x9C]
  | pushRax => [0x50]
  | pushR11 => [0x41, 0x53]
  | popfq => [0x9D]
  | popRax => [0x58]
  | popR11 => [0x41, 0x5B]
  | movRax value => [0x48, 0xB8] ++ Wire.leBytes 8 value.toNat
  | movR11 value => [0x49, 0xBB] ++ Wire.leBytes 8 value.toNat
  | incrementR11 => [0x41, 0x83, 0x03, 0x01]
  | jmpRax => [0xFF, 0xE0]

def ofBytes : List UInt8 → Option Instruction
  | [0x90] => some nop
  | [0x9C] => some pushfq
  | [0x50] => some pushRax
  | [0x41, 0x53] => some pushR11
  | [0x9D] => some popfq
  | [0x58] => some popRax
  | [0x41, 0x5B] => some popR11
  | [0x48, 0xB8, b0, b1, b2, b3, b4, b5, b6, b7] =>
      some (movRax (UInt64.ofNat (Wire.leValue [b0, b1, b2, b3, b4, b5, b6, b7])))
  | [0x49, 0xBB, b0, b1, b2, b3, b4, b5, b6, b7] =>
      some (movR11 (UInt64.ofNat (Wire.leValue [b0, b1, b2, b3, b4, b5, b6, b7])))
  | [0x41, 0x83, 0x03, 0x01] => some incrementR11
  | [0xFF, 0xE0] => some jmpRax
  | _ => none

theorem ofBytes_bytes (i : Instruction) : ofBytes i.bytes = some i := by
  have imm64 (value : UInt64) : UInt64.ofNat (Wire.leValue (Wire.leBytes 8 value.toNat)) = value := by
    rw [Wire.leValue_leBytes, Nat.mod_eq_of_lt (show value.toNat < 256 ^ 8 from value.toNat_lt),
      UInt64.ofNat_toNat]
  cases i with
  | movRax value => exact congrArg (fun value => some (movRax value)) (imm64 value)
  | movR11 value => exact congrArg (fun value => some (movR11 value)) (imm64 value)
  | _ => rfl

end Instruction

/-- What the processor does besides: what `add` leaves in the flags, and what any other instruction
leaves behind and where it goes on, for the address behind it. -/
structure Isa (ρ : Type) where
  addFlags : Nat → UInt64 → UInt64
  exec : List UInt8 → UInt64 → Cpu ρ → Cpu ρ × UInt64

variable {ρ : Type}

/-- The effect of an instruction, and where it jumps. -/
def Instruction.effect (isa : Isa ρ) (cpu : Cpu ρ) : Instruction → Cpu ρ × Option UInt64
  | nop => (cpu, none)
  | pushfq => (cpu.push cpu.flags, none)
  | pushRax => (cpu.push cpu.rax, none)
  | pushR11 => (cpu.push cpu.r11, none)
  | popfq => ({ cpu.drop with flags := cpu.top }, none)
  | popRax => ({ cpu.drop with rax := cpu.top }, none)
  | popR11 => ({ cpu.drop with r11 := cpu.top }, none)
  | movRax value => ({ cpu with rax := value }, none)
  | movR11 value => ({ cpu with r11 := value }, none)
  | incrementR11 =>
      let value := load cpu.r11 4 cpu.memory
      ({ cpu with
        flags := isa.addFlags value cpu.flags
        memory := store cpu.r11 4 (value + 1) cpu.memory }, none)
  | jmpRax => (cpu, some cpu.rax)

/-- The effect of an instruction, and where the processor goes on. -/
def Isa.execute (isa : Isa ρ) (bytes : List UInt8) (next : UInt64) (cpu : Cpu ρ) : Cpu ρ × UInt64 :=
  match Instruction.ofBytes bytes with
  | some i => ((i.effect isa cpu).1, (i.effect isa cpu).2.getD next)
  | none => isa.exec bytes next cpu

/-- The length of the instruction that starts here: `pushfq` and `popfq` are behind the map. -/
def instructionLength (code : List UInt8) : Option Nat :=
  match code with
  | 0x9C :: _ => some 1
  | 0x9D :: _ => some 1
  | _ => length code

def Isa.step (isa : Isa ρ) (code : Bytes) (s : Cpu ρ × UInt64) : Option (Cpu ρ × UInt64) :=
  (instructionLength (window code s.2)).map fun n =>
    isa.execute ((window code s.2).take n) (s.2 + UInt64.ofNat n) s.1

/-- The processor gets from one state to the other. -/
def Isa.Reaches (isa : Isa ρ) (code : Bytes) : Cpu ρ × UInt64 → Cpu ρ × UInt64 → Prop :=
  Relation.ReflTransGen fun s t => isa.step code s = some t

/-! ## Code that can be moved -/

/-- An instruction with an effect that does not depend on where it lies: either it goes on behind
itself, or it jumps to an address that its state gives. -/
structure Movable (isa : Isa ρ) where
  bytes : List UInt8
  effect : Cpu ρ → Cpu ρ × Option UInt64
  short : bytes.length ≤ 15
  sized : ∀ tail, instructionLength (bytes ++ tail) = some bytes.length
  executes : ∀ next cpu, isa.execute bytes next cpu = ((effect cpu).1, (effect cpu).2.getD next)

variable {isa : Isa ρ}

/-- The bytes of a block of instructions. -/
def layout (block : List (Movable isa)) : List UInt8 := (block.map (·.bytes)).flatten

/-- A block is run up to its end, or to the first jump. -/
def pass : List (Movable isa) → Cpu ρ → Cpu ρ × Option UInt64
  | [], cpu => (cpu, none)
  | i :: block, cpu =>
      match i.effect cpu with
      | (cpu, none) => pass block cpu
      | (cpu, some target) => (cpu, some target)

theorem Movable.step (i : Movable isa) {code : Bytes} {a : UInt64} (holds : Holds code a i.bytes)
    (cpu : Cpu ρ) :
    isa.step code (cpu, a) = some ((i.effect cpu).1,
      (i.effect cpu).2.getD (a + UInt64.ofNat i.bytes.length)) := by
  obtain ⟨tail, opens⟩ := window_of_holds holds i.short
  rw [Isa.step, opens, i.sized, Option.map_some, List.take_left, i.executes]

/-- A block does the same wherever it lies. -/
theorem reaches_pass {code : Bytes} {block : List (Movable isa)} {a : UInt64}
    (holds : Holds code a (layout block)) (cpu : Cpu ρ) :
    isa.Reaches code (cpu, a) ((pass block cpu).1,
      (pass block cpu).2.getD (a + UInt64.ofNat (layout block).length)) := by
  induction block generalizing a cpu with
  | nil =>
      have still : a + UInt64.ofNat 0 = a := UInt64.add_zero a
      rw [layout, List.map_nil, List.flatten_nil, List.length_nil, pass, Option.getD_none, still]
      exact .refl
  | cons i block ih =>
      rw [layout, List.map_cons, List.flatten_cons] at holds ⊢
      obtain ⟨first, rest⟩ := holds_append.mp holds
      have step := i.step first cpu
      rw [pass]
      cases effect : i.effect cpu with
      | mk after target =>
          rw [effect] at step
          cases target with
          | some target => exact .single step
          | none =>
              refine .head step ?_
              rw [List.length_append, ofNat_add_length]
              exact ih rest after

/-! ## Instructions -/

section Stack

variable {a b : UInt64} {n m value : Nat} {memory : Bytes}

theorem load_store (few : n ≤ 2 ^ 64) : load a n (store a n value memory) = value % 256 ^ n := by
  have length := Wire.leBytes_length n value
  have holds : Holds (store a n value memory) a (Wire.leBytes n value) :=
    overwrite_holds (by rw [length]; exact few) a memory
  have read : (List.range n).map (fun i => store a n value memory (a + UInt64.ofNat i)) =
      Wire.leBytes n value := by
    refine List.ext_getElem (by simp [length]) fun i _ inside => ?_
    rw [List.getElem_map, List.getElem_range]
    exact holds i inside
  rw [load, read, Wire.leValue_leBytes]

theorem store_outside {x : UInt64} (outside : n ≤ (x - a).toNat) :
    store a n value memory x = memory x :=
  overwrite_outside (by rw [Wire.leBytes_length]; exact outside)

theorem load_apart (apart : Apart a n b m) : load b m (store a n value memory) = load b m memory := by
  rw [load, load]
  refine congrArg Wire.leValue (List.map_congr_left fun i inside => overwrite_outside ?_)
  rw [Wire.leBytes_length]
  by_contra within
  refine apart _ (not_le.mp within) i (List.mem_range.mp inside) ?_
  rw [UInt64.ofNat_toNat, UInt64.add_comm, UInt64.sub_add_cancel]

theorem Apart.part {k l : Nat} (apart : Apart a n b m) (inside : k + l ≤ m) :
    Apart a n (b + UInt64.ofNat k) l := fun i hi j hj same =>
  apart i hi (k + j) (by omega) (by rw [UInt64.ofNat_add, ← UInt64.add_assoc]; exact same)

theorem Apart.within {k l : Nat} (apart : Apart a n b m) (left : k ≤ n) (right : l ≤ m) :
    Apart a k b l :=
  fun i hi j hj => apart i (Nat.lt_of_lt_of_le hi left) j (Nat.lt_of_lt_of_le hj right)

theorem Apart.of_le (order : a.toNat + n ≤ b.toNat) (inside : b.toNat + m ≤ 2 ^ 64) :
    Apart a n b m := by
  intro i hi j hj same
  have values := congrArg UInt64.toNat same
  rw [UInt64.toNat_add, UInt64.toNat_add, UInt64.toNat_ofNat_of_lt' (show i < 2 ^ 64 by omega),
    UInt64.toNat_ofNat_of_lt' (show j < 2 ^ 64 by omega)] at values
  omega

theorem Apart.offset {k l : Nat} (before : k + n ≤ l) (inside : l + m ≤ 2 ^ 64) :
    Apart (a + UInt64.ofNat k) n (a + UInt64.ofNat l) m := by
  intro i hi j hj same
  rw [UInt64.add_assoc, UInt64.add_assoc, ← UInt64.ofNat_add, ← UInt64.ofNat_add] at same
  have values := congrArg UInt64.toNat (UInt64.add_right_inj a |>.mp same)
  rw [UInt64.toNat_ofNat_of_lt' (show k + i < 2 ^ 64 by omega),
    UInt64.toNat_ofNat_of_lt' (show l + j < 2 ^ 64 by omega)] at values
  omega

end Stack

theorem length_of_opcode {code prefixes : List UInt8} {i : Opcode} {n : Nat}
    (prefixed : code.takeWhile isPrefix = prefixes)
    (known : opcode? (code.dropWhile isPrefix) = some i) (valid : i.format.invalid = false)
    (operands : i.operandLength (·.size prefixes) = some n) :
    length code = some (prefixes.length + i.bytes.length + n) := by
  rw [length, prefixed, known]
  simp [valid, operands]

theorem length_take {code : List UInt8} {n : Nat} (known : length code = some n) (tail : List UInt8) :
    length (code.take n ++ tail) = some n := by
  rw [length] at known
  cases inMap : opcode? (code.dropWhile isPrefix) with
  | none =>
      rw [inMap] at known
      cases known
  | some i =>
      obtain ⟨instruction, nonempty, found⟩ := opcode?_eq_some inMap
      have split : code = code.takeWhile isPrefix ++ (i.bytes ++ i.operands) := by
        rw [← instruction, List.takeWhile_append_dropWhile]
      have prefixed : ∀ b ∈ code.takeWhile isPrefix, isPrefix b = true :=
        fun b member => List.mem_takeWhile_imp member
      obtain ⟨first, bytes, bytesIs⟩ := List.exists_cons_of_ne_nil nonempty
      have opens : isPrefix first = false := by
        have := List.head?_dropWhile_not isPrefix code
        rw [instruction, bytesIs] at this
        exact this
      rw [inMap] at known
      generalize code.takeWhile isPrefix = prefixes at *
      dsimp only at known
      split_ifs at known with invalid
      obtain ⟨m, operands, rfl⟩ := Option.map_eq_some_iff.mp known
      have cut : code.take (prefixes.length + i.bytes.length + m) ++ tail =
          prefixes ++ (i.bytes ++ (i.operands.take m ++ tail)) := by
        rw [split, Nat.add_assoc, List.take_length_add_append, List.take_length_add_append,
          List.append_assoc, List.append_assoc]
      rw [cut]
      refine length_of_opcode (i := { i with operands := i.operands.take m ++ tail }) ?_ ?_
        (Bool.not_eq_true _ ▸ invalid) (Opcode.operandLength_take operands tail).1
      · rw [List.takeWhile_append_of_pos prefixed, bytesIs, List.cons_append,
          List.takeWhile_cons_of_neg (by simp [opens]), List.append_nil]
      · rw [List.dropWhile_append_of_pos prefixed, bytesIs, List.cons_append,
          List.dropWhile_cons_of_neg (by simp [opens]), ← List.cons_append, ← bytesIs]
        exact found _

/-- The map has no `pushfq` and no `popfq`. -/
theorem instructionLength_eq {code : List UInt8} {n : Nat} (known : length code = some n) :
    instructionLength code = some n := by
  unfold instructionLength
  split
  · cases known
  · cases known
  · exact known

/-- `call` through a register or through memory, which pushes the address behind itself. -/
def isCall (code : List UInt8) : Bool :=
  (opcode? (code.dropWhile isPrefix)).any fun i =>
    i.bytes == [0xFF] && i.operands.head?.any fun modrm : UInt8 =>
      (modrm >>> 3) &&& 7 == 2 || (modrm >>> 3) &&& 7 == 3

/-- What is neither relative nor a call has an effect that does not depend on where it lies. -/
def Isa.PositionFree (isa : Isa ρ) : Prop :=
  ∀ code n, length code = some n → relative code = false → isCall code = false →
    ∃ effect : Cpu ρ → Cpu ρ × Option UInt64, ∀ next cpu,
      isa.exec (code.take n) next cpu = ((effect cpu).1, (effect cpu).2.getD next)

theorem Isa.PositionFree.execute (free : isa.PositionFree) {code : List UInt8} {n : Nat}
    (known : length code = some n) (absolute : relative code = false) (plain : isCall code = false) :
    ∃ effect : Cpu ρ → Cpu ρ × Option UInt64, ∀ next cpu,
      isa.execute (code.take n) next cpu = ((effect cpu).1, (effect cpu).2.getD next) := by
  obtain ⟨effect, does⟩ := free code n known absolute plain
  simp only [Isa.execute]
  cases Instruction.ofBytes (code.take n) with
  | some i => exact ⟨fun cpu => i.effect isa cpu, fun _ _ => rfl⟩
  | none => exact ⟨effect, does⟩

theorem Isa.PositionFree.movable (free : isa.PositionFree) {code : List UInt8} {n : Nat}
    (known : length code = some n) (inside : n ≤ code.length) (short : n ≤ 15)
    (absolute : relative code = false) (plain : isCall code = false) :
    ∃ i : Movable isa, i.bytes = code.take n := by
  obtain ⟨effect, executes⟩ := free.execute known absolute plain
  have length : (code.take n).length = n := by rw [List.length_take, Nat.min_eq_left inside]
  exact ⟨⟨code.take n, effect, by rw [length]; exact short,
    fun tail => by rw [length]; exact instructionLength_eq (length_take known tail), executes⟩, rfl⟩

theorem Instruction.sized (i : Instruction) (tail : List UInt8) :
    instructionLength (i.bytes ++ tail) = some i.bytes.length := by
  cases i with
  | movRax value =>
      rw [bytes, List.length_append, Wire.leBytes_length, List.append_assoc]
      have prefixed : (([0x48, 0xB8] : List UInt8) ++ (Wire.leBytes 8 value.toNat ++ tail)).takeWhile
          isPrefix = [0x48] := rfl
      exact length_of_opcode prefixed rfl rfl rfl
  | movR11 value =>
      rw [bytes, List.length_append, Wire.leBytes_length, List.append_assoc]
      have prefixed : (([0x49, 0xBB] : List UInt8) ++ (Wire.leBytes 8 value.toNat ++ tail)).takeWhile
          isPrefix = [0x49] := rfl
      exact length_of_opcode prefixed rfl rfl rfl
  | _ => rfl

theorem Instruction.short (i : Instruction) : i.bytes.length ≤ 15 := by
  cases i with
  | movRax | movR11 =>
      rw [bytes, List.length_append, Wire.leBytes_length]
      decide
  | _ => decide

def Instruction.movable (isa : Isa ρ) (i : Instruction) : Movable isa where
  bytes := i.bytes
  effect cpu := i.effect isa cpu
  short := i.short
  sized := i.sized
  executes _ _ := by rw [Isa.execute, ofBytes_bytes]

end X64

import F4MP.Library.X64
import F4MP.Library.Wire

/-!
# Planning a patch

`commonlibf4_player_hook_patch_realization.c` overwrites the start of a function with a jump. It moves
whole instructions only, so it decodes the bytes it has captured until the jump has room; the moved
bytes and a jump back make the trampoline.
-/

namespace F4MP.Client

/-! ## Instructions -/

structure PatchPlanInstructionInfo where
  len : Nat
  relocSafe : Bool
  deriving DecidableEq

/-- `parse_modrm_sib`: the bytes of the operand, and whether it is relative to the instruction
pointer. -/
def parseModrmSib (code : List UInt8) : Option (Nat × Bool) :=
  match code with
  | [] => none
  | modrm :: rest =>
      let mod := (modrm >>> 6) &&& 3
      let rm := modrm &&& 7
      let ripRelative := mod == 0 && rm == 5
      let afterSib : Option Nat :=
        if rm = 4 ∧ mod ≠ 3 then
          match rest with
          | [] => none
          | sib :: _ =>
              if mod = 0 ∧ sib &&& 7 = 5 then if 2 + 4 > code.length then none else some (2 + 4)
              else some 2
        else some 1
      match afterSib with
      | none => none
      | some cursor =>
          if mod = 1 then
            if cursor + 1 > code.length then none else some (cursor + 1, ripRelative)
          else if mod = 2 ∨ mod = 0 ∧ rm = 5 then
            if cursor + 4 > code.length then none else some (cursor + 4, ripRelative)
          else some (cursor, ripRelative)

/-- The instruction goes on for `n` bytes behind the cursor, if `rest` has them. -/
def takes (cursor n : Nat) (relocSafe : Bool) (rest : List UInt8) : Option PatchPlanInstructionInfo :=
  if n > rest.length then none else some ⟨cursor + n, relocSafe⟩

/-- A ModRM operand at the cursor, and an immediate. -/
def takesModrm (cursor immediate : Nat) (rest : List UInt8) : Option PatchPlanInstructionInfo :=
  match parseModrmSib rest with
  | none => none
  | some (extra, ripRelative) => takes cursor (extra + immediate) (!ripRelative) rest

/-- The bytes that `decode_instruction_x64` skips in front of the opcode. -/
def isPrefixByte (b : UInt8) : Bool :=
  0x40 ≤ b && b ≤ 0x4F || b == 0x66 || b == 0x67 || b == 0xF2 || b == 0xF3

/-- `decode_instruction_x64` from the opcode on. -/
def decodeOpcode (prefixes : List UInt8) (opcode : UInt8) (rest : List UInt8) :
    Option PatchPlanInstructionInfo :=
  let cursor := prefixes.length + 1
  if 0x50 ≤ opcode ∧ opcode ≤ 0x5F ∨ opcode = 0x90 ∨ opcode = 0xC3 ∨ opcode = 0xCC then
    some ⟨cursor, true⟩
  else if opcode = 0x68 then takes cursor 4 true rest
  else if opcode = 0x6A then takes cursor 1 true rest
  else if opcode = 0xE8 ∨ opcode = 0xE9 then takes cursor 4 false rest
  else if opcode = 0xEB ∨ 0x70 ≤ opcode ∧ opcode ≤ 0x7F then takes cursor 1 false rest
  else if opcode = 0x0F then
    match rest with
    | [] => none
    | op2 :: rest =>
        if 0x80 ≤ op2 ∧ op2 ≤ 0x8F then takes (cursor + 1) 4 false rest
        else if op2 = 0x1F then takesModrm (cursor + 1) 0 rest
        else none
  else if 0xB8 ≤ opcode ∧ opcode ≤ 0xBF then
    -- the source looks for REX.W among all bytes in front of the immediate
    let rexW := (prefixes ++ [opcode]).any fun p => 0x40 ≤ p && p ≤ 0x4F && p &&& 0x08 != 0
    takes cursor (if rexW then 8 else 4) true rest
  else if [0x01, 0x03, 0x21, 0x23, 0x29, 0x2B, 0x31, 0x33, 0x39, 0x3B, 0x63, 0x85, 0x87, 0x89, 0x8B,
      0x8D, 0xFF].contains opcode then takesModrm cursor 0 rest
  else if [0x80, 0x82, 0x83, 0xC0, 0xC1, 0xC6].contains opcode then takesModrm cursor 1 rest
  else if [0x81, 0x69, 0xC7].contains opcode then takesModrm cursor 4 rest
  else none

def decodeInstructionX64 (code : List UInt8) : Option PatchPlanInstructionInfo :=
  match code.dropWhile isPrefixByte with
  | [] => none
  | opcode :: rest => decodeOpcode (code.takeWhile isPrefixByte) opcode rest

/-! ## The operand -/

theorem mod_eq (modrm : UInt8) : modrm >>> (6 : UInt8) &&& (3 : UInt8) = modrm >>> (6 : UInt8) := by
  have small := modrm.toNat_lt
  apply UInt8.toNat_inj.mp
  rw [UInt8.toNat_and, UInt8.toNat_shiftRight]
  change (modrm.toNat >>> 6) &&& (2 ^ 2 - 1) = modrm.toNat >>> 6
  rw [Nat.and_two_pow_sub_one_eq_mod, Nat.shiftRight_eq_div_pow]
  omega

/-- The operand is read as the reference lays it out, if the bytes are there. -/
theorem parseModrmSib_eq (code : List UInt8) :
    parseModrmSib code = (X64.modrmLength code).bind fun n =>
      if n > code.length then none else some (n, X64.ripRelative code) := by
  cases code with
  | nil => rfl
  | cons modrm rest =>
      simp only [parseModrmSib, mod_eq, X64.modrmLength, X64.ripRelative, X64.rmField, X64.modField]
      by_cases scaled : modrm &&& 7 = 4 ∧ modrm >>> 6 ≠ 3
      · rw [if_pos scaled, if_pos scaled]
        cases rest with
        | nil => rfl
        | cons sib _ =>
            simp only [X64.sibDisplacement, X64.modField, Option.bind_some]
            by_cases byte : modrm >>> 6 = 1
            · simp [byte]
            by_cases based : modrm >>> 6 = 0 ∧ sib &&& 7 = 5
            · simp only [based.1, based.2, scaled.1]
              split_ifs <;> simp_all
            · simp only [byte, based, scaled.1, if_false, or_false]
              split_ifs <;> simp_all
      · rw [if_neg scaled, if_neg scaled]
        simp only [X64.displacement, X64.modField, X64.rmField, Option.bind_some]
        split_ifs <;> simp_all

theorem takesModrm_eq (cursor immediate : Nat) (rest : List UInt8) :
    takesModrm cursor immediate rest = (X64.modrmLength rest).bind fun n =>
      takes cursor (n + immediate) (!X64.ripRelative rest) rest := by
  rw [takesModrm, parseModrmSib_eq]
  cases X64.modrmLength rest with
  | none => rfl
  | some n =>
      rw [Option.bind_some, Option.bind_some]
      by_cases short : n > rest.length
      · rw [if_pos short, takes, if_pos (by omega)]
      · rw [if_neg short]

/-! ## The opcode -/

/-- The bytes of an immediate as the decoder takes them: it does not look for a `66` prefix, and takes
a REX prefix wherever it stands. -/
def takenSize (prefixes : List UInt8) : X64.Immediate → Nat
  | .absent => 0
  | .byte => 1
  | .operand => 4
  | .wide => if prefixes.any X64.isRexW then 8 else 4
  | .near => 4

/-- What the decoder reports of an opcode. -/
def decoded (prefixes : List UInt8) (i : X64.Opcode) : Option PatchPlanInstructionInfo :=
  (i.operandLength (takenSize prefixes)).bind fun n =>
    takes (prefixes.length + i.bytes.length) n (!i.relative) i.operands

theorem decoded_plain (prefixes bytes rest : List UInt8) (format : X64.Format)
    (plain : format.modrm = false) :
    decoded prefixes ⟨bytes, format, rest⟩ =
      takes (prefixes.length + bytes.length) (takenSize prefixes format.immediate)
        (!format.branch) rest := by
  simp [decoded, X64.Opcode.operandLength, X64.Opcode.relative, plain]

theorem decoded_modrm (prefixes bytes rest : List UInt8) (format : X64.Format)
    (modrm : format.modrm = true) (straight : format.branch = false) :
    decoded prefixes ⟨bytes, format, rest⟩ =
      takesModrm (prefixes.length + bytes.length) (takenSize prefixes format.immediate) rest := by
  rw [takesModrm_eq]
  simp only [decoded, X64.Opcode.operandLength, X64.Opcode.relative, modrm, straight, if_true,
    Bool.false_or, Bool.true_and]
  cases X64.modrmLength rest <;> rfl

theorem takes_plain (prefixes : List UInt8) {opcode : UInt8} (rest : List UInt8)
    (format : X64.Format) (known : opcode ≠ 0x0F ∧ X64.oneByte opcode = some format)
    (plain : format.modrm = false) :
    takes (prefixes.length + 1) (takenSize prefixes format.immediate) (!format.branch) rest =
      (X64.opcode? (opcode :: rest)).bind (decoded prefixes) := by
  rw [X64.opcode?_oneByte rest known]
  exact (decoded_plain prefixes [opcode] rest format plain).symm

theorem takes_modrm (prefixes : List UInt8) {opcode : UInt8} (rest : List UInt8)
    (format : X64.Format) (known : opcode ≠ 0x0F ∧ X64.oneByte opcode = some format)
    (modrm : format.modrm = true) (straight : format.branch = false) {size : Nat}
    (sized : takenSize prefixes format.immediate = size) :
    takesModrm (prefixes.length + 1) size rest =
      (X64.opcode? (opcode :: rest)).bind (decoded prefixes) := by
  rw [X64.opcode?_oneByte rest known, ← sized]
  exact (decoded_modrm prefixes [opcode] rest format modrm straight).symm

/-! Each branch of the decoder is one format of the map. -/

section

variable {opcode : UInt8}

theorem oneByte_plain (plain : 0x50 ≤ opcode ∧ opcode ≤ 0x5F ∨ opcode = 0x90 ∨ opcode = 0xC3 ∨
    opcode = 0xCC) : opcode ≠ 0x0F ∧ X64.oneByte opcode = some {} := by
  rcases plain with range | rfl | rfl | rfl
  · exact ⟨by rintro rfl; exact absurd range.1 (by decide), if_pos range⟩
  all_goals decide

theorem oneByte_known : X64.oneByte opcode ≠ none →
    (0x50 ≤ opcode ∧ opcode ≤ 0x5F ∨ opcode = 0x90 ∨ opcode = 0xC3 ∨ opcode = 0xCC) ∨
    opcode = 0x68 ∨ opcode = 0x6A ∨ (opcode = 0xE8 ∨ opcode = 0xE9) ∨
    (opcode = 0xEB ∨ 0x70 ≤ opcode ∧ opcode ≤ 0x7F) ∨ (0xB8 ≤ opcode ∧ opcode ≤ 0xBF) ∨
    [0x01, 0x03, 0x21, 0x23, 0x29, 0x2B, 0x31, 0x33, 0x39, 0x3B, 0x63, 0x85, 0x87, 0x89, 0x8B,
      0x8D, 0xFF].contains opcode = true ∨
    [0x80, 0x82, 0x83, 0xC0, 0xC1, 0xC6].contains opcode = true ∨
    [0x81, 0x69, 0xC7].contains opcode = true := by
  grind [X64.oneByte, X64.modrmOpcodes]

theorem oneByte_near (near : opcode = 0xE8 ∨ opcode = 0xE9) :
    opcode ≠ 0x0F ∧ X64.oneByte opcode = some { immediate := .near, branch := true } := by
  rcases near with rfl | rfl <;> decide

theorem oneByte_short (short : opcode = 0xEB ∨ 0x70 ≤ opcode ∧ opcode ≤ 0x7F) :
    opcode ≠ 0x0F ∧ X64.oneByte opcode = some { immediate := .byte, branch := true } := by
  grind [X64.oneByte]

theorem oneByte_move (move : 0xB8 ≤ opcode ∧ opcode ≤ 0xBF) :
    (opcode ≠ 0x0F ∧ X64.oneByte opcode = some { immediate := .wide }) ∧
      X64.isRexW opcode = false := by
  grind [X64.oneByte, X64.isRexW, X64.isRex]

theorem oneByte_modrm (modrm : [0x01, 0x03, 0x21, 0x23, 0x29, 0x2B, 0x31, 0x33, 0x39, 0x3B, 0x63, 0x85,
    0x87, 0x89, 0x8B, 0x8D, 0xFF].contains opcode = true) :
    opcode ≠ 0x0F ∧ X64.oneByte opcode = some { modrm := true } := by
  have listed := List.contains_iff_mem.mp modrm
  simp only [List.mem_cons, List.not_mem_nil, or_false] at listed
  rcases listed with rfl | rfl | rfl | rfl | rfl | rfl | rfl | rfl | rfl | rfl | rfl | rfl | rfl | rfl |
    rfl | rfl | rfl <;> decide

theorem oneByte_modrmByte (byte : [0x80, 0x82, 0x83, 0xC0, 0xC1, 0xC6].contains opcode = true) :
    opcode ≠ 0x0F ∧ ∃ invalid,
      X64.oneByte opcode = some { modrm := true, immediate := .byte, invalid } := by
  have listed := List.contains_iff_mem.mp byte
  simp only [List.mem_cons, List.not_mem_nil, or_false] at listed
  rcases listed with rfl | rfl | rfl | rfl | rfl | rfl <;> exact ⟨by decide, _, rfl⟩

theorem oneByte_modrmOperand (operand : [0x81, 0x69, 0xC7].contains opcode = true) :
    opcode ≠ 0x0F ∧ X64.oneByte opcode = some { modrm := true, immediate := .operand } := by
  have listed := List.contains_iff_mem.mp operand
  simp only [List.mem_cons, List.not_mem_nil, or_false] at listed
  rcases listed with rfl | rfl | rfl <;> decide

end

theorem takes_twoByte (prefixes : List UInt8) (op2 : UInt8) (rest : List UInt8) :
    (if 0x80 ≤ op2 ∧ op2 ≤ 0x8F then takes (prefixes.length + 1 + 1) 4 false rest
      else if op2 = 0x1F then takesModrm (prefixes.length + 1 + 1) 0 rest
      else none) = (X64.opcode? (0x0F :: op2 :: rest)).bind (decoded prefixes) := by
  simp only [X64.opcode?, X64.twoByte, if_true]
  split_ifs with near nop
  · exact (decoded_plain prefixes [0x0F, op2] rest { immediate := .near, branch := true } rfl).symm
  · exact (decoded_modrm prefixes [0x0F, op2] rest { modrm := true } rfl rfl).symm
  · rfl

/-- The decoder knows the opcodes of the map, and takes each in its format. -/
theorem decodeOpcode_eq (prefixes : List UInt8) (opcode : UInt8) (rest : List UInt8) :
    decodeOpcode prefixes opcode rest =
      (X64.opcode? (opcode :: rest)).bind (decoded prefixes) := by
  unfold decodeOpcode
  dsimp only
  refine iteInduction (motive := (· = _)) (fun plain => ?_) fun _ => ?_
  · exact takes_plain prefixes rest {} (oneByte_plain plain) rfl
  refine iteInduction (motive := (· = _)) (fun imm32 => ?_) fun _ => ?_
  · exact takes_plain prefixes rest { immediate := .operand } (imm32 ▸ by decide) rfl
  refine iteInduction (motive := (· = _)) (fun imm8 => ?_) fun _ => ?_
  · exact takes_plain prefixes rest { immediate := .byte } (imm8 ▸ by decide) rfl
  refine iteInduction (motive := (· = _)) (fun near => ?_) fun _ => ?_
  · exact takes_plain prefixes rest { immediate := .near, branch := true } (oneByte_near near) rfl
  refine iteInduction (motive := (· = _)) (fun short => ?_) fun _ => ?_
  · exact takes_plain prefixes rest { immediate := .byte, branch := true } (oneByte_short short) rfl
  refine iteInduction (motive := (· = _)) (fun two => ?_) fun notTwo => ?_
  · obtain rfl := two
    cases rest with
    | nil => rfl
    | cons op2 rest => exact takes_twoByte prefixes op2 rest
  refine iteInduction (motive := (· = _)) (fun move => ?_) fun _ => ?_
  · obtain ⟨known, noRex⟩ := oneByte_move move
    have rexW : (prefixes ++ [opcode]).any (fun p => 0x40 ≤ p && p ≤ 0x4F && p &&& 0x08 != 0) =
        prefixes.any X64.isRexW := by
      rw [List.any_append, List.any_cons, show (_ && _ && _) = false from noRex, List.any_nil,
        Bool.or_false, Bool.or_false]
      rfl
    rw [rexW]
    exact takes_plain prefixes rest _ known rfl
  refine iteInduction (motive := (· = _)) (fun modrm => ?_) fun _ => ?_
  · exact takes_modrm prefixes rest { modrm := true } (oneByte_modrm modrm) rfl rfl rfl
  refine iteInduction (motive := (· = _)) (fun byte => ?_) fun _ => ?_
  · obtain ⟨other, invalid, known⟩ := oneByte_modrmByte byte
    exact takes_modrm prefixes rest _ ⟨other, known⟩ rfl rfl rfl
  refine iteInduction (motive := (· = _)) (fun operand => ?_) fun _ => ?_
  · exact takes_modrm prefixes rest _ (oneByte_modrmOperand operand) rfl rfl rfl
  · have unknown : X64.oneByte opcode = none := by
      by_contra known
      rcases oneByte_known known with h | h | h | h | h | h | h | h | h <;> contradiction
    simp only [X64.opcode?, if_neg notTwo, unknown]
    rfl

theorem isPrefixByte_eq : isPrefixByte = X64.isPrefix := by
  funext b
  simp only [isPrefixByte, X64.isPrefix, X64.isRex, X64.isLegacyPrefix, Bool.or_assoc]

theorem decodeInstructionX64_eq (code : List UInt8) :
    decodeInstructionX64 code = (X64.opcode? (code.dropWhile X64.isPrefix)).bind
      (decoded (code.takeWhile X64.isPrefix)) := by
  rw [decodeInstructionX64, isPrefixByte_eq]
  cases code.dropWhile X64.isPrefix with
  | nil => rfl
  | cons opcode rest => exact decodeOpcode_eq _ opcode rest

theorem takes_eq_some {cursor n : Nat} {relocSafe : Bool} {rest : List UInt8}
    {info : PatchPlanInstructionInfo} (taken : takes cursor n relocSafe rest = some info) :
    n ≤ rest.length ∧ info = ⟨cursor + n, relocSafe⟩ := by
  simp only [takes] at taken
  split at taken
  · cases taken
  · rename_i fits
    exact ⟨not_lt.mp fits, (Option.some.inj taken).symm⟩

/-- What an accepted instruction is made of. -/
theorem decodeInstructionX64_eq_some {code : List UInt8} {info : PatchPlanInstructionInfo}
    (accepted : decodeInstructionX64 code = some info) :
    ∃ i n, X64.opcode? (code.dropWhile X64.isPrefix) = some i ∧
      i.operandLength (takenSize (code.takeWhile X64.isPrefix)) = some n ∧ n ≤ i.operands.length ∧
      info = ⟨(code.takeWhile X64.isPrefix).length + i.bytes.length + n, !i.relative⟩ := by
  rw [decodeInstructionX64_eq] at accepted
  obtain ⟨i, known, accepted⟩ := Option.bind_eq_some_iff.mp accepted
  obtain ⟨n, operands, taken⟩ := Option.bind_eq_some_iff.mp accepted
  exact ⟨i, n, known, operands, takes_eq_some taken⟩

/-! ## Lengths -/

/-- The inputs whose immediate the decoder sizes as the processor does: `82` is no instruction of
64-bit mode; `68`, `69`, `81` and `C7` may have no `66` prefix unless REX.W stands right before them;
`B8`–`BF` may have a REX.W only there, and a `66` prefix only with it. -/
def SizedAsIntel (code : List UInt8) : Prop :=
  let prefixes := code.takeWhile isPrefixByte
  ∀ opcode, (code.dropWhile isPrefixByte).head? = some opcode →
    opcode ≠ 0x82 ∧
    (opcode ∈ [0x68, 0x69, 0x81, 0xC7] →
      X64.wide prefixes = true ∨ prefixes.contains 0x66 = false) ∧
    (0xB8 ≤ opcode ∧ opcode ≤ 0xBF →
      X64.wide prefixes = true ∨ prefixes.contains 0x66 = false ∧ prefixes.any X64.isRexW = false)

/-- The sizes differ on immediates that follow the operand size. -/
theorem takenSize_eq_iff (prefixes : List UInt8) (immediate : X64.Immediate) :
    takenSize prefixes immediate = immediate.size prefixes ↔
      (immediate = .operand → X64.wide prefixes = true ∨ prefixes.contains 0x66 = false) ∧
      (immediate = .wide → X64.wide prefixes = true ∨
        prefixes.contains 0x66 = false ∧ prefixes.any X64.isRexW = false) := by
  have rex := @X64.any_of_wide prefixes
  cases immediate <;> simp only [takenSize, X64.Immediate.size, X64.operandSize]
  all_goals
    generalize X64.wide prefixes = wide, prefixes.contains 0x66 = short,
      prefixes.any X64.isRexW = anywhere at *
    revert rex wide short anywhere
    decide

theorem oneByte_sized (opcode : UInt8) : ∀ format ∈ X64.oneByte opcode,
    (format.invalid = true ↔ opcode = 0x82) ∧
    (format.immediate = .operand ↔ opcode ∈ [0x68, 0x69, 0x81, 0xC7]) ∧
    (format.immediate = .wide ↔ 0xB8 ≤ opcode ∧ opcode ≤ 0xBF) := by
  revert opcode
  decide +kernel

theorem twoByte_sized (opcode : UInt8) : ∀ format ∈ X64.twoByte opcode,
    format.invalid = false ∧ format.immediate ≠ .operand ∧ format.immediate ≠ .wide := by
  revert opcode
  decide +kernel

theorem sizedAsIntel_iff {code : List UInt8} {i : X64.Opcode}
    (known : X64.opcode? (code.dropWhile X64.isPrefix) = some i) :
    SizedAsIntel code ↔ i.format.invalid = false ∧
      takenSize (code.takeWhile X64.isPrefix) i.format.immediate =
        i.format.immediate.size (code.takeWhile X64.isPrefix) := by
  simp only [takenSize_eq_iff, SizedAsIntel, isPrefixByte_eq]
  generalize code.takeWhile X64.isPrefix = prefixes
  cases instruction : code.dropWhile X64.isPrefix with
  | nil =>
      rw [instruction] at known
      cases known
  | cons opcode rest =>
      simp only [List.head?_cons, Option.some.injEq, forall_eq']
      rw [instruction] at known
      by_cases two : opcode = 0x0F
      · obtain rfl := two
        cases rest with
        | nil => cases known
        | cons op2 rest =>
            obtain ⟨format, inMap, rfl⟩ := Option.map_eq_some_iff.mp known
            obtain ⟨valid, notOperand, notWide⟩ := twoByte_sized op2 format inMap
            exact iff_of_true ⟨by decide, (absurd · (by decide)), (absurd · (by decide))⟩
              ⟨valid, (absurd · notOperand), (absurd · notWide)⟩
      · simp only [X64.opcode?, if_neg two] at known
        obtain ⟨format, inMap, rfl⟩ := Option.map_eq_some_iff.mp known
        obtain ⟨invalid, operand, wide⟩ := oneByte_sized opcode format inMap
        rw [← operand, ← wide, ne_eq, ← invalid, Bool.not_eq_true]

/-- An accepted instruction has the processor's length exactly if its immediate is sized as the
processor sizes it. -/
theorem decodeInstructionX64_length_iff (code : List UInt8) (info : PatchPlanInstructionInfo)
    (accepted : decodeInstructionX64 code = some info) :
    X64.length code = some info.len ↔ SizedAsIntel code := by
  obtain ⟨i, n, known, operands, _, rfl⟩ := decodeInstructionX64_eq_some accepted
  rw [sizedAsIntel_iff known, eq_comm (a := takenSize _ _), ← X64.Opcode.operandLength_eq_some operands,
    X64.length, known]
  cases invalid : i.format.invalid <;> simp [invalid]

/-- The decoder reads four bytes of a push that has two. -/
theorem decodeInstructionX64_length_push :
    ¬∀ info, decodeInstructionX64 [0x66, 0x68, 0x34, 0x12, 0xC3, 0x90] = some info →
      X64.length [0x66, 0x68, 0x34, 0x12, 0xC3, 0x90] = some info.len := fun intel =>
  absurd (intel ⟨6, true⟩ (by decide)) (by decide)

theorem decodeInstructionX64_length_load :
    decodeInstructionX64 [0x48, 0x8B, 0x44, 0x24, 0x08, 0xC3] = some ⟨5, true⟩ ∧
      X64.length [0x48, 0x8B, 0x44, 0x24, 0x08, 0xC3] = some 5 := by
  have accepted : decodeInstructionX64 [0x48, 0x8B, 0x44, 0x24, 0x08, 0xC3] = some ⟨5, true⟩ := by
    decide
  refine ⟨accepted, (decodeInstructionX64_length_iff _ _ accepted).mpr fun opcode first => ?_⟩
  obtain rfl : 0x8B = opcode := Option.some.inj first
  decide

end F4MP.Client

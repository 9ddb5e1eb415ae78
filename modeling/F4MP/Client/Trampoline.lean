import F4MP.Client.PatchPlan

/-!
# The trampoline plans the same

The planner decodes captured bytes until the jump has room. The trampoline holds the planned
instructions and a jump back; the planner reads it as it has read the captured bytes.
-/

namespace F4MP.Client

/-! ## The planner -/

structure PatchPlanBoundaryResult where
  decodeSupported : Bool
  relocationSafe : Bool
  instructionCount : Nat
  overwriteLen : Nat
  minJumpBytes : Nat
  /-- The entries of the array that are in use. -/
  lengths : List UInt8
  deriving DecidableEq

/-- `sizeof(out.lengths) / sizeof(out.lengths[0])` -/
def patchPlanSlots : Nat := 8

def PatchPlanBoundaryResult.unsupported (out : PatchPlanBoundaryResult) : PatchPlanBoundaryResult :=
  { out with decodeSupported := false, relocationSafe := false }

def PatchPlanBoundaryResult.note (out : PatchPlanBoundaryResult) (info : PatchPlanInstructionInfo) :
    PatchPlanBoundaryResult :=
  { out with
    lengths := out.lengths ++ [UInt8.ofNat info.len]
    instructionCount := out.instructionCount + 1
    relocationSafe := out.relocationSafe && info.relocSafe }

def PatchPlanBoundaryResult.finish (out : PatchPlanBoundaryResult) (minJumpBytes cursor : Nat) :
    PatchPlanBoundaryResult :=
  if cursor < minJumpBytes then out.unsupported else { out with overwriteLen := cursor }

/-- The loop of `compute_patch_plan_boundary`, with the slots that are left. -/
def planInstructions (bytes : List UInt8) (minJumpBytes : Nat) :
    (slots cursor : Nat) → PatchPlanBoundaryResult → PatchPlanBoundaryResult
  | 0, cursor, out => out.finish minJumpBytes cursor
  | slots + 1, cursor, out =>
      if cursor < bytes.length ∧ cursor < minJumpBytes then
        match decodeInstructionX64 (bytes.drop cursor) with
        | none => out.unsupported
        | some info =>
            if info.len = 0 then out.unsupported
            else planInstructions bytes minJumpBytes slots (cursor + info.len) (out.note info)
      else out.finish minJumpBytes cursor

def computePatchPlanBoundary (bytes : List UInt8) (minJumpBytes : Nat) : PatchPlanBoundaryResult :=
  planInstructions bytes minJumpBytes patchPlanSlots 0 ⟨true, true, 0, 0, minJumpBytes, []⟩

def emitMovRaxJmpRax (addr : UInt64) : List UInt8 :=
  [0x48, 0xB8] ++ Wire.leBytes 8 addr.toNat ++ [0xFF, 0xE0]

/-- The trampoline of `clf4_phpr_attempt`: what the jump overwrites, and a jump back. -/
def trampoline (captured : List UInt8) (overwriteLen : Nat) (addr : UInt64) : List UInt8 :=
  captured.take overwriteLen ++ emitMovRaxJmpRax addr

/-! ## What the decoder reads -/

/-- An accepted instruction has bytes, and the decoder reads no others. -/
theorem decodeInstructionX64_local {code : List UInt8} {info : PatchPlanInstructionInfo}
    (accepted : decodeInstructionX64 code = some info) :
    1 ≤ info.len ∧ info.len ≤ code.length ∧
      ∀ tail, decodeInstructionX64 (code.take info.len ++ tail) = some info := by
  obtain ⟨i, n, known, operands, fits, rfl⟩ := decodeInstructionX64_eq_some accepted
  obtain ⟨instruction, nonempty, found⟩ := X64.opcode?_eq_some known
  have split : code = code.takeWhile X64.isPrefix ++ (i.bytes ++ i.operands) := by
    rw [← instruction, List.takeWhile_append_dropWhile]
  have prefixed : ∀ b ∈ code.takeWhile X64.isPrefix, X64.isPrefix b = true :=
    fun b member => List.mem_takeWhile_imp member
  obtain ⟨first, bytes, bytesIs⟩ := List.exists_cons_of_ne_nil nonempty
  have opens : X64.isPrefix first = false := by
    have := List.head?_dropWhile_not X64.isPrefix code
    rw [instruction, bytesIs] at this
    exact this
  generalize code.takeWhile X64.isPrefix = prefixes at *
  refine ⟨?_, ?_, fun tail => ?_⟩
  · have := List.length_pos_of_ne_nil nonempty
    show 1 ≤ prefixes.length + i.bytes.length + n
    omega
  · rw [split, List.length_append, List.length_append]
    show prefixes.length + i.bytes.length + n ≤ _
    omega
  · have cut : code.take (prefixes.length + i.bytes.length + n) =
        prefixes ++ (i.bytes ++ i.operands.take n) := by
      rw [split, Nat.add_assoc, List.take_length_add_append, List.take_length_add_append]
    obtain ⟨same, relative⟩ := X64.Opcode.operandLength_take operands tail
    rw [cut, List.append_assoc, List.append_assoc, decodeInstructionX64_eq,
      List.dropWhile_append_of_pos prefixed, List.takeWhile_append_of_pos prefixed, bytesIs,
      List.cons_append, List.dropWhile_cons_of_neg (by simp [opens]),
      List.takeWhile_cons_of_neg (by simp [opens]), List.append_nil, ← List.cons_append, ← bytesIs,
      found, Option.bind_some, decoded, same, Option.bind_some, relative]
    exact if_neg (by simp; omega)

/-! ## Plans -/

/-- The instructions that a plan takes from a cursor on. -/
inductive Planned (bytes : List UInt8) (minJumpBytes : Nat) :
    Nat → List PatchPlanInstructionInfo → Nat → Prop
  | done {cursor} (room : minJumpBytes ≤ cursor) : Planned bytes minJumpBytes cursor [] cursor
  | next {cursor info infos finish} (short : cursor < minJumpBytes)
      (accepted : decodeInstructionX64 (bytes.drop cursor) = some info)
      (rest : Planned bytes minJumpBytes (cursor + info.len) infos finish) :
      Planned bytes minJumpBytes cursor (info :: infos) finish

/-- The plan that these instructions make, up to a cursor. -/
def PatchPlanBoundaryResult.plan (out : PatchPlanBoundaryResult)
    (infos : List PatchPlanInstructionInfo) (cursor : Nat) : PatchPlanBoundaryResult :=
  { infos.foldl PatchPlanBoundaryResult.note out with overwriteLen := cursor }

section

variable {bytes : List UInt8} {minJumpBytes : Nat}

theorem finish_supported {out : PatchPlanBoundaryResult} {cursor : Nat}
    (supported : (out.finish minJumpBytes cursor).decodeSupported = true) :
    minJumpBytes ≤ cursor ∧ out.finish minJumpBytes cursor = out.plan [] cursor := by
  simp only [PatchPlanBoundaryResult.finish] at supported ⊢
  split at supported
  · cases supported
  · rename_i room
    exact ⟨not_lt.mp room, if_neg room⟩

theorem planInstructions_supported {slots cursor : Nat} {out : PatchPlanBoundaryResult}
    (supported : (planInstructions bytes minJumpBytes slots cursor out).decodeSupported = true) :
    ∃ infos finish, Planned bytes minJumpBytes cursor infos finish ∧ infos.length ≤ slots ∧
      planInstructions bytes minJumpBytes slots cursor out = out.plan infos finish := by
  induction slots generalizing cursor out with
  | zero =>
      obtain ⟨room, eq⟩ := finish_supported supported
      exact ⟨[], cursor, .done room, Nat.le_refl 0, eq⟩
  | succ slots ih =>
      rw [planInstructions] at supported ⊢
      by_cases goesOn : cursor < bytes.length ∧ cursor < minJumpBytes
      · rw [if_pos goesOn] at supported ⊢
        cases accepted : decodeInstructionX64 (bytes.drop cursor) with
        | none =>
            rw [accepted] at supported
            cases supported
        | some info =>
            have nonempty : info.len ≠ 0 :=
              Nat.one_le_iff_ne_zero.mp (decodeInstructionX64_local accepted).1
            simp only [accepted, if_neg nonempty] at supported ⊢
            obtain ⟨infos, finish, planned, fits, eq⟩ := ih supported
            exact ⟨info :: infos, finish, .next goesOn.2 accepted planned,
              Nat.succ_le_succ fits, eq⟩
      · rw [if_neg goesOn] at supported ⊢
        obtain ⟨room, eq⟩ := finish_supported supported
        exact ⟨[], cursor, .done room, Nat.zero_le _, eq⟩

theorem planInstructions_planned {slots cursor finish : Nat} {infos : List PatchPlanInstructionInfo}
    (planned : Planned bytes minJumpBytes cursor infos finish) (fits : infos.length ≤ slots)
    (out : PatchPlanBoundaryResult) :
    planInstructions bytes minJumpBytes slots cursor out = out.plan infos finish := by
  induction planned generalizing slots out with
  | @done cursor room =>
      have ends : out.finish minJumpBytes cursor = out.plan [] cursor := if_neg (not_lt.mpr room)
      cases slots with
      | zero => exact ends
      | succ slots =>
          rw [planInstructions, if_neg fun goesOn => not_lt.mpr room goesOn.2]
          exact ends
  | @next cursor info infos finish short accepted rest ih =>
      cases slots with
      | zero => cases fits
      | succ slots =>
          obtain ⟨nonempty, inside, _⟩ := decodeInstructionX64_local accepted
          have goesOn : cursor < bytes.length := by
            rw [List.length_drop] at inside
            omega
          rw [planInstructions, if_pos ⟨goesOn, short⟩]
          simp only [accepted, if_neg (Nat.one_le_iff_ne_zero.mp nonempty)]
          exact ih (Nat.le_of_succ_le_succ fits) _

namespace Planned

variable {cursor finish : Nat} {infos : List PatchPlanInstructionInfo}

theorem finish_eq (planned : Planned bytes minJumpBytes cursor infos finish) :
    finish = cursor + (infos.map (·.len)).sum := by
  induction planned with
  | done => rfl
  | next _ _ _ ih => rw [ih, List.map_cons, List.sum_cons, Nat.add_assoc]

theorem room (planned : Planned bytes minJumpBytes cursor infos finish) : minJumpBytes ≤ finish := by
  induction planned with
  | done room => exact room
  | next _ _ _ ih => exact ih

theorem inside (planned : Planned bytes minJumpBytes cursor infos finish)
    (start : cursor ≤ bytes.length) : finish ≤ bytes.length := by
  induction planned with
  | done => exact start
  | next _ accepted _ ih =>
      obtain ⟨_, inside, _⟩ := decodeInstructionX64_local accepted
      rw [List.length_drop] at inside
      exact ih (by omega)

theorem dropLast (planned : Planned bytes minJumpBytes cursor infos finish) (last : infos ≠ []) :
    cursor + (infos.dropLast.map (·.len)).sum < minJumpBytes := by
  induction planned with
  | done => exact absurd rfl last
  | @next cursor info infos finish short _ _ ih =>
      cases infos with
      | nil => exact short
      | cons second infos =>
          rw [List.dropLast_cons_of_ne_nil (List.cons_ne_nil _ _), List.map_cons, List.sum_cons,
            ← Nat.add_assoc]
          exact ih (List.cons_ne_nil _ _)

theorem take (planned : Planned bytes minJumpBytes cursor infos finish) (tail : List UInt8) :
    Planned (bytes.take finish ++ tail) minJumpBytes cursor infos finish := by
  induction planned with
  | done room => exact .done room
  | @next cursor info infos finish short accepted rest ih =>
      refine .next short ?_ ih
      obtain ⟨nonempty, inside, reads⟩ := decodeInstructionX64_local accepted
      have more := rest.finish_eq
      rw [List.length_drop] at inside
      have within : finish ≤ bytes.length := rest.inside (by omega)
      rw [List.drop_append_of_le_length (by rw [List.length_take]; omega), List.drop_take,
        ← List.take_append_drop info.len ((bytes.drop cursor).take _), List.take_take,
        Nat.min_eq_left (by omega), List.append_assoc]
      exact reads _

theorem accepted (planned : Planned bytes minJumpBytes cursor infos finish)
    {before after : List PatchPlanInstructionInfo} {info : PatchPlanInstructionInfo}
    (split : infos = before ++ info :: after) :
    decodeInstructionX64 (bytes.drop (cursor + (before.map (·.len)).sum)) = some info := by
  induction planned generalizing before with
  | done => cases before <;> cases split
  | @next cursor first infos finish _ accepted _ ih =>
      cases before with
      | nil =>
          obtain rfl := (List.cons.inj split).1
          exact accepted
      | cons _ before =>
          obtain ⟨rfl, others⟩ := List.cons.inj split
          rw [List.map_cons, List.sum_cons, ← Nat.add_assoc]
          exact ih others

end Planned

/-! ## What a plan reports -/

theorem note_foldl (infos : List PatchPlanInstructionInfo) (out : PatchPlanBoundaryResult) :
    infos.foldl PatchPlanBoundaryResult.note out =
      { out with
        lengths := out.lengths ++ infos.map fun info => UInt8.ofNat info.len
        instructionCount := out.instructionCount + infos.length
        relocationSafe := out.relocationSafe && infos.all (·.relocSafe) } := by
  induction infos generalizing out with
  | nil => simp
  | cons info infos ih =>
      rw [List.foldl_cons, ih]
      simp [PatchPlanBoundaryResult.note, Bool.and_assoc, Nat.add_comm, Nat.add_left_comm]

end

theorem computePatchPlanBoundary_supported {captured : List UInt8} {minJumpBytes : Nat}
    (supported : (computePatchPlanBoundary captured minJumpBytes).decodeSupported = true) :
    ∃ infos finish, Planned captured minJumpBytes 0 infos finish ∧ infos.length ≤ patchPlanSlots ∧
      computePatchPlanBoundary captured minJumpBytes =
        { decodeSupported := true
          relocationSafe := infos.all (·.relocSafe)
          instructionCount := infos.length
          overwriteLen := finish
          minJumpBytes
          lengths := infos.map fun info => UInt8.ofNat info.len } := by
  obtain ⟨infos, finish, planned, fits, eq⟩ := planInstructions_supported supported
  refine ⟨infos, finish, planned, fits, ?_⟩
  rw [computePatchPlanBoundary, eq, PatchPlanBoundaryResult.plan, note_foldl]
  simp

/-- A supported plan is the plan of every trampoline made from it. -/
theorem computePatchPlanBoundary_take {captured : List UInt8} {minJumpBytes : Nat}
    (supported : (computePatchPlanBoundary captured minJumpBytes).decodeSupported = true)
    (addr : UInt64) :
    computePatchPlanBoundary (trampoline captured
        (computePatchPlanBoundary captured minJumpBytes).overwriteLen addr) minJumpBytes =
      computePatchPlanBoundary captured minJumpBytes := by
  obtain ⟨infos, finish, planned, fits, eq⟩ := planInstructions_supported supported
  have ends : (computePatchPlanBoundary captured minJumpBytes).overwriteLen = finish := by
    rw [computePatchPlanBoundary, eq]
    rfl
  rw [ends, trampoline]
  exact (planInstructions_planned (planned.take _) fits _).trans eq.symm

theorem relocSafe_eq {code : List UInt8} {info : PatchPlanInstructionInfo}
    (accepted : decodeInstructionX64 code = some info) :
    info.relocSafe = !X64.relative code := by
  obtain ⟨i, n, known, _, _, rfl⟩ := decodeInstructionX64_eq_some accepted
  rw [X64.relative, known, Option.any_some]

/-- What a supported plan of captured bytes promises. -/
structure SoundPlan (captured : List UInt8) (plan : PatchPlanBoundaryResult) : Prop where
  counted : plan.instructionCount = plan.lengths.length
  slots : plan.instructionCount ≤ 8
  nonempty : ∀ len ∈ plan.lengths, 1 ≤ len
  overwrites : plan.overwriteLen = (plan.lengths.map UInt8.toNat).sum
  room : 12 ≤ plan.overwriteLen
  inside : plan.overwriteLen ≤ 16
  /-- One instruction less leaves no room for the jump. -/
  short : (plan.lengths.dropLast.map UInt8.toNat).sum < 12
  /-- No planned instruction is a relative branch or has an operand relative to the next one. -/
  movable : plan.relocationSafe = true → ∀ i < plan.instructionCount,
    X64.relative (captured.drop ((plan.lengths.take i).map UInt8.toNat).sum) = false

theorem computePatchPlanBoundary_sound (captured : List UInt8) (sixteen : captured.length = 16)
    (supported : (computePatchPlanBoundary captured 12).decodeSupported = true) :
    SoundPlan captured (computePatchPlanBoundary captured 12) ∧ ∀ addr,
      computePatchPlanBoundary (trampoline captured
        (computePatchPlanBoundary captured 12).overwriteLen addr) 12 =
      computePatchPlanBoundary captured 12 := by
  refine ⟨?_, computePatchPlanBoundary_take supported⟩
  obtain ⟨infos, finish, planned, fits, eq⟩ := computePatchPlanBoundary_supported supported
  have inside := planned.inside (Nat.zero_le _)
  have ends := planned.finish_eq
  have room := planned.room
  have byte : ∀ info ∈ infos, (UInt8.ofNat info.len).toNat = info.len := by
    intro info member
    have := List.single_le_sum (by simp) _ (List.mem_map_of_mem (f := (·.len)) member)
    exact UInt8.toNat_ofNat_of_lt' (by show _ < 256; omega)
  have bytes : ∀ part : List PatchPlanInstructionInfo, (∀ info ∈ part, info ∈ infos) →
      (part.map fun info => UInt8.ofNat info.len).map UInt8.toNat = part.map (·.len) := by
    intro part among
    rw [List.map_map]
    exact List.map_congr_left fun info member => byte info (among info member)
  rw [eq]
  constructor
  · exact (List.length_map _).symm
  · exact fits
  · intro len among
    obtain ⟨info, member, rfl⟩ := List.mem_map.mp among
    obtain ⟨before, after, split⟩ := List.append_of_mem member
    rw [UInt8.le_iff_toNat_le, byte info member]
    exact (decodeInstructionX64_local (planned.accepted split)).1
  · rw [bytes infos fun _ member => member, ← Nat.zero_add (List.sum _)]
    exact ends
  · exact room
  · exact sixteen ▸ inside
  · rw [← List.map_dropLast, bytes _ fun _ member => List.dropLast_subset _ member]
    have := planned.dropLast (by rintro rfl; simp at ends; omega)
    omega
  · intro movable i there
    rw [← List.map_take, bytes _ fun _ member => List.mem_of_mem_take member]
    have split : infos = infos.take i ++ infos[i] :: infos.drop (i + 1) := by
      rw [List.getElem_cons_drop, List.take_append_drop]
    have accepted := planned.accepted split
    rw [Nat.zero_add] at accepted
    have safe := List.all_eq_true.mp movable _ (List.getElem_mem there)
    rw [relocSafe_eq accepted, Bool.not_eq_true'] at safe
    exact safe

/-- `mov [rsp+8], rbx; push rdi; sub rsp, 20h; mov rdi, rcx` -/
theorem computePatchPlanBoundary_sound_prologue :
    let captured : List UInt8 := [0x48, 0x89, 0x5C, 0x24, 0x08, 0x57, 0x48, 0x83, 0xEC, 0x20, 0x48,
      0x8B, 0xF9, 0x48, 0x8B, 0x41]
    SoundPlan captured (computePatchPlanBoundary captured 12) ∧ ∀ addr,
      computePatchPlanBoundary (trampoline captured
        (computePatchPlanBoundary captured 12).overwriteLen addr) 12 =
      computePatchPlanBoundary captured 12 :=
  computePatchPlanBoundary_sound _ rfl (by decide)

end F4MP.Client

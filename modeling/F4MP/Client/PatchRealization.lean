import F4MP.Library.Machine
import F4MP.Client.PlayerHook
import F4MP.Client.Trampoline

/-!
# Realizing a patch

`clf4_phpr_attempt` overwrites the start of a function with a jump to a gateway. The gateway goes on to
the trampoline, and the trampoline, behind the instructions that were overwritten, back to the function.
-/

namespace F4MP.Client
open Protocol Service X64

/-! ## State -/

inductive CommonLibF4PlayerHookPatchRealizationError
  | none | notAttempted | targetMissing | detourMissing | incompatibleDetourEntry | protectFailed
  | trampolineAllocFailed | writeFailed | unsupportedPlatform | verificationOnlySafetyRollback
  | plannerUnsupportedInstruction
  deriving DecidableEq

def clf4PhprErrorLabel : CommonLibF4PlayerHookPatchRealizationError → String
  | .none => "none"
  | .notAttempted => "not_attempted"
  | .targetMissing => "target_missing"
  | .detourMissing => "detour_missing"
  | .incompatibleDetourEntry => "incompatible_detour_entry"
  | .protectFailed => "protect_failed"
  | .trampolineAllocFailed => "trampoline_alloc_failed"
  | .writeFailed => "write_failed"
  | .unsupportedPlatform => "unsupported_platform"
  | .verificationOnlySafetyRollback => "verification_only_safety_rollback"
  | .plannerUnsupportedInstruction => "planner_unsupported_instruction"

structure CommonLibF4PlayerHookPatchRealizationState where
  attempted : Bool := false
  patchWriteRealized : Bool := false
  trampolineRealized : Bool := false
  targetAddr : UInt64 := 0
  targetSymbol : Option Text := none
  detourDestinationAddr : UInt64 := 0
  detourDestinationLabel : Option Text := none
  trampolineAddr : UInt64 := 0
  bytesOverwritten : UInt32 := 0
  platformErrorCode : UInt32 := 0
  gatewayMarkerCount : UInt32 := 0
  error : CommonLibF4PlayerHookPatchRealizationError := .none
  errorLabel : String := ""

/-- What Windows answers during an attempt, and where the linker has put the counter of the marker
gateway. -/
structure Windows where
  /-- `F4MP_GATEWAY_VARIANT`, if it is set and shorter than 32 characters. -/
  gatewayVariant : Option Text
  allocatesTrampoline : Option UInt64
  allocatesGateway : Option UInt64
  protects : Bool
  lastError : UInt32
  markerGatewayCount : UInt64

/-- A process: its memory, what it has from `VirtualAlloc`, and the static states. -/
structure HookProcess where
  memory : Bytes
  allocations : List (UInt64 × Nat)
  state : CommonLibF4PlayerHookPatchRealizationState
  markerGatewayCount : UInt32
  manualTrampoline : UInt64

/-! ## Gateways -/

def isSupportedDetourLabel (label : Text) : Bool :=
  label == ascii "phs_create_player_controls_manual_detour_thunk" ||
    label == ascii "phpr_passthrough_gateway" || label == ascii "phpr_marker_gateway"

/-- `_stricmp(a, b) == 0` -/
def stricmpEq (a b : Text) : Bool :=
  let lower (c : UInt8) : UInt8 := if 0x41 ≤ c && c ≤ 0x5A then c + 0x20 else c
  a.map lower == b.map lower

def useMarkerGatewayVariant (w : Windows) : Bool :=
  match w.gatewayVariant with
  | none => true
  | some value => !(stricmpEq value (ascii "pass") || stricmpEq value (ascii "passthrough"))

/-- What `allocate_passthrough_gateway` writes. -/
def passthroughGateway (trampolineAddr : UInt64) : List UInt8 :=
  emitMovRaxJmpRax trampolineAddr ++ List.replicate 20 0x90

/-- What `allocate_marker_gateway` writes. -/
def markerGateway (counterAddr trampolineAddr : UInt64) : List UInt8 :=
  [0x9C, 0x50, 0x41, 0x53, 0x49, 0xBB] ++ Wire.leBytes 8 counterAddr.toNat ++
    [0x41, 0x83, 0x03, 0x01, 0x41, 0x5B, 0x58, 0x9D] ++ emitMovRaxJmpRax trampolineAddr ++
    List.replicate 30 0x90

def gateway (w : Windows) (trampolineAddr : UInt64) : List UInt8 :=
  if useMarkerGatewayVariant w then markerGateway w.markerGatewayCount trampolineAddr
  else passthroughGateway trampolineAddr

def gatewayLabel (w : Windows) : Text :=
  if useMarkerGatewayVariant w then ascii "phpr_marker_gateway" else ascii "phpr_passthrough_gateway"

/-! ## The attempt -/

def setError (error : CommonLibF4PlayerHookPatchRealizationError) (platformErrorCode : UInt32)
    (s : CommonLibF4PlayerHookPatchRealizationState) : CommonLibF4PlayerHookPatchRealizationState :=
  { s with error, errorLabel := clf4PhprErrorLabel error, platformErrorCode }

/-- `VirtualAlloc` of a block that is filled right away. -/
def HookProcess.allocate (addr : UInt64) (bytes : List UInt8) (p : HookProcess) : HookProcess :=
  { p with
    memory := overwrite addr bytes p.memory
    allocations := (addr, bytes.length) :: p.allocations }

/-- `VirtualFree` -/
def HookProcess.release (addr : UInt64) (p : HookProcess) : HookProcess :=
  { p with allocations := p.allocations.eraseP (·.1 == addr) }

def HookProcess.fail (error : CommonLibF4PlayerHookPatchRealizationError) (platformErrorCode : UInt32)
    (p : HookProcess) : Bool × HookProcess :=
  (false, { p with state := setError error platformErrorCode p.state })

def clf4PhprReset (p : HookProcess) : HookProcess :=
  { p with
    state := { error := .notAttempted, errorLabel := clf4PhprErrorLabel .notAttempted }
    markerGatewayCount := 0
    manualTrampoline := 0 }

def clf4PhprState (p : HookProcess) : CommonLibF4PlayerHookPatchRealizationState :=
  { p.state with gatewayMarkerCount := p.markerGatewayCount }

/-- `captured` of `clf4_phpr_attempt` -/
def captured (memory : Bytes) (targetAddr : UInt64) : List UInt8 :=
  (List.range 16).map fun i => memory (targetAddr + UInt64.ofNat i)

/-- The jump over the start of the function, filled up with `nop`. -/
def patchBytes (overwriteLen : Nat) (gatewayAddr : UInt64) : List UInt8 :=
  emitMovRaxJmpRax gatewayAddr ++ List.replicate (overwriteLen - 12) 0x90

/-- The part of `clf4_phpr_attempt` behind the planner. -/
def realizePatch (w : Windows) (plan : CommonLibF4PlayerHookPatchRealizationPlan) (overwriteLen : Nat)
    (p : HookProcess) : Bool × HookProcess :=
  match w.allocatesTrampoline with
  | none => p.fail .trampolineAllocFailed w.lastError
  | some trampolineAddr =>
      let back := plan.targetAddr + UInt64.ofNat overwriteLen
      let p := p.allocate trampolineAddr
        (trampoline (captured p.memory plan.targetAddr) overwriteLen back)
      match w.allocatesGateway with
      | none => (p.release trampolineAddr).fail .trampolineAllocFailed w.lastError
      | some gatewayAddr =>
          let p := p.allocate gatewayAddr (gateway w trampolineAddr)
          if !w.protects then
            ((p.release gatewayAddr).release trampolineAddr).fail .protectFailed w.lastError
          else
            (true, { p with
              memory := overwrite plan.targetAddr (patchBytes overwriteLen gatewayAddr) p.memory
              state := setError .none 0 { p.state with
                patchWriteRealized := true
                trampolineRealized := true
                trampolineAddr
                bytesOverwritten := UInt32.ofNat overwriteLen
                detourDestinationAddr := gatewayAddr
                detourDestinationLabel := some (gatewayLabel w) }
              manualTrampoline := trampolineAddr })

def clf4PhprAttempt (w : Windows) (plan : Option CommonLibF4PlayerHookPatchRealizationPlan)
    (p : HookProcess) : Bool × HookProcess :=
  let p := clf4PhprReset p
  match plan with
  | none => HookProcess.fail .targetMissing 0 { p with state := { p.state with attempted := true } }
  | some plan =>
      let p := { p with
        state := { p.state with
          attempted := true
          targetAddr := plan.targetAddr
          targetSymbol := plan.targetSymbol
          detourDestinationAddr := plan.detourDestinationAddr
          detourDestinationLabel := some plan.detourDestinationLabel } }
      if plan.targetAddr = 0 then p.fail .targetMissing 0
      else if plan.detourDestinationAddr = 0 then p.fail .detourMissing 0
      else if !isSupportedDetourLabel plan.detourDestinationLabel then
        p.fail .incompatibleDetourEntry 0
      else
        let planner := computePatchPlanBoundary (captured p.memory plan.targetAddr) 12
        if !planner.decodeSupported || !planner.relocationSafe then
          p.fail .plannerUnsupportedInstruction 0
        else if planner.overwriteLen < 12 then p.fail .writeFailed 0
        else realizePatch w plan planner.overwriteLen p

/-! ## What an attempt leaves behind -/

/-- The address is in no block that Windows hands out during the attempt. -/
def Windows.Outside (w : Windows) (x : UInt64) : Prop :=
  (∀ a ∈ w.allocatesTrampoline, 28 ≤ (x - a).toNat) ∧ ∀ a ∈ w.allocatesGateway, 64 ≤ (x - a).toNat

/-- Nothing is left of an attempt but its error. -/
structure Refused (w : Windows) (p after : HookProcess) : Prop where
  allocations : after.allocations = p.allocations
  memory : ∀ x, w.Outside x → after.memory x = p.memory x
  unhooked : after.manualTrampoline = 0
  unrealized : after.state.patchWriteRealized = false ∧ after.state.trampolineRealized = false ∧
    after.state.trampolineAddr = 0 ∧ after.state.bytesOverwritten = 0
  error : after.state.error ≠ .none
  label : after.state.errorLabel = clf4PhprErrorLabel after.state.error

/-- The function jumps to a gateway, the gateway to a trampoline, and nothing else has changed. -/
structure Realized (w : Windows) (plan : CommonLibF4PlayerHookPatchRealizationPlan) (n : Nat)
    (trampolineAddr gatewayAddr : UInt64) (p after : HookProcess) : Prop where
  planned : n = (computePatchPlanBoundary (captured p.memory plan.targetAddr) 12).overwriteLen
  supported :
    (computePatchPlanBoundary (captured p.memory plan.targetAddr) 12).decodeSupported = true
  movable : (computePatchPlanBoundary (captured p.memory plan.targetAddr) 12).relocationSafe = true
  blocks : w.allocatesTrampoline = some trampolineAddr ∧ w.allocatesGateway = some gatewayAddr
  memory : after.memory = overwrite plan.targetAddr (patchBytes n gatewayAddr)
    (overwrite gatewayAddr (gateway w trampolineAddr)
      (overwrite trampolineAddr (trampoline (captured p.memory plan.targetAddr) n
        (plan.targetAddr + UInt64.ofNat n)) p.memory))
  allocations : after.allocations = (gatewayAddr, if useMarkerGatewayVariant w then 64 else 32) ::
    (trampolineAddr, n + 12) :: p.allocations
  hooked : after.manualTrampoline = trampolineAddr
  realized : after.state = { attempted := true, patchWriteRealized := true, trampolineRealized := true
                             targetAddr := plan.targetAddr, targetSymbol := plan.targetSymbol
                             detourDestinationAddr := gatewayAddr
                             detourDestinationLabel := some (gatewayLabel w)
                             trampolineAddr, bytesOverwritten := UInt32.ofNat n
                             error := .none, errorLabel := "none" }

theorem captured_length (memory : Bytes) (targetAddr : UInt64) :
    (captured memory targetAddr).length = 16 := by
  rw [captured, List.length_map, List.length_range]

theorem emitMovRaxJmpRax_length (addr : UInt64) : (emitMovRaxJmpRax addr).length = 12 := by
  rw [emitMovRaxJmpRax, List.length_append, List.length_append, Wire.leBytes_length]
  rfl

theorem gateway_length (w : Windows) (trampolineAddr : UInt64) :
    (gateway w trampolineAddr).length = if useMarkerGatewayVariant w then 64 else 32 := by
  rw [gateway]
  split
  · simp [markerGateway, emitMovRaxJmpRax_length]
  · simp [passthroughGateway, emitMovRaxJmpRax_length]

theorem trampoline_length {memory : Bytes} {targetAddr : UInt64} {n : Nat} (inside : n ≤ 16)
    (back : UInt64) : (trampoline (captured memory targetAddr) n back).length = n + 12 := by
  rw [trampoline, List.length_append, List.length_take, captured_length, emitMovRaxJmpRax_length]
  omega

section Attempts

variable {w : Windows} {p q : HookProcess} {plan : CommonLibF4PlayerHookPatchRealizationPlan}
  {error : CommonLibF4PlayerHookPatchRealizationError} {code : UInt32} {n : Nat}

theorem Refused.fail (allocations : q.allocations = p.allocations)
    (memory : ∀ x, w.Outside x → q.memory x = p.memory x) (unhooked : q.manualTrampoline = 0)
    (unrealized : q.state.patchWriteRealized = false ∧ q.state.trampolineRealized = false ∧
      q.state.trampolineAddr = 0 ∧ q.state.bytesOverwritten = 0) (some : error ≠ .none) :
    Refused w p (q.fail error code).2 := ⟨allocations, memory, unhooked, unrealized, some, rfl⟩

/-- What was allocated last is released. -/
theorem release_allocate (addr : UInt64) (bytes : List UInt8) (p : HookProcess) :
    ((p.allocate addr bytes).release addr).allocations = p.allocations := by
  simp [HookProcess.allocate, HookProcess.release]

theorem allocate_memory {addr x : UInt64} {bytes : List UInt8} (outside : bytes.length ≤ (x - addr).toNat) :
    (p.allocate addr bytes).memory x = p.memory x := overwrite_outside outside

/-- Behind the planner, an attempt that fails gives back what it was given. -/
theorem realizePatch_cases (inside : n ≤ 16) (reset : q.state.patchWriteRealized = false ∧
      q.state.trampolineRealized = false ∧ q.state.trampolineAddr = 0 ∧ q.state.bytesOverwritten = 0)
    (unhooked : q.manualTrampoline = 0) :
    ((realizePatch w plan n q).1 = false ∧ Refused w q (realizePatch w plan n q).2) ∨
    ∃ trampolineAddr gatewayAddr, w.allocatesTrampoline = some trampolineAddr ∧
      w.allocatesGateway = some gatewayAddr ∧
      realizePatch w plan n q = (true,
        let p := (q.allocate trampolineAddr (trampoline (captured q.memory plan.targetAddr) n
          (plan.targetAddr + UInt64.ofNat n))).allocate gatewayAddr (gateway w trampolineAddr)
        { p with
          memory := overwrite plan.targetAddr (patchBytes n gatewayAddr) p.memory
          state := setError .none 0 { p.state with
            patchWriteRealized := true
            trampolineRealized := true
            trampolineAddr
            bytesOverwritten := UInt32.ofNat n
            detourDestinationAddr := gatewayAddr
            detourDestinationLabel := some (gatewayLabel w) }
          manualTrampoline := trampolineAddr }) := by
  have small : ∀ back, (trampoline (captured q.memory plan.targetAddr) n back).length ≤ 28 := by
    intro back
    rw [trampoline_length inside]
    omega
  have wide : ∀ a, (gateway w a).length ≤ 64 := by
    intro a
    rw [gateway_length]
    split <;> omega
  unfold realizePatch
  cases first : w.allocatesTrampoline with
  | none => exact .inl ⟨rfl, .fail rfl (fun _ _ => rfl) unhooked reset (by decide)⟩
  | some trampolineAddr =>
      dsimp only
      cases second : w.allocatesGateway with
      | none =>
          refine .inl ⟨rfl, .fail (release_allocate _ _ q) (fun x outside => ?_) unhooked reset (by decide)⟩
          exact allocate_memory ((small _).trans (outside.1 _ first))
      | some gatewayAddr =>
          dsimp only
          cases w.protects with
          | false =>
              refine .inl ⟨rfl, .fail ?_ (fun x outside => ?_) unhooked reset (by decide)⟩
              · simp [HookProcess.release, HookProcess.allocate]
              · exact (allocate_memory ((wide _).trans (outside.2 _ second))).trans
                  (allocate_memory ((small _).trans (outside.1 _ first)))
          | true => exact .inr ⟨_, _, rfl, rfl, rfl⟩

end Attempts

/-- An attempt that fails leaves everything as it was, and takes back what it was given; one that
succeeds changes the start of the function, and has the trampoline and the gateway besides. -/
theorem clf4PhprAttempt_atomic (w : Windows)
    (plan : Option CommonLibF4PlayerHookPatchRealizationPlan) (p : HookProcess) :
    ((clf4PhprAttempt w plan p).1 = false ∧ Refused w p (clf4PhprAttempt w plan p).2) ∨
    ∃ target trampolineAddr gatewayAddr n, plan = some target ∧ 12 ≤ n ∧ n ≤ 16 ∧
      (clf4PhprAttempt w plan p).1 = true ∧
      Realized w target n trampolineAddr gatewayAddr p (clf4PhprAttempt w plan p).2 := by
  have blank : false = false ∧ false = false ∧ (0 : UInt64) = 0 ∧ (0 : UInt32) = 0 :=
    ⟨rfl, rfl, rfl, rfl⟩
  cases plan with
  | none => exact .inl ⟨rfl, .fail rfl (fun _ _ => rfl) rfl blank (by decide)⟩
  | some plan =>
      rw [clf4PhprAttempt]
      dsimp only
      split
      · exact .inl ⟨rfl, .fail rfl (fun _ _ => rfl) rfl blank (by decide)⟩
      split
      · exact .inl ⟨rfl, .fail rfl (fun _ _ => rfl) rfl blank (by decide)⟩
      split
      · exact .inl ⟨rfl, .fail rfl (fun _ _ => rfl) rfl blank (by decide)⟩
      split
      · exact .inl ⟨rfl, .fail rfl (fun _ _ => rfl) rfl blank (by decide)⟩
      split
      · exact .inl ⟨rfl, .fail rfl (fun _ _ => rfl) rfl blank (by decide)⟩
      · rename_i planned _
        obtain ⟨supported, movable⟩ : (computePatchPlanBoundary (captured p.memory plan.targetAddr)
              12).decodeSupported = true ∧ (computePatchPlanBoundary (captured p.memory
              plan.targetAddr) 12).relocationSafe = true := by
          simpa [clf4PhprReset] using planned
        obtain ⟨infos, n, plans, _, eq⟩ := computePatchPlanBoundary_supported supported
        have ends : (computePatchPlanBoundary (captured p.memory plan.targetAddr) 12).overwriteLen =
            n := by rw [eq]
        have inside : n ≤ 16 := captured_length p.memory plan.targetAddr ▸ plans.inside (Nat.zero_le _)
        have same : captured (clf4PhprReset p).memory plan.targetAddr =
            captured p.memory plan.targetAddr := rfl
        rw [same, ends]
        rcases @realizePatch_cases w { clf4PhprReset p with
            state := { (clf4PhprReset p).state with
              attempted := true
              targetAddr := plan.targetAddr
              targetSymbol := plan.targetSymbol
              detourDestinationAddr := plan.detourDestinationAddr
              detourDestinationLabel := some plan.detourDestinationLabel } } plan n inside blank rfl with
          ⟨failed, refused⟩ | ⟨trampolineAddr, gatewayAddr, first, second, done⟩
        · exact .inl ⟨failed, refused.allocations, refused.memory, refused.unhooked,
            refused.unrealized, refused.error, refused.label⟩
        · rw [done]
          refine .inr ⟨plan, trampolineAddr, gatewayAddr, n, rfl, plans.room, inside, rfl, ?_⟩
          exact ⟨ends.symm, supported, movable, ⟨first, second⟩, rfl, by
            simp only [HookProcess.allocate, gateway_length, trampoline_length inside]; rfl, rfl, rfl⟩

/-! ## What the processor does -/

/-- What a successful attempt needs of the instructions it moves: the planner has sized them as the
processor does, and none of them calls. -/
def Steady (captured : List UInt8) : Prop :=
  let plan := computePatchPlanBoundary captured 12
  ∀ i < plan.instructionCount,
    let code := captured.drop ((plan.lengths.take i).map UInt8.toNat).sum
    SizedAsIntel code ∧ (plan.lengths.getD i 0).toNat ≤ 15 ∧ isCall code = false

/-- Windows hands out blocks that lie in no other. -/
structure Windows.Fresh (w : Windows) (targetAddr : UInt64) : Prop where
  trampoline : ∀ a ∈ w.allocatesTrampoline, Apart targetAddr 16 a 28
  gateway : ∀ a ∈ w.allocatesGateway, Apart targetAddr 16 a 64
  blocks : ∀ a ∈ w.allocatesTrampoline, ∀ b ∈ w.allocatesGateway, Apart b 64 a 28

/-- The processor as the gateway leaves it to the trampoline: `rax` has the trampoline, the marker
gateway has counted, and has used the stack below the stack pointer. -/
structure Entered {ρ : Type} (w : Windows) (trampolineAddr : UInt64) (cpu entered : Cpu ρ) : Prop where
  rax : entered.rax = trampolineAddr
  kept : entered.r11 = cpu.r11 ∧ entered.rsp = cpu.rsp ∧ entered.flags = cpu.flags ∧
    entered.others = cpu.others
  counts : load w.markerGatewayCount 4 entered.memory =
    if useMarkerGatewayVariant w then (load w.markerGatewayCount 4 cpu.memory + 1) % 2 ^ 32
    else load w.markerGatewayCount 4 cpu.memory
  memory : ∀ x, 4 ≤ (x - w.markerGatewayCount).toNat → 24 ≤ (x - (cpu.rsp - 24)).toNat →
    entered.memory x = cpu.memory x

section Processor

variable {ρ : Type} {isa : Isa ρ} {w : Windows}

def jumpBlock (isa : Isa ρ) (addr : UInt64) : List (Movable isa) :=
  [(Instruction.movRax addr).movable isa, Instruction.jmpRax.movable isa]

theorem layout_jumpBlock (addr : UInt64) : layout (jumpBlock isa addr) = emitMovRaxJmpRax addr := by
  simp [layout, jumpBlock, Instruction.movable, Instruction.bytes, emitMovRaxJmpRax]

/-- A jump runs whatever lies behind it. -/
theorem reaches_jump {code : Bytes} {a addr : UInt64} {behind : List UInt8}
    (holds : Holds code a (emitMovRaxJmpRax addr ++ behind)) (cpu : Cpu ρ) :
    isa.Reaches code (cpu, a) ({ cpu with rax := addr }, addr) :=
  @reaches_pass _ isa _ (jumpBlock isa addr) _ (layout_jumpBlock addr ▸ (holds_append.mp holds).1) cpu

def countBlock (isa : Isa ρ) (counterAddr : UInt64) : List (Movable isa) :=
  [Instruction.pushfq, .pushRax, .pushR11, .movR11 counterAddr, .incrementR11, .popR11, .popRax,
    .popfq].map (·.movable isa)

theorem layout_countBlock (counterAddr : UInt64) : layout (countBlock isa counterAddr) =
    [0x9C, 0x50, 0x41, 0x53, 0x49, 0xBB] ++ Wire.leBytes 8 counterAddr.toNat ++
      [0x41, 0x83, 0x03, 0x01, 0x41, 0x5B, 0x58, 0x9D] := by
  simp [layout, countBlock, Instruction.movable, Instruction.bytes]

/-- Three values on the stack, and a counter that lies elsewhere. -/
theorem saved_slots {counterAddr b : UInt64} (apart : Apart counterAddr 4 b 24) (x y z v : Nat)
    (m : Bytes) :
    let saved := store b 8 x (store (b + 8) 8 y (store (b + 16) 8 z m))
    load counterAddr 4 saved = load counterAddr 4 m ∧
    load b 8 (store counterAddr 4 v saved) = x % 256 ^ 8 ∧
    load (b + 8) 8 (store counterAddr 4 v saved) = y % 256 ^ 8 ∧
    load (b + 16) 8 (store counterAddr 4 v saved) = z % 256 ^ 8 := by
  have still : b + UInt64.ofNat 0 = b := UInt64.add_zero b
  have first : Apart counterAddr 4 b 8 := still ▸ apart.part (k := 0) (l := 8) (by decide)
  have second : Apart counterAddr 4 (b + 8) 8 := apart.part (k := 8) (by decide)
  have third : Apart counterAddr 4 (b + 16) 8 := apart.part (k := 16) (by decide)
  have low : Apart b 8 (b + 8) 8 := by
    have := Apart.offset (a := b) (k := 0) (n := 8) (l := 8) (m := 8) (by decide) (by decide)
    rw [still] at this
    exact this
  have far : Apart b 8 (b + 16) 8 := by
    have := Apart.offset (a := b) (k := 0) (n := 8) (l := 16) (m := 8) (by decide) (by decide)
    rw [still] at this
    exact this
  have high : Apart (b + 8) 8 (b + 16) 8 := Apart.offset (k := 8) (l := 16) (by decide) (by decide)
  refine ⟨?_, ?_, ?_, ?_⟩
  · rw [load_apart first.symm, load_apart second.symm, load_apart third.symm]
  · rw [load_apart first, load_store (by decide)]
  · rw [load_apart second, load_apart low, load_store (by decide)]
  · rw [load_apart third, load_apart far, load_apart high, load_store (by decide)]

/-- The processor behind `countBlock`. -/
def marked (counterAddr : UInt64) (cpu : Cpu ρ) : Cpu ρ :=
  { cpu with
    memory := store counterAddr 4 (load counterAddr 4 cpu.memory + 1)
      (store (cpu.rsp - 24) 8 cpu.r11.toNat (store (cpu.rsp - 24 + 8) 8 cpu.rax.toNat
        (store (cpu.rsp - 24 + 16) 8 cpu.flags.toNat cpu.memory))) }

theorem pass_countBlock {counterAddr : UInt64} {cpu : Cpu ρ}
    (apart : Apart counterAddr 4 (cpu.rsp - 24) 24) :
    X64.pass (countBlock isa counterAddr) cpu = (marked counterAddr cpu, none) := by
  obtain ⟨rax, r11, rsp, flags, others, memory⟩ := cpu
  change Apart counterAddr 4 (rsp - 24) 24 at apart
  have one : rsp - 8 = rsp - 24 + 16 := by grind
  have two : rsp - 24 + 16 - 8 = rsp - 24 + 8 := by grind
  have three : rsp - 24 + 8 - 8 = rsp - 24 := by grind
  have back : rsp - 24 + 8 + 8 = rsp - 24 + 16 := by grind
  have top : rsp - 24 + 16 + 8 = rsp := by grind
  have whole (value : UInt64) : UInt64.ofNat (value.toNat % 256 ^ 8) = value := by
    rw [Nat.mod_eq_of_lt (show value.toNat < 256 ^ 8 from value.toNat_lt), UInt64.ofNat_toNat]
  obtain ⟨counter, first, second, third⟩ := saved_slots apart r11.toNat rax.toNat flags.toNat
    (load counterAddr 4 memory + 1) memory
  simp only [countBlock, List.map_cons, List.map_nil, X64.pass, Instruction.movable, Instruction.effect,
    Cpu.push, Cpu.drop, Cpu.top, one, two, three, counter, first, second, third, back, top, whole,
    marked]

theorem Entered.of_marked {trampolineAddr gatewayAddr : UInt64} {cpu : Cpu ρ}
    (marker : useMarkerGatewayVariant w = true) :
    Entered w trampolineAddr cpu
      { marked w.markerGatewayCount { cpu with rax := gatewayAddr } with rax := trampolineAddr } := by
  refine ⟨rfl, ⟨rfl, rfl, rfl, rfl⟩, ?_, fun x elsewhere above => ?_⟩
  · rw [if_pos marker]
    exact load_store (by decide)
  · have higher (k : Nat) (few : k + 8 ≤ 24) :
        8 ≤ (x - (cpu.rsp - 24 + UInt64.ofNat k)).toNat := by
      have split : x - (cpu.rsp - 24 + UInt64.ofNat k) = x - (cpu.rsp - 24) - UInt64.ofNat k := by grind
      have value : (UInt64.ofNat k).toNat = k := UInt64.toNat_ofNat_of_lt' (show k < 2 ^ 64 by omega)
      rw [split, UInt64.toNat_sub_of_le _ _ (UInt64.le_iff_toNat_le.mpr (by omega)), value]
      omega
    calc store w.markerGatewayCount 4 _ _ x
        = _ := store_outside elsewhere
      _ = _ := store_outside (Nat.le_trans (by decide) above)
      _ = _ := store_outside (higher 8 (by decide))
      _ = cpu.memory x := store_outside (higher 16 (by decide))

/-- The gateway goes on to the trampoline. -/
theorem reaches_gateway {code : Bytes} {a trampolineAddr : UInt64} {cpu : Cpu ρ}
    (holds : Holds code a (gateway w trampolineAddr))
    (apart : Apart w.markerGatewayCount 4 (cpu.rsp - 24) 24) (rax : UInt64) :
    ∃ entered, Entered w trampolineAddr cpu entered ∧
      isa.Reaches code ({ cpu with rax }, a) (entered, trampolineAddr) := by
  rw [gateway] at holds
  split at holds
  · rename_i marker
    rw [markerGateway, ← @layout_countBlock _ isa, List.append_assoc] at holds
    obtain ⟨counts, jumps⟩ := holds_append.mp holds
    have run := reaches_pass counts { cpu with rax }
    rw [@pass_countBlock _ isa w.markerGatewayCount { cpu with rax } apart] at run
    exact ⟨_, .of_marked marker, run.trans (reaches_jump jumps _)⟩
  · rename_i direct
    refine ⟨{ cpu with rax := trampolineAddr }, ⟨rfl, ⟨rfl, rfl, rfl, rfl⟩, ?_, fun _ _ _ => rfl⟩,
      reaches_jump holds { cpu with rax }⟩
    rw [if_neg direct]

/-- The planned instructions as a block. -/
theorem Planned.block {bytes : List UInt8} {minJumpBytes cursor finish : Nat}
    {infos : List PatchPlanInstructionInfo} (planned : Planned bytes minJumpBytes cursor infos finish)
    (start : cursor ≤ bytes.length)
    (movable : ∀ before info after, infos = before ++ info :: after → ∃ i : Movable isa,
      i.bytes = (bytes.drop (cursor + (before.map (·.len)).sum)).take info.len) :
    ∃ block : List (Movable isa), layout block = (bytes.take finish).drop cursor := by
  induction planned with
  | done => exact ⟨[], by simp [layout]⟩
  | @next cursor info infos finish short accepted rest ih =>
      obtain ⟨_, inside, _⟩ := decodeInstructionX64_local accepted
      rw [List.length_drop] at inside
      obtain ⟨first, firstIs⟩ := movable [] info infos rfl
      obtain ⟨block, blockIs⟩ := ih (by omega) fun before info' after split => by
        obtain ⟨i, bytesIs⟩ := movable (info :: before) info' after (congrArg (info :: ·) split)
        rw [List.map_cons, List.sum_cons, ← Nat.add_assoc] at bytesIs
        exact ⟨i, bytesIs⟩
      have ends := rest.finish_eq
      refine ⟨first :: block, ?_⟩
      calc layout (first :: block)
          = first.bytes ++ layout block := by simp [layout]
        _ = ((bytes.drop cursor).take (finish - cursor)).take info.len ++
              ((bytes.drop cursor).take (finish - cursor)).drop info.len := by
            rw [firstIs, blockIs, List.take_take, Nat.min_eq_left (by omega), List.drop_take,
              List.drop_take, List.drop_drop, List.map_nil, List.sum_nil, Nat.add_zero,
              Nat.sub_add_eq]
        _ = (bytes.take finish).drop cursor := by rw [List.take_append_drop, List.drop_take]

theorem length_of_sized {code : List UInt8} {info : PatchPlanInstructionInfo}
    (accepted : decodeInstructionX64 code = some info) (sized : SizedAsIntel code) :
    X64.length code = some info.len := by
  obtain ⟨i, n, known, operands, _, rfl⟩ := decodeInstructionX64_eq_some accepted
  obtain ⟨valid, same⟩ := (sizedAsIntel_iff known).mp sized
  exact length_of_opcode rfl known valid ((X64.Opcode.operandLength_eq_some operands _).mpr same.symm)

/-- What a steady plan moves can be moved. -/
theorem Steady.block (free : isa.PositionFree) {captured : List UInt8} (steady : Steady captured)
    (sixteen : captured.length = 16)
    (supported : (computePatchPlanBoundary captured 12).decodeSupported = true)
    (safe : (computePatchPlanBoundary captured 12).relocationSafe = true) :
    ∃ block : List (Movable isa),
      layout block = captured.take (computePatchPlanBoundary captured 12).overwriteLen := by
  obtain ⟨infos, finish, planned, _, eq⟩ := computePatchPlanBoundary_supported supported
  have ends := planned.finish_eq
  have inside := planned.inside (Nat.zero_le _)
  have byte : ∀ info ∈ infos, (UInt8.ofNat info.len).toNat = info.len := by
    intro info member
    have := List.single_le_sum (by simp) _ (List.mem_map_of_mem (f := (·.len)) member)
    exact UInt8.toNat_ofNat_of_lt' (by show _ < 256; omega)
  rw [Steady, eq] at steady
  rw [eq] at safe ⊢
  refine planned.block (Nat.zero_le _) fun before info after split => ?_
  have accepted := planned.accepted split
  have member : info ∈ infos := split ▸ List.mem_append_right _ (List.mem_cons_self ..)
  have index : before.length < infos.length := by
    rw [split, List.length_append, List.length_cons]
    omega
  have offset : (((infos.map fun info => UInt8.ofNat info.len).take before.length).map
      UInt8.toNat).sum = (before.map (·.len)).sum := by
    rw [← List.map_take, split, List.take_left, List.map_map]
    refine congrArg List.sum (List.map_congr_left fun info among => byte info ?_)
    exact split ▸ List.mem_append_left _ among
  have here : (infos.map fun info => UInt8.ofNat info.len).getD before.length 0 =
      UInt8.ofNat info.len := by simp [split]
  obtain ⟨sized, short, plain⟩ := steady before.length index
  rw [offset] at sized plain
  rw [here, byte info member] at short
  rw [Nat.zero_add] at accepted ⊢
  have absolute := List.all_eq_true.mp safe info member
  rw [relocSafe_eq accepted, Bool.not_eq_true'] at absolute
  exact free.movable (length_of_sized accepted sized) (decodeInstructionX64_local accepted).2.1 short
    absolute plain

theorem patchBytes_length {n : Nat} (room : 12 ≤ n) (gatewayAddr : UInt64) :
    (patchBytes n gatewayAddr).length = n := by
  rw [patchBytes, List.length_append, emitMovRaxJmpRax_length, List.length_replicate]
  omega

theorem captured_holds (memory : Bytes) (a : UInt64) : Holds memory a (captured memory a) := by
  intro i _
  simp [captured]

/-- The patched function, the gateway and the trampoline do not overlap. -/
theorem Realized.holds {plan : CommonLibF4PlayerHookPatchRealizationPlan} {n : Nat}
    {trampolineAddr gatewayAddr : UInt64} {p after : HookProcess} (room : 12 ≤ n) (inside : n ≤ 16)
    (fresh : w.Fresh plan.targetAddr) (realized : Realized w plan n trampolineAddr gatewayAddr p after) :
    Holds after.memory plan.targetAddr (patchBytes n gatewayAddr) ∧
      Holds after.memory gatewayAddr (gateway w trampolineAddr) ∧
      Holds after.memory trampolineAddr (trampoline (captured p.memory plan.targetAddr) n
        (plan.targetAddr + UInt64.ofNat n)) := by
  obtain ⟨first, second⟩ := realized.blocks
  have patch := patchBytes_length room gatewayAddr
  have jump := @trampoline_length p.memory plan.targetAddr _ inside
    (plan.targetAddr + UInt64.ofNat n)
  have wide : (gateway w trampolineAddr).length ≤ 64 := by
    rw [gateway_length]
    split <;> omega
  rw [realized.memory]
  refine ⟨overwrite_holds (by rw [patch]; omega) _ _, ?_, ?_⟩
  · refine (overwrite_holds (by omega) _ _).overwrite ?_
    rw [patch]
    exact (fresh.gateway _ second).within inside wide
  · refine ((overwrite_holds (by rw [jump]; omega) _ _).overwrite ?_).overwrite ?_
    · rw [jump]
      exact (fresh.blocks _ first _ second).within wide (by omega)
    · rw [patch, jump]
      exact (fresh.trampoline _ first).within inside (by omega)

end Processor

/-- A process whose function at `0x1000` starts with `mov r11, 0` and `push r11`. -/
def r11Process : HookProcess where
  memory := overwrite 0x1000 ([0x49, 0xBB] ++ Wire.leBytes 8 0 ++ [0x41, 0x53]) fun _ => 0xCC
  allocations := []
  state := {}
  markerGatewayCount := 0
  manualTrampoline := 0

end F4MP.Client

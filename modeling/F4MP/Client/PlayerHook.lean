import F4MP.Service.ProfileJson

/-!
# The player hook

`commonlibf4_player_hook_attempt_stub.c` and what it decides by: the runtime profile, the detour site,
the address provider and the patch policy. An attempt says what `clf4_phpr_attempt` is called with, if
it is called; `realize` is what that call returns.
-/

namespace F4MP.Client
open Protocol Service

/-! ## Attempt results -/

inductive HookFamily
  | player | actor | workshop | dialogueQuest
  deriving DecidableEq

inductive HookInstallState
  | notAttempted | installed | failed | partly
  deriving DecidableEq

inductive HookInstallError
  | none | unsupportedRuntime | addressMissing | patchRejected | dependencyMissing | unknown
  deriving DecidableEq

inductive HookInstallBlocking
  | none | degradable | fatal
  deriving DecidableEq

structure HookAddressAttemptDetail where
  resolvedAddressCount : UInt32
  requiredAddressCount : UInt32
  patchStepAttempted : Bool
  patchStepSucceeded : Bool
  deriving DecidableEq

structure HookAttemptResult where
  family : HookFamily
  state : HookInstallState
  error : HookInstallError
  blocking : HookInstallBlocking
  attempted : Bool
  addressDetail : HookAddressAttemptDetail
  deriving DecidableEq

/-! ## Addresses -/

inductive CommonLibF4AddressKey
  | playerUpdate | playerInput | actorUpdate | actorDamage | workshopPlace | workshopScrap
  | dialogueObserver | questObserver
  deriving DecidableEq

/-- A provider may change its data `W` as it resolves. -/
structure CommonLibF4AddressProvider (W : Type) where
  resolve : Option (W → CommonLibF4AddressKey → UInt64 → Bool × UInt64 × W)
  userdata : W

variable {W : Type}

def clf4AddressProviderResolve (provider : CommonLibF4AddressProvider W)
    (key : CommonLibF4AddressKey) (addr : UInt64) : Bool × UInt64 × CommonLibF4AddressProvider W :=
  match provider.resolve with
  | none => (false, addr, provider)
  | some resolve =>
      let (resolved, addr, userdata) := resolve provider.userdata key addr
      (resolved, addr, { provider with userdata })

/-! ## Detour sites -/

structure F4SEInterfaceMock where
  runtimeVersion : UInt32
  isEditor : UInt32

structure CommonLibF4PlayerHookDetourSiteCandidateDescriptor where
  name : Option Text
  updateKey : CommonLibF4AddressKey
  inputKey : CommonLibF4AddressKey
  minimumRuntimeVersion : UInt32
  requireUpdateAddress : Bool
  requireInputAddress : Bool
  editorSupported : Bool

structure CommonLibF4PlayerHookDetourSiteCandidateResolution where
  descriptor : CommonLibF4PlayerHookDetourSiteCandidateDescriptor
  valid : Bool
  runtimeSupported : Bool
  updateResolved : Bool
  inputResolved : Bool
  updateAddr : UInt64
  inputAddr : UInt64

def clf4PhdscDefault : CommonLibF4PlayerHookDetourSiteCandidateDescriptor :=
  ⟨some (ascii "movement_playercharacter_before_input_path"), .playerUpdate, .playerInput,
    0x010B00BF, true, false, false⟩

/-- An address that a site requires is asked for; one that it does not require is taken as resolved. -/
def resolveRequired (required : Bool) (key : CommonLibF4AddressKey)
    (provider : Option (CommonLibF4AddressProvider W)) :
    Bool × UInt64 × Option (CommonLibF4AddressProvider W) :=
  match required, provider with
  | false, provider => (true, 0, provider)
  | true, none => (false, 0, none)
  | true, some provider =>
      let (resolved, addr, provider) := clf4AddressProviderResolve provider key 0
      (resolved, addr, some provider)

namespace CommonLibF4PlayerHookDetourSiteCandidateDescriptor
variable (site : CommonLibF4PlayerHookDetourSiteCandidateDescriptor)

/-- The site serves the runtime. -/
def serves : Option F4SEInterfaceMock → Bool
  | none => false
  | some f4se => (site.editorSupported || f4se.isEditor == 0) &&
      decide (site.minimumRuntimeVersion ≤ f4se.runtimeVersion)

def update (provider : Option (CommonLibF4AddressProvider W)) :
    Bool × UInt64 × Option (CommonLibF4AddressProvider W) :=
  resolveRequired site.requireUpdateAddress site.updateKey provider

/-- The provider is asked for the input address behind the update address. -/
def input (provider : Option (CommonLibF4AddressProvider W)) :
    Bool × UInt64 × Option (CommonLibF4AddressProvider W) :=
  resolveRequired site.requireInputAddress site.inputKey (site.update provider).2.2

end CommonLibF4PlayerHookDetourSiteCandidateDescriptor

def clf4PhdscResolve (descriptor : Option CommonLibF4PlayerHookDetourSiteCandidateDescriptor)
    (f4se : Option F4SEInterfaceMock) (provider : Option (CommonLibF4AddressProvider W)) :
    CommonLibF4PlayerHookDetourSiteCandidateResolution :=
  let effective := descriptor.getD clf4PhdscDefault
  if effective.name.isSome then
    { descriptor := effective
      valid := true
      runtimeSupported := effective.serves f4se
      updateResolved := (effective.update provider).1
      updateAddr := (effective.update provider).2.1
      inputResolved := (effective.input provider).1
      inputAddr := (effective.input provider).2.1 }
  else ⟨effective, false, false, false, false, 0, 0⟩

structure CommonLibF4PlayerHookDetourSitePrototype where
  name : Option Text
  updateSymbolName : Option Text
  inputSymbolName : Option Text
  updateKey : CommonLibF4AddressKey
  inputKey : CommonLibF4AddressKey
  minimumRuntimeVersion : UInt32
  requireUpdateAddress : Bool
  requireInputAddress : Bool
  editorSupported : Bool

def clf4PhdspDefault : CommonLibF4PlayerHookDetourSitePrototype :=
  ⟨some (ascii "movement_playercharacter_before_input_path"), some (ascii "PlayerCharacter::Update"),
    some (ascii "PlayerControls::Update"), .playerUpdate, .playerInput, 0x010B00BF, true, false, false⟩

def clf4PhdspDescriptor (prototypeSite : Option CommonLibF4PlayerHookDetourSitePrototype) :
    CommonLibF4PlayerHookDetourSiteCandidateDescriptor :=
  let effective := prototypeSite.getD clf4PhdspDefault
  ⟨effective.name, effective.updateKey, effective.inputKey, effective.minimumRuntimeVersion,
    effective.requireUpdateAddress, effective.requireInputAddress, effective.editorSupported⟩

/-- The candidate resolution of `clf4_phdsp_resolve` -/
def clf4PhdspResolve (prototypeSite : Option CommonLibF4PlayerHookDetourSitePrototype)
    (f4se : Option F4SEInterfaceMock) (provider : Option (CommonLibF4AddressProvider W)) :
    CommonLibF4PlayerHookDetourSiteCandidateResolution :=
  let effective := prototypeSite.getD clf4PhdspDefault
  clf4PhdscResolve (some (clf4PhdspDescriptor (some effective))) f4se provider

/-! ## Runtime profiles -/

def runtime110984 : UInt32 := 0x010A3D80
def runtime111191 : UInt32 := 0x010B0BF0
def runtime110984Legacy : UInt32 := 0x010A03D8
def runtime111191Legacy : UInt32 := 0x010B00BF

def runtimeMatches (observed canonical : UInt32) : Bool :=
  if canonical = runtime110984 then
    observed == runtime110984 || observed == runtime110984Legacy
  else if canonical = runtime111191 then
    observed == runtime111191 || observed == runtime111191Legacy
  else observed == canonical

structure CommonLibF4PlayerHookRuntimeProfile where
  name : Text
  prototypeName : Text
  requiredRuntimeVersion : UInt32
  exactRuntimeRequired : Bool
  editorSupported : Bool

def profileControls110984 : CommonLibF4PlayerHookRuntimeProfile :=
  ⟨ascii "fo4_1_10_984_movement_playercontrols_input_path",
    ascii "movement_playercontrols_input_path_rejected", runtime110984, true, false⟩

def profileControls111191 : CommonLibF4PlayerHookRuntimeProfile :=
  ⟨ascii "fo4_1_11_191_movement_playercontrols_input_path",
    ascii "movement_playercontrols_input_path_rejected", runtime111191, true, false⟩

def profileBeforeInput110984 : CommonLibF4PlayerHookRuntimeProfile :=
  ⟨ascii "fo4_1_10_984_playercharacter_update_before_input",
    ascii "movement_playercharacter_before_input_path", runtime110984, true, false⟩

def profileBeforeInput111191 : CommonLibF4PlayerHookRuntimeProfile :=
  ⟨ascii "fo4_1_11_191_playercharacter_update_before_input",
    ascii "movement_playercharacter_before_input_path", runtime111191, true, false⟩

def profileAfterInput110984 : CommonLibF4PlayerHookRuntimeProfile :=
  ⟨ascii "fo4_1_10_984_playercharacter_update_after_input",
    ascii "movement_playercharacter_after_input_path", runtime110984, true, false⟩

def profileAfterInput111191 : CommonLibF4PlayerHookRuntimeProfile :=
  ⟨ascii "fo4_1_11_191_playercharacter_update_after_input",
    ascii "movement_playercharacter_after_input_path", runtime111191, true, false⟩

def prototypeNameMatches (prototypeSite : CommonLibF4PlayerHookDetourSitePrototype)
    (name : String) : Bool := decide (prototypeSite.name = some (ascii name))

def selectProfile (prototypeSite : CommonLibF4PlayerHookDetourSitePrototype)
    (f4se : Option F4SEInterfaceMock) : CommonLibF4PlayerHookRuntimeProfile :=
  let beforeInput :=
    prototypeNameMatches prototypeSite "player_character_update_before_input_manual_entry" ||
      prototypeNameMatches prototypeSite "movement_playercharacter_before_input_path"
  let afterInput :=
    prototypeNameMatches prototypeSite "player_character_update_after_input_manual_entry" ||
      prototypeNameMatches prototypeSite "movement_playercharacter_after_input_path"
  let controls := prototypeNameMatches prototypeSite "player_controls_update_manual_entry" ||
    prototypeNameMatches prototypeSite "movement_playercontrols_input_path_rejected" ||
    prototypeNameMatches prototypeSite "movement_playercontrols_input_path"
  match f4se with
  | none => profileBeforeInput111191
  | some f4se =>
      if runtimeMatches f4se.runtimeVersion runtime111191 then
        if beforeInput then profileBeforeInput111191
        else if afterInput then profileAfterInput111191
        else if controls then profileControls111191
        else profileBeforeInput111191
      else if runtimeMatches f4se.runtimeVersion runtime110984 then
        if beforeInput then profileBeforeInput110984
        else if afterInput then profileAfterInput110984
        else if controls then profileControls110984
        else profileBeforeInput110984
      else profileBeforeInput111191

structure CommonLibF4PlayerHookRuntimeProfileResolution where
  profile : CommonLibF4PlayerHookRuntimeProfile
  observedRuntimeVersion : UInt32
  requiredRuntimeVersion : UInt32
  runtimeSupported : Bool
  buildSignatureSupported : Bool

def clf4PhrprofResolve (prototypeSite : Option CommonLibF4PlayerHookDetourSitePrototype)
    (f4se : Option F4SEInterfaceMock) : CommonLibF4PlayerHookRuntimeProfileResolution :=
  let profile := selectProfile (prototypeSite.getD clf4PhdspDefault) f4se
  match f4se with
  | none => ⟨profile, 0, profile.requiredRuntimeVersion, false, false⟩
  | some f4se =>
      let runtimeSupported := f4se.isEditor == 0
      { profile
        observedRuntimeVersion := f4se.runtimeVersion
        requiredRuntimeVersion := profile.requiredRuntimeVersion
        runtimeSupported
        buildSignatureSupported := runtimeSupported &&
          if profile.exactRuntimeRequired then
            runtimeMatches f4se.runtimeVersion profile.requiredRuntimeVersion
          else decide (profile.requiredRuntimeVersion ≤ f4se.runtimeVersion) }

/-! ## Patch policy -/

inductive CommonLibF4PlayerHookPatchPolicyMode
  | dryRunResolveOnly | armedInstall
  deriving DecidableEq

structure CommonLibF4PlayerHookPatchPolicy where
  name : Text
  mode : CommonLibF4PlayerHookPatchPolicyMode
  patchStepAllowed : Bool

def clf4PhppDefaultArmed : CommonLibF4PlayerHookPatchPolicy :=
  ⟨ascii "armed_install", .armedInstall, true⟩

def effectivePolicy (policy : Option CommonLibF4PlayerHookPatchPolicy) :
    CommonLibF4PlayerHookPatchPolicy := policy.getD clf4PhppDefaultArmed

def clf4PhppIsArmed (policy : CommonLibF4PlayerHookPatchPolicy) : Bool :=
  decide (policy.mode = .armedInstall)

def clf4PhppPatchStepAllowed (policy : CommonLibF4PlayerHookPatchPolicy)
    (callerPatchAllowed : Bool) : Bool :=
  if policy.mode = .dryRunResolveOnly then false else policy.patchStepAllowed && callerPatchAllowed

/-! ## The attempt -/

structure CommonLibF4PlayerHookPatchRealizationPlan where
  targetAddr : UInt64
  targetSymbol : Option Text
  detourDestinationAddr : UInt64
  detourDestinationLabel : Text

/-- Where the linker has put the two detours. -/
structure ManualDetours where
  phsCreatePlayerControlsManualDetourThunk : UInt64
  phsNoteManualDetourEntry : UInt64

def resolutionIsStub (resolution : CommonLibF4PlayerHookDetourSiteCandidateResolution) : Bool :=
  let maxAddr : UInt64 := 0
  let maxAddr := if resolution.updateResolved ∧ maxAddr < resolution.updateAddr then
    resolution.updateAddr else maxAddr
  let maxAddr := if resolution.inputResolved ∧ maxAddr < resolution.inputAddr then
    resolution.inputAddr else maxAddr
  if maxAddr = 0 then false else decide (maxAddr < 0x100000)

def installWithResolution (realize : CommonLibF4PlayerHookPatchRealizationPlan → Bool)
    (profileResolution : CommonLibF4PlayerHookRuntimeProfileResolution)
    (resolution : Option CommonLibF4PlayerHookDetourSiteCandidateResolution)
    (plan : CommonLibF4PlayerHookPatchRealizationPlan) (patchAllowed : Bool)
    (policy : Option CommonLibF4PlayerHookPatchPolicy) :
    HookAttemptResult × Option CommonLibF4PlayerHookPatchRealizationPlan :=
  let activePolicy := effectivePolicy policy
  let needUpdate := resolution.any (·.descriptor.requireUpdateAddress)
  let needInput := resolution.any (·.descriptor.requireInputAddress)
  let detail : HookAddressAttemptDetail := {
    resolvedAddressCount := (if needUpdate && resolution.any (·.updateResolved) then 1 else 0) +
      if needInput && resolution.any (·.inputResolved) then 1 else 0
    requiredAddressCount := (if needUpdate then 1 else 0) + if needInput then 1 else 0
    patchStepAttempted := false
    patchStepSucceeded := false }
  if !profileResolution.runtimeSupported || !profileResolution.buildSignatureSupported then
    (⟨.player, .failed, .unsupportedRuntime, .fatal, true, detail⟩, none)
  else
    match resolution with
    | none => (⟨.player, .failed, .unsupportedRuntime, .fatal, true, detail⟩, none)
    | some resolution =>
        if !resolution.valid || !resolution.runtimeSupported then
          (⟨.player, .failed, .unsupportedRuntime, .fatal, true, detail⟩, none)
        else if needUpdate && !resolution.updateResolved || needInput && !resolution.inputResolved then
          (⟨.player, .partly, .addressMissing, .fatal, true, detail⟩, none)
        else if resolutionIsStub resolution then
          (⟨.player, .failed, .addressMissing, .fatal, true, detail⟩, none)
        else if !clf4PhppIsArmed activePolicy then
          (⟨.player, .partly, .none, .degradable, true, detail⟩, none)
        else
          let detail := { detail with patchStepAttempted := true }
          if !clf4PhppPatchStepAllowed activePolicy patchAllowed then
            (⟨.player, .failed, .patchRejected, .fatal, true, detail⟩, none)
          else if !realize plan then
            (⟨.player, .failed, .patchRejected, .fatal, true, detail⟩, some plan)
          else
            (⟨.player, .installed, .none, .none, true, { detail with patchStepSucceeded := true }⟩,
              some plan)

def patchTargetAddrForPrototype (prototypeSite : Option CommonLibF4PlayerHookDetourSitePrototype)
    (resolution : CommonLibF4PlayerHookDetourSiteCandidateResolution) : UInt64 :=
  if (prototypeSite.getD clf4PhdspDefault).requireUpdateAddress then resolution.updateAddr
  else resolution.inputAddr

def patchTargetSymbolForPrototype
    (prototypeSite : Option CommonLibF4PlayerHookDetourSitePrototype) : Option Text :=
  let effective := prototypeSite.getD clf4PhdspDefault
  if effective.requireUpdateAddress then effective.updateSymbolName else effective.inputSymbolName

def patchTargetAddrForDescriptor
    (descriptor : Option CommonLibF4PlayerHookDetourSiteCandidateDescriptor)
    (resolution : CommonLibF4PlayerHookDetourSiteCandidateResolution) : UInt64 :=
  if (descriptor.getD clf4PhdscDefault).requireUpdateAddress then resolution.updateAddr
  else resolution.inputAddr

def patchTargetSymbolForDescriptor
    (descriptor : Option CommonLibF4PlayerHookDetourSiteCandidateDescriptor) : Option Text :=
  if (descriptor.getD clf4PhdscDefault).requireUpdateAddress then
    some (ascii "PlayerCharacter::Update")
  else some (ascii "PlayerControls::Update")

/-- The plan for a target: its detour is chosen by the symbol. -/
def patchPlan (detours : ManualDetours) (targetAddr : UInt64) (targetSymbol : Option Text) :
    CommonLibF4PlayerHookPatchRealizationPlan :=
  if targetSymbol = some (ascii "CreatePlayerControlHandlers") then
    ⟨targetAddr, targetSymbol, detours.phsCreatePlayerControlsManualDetourThunk,
      ascii "phs_create_player_controls_manual_detour_thunk"⟩
  else
    ⟨targetAddr, targetSymbol, detours.phsNoteManualDetourEntry,
      ascii "phs_note_manual_detour_entry"⟩

def clf4AttemptInstallPlayerHookWithPrototype
    (realize : CommonLibF4PlayerHookPatchRealizationPlan → Bool) (detours : ManualDetours)
    (f4se : Option F4SEInterfaceMock) (provider : Option (CommonLibF4AddressProvider W))
    (prototypeSite : Option CommonLibF4PlayerHookDetourSitePrototype) (patchAllowed : Bool)
    (policy : Option CommonLibF4PlayerHookPatchPolicy) :
    HookAttemptResult × Option CommonLibF4PlayerHookPatchRealizationPlan :=
  let profileResolution := clf4PhrprofResolve prototypeSite f4se
  if !profileResolution.runtimeSupported || !profileResolution.buildSignatureSupported then
    installWithResolution realize profileResolution none (patchPlan detours 0 none) patchAllowed policy
  else
    let resolution := clf4PhdspResolve prototypeSite f4se provider
    installWithResolution realize profileResolution (some resolution)
      (patchPlan detours (patchTargetAddrForPrototype prototypeSite resolution)
        (patchTargetSymbolForPrototype prototypeSite)) patchAllowed policy

def clf4AttemptInstallPlayerHookWithCandidateDescriptor
    (realize : CommonLibF4PlayerHookPatchRealizationPlan → Bool) (detours : ManualDetours)
    (f4se : Option F4SEInterfaceMock) (provider : Option (CommonLibF4AddressProvider W))
    (descriptor : Option CommonLibF4PlayerHookDetourSiteCandidateDescriptor) (patchAllowed : Bool)
    (policy : Option CommonLibF4PlayerHookPatchPolicy) :
    HookAttemptResult × Option CommonLibF4PlayerHookPatchRealizationPlan :=
  let profileResolution := clf4PhrprofResolve (some clf4PhdspDefault) f4se
  if !profileResolution.runtimeSupported || !profileResolution.buildSignatureSupported then
    installWithResolution realize profileResolution none (patchPlan detours 0 none) patchAllowed policy
  else
    let resolution := clf4PhdscResolve descriptor f4se provider
    installWithResolution realize profileResolution (some resolution)
      (patchPlan detours (patchTargetAddrForDescriptor descriptor resolution)
        (patchTargetSymbolForDescriptor descriptor)) patchAllowed policy

/-! ## When a patch is attempted -/

/-- What an attempt works on: the site, the runtime and its profile, the provider, the policy and the
permission of the caller. -/
structure HookInputs (W : Type) where
  site : CommonLibF4PlayerHookDetourSiteCandidateDescriptor
  profile : CommonLibF4PlayerHookRuntimeProfileResolution
  f4se : Option F4SEInterfaceMock
  provider : Option (CommonLibF4AddressProvider W)
  patchAllowed : Bool
  policy : Option CommonLibF4PlayerHookPatchPolicy

namespace HookInputs

def ofPrototype (f4se : Option F4SEInterfaceMock) (provider : Option (CommonLibF4AddressProvider W))
    (prototypeSite : Option CommonLibF4PlayerHookDetourSitePrototype) (patchAllowed : Bool)
    (policy : Option CommonLibF4PlayerHookPatchPolicy) : HookInputs W where
  site := clf4PhdspDescriptor prototypeSite
  profile := clf4PhrprofResolve prototypeSite f4se
  f4se := f4se
  provider := provider
  patchAllowed := patchAllowed
  policy := policy

def ofDescriptor (f4se : Option F4SEInterfaceMock) (provider : Option (CommonLibF4AddressProvider W))
    (descriptor : Option CommonLibF4PlayerHookDetourSiteCandidateDescriptor) (patchAllowed : Bool)
    (policy : Option CommonLibF4PlayerHookPatchPolicy) : HookInputs W where
  site := descriptor.getD clf4PhdscDefault
  profile := clf4PhrprofResolve (some clf4PhdspDefault) f4se
  f4se := f4se
  provider := provider
  patchAllowed := patchAllowed
  policy := policy

variable (i : HookInputs W)

def updateAddr : UInt64 := (i.site.update i.provider).2.1

def inputAddr : UInt64 := (i.site.input i.provider).2.1

/-- The address that the site is patched at. -/
def target : UInt64 := if i.site.requireUpdateAddress then i.updateAddr else i.inputAddr

/-- Nothing but the addresses themselves speaks against the patch. -/
structure Cleared : Prop where
  runtime : i.profile.runtimeSupported = true
  signature : i.profile.buildSignatureSupported = true
  named : i.site.name.isSome = true
  serves : i.site.serves i.f4se = true
  update : (i.site.update i.provider).1 = true
  input : (i.site.input i.provider).1 = true
  armed : clf4PhppIsArmed (effectivePolicy i.policy) = true
  permitted : clf4PhppPatchStepAllowed (effectivePolicy i.policy) i.patchAllowed = true

/-- One address is a real one, or there is none. -/
def Passes : Prop :=
  i.updateAddr = 0 ∧ i.inputAddr = 0 ∨ 0x100000 ≤ i.updateAddr ∨ 0x100000 ≤ i.inputAddr

/-- The site is patched at a placeholder, or at no address, behind the back of the stub check. -/
def Misjudged : Prop := i.target < 0x100000 ∧ i.Passes

/-- What a plan has to meet before it is realized. -/
structure Safe (plan : CommonLibF4PlayerHookPatchRealizationPlan) : Prop where
  resolved :
    i.site.requireUpdateAddress = true ∧ (i.site.update i.provider).1 = true ∧
        plan.targetAddr = i.updateAddr ∨
      i.site.requireInputAddress = true ∧ (i.site.input i.provider).1 = true ∧
        plan.targetAddr = i.inputAddr
  real : 0x100000 ≤ plan.targetAddr
  armed : clf4PhppIsArmed (effectivePolicy i.policy) = true
  permitted : clf4PhppPatchStepAllowed (effectivePolicy i.policy) i.patchAllowed = true
  allowed : i.patchAllowed = true
  runtime : i.profile.runtimeSupported = true
  signature : i.profile.buildSignatureSupported = true

end HookInputs

theorem resolutionIsStub_iff {resolution : CommonLibF4PlayerHookDetourSiteCandidateResolution}
    (update : resolution.updateResolved = true) (input : resolution.inputResolved = true) :
    resolutionIsStub resolution = false ↔
      resolution.updateAddr = 0 ∧ resolution.inputAddr = 0 ∨
        0x100000 ≤ resolution.updateAddr ∨ 0x100000 ≤ resolution.inputAddr := by
  have zero : (0 : UInt64).toNat = 0 := rfl
  have bound : (0x100000 : UInt64).toNat = 0x100000 := rfl
  simp only [resolutionIsStub, update, input, true_and, UInt64.lt_iff_toNat_lt,
    UInt64.le_iff_toNat_le, ← UInt64.toNat_inj]
  split_ifs <;> simp only [decide_eq_false_iff_not, true_iff] <;> omega

theorem installWithResolution_attempts
    (realize : CommonLibF4PlayerHookPatchRealizationPlan → Bool)
    (profileResolution : CommonLibF4PlayerHookRuntimeProfileResolution)
    (resolution : CommonLibF4PlayerHookDetourSiteCandidateResolution)
    (plan : CommonLibF4PlayerHookPatchRealizationPlan) (patchAllowed : Bool)
    (policy : Option CommonLibF4PlayerHookPatchPolicy) :
    (installWithResolution realize profileResolution (some resolution) plan patchAllowed policy).2 =
      if profileResolution.runtimeSupported ∧ profileResolution.buildSignatureSupported ∧
          resolution.valid ∧ resolution.runtimeSupported ∧
          (resolution.descriptor.requireUpdateAddress → resolution.updateResolved) ∧
          (resolution.descriptor.requireInputAddress → resolution.inputResolved) ∧
          resolutionIsStub resolution = false ∧ clf4PhppIsArmed (effectivePolicy policy) ∧
          clf4PhppPatchStepAllowed (effectivePolicy policy) patchAllowed then some plan
      else none := by
  simp only [installWithResolution, Option.any_some]
  repeat' split
  all_goals simp_all

theorem resolveRequired_unrequired (key : CommonLibF4AddressKey)
    (provider : Option (CommonLibF4AddressProvider W)) :
    resolveRequired false key provider = (true, 0, provider) := by
  cases provider <;> rfl

namespace HookInputs
variable {i : HookInputs W}

theorem update_needed : (i.site.requireUpdateAddress = true → (i.site.update i.provider).1 = true) ↔
    (i.site.update i.provider).1 = true := by
  refine ⟨fun needed => ?_, fun resolved _ => resolved⟩
  cases required : i.site.requireUpdateAddress with
  | true => exact needed required
  | false =>
      rw [CommonLibF4PlayerHookDetourSiteCandidateDescriptor.update, required,
        resolveRequired_unrequired]

theorem input_unrequired (unrequired : i.site.requireInputAddress = false) :
    (i.site.input i.provider).1 = true ∧ i.inputAddr = 0 := by
  rw [inputAddr, CommonLibF4PlayerHookDetourSiteCandidateDescriptor.input, unrequired,
    resolveRequired_unrequired]
  exact ⟨rfl, rfl⟩

theorem input_needed : (i.site.requireInputAddress = true → (i.site.input i.provider).1 = true) ↔
    (i.site.input i.provider).1 = true := by
  refine ⟨fun needed => ?_, fun resolved _ => resolved⟩
  cases required : i.site.requireInputAddress with
  | true => exact needed required
  | false => exact (input_unrequired required).1

/-- A plan for the site is tried exactly if everything is cleared and the addresses pass. -/
theorem attempts_iff (i : HookInputs W) {realize : CommonLibF4PlayerHookPatchRealizationPlan → Bool}
    {plan tried : CommonLibF4PlayerHookPatchRealizationPlan} :
    (installWithResolution realize i.profile
        (some (clf4PhdscResolve (some i.site) i.f4se i.provider)) plan i.patchAllowed i.policy).2 =
      some tried ↔ i.Cleared ∧ i.Passes ∧ plan = tried := by
  rw [installWithResolution_attempts]
  simp only [clf4PhdscResolve, Option.getD_some]
  by_cases named : i.site.name.isSome = true
  · rw [if_pos named]
    simp only [true_and, update_needed, input_needed]
    have stub (update : (i.site.update i.provider).1 = true)
        (input : (i.site.input i.provider).1 = true) :=
      @resolutionIsStub_iff ⟨i.site, true, i.site.serves i.f4se, (i.site.update i.provider).1,
        (i.site.input i.provider).1, i.updateAddr, i.inputAddr⟩ update input
    constructor
    · intro attempted
      split at attempted
      · rename_i gates
        obtain ⟨runtime, signature, serves, update, input, real, armed, permitted⟩ := gates
        exact ⟨⟨runtime, signature, named, serves, update, input, armed, permitted⟩,
          (stub update input).mp real, Option.some.inj attempted⟩
      · cases attempted
    · rintro ⟨⟨runtime, signature, _, serves, update, input, armed, permitted⟩, passes, rfl⟩
      exact if_pos ⟨runtime, signature, serves, update, input, (stub update input).mpr passes, armed,
        permitted⟩
  · rw [if_neg named]
    constructor
    · intro attempted
      rw [if_neg (by simp)] at attempted
      cases attempted
    · exact fun tried => absurd tried.1.named named

theorem resolved_target (i : HookInputs W) (named : i.site.name.isSome = true) :
    (if i.site.requireUpdateAddress then
        (clf4PhdscResolve (some i.site) i.f4se i.provider).updateAddr
      else (clf4PhdscResolve (some i.site) i.f4se i.provider).inputAddr) = i.target := by
  simp only [clf4PhdscResolve, Option.getD_some, if_pos named]
  rfl

theorem permitted_allowed {policy : CommonLibF4PlayerHookPatchPolicy} {patchAllowed : Bool}
    (permitted : clf4PhppPatchStepAllowed policy patchAllowed = true) : patchAllowed = true := by
  rw [clf4PhppPatchStepAllowed] at permitted
  split at permitted
  · cases permitted
  · exact (Bool.and_eq_true_iff.mp permitted).2

/-- A site that is cleared is patched at a real address exactly if it is not misjudged. -/
theorem safe_iff {plan : CommonLibF4PlayerHookPatchRealizationPlan} (cleared : i.Cleared)
    (aims : plan.targetAddr = i.target) : i.Safe plan ↔ 0x100000 ≤ i.target := by
  refine ⟨fun safe => aims ▸ safe.real, fun real => ?_⟩
  refine ⟨?_, aims ▸ real, cleared.armed, cleared.permitted, permitted_allowed cleared.permitted,
    cleared.runtime, cleared.signature⟩
  rw [aims]
  rw [target] at real ⊢
  cases update : i.site.requireUpdateAddress with
  | true => exact .inl ⟨rfl, cleared.update, rfl⟩
  | false =>
      rw [update] at real
      cases input : i.site.requireInputAddress with
      | true => exact .inr ⟨rfl, cleared.input, rfl⟩
      | false =>
          rw [if_neg Bool.false_ne_true, (input_unrequired input).2] at real
          exact absurd real (by decide)

theorem safeAttempts_iff {attempted : Option CommonLibF4PlayerHookPatchRealizationPlan}
    {plan : CommonLibF4PlayerHookPatchRealizationPlan}
    (aims : i.Cleared → plan.targetAddr = i.target)
    (attempts : ∀ tried, attempted = some tried ↔ i.Cleared ∧ i.Passes ∧ plan = tried) :
    (∀ tried, attempted = some tried → i.Safe tried) ↔ ¬(i.Cleared ∧ i.Misjudged) := by
  constructor
  · rintro safe ⟨cleared, low, passes⟩
    have tried := (attempts plan).mpr ⟨cleared, passes, rfl⟩
    have real := (safe_iff cleared (aims cleared)).mp (safe plan tried)
    exact UInt64.not_lt.mpr real low
  · intro judged tried tries
    obtain ⟨cleared, passes, rfl⟩ := (attempts tried).mp tries
    refine (safe_iff cleared (aims cleared)).mpr (UInt64.not_lt.mp fun low => ?_)
    exact judged ⟨cleared, low, passes⟩

end HookInputs

theorem patchPlan_target (detours : ManualDetours) (targetAddr : UInt64)
    (targetSymbol : Option Text) :
    (patchPlan detours targetAddr targetSymbol).targetAddr = targetAddr := by
  rw [patchPlan]
  split <;> rfl

theorem supported_attempts (i : HookInputs W)
    {realize : CommonLibF4PlayerHookPatchRealizationPlan → Bool}
    {early plan tried : CommonLibF4PlayerHookPatchRealizationPlan} :
    (if !i.profile.runtimeSupported || !i.profile.buildSignatureSupported then
        installWithResolution realize i.profile none early i.patchAllowed i.policy
      else installWithResolution realize i.profile
        (some (clf4PhdscResolve (some i.site) i.f4se i.provider)) plan i.patchAllowed i.policy).2 =
      some tried ↔ i.Cleared ∧ i.Passes ∧ plan = tried := by
  split
  · rename_i unsupported
    have nothing : (installWithResolution realize i.profile none early i.patchAllowed i.policy).2 =
        none := by
      simp only [installWithResolution, if_pos unsupported]
    rw [nothing]
    refine iff_of_false (fun attempted => by cases attempted) fun tried => ?_
    rw [tried.1.runtime, tried.1.signature] at unsupported
    cases unsupported
  · exact i.attempts_iff

/-- What an attempt hands to `clf4_phpr_attempt` is safe, exactly unless everything is cleared for a
site that the stub check misjudges. -/
theorem clf4AttemptInstallPlayerHook_safe_iff
    (realize : CommonLibF4PlayerHookPatchRealizationPlan → Bool) (detours : ManualDetours)
    (f4se : Option F4SEInterfaceMock) (provider : Option (CommonLibF4AddressProvider W))
    (patchAllowed : Bool) (policy : Option CommonLibF4PlayerHookPatchPolicy) :
    (∀ prototypeSite,
      let i := HookInputs.ofPrototype f4se provider prototypeSite patchAllowed policy
      (∀ plan, (clf4AttemptInstallPlayerHookWithPrototype realize detours f4se provider prototypeSite
          patchAllowed policy).2 = some plan → i.Safe plan) ↔ ¬(i.Cleared ∧ i.Misjudged)) ∧
    ∀ descriptor,
      let i := HookInputs.ofDescriptor f4se provider descriptor patchAllowed policy
      (∀ plan, (clf4AttemptInstallPlayerHookWithCandidateDescriptor realize detours f4se provider
          descriptor patchAllowed policy).2 = some plan → i.Safe plan) ↔
        ¬(i.Cleared ∧ i.Misjudged) := by
  refine ⟨fun prototypeSite => ?_, fun descriptor => ?_⟩
  · intro i
    refine HookInputs.safeAttempts_iff (fun cleared => ?_) fun tried => supported_attempts i
    rw [patchPlan_target]
    exact i.resolved_target cleared.named
  · intro i
    refine HookInputs.safeAttempts_iff (fun cleared => ?_) fun tried => supported_attempts i
    rw [patchPlan_target]
    exact i.resolved_target cleared.named

/-- The update address is a placeholder, the input address a real one. -/
theorem clf4AttemptInstallPlayerHook_placeholder :
    let f4se : F4SEInterfaceMock := ⟨0x010B00BF, 0⟩
    let resolve (_ : Unit) (key : CommonLibF4AddressKey) (_ : UInt64) : Bool × UInt64 × Unit :=
      (true, if key = .playerUpdate then 0x1000 else 0x140001000, ())
    let site := { clf4PhdspDefault with requireInputAddress := true }
    ¬∀ plan, (clf4AttemptInstallPlayerHookWithPrototype (fun _ => true) ⟨0x140002000, 0x140003000⟩
        (some f4se) (some ⟨some resolve, ()⟩) (some site) true none).2 = some plan →
      (HookInputs.ofPrototype (some f4se) (some ⟨some resolve, ()⟩) (some site) true none).Safe
        plan := by
  intro f4se resolve site safe
  have tried : (clf4AttemptInstallPlayerHookWithPrototype (fun _ => true)
      ⟨0x140002000, 0x140003000⟩ (some f4se) (some ⟨some resolve, ()⟩) (some site) true none).2 =
      some ⟨0x1000, some (ascii "PlayerCharacter::Update"), 0x140003000,
        ascii "phs_note_manual_detour_entry"⟩ := by rfl
  exact absurd (safe _ tried).real (by decide)

end F4MP.Client

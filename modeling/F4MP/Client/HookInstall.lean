import F4MP.Client.HookDiscovery
import F4MP.Client.PatchRealization
import F4MP.Client.LocalPlayer

/-!
# The installation of the player hook

`commonlibf4_player_hook_install_candidate.c` with the modules it sets up: discovery, the attempt that
patches the function of the game, and then the callback and the provider behind it.
-/

namespace F4MP.Client
open SoftFloat CFloat Protocol Service Transition X64

variable {F W : Type}

/-! ## Static states -/

inductive CommonLibF4PlayerHookDispatchKind
  | none | syntheticValidation | realHook
  deriving DecidableEq

structure CommonLibF4PlayerHookRuntimeProbeConfig where
  expectedLocalPlayerId : PlayerId := 0
  requireUpdateAddress : Bool := false
  requireInputAddress : Bool := false
  requireCallbackAfterInstall : Bool := false

/-- `lastSample` is `last_sample` once there is one. -/
structure CommonLibF4PlayerHookRuntimeProbeState (F : Type) where
  config : CommonLibF4PlayerHookRuntimeProbeConfig := {}
  configured : Bool := false
  installAttempted : Bool := false
  installReady : Bool := false
  callbackReady : Bool := false
  hookCorrect : Bool := false
  resolvedUpdateAddr : UInt64 := 0
  resolvedInputAddr : UInt64 := 0
  sitePrototypeName : Option Text := none
  updateSymbolName : Option Text := none
  inputSymbolName : Option Text := none
  runtimeProfileName : Option Text := none
  observedRuntimeVersion : UInt32 := 0
  requiredRuntimeVersion : UInt32 := 0
  runtimeProfileSupported : Bool := false
  siteCandidateName : Option Text := none
  siteCandidateValid : Bool := false
  siteCandidateRuntimeSupported : Bool := false
  siteCandidateUpdateResolved : Bool := false
  siteCandidateInputResolved : Bool := false
  patchPolicyName : Option Text := none
  dryRunResolveOnly : Bool := false
  armedInstall : Bool := false
  patchStepAttempted : Bool := false
  installState : HookInstallState := .notAttempted
  installError : HookInstallError := .none
  callbackCount : UInt32 := 0
  rejectedCallbackCount : UInt32 := 0
  mismatchedPlayerCount : UInt32 := 0
  lastSeenPlayerId : PlayerId := 0
  lastObservedTick : UInt32 := 0
  lastRejectReason : CommonLibF4PlayerLiveRejectReason := .none
  lastSample : Option (CommonLibF4PlayerLiveSample F) := none

structure CommonLibF4LocalPlayerProbeProviderConfig where
  expectedLocalPlayerId : PlayerId := 0
  requireHookCorrect : Bool := false

/-- `lastState` is `last_state` if `has_state`. -/
structure CommonLibF4LocalPlayerProbeProviderState (F : Type) where
  config : CommonLibF4LocalPlayerProbeProviderConfig := {}
  installed : Bool := false
  captureCount : UInt32 := 0
  staleCaptureCount : UInt32 := 0
  blockedCaptureCount : UInt32 := 0
  lastCallbackCount : UInt32 := 0
  lastState : Option (FlaggedState F) := none

/-- `lastState` is `last_state` if `has_state`. -/
structure CommonLibF4PlayerHookSourceCandidateAdapterState (F : Type) where
  config : CommonLibF4LocalPlayerProbeProviderConfig := {}
  installed : Bool := false
  callbackRegistered : Bool := false
  callbackForwardCount : UInt32 := 0
  callbackAcceptCount : UInt32 := 0
  callbackRejectCount : UInt32 := 0
  realCallbackForwardCount : UInt32 := 0
  realCallbackAcceptCount : UInt32 := 0
  realCallbackRejectCount : UInt32 := 0
  lastProbeCallbackCount : UInt32 := 0
  lastState : Option (FlaggedState F) := none
  lastDispatchKind : CommonLibF4PlayerHookDispatchKind := .none

/-- The one callback that is ever registered is the adapter's. -/
structure CommonLibF4PlayerHookCallbackStubStats (F : Type) where
  registeredCallback : Bool := false
  registerCount : UInt32 := 0
  emitCount : UInt32 := 0
  syntheticEmitCount : UInt32 := 0
  realEmitCount : UInt32 := 0
  callbackSuccessCount : UInt32 := 0
  callbackFailureCount : UInt32 := 0
  realCallbackSuccessCount : UInt32 := 0
  realCallbackFailureCount : UInt32 := 0
  lastDispatchKind : CommonLibF4PlayerHookDispatchKind := .none
  lastArgs : Option (CommonLibF4PlayerHookArgs F) := none

structure CommonLibF4PlayerHookInstallCandidateConfig where
  expectedLocalPlayerId : PlayerId
  requireHookCorrect : Bool
  patchAllowed : Bool
  requireUpdateAddress : Bool
  requireInputAddress : Bool
  requireCallbackAfterInstall : Bool
  patchPolicy : Option CommonLibF4PlayerHookPatchPolicy
  sitePrototype : Option CommonLibF4PlayerHookDetourSitePrototype
  siteCandidate : Option CommonLibF4PlayerHookDetourSiteCandidateDescriptor

structure CommonLibF4PlayerHookInstallCandidateState where
  config : Option CommonLibF4PlayerHookInstallCandidateConfig := none
  configured : Bool := false
  installAttempted : Bool := false
  installReady : Bool := false
  adapterInstalled : Bool := false
  pathReady : Bool := false
  discoveryReport : Option PlayerHookDiscoveryReport := none
  configuredResolution : Option CommonLibF4PlayerHookDetourSiteCandidateResolution := none

/-- The process of the plugin, as far as the hook reaches; `provided` says that `g_provider` captures
through the probe. -/
structure HookPath (F : Type) where
  patch : HookProcess
  registry : HookFamily → HookInstallState × HookInstallError
  provider : LiveProvider F
  observer : LocalPlayerObserver F
  provided : Bool := false
  probe : CommonLibF4PlayerHookRuntimeProbeState F := {}
  probeProvider : CommonLibF4LocalPlayerProbeProviderState F := {}
  adapter : CommonLibF4PlayerHookSourceCandidateAdapterState F := {}
  stub : CommonLibF4PlayerHookCallbackStubStats F := {}
  candidate : CommonLibF4PlayerHookInstallCandidateState := {}

/-! ## The probe -/

def refreshHookCorrectness (probe : CommonLibF4PlayerHookRuntimeProbeState F) :
    CommonLibF4PlayerHookRuntimeProbeState F :=
  let addressesReady :=
    (!probe.config.requireUpdateAddress || probe.resolvedUpdateAddr != 0) &&
      (!probe.config.requireInputAddress || probe.resolvedInputAddr != 0)
  let callbacksReady :=
    !probe.config.requireCallbackAfterInstall || decide (0 < probe.callbackCount)
  let playerReady := probe.mismatchedPlayerCount == 0
  { probe with
    callbackReady := callbacksReady
    hookCorrect := probe.installReady && probe.runtimeProfileSupported && addressesReady &&
      callbacksReady && playerReady }

/-- `clf4_pla_reset` -/
def HookPath.plaReset (fallbackPlayerId : PlayerId) (p : HookPath F) : HookPath F :=
  { p with provider := { p.provider with adapter := { fallbackPlayerId } } }

def clf4PhrpReset (p : HookPath F) : HookPath F :=
  ({ p with probe := {}, registry := fun _ => (.notAttempted, .none) } : HookPath F).plaReset 0

def clf4PhrpConfigure (config : Option CommonLibF4PlayerHookRuntimeProbeConfig) (p : HookPath F) :
    HookPath F :=
  let effective := config.getD ⟨0, true, true, true⟩
  let p := ({ p with probe := { p.probe with config := effective, configured := true } } :
    HookPath F).plaReset effective.expectedLocalPlayerId
  { p with probe := refreshHookCorrectness p.probe }

/-- What an installation meets: the game, the provider of addresses, the configuration it is called
with, where the linker has put the detours, and Windows. -/
structure HookWorld (W : Type) where
  f4se : Option F4SEInterfaceMock
  provider : Option (DescribingProvider W)
  config : Option CommonLibF4PlayerHookInstallCandidateConfig
  executable : UInt64 → Bool
  detours : ManualDetours
  windows : Windows

/-- The provider after a site has been resolved with it. -/
def resolvedProvider (site : Option CommonLibF4PlayerHookDetourSitePrototype)
    (provider : Option (DescribingProvider W)) : Option (DescribingProvider W) :=
  let descriptor := clf4PhdspDescriptor site
  let asked := (descriptor.input (provider.map (·.toCommonLibF4AddressProvider))).2.2
  match provider, asked with
  | some provider, some asked =>
      if descriptor.name.isSome then some { provider with userdata := asked.userdata }
      else some provider
  | provider, _ => provider

/-- What `clf4_phrp_install_with_prototype` notes before the attempt. -/
def CommonLibF4PlayerHookRuntimeProbeState.noteSite (w : HookWorld W)
    (provider : Option (DescribingProvider W))
    (site : Option CommonLibF4PlayerHookDetourSitePrototype) (policy : CommonLibF4PlayerHookPatchPolicy)
    (probe : CommonLibF4PlayerHookRuntimeProbeState F) : CommonLibF4PlayerHookRuntimeProbeState F :=
  let effective := site.getD clf4PhdspDefault
  let profile := clf4PhrprofResolve site w.f4se
  let resolution :=
    clf4PhdspResolve site w.f4se (provider.map (·.toCommonLibF4AddressProvider))
  let probe := { probe with
    installAttempted := true
    installReady := false
    resolvedUpdateAddr := 0
    resolvedInputAddr := 0
    sitePrototypeName := effective.name
    updateSymbolName := effective.updateSymbolName
    inputSymbolName := effective.inputSymbolName
    runtimeProfileName := some profile.profile.name
    observedRuntimeVersion := profile.observedRuntimeVersion
    requiredRuntimeVersion := profile.requiredRuntimeVersion
    runtimeProfileSupported := profile.buildSignatureSupported
    siteCandidateName := effective.name
    siteCandidateValid := false
    siteCandidateRuntimeSupported := false
    siteCandidateUpdateResolved := false
    siteCandidateInputResolved := false
    patchPolicyName := some policy.name
    dryRunResolveOnly := decide (policy.mode = .dryRunResolveOnly)
    armedInstall := clf4PhppIsArmed policy
    patchStepAttempted := false }
  if profile.buildSignatureSupported then { probe with
    siteCandidateValid := resolution.valid
    siteCandidateRuntimeSupported := resolution.runtimeSupported
    siteCandidateUpdateResolved := resolution.updateResolved
    siteCandidateInputResolved := resolution.inputResolved
    resolvedUpdateAddr := resolution.updateAddr
    resolvedInputAddr := resolution.inputAddr }
  else probe

def clf4PhrpInstallWithPrototype (w : HookWorld W) (provider : Option (DescribingProvider W))
    (site : Option CommonLibF4PlayerHookDetourSitePrototype) (patchAllowed : Bool)
    (policy : Option CommonLibF4PlayerHookPatchPolicy) (p : HookPath F) : Bool × HookPath F :=
  let activePolicy := effectivePolicy policy
  let p := if p.probe.configured then p else clf4PhrpConfigure (some ⟨0, true, true, true⟩) p
  let probe := p.probe.noteSite w provider site activePolicy
  let provider :=
    if (clf4PhrprofResolve site w.f4se).buildSignatureSupported then resolvedProvider site provider
    else provider
  let (result, tried) := clf4AttemptInstallPlayerHookWithPrototype
    (fun plan => (clf4PhprAttempt w.windows (some plan) p.patch).1) w.detours w.f4se
    (provider.map (·.toCommonLibF4AddressProvider)) site patchAllowed (some activePolicy)
  let installReady := decide (result.state = .installed)
  (installReady, { p with
    patch := match tried with
      | none => p.patch
      | some plan => (clf4PhprAttempt w.windows (some plan) p.patch).2
    registry := Function.update p.registry .player (result.state, result.error)
    probe := refreshHookCorrectness { probe with
      installState := result.state
      installError := result.error
      installReady
      patchStepAttempted := result.addressDetail.patchStepAttempted } })

/-! ## The installation -/

def clf4PhscaInstall (config : CommonLibF4LocalPlayerProbeProviderConfig) (p : HookPath F) :
    HookPath F :=
  { p with
    probeProvider := { config, installed := true }
    provided := true
    stub := { p.stub with
      registeredCallback := true
      registerCount := p.stub.registerCount + 1
      lastDispatchKind := .none }
    adapter := { config, callbackRegistered := true, installed := true } }

def clf4PhscaUninstall (p : HookPath F) : HookPath F :=
  { p with
    stub := { p.stub with registeredCallback := false, lastDispatchKind := .none }
    provided := false
    probeProvider := {}
    adapter := {} }

def clf4PhicReset (p : HookPath F) : HookPath F :=
  let p := clf4PhrpReset (clf4PhscaUninstall p)
  { p with patch := clf4PhprReset p.patch, candidate := {} }

def clf4PhicUninstall (p : HookPath F) : HookPath F :=
  { clf4PhscaUninstall p with candidate := {} }

/-- `default_config` -/
def installDefaultConfig : CommonLibF4PlayerHookInstallCandidateConfig where
  expectedLocalPlayerId := 0
  requireHookCorrect := true
  patchAllowed := true
  requireUpdateAddress := true
  requireInputAddress := false
  requireCallbackAfterInstall := true
  patchPolicy := some clf4PhppDefaultArmed
  sitePrototype := some clf4PhdspDefault
  siteCandidate := some (clf4PhdspDescriptor (some clf4PhdspDefault))

/-- The configuration that an installation works with. -/
def HookWorld.active (w : HookWorld W) : CommonLibF4PlayerHookInstallCandidateConfig :=
  match w.config with
  | none => installDefaultConfig
  | some config =>
      let site := config.sitePrototype.getD clf4PhdspDefault
      { config with
        patchPolicy := some (config.patchPolicy.getD clf4PhppDefaultArmed)
        sitePrototype := some site
        siteCandidate := some (config.siteCandidate.getD (clf4PhdspDescriptor (some site))) }

def clf4PhicInstallWithProvider (w : HookWorld W) (p : HookPath F) : Bool × HookPath F :=
  let p := clf4PhicReset p
  let config := w.active
  let (_, report, provider) := phdRunPlayerDiscovery w.executable w.f4se w.provider
  let resolution := clf4PhdspResolve config.sitePrototype w.f4se
    (provider.map (·.toCommonLibF4AddressProvider))
  let provider := resolvedProvider config.sitePrototype provider
  let p := { p with candidate := { p.candidate with
    config := some config
    configured := true
    discoveryReport := some report
    configuredResolution := some resolution } }
  if report.recommendedAction = .rejectStubProvider ∨
      report.recommendedAction = .unsupportedRuntime ∨ report.selectedCandidateId = .invalid then
    (false, p)
  else
    let p := clf4PhrpConfigure (some ⟨config.expectedLocalPlayerId, config.requireUpdateAddress,
      config.requireInputAddress, config.requireCallbackAfterInstall⟩) p
    let (installReady, p) := clf4PhrpInstallWithPrototype w provider config.sitePrototype
      config.patchAllowed config.patchPolicy p
    let p := { p with candidate := { p.candidate with installAttempted := true, installReady } }
    if !installReady then (false, p)
    else
      let p := clf4PhscaInstall ⟨config.expectedLocalPlayerId, config.requireHookCorrect⟩ p
      let pathReady := installReady && p.adapter.installed && p.stub.registeredCallback
      (pathReady,
        { p with candidate := { p.candidate with adapterInstalled := p.adapter.installed, pathReady } })

/-! ## When an installation succeeds -/

/-- Exactly what `clf4_phpr_attempt` needs of a plan. -/
theorem clf4PhprAttempt_iff (w : Windows) (plan : CommonLibF4PlayerHookPatchRealizationPlan)
    (p : HookProcess) : (clf4PhprAttempt w (some plan) p).1 = true ↔
      plan.targetAddr ≠ 0 ∧ plan.detourDestinationAddr ≠ 0 ∧
      isSupportedDetourLabel plan.detourDestinationLabel = true ∧
      (computePatchPlanBoundary (captured p.memory plan.targetAddr) 12).decodeSupported = true ∧
      (computePatchPlanBoundary (captured p.memory plan.targetAddr) 12).relocationSafe = true ∧
      w.allocatesTrampoline.isSome = true ∧ w.allocatesGateway.isSome = true ∧ w.protects = true := by
  have room : (computePatchPlanBoundary (captured p.memory plan.targetAddr) 12).decodeSupported =
      true → ¬ (computePatchPlanBoundary (captured p.memory plan.targetAddr) 12).overwriteLen < 12 := by
    intro supported
    obtain ⟨_, n, plans, _, eq⟩ := computePatchPlanBoundary_supported supported
    rw [eq]
    exact Nat.not_lt.mpr plans.room
  have same : captured (clf4PhprReset p).memory plan.targetAddr = captured p.memory plan.targetAddr :=
    rfl
  simp only [clf4PhprAttempt, same]
  generalize computePatchPlanBoundary (captured p.memory plan.targetAddr) 12 = planner at room ⊢
  by_cases target : plan.targetAddr = 0
  · simp [target, HookProcess.fail]
  by_cases detour : plan.detourDestinationAddr = 0
  · simp [target, detour, HookProcess.fail]
  cases label : isSupportedDetourLabel plan.detourDestinationLabel with
  | false => simp [target, detour, HookProcess.fail]
  | true =>
      cases supported : planner.decodeSupported with
      | false => simp [target, detour, HookProcess.fail]
      | true =>
          cases movable : planner.relocationSafe with
          | false => simp [target, detour, HookProcess.fail]
          | true =>
              have long := room supported
              rw [realizePatch]
              cases w.allocatesTrampoline with
              | none => simp [target, detour, long, HookProcess.fail]
              | some =>
                  cases w.allocatesGateway with
                  | none => simp [target, detour, long, HookProcess.fail]
                  | some =>
                      cases w.protects <;> simp [target, detour, long, HookProcess.fail]

/-- The detour of a plan is one that can be realized only for one symbol. -/
theorem patchPlan_supported (detours : ManualDetours) (targetAddr : UInt64) (symbol : Option Text) :
    isSupportedDetourLabel (patchPlan detours targetAddr symbol).detourDestinationLabel = true ↔
      symbol = some (ascii "CreatePlayerControlHandlers") := by
  rw [patchPlan]
  split
  · rename_i same
    exact iff_of_true (show isSupportedDetourLabel (ascii _) = true by decide +kernel) same
  · rename_i different
    exact iff_of_false (show ¬ isSupportedDetourLabel (ascii _) = true by decide +kernel) different

theorem installWithResolution_installed
    (realize : CommonLibF4PlayerHookPatchRealizationPlan → Bool)
    (profile : CommonLibF4PlayerHookRuntimeProfileResolution)
    (resolution : Option CommonLibF4PlayerHookDetourSiteCandidateResolution)
    (plan : CommonLibF4PlayerHookPatchRealizationPlan) (patchAllowed : Bool)
    (policy : Option CommonLibF4PlayerHookPatchPolicy) :
    (installWithResolution realize profile resolution plan patchAllowed policy).1.state = .installed ↔
      ∃ tried, (installWithResolution realize profile resolution plan patchAllowed policy).2 =
        some tried ∧ realize tried = true := by
  have untried : ∀ {result : HookAttemptResult × Option CommonLibF4PlayerHookPatchRealizationPlan},
      result.1.state ≠ .installed → result.2 = none →
        (result.1.state = .installed ↔ ∃ tried, result.2 = some tried ∧ realize tried = true) := by
    rintro result other none
    refine iff_of_false other ?_
    rintro ⟨tried, some, -⟩
    cases none.symm.trans some
  unfold installWithResolution
  dsimp only
  split
  · exact untried nofun rfl
  cases resolution with
  | none => exact untried nofun rfl
  | some resolution =>
      dsimp only
      split
      · exact untried nofun rfl
      split
      · exact untried nofun rfl
      split
      · exact untried nofun rfl
      split
      · exact untried nofun rfl
      split
      · exact untried nofun rfl
      cases realized : realize plan <;> simp [realized]

section Installs
variable (w : HookWorld W)

/-- The provider behind the discovery. -/
def HookWorld.discovered : Option (DescribingProvider W) :=
  (phdRunPlayerDiscovery w.executable w.f4se w.provider).2.2

/-- The site as the probe has it resolved. -/
def HookWorld.resolution : CommonLibF4PlayerHookDetourSiteCandidateResolution :=
  clf4PhdspResolve w.active.sitePrototype w.f4se
    ((resolvedProvider w.active.sitePrototype w.discovered).map (·.toCommonLibF4AddressProvider))

/-- What the attempt works on, behind the discovery and two resolutions of the site. -/
def HookWorld.inputs : HookInputs W :=
  let site := w.active.sitePrototype
  let provider := resolvedProvider site (resolvedProvider site w.discovered)
  .ofPrototype w.f4se (provider.map (·.toCommonLibF4AddressProvider)) site w.active.patchAllowed
    (some (effectivePolicy w.active.patchPolicy))

def HookWorld.plan : CommonLibF4PlayerHookPatchRealizationPlan :=
  patchPlan w.detours w.inputs.target (patchTargetSymbolForPrototype w.active.sitePrototype)

/-- Everything that an installation needs. -/
structure HookWorld.Installs (memory : Bytes) : Prop where
  runtime : sliceRuntimeIsAe w.f4se = true
  offered : Offers w.executable w.provider .playerUpdate ∨
    OffersNext w.executable w.provider w.f4se
  cleared : w.inputs.Cleared
  passes : w.inputs.Passes
  target : w.inputs.target ≠ 0
  symbol : patchTargetSymbolForPrototype w.active.sitePrototype =
    some (ascii "CreatePlayerControlHandlers")
  detour : w.detours.phsCreatePlayerControlsManualDetourThunk ≠ 0
  decoded : (computePatchPlanBoundary (captured memory w.inputs.target) 12).decodeSupported = true
  movable : (computePatchPlanBoundary (captured memory w.inputs.target) 12).relocationSafe = true
  allocates : w.windows.allocatesTrampoline.isSome = true ∧ w.windows.allocatesGateway.isSome = true
  protects : w.windows.protects = true

theorem discovery_gate :
    let found := phdRunPlayerDiscovery w.executable w.f4se w.provider
    (found.2.1.recommendedAction = .rejectStubProvider ∨
      found.2.1.recommendedAction = .unsupportedRuntime ∨ found.2.1.selectedCandidateId = .invalid) ↔
        found.1 = false := by
  obtain ⟨-, success, failure⟩ := @phdRunPlayerDiscovery_selects W w.executable w.f4se w.provider
  intro found
  cases isFound : found.1 with
  | false => exact iff_of_true (.inr (.inr (failure isFound))) rfl
  | true =>
      obtain ⟨action, selected⟩ := success isFound
      refine iff_of_false ?_ (by decide)
      rw [action]
      rintro (gate | gate | gate)
      · cases gate
      · cases gate
      · rcases selected with ⟨_, selected⟩ | ⟨_, selected⟩ <;> cases selected.symm.trans gate

/-- The attempt of an installation, on this process. -/
def HookWorld.attempt (patch : HookProcess) :
    HookAttemptResult × Option CommonLibF4PlayerHookPatchRealizationPlan :=
  let site := w.active.sitePrototype
  let provider := resolvedProvider site w.discovered
  let provider :=
    if (clf4PhrprofResolve site w.f4se).buildSignatureSupported then resolvedProvider site provider
    else provider
  clf4AttemptInstallPlayerHookWithPrototype
    (fun plan => (clf4PhprAttempt w.windows (some plan) patch).1) w.detours w.f4se
    (provider.map (·.toCommonLibF4AddressProvider)) site w.active.patchAllowed
    (some (effectivePolicy w.active.patchPolicy))

theorem HookWorld.attempt_tries {patch : HookProcess}
    {tried : CommonLibF4PlayerHookPatchRealizationPlan} :
    (w.attempt patch).2 = some tried ↔ w.inputs.Cleared ∧ w.inputs.Passes ∧ w.plan = tried := by
  cases signed : (clf4PhrprofResolve w.active.sitePrototype w.f4se).buildSignatureSupported with
  | false =>
      refine iff_of_false (fun tries => ?_) fun tries => ?_
      · simp only [attempt, clf4AttemptInstallPlayerHookWithPrototype, signed, Bool.not_false,
          Bool.or_true, if_true, installWithResolution] at tries
        cases tries
      · cases signed.symm.trans tries.1.signature
  | true =>
      simp only [attempt, signed, if_true]
      refine (supported_attempts w.inputs).trans ⟨fun tries => ?_, fun tries => ?_⟩
      · obtain ⟨cleared, passes, rfl⟩ := tries
        refine ⟨cleared, passes, ?_⟩
        rw [plan, ← w.inputs.resolved_target cleared.named]
        rfl
      · obtain ⟨cleared, passes, rfl⟩ := tries
        refine ⟨cleared, passes, ?_⟩
        rw [plan, ← w.inputs.resolved_target cleared.named]
        rfl

theorem HookWorld.attempt_installed (patch : HookProcess) :
    (w.attempt patch).1.state = .installed ↔ w.inputs.Cleared ∧ w.inputs.Passes ∧
      (clf4PhprAttempt w.windows (some w.plan) patch).1 = true := by
  have installed : (w.attempt patch).1.state = .installed ↔ ∃ tried, (w.attempt patch).2 =
      some tried ∧ (clf4PhprAttempt w.windows (some tried) patch).1 = true := by
    simp only [attempt, clf4AttemptInstallPlayerHookWithPrototype]
    split <;> exact installWithResolution_installed ..
  rw [installed]
  constructor
  · rintro ⟨tried, tries, realized⟩
    obtain ⟨cleared, passes, rfl⟩ := w.attempt_tries.mp tries
    exact ⟨cleared, passes, realized⟩
  · rintro ⟨cleared, passes, realized⟩
    exact ⟨w.plan, w.attempt_tries.mpr ⟨cleared, passes, rfl⟩, realized⟩

/-- The plan of an installation is realized exactly if its symbol is the one that has a detour, the
function can be moved, and Windows goes along. -/
theorem HookWorld.plan_realized (p : HookProcess) :
    (clf4PhprAttempt w.windows (some w.plan) p).1 = true ↔
      w.inputs.target ≠ 0 ∧
      patchTargetSymbolForPrototype w.active.sitePrototype =
        some (ascii "CreatePlayerControlHandlers") ∧
      w.detours.phsCreatePlayerControlsManualDetourThunk ≠ 0 ∧
      (computePatchPlanBoundary (captured p.memory w.inputs.target) 12).decodeSupported = true ∧
      (computePatchPlanBoundary (captured p.memory w.inputs.target) 12).relocationSafe = true ∧
      (w.windows.allocatesTrampoline.isSome = true ∧ w.windows.allocatesGateway.isSome = true) ∧
      w.windows.protects = true := by
  rw [clf4PhprAttempt_iff, plan, patchPlan_target, patchPlan_supported]
  constructor
  · rintro ⟨target, detour, symbol, decoded, movable, first, second, protects⟩
    rw [patchPlan, if_pos symbol] at detour
    exact ⟨target, symbol, detour, decoded, movable, ⟨first, second⟩, protects⟩
  · rintro ⟨target, symbol, detour, decoded, movable, ⟨first, second⟩, protects⟩
    refine ⟨target, ?_, symbol, decoded, movable, first, second, protects⟩
    rw [patchPlan, if_pos symbol]
    exact detour

end Installs

/-! ## What an installation leaves -/

/-- Of an installation that fails nothing is left that hooks anything. -/
structure Declined (w : HookWorld W) (p after : HookPath F) : Prop where
  ready : after.candidate.pathReady = false
  registered : after.stub.registeredCallback = false
  provided : after.provided = false
  live : after.provider.live = p.provider.live
  observer : after.observer = p.observer
  memory : ∀ x, w.windows.Outside x → after.patch.memory x = p.patch.memory x
  allocations : after.patch.allocations = p.patch.allocations

/-- An installation that succeeds has patched the function and waits for its first callback. -/
structure Installed (w : HookWorld W) (p after : HookPath F) : Prop where
  ready : after.candidate.pathReady = true
  registered : after.stub.registeredCallback = true
  provided : after.provided = true
  live : after.provider.live = p.provider.live
  observer : after.observer = p.observer
  patched : ∃ n trampolineAddr gatewayAddr, 12 ≤ n ∧ n ≤ 16 ∧
    Realized w.windows w.plan n trampolineAddr gatewayAddr p.patch after.patch
  adapter : after.adapter = {
    config := ⟨w.active.expectedLocalPlayerId, w.active.requireHookCorrect⟩
    callbackRegistered := true
    installed := true }
  probeProvider : after.probeProvider = {
    config := ⟨w.active.expectedLocalPlayerId, w.active.requireHookCorrect⟩, installed := true }
  fallback : after.provider.adapter = { fallbackPlayerId := w.active.expectedLocalPlayerId }
  probe : ∃ probe : CommonLibF4PlayerHookRuntimeProbeState F,
    after.probe = refreshHookCorrectness probe ∧
    probe.config = ⟨w.active.expectedLocalPlayerId, w.active.requireUpdateAddress,
      w.active.requireInputAddress, w.active.requireCallbackAfterInstall⟩ ∧
    probe.installReady = true ∧ probe.runtimeProfileSupported = true ∧
    probe.resolvedUpdateAddr = w.resolution.updateAddr ∧
    probe.resolvedInputAddr = w.resolution.inputAddr ∧
    probe.callbackCount = 0 ∧ probe.mismatchedPlayerCount = 0 ∧ probe.lastSample = none

section Outcome
variable (w : HookWorld W) (p : HookPath F)

/-- What the attempt makes of the process. -/
def HookWorld.patchAfter (patch : HookProcess) : HookProcess :=
  match (w.attempt patch).2 with
  | none => patch
  | some plan => (clf4PhprAttempt w.windows (some plan) patch).2

theorem HookWorld.patchAfter_refused (patch : HookProcess)
    (failed : (w.attempt patch).1.state ≠ .installed) :
    (∀ x, w.windows.Outside x → (w.patchAfter patch).memory x = patch.memory x) ∧
      (w.patchAfter patch).allocations = patch.allocations := by
  rw [patchAfter]
  cases tried : (w.attempt patch).2 with
  | none => exact ⟨fun _ _ => rfl, rfl⟩
  | some plan =>
      obtain ⟨cleared, passes, rfl⟩ := w.attempt_tries.mp tried
      rcases clf4PhprAttempt_atomic w.windows (some w.plan) patch with ⟨-, refused⟩ | done
      · exact ⟨refused.memory, refused.allocations⟩
      · obtain ⟨_, _, _, _, _, _, _, realized, _⟩ := done
        exact absurd ((w.attempt_installed patch).mpr ⟨cleared, passes, realized⟩) failed

theorem HookWorld.patchAfter_realized (patch : HookProcess)
    (installed : (w.attempt patch).1.state = .installed) :
    ∃ n trampolineAddr gatewayAddr, 12 ≤ n ∧ n ≤ 16 ∧
      Realized w.windows w.plan n trampolineAddr gatewayAddr patch (w.patchAfter patch) := by
  obtain ⟨cleared, passes, success⟩ := (w.attempt_installed patch).mp installed
  rw [patchAfter, w.attempt_tries.mpr ⟨cleared, passes, rfl⟩]
  rcases clf4PhprAttempt_atomic w.windows (some w.plan) patch with ⟨failure, -⟩ | done
  · cases success.symm.trans failure
  · obtain ⟨target, trampolineAddr, gatewayAddr, n, same, long, short, -, realized⟩ := done
    cases same
    exact ⟨n, trampolineAddr, gatewayAddr, long, short, realized⟩

/-- The probe before its attempt is read off. -/
def HookWorld.probed (probe : CommonLibF4PlayerHookRuntimeProbeState F) :
    CommonLibF4PlayerHookRuntimeProbeState F :=
  probe.noteSite w (resolvedProvider w.active.sitePrototype w.discovered) w.active.sitePrototype
    (effectivePolicy w.active.patchPolicy)

theorem clf4PhrpInstallWithPrototype_eq (configured : p.probe.configured = true) :
    clf4PhrpInstallWithPrototype w (resolvedProvider w.active.sitePrototype w.discovered)
      w.active.sitePrototype w.active.patchAllowed w.active.patchPolicy p =
    (decide ((w.attempt p.patch).1.state = .installed), { p with
      patch := w.patchAfter p.patch
      registry := Function.update p.registry .player
        ((w.attempt p.patch).1.state, (w.attempt p.patch).1.error)
      probe := refreshHookCorrectness { w.probed p.probe with
        installState := (w.attempt p.patch).1.state
        installError := (w.attempt p.patch).1.error
        installReady := decide ((w.attempt p.patch).1.state = .installed)
        patchStepAttempted := (w.attempt p.patch).1.addressDetail.patchStepAttempted } }) := by
  unfold clf4PhrpInstallWithPrototype
  rw [if_pos configured]
  rfl

theorem noteSite_eq (provider : Option (DescribingProvider W))
    (site : Option CommonLibF4PlayerHookDetourSitePrototype) (policy : CommonLibF4PlayerHookPatchPolicy)
    (probe : CommonLibF4PlayerHookRuntimeProbeState F)
    (signed : (clf4PhrprofResolve site w.f4se).buildSignatureSupported = true) :
    let noted := probe.noteSite w provider site policy
    let resolution :=
      clf4PhdspResolve site w.f4se (provider.map (·.toCommonLibF4AddressProvider))
    noted.config = probe.config ∧ noted.runtimeProfileSupported = true ∧
      noted.resolvedUpdateAddr = resolution.updateAddr ∧
      noted.resolvedInputAddr = resolution.inputAddr ∧ noted.callbackCount = probe.callbackCount ∧
      noted.mismatchedPlayerCount = probe.mismatchedPlayerCount ∧
      noted.lastSample = probe.lastSample := by
  unfold CommonLibF4PlayerHookRuntimeProbeState.noteSite
  dsimp only
  rw [if_pos signed]
  exact ⟨rfl, signed, rfl, rfl, rfl, rfl, rfl⟩

/-- An installation is a discovery that finds a place, and then an attempt that installs. -/
theorem clf4PhicInstallWithProvider_cases :
    let found := (phdRunPlayerDiscovery w.executable w.f4se w.provider).1
    let state := (w.attempt (clf4PhprReset p.patch)).1.state
    let installation := clf4PhicInstallWithProvider w p
    ((found = true ∧ state = .installed) ∧ installation.1 = true ∧ Installed w p installation.2) ∨
      (¬ (found = true ∧ state = .installed) ∧ installation.1 = false ∧
        Declined w p installation.2) := by
  have gate := discovery_gate w
  unfold clf4PhicInstallWithProvider
  dsimp only at gate ⊢
  split
  · rename_i closed
    have nothing := gate.mp closed
    refine .inr ⟨fun both => ?_, rfl, rfl, rfl, rfl, rfl, rfl, fun _ _ => rfl, rfl⟩
    cases nothing.symm.trans both.1
  · rename_i opened
    have found : (phdRunPlayerDiscovery w.executable w.f4se w.provider).1 = true :=
      Bool.eq_true_of_not_eq_false fun nothing => opened (gate.mpr nothing)
    have realized := w.patchAfter_realized (clf4PhprReset p.patch)
    have refused := w.patchAfter_refused (clf4PhprReset p.patch)
    rw [← HookWorld.discovered, clf4PhrpInstallWithPrototype_eq w _ rfl]
    by_cases installed : (w.attempt (clf4PhprReset p.patch)).1.state = .installed
    · have cleared := ((w.attempt_installed _).mp installed).1
      obtain ⟨config, supported, update, input, counted, mismatched, sampled⟩ := noteSite_eq w
        (resolvedProvider w.active.sitePrototype w.discovered) w.active.sitePrototype
        (effectivePolicy w.active.patchPolicy) (refreshHookCorrectness {
          config := ⟨w.active.expectedLocalPlayerId, w.active.requireUpdateAddress,
            w.active.requireInputAddress, w.active.requireCallbackAfterInstall⟩
          configured := true } : CommonLibF4PlayerHookRuntimeProbeState F) cleared.signature
      obtain ⟨n, trampolineAddr, gatewayAddr, long, short, r⟩ := realized installed
      have patched : Realized w.windows w.plan n trampolineAddr gatewayAddr p.patch
          (w.patchAfter (clf4PhprReset p.patch)) :=
        ⟨r.planned, r.supported, r.movable, r.blocks, r.memory, r.allocations, r.hooked, r.realized⟩
      simp only [HookPath.plaReset, clf4PhicReset, clf4PhrpReset, clf4PhscaUninstall,
        clf4PhrpConfigure, installed, decide_true, Bool.not_true, Bool.false_eq_true, if_false]
      exact .inl ⟨⟨found, trivial⟩, rfl, rfl, rfl, rfl, rfl, rfl,
        ⟨n, trampolineAddr, gatewayAddr, long, short, patched⟩, rfl, rfl, rfl, _, rfl, config, rfl,
        supported, update, input, counted, mismatched, sampled⟩
    · simp only [HookPath.plaReset, clf4PhicReset, clf4PhrpReset, clf4PhscaUninstall,
        clf4PhrpConfigure, installed, decide_false, Bool.not_false, if_true]
      refine .inr ⟨fun both => ?_, trivial, rfl, rfl, rfl, rfl, rfl, (refused installed).1,
        (refused installed).2⟩
      exact both.2

/-- An installation succeeds exactly if it has everything it needs, and is all or nothing. -/
theorem clf4PhicInstallWithProvider_exact :
    let installation := clf4PhicInstallWithProvider w p
    (installation.1 = true ↔ w.Installs p.patch.memory) ∧
    (installation.1 = true → Installed w p installation.2) ∧
    (installation.1 = false → Declined w p installation.2) := by
  have selects := (@phdRunPlayerDiscovery_selects W w.executable w.f4se w.provider).1
  have needs : (phdRunPlayerDiscovery w.executable w.f4se w.provider).1 = true ∧
      (w.attempt (clf4PhprReset p.patch)).1.state = .installed ↔ w.Installs p.patch.memory := by
    rw [selects, w.attempt_installed, w.plan_realized]
    constructor
    · rintro ⟨⟨runtime, offered⟩, cleared, passes, target, symbol, detour, decoded, movable,
        allocates, protects⟩
      exact ⟨runtime, offered, cleared, passes, target, symbol, detour, decoded, movable, allocates,
        protects⟩
    · rintro ⟨runtime, offered, cleared, passes, target, symbol, detour, decoded, movable, allocates,
        protects⟩
      exact ⟨⟨runtime, offered⟩, cleared, passes, target, symbol, detour, decoded, movable,
        allocates, protects⟩
  rcases clf4PhicInstallWithProvider_cases w p with ⟨both, done, installed⟩ | ⟨missing, failed, declined⟩
  · refine ⟨iff_of_true done (needs.mp both), fun _ => installed, fun failed => ?_⟩
    cases done.symm.trans failed
  · refine ⟨iff_of_false (fun done => ?_) fun installs => missing (needs.mpr installs), fun done => ?_,
      fun _ => declined⟩
    · cases failed.symm.trans done
    · cases failed.symm.trans done

/-- Without a configuration the default site is patched, whose symbol has no detour that could be
realized. -/
theorem not_installs_default (memory : Bytes) (plain : w.config = none) : ¬ w.Installs memory := by
  intro installs
  have symbol := installs.symbol
  rw [HookWorld.active, plain] at symbol
  exact absurd symbol (by decide +kernel)

end Outcome

end F4MP.Client

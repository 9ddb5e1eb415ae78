import F4MP.Client.PlayerHook

/-!
# Discovery of the player hook

`player_hook_discovery.c` over the providers of `commonlibf4_address_provider.c`: four places for the
hook are assessed, and the best of those that can be armed is selected.
-/

namespace F4MP.Client
open Protocol Service

variable {W : Type}

/-! ## Descriptions of addresses -/

inductive CommonLibF4AddressSource
  | unresolved | stub | addressLibrary | patternScan | manualOffset | trustedProfile | unknown
  deriving DecidableEq

structure CommonLibF4AddressResolutionInfo where
  resolved : Bool := false
  addr : UInt64 := 0
  source : CommonLibF4AddressSource := .unresolved
  executableMemoryValid : Bool := false

/-- A provider with the `describe` that it may have. -/
structure DescribingProvider (W : Type) extends CommonLibF4AddressProvider W where
  describe : Option (W → CommonLibF4AddressKey → CommonLibF4AddressResolutionInfo →
    Bool × CommonLibF4AddressResolutionInfo × W)

/-- `clf4_address_provider_describe`; `executable` is what
`clf4_address_provider_is_executable_address` finds. -/
def clf4AddressProviderDescribe (executable : UInt64 → Bool) (provider : DescribingProvider W)
    (key : CommonLibF4AddressKey) :
    Bool × CommonLibF4AddressResolutionInfo × DescribingProvider W :=
  match provider.describe with
  | some describe =>
      let (described, info, userdata) := describe provider.userdata key {}
      (described, info, { provider with userdata })
  | none =>
      let (resolved, addr, after) :=
        clf4AddressProviderResolve provider.toCommonLibF4AddressProvider key 0
      let provider := { provider with userdata := after.userdata }
      if resolved then (true, ⟨true, addr, .unknown, executable addr⟩, provider)
      else (false, {}, provider)

/-! ## The two providers -/

structure FixedAddressProviderData where
  playerUpdateAvailable : Bool
  playerInputAvailable : Bool
  actorUpdateAvailable : Bool
  actorDamageAvailable : Bool
  workshopPlaceAvailable : Bool
  workshopScrapAvailable : Bool
  dialogueObserverAvailable : Bool
  questObserverAvailable : Bool

def FixedAddressProviderData.available (data : FixedAddressProviderData) :
    CommonLibF4AddressKey → Bool × UInt64
  | .playerUpdate => (data.playerUpdateAvailable, 0x1000)
  | .playerInput => (data.playerInputAvailable, 0x2000)
  | .actorUpdate => (data.actorUpdateAvailable, 0x3000)
  | .actorDamage => (data.actorDamageAvailable, 0x4000)
  | .workshopPlace => (data.workshopPlaceAvailable, 0x5000)
  | .workshopScrap => (data.workshopScrapAvailable, 0x6000)
  | .dialogueObserver => (data.dialogueObserverAvailable, 0x7000)
  | .questObserver => (data.questObserverAvailable, 0x8000)

def fixedResolve (data : FixedAddressProviderData) (key : CommonLibF4AddressKey) (addr : UInt64) :
    Bool × UInt64 × FixedAddressProviderData :=
  let (available, fixed) := data.available key
  (available, if available then fixed else addr, data)

def fixedDescribe (data : FixedAddressProviderData) (key : CommonLibF4AddressKey)
    (_info : CommonLibF4AddressResolutionInfo) :
    Bool × CommonLibF4AddressResolutionInfo × FixedAddressProviderData :=
  let (resolved, addr, data) := fixedResolve data key 0
  (resolved, ⟨resolved, addr, if resolved then .stub else .unresolved, false⟩, data)

def clf4AddressProviderMakeFixed (data : FixedAddressProviderData) :
    DescribingProvider FixedAddressProviderData :=
  { resolve := some fixedResolve, userdata := data, describe := some fixedDescribe }

structure CommonLibF4ExactAddressEntry where
  available : Bool
  addr : UInt64
  source : CommonLibF4AddressSource

abbrev ExactAddressProviderData := CommonLibF4AddressKey → CommonLibF4ExactAddressEntry

def exactResolve (entries : ExactAddressProviderData) (key : CommonLibF4AddressKey) (addr : UInt64) :
    Bool × UInt64 × ExactAddressProviderData :=
  ((entries key).available, if (entries key).available then (entries key).addr else addr, entries)

def exactDescribe (executable : UInt64 → Bool) (entries : ExactAddressProviderData)
    (key : CommonLibF4AddressKey) (_info : CommonLibF4AddressResolutionInfo) :
    Bool × CommonLibF4AddressResolutionInfo × ExactAddressProviderData :=
  let entry := entries key
  (entry.available, ⟨entry.available, entry.addr,
    if entry.available then entry.source else .unresolved,
    entry.available && executable entry.addr⟩, entries)

def clf4AddressProviderMakeExact (executable : UInt64 → Bool) (entries : ExactAddressProviderData) :
    DescribingProvider ExactAddressProviderData :=
  { resolve := some exactResolve, userdata := entries, describe := some (exactDescribe executable) }

/-! ## Reports -/

inductive PlayerHookCandidateId
  | invalid | updateBeforeInput | updateAfterInput | playerControlsUpdate | actorUpdatePlayerFiltered
  deriving DecidableEq

inductive HookAddressSource
  | unresolved | stub | addressLibrary | patternScan | manualOffset | trustedProfile
  deriving DecidableEq

inductive HookDiscoveryRecommendedAction
  | none | installLive | dryRunOnly | rejectStubProvider | collectRealEntryProbe | tryNextCandidate
  | unsupportedRuntime
  deriving DecidableEq

inductive HookDiscoveryRejectionReason
  | none | unsupportedRuntime | unsupportedBuild | unresolvedRequiredAddress | stubAddressSource
  | nonExecutableTarget | weakConfidence | patchPolicy
  deriving DecidableEq

structure HookDiscoveryRuntimeProfile where
  runtimeVersion : UInt32
  runtimeSupported : Bool
  buildSignatureSupported : Bool
  profileName : Text

structure PlayerHookDiscoveryCandidate where
  candidateId : PlayerHookCandidateId
  candidateName : Text
  sourceSymbol : Text
  guardSymbol : Text
  preferredOrder : UInt32
  requireUpdateAddress : Bool
  requireInputAddress : Bool

structure PlayerHookDiscoveryResolution where
  resolved : Bool := false
  updateAddr : UInt64 := 0
  inputAddr : UInt64 := 0
  addressSource : HookAddressSource := .unresolved
  executableMemoryValid : Bool := false
  runtimeSupported : Bool
  buildSignatureSupported : Bool

structure PlayerHookDiscoveryAssessment where
  candidate : PlayerHookDiscoveryCandidate
  resolution : PlayerHookDiscoveryResolution
  armable : Bool := false
  dryRunOnly : Bool := false
  selected : Bool := false
  rejectionReason : HookDiscoveryRejectionReason := .none
  score : UInt32 := 0

/-- `HookDiscoveryReport`, with what discovery fills in -/
structure PlayerHookDiscoveryReport where
  runtimeProfile : HookDiscoveryRuntimeProfile
  assessments : List PlayerHookDiscoveryAssessment
  selectedCandidateId : PlayerHookCandidateId := .invalid
  simulatedOnly : Bool := false
  realExecutionEvidence : Bool := false
  recommendedAction : HookDiscoveryRecommendedAction := .none

/-! ## Assessments -/

def candidateBeforeInput : PlayerHookDiscoveryCandidate :=
  ⟨.updateBeforeInput, ascii "movement_playercharacter_before_input_path",
    ascii "PlayerCharacter::Update", ascii "PlayerControls::Update", 100, true, false⟩

def candidateAfterInput : PlayerHookDiscoveryCandidate :=
  ⟨.updateAfterInput, ascii "movement_playercharacter_after_input_path",
    ascii "PlayerCharacter::Update", ascii "PostInput", 80, true, false⟩

def candidateActorUpdate : PlayerHookDiscoveryCandidate :=
  ⟨.actorUpdatePlayerFiltered, ascii "movement_actor_planner_family", ascii "Actor::Update",
    ascii "PlayerFilter", 60, true, false⟩

def sliceRuntimeIsAe : Option F4SEInterfaceMock → Bool
  | none => false
  | some f4se => f4se.isEditor == 0 &&
      (f4se.runtimeVersion == runtime111191 || f4se.runtimeVersion == runtime111191Legacy)

def mapProviderSource : CommonLibF4AddressSource → HookAddressSource
  | .stub => .stub
  | .addressLibrary => .addressLibrary
  | .patternScan => .patternScan
  | .manualOffset => .manualOffset
  | .trustedProfile => .trustedProfile
  | .unresolved | .unknown => .unresolved

def fillRuntimeProfile (f4se : Option F4SEInterfaceMock) : HookDiscoveryRuntimeProfile :=
  let resolution := clf4PhrprofResolve none f4se
  ⟨(f4se.map (·.runtimeVersion)).getD 0, resolution.runtimeSupported,
    resolution.buildSignatureSupported, resolution.profile.name⟩

/-- A description that is asked for if it is needed and there is somebody to ask. -/
def describeNeeded (executable : UInt64 → Bool) (needed : Bool) (key : CommonLibF4AddressKey)
    (provider : Option (DescribingProvider W)) :
    Bool × CommonLibF4AddressResolutionInfo × Option (DescribingProvider W) :=
  match needed, provider with
  | true, some provider =>
      let (described, info, provider) := clf4AddressProviderDescribe executable provider key
      (described, info, some provider)
  | _, provider => (false, {}, provider)

/-- `fill_resolution_pair`, for a resolution with these two flags of the runtime. -/
def fillResolutionPair (executable : UInt64 → Bool) (provider : Option (DescribingProvider W))
    (updateKey inputKey : CommonLibF4AddressKey) (needUpdate needInput : Bool)
    (runtimeSupported buildSignatureSupported : Bool) :
    PlayerHookDiscoveryResolution × Option (DescribingProvider W) :=
  let (okUpdate, updateInfo, provider) := describeNeeded executable needUpdate updateKey provider
  let (okInput, inputInfo, provider) := describeNeeded executable needInput inputKey provider
  let (addressSource, executableMemoryValid) :=
    if needUpdate && okUpdate then
      (mapProviderSource updateInfo.source, updateInfo.executableMemoryValid)
    else if needInput && okInput then
      (mapProviderSource inputInfo.source, inputInfo.executableMemoryValid)
    else (.unresolved, false)
  let both := needUpdate && needInput && okUpdate && okInput
  ({ resolved := (!needUpdate || okUpdate) && (!needInput || okInput)
     updateAddr := if okUpdate then updateInfo.addr else 0
     inputAddr := if okInput then inputInfo.addr else 0
     addressSource := if both && (updateInfo.source == .stub || inputInfo.source == .stub) then .stub
       else addressSource
     executableMemoryValid := if both then
       updateInfo.executableMemoryValid && inputInfo.executableMemoryValid else executableMemoryValid
     runtimeSupported, buildSignatureSupported }, provider)

def finalizeAssessment (assessment : PlayerHookDiscoveryAssessment) (scoreIfArmable : UInt32) :
    PlayerHookDiscoveryAssessment :=
  let resolution := assessment.resolution
  if !resolution.runtimeSupported then { assessment with rejectionReason := .unsupportedRuntime }
  else if !resolution.buildSignatureSupported then
    { assessment with rejectionReason := .unsupportedBuild }
  else if !resolution.resolved then
    { assessment with rejectionReason := .unresolvedRequiredAddress }
  else if resolution.addressSource = .stub then
    { assessment with rejectionReason := .stubAddressSource }
  else if !resolution.executableMemoryValid then
    { assessment with rejectionReason := .nonExecutableTarget }
  else { assessment with armable := true, score := scoreIfArmable }

section Assess
variable (executable : UInt64 → Bool) (f4se : Option F4SEInterfaceMock)
  (provider : Option (DescribingProvider W))

/-- A place where one update function is needed. -/
def assessUpdate (candidate : PlayerHookDiscoveryCandidate) (key : CommonLibF4AddressKey)
    (scoreIfArmable : UInt32) : PlayerHookDiscoveryAssessment × Option (DescribingProvider W) :=
  let profile := clf4PhrprofResolve none f4se
  let (resolution, provider) := fillResolutionPair executable provider key .playerInput true false
    profile.runtimeSupported profile.buildSignatureSupported
  (finalizeAssessment { candidate, resolution } scoreIfArmable, provider)

def assessCommitFamily : PlayerHookDiscoveryAssessment × Option (DescribingProvider W) :=
  assessUpdate executable f4se provider candidateBeforeInput .playerUpdate 100

def assessActorPlanner : PlayerHookDiscoveryAssessment × Option (DescribingProvider W) :=
  assessUpdate executable f4se provider candidateActorUpdate .actorUpdate 60

def assessPostInputPlaceholder : PlayerHookDiscoveryAssessment :=
  let profile := clf4PhrprofResolve none f4se
  { candidate := candidateAfterInput
    resolution := {
      runtimeSupported := profile.runtimeSupported
      buildSignatureSupported := profile.buildSignatureSupported }
    rejectionReason := .weakConfidence
    dryRunOnly := true }

def assessControlsInput : PlayerHookDiscoveryAssessment × Option (DescribingProvider W) :=
  let profile := clf4PhrprofResolve none f4se
  let (resolution, provider) := fillResolutionPair executable provider .playerUpdate .playerInput
    false true profile.runtimeSupported profile.buildSignatureSupported
  let assessment := finalizeAssessment { candidate := candidateAfterInput, resolution } 10
  ({ assessment with
    armable := false, score := 0, dryRunOnly := true, rejectionReason := .weakConfidence }, provider)

end Assess

def forceSliceRuntimeGate (assessment : PlayerHookDiscoveryAssessment) :
    PlayerHookDiscoveryAssessment :=
  { assessment with
    armable := false
    score := 0
    resolution := { assessment.resolution with
      runtimeSupported := false, buildSignatureSupported := false }
    rejectionReason := .unsupportedRuntime }

/-! ## Discovery -/

/-- The loop over the assessments: the index and the score of the best that can be armed. -/
def bestArmable (assessments : List PlayerHookDiscoveryAssessment) : Option (Nat × UInt32) :=
  assessments.zipIdx.foldl (fun best (assessment, i) =>
    if assessment.armable && best.all (fun b => decide (b.2 < assessment.score)) then
      some (i, assessment.score)
    else best) none

def phdRunPlayerDiscovery (executable : UInt64 → Bool) (f4se : Option F4SEInterfaceMock)
    (provider : Option (DescribingProvider W)) :
    Bool × PlayerHookDiscoveryReport × Option (DescribingProvider W) :=
  let runtimeProfile := fillRuntimeProfile f4se
  let (commit, provider) := assessCommitFamily executable f4se provider
  let (planner, provider) := assessActorPlanner executable f4se provider
  let (controls, provider) := assessControlsInput executable f4se provider
  let assessments := [commit, assessPostInputPlaceholder f4se, planner, controls]
  if !sliceRuntimeIsAe f4se then
    (false, {
      runtimeProfile := { runtimeProfile with
        runtimeSupported := false, buildSignatureSupported := false }
      assessments := assessments.map forceSliceRuntimeGate
      recommendedAction := .unsupportedRuntime }, provider)
  else
    match bestArmable assessments with
    | some (best, _) =>
        (true, {
          runtimeProfile
          assessments := assessments.modify best fun a => { a with selected := true }
          selectedCandidateId := (assessments[best]?.map (·.candidate.candidateId)).getD .invalid
          recommendedAction := .installLive }, provider)
    | none =>
        if assessments.any (·.rejectionReason == .stubAddressSource) then
          (false, {
            runtimeProfile, assessments
            simulatedOnly := true
            recommendedAction := .rejectStubProvider }, provider)
        else (false, { runtimeProfile, assessments, recommendedAction := .tryNextCandidate }, provider)

/-! ## What is selected -/

/-- The provider describes a real address, in memory that can be executed. -/
def Offers (executable : UInt64 → Bool) (provider : Option (DescribingProvider W))
    (key : CommonLibF4AddressKey) : Prop :=
  let (described, info, _) := describeNeeded executable true key provider
  described = true ∧ info.source ≠ .stub ∧ info.executableMemoryValid = true

theorem mapProviderSource_stub {source : CommonLibF4AddressSource} :
    mapProviderSource source = .stub ↔ source = .stub := by
  cases source <;> simp [mapProviderSource]

theorem clf4PhrprofResolve_ae {f4se : Option F4SEInterfaceMock} (ae : sliceRuntimeIsAe f4se = true) :
    (clf4PhrprofResolve none f4se).runtimeSupported = true ∧
      (clf4PhrprofResolve none f4se).buildSignatureSupported = true := by
  cases f4se with
  | none => cases ae
  | some f4se =>
      obtain ⟨runtimeVersion, isEditor⟩ := f4se
      simp only [sliceRuntimeIsAe, Bool.and_eq_true, beq_iff_eq, Bool.or_eq_true] at ae
      obtain ⟨rfl, rfl | rfl⟩ := ae <;> decide +kernel

section Selects
variable (executable : UInt64 → Bool) {f4se : Option F4SEInterfaceMock}
  (provider : Option (DescribingProvider W))

theorem describeNeeded_unneeded (key : CommonLibF4AddressKey) :
    describeNeeded executable false key provider = (false, {}, provider) := by
  cases provider <;> rfl

/-- A place for the hook can be armed exactly if the provider offers its address. -/
theorem assessUpdate_armable (candidate : PlayerHookDiscoveryCandidate) (key : CommonLibF4AddressKey)
    (score : UInt32) (ae : sliceRuntimeIsAe f4se = true) :
    let assessed := (assessUpdate executable f4se provider candidate key score).1
    assessed.candidate = candidate ∧ (assessed.armable = true ↔ Offers executable provider key) ∧
      (assessed.armable = true → assessed.score = score) := by
  obtain ⟨supported, signed⟩ := clf4PhrprofResolve_ae ae
  simp only [assessUpdate, fillResolutionPair, describeNeeded_unneeded, supported, signed, Offers]
  generalize describeNeeded executable true key provider = answer
  obtain ⟨described, info, provider⟩ := answer
  cases described with
  | false => simp [finalizeAssessment]
  | true =>
      by_cases stub : info.source = .stub
      · simp [finalizeAssessment, stub, mapProviderSource]
      · have real : mapProviderSource info.source ≠ .stub := fun same =>
          stub (mapProviderSource_stub.mp same)
        cases valid : info.executableMemoryValid <;> simp [finalizeAssessment, stub, real]

/-- The player's update is preferred to the actors'. -/
theorem bestArmable_places {commit placeholder planner controls : PlayerHookDiscoveryAssessment}
    (first : commit.armable = true → commit.score = 100) (second : placeholder.armable = false)
    (third : planner.armable = true → planner.score = 60) (fourth : controls.armable = false) :
    bestArmable [commit, placeholder, planner, controls] =
      if commit.armable then some (0, 100) else if planner.armable then some (2, 60) else none := by
  cases armed : commit.armable with
  | true =>
      have less : ¬ (100 : UInt32) < 60 := by decide
      cases armed' : planner.armable <;>
        simp [bestArmable, armed, armed', first armed, third, second, fourth, less]
  | false =>
      cases armed' : planner.armable with
      | true => simp [bestArmable, armed, armed', third armed', second, fourth]
      | false => simp [bestArmable, armed, armed', second, fourth]

/-- The actors' update is on offer, when it is asked for after the player's. -/
def OffersNext (f4se : Option F4SEInterfaceMock) : Prop :=
  Offers executable (assessCommitFamily executable f4se provider).2 .actorUpdate

/-- Discovery succeeds exactly on the AE runtime, with the address of the player's or the actors'
update on offer, and selects the player's if it can; without success it selects nothing. -/
theorem phdRunPlayerDiscovery_selects :
    let found := phdRunPlayerDiscovery executable f4se provider
    (found.1 = true ↔ sliceRuntimeIsAe f4se = true ∧
      (Offers executable provider .playerUpdate ∨ OffersNext executable provider f4se)) ∧
    (found.1 = true → found.2.1.recommendedAction = .installLive ∧
      (Offers executable provider .playerUpdate ∧ found.2.1.selectedCandidateId = .updateBeforeInput ∨
        OffersNext executable provider f4se ∧
          found.2.1.selectedCandidateId = .actorUpdatePlayerFiltered)) ∧
    (found.1 = false → found.2.1.selectedCandidateId = .invalid) := by
  unfold phdRunPlayerDiscovery
  cases ae : sliceRuntimeIsAe f4se with
  | false => simp
  | true =>
      have commit := assessUpdate_armable executable provider candidateBeforeInput .playerUpdate 100 ae
      have planner := assessUpdate_armable executable (assessCommitFamily executable f4se provider).2
        candidateActorUpdate .actorUpdate 60 ae
      rw [← assessCommitFamily] at commit
      rw [← assessActorPlanner, ← OffersNext] at planner
      generalize OffersNext executable provider f4se = offeredNext at planner ⊢
      generalize assessCommitFamily executable f4se provider = first at commit planner ⊢
      obtain ⟨commit', provider₁⟩ := first
      dsimp only at commit planner ⊢
      generalize assessActorPlanner executable f4se provider₁ = second at planner ⊢
      obtain ⟨planner', provider₂⟩ := second
      dsimp only at planner ⊢
      have controls : (assessControlsInput executable f4se provider₂).1.armable = false := rfl
      generalize assessControlsInput executable f4se provider₂ = third at controls ⊢
      obtain ⟨named, armed, scored⟩ := commit
      obtain ⟨named', armed', scored'⟩ := planner
      have placeholder : (assessPostInputPlaceholder f4se).armable = false := rfl
      have best := bestArmable_places scored placeholder scored' controls
      simp only [best, ← armed, ← armed']
      cases commit'.armable with
      | true => simp [named, candidateBeforeInput]
      | false =>
          cases planner'.armable with
          | true => simp [named', candidateActorUpdate]
          | false =>
              simp only [Bool.not_true, Bool.false_eq_true, if_false]
              split <;> simp

/-- The provider of fixed addresses never offers one. -/
theorem phdRunPlayerDiscovery_fixed (data : FixedAddressProviderData) :
    (phdRunPlayerDiscovery executable f4se (some (clf4AddressProviderMakeFixed data))).1 = false := by
  have stubs : ∀ key, ¬ Offers executable (some (clf4AddressProviderMakeFixed data)) key := by
    rintro key ⟨-, -, valid⟩
    cases valid
  refine Bool.eq_false_iff.mpr fun found => ?_
  obtain ⟨-, offered | offered⟩ := (phdRunPlayerDiscovery_selects executable _).1.mp found
  · exact stubs _ offered
  · exact stubs _ offered

end Selects

end F4MP.Client

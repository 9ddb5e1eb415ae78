import F4MP.Client.HookInstall

/-!
# The path of the player hook

`commonlibf4_player_hook_callback_stub.c`, the source candidate adapter and the probe: what a callback
brings while an installation holds, and what `local_player_observer.c` captures of it.
-/

namespace F4MP.Client
open SoftFloat CFloat Protocol Service Transition X64

variable {F W : Type}

/-! ## Callbacks -/

section Callbacks
variable [FloatClass F]

def clf4PhrpSubmitCallback (args : Option (CommonLibF4PlayerHookArgs F)) (p : HookPath F) :
    Bool × HookPath F :=
  if !p.probe.installReady then (false, p)
  else
    let (normalized, adapter) := clf4PlaNormalize args true p.provider.adapter
    let p := { p with provider := { p.provider with adapter } }
    match normalized with
    | none =>
        (false, { p with probe := refreshHookCorrectness { p.probe with
          rejectedCallbackCount := p.probe.rejectedCallbackCount + 1
          lastRejectReason := adapter.lastRejectReason } })
    | some sample =>
        let probe : CommonLibF4PlayerHookRuntimeProbeState F := { p.probe with
          callbackCount := p.probe.callbackCount + 1
          lastSample := some sample
          lastSeenPlayerId := sample.state.playerId
          lastObservedTick := sample.observedTick
          lastRejectReason := .none }
        if probe.config.expectedLocalPlayerId ≠ 0 ∧
            sample.state.playerId ≠ probe.config.expectedLocalPlayerId then
          (false, { p with probe := refreshHookCorrectness { probe with
            mismatchedPlayerCount := probe.mismatchedPlayerCount + 1 } })
        else (true, { p with probe := refreshHookCorrectness probe })

def sourceCandidateCb (kind : CommonLibF4PlayerHookDispatchKind)
    (args : CommonLibF4PlayerHookArgs F) (p : HookPath F) : Bool × HookPath F :=
  if !p.adapter.installed then (false, p)
  else
    let real : UInt32 := if kind = .realHook then 1 else 0
    let p := { p with adapter := { p.adapter with
      lastDispatchKind := kind
      callbackForwardCount := p.adapter.callbackForwardCount + 1
      realCallbackForwardCount := p.adapter.realCallbackForwardCount + real } }
    let (ok, p) := clf4PhrpSubmitCallback (some args) p
    let p := { p with adapter.lastProbeCallbackCount := p.probe.callbackCount }
    if ok then
      (true, { p with adapter := { p.adapter with
        lastState := p.probeProvider.lastState.or p.adapter.lastState
        callbackAcceptCount := p.adapter.callbackAcceptCount + 1
        realCallbackAcceptCount := p.adapter.realCallbackAcceptCount + real } })
    else
      (false, { p with adapter := { p.adapter with
        callbackRejectCount := p.adapter.callbackRejectCount + 1
        realCallbackRejectCount := p.adapter.realCallbackRejectCount + real } })

/-- `dispatch_emit`, up to the tick behind a synthetic one. -/
def dispatchEmit (kind : CommonLibF4PlayerHookDispatchKind)
    (args : Option (CommonLibF4PlayerHookArgs F)) (p : HookPath F) : Bool × HookPath F :=
  match args with
  | none => (false, { p with stub.lastDispatchKind := kind })
  | some args =>
      let real : UInt32 := if kind = .realHook then 1 else 0
      let p := { p with stub := { p.stub with
        emitCount := p.stub.emitCount + 1
        lastArgs := some args
        lastDispatchKind := kind
        realEmitCount := p.stub.realEmitCount + real
        syntheticEmitCount :=
          p.stub.syntheticEmitCount + if kind = .syntheticValidation then 1 else 0 } }
      let (ok, p) := if p.stub.registeredCallback then sourceCandidateCb kind args p else (false, p)
      if ok then
        (true, { p with stub := { p.stub with
          callbackSuccessCount := p.stub.callbackSuccessCount + 1
          realCallbackSuccessCount := p.stub.realCallbackSuccessCount + real } })
      else
        (false, { p with stub := { p.stub with
          callbackFailureCount := p.stub.callbackFailureCount + 1
          realCallbackFailureCount := p.stub.realCallbackFailureCount + real } })

end Callbacks

/-! ## Captures -/

section Captures
variable [CFloat F]

def probeProviderCapture (p : HookPath F) : Option (FlaggedState F) × HookPath F :=
  let s := p.probeProvider
  let blocked := { p with probeProvider.blockedCaptureCount := s.blockedCaptureCount + 1 }
  let state := (p.probe.lastSample.map (·.state)).getD .zero
  if !s.installed then (none, p)
  else if !p.probe.installReady || p.probe.callbackCount == 0 then (none, blocked)
  else if s.config.requireHookCorrect && !p.probe.hookCorrect then (none, blocked)
  else if s.config.expectedLocalPlayerId ≠ 0 ∧
      state.playerId ≠ s.config.expectedLocalPlayerId then (none, blocked)
  else
    let state := { state with valid := true }
    (some state, { p with probeProvider := { s with
      staleCaptureCount :=
        if p.probe.callbackCount == s.lastCallbackCount && s.lastState.isSome then
          s.staleCaptureCount + 1
        else s.staleCaptureCount
      lastCallbackCount := p.probe.callbackCount
      lastState := some state
      captureCount := s.captureCount + 1 } })

def lpoProviderCapture (p : HookPath F) : Option (FlaggedState F) × HookPath F :=
  if p.provided then probeProviderCapture p
  else
    let (state, live) := liveProviderCapture true p.provider.live
    (state, { p with provider := { p.provider with live } })

/-- `lpo_capture` -/
def HookPath.lpoCapture (p : HookPath F) : Option (FlaggedState F) × HookPath F :=
  match lpoProviderCapture p with
  | (some outState, p) =>
      (some { outState with
        playerId := if outState.playerId = 0 then p.observer.localPlayerId else outState.playerId
        valid := true }, p)
  | (none, p) => (if p.observer.state.valid then some p.observer.state else none, p)

end Captures

/-! ## Runs -/

/-- What happens to the hook: calls of the plugin, callbacks of the game, samples for the live provider,
and captures. -/
inductive HookEvent (F W : Type)
  | install (w : HookWorld W)
  | uninstall
  | reset
  | emit (kind : CommonLibF4PlayerHookDispatchKind) (args : Option (CommonLibF4PlayerHookArgs F))
  | submit (args : Option (CommonLibF4PlayerHookArgs F))
  | capture

def hookStep [FloatClass F] [CFloat F] (p : HookPath F) : HookEvent F W → HookPath F
  | .install w => (clf4PhicInstallWithProvider w p).2
  | .uninstall => clf4PhicUninstall p
  | .reset => clf4PhicReset p
  | .emit kind args => (dispatchEmit kind args p).2
  | .submit args => { p with provider := (lpoLiveProviderSubmit args p.provider).2 }
  | .capture => p.lpoCapture.2

/-! ## What the path is hooked for -/

/-- An installation that holds: its configuration, if the addresses that this asks for are there, and
the states that callbacks have brought since. -/
structure Hooked (F : Type) where
  config : CommonLibF4PlayerHookInstallCandidateConfig
  addressesReady : Bool
  passed : List (FlaggedState F)

def Hooked.own (h : Hooked F) (state : FlaggedState F) : Bool :=
  decide (h.config.expectedLocalPlayerId = 0 ∨ state.playerId = h.config.expectedLocalPlayerId)

/-- What is given of it: the last state, if it is the player's own. If the hook is required to be
correct, all of them have to be, and the addresses ready. -/
def Hooked.delivered (h : Hooked F) : Option (FlaggedState F) :=
  h.passed.getLast?.filter fun last =>
    if h.config.requireHookCorrect then h.addressesReady && h.passed.all h.own else h.own last

def HookWorld.addressesReady (w : HookWorld W) : Bool :=
  (!w.active.requireUpdateAddress || w.resolution.updateAddr != 0) &&
    (!w.active.requireInputAddress || w.resolution.inputAddr != 0)

section Watch
variable [FloatClass F]

/-- The state that the adapter makes of a callback, if it lets it through. -/
def letThrough (fallbackPlayerId : PlayerId) (args : Option (CommonLibF4PlayerHookArgs F)) :
    Option (FlaggedState F) :=
  (clf4PlaNormalize args true { fallbackPlayerId }).1.map (·.state)

def Hooked.hear (args : Option (CommonLibF4PlayerHookArgs F)) (h : Hooked F) : Hooked F :=
  { h with passed := h.passed ++ (letThrough h.config.expectedLocalPlayerId args).toList }

/-- The path, with what it is hooked for and the functions that have been patched. -/
structure Watched (F : Type) where
  path : HookPath F
  hooked : Option (Hooked F)
  patched : List UInt64

variable [CFloat F]

def watchStep (s : Watched F) (e : HookEvent F W) : Watched F where
  path := hookStep s.path e
  hooked := match e with
    | .install w =>
        if (clf4PhicInstallWithProvider w s.path).1 then some ⟨w.active, w.addressesReady, []⟩ else none
    | .uninstall | .reset => none
    | .emit _ args => s.hooked.map (·.hear args)
    | .submit _ | .capture => s.hooked
  patched := match e with
    | .install w =>
        if (clf4PhicInstallWithProvider w s.path).1 then w.inputs.target :: s.patched else s.patched
    | _ => s.patched

end Watch

/-- A process in which nothing is hooked yet. -/
def unhooked (patch : HookProcess) (provider : LiveProvider F) (observer : LocalPlayerObserver F) :
    Watched F :=
  ⟨{ patch, registry := fun _ => (.notAttempted, .none), provider, observer }, none, []⟩

def HookEvent.worlds : HookEvent F W → List (HookWorld W)
  | install w => [w]
  | _ => []

def HookEvent.emits : HookEvent F W → Bool
  | emit _ _ => true
  | _ => false

/-! ## What the path listens to -/

/-- The state of the path, as long as an installation holds. -/
structure Listens (h : Hooked F) (p : HookPath F) : Prop where
  config : p.probe.config = ⟨h.config.expectedLocalPlayerId, h.config.requireUpdateAddress,
    h.config.requireInputAddress, h.config.requireCallbackAfterInstall⟩
  installReady : p.probe.installReady = true
  supported : p.probe.runtimeProfileSupported = true
  addresses : h.addressesReady =
    ((!h.config.requireUpdateAddress || p.probe.resolvedUpdateAddr != 0) &&
      (!h.config.requireInputAddress || p.probe.resolvedInputAddr != 0))
  refreshed : refreshHookCorrectness p.probe = p.probe
  counted : p.probe.callbackCount.toNat = h.passed.length
  mismatched : p.probe.mismatchedPlayerCount.toNat = h.passed.countP fun state => !h.own state
  last : p.probe.lastSample.map (·.state) = h.passed.getLast?
  fallback : p.provider.adapter.fallbackPlayerId = h.config.expectedLocalPlayerId
  provider : p.probeProvider.installed = true ∧ p.probeProvider.config =
    ⟨h.config.expectedLocalPlayerId, h.config.requireHookCorrect⟩
  adapter : p.adapter.installed = true
  flagged : ∀ state ∈ h.passed, state.valid = true ∧ state.playerId ≠ 0

section Listens
variable {h : Hooked F} {p : HookPath F}

theorem Listens.correct (listens : Listens h p) (heard : h.passed ≠ []) :
    p.probe.hookCorrect = (h.addressesReady && h.passed.all h.own) := by
  have some_ : 0 < p.probe.callbackCount := by
    rw [UInt32.lt_iff_toNat_lt, listens.counted]
    exact List.length_pos_iff.mpr heard
  have mismatched : (p.probe.mismatchedPlayerCount == 0) = h.passed.all h.own := by
    rw [Bool.eq_iff_iff, beq_iff_eq, ← UInt32.toNat_inj, listens.mismatched, UInt32.toNat_zero,
      List.countP_eq_zero, List.all_eq_true]
    simp
  have correct := congrArg (·.hookCorrect) listens.refreshed
  rw [← correct, ← mismatched]
  simp only [refreshHookCorrectness, listens.installReady, listens.supported, listens.config,
    listens.addresses, some_, decide_true, Bool.or_true, Bool.and_true, Bool.true_and]

/-- What the probe provider gives is what is delivered of the installation. -/
theorem Listens.captured [CFloat F] (listens : Listens h p) :
    (probeProviderCapture p).1 = h.delivered := by
  obtain ⟨installed, config⟩ := listens.provider
  unfold probeProviderCapture Hooked.delivered
  simp only [installed, config, listens.installReady, Bool.not_true, Bool.false_or, Bool.false_eq_true,
    if_false]
  cases last : h.passed.getLast? with
  | none =>
      have empty : p.probe.callbackCount = 0 := by
        rw [← UInt32.toNat_inj, listens.counted, List.getLast?_eq_none_iff.mp last]
        rfl
      rw [empty]
      rfl
  | some state =>
      have heard : h.passed ≠ [] := fun empty => by
        rw [empty] at last
        cases last
      have member := List.mem_of_getLast? last
      have some_ : ¬ p.probe.callbackCount = 0 := by
        rw [← UInt32.toNat_inj, listens.counted]
        exact fun none => heard (List.length_eq_zero_iff.mp none)
      have valid := (listens.flagged state member).1
      have flagged : { state with valid := true } = state := by rw [← valid]
      have foreign : (h.config.expectedLocalPlayerId ≠ 0 ∧
          state.playerId ≠ h.config.expectedLocalPlayerId) ↔ h.own state = false := by
        rw [Hooked.own, decide_eq_false_iff_not, not_or]
      simp only [listens.last, last, listens.correct heard, Option.getD_some, beq_iff_eq, some_,
        if_false, apply_ite Prod.fst, foreign, flagged, Option.filter_some]
      cases required : h.config.requireHookCorrect with
      | false => cases h.own state <;> simp
      | true =>
          cases all : h.addressesReady && h.passed.all h.own with
          | false => simp
          | true =>
              have own := List.all_eq_true.mp (Bool.and_eq_true_iff.mp all).2 state member
              simp [own]

variable [FloatClass F]

theorem clf4PlaNormalize_state (args : Option (CommonLibF4PlayerHookArgs F))
    (stats : CommonLibF4PlayerLiveAdapterStats F) : (clf4PlaNormalize args true stats).1.map (·.state) =
      letThrough stats.fallbackPlayerId args := by
  cases args with
  | none => rfl
  | some args =>
      simp only [letThrough, clf4PlaNormalize, Bool.not_true, Bool.false_eq_true, if_false]
      repeat' split
      all_goals rfl

theorem letThrough_named {fallbackPlayerId : PlayerId} {args : Option (CommonLibF4PlayerHookArgs F)}
    {state : FlaggedState F} (passes : letThrough fallbackPlayerId args = some state) :
    state.valid = true ∧ state.playerId ≠ 0 := by
  cases args with
  | none => cases passes
  | some args =>
      obtain ⟨resolved, isResolved⟩ : ∃ resolved, resolved =
        if args.event.playerId ≠ 0 then args.event.playerId else fallbackPlayerId := ⟨_, rfl⟩
      simp only [letThrough, clf4PlaNormalize, ← isResolved] at passes
      split_ifs at passes with _ missing
      all_goals cases passes
      exact ⟨rfl, missing⟩

/-- A callback is noted, and what it brings passes or does not. -/
theorem Listens.submitCallback (listens : Listens h p) (few : h.passed.length + 1 < 2 ^ 32)
    (args : Option (CommonLibF4PlayerHookArgs F)) :
    Listens (h.hear args) (clf4PhrpSubmitCallback args p).2 := by
  have state := clf4PlaNormalize_state args p.provider.adapter
  have fallback := clf4PlaNormalize_fallback args true p.provider.adapter
  rw [listens.fallback] at state fallback
  have named : ∀ state, letThrough h.config.expectedLocalPlayerId args = some state →
      state.valid = true ∧ state.playerId ≠ 0 := fun _ passes => letThrough_named passes
  have ready : ¬ (!p.probe.installReady) = true := by simp [listens.installReady]
  unfold clf4PhrpSubmitCallback Hooked.hear
  rw [if_neg ready]
  dsimp only
  generalize letThrough h.config.expectedLocalPlayerId args = passes at state named ⊢
  generalize clf4PlaNormalize args true p.provider.adapter = normalized at state fallback ⊢
  obtain ⟨_ | sample, adapter⟩ := normalized
  · obtain rfl : none = passes := state
    rw [Option.toList_none, List.append_nil]
    exact ⟨listens.config, listens.installReady, listens.supported, listens.addresses, rfl,
      listens.counted, listens.mismatched, listens.last, fallback, listens.provider, listens.adapter,
      listens.flagged⟩
  · obtain rfl : some sample.state = passes := state
    have counted : (p.probe.callbackCount + 1).toNat = (h.passed ++ [sample.state]).length := by
      rw [UInt32.toNat_add, listens.counted, List.length_append]
      exact Nat.mod_eq_of_lt few
    have last : (h.passed ++ [sample.state]).getLast? = some sample.state := List.getLast?_concat
    have flagged : ∀ state ∈ h.passed ++ [sample.state], state.valid = true ∧ state.playerId ≠ 0 :=
      List.forall_mem_append.mpr ⟨listens.flagged, List.forall_mem_singleton.mpr (named _ rfl)⟩
    have foreign : (p.probe.config.expectedLocalPlayerId ≠ 0 ∧
        sample.state.playerId ≠ p.probe.config.expectedLocalPlayerId) ↔
          h.own sample.state = false := by
      rw [listens.config, Hooked.own, decide_eq_false_iff_not, not_or]
    have short := List.countP_le_length (p := fun state => !h.own state) (l := h.passed)
    have mismatched : (h.passed ++ [sample.state]).countP (fun state => !h.own state) =
        h.passed.countP (fun state => !h.own state) + if h.own sample.state then 0 else 1 := by
      rw [List.countP_append, List.countP_singleton]
      cases h.own sample.state <;> rfl
    rw [Option.toList_some]
    dsimp only
    split
    · rename_i other
      have more : (p.probe.mismatchedPlayerCount + 1).toNat =
          (h.passed ++ [sample.state]).countP fun state => !h.own state := by
        rw [mismatched, foreign.mp other, UInt32.toNat_add, listens.mismatched]
        exact Nat.mod_eq_of_lt (by simp; omega)
      exact ⟨listens.config, listens.installReady, listens.supported, listens.addresses, rfl, counted,
        more, last.symm, fallback, listens.provider, listens.adapter, flagged⟩
    · rename_i other
      have own : h.own sample.state = true :=
        Bool.eq_true_of_not_eq_false fun alien => other (foreign.mpr alien)
      have same : p.probe.mismatchedPlayerCount.toNat =
          (h.passed ++ [sample.state]).countP fun state => !h.own state := by
        rw [mismatched, own, listens.mismatched]
        rfl
      exact ⟨listens.config, listens.installReady, listens.supported, listens.addresses, rfl, counted,
        same, last.symm, fallback, listens.provider, listens.adapter, flagged⟩

omit [FloatClass F] in
theorem Listens.of_same {p' : HookPath F} (listens : Listens h p) (probe : p'.probe = p.probe)
    (fallback : p'.provider.adapter.fallbackPlayerId = p.provider.adapter.fallbackPlayerId)
    (provider : p'.probeProvider.installed = p.probeProvider.installed ∧
      p'.probeProvider.config = p.probeProvider.config)
    (adapter : p'.adapter.installed = p.adapter.installed) : Listens h p' :=
  ⟨probe ▸ listens.config, probe ▸ listens.installReady, probe ▸ listens.supported,
    probe ▸ listens.addresses, probe ▸ listens.refreshed, probe ▸ listens.counted,
    probe ▸ listens.mismatched, probe ▸ listens.last, fallback ▸ listens.fallback,
    provider.1 ▸ provider.2 ▸ listens.provider, adapter ▸ listens.adapter, listens.flagged⟩

/-- What a callback leaves alone. -/
structure SamePath (p after : HookPath F) : Prop where
  patch : after.patch = p.patch
  observer : after.observer = p.observer
  provided : after.provided = p.provided
  candidate : after.candidate = p.candidate
  registered : after.stub.registeredCallback = p.stub.registeredCallback

theorem clf4PhrpSubmitCallback_same (args : Option (CommonLibF4PlayerHookArgs F)) (p : HookPath F) :
    let after := (clf4PhrpSubmitCallback args p).2
    SamePath p after ∧ after.probeProvider = p.probeProvider ∧ after.adapter = p.adapter := by
  unfold clf4PhrpSubmitCallback
  split
  · exact ⟨⟨rfl, rfl, rfl, rfl, rfl⟩, rfl, rfl⟩
  · generalize clf4PlaNormalize args true p.provider.adapter = normalized
    obtain ⟨_ | sample, adapter⟩ := normalized
    · exact ⟨⟨rfl, rfl, rfl, rfl, rfl⟩, rfl, rfl⟩
    · dsimp only
      split <;> exact ⟨⟨rfl, rfl, rfl, rfl, rfl⟩, rfl, rfl⟩

theorem sourceCandidateCb_same (kind : CommonLibF4PlayerHookDispatchKind)
    (args : CommonLibF4PlayerHookArgs F) (p : HookPath F) :
    SamePath p (sourceCandidateCb kind args p).2 := by
  unfold sourceCandidateCb
  split
  · exact ⟨rfl, rfl, rfl, rfl, rfl⟩
  · dsimp only
    generalize forwarded : ({ p with adapter := _ } : HookPath F) = p₁
    have same := (clf4PhrpSubmitCallback_same (some args) p₁).1
    generalize clf4PhrpSubmitCallback (some args) p₁ = submitted at same ⊢
    subst forwarded
    obtain ⟨_ | _, after⟩ := submitted
    · exact ⟨same.patch, same.observer, same.provided, same.candidate, same.registered⟩
    · exact ⟨same.patch, same.observer, same.provided, same.candidate, same.registered⟩

/-- The adapter's callback hears what it is called with. -/
theorem Listens.sourceCandidateCb (listens : Listens h p) (few : h.passed.length + 1 < 2 ^ 32)
    (kind : CommonLibF4PlayerHookDispatchKind) (args : CommonLibF4PlayerHookArgs F) :
    Listens (h.hear (some args)) (sourceCandidateCb kind args p).2 := by
  unfold Client.sourceCandidateCb
  rw [if_neg (by simp [listens.adapter])]
  dsimp only
  generalize forwarded : ({ p with adapter := _ } : HookPath F) = p₁
  have first : Listens h p₁ := forwarded ▸ listens.of_same rfl rfl ⟨rfl, rfl⟩ rfl
  have heard := first.submitCallback few (some args)
  generalize clf4PhrpSubmitCallback (some args) p₁ = submitted at heard ⊢
  obtain ⟨_ | _, after⟩ := submitted
  · exact heard.of_same rfl rfl ⟨rfl, rfl⟩ rfl
  · exact heard.of_same rfl rfl ⟨rfl, rfl⟩ rfl

theorem dispatchEmit_same (kind : CommonLibF4PlayerHookDispatchKind)
    (args : Option (CommonLibF4PlayerHookArgs F)) (p : HookPath F) :
    SamePath p (dispatchEmit kind args p).2 := by
  cases args with
  | none => exact ⟨rfl, rfl, rfl, rfl, rfl⟩
  | some args =>
      unfold dispatchEmit
      dsimp only
      split
      · generalize counted : ({ p with stub := _ } : HookPath F) = p₁
        have same := sourceCandidateCb_same kind args p₁
        generalize sourceCandidateCb kind args p₁ = called at same ⊢
        subst counted
        obtain ⟨_ | _, after⟩ := called
        · exact ⟨same.patch, same.observer, same.provided, same.candidate, same.registered⟩
        · exact ⟨same.patch, same.observer, same.provided, same.candidate, same.registered⟩
      · exact ⟨rfl, rfl, rfl, rfl, rfl⟩

theorem Listens.dispatchEmit (listens : Listens h p) (registered : p.stub.registeredCallback = true)
    (few : h.passed.length + 1 < 2 ^ 32) (kind : CommonLibF4PlayerHookDispatchKind)
    (args : Option (CommonLibF4PlayerHookArgs F)) :
    Listens (h.hear args) (dispatchEmit kind args p).2 := by
  cases args with
  | none =>
      have silent : h.hear none = h := by
        rw [Hooked.hear, show letThrough h.config.expectedLocalPlayerId none = none from rfl,
          Option.toList_none, List.append_nil]
      rw [silent]
      exact listens.of_same rfl rfl ⟨rfl, rfl⟩ rfl
  | some args =>
      unfold Client.dispatchEmit
      dsimp only
      rw [if_pos registered]
      generalize counted : ({ p with stub := _ } : HookPath F) = p₁
      have first : Listens h p₁ := counted ▸ listens.of_same rfl rfl ⟨rfl, rfl⟩ rfl
      have heard := first.sourceCandidateCb few kind args
      generalize Client.sourceCandidateCb kind args p₁ = called at heard ⊢
      obtain ⟨_ | _, after⟩ := called
      · exact heard.of_same rfl rfl ⟨rfl, rfl⟩ rfl
      · exact heard.of_same rfl rfl ⟨rfl, rfl⟩ rfl

end Listens

section Sees
variable [FloatClass F] [CFloat F]

omit [FloatClass F] in
theorem probeProviderCapture_same (p : HookPath F) : let after := (probeProviderCapture p).2
    SamePath p after ∧ after.probe = p.probe ∧ after.provider = p.provider ∧ after.adapter = p.adapter ∧
      after.probeProvider.installed = p.probeProvider.installed ∧
      after.probeProvider.config = p.probeProvider.config := by
  unfold probeProviderCapture
  dsimp only
  repeat' split
  all_goals exact ⟨⟨rfl, rfl, rfl, rfl, rfl⟩, rfl, rfl, rfl, rfl, rfl⟩

omit [FloatClass F] in
theorem lpoCapture_snd (p : HookPath F) : p.lpoCapture.2 = (lpoProviderCapture p).2 := by
  unfold HookPath.lpoCapture
  obtain ⟨_ | state, after⟩ := lpoProviderCapture p <;> rfl

omit [FloatClass F] in
/-- Without a hook, a capture is the one of the live provider. -/
theorem lpoCapture_live {p : HookPath F} (unprovided : p.provided = false) :
    p.lpoCapture.1 = (lpoCapture p.observer p.provider.live).1 := by
  unfold HookPath.lpoCapture lpoProviderCapture Client.lpoCapture
  rw [if_neg (by simp [unprovided])]
  generalize liveProviderCapture true p.provider.live = captured
  obtain ⟨_ | state, live⟩ := captured <;> rfl

/-- What holds of a process in every run from an unhooked one: the path is there as long as an
installation holds, a capture is what is delivered of that, and the memory has changed in nothing but
what Windows has lent and the starts of the patched functions. -/
structure Sees (worlds : List (HookWorld W)) (start s : Watched F) : Prop where
  ready : s.path.candidate.pathReady = s.hooked.isSome
  registered : s.path.stub.registeredCallback = s.hooked.isSome
  provided : s.path.provided = s.hooked.isSome
  captured : s.path.lpoCapture.1 =
    match s.hooked with
    | some h => h.delivered.or (if s.path.observer.state.valid then some s.path.observer.state else none)
    | none => (lpoCapture s.path.observer s.path.provider.live).1
  memory : ∀ x, (∀ w ∈ worlds, w.windows.Outside x) →
    (∀ target ∈ s.patched, 16 ≤ (x - target).toNat) → s.path.patch.memory x = start.path.patch.memory x

/-- The same, from inside: `n` callbacks have been emitted. -/
structure Tracks (worlds : List (HookWorld W)) (n : Nat) (start s : Watched F) : Prop where
  ready : s.path.candidate.pathReady = s.hooked.isSome
  registered : s.path.stub.registeredCallback = s.hooked.isSome
  provided : s.path.provided = s.hooked.isSome
  listens : ∀ h, s.hooked = some h → Listens h s.path ∧ h.passed.length ≤ n
  memory : ∀ x, (∀ w ∈ worlds, w.windows.Outside x) →
    (∀ target ∈ s.patched, 16 ≤ (x - target).toNat) → s.path.patch.memory x = start.path.patch.memory x

variable {worlds : List (HookWorld W)} {n : Nat} {start s : Watched F}

omit [FloatClass F] in
theorem Tracks.sees (tracks : Tracks worlds n start s) : Sees worlds start s := by
  refine ⟨tracks.ready, tracks.registered, tracks.provided, ?_, tracks.memory⟩
  have provided := tracks.provided
  cases hooked : s.hooked with
  | none =>
      rw [hooked] at provided
      exact lpoCapture_live provided
  | some h =>
      replace provided : s.path.provided = true := by rw [provided, hooked]; rfl
      obtain ⟨listens, -⟩ := tracks.listens h hooked
      have captured := listens.captured
      have same := (probeProviderCapture_same s.path).1
      unfold HookPath.lpoCapture lpoProviderCapture
      rw [if_pos provided]
      generalize probeProviderCapture s.path = given at captured same ⊢
      obtain ⟨_ | state, after⟩ := given
      · dsimp only at captured same ⊢
        rw [← captured, same.observer]
        rfl
      · dsimp only at captured ⊢
        rw [← captured]
        have member : state ∈ h.passed := by
          have delivered := captured.symm
          rw [Hooked.delivered, Option.filter_eq_some_iff] at delivered
          exact List.mem_of_getLast? delivered.1
        obtain ⟨valid, named⟩ := listens.flagged state member
        rw [if_neg named, ← valid]
        rfl

omit [FloatClass F] [CFloat F] in
/-- What the patch of an installation leaves as it was. -/
theorem Installed.memory {w : HookWorld W} {p after : HookPath F} (installed : Installed w p after)
    {x : UInt64} (outside : w.windows.Outside x) (apart : 16 ≤ (x - w.inputs.target).toNat) :
    after.patch.memory x = p.patch.memory x := by
  obtain ⟨n, trampolineAddr, gatewayAddr, long, short, realized⟩ := installed.patched
  have target : w.plan.targetAddr = w.inputs.target := patchPlan_target ..
  have atTrampoline := outside.1 trampolineAddr realized.blocks.1
  have atGateway := outside.2 gatewayAddr realized.blocks.2
  rw [realized.memory, overwrite_outside, overwrite_outside, overwrite_outside]
  · rw [trampoline_length short]
    omega
  · rw [gateway_length]
    split <;> omega
  · rw [patchBytes_length long, target]
    omega

omit [FloatClass F] [CFloat F] in
theorem Tracks.keep {s' : Watched F} (tracks : Tracks worlds n start s)
    (same : SamePath s.path s'.path) (hooked : s'.hooked.isSome = s.hooked.isSome)
    (patched : s'.patched = s.patched) {m : Nat}
    (listens : ∀ h, s'.hooked = some h → Listens h s'.path ∧ h.passed.length ≤ m) :
    Tracks worlds m start s' := by
  refine ⟨?_, ?_, ?_, listens, ?_⟩
  · rw [same.candidate, hooked, tracks.ready]
  · rw [same.registered, hooked, tracks.registered]
  · rw [same.provided, hooked, tracks.provided]
  · rw [same.patch, patched]
    exact tracks.memory

theorem Tracks.install (tracks : Tracks worlds n start s) {w : HookWorld W} (member : w ∈ worlds) :
    Tracks worlds n start (watchStep s (.install w)) := by
  rcases clf4PhicInstallWithProvider_cases w s.path with
    ⟨-, done, installed⟩ | ⟨-, failed, declined⟩
  · have after : watchStep s (.install w) = ⟨(clf4PhicInstallWithProvider w s.path).2,
        some ⟨w.active, w.addressesReady, []⟩, w.inputs.target :: s.patched⟩ := by
      simp [watchStep, hookStep, done]
    rw [after]
    refine ⟨installed.ready, installed.registered, installed.provided, fun h is => ?_, ?_⟩
    · obtain rfl := Option.some.inj is
      obtain ⟨probe, probed, config, ready, supported, update, input, counted, mismatched, sampled⟩ :=
        installed.probe
      refine ⟨⟨?_, ?_, ?_, ?_, ?_, ?_, ?_, ?_, ?_, ?_, ?_, List.forall_mem_nil _⟩, Nat.zero_le _⟩
      · rw [probed]
        exact config
      · rw [probed]
        exact ready
      · rw [probed]
        exact supported
      · rw [probed]
        show _ = ((_ || probe.resolvedUpdateAddr != 0) && (_ || probe.resolvedInputAddr != 0))
        rw [update, input]
        rfl
      · rw [probed]
        rfl
      · rw [probed]
        exact congrArg UInt32.toNat counted
      · rw [probed]
        exact congrArg UInt32.toNat mismatched
      · rw [probed]
        exact congrArg (Option.map (·.state)) sampled
      · rw [installed.fallback]
      · rw [installed.probeProvider]
        exact ⟨rfl, rfl⟩
      · rw [installed.adapter]
    · intro x outside apart
      obtain ⟨here, before⟩ := List.forall_mem_cons.mp apart
      exact (installed.memory (outside w member) here).trans (tracks.memory x outside before)
  · have after : watchStep s (.install w) =
        ⟨(clf4PhicInstallWithProvider w s.path).2, none, s.patched⟩ := by
      simp [watchStep, hookStep, failed]
    rw [after]
    refine ⟨declined.ready, declined.registered, declined.provided, fun h is => (by cases is), ?_⟩
    intro x outside apart
    exact (declined.memory x (outside w member)).trans (tracks.memory x outside apart)

/-- One step of the path. -/
theorem Tracks.step (tracks : Tracks worlds n start s) (e : HookEvent F W)
    (member : ∀ w ∈ e.worlds, w ∈ worlds) (few : n + (if e.emits then 1 else 0) < 2 ^ 32) :
    Tracks worlds (n + if e.emits then 1 else 0) start (watchStep s e) := by
  cases e with
  | install w => exact tracks.install (member w List.mem_cons_self)
  | uninstall =>
      exact ⟨rfl, rfl, rfl, fun h is => (by cases is), tracks.memory⟩
  | reset =>
      exact ⟨rfl, rfl, rfl, fun h is => (by cases is), tracks.memory⟩
  | emit kind args =>
      have same : SamePath s.path (watchStep s (.emit kind args : HookEvent F W)).path :=
        dispatchEmit_same kind args s.path
      refine tracks.keep same Option.isSome_map rfl fun h is => ?_
      obtain ⟨before, hooked, rfl⟩ := Option.map_eq_some_iff.mp is
      obtain ⟨listens, bound⟩ := tracks.listens before hooked
      have registered : s.path.stub.registeredCallback = true := by rw [tracks.registered, hooked]; rfl
      simp only [HookEvent.emits, if_true] at few ⊢
      refine ⟨listens.dispatchEmit registered (by omega) kind args, ?_⟩
      have one : (letThrough before.config.expectedLocalPlayerId args).toList.length ≤ 1 := by
        cases letThrough before.config.expectedLocalPlayerId args <;> simp
      rw [Hooked.hear, List.length_append]
      omega
  | submit args =>
      refine ⟨tracks.ready, tracks.registered, tracks.provided, fun h is => ?_, tracks.memory⟩
      obtain ⟨listens, bound⟩ := tracks.listens h is
      refine ⟨listens.of_same rfl ?_ ⟨rfl, rfl⟩ rfl, bound⟩
      exact lpoLiveProviderSubmit_fallback args s.path.provider
  | capture =>
      have after : (watchStep s (.capture : HookEvent F W)).path = (lpoProviderCapture s.path).2 :=
        lpoCapture_snd s.path
      cases provided : s.path.provided with
      | false =>
          rw [lpoProviderCapture, if_neg (by simp [provided])] at after
          have same : SamePath s.path (watchStep s (.capture : HookEvent F W)).path := by
            rw [after]
            exact ⟨rfl, rfl, rfl, rfl, rfl⟩
          refine tracks.keep same rfl rfl fun h is => ?_
          rw [tracks.provided, show s.hooked = some h from is] at provided
          cases provided
      | true =>
          obtain ⟨same, probe, live, adapter, config⟩ := probeProviderCapture_same s.path
          rw [lpoProviderCapture, if_pos provided] at after
          have kept : SamePath s.path (watchStep s (.capture : HookEvent F W)).path := by
            rw [after]
            exact same
          refine tracks.keep kept rfl rfl fun h is => ?_
          obtain ⟨listens, bound⟩ := tracks.listens h is
          refine ⟨?_, bound⟩
          rw [after]
          exact listens.of_same probe (by rw [live]) config (by rw [adapter])

/-- Over every run of an unhooked process, with fewer than `2 ^ 32` callbacks. -/
theorem run_hookSeen (patch : HookProcess) (provider : LiveProvider F)
    (observer : LocalPlayerObserver F) (events : List (HookEvent F W))
    (few : events.countP (·.emits) < 2 ^ 32) :
    Sees (events.flatMap (·.worlds)) (unhooked patch provider observer)
      (run watchStep (unhooked patch provider observer) events) := by
  have all : ∀ (events : List (HookEvent F W)), events.countP (·.emits) < 2 ^ 32 →
      ∀ worlds, (∀ w ∈ events.flatMap (·.worlds), w ∈ worlds) →
        Tracks worlds (events.countP (·.emits)) (unhooked patch provider observer)
          (run watchStep (unhooked patch provider observer) events) := by
    intro events
    induction events using List.reverseRecOn with
    | nil =>
        exact fun _ _ _ => ⟨rfl, rfl, rfl, fun h is => (by cases is), fun _ _ _ => rfl⟩
    | append_singleton events e ih =>
        intro few worlds within
        rw [List.countP_append, List.countP_singleton] at few ⊢
        rw [List.flatMap_append, List.forall_mem_append, List.flatMap_singleton] at within
        rw [run_snoc]
        exact (ih (by omega) worlds within.1).step e within.2 few
  exact (all events few _ fun _ member => member).sees

end Sees

/-- A process in which `CreatePlayerControlHandlers` starts as the function of `r11Process` does. -/
def handlersProcess : HookProcess :=
  { r11Process with
    memory := overwrite 0x140001000 ([0x49, 0xBB] ++ Wire.leBytes 8 0 ++ [0x41, 0x53]) fun _ => 0xCC }

/-- A game that offers all addresses, and a site that has a detour. -/
def handlersWorld : HookWorld ExactAddressProviderData where
  f4se := some ⟨runtime111191, 0⟩
  provider := some (clf4AddressProviderMakeExact (fun _ => true)
    fun _ => ⟨true, 0x140001000, .addressLibrary⟩)
  config := some {
    expectedLocalPlayerId := 7
    requireHookCorrect := true
    patchAllowed := true
    requireUpdateAddress := true
    requireInputAddress := false
    requireCallbackAfterInstall := true
    patchPolicy := none
    sitePrototype := some { clf4PhdspDefault with
      updateSymbolName := some (ascii "CreatePlayerControlHandlers") }
    siteCandidate := none }
  executable := fun _ => true
  detours := ⟨0x140002000, 0x140003000⟩
  windows := ⟨none, some 0x20000, some 0x30000, true, 0, 0x40000⟩

theorem run_hookSeen_handlers :
    let start : Watched Binary32 := unhooked handlersProcess (lpoLiveProviderInstall 7) (lpoInit 7)
    let sample : CommonLibF4PlayerHookArgs Binary32 :=
      ⟨⟨0, ⟨lit 9 1, lit 0 1, lit 0 1⟩, zeroRot, zeroVec, 0, 0, 0⟩⟩
    let events : List (HookEvent Binary32 ExactAddressProviderData) :=
      [.install handlersWorld, .emit .realHook (some sample), .capture]
    (run watchStep start events).path.candidate.pathReady = true ∧
      Sees [handlersWorld] start (run watchStep start events) := by
  intro start sample events
  exact ⟨by decide +kernel, run_hookSeen handlersProcess (lpoLiveProviderInstall 7) (lpoInit 7) events
    (by decide +kernel)⟩

end F4MP.Client

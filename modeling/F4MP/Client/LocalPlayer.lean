import F4MP.Client.LiveProvider
import F4MP.Client.MovementCadence
import F4MP.Client.Handshake

/-!
# From the hook to the message

`local_player_observer.c` between the live provider and the movement sync bridge: what the hook submits,
what is captured of it, and what is reported of that.
-/

namespace F4MP.Client
open SoftFloat CFloat Protocol MessageFlags Service Transition

variable {F : Type} [CFloat F]

/-! ## The observer -/

/-- The static state of `local_player_observer.c`. -/
structure LocalPlayerObserver (F : Type) where
  state : FlaggedState F
  localPlayerId : PlayerId

def lpoInit (localPlayerId : PlayerId) : LocalPlayerObserver F where
  state := { FlaggedState.zero with playerId := localPlayerId }
  localPlayerId := localPlayerId

/-- `lpo_capture`, with the live provider installed. -/
def lpoCapture (o : LocalPlayerObserver F) (live : LocalPlayerObserverLiveProviderState F) :
    Option (FlaggedState F) × LocalPlayerObserverLiveProviderState F :=
  match liveProviderCapture true live with
  | (some outState, live) =>
      (some { outState with
        playerId := if outState.playerId = 0 then o.localPlayerId else outState.playerId
        valid := true }, live)
  | (none, live) => (if o.state.valid then some o.state else none, live)

/-! ## The local player -/

structure LocalPlayer (F : Type) where
  provider : LiveProvider F
  observer : LocalPlayerObserver F
  bridge : MovementSyncBridge F

/-- A process that has just joined as this player. -/
def joinedPlayer (cfg : Option (MovementSyncBridgeConfig F)) (p : PlayerId) : LocalPlayer F where
  provider := lpoLiveProviderInstall p
  observer := lpoInit p
  bridge := msbInit cfg

/-- What `lpo_capture` gives the bridge. -/
def LocalPlayer.captured (l : LocalPlayer F) : Option (LocalPlayerObservedState F) :=
  (lpoCapture l.observer l.provider.live).1.map (·.toLocalPlayerObservedState)

/-- `msb_build_player_state_if_changed`, which captures first. -/
def LocalPlayer.build (l : LocalPlayer F) : Option (MsgPlayerState F) × LocalPlayer F :=
  let (captured, live) := lpoCapture l.observer l.provider.live
  let l := { l with provider := { l.provider with live } }
  match captured with
  | none => (none, l)
  | some cur =>
      let (msg, bridge) := msbBuildPlayerStateIfChanged cur.toLocalPlayerObservedState l.bridge
      (msg, { l with bridge })

theorem LocalPlayer.build_eq (l : LocalPlayer F) : l.build =
    (l.captured.bind (msbReport l.bridge), { l with
      provider := { l.provider with live := (liveProviderCapture true l.provider.live).2 }
      bridge := (l.captured.elim l.bridge (msbStep l.bridge)) }) := by
  have live : (lpoCapture l.observer l.provider.live).2 =
      (liveProviderCapture true l.provider.live).2 := by
    rw [lpoCapture]
    rcases liveProviderCapture true l.provider.live with ⟨_ | _, after⟩ <;> rfl
  rw [build, captured, ← live]
  rcases lpoCapture l.observer l.provider.live with ⟨_ | cur, after⟩ <;> rfl

/-! ## Samples -/

section Samples
variable [FloatClass F]

/-- `lpo_live_provider_submit`, as the hook calls it. -/
def LocalPlayer.submit (args : Option (CommonLibF4PlayerHookArgs F)) (l : LocalPlayer F) :
    LocalPlayer F :=
  { l with provider := (lpoLiveProviderSubmit args l.provider).2 }

omit [CFloat F] in
theorem clf4PlaNormalize_named {args : Option (CommonLibF4PlayerHookArgs F)} {hasOut : Bool}
    {stats after : CommonLibF4PlayerLiveAdapterStats F} {sample : CommonLibF4PlayerLiveSample F}
    (accepted : clf4PlaNormalize args hasOut stats = (some sample, after)) :
    ∃ hooked, args = some hooked ∧ sample.state.playerId =
      if hooked.event.playerId ≠ 0 then hooked.event.playerId else stats.fallbackPlayerId := by
  cases args with
  | none => cases accepted
  | some hooked =>
      obtain ⟨resolved, isResolved⟩ : ∃ resolved, resolved =
        if hooked.event.playerId ≠ 0 then hooked.event.playerId else stats.fallbackPlayerId := ⟨_, rfl⟩
      refine ⟨hooked, rfl, Eq.trans ?_ isResolved⟩
      simp only [clf4PlaNormalize, ← isResolved] at accepted
      split_ifs at accepted
      all_goals cases accepted
      rfl

omit [CFloat F] in
theorem clf4PlaNormalize_fallback (args : Option (CommonLibF4PlayerHookArgs F)) (hasOut : Bool)
    (stats : CommonLibF4PlayerLiveAdapterStats F) :
    (clf4PlaNormalize args hasOut stats).2.fallbackPlayerId = stats.fallbackPlayerId := by
  simp only [clf4PlaNormalize]
  repeat' split
  all_goals rfl

omit [CFloat F] in
theorem lpoLiveProviderSubmit_fallback (args : Option (CommonLibF4PlayerHookArgs F))
    (p : LiveProvider F) :
    (lpoLiveProviderSubmit args p).2.adapter.fallbackPlayerId = p.adapter.fallbackPlayerId := by
  have kept := clf4PlaNormalize_fallback args true p.adapter
  rw [lpoLiveProviderSubmit]
  split
  · rfl
  · generalize clf4PlaNormalize args true p.adapter = normalized at kept ⊢
    obtain ⟨_ | sample, adapter⟩ := normalized
    · exact kept
    · exact kept

/-- The process of a player behind the samples of its hook that were accepted. -/
structure Observes (p : PlayerId) (accepted : List (FlaggedState F)) (l : LocalPlayer F) : Prop where
  provides : Provides l.provider accepted
  fallback : l.provider.adapter.fallbackPlayerId = p
  named : ∀ state ∈ accepted, state.playerId = p
  observer : l.observer = lpoInit p

namespace Observes
variable {p : PlayerId} {accepted : List (FlaggedState F)} {l : LocalPlayer F}

omit [FloatClass F] in
theorem captured (observes : Observes p accepted l) (somebody : p ≠ 0) :
    l.captured = accepted.getLast?.map (·.toLocalPlayerObservedState) := by
  have latest := observes.provides.capture_eq
  rw [LocalPlayer.captured, lpoCapture, observes.observer]
  generalize liveProviderCapture true l.provider.live = result at latest ⊢
  obtain ⟨_ | state, live⟩ := result
  · rw [← latest]
    rfl
  · have named : state.playerId = p := observes.named state (List.mem_of_getLast? latest.symm)
    rw [← latest, Option.map_some]
    simp only [named, if_neg somebody, Option.map_some]
    rw [← named]

theorem submit (observes : Observes p accepted l) {args : Option (CommonLibF4PlayerHookArgs F)}
    (own : ∀ hooked ∈ args, hooked.event.playerId = 0 ∨ hooked.event.playerId = p) :
    Observes p (accepted ++ (acceptedState l.provider (.submit args)).toList) (l.submit args) where
  provides := observes.provides.submit args
  fallback := (lpoLiveProviderSubmit_fallback args l.provider).trans observes.fallback
  named state member := by
    rcases List.mem_append.mp member with earlier | now
    · exact observes.named state earlier
    · have taken := Option.mem_toList.mp now
      rw [acceptedState] at taken
      split at taken
      · obtain ⟨sample, normalized, rfl⟩ := Option.map_eq_some_iff.mp taken
        obtain ⟨hooked, rfl, named⟩ := clf4PlaNormalize_named (Prod.ext normalized rfl)
        rw [named, observes.fallback]
        split
        · rename_i somebody
          exact (own hooked rfl).resolve_left somebody
        · rfl
      · cases taken
  observer := observes.observer

omit [FloatClass F] in
theorem build (observes : Observes p accepted l) : Observes p accepted l.build.2 := by
  rw [LocalPlayer.build_eq]
  exact ⟨observes.provides.capture true, observes.fallback, observes.named, observes.observer⟩

end Observes

theorem joinedPlayer_observes (cfg : Option (MovementSyncBridgeConfig F)) (p : PlayerId) :
    Observes p [] (joinedPlayer cfg p) :=
  ⟨run_provides p [], rfl, List.forall_mem_nil _, rfl⟩

end Samples

/-! ## Reports -/

/-- The message says of the player what was captured. -/
structure Describes (cfg : MovementSyncBridgeConfig F) (msg : MsgPlayerState F)
    (cur : LocalPlayerObservedState F) : Prop where
  playerId : msg.playerId = cur.playerId
  position : msg.position = cur.position
  rotation : msg.rotation = cur.rotation
  velocity : msg.velocity = if cfg.sendVelocity then cur.velocity else zeroVec
  stance : msg.stance = cur.stance
  animState : msg.animState = cur.animState
  equippedFormId : msg.equippedFormId = cur.equippedFormId

section Reports
variable {b : MovementSyncBridge F} {cur last : LocalPlayerObservedState F} {msg : MsgPlayerState F}
  {cfg : Option (MovementSyncBridgeConfig F)} {captures : List (LocalPlayerObservedState F)}

theorem msbReport_describes (reported : msbReport b cur = some msg) : Describes b.cfg msg cur := by
  have emits : ∀ b' : MovementSyncBridge F, b'.cfg = b.cfg → (b'.emit cur).1 = some msg →
      Describes b.cfg msg cur := by
    rintro b' same is
    obtain rfl := Option.some.inj is
    exact ⟨rfl, rfl, rfl, by rw [same], rfl, rfl, rfl⟩
  rw [msbReport] at reported
  unfold msbBuildPlayerStateIfChanged at reported
  dsimp only at reported
  split at reported
  · exact emits _ (by exact rfl) reported
  · split at reported
    · cases reported
    · split at reported
      · split at reported
        · cases reported
        · split at reported
          · cases reported
          · exact emits _ (by exact rfl) reported
      · exact emits _ (by exact rfl) reported

/-- A report is ahead of all that were made before. -/
theorem msbReport_ahead (few : captures.length + 1 < 2 ^ 32)
    (reported : msbReport (bridgeAfter cfg captures) cur = some msg) :
    0 < msg.stateSequence ∧ 0 < msg.observedTick ∧ ∀ earlier ∈ messages cfg captures,
      earlier.stateSequence < msg.stateSequence ∧ earlier.observedTick < msg.observedTick := by
  obtain ⟨numbers, _, fewer, ticks⟩ := @messages_numbered _ _ cfg captures (Nat.lt_of_succ_lt few)
  obtain ⟨_, sequence, tick⟩ := bridgeAfter_counts cfg captures
  have emitted := msbReport_some reported
  have number : msg.stateSequence.toNat = (messages cfg captures).length + 1 := by
    rw [emitted.msgSequence, emitted.sequence, sequence, ← UInt32.ofNat_one, ← UInt32.ofNat_add,
      UInt32.toNat_ofNat', Nat.mod_eq_of_lt (by omega)]
  have clock : msg.observedTick.toNat = captures.length + 1 := by
    rw [emitted.msgTick, emitted.tick, tick, ← UInt32.ofNat_one, ← UInt32.ofNat_add,
      UInt32.toNat_ofNat', Nat.mod_eq_of_lt few]
  simp only [UInt32.lt_iff_toNat_lt, number, clock]
  refine ⟨Nat.succ_pos _, Nat.succ_pos _, fun earlier listed => ⟨?_, ?_⟩⟩
  · have inside := List.mem_map_of_mem (f := (·.stateSequence.toNat)) listed
    rw [numbers, List.mem_range'_1] at inside
    omega
  · have bound := ticks earlier listed
    omega

/-- What the last report of a run says of the last capture: it is of this capture, of one that the bridge
takes for the same, or of one that is fewer than the minimum interval of captures old. -/
inductive Current (cfg : Option (MovementSyncBridgeConfig F))
    (captures : List (LocalPlayerObservedState F)) (msg : MsgPlayerState F)
    (cur : LocalPlayerObservedState F) : Prop where
  | now (describes : Describes (msbInit cfg).cfg msg cur)
  | same (last : LocalPlayerObservedState F) (describes : Describes (msbInit cfg).cfg msg last)
      (unchanged : (msbInit cfg).cfg.changed last cur = false)
  | recent (before silent : List (LocalPlayerObservedState F)) (last : LocalPlayerObservedState F)
      (split : captures = before ++ last :: (silent ++ [cur]))
      (describes : Describes (msbInit cfg).cfg msg last)
      (soon : silent.length + 1 < (msbInit cfg).cfg.minSendIntervalTicks.toNat)

theorem messages_silent {silent : List (LocalPlayerObservedState F)}
    (quiet : Silent (bridgeAfter cfg captures) silent) :
    messages cfg (captures ++ silent) = messages cfg captures := by
  rw [messages, emitted_append]
  exact (congrArg (messages cfg captures ++ ·) quiet).trans (List.append_nil _)

/-- The capture that the last report is of. -/
theorem last_describes (known : (bridgeAfter cfg captures).last = some last) :
    ∃ msg, (messages cfg captures).getLast? = some msg ∧ Describes (msbInit cfg).cfg msg last := by
  obtain ⟨before, silent, rfl, sent, quiet⟩ := last_sent known
  obtain ⟨msg, reported⟩ := Option.isSome_iff_exists.mp sent
  have described := msbReport_describes reported
  rw [(bridgeAfter_counts cfg before).1] at described
  refine ⟨msg, ?_, described⟩
  rw [← List.singleton_append, ← List.append_assoc, messages_silent quiet, messages_snoc, reported,
    Option.toList_some, List.getLast?_concat]

theorem messages_current (few : captures.length + 1 < 2 ^ 32) :
    ∃ msg, (messages cfg (captures ++ [cur])).getLast? = some msg ∧
      Current cfg (captures ++ [cur]) msg cur := by
  have sameCfg := (bridgeAfter_counts cfg captures).1
  rw [messages_snoc]
  cases reported : msbReport (bridgeAfter cfg captures) cur with
  | some msg =>
      rw [Option.toList_some, List.getLast?_concat]
      exact ⟨msg, rfl, .now (sameCfg ▸ msbReport_describes reported)⟩
  | none =>
      rw [Option.toList_none, List.append_nil]
      cases known : (bridgeAfter cfg captures).last with
      | none =>
          have something := msbReport_first known cur
          rw [reported] at something
          cases something
      | some last =>
          obtain ⟨msg, latest, described⟩ := last_describes known
          refine ⟨msg, latest, ?_⟩
          cases msbBuild_outcome known cur with
          | still same | quiet same => exact .same last described (sameCfg ▸ same)
          | refreshed _ _ _ something | changed _ _ something =>
              rw [reported] at something
              cases something
          | limited _ early =>
              obtain ⟨before, silent, rfl, sent, quiet⟩ := last_sent known
              obtain ⟨emitTick, waited⟩ := sent_waited sent quiet
              rw [bridgeAfter_append] at early sameCfg
              simp only [MovementSyncBridge.limited, Bool.and_eq_true, decide_eq_true_eq] at early
              have soon : _ - _ < _ := early.2
              rw [List.length_append, List.length_cons] at few
              rw [MovementSyncBridge.tick] at soon
              have passed := passed_ticks emitTick waited
              rw [MovementSyncBridge.tick] at passed
              rw [passed, sameCfg, UInt32.lt_iff_toNat_lt, UInt32.toNat_ofNat',
                Nat.mod_eq_of_lt (by omega)] at soon
              exact .recent before silent last (by simp) described soon

end Reports

/-! ## What is sent -/

section Sending
variable [WireFloat F] [LawfulWireFloat F]

/-- The datagram that a client sends a report in. -/
def stateDatagram (c : PluginTransportClient) (msg : MsgPlayerState F) : List UInt8 :=
  packetBytes c.sessionId (c.sequence + 1) .playerState ch1World msg

omit [CFloat F] in
theorem ptcSendPlayerState_sends (sockets : Sockets) (msg : MsgPlayerState F)
    (c : PluginTransportClient) : ptcSendPlayerState sockets msg c =
      (sockets.stSend (stateDatagram c msg), { c with sequence := c.sequence + 1 }) := by
  rw [ptcSendPlayerState, stateDatagram, ptcSendOne_sendable]
  exact sendable_of_plainMessage rfl _

end Sending

end F4MP.Client

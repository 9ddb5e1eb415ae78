import F4MP.Service.Alignment
import F4MP.Service.Isolation

/-!
# A restarted client

A client that starts again counts its PLAYER_STATEs from 1 again. Its GUID is given the slot it had,
and the relay statistics in that slot still hold what the earlier connection had reached.
-/

namespace F4MP.Service
open SoftFloat Protocol Transition MessageFlags

variable {F : Type}

/-! ## The first message of a client -/

/-- The first message of a movement bridge after `msb_init`. -/
structure FirstState (msg : MsgPlayerState F) : Prop where
  sequence : msg.stateSequence = 1
  tick : msg.observedTick = 1

/-- Nothing was counted that a first message would have to come after. -/
def Restartable (stats : PlayerStateRelayStats) : Prop :=
  (stats.lastSequence = 0 ∧ stats.lastObservedTick ≤ 1) ∨
    (stats.lastSequence = 1 ∧ stats.lastObservedTick = 0)

instance (stats : PlayerStateRelayStats) : Decidable (Restartable stats) := by
  unfold Restartable
  exact instDecidableOr

/-- A message is accepted that is behind the last one in neither count. -/
theorem psrEvaluate_accept_iff {stats : PlayerStateRelayStats} {msg : MsgPlayerState F} :
    (psrEvaluate stats msg).1 = .accept ↔
      ¬ (msg.stateSequence ≠ 0 ∧ stats.lastSequence ≠ 0 ∧ msg.stateSequence < stats.lastSequence) ∧
      ¬ (msg.stateSequence ≠ 0 ∧ msg.stateSequence = stats.lastSequence ∧ msg.observedTick ≠ 0 ∧
        stats.lastObservedTick ≠ 0 ∧ msg.observedTick ≤ stats.lastObservedTick) ∧
      ¬ (msg.observedTick ≠ 0 ∧ stats.lastObservedTick ≠ 0 ∧
        msg.observedTick < stats.lastObservedTick) := by
  unfold psrEvaluate
  split
  · rename_i behind
    exact ⟨nofun, fun fresh => absurd behind fresh.1⟩
  · rename_i ahead
    split
    · rename_i repeated
      exact ⟨nofun, fun fresh => absurd repeated fresh.2.1⟩
    · rename_i moved
      split
      · rename_i regressive
        exact ⟨nofun, fun fresh => absurd regressive fresh.2.2⟩
      · rename_i later
        exact ⟨fun _ => ⟨ahead, moved, later⟩, fun _ => rfl⟩

theorem psrEvaluate_first_iff {stats : PlayerStateRelayStats} {msg : MsgPlayerState F}
    (first : FirstState msg) : (psrEvaluate stats msg).1 = .accept ↔ Restartable stats := by
  rw [psrEvaluate_accept_iff, first.sequence, first.tick, Restartable]
  simp only [ne_eq, ← UInt32.toNat_inj, UInt32.lt_iff_toNat_lt, UInt32.le_iff_toNat_le,
    UInt32.reduceToNat]
  omega

section Steps
variable [CFloat F] [WireFloat F]

/-! ## Waiting for it -/

/-- The player stays connected, and none of its PLAYER_STATEs arrives. -/
def Undisturbed (id : PlayerId) (s : ServiceState F) (e : ServiceEvent F) : Prop :=
  (findPlayer (serviceStep s e).session id).isSome ∧
    match e with
    | .envelope _ env => ∀ player ∈ tlFindPlayerByConnection s.session env.connectionId,
        player.playerId = id → packetType? env.bytes ≠ some .playerState
    | _ => True

instance (id : PlayerId) (s : ServiceState F) (e : ServiceEvent F) :
    Decidable (Undisturbed id s e) := by
  unfold Undisturbed
  refine @instDecidableAnd _ _ _ ?_
  split
  · infer_instance
  · exact instDecidableTrue

/-- The player is connected, and its slot has these relay statistics. -/
structure Waiting (id : PlayerId) (stats : PlayerStateRelayStats) (s : ServiceState F) : Prop where
  aligned : Aligned s.roster
  held : ∃ p ∈ s.session.players.slots, p.connected = true ∧ p.playerId = id ∧ p.relayStats = stats

theorem serviceStep_slots (s : ServiceState F) {e : ServiceEvent F}
    (noEnvelope : ∀ store env, e ≠ .envelope store env) {p : PlayerRuntimeState F}
    (listed : p ∈ (serviceStep s e).session.players.slots) :
    ∃ q ∈ s.session.players.slots, p = q ∨ p = { q with connected := false, connectionId := 0 } := by
  have unchanged : (serviceStep s e).session.players = s.session.players →
      ∃ q ∈ s.session.players.slots, p = q ∨ p = { q with connected := false, connectionId := 0 } :=
    fun same => ⟨p, same ▸ listed, .inl rfl⟩
  cases e with
  | envelope store env => exact absurd rfl (noEnvelope store env)
  | tick =>
      simp only [serviceStep, tlTick_posts, tickSession_players, timedOutSession] at listed
      exact mem_smRemovePlayers listed
  | clearOutputs => exact unchanged rfl
  | popDialogueSelect =>
      refine unchanged ?_
      obtain ⟨_, _, _, frame⟩ := popDialogueSelect_frame s
      rw [frame]
  | setPlayerTimeoutTicks => exact unchanged rfl
  | spawnHostile baseFormId position =>
      refine unchanged ?_
      obtain ⟨_, frame⟩ := spawnHostile_frame s baseFormId position
      rw [frame]
  | allocSettlement settlementId center radius budget =>
      refine unchanged ?_
      obtain ⟨_, frame⟩ := allocSettlement_frame s settlementId center radius budget
      rw [frame]
  | rebuildBubble => exact unchanged rfl
  | setTrace => exact unchanged rfl
  | host event => exact unchanged (hostStep_players s event).1

theorem serviceStep_players (s : ServiceState F) {e : ServiceEvent F}
    (noEnvelope : ∀ store env, e ≠ .envelope store env) {p : PlayerRuntimeState F}
    (listed : p ∈ (serviceStep s e).session.players.slots) (connected : p.connected = true) :
    p ∈ s.session.players.slots := by
  obtain ⟨q, member, rfl | rfl⟩ := serviceStep_slots s noEnvelope listed
  · exact member
  · cases connected

variable [LawfulWireFloat F]

omit [WireFloat F] [LawfulWireFloat F] in
theorem SlotStep.relayStats {env : TransportEnvelope} {s : ServiceState F}
    {slots : List (PlayerRuntimeState F)} (step : SlotStep env s slots) {id : PlayerId}
    {stats : PlayerStateRelayStats} (waiting : Waiting id stats s)
    (quiet : ∀ player ∈ tlFindPlayerByConnection s.session env.connectionId,
      player.playerId = id → packetType? env.bytes ≠ some .playerState)
    {q : PlayerRuntimeState F} (listed : q ∈ slots) (named : q.playerId = id) :
    q.relayStats = stats := by
  obtain ⟨aligned, p, member, connected, held, rfl⟩ := waiting
  have taken := aligned.connected_ne_zero member connected
  have sole : ∀ other ∈ s.session.players.slots, other.playerId = id → other = p :=
    fun other old same => aligned.slot_unique member old taken (same.trans held.symm)
  cases step with
  | unwritten => rw [sole q listed named]
  | own byConnection _ at_ _ same _ counted =>
      rcases List.mem_or_eq_of_mem_set listed with old | rfl
      · rw [sole q old named]
      · have own := same.symm.trans named
        obtain rfl := sole _ (List.mem_of_getElem? at_) own
        exact counted.resolve_right (quiet _ byConnection own)
  | seated _ given takesSlot =>
      rcases List.mem_or_eq_of_mem_set listed with old | rfl
      · rw [sole q old named]
      · rcases takesSlot with ⟨unbound, rfl⟩ | ⟨_, old, listed', same, rfl⟩
        · -- A new player is given a free seat, and this one is taken.
          rw [ServiceState.seatFor, unbound, Option.none_or, candidateId_lowestFree] at given
          obtain ⟨k, at_⟩ := List.mem_iff_getElem?.mp member
          exact absurd (held.trans named.symm) (lowestFree_free given (seats_get at_) connected)
        · rw [← sole old listed' named]
          rfl

theorem serviceStep_waiting {id : PlayerId} {stats : PlayerStateRelayStats} {s : ServiceState F}
    {e : ServiceEvent F} (waiting : Waiting id stats s) (undisturbed : Undisturbed id s e) :
    Waiting id stats (serviceStep s e) := by
  have aligned := serviceStep_aligned waiting.aligned e
  obtain ⟨q, found⟩ := Option.isSome_iff_exists.mp undisturbed.1
  have held := List.find?_some found
  rw [Bool.and_eq_true, beq_iff_eq] at held
  obtain ⟨connected, named⟩ := held
  have listed := List.mem_of_find?_eq_some found
  refine ⟨aligned, q, listed, connected, named, ?_⟩
  by_cases envelope : ∃ store env, e = .envelope store env
  · obtain ⟨store, env, rfl⟩ := envelope
    obtain ⟨sequence, posts, outcome⟩ := tlHandleEnvelope_outcome store env s
    have before : Waiting id stats (received s sequence) := ⟨waiting.aligned, waiting.held⟩
    have step := outcome.slots before.aligned
    exact step.relayStats before undisturbed.2 listed named
  · have old := serviceStep_players s (fun store env same => envelope ⟨store, env, same⟩) listed
      connected
    obtain ⟨before, p, member, here, same, counted⟩ := waiting
    have taken := before.connected_ne_zero member here
    rw [before.slot_unique member old taken (named.trans same.symm), counted]

theorem accepted_waiting {store : ProfileStore} {env : TransportEnvelope} {s : ServiceState F}
    {playerGuid playerName : Text} (hello : helloOf? env.bytes = some (playerGuid, playerName))
    (accepted : (tlHandleEnvelope store env s).1 = true) (aligned : Aligned s.roster)
    {slot : PlayerRuntimeState F} (listed : slot ∈ s.session.players.slots)
    (bound : srFindPlayerId s.registry playerGuid = some slot.playerId) :
    Waiting slot.playerId slot.relayStats (tlHandleEnvelope store env s).2 := by
  obtain ⟨sequence, id, taken, filled, takes, _, after⟩ := tlHandleEnvelope_accepted hello accepted
  refine ⟨serviceStep_aligned aligned (.envelope store env), ?_⟩
  have before : Aligned (received s sequence).roster := aligned
  obtain ⟨seat, takesSlot, _, slots⟩ := fillSeat_slots store before playerName takes
  have given := takeSeat_seatFor before takes
  have present := (aligned.bound.find bound).1
  rcases takesSlot with ⟨unbound, _⟩ | ⟨found, old, member, same, rfl⟩
  · exact absurd (bound.symm.trans unbound) nofun
  · obtain rfl : slot.playerId = id := Option.some.inj (bound.symm.trans found)
    obtain rfl := aligned.slot_unique listed member present same
    obtain ⟨low, high⟩ := aligned.seatFor ((seatFor_roster _ playerGuid).symm.trans given)
    refine ⟨fillSlot store playerGuid playerName env.connectionId taken.ctx.currentTick
      { old with connected := true, connectionId := env.connectionId }, ?_, rfl, rfl, rfl⟩
    rw [after, post_session, slots]
    refine List.mem_set ?_ _
    rw [(received s sequence).session.players.size, maxPlayersPerSession]
    omega

/-! ## Relaying it -/

/-- The slot of the player accepts the PLAYER_STATE in this envelope and keeps it, and every connected
player is sent it. -/
structure Relayed (store : ProfileStore) (env : TransportEnvelope) (msg : Body F .playerState)
    (s : ServiceState F) : Prop where
  accepted : ∃ slot, findPlayer s.session msg.playerId = some slot ∧
    (psrEvaluate slot.relayStats msg).1 = .accept
  kept : ∃ slot, findPlayer (tlHandleEnvelope store env s).2.session msg.playerId = some slot ∧
    slot.replicatedState = msg
  broadcast : ∀ p ∈ s.session.players.slots, p.connected = true →
    ∃ output ∈ (tlHandleEnvelope store env s).2.ctx.outputs.drop s.ctx.outputs.length,
      output.connectionId = p.connectionId ∧ Carries output.bytes .playerState msg

omit [LawfulWireFloat F] in
theorem tlHandleEnvelope_carries (store : ProfileStore) {env : TransportEnvelope}
    {type : MessageType} {msg : Body F type} (carries : Carries env.bytes type msg)
    (notHello : type ≠ .hello) (s : ServiceState F) :
    ∃ sequence r r', (decodeBody receiveCaps type : Read (Body F type)).run r = (some msg, r') ∧
      tlHandleEnvelope store env s =
        match tlFindPlayerByConnection s.session env.connectionId with
        | none => (false, received s sequence)
        | some player => tlHandlePlayerMessage (some type) env.connectionId player.playerId r
            (received s sequence) := by
  obtain ⟨ph, mh, r, r', opened, known, decoded⟩ := carries
  obtain ⟨sequence, handled⟩ := tlHandleEnvelope_opened store ⟨ph, mh, opened, known⟩ notHello s
  exact ⟨sequence, r, r', decoded, handled⟩

omit [LawfulWireFloat F] in
theorem tlHandleEnvelope_foreign (store : ProfileStore) {env : TransportEnvelope}
    {msg : Body F .playerState} (carries : Carries env.bytes .playerState msg) (s : ServiceState F)
    (foreign : ∀ player ∈ tlFindPlayerByConnection s.session env.connectionId,
      player.playerId ≠ msg.playerId) :
    (tlHandleEnvelope store env s).2.ctx.outputs = s.ctx.outputs := by
  obtain ⟨sequence, r, r', decoded, handled⟩ := tlHandleEnvelope_carries store carries nofun s
  rw [handled]
  cases byConnection : tlFindPlayerByConnection s.session env.connectionId with
  | none => rfl
  | some player =>
      have other := Ne.symm (foreign player byConnection)
      have ends : tlHandlePlayerState player.playerId r (received s sequence) =
          (false, received s sequence) := by
        have decoded : (decodeMsgPlayerState : Read (MsgPlayerState F)).run r = (some msg, r') :=
          decoded
        simp only [tlHandlePlayerState, decoded, if_pos other]
      exact congrArg (·.2.ctx.outputs) ends

/-- A PLAYER_STATE of the sender's own that its slot accepts is relayed to everyone. -/
theorem relayed_of_accepted (store : ProfileStore) {env : TransportEnvelope}
    {msg : Body F .playerState} (carries : Carries env.bytes .playerState msg) {s : ServiceState F}
    (empty : s.ctx.outputs = []) {player slot : PlayerRuntimeState F}
    (byConnection : tlFindPlayerByConnection s.session env.connectionId = some player)
    (own : msg.playerId = player.playerId) (found : findPlayer s.session player.playerId = some slot)
    (accepted : (psrEvaluate slot.relayStats msg).1 = .accept) : Relayed store env msg s := by
  obtain ⟨sequence, r, r', decoded, handled⟩ := tlHandleEnvelope_carries store carries nofun s
  have foundHere : findPlayer (received s sequence).session player.playerId = some slot := found
  rw [byConnection] at handled
  have verdict := tlHandlePlayerState_decoded decoded own foundHere
  obtain ⟨stats, decision⟩ : ∃ stats, psrEvaluate slot.relayStats msg = (.accept, stats) :=
    ⟨_, Prod.ext accepted rfl⟩
  rw [decision] at verdict
  obtain ⟨written, after, queue, session⟩ : ∃ written : ServiceState F,
      (tlHandleEnvelope store env s).2 =
        written.post (toConnected s.session .playerState ch1World msg) ∧
      written.ctx.outputs = s.ctx.outputs ∧
      written.session = updatePlayer s.session player.playerId fun p =>
        { p.evaluate s.ctx.currentTick stats with replicatedState := msg } :=
    ⟨_, congrArg Prod.snd (handled.trans verdict), rfl, rfl⟩
  refine ⟨⟨slot, own ▸ found, accepted⟩,
    ⟨{ slot.evaluate s.ctx.currentTick stats with replicatedState := msg }, ?_, rfl⟩,
    fun p listed connected => ?_⟩
  · rw [after, own, post_session, session, findPlayer_updatePlayer, found]
    · rfl
    · exact fun _ => rfl
  · have short := toConnected_length_le s.session .playerState ch1World msg
    rw [maxPlayersPerSession] at short
    rw [after, ← queue]
    refine post_queued (toConnected_sendable s.session rfl ch1World msg) ?_
      (mem_toConnected_of_connected listed connected ch1World msg)
    rw [queue, empty, List.length_nil, maxOutputs]
    omega

/-- When the first PLAYER_STATE of a client that has returned to its slot is relayed. -/
theorem restart_relayed_iff (store store' : ProfileStore) {env stateEnv : TransportEnvelope}
    {s : ServiceState F} (reachable : Reachable s) {playerGuid playerName : Text}
    (hello : helloOf? env.bytes = some (playerGuid, playerName)) {slot : PlayerRuntimeState F}
    (listed : slot ∈ s.session.players.slots)
    (bound : srFindPlayerId s.registry playerGuid = some slot.playerId)
    (accepted : (tlHandleEnvelope store env s).1 = true) {between : List (ServiceEvent F)}
    (undisturbed : Along serviceStep (Undisturbed slot.playerId) (tlHandleEnvelope store env s).2
      between)
    {msg : Body F .playerState} (carries : Carries stateEnv.bytes .playerState msg)
    (own : msg.playerId = slot.playerId) (first : FirstState msg) :
    Relayed store' stateEnv msg
        (tlClearOutputs (run serviceStep (tlHandleEnvelope store env s).2 between)) ↔
      Restartable slot.relayStats ∧ ∃ player, tlFindPlayerByConnection
        (run serviceStep (tlHandleEnvelope store env s).2 between).session
          stateEnv.connectionId = some player ∧ player.playerId = slot.playerId := by
  have returned := accepted_waiting hello accepted reachable.aligned listed bound
  have waiting := run_invariant (fun _ _ => serviceStep_waiting) returned undisturbed
  generalize run serviceStep (tlHandleEnvelope store env s).2 between = now at waiting
  obtain ⟨aligned, p, member, connected, named, counted⟩ := waiting
  obtain ⟨k, at_⟩ := List.mem_iff_getElem?.mp member
  have found : findPlayer now.session p.playerId = some p :=
    Placed.findPlayer_eq aligned.placed at_ connected
  rw [named] at found
  rw [← counted, ← psrEvaluate_first_iff first]
  constructor
  · rintro ⟨⟨held, heldAt, fresh⟩, _, broadcast⟩
    obtain rfl := Option.some.inj (found.symm.trans (own ▸ heldAt))
    refine ⟨fresh, ?_⟩
    by_contra! foreign
    obtain ⟨output, queued, _⟩ := broadcast p member connected
    have dropped := tlHandleEnvelope_foreign store' carries (tlClearOutputs now)
      fun player byConnection => own ▸ foreign player byConnection
    rw [dropped, List.drop_length] at queued
    cases queued
  · rintro ⟨fresh, player, byConnection, same⟩
    exact relayed_of_accepted store' carries (s := tlClearOutputs now) rfl byConnection
      (own.trans same.symm) (same ▸ found) fresh

end Steps

/-! ## Two restarts -/

/-- What a player of GUID `A` sends. -/
def playerEvent (connectionId : UInt32) (type : MessageType) (body : Body Binary32 type) :
    ServiceEvent Binary32 :=
  .envelope ⟨fun _ => none⟩ (envelopeOf connectionId type body)

/-- The session of a player that has joined, has reported these states and has left. -/
def leftBehind (states : List (MsgPlayerState Binary32)) : ServiceState Binary32 :=
  run serviceStep (freshService 1 15 20 [])
    ([playerEvent 100 .hello (⟨0, 0⟩, [0x41], [])] ++ states.map (playerEvent 100 .playerState) ++
      [.clearOutputs, playerEvent 100 .disconnect ⟨0⟩, .clearOutputs])

def firstState : MsgPlayerState Binary32 :=
  { zeroPlayerState with playerId := 1, stateSequence := 1, observedTick := 1 }

/-- A player that left without a word returns, and its first state is relayed. -/
theorem restart_relayed_iff_silent :
    let store : ProfileStore := ⟨fun _ => none⟩
    let env := envelopeOf (F := Binary32) 101 .hello (⟨0, 0⟩, [0x41], [])
    let stateEnv := envelopeOf (F := Binary32) 101 .playerState firstState
    Relayed store stateEnv firstState (tlClearOutputs
      (run serviceStep (tlHandleEnvelope store env (leftBehind [])).2 [.tick])) := by
  intro store env stateEnv
  have reachable : Reachable (leftBehind []) := ⟨1, 15, 20, [], _, rfl⟩
  have first : (leftBehind []).session.players.slots[0]?.map
      (fun p => (p.playerId, p.relayStats)) = some (1, ({} : PlayerStateRelayStats)) := by
    decide +kernel
  obtain ⟨slot, at_, eq⟩ := Option.map_eq_some_iff.mp first
  obtain ⟨named, counted⟩ := Prod.mk.inj eq
  have hello : helloOf? env.bytes = some ([0x41], []) := by decide +kernel
  refine (restart_relayed_iff store store reachable hello (List.mem_of_getElem? at_) (named ▸ by decide +kernel) (by decide +kernel)
    (named ▸ by decide +kernel) (messageOf?_eq_some.mp ?_) named.symm ⟨rfl, rfl⟩).mpr
    ⟨counted ▸ by decide, ?_⟩
  · decide +kernel
  · rw [named]
    decide +kernel

/-- A player that had reported a state returns, and its first state is held for an old one. -/
theorem restart_relayed_reported :
    let store : ProfileStore := ⟨fun _ => none⟩
    let env := envelopeOf (F := Binary32) 101 .hello (⟨0, 0⟩, [0x41], [])
    let stateEnv := envelopeOf (F := Binary32) 101 .playerState firstState
    let s := leftBehind [{ firstState with stateSequence := 7, observedTick := 7 }]
    Reachable s ∧ srFindPlayerId s.registry [0x41] = some 1 ∧ (findPlayer s.session 1).isNone ∧
      (tlHandleEnvelope store env s).1 = true ∧ Carries stateEnv.bytes .playerState firstState ∧
      ¬ Relayed store stateEnv firstState (tlClearOutputs (tlHandleEnvelope store env s).2) := by
  intro store env stateEnv s
  refine ⟨⟨1, 15, 20, [], _, rfl⟩, by decide +kernel, by decide +kernel, by decide +kernel,
    messageOf?_eq_some.mp (by decide +kernel), fun relayed => ?_⟩
  have rejected : (findPlayer (tlClearOutputs (tlHandleEnvelope store env s).2).session 1).all
      (fun slot => (psrEvaluate slot.relayStats firstState).1 == .reject) = true := by decide +kernel
  obtain ⟨slot, found, accepted⟩ := relayed.accepted
  have verdict := (Option.all_eq_true _ _).mp rejected slot found
  rw [accepted] at verdict
  cases verdict

end F4MP.Service

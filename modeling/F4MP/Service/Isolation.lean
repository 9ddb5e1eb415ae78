import F4MP.Service.Network
import F4MP.Service.Roster

/-!
# Isolation of players

A message of a connected player writes into that player's slot only, and whatever it creates or
reports carries that player's id. A message from anyone else is dropped.
-/

namespace F4MP.Service
open SoftFloat Protocol

variable {F : Type}

/-! ## The slot behind a connection -/

/-- The slot that `tl_find_player_by_connection` resolves. -/
def resolvedSlot (s : SessionState F) (connectionId : UInt32) : Option Nat :=
  s.players.slots.findIdx? fun p => p.connected && p.connectionId == connectionId

theorem resolvedSlot_found {s : SessionState F} {connectionId : UInt32}
    {player : PlayerRuntimeState F}
    (byConnection : tlFindPlayerByConnection s connectionId = some player) :
    ∃ k, resolvedSlot s connectionId = some k ∧ s.players.slots[k]? = some player ∧
      player.connected = true := by
  obtain ⟨hit, k, inside, rfl, before⟩ := List.find?_eq_some_iff_getElem.mp byConnection
  have connected := (Bool.and_eq_true_iff.mp hit).1
  refine ⟨k, ?_, List.getElem?_eq_getElem inside, connected⟩
  refine List.findIdx?_eq_some_iff_getElem.mpr ⟨inside, hit, fun j below => ?_⟩
  have miss := before j below
  rw [Bool.not_eq_true'] at miss
  rw [miss]
  exact Bool.false_ne_true

/-- The type of the message in an envelope that opens. -/
def packetType? (bytes : List UInt8) : Option MessageType :=
  (openPacket bytes).bind fun (_, mh, _) => MessageType.ofCode? mh.type

theorem Carries.packetType [WireFloat F] {bytes : List UInt8} {type : MessageType}
    {body : Body F type} (carries : Carries bytes type body) : packetType? bytes = some type := by
  obtain ⟨_, _, _, _, opened, known, _⟩ := carries
  rw [packetType?, opened]
  exact known

theorem helloOf?_packetType {bytes : List UInt8} (notHello : packetType? bytes ≠ some .hello) :
    helloOf? bytes = none := by
  unfold helloOf?
  split
  · rfl
  · rename_i mh r opened
    rw [packetType?, opened] at notHello
    exact if_neg notHello

/-! ## What is stored in the slot -/

/-- The slot keeps its state but for the equipped form, or it stores a state of player `id`. -/
def Stored (id : PlayerId) (p after : PlayerRuntimeState F) : Prop :=
  (after.relayStats.acceptedCount = p.relayStats.acceptedCount ∧ after.replicatedState =
    { p.replicatedState with equippedFormId := after.replicatedState.equippedFormId }) ∨
  after.replicatedState.playerId = id

theorem Stored.same {id : PlayerId} {p after : PlayerRuntimeState F}
    (stats : after.relayStats = p.relayStats)
    (state : after.replicatedState = p.replicatedState) : Stored id p after :=
  .inl ⟨by rw [stats], by rw [state]⟩

theorem psrEvaluate_rejected {stats : PlayerStateRelayStats} {msg : MsgPlayerState F}
    (rejected : (psrEvaluate stats msg).1 = .reject) :
    (psrEvaluate stats msg).2.acceptedCount = stats.acceptedCount := by
  unfold psrEvaluate at rejected ⊢
  split_ifs at rejected ⊢ <;> rfl

theorem OwnWrite.stored [WireFloat F] {env : TransportEnvelope} {s : ServiceState F}
    {player : PlayerRuntimeState F} {f : PlayerRuntimeState F → PlayerRuntimeState F}
    {posts : List (Post F)} (wrote : OwnWrite env s player f posts)
    (resolved : findPlayer s.session player.playerId = some player) :
    Stored player.playerId player (f player) := by
  cases wrote with
  | heard => exact .same rfl rfl
  | ponged => exact .same rfl rfl
  | stale _ found _ rejected =>
      obtain rfl := Option.some.inj (resolved.symm.trans found)
      exact .inl ⟨psrEvaluate_rejected rejected, rfl⟩
  | relayed _ _ own => exact .inr own
  | edited => exact .inl ⟨rfl, rfl⟩

theorem OwnWrite.stats [WireFloat F] {env : TransportEnvelope} {s : ServiceState F}
    {player : PlayerRuntimeState F} {f : PlayerRuntimeState F → PlayerRuntimeState F}
    {posts : List (Post F)} (wrote : OwnWrite env s player f posts) :
    (f player).relayStats = player.relayStats ∨ packetType? env.bytes = some .playerState := by
  cases wrote with
  | heard => exact .inl rfl
  | ponged => exact .inl rfl
  | stale carries => exact .inr (Carries.packetType carries)
  | relayed carries => exact .inr (Carries.packetType carries)
  | edited => exact .inl rfl

theorem Placed.findPlayer_eq {s : SessionState F} (placed : Placed s.seats) {k : Nat}
    {player : PlayerRuntimeState F} (at_ : s.players.slots[k]? = some player)
    (connected : player.connected = true) : findPlayer s player.playerId = some player := by
  have member := List.mem_of_getElem? at_
  cases found : findPlayer s player.playerId with
  | none =>
      have absent := List.find?_eq_none.mp found player member
      simp [connected] at absent
  | some other =>
      have held := List.find?_some found
      rw [Bool.and_eq_true, beq_iff_eq] at held
      obtain ⟨j, at_j⟩ := List.mem_iff_getElem?.mp (List.mem_of_find?_eq_some found)
      have here := (placed.connected_index (seats_get at_) connected).1
      have there := (placed.connected_index (seats_get at_j) held.1).1
      simp only [PlayerRuntimeState.seat, held.2] at here there
      obtain rfl : j = k := by omega
      exact at_j.symm.trans at_

/-! ## Each outcome on its own -/

section Outcomes
variable [CFloat F] [WireFloat F] {store : ProfileStore} {env : TransportEnvelope}
  {s after : ServiceState F} {posts : List (Post F)} {ok : Bool}

/-- What is no HELLO is dropped or comes from a connected player. -/
theorem Outcome.sender (outcome : Outcome store env s posts (ok, after))
    (noHello : helloOf? env.bytes = none) : after = s ∨
      ∃ player, tlFindPlayerByConnection s.session env.connectionId = some player := by
  cases outcome with
  | ignored => exact .inl rfl
  | seated hello => rw [noHello] at hello; cases hello
  | kept byConnection => exact .inr ⟨_, byConnection⟩
  | left byConnection => exact .inr ⟨_, byConnection⟩
  | hit byConnection => exact .inr ⟨_, byConnection⟩
  | refused byConnection => exact .inr ⟨_, byConnection⟩
  | built _ byConnection => exact .inr ⟨_, byConnection⟩
  | moved _ _ _ byConnection => exact .inr ⟨_, byConnection⟩
  | scrapped _ _ _ byConnection => exact .inr ⟨_, byConnection⟩
  | selected _ byConnection => exact .inr ⟨_, byConnection⟩

theorem Outcome.registry (outcome : Outcome store env s posts (ok, after))
    (noHello : helloOf? env.bytes = none) : after.registry = s.registry := by
  cases outcome with
  | seated hello => rw [noHello] at hello; cases hello
  | _ => rfl

/-- What an envelope does to the slots: nothing, or one write into the slot of its sender or of the
player it lets in. -/
inductive SlotStep (env : TransportEnvelope) (s : ServiceState F) :
    List (PlayerRuntimeState F) → Prop where
  | unwritten : SlotStep env s s.session.players.slots
  | own {k : Nat} {player written : PlayerRuntimeState F}
      (byConnection : tlFindPlayerByConnection s.session env.connectionId = some player)
      (resolved : resolvedSlot s.session env.connectionId = some k)
      (at_ : s.session.players.slots[k]? = some player) (connected : player.connected = true)
      (named : written.playerId = player.playerId)
      (stored : Stored player.playerId player written)
      (stats : written.relayStats = player.relayStats ∨
        packetType? env.bytes = some .playerState) :
      SlotStep env s (s.session.players.slots.set k written)
  | seated {store : ProfileStore} {playerGuid playerName : Text} {id : PlayerId} {tick : UInt32}
      {slot : PlayerRuntimeState F} (hello : helloOf? env.bytes = some (playerGuid, playerName))
      (given : s.seatFor playerGuid = some id)
      (takesSlot : TakesSlot s playerGuid env.connectionId id slot) :
      SlotStep env s (s.session.players.slots.set (id.toNat - 1)
        (fillSlot store playerGuid playerName env.connectionId tick slot))

theorem Outcome.slots (outcome : Outcome store env s posts (ok, after))
    (aligned : Aligned s.roster) : SlotStep env s after.session.players.slots := by
  have placed : Placed s.session.seats := aligned.placed
  have listened : ∀ {k : Nat} {player : PlayerRuntimeState F},
      s.session.players.slots[k]? = some player → player.connected = true →
      (heard s player.playerId).session.players.slots =
        s.session.players.slots.set k (hear s.ctx.currentTick player) :=
    fun at_ connected => placed.updatePlayer_slots at_ connected _
  have listenedOnly : ∀ {player : PlayerRuntimeState F},
      tlFindPlayerByConnection s.session env.connectionId = some player →
      SlotStep env s (heard s player.playerId).session.players.slots := by
    intro player byConnection
    obtain ⟨k, resolved, at_, connected⟩ := resolvedSlot_found byConnection
    rw [listened at_ connected]
    exact .own byConnection resolved at_ connected rfl (.same rfl rfl) (.inl rfl)
  cases outcome with
  | ignored => exact .unwritten
  | @seated playerGuid playerName id taken _ _ _ hello takes =>
      obtain ⟨slot, takesSlot, _, slots⟩ := fillSeat_slots store aligned playerName takes
      rw [post_session, slots]
      exact .seated hello (takeSeat_seatFor aligned takes) takesSlot
  | kept byConnection keeps _ _ wrote =>
      obtain ⟨k, resolved, at_, connected⟩ := resolvedSlot_found byConnection
      rw [post_session]
      dsimp only
      rw [placed.updatePlayer_slots at_ connected]
      exact .own byConnection resolved at_ connected (congrArg Seat.playerId (keeps _))
        (wrote.stored (placed.findPlayer_eq at_ connected)) wrote.stats
  | @left player _ byConnection =>
      obtain ⟨k, resolved, at_, connected⟩ := resolvedSlot_found byConnection
      have stillPlaced : Placed (heard s player.playerId).session.seats := by
        rw [seats_heard]
        exact placed
      have at' : (heard s player.playerId).session.players.slots[k]? =
          some (hear s.ctx.currentTick player) := by
        rw [listened at_ connected, List.getElem?_set_self (List.getElem?_eq_some_iff.mp at_).1]
      have removed := stillPlaced.smRemovePlayer_slots at' connected
      rw [listened at_ connected, List.set_set] at removed
      exact (congrArg (SlotStep env s) removed).mpr
        (.own byConnection resolved at_ connected rfl (.same rfl rfl) (.inl rfl))
  | hit byConnection _ _ _ _ shot => subst shot; exact listenedOnly byConnection
  | refused byConnection => exact listenedOnly byConnection
  | built _ byConnection _ placing => subst placing; exact listenedOnly byConnection
  | moved _ changed => subst changed; exact .unwritten
  | scrapped _ removed => subst removed; exact .unwritten
  | selected applied =>
      obtain ⟨dialogue, rfl⟩ := dspApplySelection_frame applied
      exact .unwritten

/-- The damage that is reported was done by the sender. -/
theorem Outcome.attacker (outcome : Outcome store env s posts (ok, after))
    (noHello : helloOf? env.bytes = none) {player : PlayerRuntimeState F}
    (byConnection : tlFindPlayerByConnection s.session env.connectionId = some player)
    {connectionId : UInt32} {flags : UInt16} {msg : Body F .damageResult}
    (posted : ⟨connectionId, .damageResult, flags, msg⟩ ∈ posts) :
    msg.attackerId = player.playerId.toUInt32 := by
  have sender : ∀ {other : PlayerRuntimeState F},
      tlFindPlayerByConnection s.session env.connectionId = some other → other = player :=
    fun found => Option.some.inj (found.symm.trans byConnection)
  cases outcome with
  | ignored => cases posted
  | seated hello => rw [noHello] at hello; cases hello
  | kept _ _ personal => rcases personal _ posted with pong | state <;> contradiction
  | left _ sent =>
      obtain ⟨_, _, _, same⟩ := mem_toConnected (sent ▸ posted)
      cases same
  | hit byConnection _ _ _ _ _ sent =>
      obtain rfl := sender byConnection
      obtain ⟨_, _, _, eq | ⟨_, _, eq⟩ | ⟨_, eq⟩⟩ := mem_hitPosts (sent ▸ posted) <;> cases eq
      rfl
  | refused _ _ _ sent =>
      rw [sent, List.mem_singleton] at posted
      cases posted
  | built _ _ _ _ sent =>
      rw [sent, List.mem_cons] at posted
      rcases posted with result | spawn
      · cases result
      · obtain ⟨_, _, _, _, _, eq⟩ := mem_objectSpawnPosts spawn
        cases eq
  | moved _ _ sent =>
      obtain ⟨_, _, _, same⟩ := mem_toConnected (sent ▸ posted)
      cases same
  | scrapped _ _ sent =>
      obtain ⟨_, _, _, same⟩ := mem_toConnected (sent ▸ posted)
      cases same
  | selected => cases posted

/-- An object that was not there before is owned by the sender. -/
theorem Outcome.owner (outcome : Outcome store env s posts (ok, after))
    (noHello : helloOf? env.bytes = none) {player : PlayerRuntimeState F}
    (byConnection : tlFindPlayerByConnection s.session env.connectionId = some player)
    {j : Nat} {obj : ObjectRuntimeState F} (at_ : after.session.objects.slots[j]? = some obj)
    (inUse : obj.inUse = true)
    (unused : ∀ old, s.session.objects.slots[j]? = some old → old.inUse = false) :
    obj.ownerPlayerId = player.playerId := by
  have sender : ∀ {other : PlayerRuntimeState F},
      tlFindPlayerByConnection s.session env.connectionId = some other → other = player :=
    fun found => Option.some.inj (found.symm.trans byConnection)
  have absent : ∀ {p : Prop}, s.session.objects.slots[j]? = some obj → p := fun old => by
    rw [unused obj old] at inUse
    cases inUse
  cases outcome with
  | ignored => exact absent at_
  | seated hello => rw [noHello] at hello; cases hello
  | kept => exact absent at_
  | left => exact absent at_
  | hit _ _ _ _ _ shot => subst shot; exact absent at_
  | refused => exact absent at_
  | built _ byConnection claimed placed _ own =>
      obtain rfl := sender byConnection
      subst placed
      rcases Slots.getElem?_claim (Slots.Table.claim_slots claimed) at_ with old | rfl
      · exact absent old
      · exact own
  | @moved _ msg _ _ _ _ changed =>
      subst changed
      rcases Slots.getElem?_modifyFirst (p := Slots.holds msg.objectNetId)
        (f := ObjectRuntimeState.move msg) s.session.objects.slots j with
        same | ⟨old, before, held, _⟩
      · exact absent (same.symm.trans at_)
      · have live : old.inUse = true := (Slots.holds_iff.mp held).1
        rw [unused old before] at live
        cases live
  | @scrapped _ msg _ _ _ _ _ removed =>
      subst removed
      rcases Slots.getElem?_modifyFirst (p := Slots.holds msg.objectNetId)
        (f := fun _ => (.zero : ObjectRuntimeState F)) s.session.objects.slots j with
        same | ⟨_, _, _, cleared⟩
      · exact absent (same.symm.trans at_)
      · obtain rfl := Option.some.inj (at_.symm.trans cleared)
        cases inUse
  | selected applied =>
      obtain ⟨dialogue, rfl⟩ := dspApplySelection_frame applied
      exact absent at_

omit [CFloat F] [WireFloat F] in
theorem dspApplySelection_selector {s after : SessionState F} {playerId : PlayerId}
    {select : MsgDialogueSelect} (applied : dspApplySelection s playerId select = some after) :
    after.dialogue.lastSelectedByPlayer = playerId := by
  simp only [dspApplySelection] at applied
  split at applied
  · rw [← Option.some.inj applied]
  · cases applied

theorem Outcome.selector (outcome : Outcome store env s posts (ok, after))
    (noHello : helloOf? env.bytes = none) {player : PlayerRuntimeState F}
    (byConnection : tlFindPlayerByConnection s.session env.connectionId = some player) :
    after.session.dialogue = s.session.dialogue ∨
      after.session.dialogue.lastSelectedByPlayer = player.playerId := by
  cases outcome with
  | ignored => exact .inl rfl
  | seated hello => rw [noHello] at hello; cases hello
  | kept => exact .inl rfl
  | left => exact .inl rfl
  | hit _ _ _ _ _ shot => subst shot; exact .inl rfl
  | refused => exact .inl rfl
  | built _ _ _ placed => subst placed; exact .inl rfl
  | moved _ changed => subst changed; exact .inl rfl
  | scrapped _ removed => subst removed; exact .inl rfl
  | selected applied found own =>
      obtain rfl := Option.some.inj (found.symm.trans byConnection)
      exact .inr ((dspApplySelection_selector applied).trans own)

end Outcomes

/-! ## Isolation -/

/-- What a message from the player on slot `k` leaves alone, and the id under which it does the
rest. -/
structure Confined [WireFloat F] (k : Nat) (player : PlayerRuntimeState F)
    (s after : ServiceState F) : Prop where
  others : ∀ j, j ≠ k → after.session.players.slots[j]? = s.session.players.slots[j]?
  stored : ∃ written, after.session.players.slots[k]? = some written ∧
    Stored player.playerId player written
  attacker : ∀ output ∈ after.ctx.outputs.drop s.ctx.outputs.length, ∀ msg : Body F .damageResult,
    Carries output.bytes .damageResult msg → msg.attackerId = player.playerId.toUInt32
  owner : ∀ (j : Nat) (obj : ObjectRuntimeState F), after.session.objects.slots[j]? = some obj →
    obj.inUse = true → (∀ old, s.session.objects.slots[j]? = some old → old.inUse = false) →
    obj.ownerPlayerId = player.playerId
  selector : after.session.dialogue = s.session.dialogue ∨
    after.session.dialogue.lastSelectedByPlayer = player.playerId

/-- The registry is left alone, a message from a connection of no player changes nothing but the last
received sequence, and any other is confined to the player it comes from. -/
def Isolated [WireFloat F] (connectionId : UInt32) (s after : ServiceState F) : Prop :=
  after.registry = s.registry ∧
    match tlFindPlayerByConnection s.session connectionId with
    | none => ∃ sequence, after = received s sequence
    | some player => ∃ k, resolvedSlot s.session connectionId = some k ∧
        s.session.players.slots[k]? = some player ∧ Confined k player s after

/-- Every message but a HELLO is isolated, in every state the service can reach. -/
theorem tlHandleEnvelope_isolated [CFloat F] [WireFloat F] [LawfulWireFloat F]
    (store : ProfileStore) (env : TransportEnvelope) (s : ServiceState F) (reachable : Reachable s)
    (notHello : packetType? env.bytes ≠ some .hello) :
    Isolated env.connectionId s (tlHandleEnvelope store env s).2 := by
  obtain ⟨sequence, posts, outcome⟩ := tlHandleEnvelope_outcome store env s
  have noHello := helloOf?_packetType notHello
  generalize (tlHandleEnvelope store env s) = result at outcome
  obtain ⟨ok, after⟩ := result
  refine ⟨outcome.registry noHello, ?_⟩
  cases byConnection : tlFindPlayerByConnection s.session env.connectionId with
  | none =>
      rcases outcome.sender noHello with same | ⟨player, found⟩
      · exact ⟨sequence, same⟩
      · exact absurd (byConnection.symm.trans found) nofun
  | some player =>
      obtain ⟨k, resolved, at_, connected⟩ := resolvedSlot_found byConnection
      have inside := (List.getElem?_eq_some_iff.mp at_).1
      obtain ⟨written, slots, stored⟩ : ∃ written, after.session.players.slots =
          s.session.players.slots.set k written ∧ Stored player.playerId player written := by
        have step : SlotStep env (received s sequence) _ := outcome.slots reachable.aligned
        generalize after.session.players.slots = slots at step
        cases step with
        | unwritten =>
            refine ⟨player, ?_, .same rfl rfl⟩
            rw [← (List.getElem?_eq_some_iff.mp at_).2]
            exact (List.set_getElem_self inside).symm
        | own found resolved' _ _ _ stored _ =>
            obtain rfl := Option.some.inj (found.symm.trans byConnection)
            obtain rfl := Option.some.inj (resolved'.symm.trans resolved)
            exact ⟨_, rfl, stored⟩
        | seated hello => rw [noHello] at hello; cases hello
      refine ⟨k, resolved, at_, ?_, ?_, ?_, ?_, outcome.selector noHello byConnection⟩
      · intro j other
        exact slots ▸ List.getElem?_set_ne (Ne.symm other)
      · exact ⟨written, slots ▸ List.getElem?_set_self inside, stored⟩
      · intro output queued msg carries
        have outputs : after.ctx.outputs = s.ctx.outputs ++ queuedPosts (received s sequence) posts :=
          outcome.outputs
        rw [outputs, List.drop_left] at queued
        obtain ⟨flags, listed⟩ := queuedPosts_carries outcome.sendable queued carries
        exact outcome.attacker noHello byConnection listed
      · exact fun j obj at_ inUse unused => outcome.owner noHello byConnection at_ inUse unused

/-- A player asks to build, and a shot is fired from a connection that nobody has. -/
theorem tlHandleEnvelope_isolated_two :
    let store : ProfileStore := ⟨fun _ => none⟩
    let fresh : ServiceState Binary32 := freshService 1 15 20 [7]
    let hello : Body Binary32 .hello := (⟨0, 0⟩, [0x41], [0x41])
    let s := serviceStep fresh (.envelope store (envelopeOf 100 .hello hello))
    let build : Body Binary32 .buildRequest := ⟨1, 1, 0, 3, 7, zeroVec, zeroRot, 0⟩
    let fire : Body Binary32 .fireIntent := ⟨1, 0, 5, zeroVec, zeroVec, 0, {}, 0⟩
    Isolated 100 s (tlHandleEnvelope store (envelopeOf 100 .buildRequest build) s).2 ∧
      Isolated 101 s (tlHandleEnvelope store (envelopeOf 101 .fireIntent fire) s).2 := by
  intro store fresh hello s build fire
  have reachable : Reachable s := (Reachable.fresh 1 15 20 [7]).step _
  exact ⟨tlHandleEnvelope_isolated store _ s reachable (by decide +kernel),
    tlHandleEnvelope_isolated store _ s reachable (by decide +kernel)⟩

end F4MP.Service

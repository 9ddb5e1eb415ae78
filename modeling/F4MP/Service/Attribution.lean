import F4MP.Service.Isolation

/-!
# Whose state is sent

A slot learns its player's id for the replicated state from the first PLAYER_STATE that is accepted.
Until then the state is sent under the id 0, which belongs to nobody.
-/

namespace F4MP.Service
open SoftFloat Protocol Transition

variable {F : Type}

/-! ## Attribution -/

/-- The message is the state of a connected slot, and carries that slot's id. -/
def AttributedTo (s : SessionState F) (msg : MsgPlayerState F) : Prop :=
  msg.playerId ≠ 0 ∧ ∃ p ∈ s.players.slots, p.connected = true ∧ p.playerId = msg.playerId ∧
    p.replicatedState = msg

/-- The replicated state of the slot has no id yet, or the slot's. -/
def PlayerRuntimeState.ownState (p : PlayerRuntimeState F) : Prop :=
  p.replicatedState.playerId = 0 ∨ p.replicatedState.playerId = p.playerId

structure StatesOwned (s : ServiceState F) : Prop where
  aligned : Aligned s.roster
  owned : ∀ p ∈ s.session.players.slots, p.ownState

section Steps
variable [CFloat F] [WireFloat F]

/-- Every PLAYER_STATE that a step queues is attributed. -/
def StatesAttributed (s : ServiceState F) (e : TransportEvent) : Prop :=
  ∀ output ∈ (transportStep s e).ctx.outputs.drop s.ctx.outputs.length,
    ∀ msg : Body F .playerState, Carries output.bytes .playerState msg →
      AttributedTo (transportStep s e).session msg

/-- An INPUT_STATE comes from a player whose state is known, and whoever is let in finds the states
of the other players known. -/
def StatesKnown (s : ServiceState F) : TransportEvent → Prop
  | .network (.envelope _ env) =>
      ((messageOf? .inputState env.bytes : Option (Body F .inputState)).isSome →
        ∀ player ∈ tlFindPlayerByConnection s.session env.connectionId,
          player.replicatedState.playerId ≠ 0) ∧
      ∀ hello ∈ helloOf? env.bytes, ∀ id ∈ s.seatFor hello.1, ∀ p ∈ s.session.players.slots,
        p.connected = true → p.playerId ≠ id → p.replicatedState.playerId ≠ 0
  | _ => True

instance (s : ServiceState F) (e : TransportEvent) : Decidable (StatesKnown s e) := by
  unfold StatesKnown
  split
  · have (hello : Text × Text) : Decidable (∀ id ∈ s.seatFor hello.1,
        ∀ p ∈ s.session.players.slots, p.connected = true → p.playerId ≠ id →
          p.replicatedState.playerId ≠ 0) := Option.decidableForallMem _
    exact instDecidableAnd
  · exact instDecidableTrue

omit [WireFloat F] in
theorem TakesSlot.ownState {s : ServiceState F} {playerGuid : Text} {connectionId : UInt32}
    {id : PlayerId} {slot : PlayerRuntimeState F}
    (takes : TakesSlot s playerGuid connectionId id slot)
    (owned : ∀ p ∈ s.session.players.slots, p.ownState) : slot.ownState := by
  rcases takes with ⟨_, rfl⟩ | ⟨_, old, member, _, rfl⟩
  · exact .inl rfl
  · exact owned old member

section Envelope
variable {store : ProfileStore} {env : TransportEnvelope} {s after : ServiceState F}
  {posts : List (Post F)} {ok : Bool}

theorem Outcome.ownStates (outcome : Outcome store env s posts (ok, after)) (inv : StatesOwned s) :
    ∀ p ∈ after.session.players.slots, p.ownState := by
  have step := outcome.slots inv.aligned
  generalize after.session.players.slots = slots at step
  cases step with
  | unwritten => exact inv.owned
  | own _ _ at_ _ named stored =>
      have own := inv.owned _ (List.mem_of_getElem? at_)
      intro p member
      rcases List.mem_or_eq_of_mem_set member with old | rfl
      · exact inv.owned p old
      · rcases stored with ⟨_, state⟩ | state
        · rw [PlayerRuntimeState.ownState, state, named]
          exact own
        · exact .inr (state.trans named.symm)
  | seated _ _ takesSlot =>
      intro p member
      rcases List.mem_or_eq_of_mem_set member with old | rfl
      · exact inv.owned p old
      · exact takesSlot.ownState inv.owned

omit [CFloat F] in
/-- What is relayed to everyone is the state that was just written into the sender's slot. -/
theorem OwnWrite.attributed {player : PlayerRuntimeState F} {connectionId : UInt32} {flags : UInt16}
    {f : PlayerRuntimeState F → PlayerRuntimeState F} {msg : Body F .playerState}
    (wrote : OwnWrite env s player f posts)
    (posted : ⟨connectionId, .playerState, flags, msg⟩ ∈ posts)
    (found : findPlayer s.session player.playerId = some player) (taken : player.playerId ≠ 0)
    (keeps : (f player).seat = player.seat) (connected : player.connected = true)
    (own : player.ownState)
    (known : (messageOf? .inputState env.bytes : Option (Body F .inputState)).isSome →
      player.replicatedState.playerId ≠ 0) :
    msg.playerId ≠ 0 ∧ (f player).connected = true ∧ (f player).playerId = msg.playerId ∧
      (f player).replicatedState = msg := by
  simp only [PlayerRuntimeState.seat, Seat.mk.injEq] at keeps
  cases wrote with
  | heard => cases posted
  | ponged => cases List.mem_singleton.mp posted
  | stale => cases posted
  | relayed _ _ same =>
      obtain ⟨_, _, _, eq⟩ := mem_toConnected posted
      cases eq
      exact ⟨same ▸ taken, connected, same.symm, rfl⟩
  | edited carries current =>
      obtain rfl := Option.some.inj (found.symm.trans current)
      obtain ⟨_, _, _, eq⟩ := mem_toConnected posted
      cases eq
      have reported := known (by rw [messageOf?_eq_some.mpr carries]; rfl)
      exact ⟨reported, connected, (own.resolve_left reported).symm, rfl⟩

theorem Outcome.attributed (outcome : Outcome store env s posts (ok, after)) (inv : StatesOwned s)
    (known : StatesKnown s (.network (.envelope store env))) {connectionId : UInt32}
    {flags : UInt16} {msg : Body F .playerState}
    (posted : ⟨connectionId, .playerState, flags, msg⟩ ∈ posts) :
    AttributedTo after.session msg := by
  have placed : Placed s.session.seats := inv.aligned.placed
  cases outcome with
  | ignored => cases posted
  | @seated playerGuid playerName id taken _ _ _ hello takes _ isPrefix =>
      obtain ⟨slot, takesSlot, _, slots⟩ := fillSeat_slots store inv.aligned playerName takes
      have given := takeSeat_seatFor inv.aligned takes
      rcases List.mem_append.mp (isPrefix.subset posted) with answer | replay
      · simp only [answerPosts, welcomePost, profilePosts, List.mem_cons, List.not_mem_nil,
          or_false] at answer
        rcases answer with eq | eq | eq | eq | eq <;> cases eq
      · rcases mem_replayPosts replay with ⟨q, listed, connected, other, eq⟩ |
          ⟨_, _, _, eq | eq⟩ | ⟨_, _, _, eq⟩
        · cases eq
          have old : q ∈ s.session.players.slots := by
            rw [slots] at listed
            rcases List.mem_or_eq_of_mem_set listed with old | rfl
            · exact old
            · exact absurd takesSlot.seated.2 other
          have reported := known.2 _ hello id given q old connected other
          exact ⟨reported, q, listed, connected, ((inv.owned q old).resolve_left reported).symm, rfl⟩
        · cases eq
        · cases eq
        · cases eq
  | @kept player f _ _ byConnection keeps _ _ wrote =>
      obtain ⟨k, _, at_, connected⟩ := resolvedSlot_found byConnection
      have taken : player.playerId ≠ 0 :=
        playerId_ne_zero (placed.connected_index (seats_get at_) connected).1
      obtain ⟨nonzero, stays, named, state⟩ := wrote.attributed posted
        (placed.findPlayer_eq at_ connected) taken (keeps player) connected
        (inv.owned player (List.mem_of_getElem? at_)) fun input => known.1 input player byConnection
      have slots := placed.updatePlayer_slots at_ connected f
      refine ⟨nonzero, f player, ?_, stays, named, state⟩
      rw [post_session]
      dsimp only
      rw [slots]
      exact List.mem_set (List.getElem?_eq_some_iff.mp at_).1 _
  | left _ sent =>
      obtain ⟨_, _, _, eq⟩ := mem_toConnected (sent ▸ posted)
      cases eq
  | hit _ _ _ _ _ _ sent =>
      obtain ⟨_, _, _, eq | ⟨_, _, eq⟩ | ⟨_, eq⟩⟩ := mem_hitPosts (sent ▸ posted) <;> cases eq
  | refused _ _ _ sent =>
      rw [sent, List.mem_singleton] at posted
      cases posted
  | built _ _ _ _ sent =>
      rcases List.mem_cons.mp (sent ▸ posted) with result | spawn
      · cases result
      · obtain ⟨_, _, _, _, _, eq⟩ := mem_objectSpawnPosts spawn
        cases eq
  | moved _ _ sent =>
      obtain ⟨_, _, _, eq⟩ := mem_toConnected (sent ▸ posted)
      cases eq
  | scrapped _ _ sent =>
      obtain ⟨_, _, _, eq⟩ := mem_toConnected (sent ▸ posted)
      cases eq
  | selected => cases posted

end Envelope

variable [LawfulWireFloat F]

theorem transportStep_statesOwned {s : ServiceState F} (inv : StatesOwned s) (e : TransportEvent) :
    StatesOwned (transportStep s e) := by
  constructor
  · obtain ⟨event, step⟩ := transportStep_service s e
    rw [step]
    exact serviceStep_aligned inv.aligned event
  · cases e with
    | clearOutputs => exact inv.owned
    | network e =>
        cases e with
        | envelope store env =>
            obtain ⟨sequence, posts, outcome⟩ := tlHandleEnvelope_outcome store env s
            have received : StatesOwned (received s sequence) := ⟨inv.aligned, inv.owned⟩
            exact outcome.ownStates received
        | tick =>
            intro p member
            simp only [transportStep, networkStep, tlTick_posts, tickSession_players,
              timedOutSession] at member
            obtain ⟨q, listed, rfl | rfl⟩ := mem_smRemovePlayers member
            · exact inv.owned p listed
            · exact inv.owned q listed

theorem transportStep_attributed {s : ServiceState F} (inv : StatesOwned s) {e : TransportEvent}
    (known : StatesKnown s e) : StatesAttributed s e := by
  intro output queued msg carries
  cases e with
  | clearOutputs =>
      rw [transportStep, tlClearOutputs, List.drop_nil] at queued
      cases queued
  | network e =>
      cases e with
      | envelope store env =>
          obtain ⟨sequence, posts, outcome⟩ := tlHandleEnvelope_outcome store env s
          have outputs : (transportStep s (.network (.envelope store env))).ctx.outputs =
              s.ctx.outputs ++ queuedPosts (received s sequence) posts := outcome.outputs
          rw [outputs, List.drop_left] at queued
          obtain ⟨flags, posted⟩ := queuedPosts_carries outcome.sendable queued carries
          have received : StatesOwned (received s sequence) := ⟨inv.aligned, inv.owned⟩
          exact outcome.attributed received known posted
      | tick =>
          have outputs : (transportStep s (.network .tick)).ctx.outputs =
              s.ctx.outputs ++ queuedPosts s (tickPosts s) := tlTick_outputs s
          rw [outputs, List.drop_left] at queued
          obtain ⟨flags, posted⟩ := queuedPosts_carries (tickPosts_sendable s) queued carries
          rcases List.mem_append.mp posted with left | despawned
          · obtain ⟨_, _, _, eq⟩ := mem_leavePosts left
            cases eq
          · obtain ⟨_, _, _, _, _, eq⟩ := mem_despawnPosts despawned
            cases congrArg Post.type eq

/-- In a run whose messages meet players with known states only, every PLAYER_STATE that is queued
is attributed. -/
theorem run_statesAttributed (s : ServiceState F) (events : List TransportEvent)
    (unvisited : Unvisited s) (known : Along transportStep StatesKnown s events) :
    Along transportStep StatesAttributed s events := by
  have initial : StatesOwned s :=
    ⟨unvisited.aligned, fun p member => .inl (by rw [unvisited.players p member]; rfl)⟩
  exact along_of_invariant (fun s e inv _ => transportStep_statesOwned inv e)
    (fun s e inv known => transportStep_attributed inv known) initial known

end Steps

/-! ## Two runs -/

def helloEnvelope (connectionId : UInt32) (playerGuid : Text) : TransportEvent :=
  .network (.envelope ⟨fun _ => none⟩
    (envelopeOf (F := Binary32) connectionId .hello (⟨0, 0⟩, playerGuid, [])))

def stateOf (playerId : PlayerId) (stateSequence observedTick : UInt32) : MsgPlayerState Binary32 :=
  { zeroPlayerState with playerId, stateSequence, observedTick }

def stateEnvelope (connectionId : UInt32) (msg : MsgPlayerState Binary32) : TransportEvent :=
  .network (.envelope ⟨fun _ => none⟩ (envelopeOf (F := Binary32) connectionId .playerState msg))

/-- A player reports a state, equips something and is shown to a second player. -/
theorem run_statesAttributed_two :
    let input : Body Binary32 .inputState := ⟨1, 0, 0, 0, 0, 0, 7⟩
    let events := [helloEnvelope 100 [0x41], stateEnvelope 100 (stateOf 1 1 1),
      .network (.envelope ⟨fun _ => none⟩ (envelopeOf 100 .inputState input)),
      helloEnvelope 101 [0x42], .clearOutputs, .network .tick]
    Along transportStep StatesAttributed (freshService 1 15 20 [] : ServiceState Binary32)
      events := by
  intro input events
  exact run_statesAttributed _ events (freshService_unvisited 1 15 20 []) (by decide +kernel)

/-- A second player joins before the first has reported a state, and is sent a state of player 0. -/
theorem run_statesAttributed_unknown :
    ¬ Along transportStep StatesAttributed (freshService 1 15 20 [] : ServiceState Binary32)
      [helloEnvelope 100 [0x41], helloEnvelope 101 [0x42]] := by
  intro attributed
  have joined := attributed.2.1
  obtain ⟨queue, queueIs⟩ : ∃ queue, queue = (transportStep (transportStep
      (freshService 1 15 20 [] : ServiceState Binary32) (helloEnvelope 100 [0x41]))
      (helloEnvelope 101 [0x42])).ctx.outputs.drop (transportStep
      (freshService 1 15 20 [] : ServiceState Binary32)
      (helloEnvelope 100 [0x41])).ctx.outputs.length := ⟨_, rfl⟩
  have anonymous : queue.any (fun output => (messageOf? (F := Binary32) .playerState
      output.bytes).any fun msg : MsgPlayerState Binary32 => msg.playerId == 0) = true := by
    rw [queueIs]
    decide +kernel
  obtain ⟨output, queued, carried⟩ := List.any_eq_true.mp anonymous
  obtain ⟨msg, found, zero⟩ := (Option.any_eq_true _ _).mp carried
  exact (joined output (queueIs ▸ queued) msg (messageOf?_eq_some.mp found)).1 (beq_iff_eq.mp zero)

end F4MP.Service

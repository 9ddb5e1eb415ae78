import F4MP.Service.RelayOrder
import F4MP.Service.Restart

/-!
# What is relayed of a player

A PLAYER_STATE that is accepted and an INPUT_STATE are relayed to everyone as the replicated state that
they leave. What the relay remembers is the last sequence and the last tick that were not 0.
-/

namespace F4MP.Service
open SoftFloat Protocol Transition MessageFlags

variable {F : Type}

/-! ## What the relay remembers -/

/-- The sequence and the tick of the replicated state, where they are not 0, are the last ones. -/
structure PlayerRuntimeState.Counted (p : PlayerRuntimeState F) : Prop where
  sequence : p.replicatedState.stateSequence ≠ 0 →
    p.relayStats.lastSequence = p.replicatedState.stateSequence
  tick : p.replicatedState.observedTick ≠ 0 →
    p.relayStats.lastObservedTick = p.replicatedState.observedTick

theorem PlayerRuntimeState.Counted.of_eq {p q : PlayerRuntimeState F} (counted : q.Counted)
    (state : p.replicatedState.stateSequence = q.replicatedState.stateSequence ∧
      p.replicatedState.observedTick = q.replicatedState.observedTick)
    (stats : p.relayStats.lastSequence = q.relayStats.lastSequence ∧
      p.relayStats.lastObservedTick = q.relayStats.lastObservedTick) : p.Counted := by
  obtain ⟨sequence, tick⟩ := counted
  rw [← state.1, ← stats.1] at sequence
  rw [← state.2, ← stats.2] at tick
  exact ⟨sequence, tick⟩

theorem psrEvaluate_reject {stats : PlayerStateRelayStats} {msg : MsgPlayerState F}
    (rejected : (psrEvaluate stats msg).1 = .reject) :
    (psrEvaluate stats msg).2.lastSequence = stats.lastSequence ∧
      (psrEvaluate stats msg).2.lastObservedTick = stats.lastObservedTick := by
  unfold psrEvaluate at rejected ⊢
  split
  · exact ⟨rfl, rfl⟩
  · rename_i fresh
    rw [if_neg fresh] at rejected
    split
    · exact ⟨rfl, rfl⟩
    · rename_i later
      rw [if_neg later] at rejected
      split
      · exact ⟨rfl, rfl⟩
      · rename_i forward
        rw [if_neg forward] at rejected
        cases rejected

theorem psrEvaluate_counted {stats : PlayerStateRelayStats} {msg : MsgPlayerState F}
    (accepted : (psrEvaluate stats msg).1 = .accept) :
    (msg.stateSequence ≠ 0 → (psrEvaluate stats msg).2.lastSequence = msg.stateSequence) ∧
      (msg.observedTick ≠ 0 → (psrEvaluate stats msg).2.lastObservedTick = msg.observedTick) := by
  obtain ⟨_, _, _, taken⟩ := psrEvaluate_accept accepted
  rw [taken]
  exact ⟨fun nonzero => if_pos nonzero, fun nonzero => if_pos nonzero⟩

theorem mem_updatePlayer {s : SessionState F} {id : PlayerId}
    {f : PlayerRuntimeState F → PlayerRuntimeState F} {p : PlayerRuntimeState F}
    (member : p ∈ (updatePlayer s id f).players.slots) :
    p ∈ s.players.slots ∨ ∃ q ∈ s.players.slots, p = f q := by
  rcases Slots.mem_modifyFirst member with old | ⟨q, listed, _, rfl⟩
  · exact .inl old
  · exact .inr ⟨q, listed, rfl⟩

section Steps
variable [CFloat F] [WireFloat F]

/-- Every slot is. -/
def AllCounted (s : SessionState F) : Prop := ∀ p ∈ s.players.slots, p.Counted

section Envelope
variable {store : ProfileStore} {env : TransportEnvelope} {s after : ServiceState F}
  {posts : List (Post F)} {ok : Bool}

omit [CFloat F] [WireFloat F] in
theorem AllCounted.hear (counted : AllCounted s.session) (id : PlayerId) :
    AllCounted (heard s id).session := by
  intro p member
  rcases mem_updatePlayer member with old | ⟨q, listed, rfl⟩
  · exact counted p old
  · exact (counted q listed).of_eq ⟨rfl, rfl⟩ ⟨rfl, rfl⟩

omit [CFloat F] [WireFloat F] in
theorem AllCounted.remove {session : SessionState F} (counted : AllCounted session)
    (ids : List PlayerId) : AllCounted (ids.foldl smRemovePlayer session) := by
  intro p member
  obtain ⟨q, listed, rfl | rfl⟩ := mem_smRemovePlayers member
  · exact counted p listed
  · exact (counted q listed).of_eq ⟨rfl, rfl⟩ ⟨rfl, rfl⟩

omit [CFloat F] in
theorem OwnWrite.counted {player : PlayerRuntimeState F}
    {f : PlayerRuntimeState F → PlayerRuntimeState F} (wrote : OwnWrite env s player f posts)
    (found : findPlayer s.session player.playerId = some player) (counted : player.Counted) :
    (f player).Counted := by
  cases wrote with
  | heard => exact counted.of_eq ⟨rfl, rfl⟩ ⟨rfl, rfl⟩
  | ponged => exact counted.of_eq ⟨rfl, rfl⟩ ⟨rfl, rfl⟩
  | stale _ current _ rejected =>
      obtain rfl := Option.some.inj (found.symm.trans current)
      exact counted.of_eq ⟨rfl, rfl⟩ (psrEvaluate_reject rejected)
  | relayed _ _ _ accepted =>
      obtain ⟨sequence, tick⟩ := psrEvaluate_counted accepted
      exact ⟨sequence, tick⟩
  | edited => exact counted.of_eq ⟨rfl, rfl⟩ ⟨rfl, rfl⟩

theorem Outcome.allCounted (outcome : Outcome store env s posts (ok, after))
    (aligned : Aligned s.roster) (counted : AllCounted s.session) : AllCounted after.session := by
  have placed : Placed s.session.seats := aligned.placed
  cases outcome with
  | ignored => exact counted
  | @seated _ playerName _ taken _ _ _ _ takes =>
      obtain ⟨slot, takesSlot, _, slots⟩ := fillSeat_slots store aligned playerName takes
      have was : slot.Counted := by
        rcases takesSlot with ⟨_, rfl⟩ | ⟨_, old, member, _, rfl⟩
        · exact ⟨fun nonzero => absurd rfl nonzero, fun nonzero => absurd rfl nonzero⟩
        · exact (counted old member).of_eq ⟨rfl, rfl⟩ ⟨rfl, rfl⟩
      intro p member
      rw [post_session, slots] at member
      rcases List.mem_or_eq_of_mem_set member with old | rfl
      · exact counted p old
      · exact was.of_eq ⟨rfl, rfl⟩ ⟨rfl, rfl⟩
  | @kept player f _ _ byConnection _ _ _ wrote =>
      obtain ⟨k, _, at_, connected⟩ := resolvedSlot_found byConnection
      intro p member
      rw [post_session] at member
      dsimp only at member
      rw [placed.updatePlayer_slots at_ connected] at member
      rcases List.mem_or_eq_of_mem_set member with old | rfl
      · exact counted p old
      · exact wrote.counted (placed.findPlayer_eq at_ connected)
          (counted player (List.mem_of_getElem? at_))
  | left => exact (counted.hear _).remove [_]
  | hit _ _ _ _ _ shot =>
      subst shot
      exact counted.hear _
  | refused => exact counted.hear _
  | built _ _ _ placed =>
      subst placed
      exact counted.hear _
  | moved _ changed =>
      subst changed
      exact counted
  | scrapped _ removed =>
      subst removed
      exact counted
  | selected applied =>
      obtain ⟨dialogue, rfl⟩ := dspApplySelection_frame applied
      exact counted

end Envelope

variable [LawfulWireFloat F]

theorem serviceStep_allCounted {s : ServiceState F} (aligned : Aligned s.roster)
    (counted : AllCounted s.session) (e : ServiceEvent F) :
    AllCounted (serviceStep s e).session := by
  by_cases envelope : ∃ store env, e = .envelope store env
  · obtain ⟨store, env, rfl⟩ := envelope
    obtain ⟨sequence, posts, outcome⟩ := tlHandleEnvelope_outcome store env s
    have aligned : Aligned (received s sequence).roster := aligned
    exact outcome.allCounted aligned counted
  · intro p member
    obtain ⟨q, listed, rfl | rfl⟩ := serviceStep_slots s
      (fun store env is => envelope ⟨store, env, is⟩) member
    · exact counted p listed
    · exact (counted q listed).of_eq ⟨rfl, rfl⟩ ⟨rfl, rfl⟩

theorem Reachable.allCounted {s : ServiceState F} (reachable : Reachable s) :
    AllCounted s.session := by
  refine (@Reachable.invariant F _ _ (fun s => Aligned s.roster ∧ AllCounted s.session)
    (fun sessionId rules tickRate whitelist => ?_) (fun s e held => ?_) s reachable).2
  · refine ⟨freshService_aligned sessionId rules tickRate whitelist, fun p member => ?_⟩
    obtain rfl := (freshService_unvisited sessionId rules tickRate whitelist).players p member
    exact ⟨fun nonzero => absurd rfl nonzero, fun nonzero => absurd rfl nonzero⟩
  · exact ⟨serviceStep_aligned held.1 e, serviceStep_allCounted held.1 held.2 e⟩

end Steps

/-! ## Reports -/

/-- What a player reports of itself. -/
inductive Report (F : Type)
  | state (msg : MsgPlayerState F)
  | input (msg : MsgInputState)

/-- The state that a report makes the service relay. -/
def Report.relayed : Report F → PlayerRuntimeState F → Option (MsgPlayerState F)
  | .state msg, current =>
      if (psrEvaluate current.relayStats msg).1 = .accept then some msg else none
  | .input msg, current => some (current.input msg).replicatedState

section Reports
variable [CFloat F] [WireFloat F] {store : ProfileStore} {env : TransportEnvelope}
  {s : ServiceState F}

def reportOf? (F : Type) [CFloat F] [WireFloat F] (bytes : List UInt8) : Option (Report F) :=
  match messageOf? .playerState bytes with
  | some msg => some (.state msg)
  | none => (messageOf? (F := F) .inputState bytes).map .input

/-- A report leaves a slot with the state that it relays. -/
structure Rewrites (s : ServiceState F) (report : Report F) (player current : PlayerRuntimeState F)
    (f : PlayerRuntimeState F → PlayerRuntimeState F) : Prop where
  found : findPlayer s.session player.playerId = some current
  keeps : ∀ p, (f p).seat = p.seat
  leaves : (f current).replicatedState =
    (report.relayed current).getD current.replicatedState

/-- What a report makes the service send. -/
def Report.posts (report : Report F) (s : SessionState F) (current : PlayerRuntimeState F) :
    List (Post F) :=
  (report.relayed current).toList.flatMap fun state => toConnected s .playerState ch1World state

def rewritten (s : ServiceState F) (report : Report F) (player current : PlayerRuntimeState F)
    (f : PlayerRuntimeState F → PlayerRuntimeState F) : ServiceState F :=
  { s with session := updatePlayer s.session player.playerId f }.post
    (report.posts s.session current)

omit [CFloat F] in
theorem tlHandlePlayerState_handled {playerId : PlayerId} {r r' : PacketReader}
    {msg : MsgPlayerState F}
    (decoded : (decodeMsgPlayerState : Read (MsgPlayerState F)).run r = (some msg, r'))
    (handled : (tlHandlePlayerState playerId r s).1 = true) :
    msg.playerId = playerId ∧ ∃ current, findPlayer s.session playerId = some current := by
  simp only [tlHandlePlayerState, decoded] at handled
  split at handled
  · cases handled
  · rename_i own
    split at handled
    · cases handled
    · rename_i current found
      exact ⟨not_not.mp own, current, found⟩

omit [CFloat F] in
theorem tlHandleInputState_handled {playerId : PlayerId} {r r' : PacketReader}
    {msg : MsgInputState} (decoded : decodeMsgInputState.run r = (some msg, r'))
    (handled : (tlHandleInputState playerId r s).1 = true) :
    ∃ current, findPlayer s.session playerId = some current := by
  simp only [tlHandleInputState, decoded] at handled
  cases found : findPlayer s.session playerId with
  | none =>
      simp only [acHandleInputState, found] at handled
      cases handled
  | some current => exact ⟨current, rfl⟩

omit [CFloat F] in
theorem tlHandlePlayerState_report {player : PlayerRuntimeState F} {r r' : PacketReader}
    {msg : MsgPlayerState F}
    (decoded : (decodeMsgPlayerState : Read (MsgPlayerState F)).run r = (some msg, r'))
    (handled : (tlHandlePlayerState player.playerId r s).1 = true) :
    ∃ current f, Rewrites s (.state msg) player current f ∧
      (tlHandlePlayerState player.playerId r s).2 = rewritten s (.state msg) player current f := by
  obtain ⟨own, current, found⟩ := tlHandlePlayerState_handled decoded handled
  have ends := tlHandlePlayerState_decoded decoded own found
  cases decision : psrEvaluate current.relayStats msg with
  | mk verdict stats =>
      rw [decision] at ends
      cases verdict with
      | reject =>
          have drops : (Report.state msg).relayed current = none := by
            rw [Report.relayed, decision]
            exact if_neg nofun
          refine ⟨current, .evaluate s.ctx.currentTick stats, ⟨found, fun _ => rfl, ?_⟩, ?_⟩
          · rw [drops]
            rfl
          · rw [ends, rewritten, Report.posts, drops]
            rfl
      | accept =>
          have relays : (Report.state msg).relayed current = some msg := by
            rw [Report.relayed, decision]
            exact if_pos rfl
          refine ⟨current, fun p =>
            { p.evaluate s.ctx.currentTick stats with replicatedState := msg },
            ⟨found, fun _ => rfl, ?_⟩, ?_⟩
          · rw [relays]
            rfl
          · rw [ends, rewritten, Report.posts, relays, Option.toList_some, List.flatMap_singleton]

omit [CFloat F] in
theorem tlHandleInputState_report {player : PlayerRuntimeState F} {r r' : PacketReader}
    {msg : MsgInputState} (decoded : decodeMsgInputState.run r = (some msg, r'))
    (handled : (tlHandleInputState player.playerId r s).1 = true) :
    ∃ current f, Rewrites s (.input msg) player current f ∧
      (tlHandleInputState player.playerId r s).2 = rewritten s (.input msg) player current f := by
  obtain ⟨current, found⟩ := tlHandleInputState_handled decoded handled
  refine ⟨current, fun p => hear s.ctx.currentTick (p.input msg), ⟨found, fun _ => rfl, rfl⟩, ?_⟩
  rw [tlHandleInputState_decoded decoded found, rewritten, Report.posts, Report.relayed,
    Option.toList_some, List.flatMap_singleton]

/-- A report that is handled is written into the slot of its sender, and what it relays is sent to
everyone. -/
theorem tlHandleEnvelope_report {report : Report F} (reported : reportOf? F env.bytes = some report)
    (handled : (tlHandleEnvelope store env s).1 = true) :
    ∃ player current f sequence,
      tlFindPlayerByConnection s.session env.connectionId = some player ∧
      Rewrites s report player current f ∧
      (tlHandleEnvelope store env s).2 =
        rewritten (received s sequence) report player current f := by
  rw [reportOf?] at reported
  split at reported
  · rename_i msg carried
    obtain rfl := Option.some.inj reported
    obtain ⟨sequence, r, r', decoded, ends⟩ :=
      tlHandleEnvelope_carries store (messageOf?_eq_some.mp carried) nofun s
    rw [ends] at handled ⊢
    cases byConnection : tlFindPlayerByConnection s.session env.connectionId with
    | none =>
        rw [byConnection] at handled
        cases handled
    | some player =>
        rw [byConnection] at handled
        obtain ⟨current, f, rewrites, written⟩ := tlHandlePlayerState_report decoded handled
        exact ⟨player, current, f, sequence, rfl,
          ⟨rewrites.found, rewrites.keeps, rewrites.leaves⟩, written⟩
  · obtain ⟨msg, carried, rfl⟩ := Option.map_eq_some_iff.mp reported
    obtain ⟨sequence, r, r', decoded, ends⟩ :=
      tlHandleEnvelope_carries store (messageOf?_eq_some.mp carried) nofun s
    rw [ends] at handled ⊢
    cases byConnection : tlFindPlayerByConnection s.session env.connectionId with
    | none =>
        rw [byConnection] at handled
        cases handled
    | some player =>
        rw [byConnection] at handled
        obtain ⟨current, f, rewrites, written⟩ := tlHandleInputState_report decoded handled
        exact ⟨player, current, f, sequence, rfl,
          ⟨rewrites.found, rewrites.keeps, rewrites.leaves⟩, written⟩

omit [CFloat F] [WireFloat F] in
theorem tlFindPlayerByConnection_seat (s : SessionState F) (connectionId : UInt32) :
    (tlFindPlayerByConnection s connectionId).map (·.seat) =
      s.seats.find? fun seat => seat.connected && seat.connectionId == connectionId := by
  rw [SessionState.seats, List.find?_map]
  rfl

omit [CFloat F] [WireFloat F] in
theorem tlFindPlayerByConnection_of_seats {s after : SessionState F} (same : after.seats = s.seats)
    {connectionId : UInt32} {player : PlayerRuntimeState F}
    (found : tlFindPlayerByConnection s connectionId = some player) :
    ∃ now, tlFindPlayerByConnection after connectionId = some now ∧
      now.playerId = player.playerId := by
  have seats := (tlFindPlayerByConnection_seat after connectionId).trans
    (same ▸ (tlFindPlayerByConnection_seat s connectionId).symm)
  rw [found, Option.map_some] at seats
  obtain ⟨now, foundNow, seat⟩ := Option.map_eq_some_iff.mp seats
  exact ⟨now, foundNow, congrArg (·.playerId) seat⟩

omit [CFloat F] [WireFloat F] in
theorem Report.posts_eq (report : Report F) (s : SessionState F) (player : PlayerRuntimeState F) :
    report.posts s player = match report.relayed player with
      | none => []
      | some msg => toConnected s .playerState ch1World msg := by
  rw [Report.posts]
  cases report.relayed player with
  | none => rfl
  | some msg => exact List.flatMap_singleton _ _

omit [CFloat F] [WireFloat F] in
theorem Report.posts_sendable (report : Report F) (s : SessionState F)
    (player : PlayerRuntimeState F) : ∀ q ∈ report.posts s player, Sendable q.type q.body := by
  rw [Report.posts_eq]
  split
  · exact nofun
  · exact toConnected_sendable s rfl _ _

omit [CFloat F] [WireFloat F] in
theorem Report.posts_length (report : Report F) (s : SessionState F)
    (player : PlayerRuntimeState F) : (report.posts s player).length ≤ maxOutputs := by
  rw [Report.posts_eq]
  split
  · exact Nat.zero_le _
  · exact (toConnected_length_le _ _ _ _).trans (by decide)

end Reports

end F4MP.Service

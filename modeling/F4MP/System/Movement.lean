import F4MP.Service.PlayerNews
import F4MP.Client.LocalPlayer
import F4MP.System.Join

/-!
# From a player's hook to another player's screen

The samples that the hook of one client submits are captured, reported, relayed by the service and shown
by another client, while everybody else goes on playing.
-/

namespace F4MP.System
open SoftFloat CFloat Protocol Service Client Transition MessageFlags

variable {F : Type} [CFloat F]

/-! ## What a client shows while others play -/

/-- The ids that a session gives out. -/
def seatIds : List PlayerId := (List.range 7).map fun k => UInt16.ofNat (k + 1)

omit [CFloat F] in
theorem mem_seatIds {s : SessionState F} (placed : Placed s.seats) {q : PlayerRuntimeState F}
    (listed : q ∈ s.players.slots) (connected : q.connected = true) : q.playerId ∈ seatIds := by
  obtain ⟨k, at_⟩ := List.mem_iff_getElem?.mp listed
  obtain ⟨number, low⟩ := placed.connected_index (seats_get at_) connected
  refine List.mem_map.mpr ⟨k, List.mem_range.mpr low, ?_⟩
  rw [← number]
  exact UInt16.ofNat_toNat

/-- The records of players are of ids that a session gives out. -/
structure Roomy (c : ClientState F Unit) : Prop where
  distinct : Slots.Distinct c.remote.players.slots
  within : Slots.Within (· ∈ seatIds) c.remote.players.slots

/-- What the client shows of a player: a state, or nothing. -/
structure Watches (p : PlayerId) (last : Option (MsgPlayerState F)) (c : ClientState F Unit) :
    Prop where
  roomy : Roomy c
  foreign : Foreign p c
  shown : ∀ msg, last = some msg → ShownAs p msg c
  absent : last = none → playerShown c p = none

/-- What the service holds of a player: the last report, or none. -/
structure Holds (last : Option (MsgPlayerState F)) (player : PlayerRuntimeState F) : Prop where
  state : ∀ msg, last = some msg → player.replicatedState = msg
  counted : ∀ msg, last = some msg → player.relayStats.lastSequence = msg.stateSequence ∧
    player.relayStats.lastObservedTick = msg.observedTick
  unreported : last = none → player.replicatedState.playerId = 0 ∧
    player.relayStats.lastSequence = 0 ∧ player.relayStats.lastObservedTick = 0

section Watching
variable {c : ClientState F Unit} {s : SessionState F} {p : PlayerId}
  {last : Option (MsgPlayerState F)} {player : PlayerRuntimeState F} {type : MessageType}
  {body : Body F type}

omit [CFloat F] in
theorem Roomy.hasRoom (roomy : Roomy c) : PlayerProxies.HasRoom c.remote.players :=
  (Slots.countP_live_le roomy.distinct roomy.within).trans_lt (by decide)

theorem Roomy.message (roomy : Roomy c)
    (named : ∀ id, spawnsPlayer type body = some id → id ∈ seatIds) :
    Roomy (applyMessage defaultBackend type body c).2 where
  distinct := applyMessage_playersKept (Slots.distinct_kept 8) defaultBackend_overProxies
    (fun _ _ => trivial) roomy.distinct
  within := applyMessage_playersKept (Slots.within_kept 8 _) defaultBackend_overProxies named
    roomy.within

omit [CFloat F] in
theorem spawnsPlayer_seated (placed : Placed s.seats) (truth : truthful s type body) {id : PlayerId}
    (spawns : spawnsPlayer type body = some id) : id ∈ seatIds := by
  cases type with
  | playerState =>
      rw [spawnsPlayer] at spawns
      split at spawns
      · cases spawns
      · rename_i somebody
        obtain rfl := Option.some.inj spawns
        obtain ⟨_, q, listed, connected, named, _⟩ := truth.resolve_left somebody
        exact named ▸ mem_seatIds placed listed connected
  | _ => cases spawns

theorem applyPlayerLeft_other {msg : MsgPlayerLeft} (distinct : Slots.Distinct c.remote.players.slots)
    (other : p ≠ msg.playerId) :
    playerShown (applyMessage defaultBackend .playerLeft msg c).2 p = playerShown c p := by
  simp only [playerShown, applyMessage, applyPlayerLeft, rpmRemoveRemotePlayer]
  split
  · rfl
  · have zero : Slots.Slot.live (.zero : ProxyPlayerRecord F) = false := rfl
    have released := Slots.lookup_release (j := msg.playerId) distinct zero p
    rw [if_neg other] at released
    exact (congrArg _ (Slots.Table.slots_modifyFirst ..)).trans released

/-- A message that is true of a session leaves the client with what the session holds of the player. -/
theorem Watches.message (watches : Watches p last c) (placed : Placed s.seats) (nobody : p ≠ 0)
    (listed : player ∈ s.players.slots) (connected : player.connected = true)
    (named : player.playerId = p) (holds : Holds last player) (truth : truthful s type body) :
    Watches p last (applyMessage defaultBackend type body c).2 := by
  have roomy := watches.roomy.message fun id spawns => spawnsPlayer_seated placed truth spawns
  have foreign : Foreign p (applyMessage defaultBackend type body c).2 := by
    rw [Foreign, applyMessage_localPlayerId]
    exact watches.foreign
  have same : playerShown (applyMessage defaultBackend type body c).2 p = playerShown c p →
      Watches p last (applyMessage defaultBackend type body c).2 := by
    intro kept
    refine ⟨roomy, foreign, fun msg is => ?_, fun none => kept.trans (watches.absent none)⟩
    rw [ShownAs, kept]
    exact watches.shown msg is
  have other : playerMessage type = false →
      playerShown (applyMessage defaultBackend type body c).2 p = playerShown c p := by
    intro unrelated
    rw [playerShown, applyMessage_remote unrelated]
    rfl
  cases type with
  | playerState =>
      by_cases about : p = body.playerId
      · obtain ⟨_, q, listed', connected', named', held⟩ :=
          truth.resolve_left (about ▸ nobody)
        obtain rfl := placed.sole listed' listed connected' connected
          (named'.trans (about.symm.trans named.symm))
        subst about
        cases last with
        | none =>
            have unknown := (holds.unreported rfl).1
            rw [held] at unknown
            exact absurd unknown nobody
        | some msg =>
            obtain rfl : body = msg := held.symm.trans (holds.state msg rfl)
            have again := (watches.shown body rfl).again nobody watches.foreign
            refine ⟨roomy, foreign, fun msg is => ?_, fun none => by cases none⟩
            obtain rfl := Option.some.inj is
            exact again
      · exact same (applyPlayerState_other about)
  | playerLeft =>
      have stays : p ≠ body.playerId := named ▸ truth player listed connected
      exact same (applyPlayerLeft_other watches.roomy.distinct stays)
  | _ => exact same (other rfl)

end Watching

/-! ## A player that is followed -/

section Following
variable [WireFloat F] [LawfulWireFloat F] {kA kB : UInt32} {p : PlayerId}
  {last : Option (MsgPlayerState F)} {m : Mirror F Unit} {e : NetworkEvent}

/-- The player behind `kA` and the client behind `kB`, with the last report on both sides. -/
structure Follows (kA kB : UInt32) (p : PlayerId) (last : Option (MsgPlayerState F))
    (m : Mirror F Unit) : Prop where
  paired : Paired kA kB p m
  holds : ∀ player, tlFindPlayerByConnection m.service.session kA = some player → Holds last player
  watches : Watches p last m.client

/-- The player is still behind the one connection, and somebody behind the other. -/
def Stays (kA kB : UInt32) (p : PlayerId) (s : SessionState F) : Prop :=
  (tlFindPlayerByConnection s kA).map (·.playerId) = some p ∧ Connected kB s

instance (s : SessionState F) : Decidable (Stays kA kB p s) := inferInstanceAs (Decidable (_ ∧ _))

omit [CFloat F] [WireFloat F] [LawfulWireFloat F] in
theorem tlFindPlayerByConnection_listed {s : SessionState F} {k : UInt32}
    {player : PlayerRuntimeState F} (found : tlFindPlayerByConnection s k = some player) :
    player ∈ s.players.slots ∧ player.connected = true ∧ player.connectionId = k := by
  have hit := List.find?_some found
  rw [Bool.and_eq_true, beq_iff_eq] at hit
  exact ⟨List.mem_of_find?_eq_some found, hit⟩

omit [LawfulWireFloat F] in
theorem mirrorStep_reachable (kB : UInt32) (reachable : Reachable m.service) (e : NetworkEvent) :
    Reachable (mirrorStep defaultBackend kB m e).service := by
  obtain ⟨event, step⟩ := transportStep_service m.service (.network e)
  have next := (reachable.step event).step .clearOutputs
  rw [← step] at next
  exact next

/-- What nobody but others does leaves both sides with the last report. -/
theorem Follows.other (follows : Follows kA kB p last m) (quiet : ReportsNothing kA e)
    (stays : Stays kA kB p (networkStep m.service e).session) :
    Follows kA kB p last (mirrorStep defaultBackend kB m e) := by
  obtain ⟨paired, holds, watches⟩ := follows
  obtain ⟨posts, taken, sendable, queue⟩ := networkStep_posts m.service e
  have aligned := paired.reachable.aligned
  have owned : StatesOwned m.service := @Reachable.invariant F _ _ StatesOwned
    freshService_statesOwned (fun _ e inv => serviceStep_statesOwned inv e) _ paired.reachable
  have reachable := mirrorStep_reachable kB paired.reachable e
  have placed : Placed (networkStep m.service e).session.seats := reachable.aligned.placed
  obtain ⟨player, byConnection, named, _⟩ := paired.sender
  obtain ⟨now, byConnectionNow, namedNow⟩ := Option.map_eq_some_iff.mp stays.1
  obtain ⟨listedNow, connectedNow, behindNow⟩ := tlFindPlayerByConnection_listed byConnectionNow
  obtain ⟨listed, connected, _⟩ := tlFindPlayerByConnection_listed byConnection
  have nobody : p ≠ 0 := by
    obtain ⟨_, _, _, _, somebody, _⟩ := paired.player
    exact somebody
  have holdsNow : Holds last now := by
    obtain ⟨q, before, seat, state, stats⟩ :=
      taken.sameReport aligned quiet listedNow connectedNow behindNow
    simp only [PlayerRuntimeState.seat, Seat.mk.injEq] at seat
    have placedBefore : Placed m.service.session.seats := aligned.placed
    obtain rfl := placedBefore.sole before listed (seat.1.symm.trans connectedNow) connected
      (seat.2.1.symm.trans (namedNow.trans named.symm))
    have held := holds q byConnection
    refine ⟨fun msg is => state.trans (held.state msg is), fun msg is => ?_, fun none => ?_⟩
    · rw [stats]
      exact held.counted msg is
    · rw [state, stats]
      exact held.unreported none
  have applied := mirrorStep_queued defaultBackend kB paired.cleared sendable queue
  have watchesNow : Watches p last (mirrorStep defaultBackend kB m e).client := by
    rw [applied]
    refine applyPosts_keep (Q := Watches p last) (fun post member c before => ?_) watches
    exact before.message placed nobody listedNow connectedNow namedNow holdsNow
      (taken.truthful owned post (List.mem_of_mem_take member))
  refine ⟨⟨reachable, rfl, ⟨now, byConnectionNow, namedNow, fun record shown => ?_⟩, stays.2,
    watchesNow.foreign⟩, fun after found => ?_, watchesNow⟩
  · cases last with
    | none =>
        rw [watchesNow.absent rfl] at shown
        cases shown
    | some msg =>
        obtain ⟨other, found, shows_⟩ := watchesNow.shown msg rfl
        obtain rfl := Option.some.inj (found.symm.trans shown)
        exact holdsNow.state msg rfl ▸ shows_
  · obtain rfl := Option.some.inj (byConnectionNow.symm.trans found)
    exact holdsNow

/-- A report is ahead of the last one, if there was one. -/
structure Ahead (last : Option (MsgPlayerState F)) (msg : MsgPlayerState F) : Prop where
  sequence : 0 < msg.stateSequence
  tick : 0 < msg.observedTick
  later : ∀ earlier, last = some earlier →
    earlier.stateSequence < msg.stateSequence ∧ earlier.observedTick < msg.observedTick

omit [CFloat F] [WireFloat F] [LawfulWireFloat F] in
theorem Ahead.accepted {player : PlayerRuntimeState F} {msg : MsgPlayerState F} (ahead : Ahead last msg)
    (holds : Holds last player) : (psrEvaluate player.relayStats msg).1 = .accept := by
  rw [psrEvaluate_accept_iff]
  cases last with
  | none =>
      obtain ⟨_, sequence, tick⟩ := holds.unreported rfl
      rw [sequence, tick]
      refine ⟨fun refused => refused.2.1 rfl, fun refused => refused.2.2.2.1 rfl,
        fun refused => refused.2.1 rfl⟩
  | some earlier =>
      obtain ⟨sequence, tick⟩ := holds.counted earlier rfl
      obtain ⟨numbered, clocked⟩ := ahead.later earlier rfl
      rw [sequence, tick]
      refine ⟨fun refused => absurd refused.2.2 (UInt32.lt_asymm numbered), fun refused => ?_,
        fun refused => absurd refused.2.2 (UInt32.lt_asymm clocked)⟩
      exact absurd refused.2.1.symm (UInt32.ne_of_lt numbered)

/-- A report that is ahead passes the filter of the service and the one of the client. -/
theorem Follows.report (follows : Follows kA kB p last m) {msg : MsgPlayerState F}
    (own : msg.playerId = p) (ahead : Ahead last msg) (store : ProfileStore)
    (client : PluginTransportClient) : Follows kA kB p (some msg)
      (mirrorStep defaultBackend kB m (.envelope store ⟨kA, stateDatagram client msg⟩)) := by
  obtain ⟨paired, holds, watches⟩ := follows
  obtain ⟨player, byConnection, found, named, nobody, _⟩ := paired.player
  obtain ⟨env, isEnv⟩ : ∃ env : TransportEnvelope, env = ⟨kA, stateDatagram client msg⟩ := ⟨_, rfl⟩
  have source : env.connectionId = kA := congrArg (·.connectionId) isEnv
  have carries : Carries env.bytes .playerState msg :=
    isEnv ▸ packetBytes_carries (sendable_of_plainMessage rfl _) _ _ _
  have opens : reportOf? F env.bytes = some (.state msg) := by
    rw [reportOf?, messageOf?_eq_some.mpr carries]
  rw [← isEnv]
  have held := holds player byConnection
  have accepted := ahead.accepted held
  have relayed : (Report.state msg).relayed player = some msg := if_pos accepted
  have handled : (tlHandleEnvelope store env m.service).1 = true := by
    obtain ⟨sequence, r, r', decoded, ends⟩ :=
      tlHandleEnvelope_carries store carries (by decide) m.service
    rw [ends, source, byConnection]
    have verdict := tlHandlePlayerState_decoded (s := received m.service sequence) decoded
      (own.trans named.symm) (named.symm ▸ found)
    obtain ⟨stats, decision⟩ : ∃ stats, psrEvaluate player.relayStats msg = (.accept, stats) :=
      ⟨_, Prod.ext accepted rfl⟩
    rw [decision] at verdict
    exact congrArg Prod.fst verdict
  have reports : Reports kA m (.envelope store env) := ⟨source, by rw [opens]; rfl, handled⟩
  obtain ⟨player', f, reported⟩ : ∃ player f,
      Reported kB p m (.envelope store env) (.state msg) player f :=
    paired.reportedAs reports fun _ _ same => by
      cases same
      exact opens
  obtain rfl := Option.some.inj (reported.found.symm.trans found)
  have agrees : Agrees p player'.replicatedState msg m.client := by
    rw [Agrees]
    cases shown : playerShown m.client p with
    | none => exact ⟨own, watches.roomy.hasRoom⟩
    | some record =>
        refine .inl ⟨own, fun overlooked => ?_⟩
        cases last with
        | none =>
            rw [watches.absent rfl] at shown
            cases shown
        | some earlier =>
            rw [held.state earlier rfl] at overlooked
            exact absurd overlooked.1.symm (UInt32.ne_of_lt (ahead.later earlier rfl).1)
  have next := paired.step reports (reported.agrees.mpr fun state is => by
    obtain rfl := Option.some.inj (relayed.symm.trans is)
    exact agrees)
  have state : (f player').replicatedState = msg := by rw [reported.leaves, relayed]; rfl
  refine ⟨next, fun now byConnectionNow => ?_, ?_, next.foreign, fun other is => ?_,
    fun none => by cases none⟩
  · obtain ⟨after, byConnectionAfter, foundAfter, _⟩ := next.player
    obtain rfl := Option.some.inj (byConnectionNow.symm.trans byConnectionAfter)
    obtain rfl := Option.some.inj (reported.foundAfter.symm.trans foundAfter)
    have counted := next.reachable.allCounted (f player')
      (tlFindPlayerByConnection_listed byConnectionNow).1
    refine ⟨fun other is => state.trans (Option.some.inj is), fun other is => ?_,
      fun none => by cases none⟩
    obtain rfl := Option.some.inj is
    rw [counted.sequence (state ▸ UInt32.pos_iff_ne_zero.mp ahead.sequence),
      counted.tick (state ▸ UInt32.pos_iff_ne_zero.mp ahead.tick), state]
    exact ⟨rfl, rfl⟩
  · rw [reported.applied]
    refine applyPosts_keep (Q := Roomy) (fun post member c roomy => roomy.message ?_) watches.roomy
    rw [Report.posts_eq, relayed] at member
    obtain ⟨_, _, _, rfl⟩ := mem_toConnected member
    intro id spawns
    rw [spawnsPlayer] at spawns
    split at spawns
    · cases spawns
    · obtain rfl := Option.some.inj spawns
      obtain ⟨listed, connected, _⟩ := tlFindPlayerByConnection_listed byConnection
      have seated := mem_seatIds paired.reachable.aligned.placed listed connected
      rwa [named, ← own] at seated
  · obtain rfl := Option.some.inj is
    exact (reported.shown paired relayed).mpr agrees

end Following

/-! ## From the hook to the screen -/

/-- The process of a player, and the service with the client that watches. -/
structure Pipeline (F : Type) where
  player : LocalPlayer F
  mirror : Mirror F Unit

inductive PipelineEvent (F : Type) where
  /-- The hook submits a sample. -/
  | submit (args : Option (CommonLibF4PlayerHookArgs F))
  /-- The player's live client, as it then is, comes to its report. -/
  | report (store : ProfileStore) (client : PluginTransportClient)
  /-- Anything else reaches the service, or it ticks. -/
  | other (e : NetworkEvent)

section Run
variable [FloatClass F] [WireFloat F] {cfg : Option (MovementSyncBridgeConfig F)} {kA kB : UInt32}
  {p : PlayerId} {l : Pipeline F}

def pipelineStep (kA kB : UInt32) (l : Pipeline F) : PipelineEvent F → Pipeline F
  | .submit args => { l with player := l.player.submit args }
  | .report store client =>
      let (built, player) := l.player.build
      match built with
      | none => { l with player }
      | some msg => ⟨player,
          mirrorStep defaultBackend kB l.mirror (.envelope store ⟨kA, stateDatagram client msg⟩)⟩
  | .other e => { l with mirror := mirrorStep defaultBackend kB l.mirror e }

/-- The sample that is accepted. -/
def sampledBy (l : Pipeline F) : PipelineEvent F → Option (FlaggedState F)
  | .submit args => acceptedState l.player.provider (.submit args)
  | .report _ _ => none
  | .other _ => none

/-- The state that is captured. -/
def capturedBy (l : Pipeline F) : PipelineEvent F → Option (LocalPlayerObservedState F)
  | .submit _ => none
  | .report _ _ => l.player.captured
  | .other _ => none

/-- The hook speaks for its own player, and what else happens leaves the two clients connected. -/
def Calm (kA kB : UInt32) (p : PlayerId) (l : Pipeline F) : PipelineEvent F → Prop
  | .submit args => ∀ hooked ∈ args, hooked.event.playerId = 0 ∨ hooked.event.playerId = p
  | .report _ _ => True
  | .other e => ReportsNothing kA e ∧ Stays kA kB p (networkStep l.mirror.service e).session

instance : ∀ e : PipelineEvent F, Decidable (Calm kA kB p l e)
  | .submit none => .isTrue fun _ absent => by cases absent
  | .submit (some hooked) =>
      decidable_of_iff (hooked.event.playerId = 0 ∨ hooked.event.playerId = p)
        ⟨fun own _ is => Option.some.inj is ▸ own, fun own => own hooked rfl⟩
  | .report _ _ => inferInstanceAs (Decidable True)
  | .other _ => inferInstanceAs (Decidable (_ ∧ _))

def samples (kA kB : UInt32) (l : Pipeline F) (events : List (PipelineEvent F)) :
    List (FlaggedState F) :=
  emitted (pipelineStep kA kB) sampledBy l events

def captures (kA kB : UInt32) (l : Pipeline F) (events : List (PipelineEvent F)) :
    List (LocalPlayerObservedState F) :=
  emitted (pipelineStep kA kB) capturedBy l events

/-- The pipeline behind the samples that were accepted and the captures that were made of them. -/
structure Tracked (cfg : Option (MovementSyncBridgeConfig F)) (kA kB : UInt32) (p : PlayerId)
    (accepted : List (FlaggedState F)) (captured : List (LocalPlayerObservedState F))
    (l : Pipeline F) : Prop where
  observes : Observes p accepted l.player
  bridge : l.player.bridge = bridgeAfter cfg captured
  follows : Follows kA kB p (messages cfg captured).getLast? l.mirror

variable [LawfulWireFloat F] {accepted : List (FlaggedState F)}
  {captured : List (LocalPlayerObservedState F)}

theorem Tracked.report (tracked : Tracked cfg kA kB p accepted captured l)
    (few : (captured ++ l.player.captured.toList).length < 2 ^ 32) (store : ProfileStore)
    (client : PluginTransportClient) : Tracked cfg kA kB p accepted (captured ++ l.player.captured.toList)
      (pipelineStep kA kB l (.report store client)) := by
  obtain ⟨observes, bridge, follows⟩ := tracked
  obtain ⟨_, _, _, _, nobody, _⟩ := follows.paired.player
  have known := observes.captured nobody
  have built := observes.build
  rw [pipelineStep]
  rw [LocalPlayer.build_eq] at built ⊢
  cases taken : l.player.captured with
  | none =>
      rw [taken] at built
      rw [Option.toList_none, List.append_nil]
      exact ⟨built, bridge, follows⟩
  | some cur =>
      rw [taken] at built known few
      obtain ⟨state, latest, isCur⟩ := Option.map_eq_some_iff.mp known.symm
      have own : cur.playerId = p :=
        isCur ▸ observes.named state (List.mem_of_getLast? latest)
      simp only [Option.bind_some, Option.elim_some, bridge] at built ⊢
      rw [Option.toList_some, List.length_append, List.length_singleton] at few
      rw [Option.toList_some]
      cases reported : msbReport (bridgeAfter cfg captured) cur with
      | none =>
          refine ⟨built, bridgeAfter_snoc.symm, ?_⟩
          rw [messages_snoc, reported, Option.toList_none, List.append_nil]
          exact follows
      | some msg =>
          refine ⟨built, bridgeAfter_snoc.symm, ?_⟩
          rw [messages_snoc, reported, Option.toList_some, List.getLast?_concat]
          obtain ⟨sequence, tick, ahead⟩ := msbReport_ahead few reported
          refine follows.report ((msbReport_describes reported).playerId.trans own)
            ⟨sequence, tick, fun earlier is => ?_⟩ store client
          exact ahead earlier (List.mem_of_getLast? is)

theorem run_tracked {start : Pipeline F} (begins : Tracked cfg kA kB p [] [] start)
    {events : List (PipelineEvent F)}
    (calm : Along (pipelineStep kA kB) (Calm kA kB p) start events)
    (few : (captures kA kB start events).length < 2 ^ 32) :
    Tracked cfg kA kB p (samples kA kB start events) (captures kA kB start events)
      (run (pipelineStep kA kB) start events) := by
  induction events using List.reverseRecOn with
  | nil => exact begins
  | append_singleton events e ih =>
      obtain ⟨before, now⟩ := along_append.mp calm
      have sampled : samples kA kB start (events ++ [e]) = samples kA kB start events ++
          (sampledBy (run (pipelineStep kA kB) start events) e).toList := by
        rw [samples, emitted_append, emitted, emitted, List.append_nil, samples]
      have caught : captures kA kB start (events ++ [e]) = captures kA kB start events ++
          (capturedBy (run (pipelineStep kA kB) start events) e).toList := by
        rw [captures, emitted_append, emitted, emitted, List.append_nil, captures]
      rw [caught] at few
      have fewer : (captures kA kB start events).length < 2 ^ 32 :=
        (List.length_append ▸ Nat.le_add_right _ _ : _ ≤ (_ ++ _ : List _).length).trans_lt few
      have tracked := ih before fewer
      rw [sampled, caught, run_snoc]
      have now : Calm kA kB p (run (pipelineStep kA kB) start events) e := now.1
      generalize run (pipelineStep kA kB) start events = l at tracked now few ⊢
      cases e with
      | submit args =>
          rw [capturedBy, Option.toList_none, List.append_nil]
          exact ⟨tracked.observes.submit now, tracked.bridge, tracked.follows⟩
      | other e =>
          rw [sampledBy, capturedBy, Option.toList_none, Option.toList_none, List.append_nil,
            List.append_nil]
          exact ⟨tracked.observes, tracked.bridge, tracked.follows.other now.1 now.2⟩
      | report store client =>
          rw [sampledBy, Option.toList_none, List.append_nil]
          exact tracked.report few store client

/-- What holds of a run: a report captures the last sample that was accepted, and what the service holds
and the watching client shows of the player is the last report, which is current. -/
structure MovementShown (cfg : Option (MovementSyncBridgeConfig F)) (kA kB : UInt32) (p : PlayerId)
    (start : Pipeline F) (events : List (PipelineEvent F)) : Prop where
  captured : ∀ before store client behind, events = before ++ .report store client :: behind →
    capturedBy (run (pipelineStep kA kB) start before) (.report store client) =
      (samples kA kB start before).getLast?.map (·.toLocalPlayerObservedState)
  shown : ∀ cur, (captures kA kB start events).getLast? = some cur → ∃ msg slot,
    Current cfg (captures kA kB start events) msg cur ∧
      findPlayer (run (pipelineStep kA kB) start events).mirror.service.session p = some slot ∧
      slot.replicatedState = msg ∧
      ShownAs p msg (run (pipelineStep kA kB) start events).mirror.client
  unseen : captures kA kB start events = [] →
    playerShown (run (pipelineStep kA kB) start events).mirror.client p = none

omit [LawfulWireFloat F] in
theorem captures_beforehand (start : Pipeline F) {before behind : List (PipelineEvent F)} :
    (captures kA kB start before).length ≤ (captures kA kB start (before ++ behind)).length := by
  rw [captures, captures, emitted_append, List.length_append]
  exact Nat.le_add_right _ _

end Run

/-! ## Two players -/

theorem twoPlayers_follows : Follows 100 101 1 none ⟨twoPlayers, secondClient⟩ where
  paired := twoPlayers_paired
  holds player found := by
    have silent : (tlFindPlayerByConnection twoPlayers.session 100).map (fun player =>
        (player.replicatedState.playerId, player.relayStats.lastSequence,
          player.relayStats.lastObservedTick)) = some (0, 0, 0) := by decide +kernel
    have found : tlFindPlayerByConnection twoPlayers.session 100 = some player := found
    rw [found] at silent
    exact ⟨fun _ is => (by cases is), fun _ is => (by cases is), fun _ => by simpa using silent⟩
  watches := ⟨⟨.nil, fun _ listed => (by cases listed)⟩, twoPlayers_paired.foreign,
    fun _ is => (by cases is), fun _ => rfl⟩

def sampleAt (x : Int) : PipelineEvent Binary32 :=
  .submit (some ⟨⟨0, ⟨lit x 1, lit 0 1, lit 0 1⟩, zeroRot, zeroVec, 0, 0, 0⟩⟩)

/-- The first player walks; the second one reports as well, and the service ticks. -/
def walk : List (PipelineEvent Binary32) :=
  let store : ProfileStore := ⟨fun _ => none⟩
  let own : Body Binary32 .playerState := { zeroPlayerState with playerId := 2, stateSequence := 1 }
  [sampleAt 1, .report store {}, .other (.envelope store (envelopeOf 101 .playerState own)),
    .other .tick, sampleAt 9, sampleAt 10, .report store {}, .report store {}]

end F4MP.System

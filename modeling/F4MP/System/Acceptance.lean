import F4MP.Client.ActorProxy
import F4MP.Client.LiveClient
import F4MP.System.MirrorDelivery

/-!
# Whether a client accepts what the service sends

A connected client whose poll refuses a packet gives up the tick, with its heartbeat and its report.
The service sends what the client has no case for, and names records that the client does not have.
-/

namespace F4MP.System
open SoftFloat CFloat Protocol Wire Service Client Transition

variable {F : Type}

/-! ## What the service sends -/

/-- The types of the messages to a client. -/
def toClient : MessageType → Bool
  | .welcome | .pong => true
  | .profileSnapshot | .profileItems | .profilePerks | .profileAppearance => true
  | .playerState | .playerLeft | .actorSpawn | .actorState | .actorDespawn => true
  | .damageResult | .deathEvent => true
  | .buildResult | .objectSpawn | .objectUpdate | .objectDespawn => true
  | .dialogueOpen | .dialogueLine | .dialogueChoices | .dialogueClose | .questUpdate => true
  | _ => false

theorem toConnected_toClient (s : SessionState F) {type : MessageType}
    (told : toClient type = true) (flags : UInt16) (body : Body F type) :
    ∀ p ∈ toConnected s type flags body, toClient p.type = true := by
  intro p member
  obtain ⟨_, _, _, rfl⟩ := mem_toConnected member
  exact told

theorem answerPosts_toClient (s : SessionState F) (connectionId : UInt32) (playerId : PlayerId)
    (profile : PlayerProfile) :
    ∀ p ∈ answerPosts s connectionId playerId profile, toClient p.type = true := by
  simp only [answerPosts, profilePosts, List.forall_mem_cons]
  exact ⟨rfl, rfl, rfl, rfl, rfl, List.forall_mem_nil _⟩

section Numbers
variable [CFloat F]

theorem replayPosts_toClient (s : SessionState F) (connectionId : UInt32)
    (excludePlayerId : PlayerId) :
    ∀ p ∈ replayPosts s connectionId excludePlayerId, toClient p.type = true := by
  intro p member
  rcases mem_replayPosts member with ⟨_, _, _, _, rfl⟩ | ⟨_, _, _, rfl | rfl⟩ | ⟨_, _, _, rfl⟩ <;> rfl

theorem hitPosts_toClient (s : SessionState F) (attacker : PlayerId)
    (target : ActorRuntimeState F) :
    ∀ p ∈ hitPosts s attacker target, toClient p.type = true := by
  intro p member
  obtain ⟨_, _, _, rfl | ⟨_, _, rfl⟩ | ⟨_, rfl⟩⟩ := mem_hitPosts member <;> rfl

theorem tickPosts_toClient (s : ServiceState F) : ∀ p ∈ tickPosts s, toClient p.type = true := by
  intro p member
  rcases List.mem_append.mp member with left | despawned
  · obtain ⟨_, _, _, rfl⟩ := mem_leavePosts left
    rfl
  · obtain ⟨_, _, _, _, _, rfl⟩ := mem_despawnPosts despawned
    rfl

variable [WireFloat F]

theorem outcome_toClient {store : ProfileStore} {env : TransportEnvelope} {s : ServiceState F}
    {posts : List (Post F)} {result : Bool × ServiceState F}
    (outcome : Outcome store env s posts result) : ∀ p ∈ posts, toClient p.type = true := by
  cases outcome with
  | ignored => exact List.forall_mem_nil _
  | seated _ _ _ isPrefix =>
      exact fun p member => List.forall_mem_append.mpr
        ⟨answerPosts_toClient _ _ _ _, replayPosts_toClient _ _ _⟩ p (isPrefix.subset member)
  | kept _ _ personal =>
      intro p member
      rcases personal p member with type | type <;> rw [type] <;> rfl
  | left _ posted => exact posted ▸ toConnected_toClient _ rfl _ _
  | hit _ _ _ _ _ _ posted => exact posted ▸ hitPosts_toClient _ _ _
  | refused _ _ _ posted =>
      rw [posted, List.forall_mem_singleton]
      rfl
  | built _ _ _ _ posted =>
      rw [posted, List.forall_mem_cons]
      refine ⟨rfl, fun p member => ?_⟩
      obtain ⟨_, _, _, _, _, rfl⟩ := mem_objectSpawnPosts member
      rfl
  | moved _ _ posted => exact posted ▸ toConnected_toClient _ rfl _ _
  | scrapped _ _ posted => exact posted ▸ toConnected_toClient _ rfl _ _
  | selected => exact List.forall_mem_nil _

theorem networkPosts_toClient {s after : ServiceState F} {e : NetworkEvent}
    {posts : List (Post F)} (taken : NetworkPosts s e posts after) :
    ∀ p ∈ posts, toClient p.type = true := by
  cases taken with
  | envelope outcome => exact outcome_toClient outcome
  | tick => exact tickPosts_toClient s

end Numbers

/-! ## Packets that can be read -/

section Packets
variable [WireFloat F]

/-- The packet carries a message to a client. -/
def Readable (F : Type) [WireFloat F] (bytes : List UInt8) : Prop :=
  ∃ type, ∃ body : Body F type, Carries bytes type body ∧ toClient type = true

variable [LawfulWireFloat F]

theorem stamp_readable (sessionId : SessionId) (sequence : UInt32) {posts : List (Post F)}
    (sendable : ∀ p ∈ posts, Sendable p.type p.body)
    (told : ∀ p ∈ posts, toClient p.type = true) :
    ∀ output ∈ stamp sessionId sequence posts, Readable F output.bytes := by
  intro output queued
  obtain ⟨p, listed, number, rfl⟩ := mem_stamp queued
  exact ⟨p.type, p.body, packetBytes_carries (sendable p listed) sessionId number p.flags,
    told p listed⟩

theorem sendAll_readable (sessionId : SessionId) {posts : List (Post F)}
    (sendable : ∀ p ∈ posts, Sendable p.type p.body)
    (told : ∀ p ∈ posts, toClient p.type = true) {ctx : TransportLoopContext}
    (empty : ctx.outputs = []) :
    ∀ output ∈ (sendAll sessionId posts ctx).outputs, Readable F output.bytes := by
  rw [sendAll_sendable sessionId sendable, empty, List.nil_append]
  exact fun output queued => stamp_readable sessionId _ sendable told output
    (List.mem_of_mem_take queued)

theorem tlBroadcast_readable {s : SessionState F} {type : MessageType} {body : Body F type}
    {connectionId : UInt32} (told : toClient type = true)
    (adds : Adds (encodeBody type body) (bodySize type body))
    (refused : bodySize type body ≤ f4mpMaxPacketSize - packetHeaderSize - messageHeaderSize →
      ¬ Sendable type body →
        Refused (encodeBody type body) (decodeBody (F := F) receiveCaps type) (bodySize type body))
    (fits : Connected connectionId s →
      bodySize type body ≤ f4mpMaxPacketSize - packetHeaderSize - messageHeaderSize →
        Sendable type body)
    (flags : UInt16) {ctx : TransportLoopContext} (empty : ctx.outputs = []) :
    ∀ output ∈ (tlBroadcast s type flags (encodeBody type body) ctx).outputs,
      output.connectionId = connectionId → Readable F output.bytes := by
  by_cases sendable : Sendable type body
  · rw [tlBroadcast_posts]
    refine fun output queued _ => sendAll_readable s.sessionId ?_
      (toConnected_toClient s told flags body) empty output queued
    intro p member
    obtain ⟨_, _, _, rfl⟩ := mem_toConnected member
    exact sendable
  have room : packetHeaderSize + messageHeaderSize = 34 := rfl
  have whole : f4mpMaxPacketSize = 1400 := rfl
  rcases Nat.lt_or_ge f4mpMaxPacketSize
    (packetHeaderSize + messageHeaderSize + bodySize type body) with large | small
  · rw [tlBroadcast_oversize s type flags adds large ctx, empty]
    exact List.forall_mem_nil _
  -- The packet is sent, but not to the connection.
  · obtain ⟨payload, size, emits, _⟩ := refused (by omega) sendable
    obtain ⟨queued, appended, receivers, _⟩ :=
      tlBroadcast_emits s type flags emits (size ▸ small) ctx
    rw [appended, empty, List.nil_append]
    rintro output member rfl
    have receiver := List.mem_map_of_mem (f := (·.connectionId)) member
    rw [receivers] at receiver
    exact absurd (fits (List.mem_of_mem_take receiver) (by omega)) sendable

end Packets

/-! ## Steps of the service -/

section Serve
variable [CFloat F] [WireFloat F]

/-- What is sent to the connection and fits a packet has texts that fit the client's buffers. -/
def ShortTexts (connectionId : UInt32) (s : SessionState F) (capacity count : Nat)
    (texts : TextPointers) : Prop :=
  Connected connectionId s →
    8 + ((List.range count).map fun i => 10 + (sentText capacity count texts i).length).sum ≤
        f4mpMaxPacketSize - packetHeaderSize - messageHeaderSize →
      ∀ i < count, (sentText capacity count texts i).length ≤ 255

/-- No text that the event sends to the connection is too long. -/
def Spelled (connectionId : UInt32) (s : ServiceState F) : ServiceEvent F → Prop
  | .host (.dialogueChoices _ _ texts choiceCount) =>
      ShortTexts connectionId s.session 12 (min choiceCount 12).toNat texts
  | .host (.questUpdate questId stage tracked objs texts objectiveCount) =>
      (qmpValidateUpdate s.session { questId, stage, tracked, objectiveCount } objs).accepted = true →
        ShortTexts connectionId s.session 16 (min objectiveCount 16).toNat texts
  | _ => True

variable [LawfulWireFloat F] {s : ServiceState F} {connectionId : UInt32}

theorem networkStep_readable (empty : s.ctx.outputs = []) (e : NetworkEvent) :
    ∀ output ∈ (networkStep s e).ctx.outputs, Readable F output.bytes := by
  obtain ⟨posts, taken, sendable, queue⟩ := networkStep_posts s e
  rw [queue, empty, List.nil_append]
  exact fun output queued => stamp_readable _ _ sendable (networkPosts_toClient taken) output
    (List.mem_of_mem_take queued)

omit [CFloat F] in
theorem post_readable {type : MessageType} {flags : UInt16} {body : Body F type}
    (told : toClient type = true) (sendable : Sendable type body) (empty : s.ctx.outputs = []) :
    ∀ output ∈ (s.post (toConnected s.session type flags body)).ctx.outputs,
      Readable F output.bytes := by
  refine sendAll_readable s.session.sessionId ?_ (toConnected_toClient s.session told flags body) empty
  intro p member
  obtain ⟨_, _, _, rfl⟩ := mem_toConnected member
  exact sendable

omit [CFloat F] [WireFloat F] [LawfulWireFloat F] in
theorem choicesMessage_fits {choiceCount : UInt16} {texts : TextPointers}
    (short : ShortTexts connectionId s.session 12 (min choiceCount 12).toNat texts)
    (dialogueId : DialogueId) (choices : List MsgDialogueChoiceRecord)
    (connected : Connected connectionId s.session)
    (size : bodySize (F := F) .dialogueChoices
        (choicesMessage { dialogueId, choiceCount } choices texts) ≤
      f4mpMaxPacketSize - packetHeaderSize - messageHeaderSize) :
    Sendable (F := F) .dialogueChoices
      (choicesMessage { dialogueId, choiceCount } choices texts) := by
  rw [choicesMessage_packed, bodySize,
    sent_sizes (packedRecords_snd {} choices (choiceCount_le choiceCount))] at size
  rw [choicesMessage_sendable_iff]
  exact ⟨short connected size, size⟩

omit [CFloat F] [WireFloat F] [LawfulWireFloat F] in
theorem questMessage_fits {objectiveCount : UInt8} {texts : TextPointers}
    (short : ShortTexts connectionId s.session 16 (min objectiveCount 16).toNat texts)
    (questId : QuestId) (stage : UInt16) (tracked : UInt8) (objs : List MsgQuestObjectiveRecord)
    (connected : Connected connectionId s.session)
    (size : bodySize (F := F) .questUpdate
        (questMessage { questId, stage, tracked, objectiveCount } objs texts) ≤
      f4mpMaxPacketSize - packetHeaderSize - messageHeaderSize) :
    Sendable (F := F) .questUpdate
      (questMessage { questId, stage, tracked, objectiveCount } objs texts) := by
  rw [questMessage, bodySize,
    sent_sizes (packedRecords_snd {} objs (objectiveCount_le objectiveCount))] at size
  rw [questMessage_sendable_iff]
  exact ⟨short connected size, size⟩

omit [CFloat F] in
theorem hostStep_readable (empty : s.ctx.outputs = []) {e : HostEvent}
    (spelled : Spelled connectionId s (.host e)) :
    ∀ output ∈ (hostStep s e).ctx.outputs, output.connectionId = connectionId →
      Readable F output.bytes := by
  cases e with
  | dialogueOpen dialogueId npcActorNetId speakerActorNetId =>
      rw [hostStep, hemDialogueOpen_posts]
      exact fun output queued _ =>
        post_readable rfl (sendable_of_plainMessage rfl _) empty output queued
  | dialogueLine dialogueId speakerActorNetId text =>
      rw [hostStep, hemDialogueLine_posts]
      exact fun output queued _ => post_readable rfl (line_sendable _ _) empty output queued
  | dialogueChoices dialogueId choices texts choiceCount =>
      have room := choiceCount_le choiceCount
      have counted : (packedRecords 12 (min choiceCount 12).toNat {} choices texts).length = _ :=
        packedRecords_length {} choices room
      have noNul := @packedRecords_noNul _ _ _ texts {} choices room
      simp only [hostStep, hemDialogueChoices, ServiceState.send, tlBroadcastDialogueChoices,
        choicesMessage_encodes (F := F) { dialogueId, choiceCount } choices texts]
      exact tlBroadcast_readable rfl (dialogueChoices_adds counted noNul)
        (dialogueChoices_refused counted Std.min_le_right noNul)
        (choicesMessage_fits spelled dialogueId choices) _ empty
  | dialogueClose dialogueId reason =>
      rw [hostStep, hemDialogueClose_posts]
      exact fun output queued _ =>
        post_readable rfl (sendable_of_plainMessage rfl _) empty output queued
  | questUpdate questId stage tracked objs texts objectiveCount =>
      by_cases accepted : (qmpValidateUpdate s.session
        { questId, stage, tracked, objectiveCount } objs).accepted = true
      · have room := objectiveCount_le objectiveCount
        have counted : (packedRecords 16 (min objectiveCount 16).toNat {} objs texts).length = _ :=
          packedRecords_length {} objs room
        have noNul := @packedRecords_noNul _ _ _ texts {} objs room
        simp only [hostStep, hemQuestUpdate, accepted, if_true, ServiceState.send,
          tlBroadcastQuestUpdate, questMessage_encodes (F := F) texts
            { questId, stage, tracked, objectiveCount } objs]
        exact tlBroadcast_readable rfl (questUpdate_adds counted noNul)
          (questUpdate_refused counted Std.min_le_right noNul)
          (questMessage_fits (spelled accepted) questId stage tracked objs) _ empty
      · rw [hostStep, hemQuestUpdate_rejected accepted, empty]
        exact List.forall_mem_nil _
  | guestDialogueSelect playerId select =>
      by_cases offers : Offers s.session.dialogue select
      · obtain ⟨text, posted⟩ := hemApplyGuestDialogueSelect_posts playerId offers
        rw [hostStep, posted]
        refine fun output queued _ => sendAll_readable s.session.sessionId
          (List.forall_mem_append.mpr ⟨?_, ?_⟩) (List.forall_mem_append.mpr ⟨?_, ?_⟩) empty output queued
        · intro p member
          obtain ⟨_, _, _, rfl⟩ := mem_toConnected member
          exact line_sendable _ _
        · exact toConnected_sendable _ rfl _ _
        · exact toConnected_toClient _ rfl _ _
        · exact toConnected_toClient _ rfl _ _
      · rw [hostStep, hemApplyGuestDialogueSelect,
          dppApplySelection_of_not_offers offers playerId, empty]
        exact List.forall_mem_nil _

/-- Whatever the service does, it sends the connection messages that can be read. -/
theorem serviceStep_readable (empty : s.ctx.outputs = []) {e : ServiceEvent F}
    (spelled : Spelled connectionId s e) :
    ∀ output ∈ (serviceStep s e).ctx.outputs, output.connectionId = connectionId →
      Readable F output.bytes := by
  have silent : (serviceStep s e).ctx.outputs = [] → ∀ output ∈ (serviceStep s e).ctx.outputs,
      output.connectionId = connectionId → Readable F output.bytes := by
    intro none
    rw [none]
    exact List.forall_mem_nil _
  cases e with
  | envelope store env =>
      exact fun output queued _ => networkStep_readable empty (.envelope store env) output queued
  | tick => exact fun output queued _ => networkStep_readable empty .tick output queued
  | clearOutputs => exact silent rfl
  | popDialogueSelect =>
      refine silent ?_
      obtain ⟨_, _, _, frame⟩ := popDialogueSelect_frame s
      rw [frame]
      exact empty
  | setPlayerTimeoutTicks => exact silent empty
  | spawnHostile => exact silent empty
  | allocSettlement => exact silent empty
  | rebuildBubble => exact silent empty
  | setTrace => exact silent empty
  | host e => exact hostStep_readable empty spelled

end Serve

/-! ## What a client takes -/

section Client
variable [CFloat F] {c : ClientState F Unit}

/-- There is a free record. -/
def ObjectsHaveRoom (objects : ObjectProxies F) : Prop := objects.slots.countP (·.inUse) < 256

/-- What the client has a case for and, where the message is about a record, either has this record or
a free one to make it of. -/
def Takes : (type : MessageType) → Body F type → ClientState F Unit → Prop
  | .playerState, msg, c =>
      msg.playerId = 0 ∨ msg.playerId = c.manager.localPlayerId ∨
        (playerShown c msg.playerId).isSome ∨ PlayerProxies.HasRoom c.remote.players
  | .actorSpawn, msg, c =>
      (actorsShown c.actors msg.actorNetId).isSome ∨ ActorProxies.HasRoom c.actors
  | .actorState, msg, c =>
      (actorsShown c.actors msg.actorNetId).isSome ∨ ActorProxies.HasRoom c.actors
  | .actorDespawn, msg, c => (actorsShown c.actors msg.actorNetId).isSome
  | .objectSpawn, msg, c =>
      (Slots.lookup msg.objectNetId c.objects.slots).isSome ∨ ObjectsHaveRoom c.objects
  | .objectUpdate, msg, c => (Slots.lookup msg.objectNetId c.objects.slots).isSome
  | .objectDespawn, msg, c => (Slots.lookup msg.objectNetId c.objects.slots).isSome
  | .buildResult, _, _ => False
  | _, _, _ => True

theorem applyPlayerState_takes (msg : MsgPlayerState F) :
    (applyMessage defaultBackend .playerState msg c).1 = true ↔
      Takes (F := F) .playerState msg c := by
  by_cases own : msg.playerId = 0 ∨ msg.playerId = c.manager.localPlayerId
  · refine iff_of_true ?_ (own.imp_right .inl)
    simp only [applyMessage, paApplyPlayerState, rpmApplyRemotePlayerState, if_pos own]
  obtain ⟨nobody, foreign⟩ := not_or.mp own
  simp only [Takes, nobody, foreign, false_or]
  cases shown : playerShown c msg.playerId with
  | some record =>
      refine iff_of_true ?_ (.inl rfl)
      cases stale : staleFor record msg with
      | true => exact (applyPlayerState_stale shown stale).1
      | false => exact (applyPlayerState_newer nobody foreign shown stale).1
  | none =>
      rw [Option.isSome_none, Bool.false_eq_true, false_or]
      rcases applyPlayerState_new nobody foreign shown with ⟨room, done, _⟩ | ⟨full, refused, _⟩
      · exact iff_of_true done room
      · rw [refused]
        exact iff_of_false Bool.false_ne_true full

theorem applyActorState_takes (msg : MsgActorState F) :
    (applyMessage defaultBackend .actorState msg c).1 = true ↔
      (actorsShown c.actors msg.actorNetId).isSome ∨ ActorProxies.HasRoom c.actors := by
  cases shown : actorsShown c.actors msg.actorNetId with
  | some view =>
      obtain ⟨record, found, _⟩ := Option.map_eq_some_iff.mp shown
      refine iff_of_true ?_ (.inl rfl)
      simp only [applyMessage, paApplyActorState, found, Bool.not_true, Bool.false_eq_true, if_false]
      exact (proxyUpdateActor_shown shown).1
  | none =>
      rw [Option.isSome_none, Bool.false_eq_true, false_or]
      rcases applyActorState_unknown defaultBackend shown with ⟨refused, full, _⟩ | ⟨done, room, _⟩
      · rw [refused]
        exact iff_of_false Bool.false_ne_true full
      · exact iff_of_true done room

omit [CFloat F] in
theorem proxySpawnObject_done {msg : MsgObjectSpawn F} {objects : ObjectProxies F} :
    (proxySpawnObject msg objects).1 = true ↔
      (Slots.lookup msg.objectNetId objects.slots).isSome ∨ ObjectsHaveRoom objects := by
  obtain ⟨record, recordIs⟩ : ∃ record : ProxyObjectRecord F, record =
    ⟨true, msg.objectNetId, msg.formId, msg.position, msg.rotation, msg.stateFlags⟩ := ⟨_, rfl⟩
  have stores : (objects.store record).isSome ↔
      (Slots.lookup (Slots.Slot.key record) objects.slots).isSome ∨ ObjectsHaveRoom objects :=
    Slots.Table.store_isSome_iff
  rw [recordIs] at stores
  refine Iff.trans ?_ stores
  rw [proxySpawnObject]
  split <;> simp [*]

/-- A message that is not handled by the poll itself is applied exactly if the client takes it. -/
theorem applyMessage_takes {type : MessageType} (told : toClient type = true)
    (notWelcome : type ≠ .welcome) (notPong : type ≠ .pong) (body : Body F type) :
    (applyMessage defaultBackend type body c).1 = true ↔ Takes type body c := by
  cases type with
  | welcome => exact absurd rfl notWelcome
  | pong => exact absurd rfl notPong
  | playerState => exact applyPlayerState_takes body
  | actorSpawn => exact proxySpawnActor_done
  | actorState => exact applyActorState_takes body
  | actorDespawn =>
      rw [Takes, actorsShown, Slots.view, Option.isSome_map, ← Slots.lookup_isSome_iff]
      simp only [applyMessage, paApplyActorDespawn]
      split <;> simp [*]
  | objectSpawn => exact proxySpawnObject_done
  | objectUpdate => exact Slots.lookup_isSome_iff
  | objectDespawn => exact Slots.lookup_isSome_iff
  | buildResult => exact iff_of_false Bool.false_ne_true id
  | _ =>
      first
        | exact iff_of_true rfl trivial
        | cases told

end Client

/-! ## The poll of a connected client -/

section Poll
variable [CFloat F] [WireFloat F] {c : PluginTransportClient} {shown : ClientState F Unit}

omit [CFloat F] in
theorem ptcPolled_connected (sockets : Sockets) (polled : Option Bool)
    (connected : c.connected = true) : (ptcPolled sockets (polled, c, shown)).1 = polled := by
  cases polled with
  | none => rfl
  | some applied =>
      have waits : ptcMaybeRetryHello F sockets c = (true, c) :=
        if_pos (by rw [connected, Bool.true_or])
      simp only [ptcPolled, waits]

theorem ptcPollOnce_nothing (stSend : List UInt8 → Bool) (connected : c.connected = true) :
    (ptcPollOnce ⟨.nothing, stSend⟩ c shown).1 = some false :=
  ptcPolled_connected _ _ connected

theorem ptcPollOnce_takes {bytes : List UInt8} {type : MessageType} {body : Body F type}
    (carries : Carries bytes type body) (told : toClient type = true) (stSend : List UInt8 → Bool)
    (connected : c.connected = true) :
    (ptcPollOnce ⟨.datagram bytes, stSend⟩ c shown).1.isSome = true ↔ Takes type body shown := by
  obtain ⟨ph, mh, r, r', opened, known, decoded⟩ := id carries
  simp only [ptcPollOnce, opened]
  by_cases welcome : type = .welcome
  · subst welcome
    refine iff_of_true ?_ trivial
    simp only [ptcHandle, known, decoded]
    rw [ptcPolled_connected _ _ rfl]
    rfl
  by_cases pong : type = .pong
  · subst pong
    refine iff_of_true ?_ trivial
    simp only [ptcHandle, known, decoded]
    rw [ptcPolled_connected _ _ (by exact connected)]
    rfl
  rw [← applyMessage_takes told welcome pong body, ← pluginApplyPacket_carries carries]
  unfold ptcHandle
  rw [known]
  split
  · rename_i same
    exact absurd (Option.some.inj same) welcome
  · rename_i same
    exact absurd (Option.some.inj same) pong
  · dsimp only
    rw [if_pos connected]
    rcases pluginApplyPacket defaultBackend bytes shown with ⟨_ | _, after⟩
    · dsimp only
      rw [if_pos connected]
      rfl
    · dsimp only
      rw [ptcPolled_connected _ _ (by exact connected)]
      rfl

/-- The poll of a tick accepts what it receives, and the tick comes to its heartbeat and its report. -/
def GoesOn (sockets : Sockets) (built : Option (MsgPlayerState F)) (s : LiveClient F) : Prop :=
  ∃ applied client shown,
    ptcPollOnce sockets s.bridge.client s.shown = (some applied, client, shown) ∧
      mlcbTick sockets built s =
        mlcbSend sockets built applied (mlcbJoin { bridge := { s.bridge with client }, shown })

theorem goesOn_iff {sockets : Sockets} {built : Option (MsgPlayerState F)} {s : LiveClient F} :
    GoesOn sockets built s ↔
      (ptcPollOnce sockets s.bridge.client s.shown).1.isSome = true := by
  constructor
  · rintro ⟨applied, client, shown, polled, _⟩
    rw [polled]
    rfl
  · intro accepted
    obtain ⟨applied, polled⟩ := Option.isSome_iff_exists.mp accepted
    rcases effect : ptcPollOnce sockets s.bridge.client s.shown with ⟨accepted', client, shown⟩
    rw [effect] at polled
    obtain rfl : accepted' = some applied := polled
    refine ⟨applied, client, shown, effect, ?_⟩
    simp only [mlcbTick, effect]

end Poll

/-! ## A service and the client at the other end -/

section Link
variable [CFloat F] [WireFloat F]

/-- A service, the packets on their way to one connection, and the process behind it. -/
structure Link (F : Type) where
  service : ServiceState F
  inFlight : List (List UInt8)
  client : LiveClient F

/-- The next packet comes in. -/
def Link.sockets (m : Link F) (stSend : List UInt8 → Bool) : Sockets where
  received := m.inFlight.head?.elim .nothing .datagram
  stSend

/-- Either side moves on its own. -/
inductive LinkEvent (F : Type) where
  | serve (e : ServiceEvent F)
  | tick (stSend : List UInt8 → Bool) (built : Option (MsgPlayerState F))

/-- What the service queues for the connection is sent and arrives in order. -/
def linkStep (connectionId : UInt32) (m : Link F) : LinkEvent F → Link F
  | .serve e =>
      let s := serviceStep m.service e
      { m with
        service := tlClearOutputs s
        inFlight := m.inFlight ++ (s.ctx.outputs.filter fun output =>
          output.connectionId == connectionId).map (·.bytes) }
  | .tick stSend built =>
      { m with
        inFlight := m.inFlight.tail
        client := (mlcbTick (m.sockets stSend) built m.client).2 }

/-- A tick of a connected client goes on. -/
def Accepts (m : Link F) : LinkEvent F → Prop
  | .serve _ => True
  | .tick stSend built => m.client.bridge.client.connected = true →
      GoesOn (m.sockets stSend) built m.client

/-- The message that a tick of a connected client polls is one that it takes. -/
def PollsTaken (m : Link F) : LinkEvent F → Prop
  | .serve _ => True
  | .tick _ _ => m.client.bridge.client.connected = true →
      ∀ bytes ∈ m.inFlight.head?, ∀ type, ∀ body : Body F type, Carries bytes type body →
        Takes type body m.client.shown

/-- No text that the service sends is too long. -/
def ServesSpelled (connectionId : UInt32) (m : Link F) : LinkEvent F → Prop
  | .serve e => Spelled connectionId m.service e
  | .tick _ _ => True

/-- All that is on its way can be read. -/
structure InOrder (m : Link F) : Prop where
  cleared : m.service.ctx.outputs = []
  readable : ∀ bytes ∈ m.inFlight, Readable F bytes

variable [LawfulWireFloat F] {m : Link F} {connectionId : UInt32}

theorem linkStep_inOrder (inOrder : InOrder m) {e : LinkEvent F}
    (spelled : ServesSpelled connectionId m e) : InOrder (linkStep connectionId m e) := by
  cases e with
  | serve e =>
      refine ⟨rfl, List.forall_mem_append.mpr ⟨inOrder.readable, ?_⟩⟩
      intro bytes member
      obtain ⟨output, own, rfl⟩ := List.mem_map.mp member
      obtain ⟨queued, receiver⟩ := List.mem_filter.mp own
      exact serviceStep_readable inOrder.cleared spelled output queued (beq_iff_eq.mp receiver)
  | tick stSend built =>
      exact ⟨inOrder.cleared, fun bytes member =>
        inOrder.readable bytes (List.mem_of_mem_tail member)⟩

omit [LawfulWireFloat F] in
theorem accepts_iff (inOrder : InOrder m) (e : LinkEvent F) : Accepts m e ↔ PollsTaken m e := by
  cases e with
  | serve => exact Iff.rfl
  | tick stSend built =>
      refine forall_congr' fun connected => ?_
      rw [goesOn_iff, Link.sockets]
      cases head : m.inFlight.head? with
      | none =>
          rw [Option.elim_none, ptcPollOnce_nothing stSend connected]
          exact iff_of_true rfl fun _ none => by cases none
      | some bytes =>
          obtain ⟨type, body, carries, told⟩ := inOrder.readable bytes (List.mem_of_mem_head? head)
          rw [Option.elim_some, ptcPollOnce_takes carries told stSend connected]
          constructor
          · intro takes bytes' same type' body' carries'
            obtain rfl := Option.mem_some_iff.mp same
            obtain rfl := carries.type_unique carries'
            rwa [← carries.unique carries']
          · exact fun taken => taken bytes rfl type body carries

/-- However the steps of a service and of a client that joins and stays interleave: where no text is
too long, the ticks of the connected client go on exactly if it takes each message that it polls. -/
theorem ticks_goOn_iff (connectionId : UInt32) (sessionId : SessionId) (rules : UInt32)
    (tickRate : UInt16) (whitelist : List UInt32) (client : LiveClient F)
    (events : List (LinkEvent F)) :
    let start : Link F := ⟨freshService sessionId rules tickRate whitelist, [], client⟩
    Along (linkStep connectionId) (ServesSpelled connectionId) start events →
      (Along (linkStep connectionId) Accepts start events ↔
        Along (linkStep connectionId) PollsTaken start events) := by
  intro start spelled
  have initial : InOrder start := ⟨rfl, List.forall_mem_nil _⟩
  exact along_congr (fun m e inOrder _ => accepts_iff inOrder e)
    (fun m e inOrder now _ => linkStep_inOrder inOrder now) initial spelled

end Link

/-- A process that has opened a session. -/
def openedProcess : LiveClient Binary32 :=
  (mlcbOpen ⟨.nothing, fun _ => true⟩ true true 7777 [0x41] [] 0 startedProcess).2

def helloFrom (connectionId : UInt32) : LinkEvent Binary32 :=
  .serve (.envelope ⟨fun _ => none⟩
    (envelopeOf (F := Binary32) connectionId .hello (⟨0, 0⟩, [0x41], [])))

/-- The client is answered, and polls the WELCOME. -/
theorem ticks_goOn_iff_welcome :
    let events : List (LinkEvent Binary32) := [helloFrom 100, .tick (fun _ => true) none]
    let start : Link Binary32 := ⟨freshService 1 15 20 [], [], openedProcess⟩
    Along (linkStep 100) Accepts start events ↔ Along (linkStep 100) PollsTaken start events :=
  ticks_goOn_iff 100 1 15 20 [] openedProcess [helloFrom 100, .tick (fun _ => true) none]
    ⟨trivial, trivial, trivial⟩

/-- The sixth tick polls the BUILD_RESULT that the client's own request is answered with. -/
theorem ticks_givenUp :
    let build : LinkEvent Binary32 := .serve (.envelope ⟨fun _ => none⟩
      (envelopeOf (F := Binary32) 100 .buildRequest ⟨1, 1, 0, 9, 7, zeroVec, zeroRot, 0⟩))
    let start : Link Binary32 := ⟨freshService 1 15 20 [], [], openedProcess⟩
    ¬ Along (linkStep 100) Accepts start
      (helloFrom 100 :: build :: List.replicate 6 (.tick (fun _ => true) none)) := by
  intro build start accepted
  obtain ⟨behind, behindIs⟩ : ∃ m, m = run (linkStep 100) start
    (helloFrom 100 :: build :: List.replicate 5 (.tick (fun _ => true) none)) := ⟨_, rfl⟩
  have last := along_iff.mp accepted (helloFrom 100 :: build ::
    List.replicate 5 (.tick (fun _ => true) none)) (.tick (fun _ => true) none) [] rfl
  rw [← behindIs] at last
  have connected : behind.client.bridge.client.connected = true := by
    rw [behindIs]
    decide +kernel
  have refused : (ptcPollOnce (behind.sockets fun _ => true) behind.client.bridge.client
      behind.client.shown).1.isSome = false := by
    rw [behindIs]
    decide +kernel
  exact Bool.false_ne_true (refused.symm.trans (goesOn_iff.mp (last connected)))

end F4MP.System

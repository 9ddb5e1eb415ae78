import F4MP.System.Framing
import F4MP.System.MirrorDelivery

/-!
# The packets in the queue

Every packet that the service queues is framed as its receivers expect, and carries a later number than
the packets before it. A message that no packet has room for, or that the full queue refuses, takes a
number as well.
-/

namespace F4MP.System
open SoftFloat CFloat Protocol Wire Service Transition

variable {F : Type}

/-! ## Frames -/

/-- What the service sends: one message behind the headers of a packet. -/
def IsFrame (sessionId : SessionId) (sequence : UInt32) (bytes : List UInt8) : Prop :=
  ∃ (type : MessageType) (flags : UInt16) (payload : List UInt8), 0 < payload.length ∧
    packetHeaderSize + messageHeaderSize + payload.length ≤ f4mpMaxPacketSize ∧
    bytes = framedBytes sessionId sequence type flags payload

/-- A packet of one message, as both endpoints check it. -/
structure WellFramed (sessionId : SessionId) (bytes : List UInt8) : Prop where
  long : packetHeaderSize + messageHeaderSize ≤ bytes.length
  fits : bytes.length ≤ f4mpMaxPacketSize
  headers : ∃ ph mh r r', decodePacketHeader.run (prInit bytes) = (some ph, r) ∧
    decodeMessageHeader.run r = (some mh, r') ∧
    ph.magic = f4mpMagic ∧ ph.version = f4mpVersion ∧ ph.sessionId = sessionId ∧
    ph.messageCount = 1 ∧ f4mpValidatePacketHeader ph = true ∧
    mh.length.toNat = bytes.length - (packetHeaderSize + messageHeaderSize) ∧ mh.length ≠ 0 ∧
    f4mpValidateMessageHeader mh = true

/-- The sequence in the header of a packet. -/
def sequenceOf (bytes : List UInt8) : UInt32 :=
  ((decodePacketHeader.run (prInit bytes)).1.map (·.sequence)).getD 0

theorem IsFrame.reads {sessionId : SessionId} {sequence : UInt32} {bytes : List UInt8}
    (frame : IsFrame sessionId sequence bytes) :
    WellFramed sessionId bytes ∧ sequenceOf bytes = sequence := by
  obtain ⟨type, flags, payload, nonempty, fits, rfl⟩ := frame
  have small : payload.length < 65536 := by
    have : f4mpMaxPacketSize = 1400 := rfl
    omega
  have size := @framedBytes_length type payload sessionId sequence flags
  obtain ⟨header, message, _⟩ := openPacket_reads
    (@openPacket_framedBytes type payload sessionId sequence flags nonempty small)
  have counted : (UInt16.ofNat payload.length).toNat = payload.length :=
    UInt16.toNat_ofNat_of_lt' small
  refine ⟨⟨by omega, by omega, _, _, _, _, header, message, rfl, rfl, rfl, rfl, rfl, ?_, ?_, ?_⟩, ?_⟩
  · rw [size]
    exact counted.trans (by omega)
  · intro zero
    have := congrArg UInt16.toNat zero
    rw [show (sentMessageHeader type flags payload.length).length.toNat = _ from counted] at this
    exact nonempty.ne' this
  · refine decide_eq_true (UInt16.lt_iff_toNat_lt.mpr ?_)
    change 0 < (UInt16.ofNat payload.length).toNat
    rw [counted]
    exact nonempty
  · rw [sequenceOf, header]
    rfl

/-! ## What a step sends -/

/-- `n` packets are numbered on from a context, and some of them are queued in the order of their
numbers. -/
structure Sends (sessionId : SessionId) (n : Nat) (before after : TransportLoopContext) : Prop where
  numbered : after.transport.lastTxSequence = before.transport.lastTxSequence + UInt32.ofNat n
  queued : ∃ frames : List (Nat × TransportOutput),
    after.outputs = before.outputs ++ frames.map (·.2) ∧
    (frames.map (·.1)).Pairwise (· < ·) ∧
    ∀ frame ∈ frames, 0 < frame.1 ∧ frame.1 ≤ n ∧ IsFrame sessionId
      (before.transport.lastTxSequence + UInt32.ofNat frame.1) frame.2.bytes

namespace Sends

variable {sessionId : SessionId} {n m : Nat} {before between after : TransportLoopContext}

theorem none (last : after.transport.lastTxSequence = before.transport.lastTxSequence)
    (outputs : after.outputs = before.outputs) : Sends sessionId 0 before after where
  numbered := by simp [last]
  queued := ⟨[], by simp [outputs], List.Pairwise.nil, List.forall_mem_nil _⟩

theorem trans (first : Sends sessionId n before between) (rest : Sends sessionId m between after) :
    Sends sessionId (n + m) before after := by
  obtain ⟨frames, outputs, ordered, framed⟩ := first.queued
  obtain ⟨more, outputs', ordered', framed'⟩ := rest.queued
  refine ⟨?_, frames ++ more.map fun frame => (n + frame.1, frame.2), ?_, ?_, ?_⟩
  · rw [rest.numbered, first.numbered, UInt32.add_assoc, UInt32.ofNat_add]
  · rw [outputs', outputs, List.map_append, List.map_map, List.append_assoc]
    rfl
  · rw [List.map_append, List.map_map, List.pairwise_append]
    refine ⟨ordered, ?_, ?_⟩
    · rw [show ((·.1) ∘ fun frame : Nat × TransportOutput => (n + frame.1, frame.2)) =
        (n + ·) ∘ (·.1) from rfl, ← List.map_map, List.pairwise_map]
      exact ordered'.imp fun less => Nat.add_lt_add_left less n
    · intro i early j late
      obtain ⟨frame, member, rfl⟩ := List.mem_map.mp early
      obtain ⟨frame', member', rfl⟩ := List.mem_map.mp late
      have bound := (framed frame member).2.1
      have positive := (framed' frame' member').1
      show frame.1 < n + frame'.1
      omega
  · intro frame member
    rcases List.mem_append.mp member with early | late
    · obtain ⟨positive, bound, isFrame⟩ := framed frame early
      exact ⟨positive, by omega, isFrame⟩
    · obtain ⟨frame', member', rfl⟩ := List.mem_map.mp late
      obtain ⟨positive, bound, isFrame⟩ := framed' frame' member'
      rw [first.numbered, UInt32.add_assoc, ← UInt32.ofNat_add] at isFrame
      exact ⟨Nat.add_pos_right n positive, Nat.add_le_add_left bound n, isFrame⟩

theorem of_queue {before' after' : TransportLoopContext} (sends : Sends sessionId n before after)
    (last : before'.transport.lastTxSequence = before.transport.lastTxSequence)
    (outputs : before'.outputs = before.outputs)
    (last' : after'.transport.lastTxSequence = after.transport.lastTxSequence)
    (outputs' : after'.outputs = after.outputs) : Sends sessionId n before' after' := by
  refine ⟨?_, ?_⟩
  · rw [last, last', sends.numbered]
  · rw [last, outputs, outputs']
    exact sends.queued

end Sends

theorem number_sends (sessionId : SessionId) (ctx : TransportLoopContext) :
    Sends sessionId 1 ctx { ctx with
      transport := { ctx.transport with lastTxSequence := ctx.transport.lastTxSequence + 1 } } where
  numbered := rfl
  queued := ⟨[], (List.append_nil _).symm, List.Pairwise.nil, List.forall_mem_nil _⟩

theorem tlPushOutput_sends {sessionId : SessionId} {ctx : TransportLoopContext} {bytes : List UInt8}
    (isFrame : bytes.length ≤ f4mpMaxPacketSize →
      IsFrame sessionId (ctx.transport.lastTxSequence + 1) bytes) (connectionId : UInt32) :
    Sends sessionId 1 ctx (tlPushOutput connectionId bytes { ctx with
      transport := { ctx.transport with
        lastTxSequence := ctx.transport.lastTxSequence + 1 } }).2 := by
  rw [tlPushOutput]
  split
  · exact number_sends sessionId ctx
  · rename_i admitted
    split
    · exact number_sends sessionId ctx
    · refine ⟨rfl, [(1, ⟨connectionId, bytes⟩)], rfl, List.pairwise_singleton _ _, ?_⟩
      rw [List.forall_mem_singleton]
      exact ⟨Nat.one_pos, Nat.le_refl 1, isFrame (not_lt.mp (not_or.mp admitted).2)⟩

/-- A send takes one number, and queues a frame under it or nothing. -/
theorem tlSendSingle_sends {enc : Write} {n : Nat} (adds : Adds enc n) (nonempty : 0 < n)
    (sessionId : SessionId) (connectionId : UInt32) (type : MessageType) (flags : UInt16)
    (ctx : TransportLoopContext) :
    Sends sessionId 1 ctx (tlSendSingle sessionId connectionId type flags enc ctx).2 := by
  obtain ⟨headerLength, headerEmits, _⟩ :=
    sentPacketHeader_bytes sessionId (ctx.transport.lastTxSequence + 1)
  obtain ⟨header, isHeader⟩ : ∃ header, header = wireBytes (encodePacketHeader
    (sentPacketHeader sessionId (ctx.transport.lastTxSequence + 1))) := ⟨_, rfl⟩
  rw [← isHeader] at headerLength headerEmits
  obtain ⟨mh, bare⟩ : ∃ mh : MessageHeader, { type := type.code, flags := flags } = mh := ⟨_, rfl⟩
  have headersRan := headers_written headerEmits headerLength mh
  rw [sentPacketHeader] at headersRan
  simp only [tlSendSingle, bare, headersRan]
  split
  · exact number_sends sessionId ctx
  · rename_i w ran
    obtain ⟨payload, size, rfl⟩ := adds _ w ran
    rw [put_writer]
    have length : (header ++ messageHeaderBytes mh ++ payload).length -
        (header ++ messageHeaderBytes mh).length = payload.length := by
      rw [List.length_append, Nat.add_sub_cancel_left]
    dsimp only
    rw [length, patchLength_packet headerLength]
    refine tlPushOutput_sends (fun fits => ?_) connectionId
    rw [List.length_append, List.length_append, headerLength, messageHeaderBytes_length,
      ← Nat.add_assoc] at fits
    refine ⟨type, flags, payload, size ▸ nonempty, fits, ?_⟩
    rw [framedBytes, ← isHeader, sentMessageHeader, ← bare]

/-! ### Posts -/

/-- A post whose encoder writes a body, if it succeeds. -/
def Written [WireFloat F] (p : Post F) : Prop :=
  Adds (encodeBody p.type p.body) (bodySize p.type p.body)

section Posts
variable [WireFloat F]

theorem sendAll_sends (sessionId : SessionId) {posts : List (Post F)}
    (written : ∀ p ∈ posts, Written p) (ctx : TransportLoopContext) :
    Sends sessionId posts.length ctx (sendAll sessionId posts ctx) := by
  induction posts generalizing ctx with
  | nil => exact .none rfl rfl
  | cons p posts ih =>
      rw [sendAll_cons, List.length_cons, Nat.add_comm]
      exact (tlSendSingle_sends (written p List.mem_cons_self) (bodySize_pos p.type p.body) sessionId
        p.connectionId p.type p.flags ctx).trans (ih (fun q later => written q
          (List.mem_cons_of_mem p later)) _)

theorem toConnected_written {s : SessionState F} {type : MessageType} {body : Body F type}
    (adds : Adds (encodeBody type body) (bodySize type body)) (flags : UInt16) :
    ∀ p ∈ toConnected s type flags body, Written p := by
  intro p member
  obtain ⟨_, _, _, rfl⟩ := mem_toConnected member
  exact adds

variable [LawfulWireFloat F]

theorem Written.of_sendable {p : Post F} (sendable : Sendable p.type p.body) : Written p :=
  sendable.payload.2.1.adds.size sendable.payload.1

theorem toConnected_written_of_sendable {s : SessionState F} {type : MessageType}
    {body : Body F type} (sendable : Sendable type body) (flags : UInt16) :
    ∀ p ∈ toConnected s type flags body, Written p :=
  toConnected_written (sendable.payload.2.1.adds.size sendable.payload.1) flags

end Posts

/-! ### The messages of a step -/

/-- No step sends as many messages: every table that a step goes through is shorter. -/
def stepLimit : Nat := 65536

section Count
variable [CFloat F]

omit [CFloat F] in
theorem toConnected_few (s : SessionState F) (type : MessageType) (flags : UInt16)
    (body : Body F type) : (toConnected s type flags body).length ≤ 8 :=
  toConnected_length_le s type flags body

theorem replayPosts_few (s : SessionState F) (connectionId : UInt32) (excludePlayerId : PlayerId) :
    (replayPosts s connectionId excludePlayerId).length ≤ 8 + 4096 * 2 + 8192 := by
  have players : ∀ shown, (s.players.slots.filter shown).length ≤ 8 := fun shown =>
    (List.length_filter_le shown _).trans s.players.size.le
  have actors : ∀ shown, (s.actors.slots.filter shown).length ≤ 4096 := fun shown =>
    (List.length_filter_le shown _).trans s.actors.fits
  have objects : ∀ shown, (s.objects.slots.filter shown).length ≤ 8192 := fun shown =>
    (List.length_filter_le shown _).trans s.objects.fits
  simp only [replayPosts, List.length_append, List.length_map, List.length_flatMap,
    List.length_cons, List.length_nil, List.map_const', List.sum_replicate, smul_eq_mul]
  exact Nat.add_le_add (Nat.add_le_add (players _) (Nat.mul_le_mul_right 2 (actors _))) (objects _)

theorem hitPosts_few (s : SessionState F) (attacker : PlayerId) (target : ActorRuntimeState F) :
    (hitPosts s attacker target).length ≤ 8 + 8 + 8 := by
  simp only [hitPosts]
  split
  · exact Nat.zero_le _
  · rw [List.length_append, List.length_append]
    refine Nat.add_le_add (Nat.add_le_add (toConnected_few _ _ _ _) ?_) ?_
    · cases findActor s target.actorNetId with
      | none => exact Nat.zero_le _
      | some actor =>
          rw [Option.toList_some, List.flatMap_singleton]
          exact toConnected_few _ _ _ _
    · split
      · exact toConnected_few _ _ _ _
      · exact Nat.zero_le _

omit [CFloat F] in
theorem objectSpawnPosts_few (s : SessionState F) (objectNetId : ObjectNetId) :
    (objectSpawnPosts s objectNetId).length ≤ 8 := by
  rw [objectSpawnPosts]
  cases findObject s objectNetId with
  | none => exact Nat.zero_le _
  | some obj =>
      rw [Option.toList_some, List.flatMap_singleton]
      exact toConnected_few _ _ _ _

omit [CFloat F] in
theorem leavePosts_few (s : SessionState F) (ids : List PlayerId) :
    (leavePosts s ids).length ≤ 8 * ids.length := by
  induction ids generalizing s with
  | nil => exact Nat.le_refl 0
  | cons id rest ih =>
      have here := toConnected_few s .playerLeft (MessageFlags.reliable ||| MessageFlags.ordered |||
        MessageFlags.ch1World) { playerId := id }
      have later := ih (smRemovePlayer s id)
      rw [leavePosts, List.length_append, List.length_cons]
      omega

omit [CFloat F] in
theorem despawnPosts_few (s : SessionState F) (ids : List ActorNetId) :
    (despawnPosts s ids).length ≤ 8 * ids.length := by
  induction ids with
  | nil => exact Nat.le_refl 0
  | cons id rest ih =>
      have here := toConnected_few s .actorDespawn (MessageFlags.reliable ||| MessageFlags.ordered |||
        MessageFlags.ch1World) { actorNetId := id, reason := adespawnDead }
      rw [despawnPosts, List.flatMap_cons, List.length_append, List.length_cons, ← despawnPosts]
      omega

theorem tickPosts_few (s : ServiceState F) : (tickPosts s).length < stepLimit := by
  have left := leavePosts_few s.session
    (timedOutPlayers { s with ctx := { s.ctx with currentTick := s.ctx.currentTick + 1 } })
  have late : (timedOutPlayers { s with
      ctx := { s.ctx with currentTick := s.ctx.currentTick + 1 } }).length ≤ 8 := by
    rw [timedOutPlayers]
    split
    · rw [List.length_map]
      exact (List.length_filter_le _ _).trans s.session.players.size.le
    · exact Nat.zero_le _
  have despawned := despawnPosts_few (markedSession s) (actorsToDespawn (markedSession s))
  have dead : (actorsToDespawn (markedSession s)).length ≤ 64 := List.length_take_le _ _
  rw [tickPosts, List.length_append, stepLimit]
  omega

variable [WireFloat F]

theorem outcome_few {store : ProfileStore} {env : TransportEnvelope} {s : ServiceState F}
    {posts : List (Post F)} {result : Bool × ServiceState F}
    (outcome : Outcome store env s posts result) : posts.length < stepLimit := by
  have few : ∀ {k}, k ≤ 8 + 8 + 8 → k < stepLimit := fun le => Nat.lt_of_le_of_lt le (by decide)
  have one : ∀ {s : SessionState F} {type flags body},
      (toConnected s type flags body).length < stepLimit := fun {s type flags body} =>
    few ((toConnected_few s type flags body).trans (by decide))
  cases outcome with
  | ignored => exact few (Nat.zero_le _)
  | seated hello takes found isPrefix =>
      refine Nat.lt_of_le_of_lt isPrefix.length_le ?_
      rw [helloPosts, List.length_append]
      exact Nat.lt_of_le_of_lt (Nat.add_le_add_left (replayPosts_few _ _ _) 5) (by decide)
  | kept _ _ _ _ wrote =>
      cases wrote with
      | heard => exact few (Nat.zero_le _)
      | ponged => exact few (Nat.le_add_left 1 23)
      | stale => exact few (Nat.zero_le _)
      | relayed => exact one
      | edited => exact one
  | left _ posted => exact posted ▸ one
  | hit _ _ _ _ _ _ posted => exact posted ▸ few (hitPosts_few _ _ _)
  | refused _ _ _ posted => exact posted ▸ few (Nat.le_add_left 1 23)
  | built _ _ _ _ posted =>
      rw [posted, List.length_cons]
      exact few ((Nat.succ_le_succ (objectSpawnPosts_few _ _)).trans (by decide))
  | moved _ _ posted => exact posted ▸ one
  | scrapped _ _ posted => exact posted ▸ one
  | selected => exact few (Nat.zero_le _)

end Count

/-! ### Steps -/

section Steps
variable [CFloat F] [WireFloat F]

/-- A step stays in its session, and numbers a bounded count of packets. -/
def Advances (s after : ServiceState F) : Prop :=
  after.session.sessionId = s.session.sessionId ∧
    ∃ n < stepLimit, Sends s.session.sessionId n s.ctx after.ctx

omit [CFloat F] [WireFloat F] in
theorem Advances.quiet {s after : ServiceState F}
    (sessionId : after.session.sessionId = s.session.sessionId)
    (last : after.ctx.transport.lastTxSequence = s.ctx.transport.lastTxSequence)
    (outputs : after.ctx.outputs = s.ctx.outputs) : Advances s after :=
  ⟨sessionId, 0, by decide, .none last outputs⟩

omit [CFloat F] in
theorem post_sends (s : ServiceState F) {posts : List (Post F)} (written : ∀ p ∈ posts, Written p) :
    Sends s.session.sessionId posts.length s.ctx (s.post posts).ctx :=
  sendAll_sends s.session.sessionId written s.ctx

variable [LawfulWireFloat F]

theorem outcome_advances {store : ProfileStore} {env : TransportEnvelope} {s : ServiceState F}
    {posts : List (Post F)} {result : Bool × ServiceState F}
    (outcome : Outcome store env s posts result) : Advances s result.2 := by
  have few := outcome_few outcome
  have written : ∀ p ∈ posts, Written p := fun p member =>
    .of_sendable (outcome.sendable p member)
  cases outcome with
  | ignored => exact .quiet rfl rfl rfl
  | seated _ takes =>
      obtain ⟨players, connectedCount, registry, rfl⟩ := takeSeat_frame takes
      exact ⟨rfl, posts.length, few, sendAll_sends _ written _⟩
  | kept => exact ⟨rfl, posts.length, few, sendAll_sends _ written _⟩
  | left => exact ⟨rfl, posts.length, few, post_sends (heard s _) written⟩
  | hit _ _ _ _ _ shot =>
      subst shot
      exact ⟨rfl, posts.length, few, sendAll_sends _ written _⟩
  | refused => exact ⟨rfl, posts.length, few, sendAll_sends _ written _⟩
  | built _ _ _ placed =>
      subst placed
      exact ⟨rfl, posts.length, few, sendAll_sends _ written _⟩
  | moved _ changed =>
      subst changed
      exact ⟨rfl, posts.length, few, sendAll_sends _ written _⟩
  | scrapped _ removed =>
      subst removed
      exact ⟨rfl, posts.length, few, sendAll_sends _ written _⟩
  | selected applied =>
      obtain ⟨dialogue, rfl⟩ := dspApplySelection_frame applied
      exact .quiet rfl rfl rfl

theorem tlTick_advances (s : ServiceState F) : Advances s (tlTick s) := by
  have written : ∀ p ∈ tickPosts s, Written p := fun p member =>
    .of_sendable (tickPosts_sendable s p member)
  rw [tlTick_posts]
  refine ⟨?_, (tickPosts s).length, tickPosts_few s, ?_⟩
  · dsimp only
    rw [tickSession_frame]
  · exact (sendAll_sends s.session.sessionId written
      { s.ctx with currentTick := s.ctx.currentTick + 1 }).of_queue rfl rfl rfl rfl

omit [CFloat F] [LawfulWireFloat F] in
theorem hemQuestUpdate_posts {questId : QuestId} {stage : UInt16} {tracked objectiveCount : UInt8}
    {objs : List MsgQuestObjectiveRecord} {s : ServiceState F} (texts : TextPointers)
    (accepted : (qmpValidateUpdate s.session
      { questId, stage, tracked, objectiveCount } objs).accepted = true) :
    (hemQuestUpdate questId stage tracked objs texts objectiveCount s).2.ctx =
      (s.post (toConnected s.session .questUpdate (MessageFlags.reliable ||| MessageFlags.ordered |||
          MessageFlags.ch4Ui)
        (questMessage { questId, stage, tracked, objectiveCount } objs texts))).ctx := by
  have encodes := questMessage_encodes (F := F) texts { questId, stage, tracked, objectiveCount } objs
  simp only [hemQuestUpdate, accepted, if_true, ServiceState.send, tlBroadcastQuestUpdate, encodes]
  exact tlBroadcast_posts s.session .questUpdate _ _ s.ctx

omit [CFloat F] in
theorem hostStep_posts (s : ServiceState F) (event : HostEvent) :
    ∃ posts : List (Post F), (∀ p ∈ posts, Written p) ∧ posts.length < stepLimit ∧
      (hostStep s event).ctx = (s.post posts).ctx := by
  have few : ∀ {type flags body}, (toConnected s.session type flags body).length < stepLimit :=
    fun {type flags body} =>
      Nat.lt_of_le_of_lt (toConnected_few s.session type flags body) (by decide)
  cases event with
  | dialogueOpen dialogueId npcActorNetId speakerActorNetId =>
      exact ⟨_, toConnected_written_of_sendable (sendable_of_plainMessage rfl _) _, few,
        hemDialogueOpen_posts dialogueId npcActorNetId speakerActorNetId s⟩
  | dialogueLine dialogueId speakerActorNetId text =>
      exact ⟨_, toConnected_written_of_sendable (line_sendable _ _) _, few,
        hemDialogueLine_posts dialogueId speakerActorNetId text s⟩
  | dialogueChoices dialogueId choices texts choiceCount =>
      have room := choiceCount_le choiceCount
      have counted : (packedRecords 12 (min choiceCount 12).toNat {} choices texts).length = _ :=
        packedRecords_length {} choices room
      have noNul := @packedRecords_noNul _ _ _ texts {} choices room
      exact ⟨_, toConnected_written (dialogueChoices_adds counted noNul) _, few,
        hemDialogueChoices_posts dialogueId choices texts choiceCount s⟩
  | dialogueClose dialogueId reason =>
      exact ⟨_, toConnected_written_of_sendable (sendable_of_plainMessage rfl _) _, few,
        hemDialogueClose_posts dialogueId reason s⟩
  | questUpdate questId stage tracked objs texts objectiveCount =>
      by_cases accepted : (qmpValidateUpdate s.session
        { questId, stage, tracked, objectiveCount } objs).accepted = true
      · have room := objectiveCount_le objectiveCount
        have counted : (packedRecords 16 (min objectiveCount 16).toNat {} objs texts).length = _ :=
          packedRecords_length {} objs room
        have noNul := @packedRecords_noNul _ _ _ texts {} objs room
        have adds : Adds (encodeBody (F := F) .questUpdate
            (questMessage { questId, stage, tracked, objectiveCount } objs texts)) _ :=
          questUpdate_adds counted noNul
        exact ⟨_, toConnected_written adds _, few, hemQuestUpdate_posts texts accepted⟩
      · rw [hostStep, hemQuestUpdate_rejected accepted]
        exact ⟨[], List.forall_mem_nil _, Nat.zero_lt_succ _, rfl⟩
  | guestDialogueSelect playerId select =>
      by_cases offers : Offers s.session.dialogue select
      · obtain ⟨text, posted⟩ := hemApplyGuestDialogueSelect_posts playerId offers
        refine ⟨_, List.forall_mem_append.mpr
          ⟨toConnected_written_of_sendable (line_sendable _ _) _,
            toConnected_written_of_sendable (sendable_of_plainMessage rfl _) _⟩, ?_, posted⟩
        rw [List.length_append]
        exact Nat.lt_of_le_of_lt
          (Nat.add_le_add (toConnected_few _ _ _ _) (toConnected_few _ _ _ _)) (by decide)
      · rw [hostStep, hemApplyGuestDialogueSelect, dppApplySelection_of_not_offers offers playerId]
        exact ⟨[], List.forall_mem_nil _, Nat.zero_lt_succ _, rfl⟩

omit [CFloat F] in
theorem hostStep_advances (s : ServiceState F) (event : HostEvent) :
    Advances s (hostStep s event) := by
  obtain ⟨posts, written, few, posted⟩ := hostStep_posts s event
  refine ⟨?_, posts.length, few, posted ▸ post_sends s written⟩
  obtain ⟨dialogue, quest, ctx, frame⟩ := hostStep_frame s event
  rw [frame]

/-- Every step but the reading of the queue adds to it. -/
theorem serviceStep_advances (s : ServiceState F) {e : ServiceEvent F}
    (adds : e ≠ .clearOutputs) : Advances s (serviceStep s e) := by
  cases e with
  | envelope store env =>
      obtain ⟨sequence, posts, outcome⟩ := tlHandleEnvelope_outcome store env s
      obtain ⟨sessionId, n, few, sends⟩ := outcome_advances outcome
      exact ⟨sessionId, n, few, sends.of_queue rfl rfl rfl rfl⟩
  | tick => exact tlTick_advances s
  | clearOutputs => exact absurd rfl adds
  | popDialogueSelect =>
      obtain ⟨_, _, _, frame⟩ := popDialogueSelect_frame s
      rw [frame]
      exact .quiet rfl rfl rfl
  | setPlayerTimeoutTicks => exact .quiet rfl rfl rfl
  | spawnHostile baseFormId position =>
      obtain ⟨_, frame⟩ := spawnHostile_frame s baseFormId position
      rw [frame]
      exact .quiet rfl rfl rfl
  | allocSettlement settlementId center radius budget =>
      obtain ⟨_, frame⟩ := allocSettlement_frame s settlementId center radius budget
      rw [frame]
      exact .quiet rfl rfl rfl
  | rebuildBubble => exact .quiet rfl rfl rfl
  | setTrace => exact .quiet rfl rfl rfl
  | host event => exact hostStep_advances s event

end Steps

/-! ## Runs -/

section Runs
variable [CFloat F] [WireFloat F]

/-- The counter does not start again during the step. -/
def Unwrapped (s : ServiceState F) (e : ServiceEvent F) : Prop :=
  s.ctx.transport.lastTxSequence ≤ (serviceStep s e).ctx.transport.lastTxSequence

instance (s : ServiceState F) (e : ServiceEvent F) : Decidable (Unwrapped s e) :=
  inferInstanceAs (Decidable (_ ≤ _))

/-- A session's queue between two steps. -/
structure Framed (sessionId : SessionId) (s : ServiceState F) : Prop where
  session : s.session.sessionId = sessionId
  framed : ∀ output ∈ s.ctx.outputs, ∃ sequence, IsFrame sessionId sequence output.bytes

omit [WireFloat F] in
theorem Framed.fresh (sessionId : SessionId) (rules : UInt32) (tickRate : UInt16)
    (whitelist : List UInt32) :
    Framed sessionId (freshService sessionId rules tickRate whitelist : ServiceState F) :=
  ⟨rfl, List.forall_mem_nil _⟩

/-- The queue is in the order of the numbers, and none of them is yet to come. -/
structure Ascending (s : ServiceState F) : Prop where
  sent : ∀ output ∈ s.ctx.outputs, sequenceOf output.bytes ≤ s.ctx.transport.lastTxSequence
  ordered : (s.ctx.outputs.map fun output => sequenceOf output.bytes).Pairwise (· < ·)

theorem countOn_toNat {last : UInt32} {n i : Nat} (few : n < stepLimit)
    (unwrapped : last ≤ last + UInt32.ofNat n) (counted : i ≤ n) :
    (last + UInt32.ofNat i).toNat = last.toNat + i := by
  have bound := last.toNat_lt
  rw [stepLimit] at few
  rw [UInt32.le_iff_toNat_le, UInt32.toNat_add, UInt32.toNat_ofNat'] at unwrapped
  rw [UInt32.toNat_add, UInt32.toNat_ofNat']
  omega

omit [CFloat F] [WireFloat F] in
theorem Advances.framed {sessionId : SessionId} {s after : ServiceState F}
    (advances : Advances s after) (framed : Framed sessionId s) : Framed sessionId after := by
  obtain ⟨same, n, _, _, frames, outputs, _, isFrame⟩ := advances
  refine ⟨same.trans framed.session, fun output queued => ?_⟩
  rw [outputs] at queued
  rcases List.mem_append.mp queued with earlier | now
  · exact framed.framed output earlier
  · obtain ⟨frame, member, rfl⟩ := List.mem_map.mp now
    exact framed.session ▸ ⟨_, (isFrame frame member).2.2⟩

omit [CFloat F] [WireFloat F] in
theorem Advances.ascending {s after : ServiceState F} (advances : Advances s after)
    (unwrapped : s.ctx.transport.lastTxSequence ≤ after.ctx.transport.lastTxSequence)
    (numbered : Ascending s) : Ascending after := by
  obtain ⟨_, n, few, last, frames, outputs, ordered, isFrame⟩ := advances
  have unwrapped' : s.ctx.transport.lastTxSequence ≤
      s.ctx.transport.lastTxSequence + UInt32.ofNat n := last ▸ unwrapped
  have number : ∀ frame ∈ frames, (sequenceOf frame.2.bytes).toNat =
      s.ctx.transport.lastTxSequence.toNat + frame.1 := by
    intro frame member
    obtain ⟨_, counted, framed⟩ := isFrame frame member
    rw [framed.reads.2]
    exact countOn_toNat few unwrapped' counted
  refine ⟨fun output queued => ?_, ?_⟩
  · rw [outputs] at queued
    rcases List.mem_append.mp queued with earlier | now
    · exact UInt32.le_trans (numbered.sent output earlier) unwrapped
    · obtain ⟨frame, member, rfl⟩ := List.mem_map.mp now
      have counted := (isFrame frame member).2.1
      rw [UInt32.le_iff_toNat_le, number frame member, last,
        countOn_toNat few unwrapped' (Nat.le_refl n)]
      exact Nat.add_le_add_left counted _
  · rw [outputs, List.map_append, List.pairwise_append, List.map_map]
    refine ⟨numbered.ordered, ?_, ?_⟩
    · have byNumber : frames.Pairwise fun early late => early.1 < late.1 :=
        List.pairwise_map.mp ordered
      refine List.pairwise_map.mpr (byNumber.imp_of_mem fun first second less => ?_)
      rw [Function.comp, Function.comp, UInt32.lt_iff_toNat_lt, number _ first, number _ second]
      exact Nat.add_lt_add_left less _
    · intro i earlier j now
      obtain ⟨output, queued, rfl⟩ := List.mem_map.mp earlier
      obtain ⟨frame, member, rfl⟩ := List.mem_map.mp now
      have positive := (isFrame frame member).1
      have before := UInt32.le_iff_toNat_le.mp (numbered.sent output queued)
      rw [Function.comp, UInt32.lt_iff_toNat_lt, number frame member]
      omega

variable [LawfulWireFloat F]

theorem serviceStep_framed {sessionId : SessionId} {s : ServiceState F} (e : ServiceEvent F)
    (framed : Framed sessionId s) : Framed sessionId (serviceStep s e) := by
  by_cases clears : e = .clearOutputs
  · subst clears
    exact ⟨framed.session, List.forall_mem_nil _⟩
  · exact (serviceStep_advances s clears).framed framed

theorem serviceStep_ascending {s : ServiceState F} {e : ServiceEvent F} (unwrapped : Unwrapped s e)
    (numbered : Ascending s) : Ascending (serviceStep s e) := by
  by_cases clears : e = .clearOutputs
  · subst clears
    exact ⟨List.forall_mem_nil _, List.Pairwise.nil⟩
  · exact (serviceStep_advances s clears).ascending unwrapped numbered

/-- Whatever happens, the queue holds whole packets of the session, in the order of their numbers for
as long as the counter does not start again. -/
theorem run_wellFramed (sessionId : SessionId) (rules : UInt32) (tickRate : UInt16)
    (whitelist : List UInt32) (events : List (ServiceEvent F)) :
    let start := (freshService sessionId rules tickRate whitelist : ServiceState F)
    let outputs := (run serviceStep start events).ctx.outputs
    (∀ output ∈ outputs, WellFramed sessionId output.bytes) ∧
      (Along serviceStep Unwrapped start events →
        (outputs.map fun output => sequenceOf output.bytes).Pairwise (· < ·)) := by
  intro start outputs
  constructor
  · have framed : Framed sessionId (run serviceStep start events) :=
      run_invariant (P := fun _ _ => True) (fun s e held _ => serviceStep_framed e held)
        (.fresh sessionId rules tickRate whitelist) (along_always fun _ _ => trivial)
    intro output queued
    obtain ⟨sequence, isFrame⟩ := framed.framed output queued
    exact isFrame.reads.1
  · intro unwrapped
    have fresh : Ascending start := ⟨List.forall_mem_nil _, List.Pairwise.nil⟩
    exact (run_invariant (fun s e held goesOn => serviceStep_ascending goesOn held) fresh
      unwrapped).ordered

end Runs

/-- The choices are too long for a packet, and take the seventh number. -/
theorem run_wellFramed_oversize :
    let start : ServiceState Binary32 := freshService 1 15 20 []
    let events : List (ServiceEvent Binary32) :=
      [.envelope ⟨fun _ => none⟩ (envelopeOf (F := Binary32) 100 .hello (⟨0, 0⟩, [0x41], [])),
        .host (.dialogueOpen 5 7 8),
        .host (.dialogueChoices 5 [] (some (List.replicate 12 (some (List.replicate 200 0x41)))) 12),
        .host (.dialogueClose 5 0)]
    let outputs := (run serviceStep start events).ctx.outputs
    (outputs.map fun output => sequenceOf output.bytes) = [1, 2, 3, 4, 5, 6, 8] ∧
      (∀ output ∈ outputs, WellFramed 1 output.bytes) ∧
      (outputs.map fun output => sequenceOf output.bytes).Pairwise (· < ·) := by
  intro start events outputs
  have unwrapped : Along serviceStep Unwrapped start events := by decide +kernel
  obtain ⟨framed, ordered⟩ := run_wellFramed 1 15 20 [] events
  exact ⟨by decide +kernel, framed, ordered unwrapped⟩

end F4MP.System

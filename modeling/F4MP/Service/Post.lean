import F4MP.Protocol.Framing
import F4MP.Service.Run

/-!
# What the service posts

Every send of the transport loop posts one message to one connection. A broadcast and a replay are
lists of posts, and what reaches the output queue is read off from the list.
-/

namespace F4MP.Service
open SoftFloat Protocol Wire MessageFlags

variable {F : Type}

/-- A message for one connection. -/
structure Post (F : Type) where
  connectionId : UInt32
  type : MessageType
  flags : UInt16
  body : Body F type

section Sending
variable [WireFloat F]

def Post.send (sessionId : SessionId) (ctx : TransportLoopContext) (p : Post F) :
    TransportLoopContext :=
  (tlSendSingle sessionId p.connectionId p.type p.flags (encodeBody p.type p.body) ctx).2

def sendAll (sessionId : SessionId) (posts : List (Post F)) (ctx : TransportLoopContext) :
    TransportLoopContext :=
  posts.foldl (Post.send sessionId) ctx

@[simp] theorem sendAll_nil (sessionId : SessionId) (ctx : TransportLoopContext) :
    sendAll sessionId ([] : List (Post F)) ctx = ctx := rfl

@[simp] theorem sendAll_cons (sessionId : SessionId) (p : Post F) (posts : List (Post F))
    (ctx : TransportLoopContext) :
    sendAll sessionId (p :: posts) ctx = sendAll sessionId posts (p.send sessionId ctx) := by
  rw [sendAll, List.foldl_cons, ← sendAll]

theorem sendAll_append (sessionId : SessionId) (posts more : List (Post F))
    (ctx : TransportLoopContext) :
    sendAll sessionId (posts ++ more) ctx = sendAll sessionId more (sendAll sessionId posts ctx) :=
  List.foldl_append

/-! ## What one send does -/

omit [WireFloat F] in
theorem tlSendSingle_frame (sessionId : SessionId) (connectionId : UInt32) (type : MessageType)
    (flags : UInt16) (enc : Write) (ctx : TransportLoopContext) : ∃ transport outputs,
      (tlSendSingle sessionId connectionId type flags enc ctx).2 =
        { ctx with transport, outputs } := by
  simp only [tlSendSingle]
  split
  · exact ⟨_, _, rfl⟩
  · split
    · exact ⟨_, _, rfl⟩
    · simp only [tlPushOutput]
      split
      · exact ⟨_, _, rfl⟩
      · split <;> exact ⟨_, _, rfl⟩

omit [WireFloat F] in
theorem tlBroadcast_frame (s : SessionState F) (type : MessageType) (flags : UInt16) (enc : Write)
    (ctx : TransportLoopContext) : ∃ transport outputs,
      tlBroadcast s type flags enc ctx = { ctx with transport, outputs } := by
  rw [tlBroadcast]
  induction s.players.slots generalizing ctx with
  | nil => exact ⟨_, _, rfl⟩
  | cons p rest ih =>
      rw [List.foldl_cons]
      split
      · obtain ⟨transport, outputs, sent⟩ :=
          tlSendSingle_frame s.sessionId p.connectionId type flags enc ctx
        obtain ⟨transport', outputs', later⟩ := ih { ctx with transport, outputs }
        rw [sent]
        exact ⟨transport', outputs', later⟩
      · exact ih ctx

theorem sendAll_frame (sessionId : SessionId) (posts : List (Post F))
    (ctx : TransportLoopContext) : ∃ transport outputs,
      sendAll sessionId posts ctx = { ctx with transport, outputs } := by
  induction posts generalizing ctx with
  | nil => exact ⟨_, _, rfl⟩
  | cons p rest ih =>
      obtain ⟨transport, outputs, sent⟩ :=
        tlSendSingle_frame sessionId p.connectionId p.type p.flags (encodeBody p.type p.body) ctx
      obtain ⟨transport', outputs', later⟩ := ih { ctx with transport, outputs }
      rw [sendAll_cons, Post.send, sent]
      exact ⟨transport', outputs', later⟩

/-- The context after a packet was offered to the output queue. -/
def posted (ctx : TransportLoopContext) (output : TransportOutput) : TransportLoopContext :=
  { ctx with
    transport := { ctx.transport with lastTxSequence := ctx.transport.lastTxSequence + 1 }
    outputs := if ctx.outputs.length < maxOutputs then ctx.outputs ++ [output] else ctx.outputs }

def Post.output (sessionId : SessionId) (sequence : UInt32) (p : Post F) : TransportOutput :=
  ⟨p.connectionId, packetBytes sessionId sequence p.type p.flags p.body⟩

theorem patchLength_packet {header payload : List UInt8} {mh : MessageHeader} {length : UInt16}
    (size : header.length = packetHeaderSize) :
    patchLength (header ++ messageHeaderBytes mh ++ payload) length =
      header ++ (messageHeaderBytes { mh with length } ++ payload) := by
  have front : (header ++ (leBytes 2 mh.type.toNat ++ leBytes 2 mh.flags.toNat)).length =
      packetHeaderSize + 4 := by simp [size]
  have split : header ++ messageHeaderBytes mh ++ payload =
      (header ++ (leBytes 2 mh.type.toNat ++ leBytes 2 mh.flags.toNat)) ++
        (leBytes 2 mh.length.toNat ++ payload) := by
    simp only [messageHeaderBytes, List.append_assoc]
  have back : (leBytes 2 mh.length.toNat ++ payload).drop 2 = payload :=
    List.drop_left' (leBytes_length 2 _)
  rw [patchLength, split, ← List.drop_drop, ← front, List.take_left, List.drop_left, back]
  simp only [messageHeaderBytes, List.append_assoc]

theorem tlPushOutput_packet (connectionId : UInt32) (bytes : List UInt8)
    (ctx : TransportLoopContext) (nonempty : bytes.length ≠ 0)
    (fits : bytes.length ≤ f4mpMaxPacketSize) :
    tlPushOutput connectionId bytes { ctx with
        transport := { ctx.transport with lastTxSequence := ctx.transport.lastTxSequence + 1 } } =
      (decide (ctx.outputs.length < maxOutputs), posted ctx ⟨connectionId, bytes⟩) := by
  have admitted : ¬ (bytes.length = 0 ∨ f4mpMaxPacketSize < bytes.length) := by omega
  rw [tlPushOutput, if_neg admitted]
  by_cases room : ctx.outputs.length < maxOutputs
  · simp [posted, room, Nat.not_le.mpr room]
  · simp [posted, room, Nat.not_lt.mp room]

theorem headers_length {header : List UInt8} (headerLength : header.length = packetHeaderSize)
    (mh : MessageHeader) : (header ++ messageHeaderBytes mh).length =
      packetHeaderSize + messageHeaderSize := by
  rw [List.length_append, headerLength, messageHeaderBytes_length]

theorem headers_written {header : List UInt8} {headerWrite : Write}
    (headerEmits : Emits headerWrite header) (headerLength : header.length = packetHeaderSize)
    (mh : MessageHeader) :
    (do headerWrite; encodeMessageHeader mh).run (pwInit f4mpMaxPacketSize) =
      (some (), ⟨header ++ messageHeaderBytes mh, f4mpMaxPacketSize, false⟩) := by
  have emits : Emits (do headerWrite; encodeMessageHeader mh) (header ++ messageHeaderBytes mh) :=
    headerEmits.bind (encodeMessageHeader_emits mh)
  have initial : Sink.ready (pwInit f4mpMaxPacketSize) := ⟨rfl, Nat.zero_le _⟩
  rw [← put_pwInit]
  exact emits.run_eq initial (by rw [headers_length headerLength mh]; decide)

/-- The writer behind the headers of a packet, and behind its payload. -/
theorem packet_written {header payload : List UInt8} {headerWrite enc : Write}
    (headerEmits : Emits headerWrite header) (headerLength : header.length = packetHeaderSize)
    (payloadEmits : Emits enc payload)
    (fits : packetHeaderSize + messageHeaderSize + payload.length ≤ f4mpMaxPacketSize)
    (mh : MessageHeader) : ∃ w w' : PacketWriter,
      (do headerWrite; encodeMessageHeader mh).run (pwInit f4mpMaxPacketSize) = (some (), w) ∧
      enc.run w = (some (), w') ∧ w'.bytes.length - w.bytes.length = payload.length ∧
      ∀ length, patchLength w'.bytes length =
        header ++ (messageHeaderBytes { mh with length } ++ payload) := by
  have headersLength := headers_length headerLength mh
  obtain ⟨between, start⟩ : ∃ w : PacketWriter,
      w = ⟨header ++ messageHeaderBytes mh, f4mpMaxPacketSize, false⟩ := ⟨_, rfl⟩
  have headersRan := headers_written headerEmits headerLength mh
  have headersFit : packetHeaderSize + messageHeaderSize ≤ f4mpMaxPacketSize := by decide
  have ready : Sink.ready between := by
    rw [start]
    exact ⟨rfl, headersLength.trans_le headersFit⟩
  have room : payload.length ≤ Sink.room between := by
    rw [start]
    change _ ≤ f4mpMaxPacketSize - (header ++ messageHeaderBytes mh).length
    omega
  have payloadRan := payloadEmits.run_eq ready room
  rw [start, put_writer] at payloadRan
  refine ⟨_, _, headersRan, payloadRan, ?_, fun length => patchLength_packet headerLength⟩
  rw [List.length_append, Nat.add_sub_cancel_left]

theorem tlSendSingle_emits {header payload : List UInt8} {enc : Write} {sessionId : SessionId}
    {ctx : TransportLoopContext}
    (headerEmits : Emits (encodePacketHeader
      (sentPacketHeader sessionId (ctx.transport.lastTxSequence + 1))) header)
    (headerLength : header.length = packetHeaderSize) (payloadEmits : Emits enc payload)
    (fits : packetHeaderSize + messageHeaderSize + payload.length ≤ f4mpMaxPacketSize)
    (connectionId : UInt32) (type : MessageType) (flags : UInt16) :
    tlSendSingle sessionId connectionId type flags enc ctx =
      (decide (ctx.outputs.length < maxOutputs), posted ctx ⟨connectionId,
        header ++ (messageHeaderBytes (sentMessageHeader type flags payload.length) ++
          payload)⟩) := by
  obtain ⟨mh, bare⟩ : ∃ mh : MessageHeader, { type := type.code, flags := flags } = mh := ⟨_, rfl⟩
  obtain ⟨w, w', headersRan, payloadRan, payloadLen, patched⟩ :=
    packet_written headerEmits headerLength payloadEmits fits mh
  have size : (header ++ (messageHeaderBytes { mh with length := UInt16.ofNat payload.length } ++
      payload)).length = packetHeaderSize + messageHeaderSize + payload.length := by
    simp only [List.length_append, messageHeaderBytes_length, headerLength, Nat.add_assoc]
  rw [sentPacketHeader] at headersRan
  simp only [tlSendSingle, bare, headersRan, payloadRan, payloadLen, patched]
  subst bare
  exact tlPushOutput_packet connectionId _ ctx (by rw [size, packetHeaderSize]; omega)
    (by rw [size]; exact fits)

theorem patchLength_length {bytes : List UInt8} (length : UInt16)
    (long : packetHeaderSize + messageHeaderSize ≤ bytes.length) :
    (patchLength bytes length).length = bytes.length := by
  simp only [patchLength, List.length_append, List.length_take, List.length_drop,
    Wire.leBytes_length, packetHeaderSize, messageHeaderSize] at long ⊢
  omega

theorem tlSendSingle_oversize {enc : Write} {n : Nat} (adds : Adds enc n)
    (large : f4mpMaxPacketSize < packetHeaderSize + messageHeaderSize + n)
    (sessionId : SessionId) (connectionId : UInt32) (type : MessageType) (flags : UInt16)
    (ctx : TransportLoopContext) :
    (tlSendSingle sessionId connectionId type flags enc ctx).2.outputs = ctx.outputs := by
  obtain ⟨header, headerLength, headerEmits⟩ : ∃ header, header.length = packetHeaderSize ∧
      Emits (encodePacketHeader (sentPacketHeader sessionId (ctx.transport.lastTxSequence + 1)))
        header :=
    ⟨_, (sentPacketHeader_bytes sessionId _).1, (sentPacketHeader_bytes sessionId _).2.1⟩
  obtain ⟨mh, bare⟩ : ∃ mh : MessageHeader, { type := type.code, flags := flags } = mh := ⟨_, rfl⟩
  have headersRan := headers_written headerEmits headerLength mh
  rw [sentPacketHeader] at headersRan
  simp only [tlSendSingle, bare, headersRan]
  split
  · rfl
  · rename_i w ran
    obtain ⟨bs, rfl, rfl⟩ := adds _ w ran
    rw [put_writer]
    have size : (header ++ messageHeaderBytes mh ++ bs).length =
        packetHeaderSize + messageHeaderSize + bs.length := by
      rw [List.length_append, headers_length headerLength]
    have long : packetHeaderSize + messageHeaderSize ≤
        (header ++ messageHeaderBytes mh ++ bs).length := size ▸ Nat.le_add_right _ bs.length
    dsimp only
    rw [tlPushOutput, if_pos]
    rw [patchLength_length _ long, size]
    exact .inr large

theorem tlSendSingle_sendable [LawfulWireFloat F] {type : MessageType} {body : Body F type}
    (sendable : Sendable type body) (sessionId : SessionId) (connectionId : UInt32)
    (flags : UInt16) (ctx : TransportLoopContext) :
    tlSendSingle sessionId connectionId type flags (encodeBody type body) ctx =
      (decide (ctx.outputs.length < maxOutputs), posted ctx ⟨connectionId,
        packetBytes sessionId (ctx.transport.lastTxSequence + 1) type flags body⟩) := by
  obtain ⟨headerLength, headerEmits, _⟩ :=
    sentPacketHeader_bytes sessionId (ctx.transport.lastTxSequence + 1)
  obtain ⟨bodyLength, bodyEmits, _⟩ := sendable.payload
  rw [packetBytes]
  exact tlSendSingle_emits headerEmits headerLength bodyEmits (bodyLength ▸ sendable.packet_fits)
    connectionId type flags

/-- The packets of some posts, numbered on from a sequence. -/
def stamp (sessionId : SessionId) (sequence : UInt32) : List (Post F) → List TransportOutput
  | [] => []
  | p :: posts => p.output sessionId (sequence + 1) :: stamp sessionId (sequence + 1) posts

theorem stamp_length (sessionId : SessionId) (sequence : UInt32) (posts : List (Post F)) :
    (stamp sessionId sequence posts).length = posts.length := by
  induction posts generalizing sequence with
  | nil => rfl
  | cons p posts ih => rw [stamp, List.length_cons, ih, List.length_cons]

theorem mem_stamp {sessionId : SessionId} {sequence : UInt32} {posts : List (Post F)}
    {output : TransportOutput} (member : output ∈ stamp sessionId sequence posts) :
    ∃ p ∈ posts, ∃ number, output = p.output sessionId number := by
  induction posts generalizing sequence with
  | nil => cases member
  | cons p posts ih =>
      rcases List.mem_cons.mp member with rfl | later
      · exact ⟨p, List.mem_cons_self, _, rfl⟩
      · obtain ⟨q, listed, number, same⟩ := ih later
        exact ⟨q, List.mem_cons_of_mem p listed, number, same⟩

theorem output_mem_stamp (sessionId : SessionId) (sequence : UInt32) {posts : List (Post F)}
    {p : Post F} (listed : p ∈ posts) :
    ∃ number, p.output sessionId number ∈ stamp sessionId sequence posts := by
  induction posts generalizing sequence with
  | nil => cases listed
  | cons q posts ih =>
      rcases List.mem_cons.mp listed with rfl | later
      · exact ⟨sequence + 1, List.mem_cons_self⟩
      · obtain ⟨number, member⟩ := ih (sequence + 1) later
        exact ⟨number, List.mem_cons_of_mem _ member⟩

theorem stamp_take (sessionId : SessionId) (sequence : UInt32) (posts : List (Post F)) (n : Nat) :
    (stamp sessionId sequence posts).take n = stamp sessionId sequence (posts.take n) := by
  induction posts generalizing sequence n with
  | nil => simp [stamp]
  | cons p posts ih =>
      cases n with
      | zero => rfl
      | succ n => simp only [stamp, List.take_succ_cons, ih]

theorem stamp_connections (sessionId : SessionId) (sequence : UInt32) (posts : List (Post F)) :
    (stamp sessionId sequence posts).map (·.connectionId) = posts.map (·.connectionId) := by
  induction posts generalizing sequence with
  | nil => rfl
  | cons p posts ih => rw [stamp, List.map_cons, ih, List.map_cons, Post.output]

/-- Messages that fit are queued in order while there is room, and all of them are numbered. -/
theorem sendAll_sendable [LawfulWireFloat F] (sessionId : SessionId) {posts : List (Post F)}
    (sendable : ∀ p ∈ posts, Sendable p.type p.body) (ctx : TransportLoopContext) :
    sendAll sessionId posts ctx = { ctx with
      transport := { ctx.transport with
        lastTxSequence := ctx.transport.lastTxSequence + UInt32.ofNat posts.length }
      outputs := ctx.outputs ++ (stamp sessionId ctx.transport.lastTxSequence posts).take
        (maxOutputs - ctx.outputs.length) } := by
  induction posts generalizing ctx with
  | nil => simp [stamp]
  | cons p posts ih =>
      have here : p.send sessionId ctx = posted ctx
          (p.output sessionId (ctx.transport.lastTxSequence + 1)) := by
        rw [Post.send, tlSendSingle_sendable (sendable p List.mem_cons_self)]
        rfl
      have next : ctx.transport.lastTxSequence + 1 + UInt32.ofNat posts.length =
          ctx.transport.lastTxSequence + UInt32.ofNat (posts.length + 1) := by
        rw [UInt32.ofNat_add, UInt32.add_assoc, UInt32.add_comm 1]
        rfl
      rw [sendAll_cons, here, ih fun q later => sendable q (List.mem_cons_of_mem p later)]
      simp only [posted, stamp, List.length_cons, next]
      by_cases room : ctx.outputs.length < maxOutputs
      · obtain ⟨free, amount⟩ : ∃ free, maxOutputs - ctx.outputs.length = free + 1 :=
          ⟨maxOutputs - ctx.outputs.length - 1, by omega⟩
        have rest : maxOutputs - (ctx.outputs.length + 1) = free := by omega
        simp [room, amount, rest]
      · have full : maxOutputs - ctx.outputs.length = 0 := by omega
        simp [room, full]

theorem tlSendSingle_full [LawfulWireFloat F] {type : MessageType} {body : Body F type}
    (sendable : Sendable type body) {sessionId : SessionId} {connectionId : UInt32}
    {flags : UInt16} {ctx : TransportLoopContext}
    (dropped : (tlSendSingle sessionId connectionId type flags (encodeBody type body) ctx).1 = false) :
    maxOutputs ≤ ctx.outputs.length := by
  rw [tlSendSingle_sendable sendable] at dropped
  simpa using dropped

/-! ## Broadcasts as posts -/

/-- The connections that a broadcast goes to. -/
def connections (s : SessionState F) : List UInt32 :=
  (s.players.slots.filter (·.connected)).map (·.connectionId)

/-- One message to every connected player. -/
def toConnected (s : SessionState F) (type : MessageType) (flags : UInt16) (body : Body F type) :
    List (Post F) :=
  (s.players.slots.filter (·.connected)).map fun p => ⟨p.connectionId, type, flags, body⟩

omit [WireFloat F] in
theorem mem_toConnected {s : SessionState F} {type : MessageType} {flags : UInt16}
    {body : Body F type} {p : Post F} (member : p ∈ toConnected s type flags body) :
    ∃ player ∈ s.players.slots, player.connected = true ∧
      p = ⟨player.connectionId, type, flags, body⟩ := by
  obtain ⟨player, listed, rfl⟩ := List.mem_map.mp member
  obtain ⟨slot, connected⟩ := List.mem_filter.mp listed
  exact ⟨player, slot, connected, rfl⟩

omit [WireFloat F] in
theorem mem_toConnected_of_connected {s : SessionState F} {p : PlayerRuntimeState F}
    (listed : p ∈ s.players.slots) (connected : p.connected = true) {type : MessageType}
    (flags : UInt16) (body : Body F type) :
    ⟨p.connectionId, type, flags, body⟩ ∈ toConnected s type flags body :=
  List.mem_map.mpr ⟨p, List.mem_filter.mpr ⟨listed, connected⟩, rfl⟩

omit [WireFloat F] in
theorem toConnected_length_le (s : SessionState F) (type : MessageType) (flags : UInt16)
    (body : Body F type) : (toConnected s type flags body).length ≤ maxPlayersPerSession := by
  rw [toConnected, List.length_map]
  exact (List.length_filter_le _ _).trans_eq s.players.size

omit [WireFloat F] in
theorem toConnected_connections (s : SessionState F) (type : MessageType) (flags : UInt16)
    (body : Body F type) :
    toConnected s type flags body = (connections s).map fun id => ⟨id, type, flags, body⟩ := by
  rw [toConnected, connections, List.map_map]
  rfl

theorem tlBroadcast_posts (s : SessionState F) (type : MessageType) (flags : UInt16)
    (body : Body F type) (ctx : TransportLoopContext) :
    tlBroadcast s type flags (encodeBody type body) ctx =
      sendAll s.sessionId (toConnected s type flags body) ctx := by
  rw [tlBroadcast, sendAll, toConnected, List.foldl_map, List.foldl_filter]
  rfl

/-! ## Sends that stop at the first failure -/

def sendUntilFailure (sessionId : SessionId) :
    List (Post F) → TransportLoopContext → Bool × TransportLoopContext
  | [], ctx => (true, ctx)
  | p :: posts, ctx =>
      sendThen (tlSendSingle sessionId p.connectionId p.type p.flags (encodeBody p.type p.body) ctx)
        (sendUntilFailure sessionId posts)

theorem sendUntilFailure_sent (sessionId : SessionId) (posts : List (Post F))
    (ctx : TransportLoopContext) :
    ∃ front, front <+: posts ∧
      (sendUntilFailure sessionId posts ctx).2 = sendAll sessionId front ctx ∧
      ((sendUntilFailure sessionId posts ctx).1 = true → front = posts) := by
  induction posts generalizing ctx with
  | nil => exact ⟨[], List.prefix_rfl, rfl, fun _ => rfl⟩
  | cons p posts ih =>
      obtain ⟨front, isFront, sent, whole⟩ := ih (p.send sessionId ctx)
      cases first : (tlSendSingle sessionId p.connectionId p.type p.flags
          (encodeBody p.type p.body) ctx).1 with
      | false =>
          refine ⟨[p], ⟨posts, rfl⟩, ?_, ?_⟩
          · simp [sendUntilFailure, sendThen, first, Post.send]
          · simp [sendUntilFailure, sendThen, first]
      | true =>
          refine ⟨p :: front, List.cons_prefix_cons.mpr ⟨rfl, isFront⟩, ?_, ?_⟩
          · simpa [sendUntilFailure, sendThen, first, Post.send] using sent
          · intro all
            simp only [sendUntilFailure, sendThen, first, if_true] at all
            exact congrArg (p :: ·) (whole all)

theorem sendUntilFailure_ok [LawfulWireFloat F] (sessionId : SessionId) {posts : List (Post F)}
    (sendable : ∀ p ∈ posts, Sendable p.type p.body) {ctx : TransportLoopContext}
    (room : ctx.outputs.length + posts.length ≤ maxOutputs) :
    (sendUntilFailure sessionId posts ctx).1 = true := by
  induction posts generalizing ctx with
  | nil => rfl
  | cons p posts ih =>
      rw [List.length_cons] at room
      have free : ctx.outputs.length < maxOutputs := by omega
      rw [sendUntilFailure, tlSendSingle_sendable (sendable p List.mem_cons_self)]
      simp only [sendThen, free, decide_true, if_true]
      refine ih (fun q later => sendable q (List.mem_cons_of_mem p later)) ?_
      simp only [posted, free, if_true, List.length_append, List.length_singleton]
      omega

theorem sendThen_assoc (first : Bool × TransportLoopContext)
    (second third : TransportLoopContext → Bool × TransportLoopContext) :
    sendThen (sendThen first second) third =
      sendThen first fun ctx => sendThen (second ctx) third := by
  unfold sendThen
  split <;> simp_all

/-! ## The answer to a HELLO -/

/-- The posts of `tl_send_profile_snapshot`. -/
def profilePosts (connectionId : UInt32) (profile : PlayerProfile) : List (Post F) :=
  let flags := reliable ||| ordered ||| ch0Control
  let snapshot : MsgProfileSnapshot := {
    level := profile.level, xp := profile.xp, equippedFormId := profile.equippedFormId
    caps := profile.caps, strStat := profile.strStat, perStat := profile.perStat
    endStat := profile.endStat, chaStat := profile.chaStat, intStat := profile.intStat
    agiStat := profile.agiStat, lukStat := profile.lukStat }
  [⟨connectionId, .profileSnapshot, flags, snapshot⟩,
    ⟨connectionId, .profileItems, flags, { itemCount := profile.itemCount },
      (profileItemRecords profile).take profile.itemCount.toNat⟩,
    ⟨connectionId, .profilePerks, flags, { perkCount := profile.perkCount },
      (profilePerkRecords profile).take profile.perkCount.toNat⟩,
    ⟨connectionId, .profileAppearance, flags,
      { sex := profile.sex, bodyPreset := profile.bodyPreset }⟩]

def welcomePost (s : SessionState F) (connectionId : UInt32) (playerId : PlayerId) : Post F where
  connectionId := connectionId
  type := .welcome
  flags := reliable ||| ordered ||| ch0Control
  body := ⟨s.sessionId, playerId, s.tickRate, s.rules⟩

/-- What a HELLO is answered with before the session is replayed. -/
def answerPosts (s : SessionState F) (connectionId : UInt32) (playerId : PlayerId)
    (profile : PlayerProfile) : List (Post F) :=
  welcomePost s connectionId playerId :: profilePosts connectionId profile

theorem tlSendProfileSnapshot_sends (s : SessionState F) (connectionId : UInt32)
    (profile : PlayerProfile) (ctx : TransportLoopContext) :
    tlSendProfileSnapshot s connectionId profile ctx =
      sendUntilFailure s.sessionId (profilePosts connectionId profile : List (Post F)) ctx := by
  -- The encoders read no further than the counts in the headers.
  have items : ∀ h : MsgProfileItemsHeader, encodeMsgProfileItems h (profileItemRecords profile) =
      encodeMsgProfileItems h ((profileItemRecords profile).take h.itemCount.toNat) := by
    intro h
    simp only [encodeMsgProfileItems, List.take_take, min_self]
  have perks : ∀ h : MsgProfilePerksHeader, encodeMsgProfilePerks h (profilePerkRecords profile) =
      encodeMsgProfilePerks h ((profilePerkRecords profile).take h.perkCount.toNat) := by
    intro h
    simp only [encodeMsgProfilePerks, List.take_take, min_self]
  have last : ∀ sent : Bool × TransportLoopContext,
      sendThen sent (fun ctx => (true, ctx)) = sent := by
    rintro ⟨_ | _, _⟩ <;> rfl
  simp only [tlSendProfileSnapshot, items, perks, profilePosts, sendUntilFailure, sendThen_assoc,
    encodeBody, last]

theorem answer_sends (s : SessionState F) (connectionId : UInt32) (playerId : PlayerId)
    (profile : PlayerProfile) (ctx : TransportLoopContext) :
    sendThen (tlSendWelcome s connectionId playerId ctx)
        (tlSendProfileSnapshot s connectionId profile) =
      sendUntilFailure s.sessionId (answerPosts s connectionId playerId profile) ctx := by
  have snapshot : tlSendProfileSnapshot s connectionId profile =
      sendUntilFailure s.sessionId (profilePosts connectionId profile : List (Post F)) :=
    funext (tlSendProfileSnapshot_sends s connectionId profile)
  rw [snapshot]
  rfl

omit [WireFloat F] in
theorem answerPosts_sendable (s : SessionState F) (connectionId : UInt32) (playerId : PlayerId)
    (profile : PlayerProfile) :
    ∀ p ∈ answerPosts s connectionId playerId profile, Sendable p.type p.body := by
  have items := profile.itemCount_le
  have perks := profile.perkCount_le
  simp only [maxProfileRecords] at items perks
  have itemsLength : ((profileItemRecords profile).take profile.itemCount.toNat).length =
      profile.itemCount.toNat := by simp [profileItemRecords, Nat.min_eq_left items]
  have perksLength : ((profilePerkRecords profile).take profile.perkCount.toNat).length =
      profile.perkCount.toNat := by simp [profilePerkRecords, Nat.min_eq_left perks]
  simp only [answerPosts, welcomePost, profilePosts, List.forall_mem_cons]
  refine ⟨sendable_of_plainMessage rfl _, sendable_of_plainMessage rfl _, ?_, ?_,
    sendable_of_plainMessage rfl _, by simp⟩
  · refine ⟨⟨itemsLength, UInt16.le_iff_toNat_le.mpr items⟩, trivial, ?_⟩
    simp only [bodySize, itemsLength, f4mpMaxPacketSize, packetHeaderSize, messageHeaderSize]
    omega
  · refine ⟨⟨perksLength, UInt16.le_iff_toNat_le.mpr perks⟩, trivial, ?_⟩
    simp only [bodySize, perksLength, f4mpMaxPacketSize, packetHeaderSize, messageHeaderSize]
    omega

/-! ## Replays as posts -/

variable [CFloat F]

/-- The posts of `tl_send_existing_state_to_player`. -/
def replayPosts (s : SessionState F) (connectionId : UInt32) (excludePlayerId : PlayerId) :
    List (Post F) :=
  let center := s.players.slots.foldl (fun center p =>
    if p.connected && p.playerId == excludePlayerId then p.replicatedState.position
    else center) s.bubble.center
  let radius := if CFloat.le s.bubble.radius (CFloat.lit 0 1) then CFloat.lit 512 1
    else s.bubble.radius
  let reliableOn := fun channel => reliable ||| ordered ||| channel
  (s.players.slots.filter fun p => p.connected && p.playerId != excludePlayerId).map
      (fun p => ⟨connectionId, .playerState, ch1World, p.replicatedState⟩) ++
    ((s.actors.slots.filter fun a =>
        a.inUse && !outsideReplay center radius a.replicatedState.position).flatMap fun a =>
      [⟨connectionId, .actorSpawn, reliableOn ch1World, actorSpawnMsg a⟩,
        ⟨connectionId, .actorState, ch1World, a.replicatedState⟩]) ++
    (s.objects.slots.filter fun o => o.inUse && !outsideReplay center radius o.position).map
      fun o => ⟨connectionId, .objectSpawn, reliableOn ch3Work, objectSpawnMsg o⟩

theorem tlSendExistingStateToPlayer_posts (s : SessionState F) (connectionId : UInt32)
    (excludePlayerId : PlayerId) (ctx : TransportLoopContext) :
    tlSendExistingStateToPlayer s connectionId excludePlayerId ctx =
      sendAll s.sessionId (replayPosts s connectionId excludePlayerId) ctx := by
  have skip : ∀ (live outside : Bool) (skipped sent : TransportLoopContext),
      (if !live then skipped else if outside then skipped else sent) =
        if live && !outside then sent else skipped := by
    intro live outside _ _
    cases live <;> cases outside <;> rfl
  simp only [tlSendExistingStateToPlayer, replayPosts, sendAll, List.foldl_append, List.foldl_map,
    List.foldl_filter, List.foldl_flatMap, List.foldl_cons, List.foldl_nil, skip]
  rfl

omit [WireFloat F] in
theorem mem_replayPosts {s : SessionState F} {connectionId : UInt32} {excludePlayerId : PlayerId}
    {p : Post F} (member : p ∈ replayPosts s connectionId excludePlayerId) :
    (∃ player ∈ s.players.slots, player.connected = true ∧ player.playerId ≠ excludePlayerId ∧
      p = ⟨connectionId, .playerState, ch1World, player.replicatedState⟩) ∨
    (∃ a ∈ s.actors.slots, a.inUse = true ∧
      (p = ⟨connectionId, .actorSpawn, reliable ||| ordered ||| ch1World, actorSpawnMsg a⟩ ∨
        p = ⟨connectionId, .actorState, ch1World, a.replicatedState⟩)) ∨
    ∃ o ∈ s.objects.slots, o.inUse = true ∧
      p = ⟨connectionId, .objectSpawn, reliable ||| ordered ||| ch3Work, objectSpawnMsg o⟩ := by
  simp only [replayPosts, List.mem_append, List.mem_map, List.mem_flatMap, List.mem_filter,
    Bool.and_eq_true, bne_iff_ne, List.mem_cons, List.not_mem_nil, or_false] at member
  rcases member with (⟨player, ⟨listed, connected, other⟩, rfl⟩ | ⟨a, ⟨listed, inUse, _⟩, shown⟩) |
    ⟨o, ⟨listed, inUse, _⟩, rfl⟩
  · exact .inl ⟨player, listed, connected, other, rfl⟩
  · exact .inr (.inl ⟨a, listed, inUse, shown⟩)
  · exact .inr (.inr ⟨o, listed, inUse, rfl⟩)

omit [WireFloat F] in
theorem replayPosts_sendable (s : SessionState F) (connectionId : UInt32)
    (excludePlayerId : PlayerId) :
    ∀ p ∈ replayPosts s connectionId excludePlayerId, Sendable p.type p.body := by
  intro p member
  rcases mem_replayPosts member with ⟨_, _, _, _, rfl⟩ | ⟨_, _, _, rfl | rfl⟩ | ⟨_, _, _, rfl⟩ <;>
    exact sendable_of_plainMessage rfl _

end Sending

end F4MP.Service

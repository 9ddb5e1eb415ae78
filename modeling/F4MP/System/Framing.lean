import F4MP.Protocol.Extent
import F4MP.Protocol.Framing
import F4MP.Service.Outcome
import F4MP.Client.Apply

/-!
# Framing of accepted packets

An endpoint decodes one message of a packet, behind the two headers. What the headers declare is
compared with the bytes that this decoder passed.
-/

namespace F4MP.System
open SoftFloat Wire Protocol Service Client

/-! ## What the headers declare -/

/-- Where the payloads of the next `count` messages begin and end, up to the end of the packet. -/
def splitMessages : Nat → PacketReader → Option (List (Nat × Nat))
  | 0, r => if r.offset = r.buffer.length then some [] else none
  | count + 1, r =>
      match decodeMessageHeader.run r with
      | (none, _) => none
      | (some mh, r) =>
          let stop := r.offset + mh.length.toNat
          if r.buffer.length < stop then none
          else (splitMessages count { r with offset := stop }).map ((r.offset, stop) :: ·)

def declaredMessages (bytes : List UInt8) : Option (List (Nat × Nat)) :=
  match decodePacketHeader.run (prInit bytes) with
  | (none, _) => none
  | (some ph, r) => splitMessages ph.messageCount.toNat r

section Endpoints
variable (F : Type) [WireFloat F]

/-! ## What an endpoint decodes -/

/-- Where the decoder of the message behind the two headers begins and ends. -/
def decodedMessages (bytes : List UInt8) : List (Nat × Nat) :=
  match openPacket bytes with
  | none => []
  | some (_, mh, r) =>
      match MessageType.ofCode? mh.type with
      | none => []
      | some type =>
          match (decodeBody receiveCaps type : Read (Body F type)).run r with
          | (none, _) => []
          | (some _, r') => [(r.offset, r'.offset)]

/-- The packet splits as its headers declare, and every message is decoded from its own bytes. -/
def FramingHonoured (bytes : List UInt8) : Prop :=
  declaredMessages bytes = some (decodedMessages F bytes)

instance (bytes : List UInt8) : Decidable (FramingHonoured F bytes) :=
  inferInstanceAs (Decidable (_ = _))

variable [CFloat F]

/-- One of the two endpoints returns `true` for the packet. -/
def Accepted (bytes : List UInt8) : Prop :=
  (∃ (store : ProfileStore) (connectionId : UInt32) (s : ServiceState F),
    (tlHandleEnvelope store ⟨connectionId, bytes⟩ s).1 = true) ∨
  ∃ (U : Type) (backend : RemoteProxyBackend F U) (c : ClientState F U),
    (pluginApplyPacket backend bytes c).1 = true

end Endpoints

/-- One message, of the declared length, which is the size its own fields add up to. -/
def SingleMessage (bytes : List UInt8) : Prop :=
  ∃ ph mh r type, openPacket bytes = some (ph, mh, r) ∧ MessageType.ofCode? mh.type = some type ∧
    ph.messageCount = 1 ∧
    packetHeaderSize + messageHeaderSize + mh.length.toNat = bytes.length ∧
    payloadSize type (bytes.drop (packetHeaderSize + messageHeaderSize)) = mh.length.toNat

/-! ## Headers -/

theorem packetHeader_spans : Spans decodePacketHeader fun _ => packetHeaderSize := by
  simp only [decodePacketHeader]
  exact FixedSize.spans

theorem messageHeader_spans : Spans decodeMessageHeader fun _ => messageHeaderSize := by
  simp only [decodeMessageHeader]
  exact FixedSize.spans

theorem openPacket_reads {bytes : List UInt8} {ph : PacketHeader} {mh : MessageHeader}
    {r : PacketReader} (opened : openPacket bytes = some (ph, mh, r)) :
    decodePacketHeader.run (prInit bytes) = (some ph, ⟨bytes, packetHeaderSize, false⟩) ∧
      decodeMessageHeader.run ⟨bytes, packetHeaderSize, false⟩ = (some mh, r) ∧
      r = ⟨bytes, packetHeaderSize + messageHeaderSize, false⟩ := by
  unfold openPacket at opened
  split at opened
  · cases opened
  · split at opened
    · cases opened
    · rename_i ph' r₁ first
      obtain rfl : r₁ = ⟨bytes, packetHeaderSize, false⟩ := (packetHeader_spans _ _ _ first).2
      split at opened
      · split at opened
        · cases opened
        · rename_i mh' r₂ second
          split at opened
          · obtain ⟨rfl, rest⟩ := Prod.mk.inj (Option.some.inj opened)
            obtain ⟨rfl, rfl⟩ := Prod.mk.inj rest
            exact ⟨first, second, (messageHeader_spans _ _ _ second).2⟩
          · cases opened
      · cases opened

/-! ## Accepted packets -/

section Accepting
variable {F : Type} [CFloat F] [WireFloat F]

/-- A packet that opens at a message which decodes. -/
def Decodes (F : Type) [WireFloat F] (bytes : List UInt8) : Prop :=
  ∃ ph mh r type, openPacket bytes = some (ph, mh, r) ∧ MessageType.ofCode? mh.type = some type ∧
    ∃ (body : Body F type) (r' : PacketReader), (decodeBody receiveCaps type).run r = (some body, r')

/-- No case of the service's `switch` accepts a message that it could not decode. -/
theorem tlHandlePlayerMessage_decodes {type : Option MessageType} {connectionId : UInt32}
    {playerId : PlayerId} {r : PacketReader} {s : ServiceState F}
    (accepted : (tlHandlePlayerMessage type connectionId playerId r s).1 = true) :
    ∃ t, type = some t ∧ ∃ (body : Body F t) (r' : PacketReader),
      (decodeBody receiveCaps t).run r = (some body, r') := by
  unfold tlHandlePlayerMessage at accepted
  split at accepted
  case h_10 => cases accepted
  all_goals
    refine ⟨_, rfl, ?_⟩
    simp only [tlHandlePing, tlHandleDisconnect, tlHandlePlayerState, tlHandleInputState,
      tlHandleFireIntent, tlHandleBuildRequest, tlHandleObjectMoveReq, tlHandleObjectScrapReq,
      tlHandleDialogueSelect] at accepted
    split at accepted
    · cases accepted
    · rename_i decoded
      exact ⟨_, _, decoded⟩

theorem tlHandleEnvelope_decodes {store : ProfileStore} {env : TransportEnvelope}
    {s : ServiceState F} (accepted : (tlHandleEnvelope store env s).1 = true) :
    Decodes F env.bytes := by
  obtain ⟨sequence, handled⟩ := tlHandleEnvelope_open store env s
  rw [handled] at accepted
  split at accepted
  · rename_i ph mh r opened
    simp only [tlHandleMessage] at accepted
    split at accepted
    · rename_i isHello
      simp only [tlHandleHello] at accepted
      split at accepted
      · cases accepted
      · rename_i decoded
        exact ⟨ph, mh, r, .hello, opened, isHello, _, _, decoded⟩
    · split at accepted
      · cases accepted
      · obtain ⟨type, known, body, r', decoded⟩ := tlHandlePlayerMessage_decodes accepted
        exact ⟨ph, mh, r, type, opened, known, body, r', decoded⟩
  · cases accepted

theorem pluginApplyPacket_decodes {U : Type} {backend : RemoteProxyBackend F U}
    {bytes : List UInt8} {c : ClientState F U}
    (accepted : (pluginApplyPacket backend bytes c).1 = true) : Decodes F bytes := by
  rw [pluginApplyPacket_open] at accepted
  split at accepted
  · cases accepted
  · rename_i ph mh r opened
    split at accepted
    · cases accepted
    · rename_i type known
      split at accepted
      · cases accepted
      · rename_i body r' decoded
        exact ⟨ph, mh, r, type, opened, known, body, r', decoded⟩

theorem Accepted.decodes {bytes : List UInt8} (accepted : Accepted F bytes) : Decodes F bytes := by
  rcases accepted with ⟨_, _, _, accepted⟩ | ⟨_, _, _, accepted⟩
  · exact tlHandleEnvelope_decodes accepted
  · exact pluginApplyPacket_decodes accepted

/-! ## When the framing is honoured -/

theorem splitMessages_length {count : Nat} {r : PacketReader} {messages : List (Nat × Nat)}
    (split : splitMessages count r = some messages) : messages.length = count := by
  induction count generalizing r messages with
  | zero =>
      simp only [splitMessages] at split
      split at split <;> cases split
      rfl
  | succ count ih =>
      simp only [splitMessages] at split
      split at split
      · cases split
      · split at split
        · cases split
        · obtain ⟨rest, more, rfl⟩ := Option.map_eq_some_iff.mp split
          rw [List.length_cons, ih more]

theorem splitMessages_one {r r' : PacketReader} {mh : MessageHeader}
    (header : decodeMessageHeader.run r = (some mh, r')) (span : Nat × Nat) :
    splitMessages 1 r = some [span] ↔
      r'.offset + mh.length.toNat = r'.buffer.length ∧
        span = (r'.offset, r'.offset + mh.length.toNat) := by
  simp only [splitMessages, header]
  by_cases short : r'.buffer.length < r'.offset + mh.length.toNat
  · simp only [if_pos short]
    constructor
    · rintro ⟨⟩
    · rintro ⟨whole, _⟩
      omega
  · by_cases whole : r'.offset + mh.length.toNat = r'.buffer.length
    · simp [whole, eq_comm]
    · simp [short, whole]

/-- An endpoint that accepts a packet honours its framing exactly if the packet is one message of
the declared length, with no byte between what its fields add up to and the end of the packet. -/
theorem framingHonoured_iff (bytes : List UInt8) (accepted : Accepted F bytes) :
    FramingHonoured F bytes ↔ SingleMessage bytes := by
  obtain ⟨ph, mh, r, type, opened, known, body, r', decoded⟩ := accepted.decodes
  obtain ⟨header, message, rfl⟩ := openPacket_reads opened
  obtain ⟨_, stop⟩ := decodeBody_spans receiveCaps type _ _ _ decoded
  have decodes : decodedMessages F bytes = [(packetHeaderSize + messageHeaderSize, r'.offset)] := by
    simp only [decodedMessages, opened, known, decoded]
  have declares : declaredMessages bytes =
      splitMessages ph.messageCount.toNat ⟨bytes, packetHeaderSize, false⟩ := by
    simp only [declaredMessages, header]
  have offset : r'.offset = packetHeaderSize + messageHeaderSize +
      payloadSize type (bytes.drop (packetHeaderSize + messageHeaderSize)) := by
    rw [stop]
    rfl
  rw [FramingHonoured, decodes, declares]
  constructor
  · intro split
    have one : ph.messageCount.toNat = 1 := (splitMessages_length split).symm
    rw [one, splitMessages_one message] at split
    obtain ⟨whole, span⟩ := split
    have same : r'.offset = packetHeaderSize + messageHeaderSize + mh.length.toNat :=
      congrArg Prod.snd span
    exact ⟨ph, mh, _, type, opened, known, UInt8.toNat_inj.mp one, whole, by omega⟩
  · rintro ⟨ph', mh', r, type', opened', known', one, whole, exact'⟩
    obtain ⟨rfl, rest⟩ := Prod.mk.inj (Option.some.inj (opened.symm.trans opened'))
    obtain ⟨rfl, rfl⟩ := Prod.mk.inj rest
    obtain rfl : type = type' := Option.some.inj (known.symm.trans known')
    have count : ph.messageCount.toNat = 1 := by rw [one]; rfl
    rw [count, splitMessages_one message]
    exact ⟨whole, by rw [offset, exact']⟩

/-! ## Two packets -/

/-- A ping of a connected player. -/
theorem framingHonoured_iff_ping :
    let bytes := (envelopeOf 100 .ping (F := Binary32) ⟨7⟩).bytes
    FramingHonoured Binary32 bytes ↔ SingleMessage bytes := by
  intro bytes
  let store : ProfileStore := ⟨fun _ => none⟩
  let hello : Body Binary32 .hello := (⟨0, 0⟩, [0x41], [0x41])
  let s := (tlHandleEnvelope store (envelopeOf 100 .hello hello)
    (freshService 1 15 20 [] : ServiceState Binary32)).2
  have accepted : (tlHandleEnvelope store ⟨100, bytes⟩ s).1 = true := by decide +kernel
  exact framingHonoured_iff bytes (.inl ⟨store, 100, s, accepted⟩)

/-- A ping under a header that counts two messages is answered, and a byte behind the last message
of a packet is passed over. -/
theorem framingHonoured_miscounted :
    let ping := (envelopeOf 100 .ping (F := Binary32) ⟨7⟩).bytes.set 24 2
    let death := (envelopeOf 100 .deathEvent (F := Binary32) ⟨1, 2, 3⟩).bytes ++ [0]
    Accepted Binary32 ping ∧ ¬ FramingHonoured Binary32 ping ∧
      Accepted Binary32 death ∧ ¬ FramingHonoured Binary32 death := by
  intro ping death
  let store : ProfileStore := ⟨fun _ => none⟩
  let hello : Body Binary32 .hello := (⟨0, 0⟩, [0x41], [0x41])
  let s := (tlHandleEnvelope store (envelopeOf 100 .hello hello)
    (freshService 1 15 20 [] : ServiceState Binary32)).2
  have answered : (tlHandleEnvelope store ⟨100, ping⟩ s).1 = true := by decide +kernel
  have applied : (pluginApplyPacket (F := Binary32) defaultBackend death (freshClient 1 ())).1 =
      true := by decide +kernel
  exact ⟨.inl ⟨store, 100, s, answered⟩, by decide +kernel,
    .inr ⟨Unit, defaultBackend, freshClient 1 (), applied⟩, by decide +kernel⟩

end Accepting

end F4MP.System

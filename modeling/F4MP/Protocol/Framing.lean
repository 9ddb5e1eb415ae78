import F4MP.Protocol.RoundTrip

/-!
# Packets of one message

The bytes of a packet header, a message header and a body in a row, and how they are read back.
-/

namespace F4MP.Protocol
open SoftFloat Wire

variable {F : Type} [WireFloat F]

/-! ## What a writer emits -/

/-- The bytes that `w` puts into a packet buffer. -/
def wireBytes (w : Write) : List UInt8 := (w.run (pwInit f4mpMaxPacketSize)).2.bytes

theorem wireBytes_of_emits {w : Write} {bs : List UInt8} (emits : Emits w bs)
    (fits : bs.length ≤ f4mpMaxPacketSize) : wireBytes w = bs := by
  have ran := emits.run_eq (s := pwInit f4mpMaxPacketSize) ⟨rfl, Nat.zero_le _⟩ fits
  rw [wireBytes, ran]
  rfl

theorem wireBytes_of_roundTrips {α : Type} {w : Write} {p : Read α} {a : α} {n : Nat}
    (format : RoundTrips w p a n) (fits : n ≤ f4mpMaxPacketSize) :
    (wireBytes w).length = n ∧ Emits w (wireBytes w) ∧ Consumes p (wireBytes w) a := by
  obtain ⟨bs, len, emits, consumes⟩ := format
  rw [wireBytes_of_emits emits (len ▸ fits)]
  exact ⟨len, emits, consumes⟩

def messageHeaderBytes (h : MessageHeader) : List UInt8 :=
  leBytes 2 h.type.toNat ++ (leBytes 2 h.flags.toNat ++ leBytes 2 h.length.toNat)

theorem encodeMessageHeader_emits (h : MessageHeader) :
    Emits (encodeMessageHeader h) (messageHeaderBytes h) :=
  .bind (pwWriteBytes_emits _) (.bind (pwWriteBytes_emits _) (pwWriteBytes_emits _))

theorem messageHeaderBytes_consumed (h : MessageHeader) :
    Consumes decodeMessageHeader (messageHeaderBytes h) h := by
  have emitted := wireBytes_of_emits (encodeMessageHeader_emits h)
    (by simp [messageHeaderBytes, f4mpMaxPacketSize])
  exact emitted ▸ (wireBytes_of_roundTrips (messageHeader_roundTrips h) (by decide)).2.2

/-! ## Opening a packet -/

/-- The headers of a packet that both endpoints let through, and the reader behind them. -/
def openPacket (bytes : List UInt8) : Option (PacketHeader × MessageHeader × PacketReader) :=
  if bytes.length < packetHeaderSize + messageHeaderSize then none
  else
    match decodePacketHeader.run (prInit bytes) with
    | (none, _) => none
    | (some ph, r) =>
        if f4mpValidatePacketHeader ph then
          match decodeMessageHeader.run r with
          | (none, _) => none
          | (some mh, r) => if f4mpValidateMessageHeader mh then some (ph, mh, r) else none
        else none

/-- A packet that a receiver opens and decodes as `body`. -/
def Carries (bytes : List UInt8) (type : MessageType) (body : Body F type) : Prop :=
  ∃ ph mh r r', openPacket bytes = some (ph, mh, r) ∧ MessageType.ofCode? mh.type = some type ∧
    (decodeBody receiveCaps type).run r = (some body, r')

/-- The packet opens at a message of this type, which is read from `r` on. -/
def OpensAt (bytes : List UInt8) (type : MessageType) (r : PacketReader) : Prop :=
  ∃ ph mh, openPacket bytes = some (ph, mh, r) ∧ MessageType.ofCode? mh.type = some type

theorem OpensAt.carries {bytes : List UInt8} {type : MessageType} {r r' : PacketReader}
    {body : Body F type} (opens : OpensAt bytes type r)
    (decoded : (decodeBody receiveCaps type).run r = (some body, r')) : Carries bytes type body := by
  obtain ⟨ph, mh, opened, known⟩ := opens
  exact ⟨ph, mh, r, r', opened, known, decoded⟩

/-- The message of this type that a packet carries. -/
def messageOf? (type : MessageType) (bytes : List UInt8) : Option (Body F type) :=
  match openPacket bytes with
  | none => none
  | some (_, mh, r) =>
      if MessageType.ofCode? mh.type = some type then ((decodeBody receiveCaps type).run r).1
      else none

theorem messageOf?_eq_some {bytes : List UInt8} {type : MessageType} {body : Body F type} :
    messageOf? type bytes = some body ↔ Carries bytes type body := by
  constructor
  · intro found
    unfold messageOf? at found
    split at found
    · cases found
    · rename_i ph mh r opened
      split at found
      · rename_i known
        exact ⟨ph, mh, r, _, opened, known, Prod.ext found rfl⟩
      · cases found
  · rintro ⟨ph, mh, r, r', opened, known, decoded⟩
    simp only [messageOf?, opened, if_pos known, decoded]

theorem Carries.type_unique {bytes : List UInt8} {type type' : MessageType} {body : Body F type}
    {body' : Body F type'} (carries : Carries bytes type body)
    (carries' : Carries bytes type' body') : type = type' := by
  obtain ⟨_, mh, _, _, opened, known, _⟩ := carries
  obtain ⟨_, mh', _, _, opened', known', _⟩ := carries'
  obtain rfl : mh = mh' := congrArg (·.2.1) (Option.some.inj (opened.symm.trans opened'))
  exact Option.some.inj (known.symm.trans known')

theorem Carries.unique {bytes : List UInt8} {type : MessageType} {body body' : Body F type}
    (carries : Carries bytes type body) (carries' : Carries bytes type body') : body = body' := by
  obtain ⟨ph, mh, r, r₁, opened, _, decoded⟩ := carries
  obtain ⟨ph', mh', r', r₂, opened', _, decoded'⟩ := carries'
  have packet := Option.some.inj (opened.symm.trans opened')
  obtain rfl : r = r' := congrArg (·.2.2) packet
  exact Option.some.inj (congrArg Prod.fst (decoded.symm.trans decoded'))

/-! ## The packet of a message -/

/-- The header that the service sends a message under. -/
def sentPacketHeader (sessionId : SessionId) (sequence : UInt32) : PacketHeader where
  magic := f4mpMagic
  version := f4mpVersion
  sessionId := sessionId
  sequence := sequence
  messageCount := 1

def sentMessageHeader (type : MessageType) (flags : UInt16) (length : Nat) : MessageHeader :=
  ⟨type.code, flags, UInt16.ofNat length⟩

def packetBytes (sessionId : SessionId) (sequence : UInt32) (type : MessageType) (flags : UInt16)
    (body : Body F type) : List UInt8 :=
  let payload := wireBytes (encodeBody type body)
  wireBytes (encodePacketHeader (sentPacketHeader sessionId sequence)) ++
    (messageHeaderBytes (sentMessageHeader type flags payload.length) ++ payload)

theorem bodySize_pos {F : Type} (type : MessageType) (body : Body F type) :
    0 < bodySize type body := by
  cases type <;> simp only [bodySize] <;> omega

/-- A body that fits a packet and the buffers of its receiver. -/
structure Sendable {F : Type} (type : MessageType) (body : Body F type) : Prop where
  within : WithinCaps receiveCaps type body
  short : stringsShort type body
  fits : bodySize type body ≤ f4mpMaxPacketSize - packetHeaderSize - messageHeaderSize

theorem Sendable.packet_fits {F : Type} {type : MessageType} {body : Body F type}
    (sendable : Sendable type body) :
    packetHeaderSize + messageHeaderSize + bodySize type body ≤ f4mpMaxPacketSize := by
  have fits := sendable.fits
  simp only [packetHeaderSize, messageHeaderSize, f4mpMaxPacketSize] at fits ⊢
  omega

/-- The messages without strings, records or flags to check. -/
def plainMessage : MessageType → Bool
  | .hello | .profileItems | .profilePerks | .interestSet | .buildResult | .dialogueLine
  | .dialogueChoices | .questUpdate => false
  | _ => true

theorem sendable_of_plainMessage {F : Type} {type : MessageType} (plain : plainMessage type = true)
    (body : Body F type) : Sendable type body := by
  cases type <;> first
    | exact ⟨trivial, trivial, by simp only [bodySize]; decide⟩
    | cases plain

section Sent
variable [LawfulWireFloat F] {type : MessageType} {body : Body F type}

theorem Sendable.payload (sendable : Sendable type body) :
    (wireBytes (encodeBody type body)).length = bodySize type body ∧
      Emits (encodeBody type body) (wireBytes (encodeBody type body)) ∧
      Consumes (decodeBody receiveCaps type) (wireBytes (encodeBody type body)) body :=
  wireBytes_of_roundTrips (body_roundTrips sendable.within sendable.short)
    (Nat.le_trans sendable.fits (by decide))

theorem sentPacketHeader_bytes (sessionId : SessionId) (sequence : UInt32) :
    let header := sentPacketHeader sessionId sequence
    (wireBytes (encodePacketHeader header)).length = packetHeaderSize ∧
      Emits (encodePacketHeader header) (wireBytes (encodePacketHeader header)) ∧
      Consumes decodePacketHeader (wireBytes (encodePacketHeader header)) header :=
  wireBytes_of_roundTrips (packetHeader_roundTrips _) (by decide)

theorem messageHeaderBytes_length (h : MessageHeader) :
    (messageHeaderBytes h).length = messageHeaderSize := by
  simp [messageHeaderBytes, messageHeaderSize]

/-! ### Opening what was sent -/

/-- A payload behind the headers that the service sends it under. -/
def framedBytes (sessionId : SessionId) (sequence : UInt32) (type : MessageType) (flags : UInt16)
    (payload : List UInt8) : List UInt8 :=
  wireBytes (encodePacketHeader (sentPacketHeader sessionId sequence)) ++
    (messageHeaderBytes (sentMessageHeader type flags payload.length) ++ payload)

section Framed
variable {payload : List UInt8} (sessionId : SessionId) (sequence : UInt32) (flags : UInt16)

omit [LawfulWireFloat F] [WireFloat F] in
theorem framedBytes_length : (framedBytes sessionId sequence type flags payload).length =
    packetHeaderSize + (messageHeaderSize + payload.length) := by
  simp only [framedBytes, List.length_append, messageHeaderBytes_length,
    (sentPacketHeader_bytes sessionId sequence).1]

omit [LawfulWireFloat F] [WireFloat F] in
theorem framedBytes_afterHeader :
    (framedBytes sessionId sequence type flags payload).drop packetHeaderSize =
      messageHeaderBytes (sentMessageHeader type flags payload.length) ++ payload := by
  rw [framedBytes, ← (sentPacketHeader_bytes sessionId sequence).1, List.drop_left]

omit [LawfulWireFloat F] [WireFloat F] in
theorem framedBytes_payload :
    (framedBytes sessionId sequence type flags payload).drop
      (packetHeaderSize + messageHeaderSize) = payload := by
  rw [← List.drop_drop, framedBytes_afterHeader, ← messageHeaderBytes_length
    (sentMessageHeader type flags payload.length), List.drop_left]

omit [LawfulWireFloat F] [WireFloat F] in
/-- A packet opens at any payload that its length field can count. -/
theorem openPacket_framedBytes (some_ : 0 < payload.length) (counted : payload.length < 65536) :
    let bytes := framedBytes sessionId sequence type flags payload
    openPacket bytes = some (sentPacketHeader sessionId sequence,
      sentMessageHeader type flags payload.length,
      ⟨bytes, packetHeaderSize + messageHeaderSize, false⟩) := by
  intro bytes
  obtain ⟨headerLength, _, headerRead⟩ := sentPacketHeader_bytes sessionId sequence
  have size : bytes.length = _ := framedBytes_length sessionId sequence flags
  have readHeader : decodePacketHeader.run (prInit bytes) =
      (some (sentPacketHeader sessionId sequence), ⟨bytes, packetHeaderSize, false⟩) := by
    have read := headerRead (prInit bytes) ⟨rfl, Nat.zero_le _⟩ ⟨_, rfl⟩
    rw [read, headerLength]
    simp [Source.skip, prInit]
  have readMessage : decodeMessageHeader.run ⟨bytes, packetHeaderSize, false⟩ =
      (some (sentMessageHeader type flags payload.length),
        ⟨bytes, packetHeaderSize + messageHeaderSize, false⟩) := by
    have read := messageHeaderBytes_consumed (sentMessageHeader type flags payload.length)
      ⟨bytes, packetHeaderSize, false⟩ ⟨rfl, by dsimp only; omega⟩
      ⟨_, (framedBytes_afterHeader sessionId sequence flags).symm⟩
    rw [read, messageHeaderBytes_length]
    rfl
  have long : ¬ bytes.length < packetHeaderSize + messageHeaderSize := by omega
  have valid : f4mpValidateMessageHeader (sentMessageHeader type flags payload.length) := by
    refine decide_eq_true (UInt16.lt_iff_toNat_lt.mpr ?_)
    change 0 < (UInt16.ofNat payload.length).toNat
    rw [UInt16.toNat_ofNat', Nat.mod_eq_of_lt counted]
    exact some_
  simp only [openPacket, if_neg long, readHeader, readMessage, valid, if_true]
  rfl

end Framed

omit [LawfulWireFloat F] in
theorem packetBytes_eq (sessionId : SessionId) (sequence : UInt32) (flags : UInt16) :
    packetBytes sessionId sequence type flags body =
      framedBytes sessionId sequence type flags (wireBytes (encodeBody type body)) := rfl

theorem packetBytes_length (sendable : Sendable type body) (sessionId : SessionId)
    (sequence : UInt32) (flags : UInt16) :
    (packetBytes sessionId sequence type flags body).length =
      packetHeaderSize + (messageHeaderSize + bodySize type body) := by
  rw [packetBytes_eq, framedBytes_length, sendable.payload.1]

/-- A packet that was sent opens at its body. -/
theorem openPacket_packetBytes (sendable : Sendable type body) (sessionId : SessionId)
    (sequence : UInt32) (flags : UInt16) :
    let bytes := packetBytes sessionId sequence type flags body
    openPacket bytes = some (sentPacketHeader sessionId sequence,
      sentMessageHeader type flags (bodySize type body),
      ⟨bytes, packetHeaderSize + messageHeaderSize, false⟩) := by
  have length := sendable.payload.1
  have fits := sendable.fits
  have pos := bodySize_pos type body
  simp only [f4mpMaxPacketSize] at fits
  rw [packetBytes_eq, ← length]
  exact openPacket_framedBytes sessionId sequence flags (by omega) (by omega)

theorem packetBytes_read (sendable : Sendable type body) (sessionId : SessionId)
    (sequence : UInt32) (flags : UInt16) :
    let bytes := packetBytes sessionId sequence type flags body
    (decodeBody receiveCaps type).run ⟨bytes, packetHeaderSize + messageHeaderSize, false⟩ =
      (some body, ⟨bytes, bytes.length, false⟩) := by
  intro bytes
  obtain ⟨bodyLength, _, bodyRead⟩ := sendable.payload
  have size : bytes.length = _ := packetBytes_length sendable sessionId sequence flags
  have afterHeaders : bytes.drop (packetHeaderSize + messageHeaderSize) =
      wireBytes (encodeBody type body) := framedBytes_payload sessionId sequence flags
  have read := bodyRead ⟨bytes, packetHeaderSize + messageHeaderSize, false⟩
    ⟨rfl, by dsimp only; omega⟩ ⟨[], by rw [List.append_nil]; exact afterHeaders.symm⟩
  rw [read, bodyLength, size, ← Nat.add_assoc]
  rfl

theorem packetBytes_carries (sendable : Sendable type body) (sessionId : SessionId)
    (sequence : UInt32) (flags : UInt16) :
    Carries (packetBytes sessionId sequence type flags body) type body :=
  ⟨_, _, _, _, openPacket_packetBytes sendable sessionId sequence flags,
    MessageType.ofCode?_code type, packetBytes_read sendable sessionId sequence flags⟩

end Sent

-- No proof behind this point computes with the bytes of a packet.
attribute [irreducible] wireBytes packetBytes framedBytes

end F4MP.Protocol

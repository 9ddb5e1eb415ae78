import F4MP.Protocol.Oversize
import F4MP.Service.Broadcast
import F4MP.Service.Isolation
import F4MP.Service.Quest
import F4MP.System.DialogueMirror

/-!
# Whether a mirrored event reaches the players

The calls of the host event mirror broadcast a line, choices or a quest update, and report success
whatever became of the packets. The texts of choices and quest updates are cut nowhere on their way
into a packet: together they may be too long for it, and one of them too long for the client.
-/

namespace F4MP.System
open SoftFloat Protocol Wire Service Client

variable {F U : Type} [CFloat F] [WireFloat F]

/-! ## Delivery -/

/-- A packet of this type for the connection. -/
def packetFor (connectionId : UInt32) (type : MessageType) (output : TransportOutput) : Bool :=
  output.connectionId == connectionId && packetType? output.bytes == some type

/-- One packet of the type is queued for every connected player, and the client behind the connection
accepts it. -/
def ShownToAll (backend : RemoteProxyBackend F U) (clients : UInt32 → ClientState F U)
    (s : SessionState F) (type : MessageType) (before after : TransportLoopContext) : Prop :=
  ∃ queued, after.outputs = before.outputs ++ queued ∧
    ∀ p ∈ s.players.slots, p.connected = true → ∃ output,
      queued.filter (packetFor p.connectionId type) = [output] ∧
        (pluginApplyPacket backend output.bytes (clients p.connectionId)).1 = true

/-- Every connection of a connected player is counted once among those that a broadcast has room
for. -/
def Reached (s : SessionState F) (outputCount : Nat) : Prop :=
  ∀ connectionId ∈ connections s,
    ((connections s).take (maxOutputs - outputCount)).count connectionId = 1

instance (s : SessionState F) (outputCount : Nat) : Decidable (Reached s outputCount) :=
  inferInstanceAs (Decidable (∀ _ ∈ _, _))

section Delivery
variable {backend : RemoteProxyBackend F U} {clients : UInt32 → ClientState F U}
  {s : SessionState F} {type : MessageType}

omit [CFloat F] [WireFloat F] in
theorem mem_connections {connectionId : UInt32} : connectionId ∈ connections s ↔
    ∃ p ∈ s.players.slots, p.connected = true ∧ p.connectionId = connectionId := by
  simp only [connections, List.mem_map, List.mem_filter, and_assoc]

omit [CFloat F] [WireFloat F] in
theorem filter_packetFor {queued : List TransportOutput}
    (typed : ∀ output ∈ queued, packetType? output.bytes = some type) (connectionId : UInt32) :
    (queued.filter (packetFor connectionId type)).length =
      (queued.map (·.connectionId)).count connectionId := by
  have same : queued.filter (packetFor connectionId type) =
      queued.filter fun output => output.connectionId == connectionId := by
    refine List.filter_congr fun output member => ?_
    rw [packetFor, typed output member, beq_self_eq_true, Bool.and_true]
  rw [same, ← List.countP_eq_length_filter, List.count, List.countP_map]
  rfl

theorem delivers_iff_of_queued {before after : TransportLoopContext} {queued : List TransportOutput}
    {accepted : Bool} (appended : after.outputs = before.outputs ++ queued)
    (typed : ∀ output ∈ queued, packetType? output.bytes = some type)
    (applied : ∀ output ∈ queued, ∀ c, (pluginApplyPacket backend output.bytes c).1 = accepted) :
    ShownToAll backend clients s type before after ↔ ∀ connectionId ∈ connections s,
      (queued.map (·.connectionId)).count connectionId = 1 ∧ accepted = true := by
  constructor
  · rintro ⟨queued', appended', delivered⟩ connectionId member
    obtain rfl : queued = queued' := List.append_cancel_left (appended.symm.trans appended')
    obtain ⟨p, slot, connected, rfl⟩ := mem_connections.mp member
    obtain ⟨output, own, taken⟩ := delivered p slot connected
    have inside : output ∈ queued := by
      refine List.mem_of_mem_filter (p := packetFor p.connectionId type) ?_
      rw [own]
      exact List.mem_singleton_self output
    exact ⟨by rw [← filter_packetFor typed, own]; rfl, (applied output inside _).symm.trans taken⟩
  · intro once
    refine ⟨queued, appended, fun p slot connected => ?_⟩
    obtain ⟨count, accepts⟩ := once p.connectionId (mem_connections.mpr ⟨p, slot, connected, rfl⟩)
    rw [← filter_packetFor typed] at count
    obtain ⟨output, own⟩ := List.length_eq_one_iff.mp count
    have inside : output ∈ queued := by
      refine List.mem_of_mem_filter (p := packetFor p.connectionId type) ?_
      rw [own]
      exact List.mem_singleton_self output
    exact ⟨output, own, (applied output inside _).trans accepts⟩

omit [CFloat F] [WireFloat F] in
theorem packetType?_framedBytes {payload : List UInt8} (sessionId : SessionId) (sequence : UInt32)
    (flags : UInt16) (some_ : 0 < payload.length) (counted : payload.length < 65536) :
    packetType? (framedBytes sessionId sequence type flags payload) = some type := by
  rw [packetType?, openPacket_framedBytes sessionId sequence flags some_ counted]
  exact MessageType.ofCode?_code type

theorem pluginApplyPacket_refused {payload : List UInt8}
    (refuses : Refuses (decodeBody (F := F) receiveCaps type) payload) (sessionId : SessionId)
    (sequence : UInt32) (flags : UInt16) (some_ : 0 < payload.length)
    (counted : payload.length < 65536) (c : ClientState F U) :
    (pluginApplyPacket backend (framedBytes sessionId sequence type flags payload) c).1 = false := by
  have opened := @openPacket_framedBytes type payload sessionId sequence flags some_ counted
  have fails := refuses ⟨framedBytes sessionId sequence type flags payload,
    packetHeaderSize + messageHeaderSize, false⟩ ⟨rfl, by
      rw [framedBytes_length, ← Nat.add_assoc]; exact Nat.le_add_right _ _⟩
    ⟨[], by rw [List.append_nil]; exact (framedBytes_payload sessionId sequence flags).symm⟩
  rw [pluginApplyPacket_open, opened]
  dsimp only [sentMessageHeader]
  rw [MessageType.ofCode?_code]
  dsimp only
  split
  · rfl
  · rename_i body r read
    rw [read] at fails
    cases fails

theorem tlBroadcast_emits_delivers_iff {enc : Write} {payload : List UInt8} {flags : UInt16}
    {accepted : Bool} (emits : Emits enc payload) (some_ : 0 < payload.length)
    (fits : packetHeaderSize + messageHeaderSize + payload.length ≤ f4mpMaxPacketSize)
    (applied : ∀ sequence c, (pluginApplyPacket backend
      (framedBytes s.sessionId sequence type flags payload) c).1 = accepted)
    (ctx : TransportLoopContext) :
    ShownToAll backend clients s type ctx (tlBroadcast s type flags enc ctx) ↔
      connections s = [] ∨ accepted = true ∧ Reached s ctx.outputs.length := by
  have counted : payload.length < 65536 := by
    simp only [packetHeaderSize, messageHeaderSize, f4mpMaxPacketSize] at fits
    omega
  obtain ⟨queued, appended, receivers, framed⟩ := tlBroadcast_emits s type flags emits fits ctx
  have typed : ∀ output ∈ queued, packetType? output.bytes = some type := by
    intro output member
    obtain ⟨sequence, bytes⟩ := framed output member
    rw [bytes]
    exact packetType?_framedBytes s.sessionId sequence flags some_ counted
  have alike : ∀ output ∈ queued, ∀ c, (pluginApplyPacket backend output.bytes c).1 = accepted := by
    intro output member c
    obtain ⟨sequence, bytes⟩ := framed output member
    rw [bytes]
    exact applied sequence c
  rw [delivers_iff_of_queued appended typed alike, receivers]
  constructor
  · intro once
    cases some : connections s with
    | nil => exact .inl rfl
    | cons first rest =>
        have member : first ∈ connections s := some ▸ List.mem_cons_self
        exact .inr ⟨(once first member).2, fun connectionId listed => (once connectionId listed).1⟩
  · rintro (nobody | ⟨taken, reached⟩) connectionId member
    · rw [nobody] at member
      cases member
    · exact ⟨reached connectionId member, taken⟩

/-- A message is delivered by a broadcast exactly if it fits a packet and its receivers, and every
connected player is reached. -/
theorem tlBroadcast_delivers_iff [LawfulWireFloat F] {body : Body F type}
    (adds : Adds (encodeBody type body) (bodySize type body))
    (refused : bodySize type body ≤ f4mpMaxPacketSize - packetHeaderSize - messageHeaderSize →
      ¬ Sendable type body →
        Refused (encodeBody type body) (decodeBody (F := F) receiveCaps type) (bodySize type body))
    (shown : ∀ c : ClientState F U, (applyMessage backend type body c).1 = true) (flags : UInt16)
    (ctx : TransportLoopContext) :
    ShownToAll backend clients s type ctx (tlBroadcast s type flags (encodeBody type body) ctx) ↔
      connections s = [] ∨ Sendable type body ∧ Reached s ctx.outputs.length := by
  have some_ := bodySize_pos type body
  rcases Nat.lt_or_ge f4mpMaxPacketSize
    (packetHeaderSize + messageHeaderSize + bodySize type body) with large | fits
  · have dropped := tlBroadcast_oversize s type flags adds large ctx
    have never : ¬ Sendable type body := fun sendable =>
      absurd sendable.packet_fits (Nat.not_le.mpr large)
    have refused : ∀ output ∈ ([] : List TransportOutput), ∀ c,
        (pluginApplyPacket backend output.bytes c).1 = false := List.forall_mem_nil _
    rw [delivers_iff_of_queued (dropped.trans (List.append_nil _).symm) (List.forall_mem_nil _)
      refused]
    simp [never, List.eq_nil_iff_forall_not_mem]
  by_cases sendable : Sendable type body
  · obtain ⟨size, emits, _⟩ := sendable.payload
    have applied : ∀ sequence c, (pluginApplyPacket backend (framedBytes s.sessionId sequence type
        flags (wireBytes (encodeBody type body))) c).1 = true := by
      intro sequence c
      rw [← packetBytes_eq, pluginApplyPacket_carries
        (packetBytes_carries sendable s.sessionId sequence flags), shown]
    rw [tlBroadcast_emits_delivers_iff emits (size ▸ some_) (size ▸ fits) applied,
      eq_self_iff_true, true_and, and_iff_right sendable]
  · have room : packetHeaderSize + messageHeaderSize = 34 := rfl
    have whole : f4mpMaxPacketSize = 1400 := rfl
    obtain ⟨payload, size, emits, refuses⟩ := refused (by omega) sendable
    have counted : payload.length < 65536 := by omega
    rw [tlBroadcast_emits_delivers_iff emits (size ▸ some_) (size ▸ fits) fun sequence c =>
      pluginApplyPacket_refused refuses s.sessionId sequence flags (size ▸ some_) counted c]
    simp only [Bool.false_eq_true, false_and, sendable]

end Delivery

/-! ## The texts that are sent -/

/-- The text beside the record at `i`. The adapter looks for the texts right behind the counted records
and finds the records to spare first, which it reads as no text. -/
def sentText (capacity count : Nat) (texts : TextPointers) (i : Nat) : Text :=
  if i < capacity - count then [] else cString (textAt texts (i - (capacity - count)))

/-- The texts that are sent fit the client's buffers, and together one packet. -/
structure TextsFit (capacity count : Nat) (texts : TextPointers) : Prop where
  short : ∀ i < count, (sentText capacity count texts i).length ≤ 255
  together : 8 + ((List.range count).map fun i =>
    10 + (sentText capacity count texts i).length).sum ≤
      f4mpMaxPacketSize - packetHeaderSize - messageHeaderSize

section Texts
variable {R : Type} {capacity count : Nat} {texts : TextPointers}

theorem sentText_noNul (i : Nat) : 0 ∉ sentText capacity count texts i := by
  unfold sentText
  split
  · exact List.not_mem_nil
  · exact cString_noNul _

theorem payloadCells_sentText (zero : R) (records : List R) (room : count ≤ capacity) :
    let cells := payloadCells capacity count zero records texts
    (textsOrEmpty (some ((cells.drop count).map PayloadCell.asPointer)) count).map cString =
      (List.range count).map (sentText capacity count texts) := by
  intro cells
  rw [textsOrEmpty, List.map_map]
  refine List.map_congr_left fun i member => ?_
  have counted := List.mem_range.mp member
  by_cases spare : i < capacity - count
  · have front : count + i < capacity := by omega
    simp [cells, payloadCells, sentText, List.getElem?_append, front, spare, PayloadCell.asPointer,
      cString]
  · have back : ¬ count + i < capacity := by omega
    have place : count + i - capacity = i - (capacity - count) := by omega
    have own : i - (capacity - count) < count := by omega
    have listed : i - (capacity - count) < capacity := by omega
    cases texts <;>
      simp [cells, payloadCells, sentText, List.getElem?_append, back, spare, place, own, listed,
        PayloadCell.asPointer, textAt]

theorem sent_sizes {records : List (R × Text)}
    (sent : records.map Prod.snd = (List.range count).map (sentText capacity count texts)) :
    (records.map fun record => 10 + record.2.length) =
      (List.range count).map fun i => 10 + (sentText capacity count texts i).length := by
  have mapped := congrArg (List.map fun text : Text => 10 + text.length) sent
  rw [List.map_map, List.map_map] at mapped
  exact mapped

theorem textsFit_iff {records : List (R × Text)}
    (sent : records.map Prod.snd = (List.range count).map (sentText capacity count texts)) :
    (∀ record ∈ records, record.2.Fits 256) ∧
        8 + (records.map fun record => 10 + record.2.length).sum ≤
          f4mpMaxPacketSize - packetHeaderSize - messageHeaderSize ↔
      TextsFit capacity count texts := by
  have each : (∀ record ∈ records, record.2.Fits 256) ↔
      ∀ i < count, (sentText capacity count texts i).length ≤ 255 := by
    have all : (∀ record ∈ records, record.2.Fits 256) ↔
        ∀ text ∈ records.map Prod.snd, Text.Fits 256 text := List.forall_mem_map.symm
    rw [all, sent, List.forall_mem_map]
    constructor
    · exact fun fits i counted => Nat.le_of_lt_succ (fits i (List.mem_range.mpr counted)).short
    · exact fun short i member =>
        ⟨sentText_noNul i, Nat.lt_succ_of_le (short i (List.mem_range.mp member))⟩
  rw [each, sent_sizes sent]
  exact ⟨fun fits => ⟨fits.1, fits.2⟩, fun fits => ⟨fits.short, fits.together⟩⟩

/-- The counted records of a payload, each with the text that its adapter finds for it. -/
def packedRecords (capacity count : Nat) (zero : R) (records : List R) (texts : TextPointers) :
    List (R × Text) :=
  let cells := payloadCells capacity count zero records texts
  let found := textsOrEmpty (some ((cells.drop count).map PayloadCell.asPointer)) count
  (cells.filterMap PayloadCell.asRecord?).zip (found.map cString)

variable (zero : R) (records : List R)

theorem packedRecords_snd (room : count ≤ capacity) :
    (packedRecords capacity count zero records texts).map Prod.snd =
      (List.range count).map (sentText capacity count texts) := by
  rw [packedRecords, List.map_snd_zip]
  · exact payloadCells_sentText zero records room
  · simp only [payloadCells_records, List.length_map, List.length_range, textsOrEmpty]
    exact room

theorem packedRecords_length (room : count ≤ capacity) :
    (packedRecords capacity count zero records texts).length = count := by
  simpa using congrArg List.length (packedRecords_snd zero records room)

theorem packedRecords_noNul (room : count ≤ capacity) :
    ∀ record ∈ packedRecords capacity count zero records texts, 0 ∉ record.2 := by
  intro record member
  have text := List.mem_map_of_mem (f := Prod.snd) member
  rw [packedRecords_snd zero records room] at text
  obtain ⟨i, _, same⟩ := List.mem_map.mp text
  exact same ▸ sentText_noNul i

end Texts

/-! ## The messages -/

section Messages
variable (texts : TextPointers)

/-- The objectives of a broadcast, each with the text that the encoder finds for it. -/
def questMessage (h : MsgQuestUpdateHeader) (objs : List MsgQuestObjectiveRecord)
    (texts : TextPointers) : Body F .questUpdate :=
  let h := { h with objectiveCount := min h.objectiveCount 16 }
  (h, packedRecords 16 h.objectiveCount.toNat {} objs texts)

omit [CFloat F] [WireFloat F] in
theorem choicesMessage_packed (h : MsgDialogueChoicesHeader)
    (choices : List MsgDialogueChoiceRecord) :
    choicesMessage (F := F) h choices texts =
      ({ h with choiceCount := min h.choiceCount 12 },
        packedRecords 12 (min h.choiceCount 12).toNat {} choices texts) := rfl

theorem objectiveCount_le (count : UInt8) : (min count 16).toNat ≤ 16 :=
  UInt8.le_iff_toNat_le.mp Std.min_le_right

omit [CFloat F] [WireFloat F] in
theorem choicesMessage_sendable_iff (h : MsgDialogueChoicesHeader)
    (choices : List MsgDialogueChoiceRecord) :
    Sendable .dialogueChoices (choicesMessage (F := F) h choices texts) ↔
      TextsFit 12 (min h.choiceCount 12).toNat texts := by
  have room := choiceCount_le h.choiceCount
  rw [choicesMessage_packed, ← textsFit_iff (packedRecords_snd {} choices room)]
  exact ⟨fun sendable => ⟨sendable.within.2.2, sendable.fits⟩, fun fits =>
    ⟨⟨packedRecords_length {} choices room, Std.min_le_right, fits.1⟩, trivial, fits.2⟩⟩

omit [CFloat F] [WireFloat F] in
theorem questMessage_sendable_iff (h : MsgQuestUpdateHeader)
    (objs : List MsgQuestObjectiveRecord) :
    Sendable .questUpdate (questMessage (F := F) h objs texts) ↔
      TextsFit 16 (min h.objectiveCount 16).toNat texts := by
  have room := objectiveCount_le h.objectiveCount
  rw [questMessage, ← textsFit_iff (packedRecords_snd {} objs room)]
  exact ⟨fun sendable => ⟨sendable.within.2.2, sendable.fits⟩, fun fits =>
    ⟨⟨packedRecords_length {} objs room, Std.min_le_right, fits.1⟩, trivial, fits.2⟩⟩

omit [CFloat F] in
theorem questMessage_encodes (h : MsgQuestUpdateHeader) (objs : List MsgQuestObjectiveRecord) :
    let h' := { h with objectiveCount := min h.objectiveCount 16 }
    encodeQuestUpdateAdapter h' (payloadCells 16 h'.objectiveCount.toNat {} objs texts) =
      encodeBody (F := F) .questUpdate (questMessage h objs texts) := by
  intro h'
  have counted : (questMessage (F := F) h objs texts).2.length =
      (questMessage (F := F) h objs texts).1.objectiveCount.toNat := by
    dsimp only [questMessage]
    exact packedRecords_length {} objs (objectiveCount_le h.objectiveCount)
  have same : ∀ obj : MsgQuestObjectiveRecord × Text,
      encodeQuestObjective (obj.1, cString obj.2) = encodeQuestObjective obj := by
    intro obj
    simp only [encodeQuestObjective, pwWriteStringU16, cString_whole (cString_noNul obj.2)]
  simp only [encodeQuestUpdateAdapter, encodeBody, encodeMsgQuestUpdate]
  rw [zip_textsOrEmpty counted]
  simp only [questMessage, packedRecords, List.zip_map_right, writeEach_map]
  simp only [Prod.map, id, same]
  rfl

/-! ### What becomes of them -/

variable [LawfulWireFloat F] {backend : RemoteProxyBackend F U}
  {clients : UInt32 → ClientState F U} {s : SessionState F} {ctx : TransportLoopContext}

theorem tlBroadcastDialogueChoices_delivers_iff (h : MsgDialogueChoicesHeader)
    (choices : List MsgDialogueChoiceRecord) :
    ShownToAll backend clients s .dialogueChoices ctx
        (tlBroadcastDialogueChoices s h choices texts ctx) ↔
      connections s = [] ∨ TextsFit 12 (min h.choiceCount 12).toNat texts ∧
        Reached s ctx.outputs.length := by
  have room := choiceCount_le h.choiceCount
  have counted : (packedRecords 12 (min h.choiceCount 12).toNat {} choices texts).length = _ :=
    packedRecords_length {} choices room
  have noNul := @packedRecords_noNul _ _ _ texts {} choices room
  rw [tlBroadcastDialogueChoices, choicesMessage_encodes (F := F) h choices texts,
    ← choicesMessage_sendable_iff (F := F), choicesMessage_packed]
  exact tlBroadcast_delivers_iff (dialogueChoices_adds counted noNul)
    (dialogueChoices_refused counted Std.min_le_right noNul) (fun _ => rfl) _ ctx

theorem tlBroadcastQuestUpdate_delivers_iff (h : MsgQuestUpdateHeader)
    (objs : List MsgQuestObjectiveRecord) :
    ShownToAll backend clients s .questUpdate ctx
        (tlBroadcastQuestUpdate s h objs texts ctx) ↔
      connections s = [] ∨ TextsFit 16 (min h.objectiveCount 16).toNat texts ∧
        Reached s ctx.outputs.length := by
  have room := objectiveCount_le h.objectiveCount
  have counted : (packedRecords 16 (min h.objectiveCount 16).toNat {} objs texts).length = _ :=
    packedRecords_length {} objs room
  have noNul := @packedRecords_noNul _ _ _ texts {} objs room
  rw [tlBroadcastQuestUpdate, questMessage_encodes (F := F) texts h objs,
    ← questMessage_sendable_iff (F := F), questMessage]
  exact tlBroadcast_delivers_iff (questUpdate_adds counted noNul)
    (questUpdate_refused counted Std.min_le_right noNul) (fun _ => rfl) _ ctx

omit texts in
theorem tlBroadcastDialogueLine_delivers_iff (msg : MsgDialogueLine) (text : Option Text) :
    ShownToAll backend clients s .dialogueLine ctx (tlBroadcastDialogueLine s msg text ctx) ↔
      connections s = [] ∨ Reached s ctx.outputs.length := by
  have sendable := line_sendable (F := F) msg (text.getD [])
  have format := body_roundTrips sendable.within sendable.short
  refine (tlBroadcast_delivers_iff format.adds (fun _ unsendable => absurd sendable unsendable)
    (fun _ => rfl) _ ctx).trans ?_
  rw [and_iff_right sendable]

end Messages

/-! ## The calls -/

/-- The calls of the host event mirror that send texts. -/
inductive MirrorCall where
  | dialogueLine (dialogueId : DialogueId) (speakerActorNetId : ActorNetId) (text : Option Text)
  | dialogueChoices (dialogueId : DialogueId) (choices : List MsgDialogueChoiceRecord)
      (texts : TextPointers) (choiceCount : UInt16)
  | questUpdate (questId : QuestId) (stage : UInt16) (tracked : UInt8)
      (objs : List MsgQuestObjectiveRecord) (texts : TextPointers) (objectiveCount : UInt8)

namespace MirrorCall

def type : MirrorCall → MessageType
  | dialogueLine .. => .dialogueLine
  | dialogueChoices .. => .dialogueChoices
  | questUpdate .. => .questUpdate

/-- What the call returns and what it leaves. The calls about the dialogue return what their broadcast
returns, which is always true. -/
def result (s : ServiceState F) : MirrorCall → Bool × ServiceState F
  | dialogueLine dialogueId speakerActorNetId text =>
      (true, hemDialogueLine dialogueId speakerActorNetId text s)
  | dialogueChoices dialogueId choices texts choiceCount =>
      (true, hemDialogueChoices dialogueId choices texts choiceCount s)
  | questUpdate questId stage tracked objs texts objectiveCount =>
      hemQuestUpdate questId stage tracked objs texts objectiveCount s

/-- The session takes the update of its quest. -/
def Admitted (s : SessionState F) : MirrorCall → Prop
  | questUpdate questId stage tracked objs _ objectiveCount =>
      (qmpValidateUpdate s ⟨questId, stage, tracked, objectiveCount⟩ objs).accepted = true
  | _ => True

/-- The texts that are sent for the counted records fit. -/
def TextsFit : MirrorCall → Prop
  | dialogueLine .. => True
  | dialogueChoices _ _ texts choiceCount => System.TextsFit 12 (min choiceCount 12).toNat texts
  | questUpdate _ _ _ _ texts objectiveCount =>
      System.TextsFit 16 (min objectiveCount 16).toNat texts

end MirrorCall

section Calls
variable {s : ServiceState F}

theorem result_delivers_iff [LawfulWireFloat F] (backend : RemoteProxyBackend F U)
    (clients : UInt32 → ClientState F U) {call : MirrorCall} (admitted : call.Admitted s.session) :
    (call.result s).1 = true ∧
      (ShownToAll backend clients s.session call.type s.ctx (call.result s).2.ctx ↔
        connections s.session = [] ∨ call.TextsFit ∧ Reached s.session s.ctx.outputs.length) := by
  cases call with
  | dialogueLine dialogueId speakerActorNetId text =>
      refine ⟨rfl, (tlBroadcastDialogueLine_delivers_iff ⟨dialogueId, speakerActorNetId⟩ text).trans ?_⟩
      rw [MirrorCall.TextsFit, true_and]
  | dialogueChoices dialogueId choices texts choiceCount =>
      exact ⟨rfl, tlBroadcastDialogueChoices_delivers_iff texts { dialogueId, choiceCount } choices⟩
  | questUpdate questId stage tracked objs texts objectiveCount =>
      have accepted : (qmpValidateUpdate s.session ⟨questId, stage, tracked, objectiveCount⟩
        objs).accepted = true := admitted
      refine ⟨(hemQuestUpdate_accepted texts accepted).1, ?_⟩
      simp only [MirrorCall.result, hemQuestUpdate, accepted, if_true]
      exact tlBroadcastQuestUpdate_delivers_iff texts ⟨questId, stage, tracked, objectiveCount⟩ objs

omit [CFloat F] [WireFloat F] in
theorem result_rejected {call : MirrorCall} (rejected : ¬ call.Admitted s.session) :
    (call.result s).1 = false := by
  cases call with
  | questUpdate questId stage tracked objs texts objectiveCount =>
      exact congrArg Prod.fst (hemQuestUpdate_rejected rejected)
  | _ => exact absurd trivial rejected

end Calls

/-- A call that reports success has delivered its message exactly if nobody is connected, or all the
texts that are sent fit and every connected player is reached. -/
theorem mirrorCall_delivers_iff [LawfulWireFloat F] (backend : RemoteProxyBackend F U)
    (clients : UInt32 → ClientState F U) (s : ServiceState F) (call : MirrorCall) :
    ((call.result s).1 = true →
        ShownToAll backend clients s.session call.type s.ctx (call.result s).2.ctx) ↔
      ¬ call.Admitted s.session ∨ connections s.session = [] ∨
        call.TextsFit ∧ Reached s.session s.ctx.outputs.length := by
  by_cases admitted : call.Admitted s.session
  · obtain ⟨done, delivers⟩ := result_delivers_iff backend clients admitted
    rw [done, delivers]
    simp only [forall_const, admitted, not_true, false_or]
  · rw [result_rejected admitted]
    simp only [Bool.false_eq_true, false_imp_iff, admitted, not_false_eq_true, true_or]

/-- A line to one player. -/
theorem mirrorCall_delivers_iff_line :
    let call : MirrorCall := .dialogueLine 5 8 (some [0x59])
    let s := oneClient.service
    ((call.result s).1 = true → ShownToAll defaultBackend (fun _ => freshClient 1 ()) s.session call.type
        s.ctx (call.result s).2.ctx) ↔
      ¬ call.Admitted s.session ∨ connections s.session = [] ∨
        call.TextsFit ∧ Reached s.session s.ctx.outputs.length :=
  mirrorCall_delivers_iff defaultBackend (fun _ => freshClient 1 ()) oneClient.service
    (.dialogueLine 5 8 (some [0x59]))

/-- A choice with a text of 256 bytes is sent to a player who refuses it. -/
theorem mirrorCall_undelivered :
    let texts : TextPointers := some (some (List.replicate 256 0x59) :: List.replicate 11 (some []))
    let call : MirrorCall := .dialogueChoices 5 (List.replicate 12 {}) texts 12
    let s := oneClient.service
    (call.result s).1 = true ∧ ¬ ShownToAll defaultBackend (fun _ => freshClient 1 ()) s.session
      call.type s.ctx (call.result s).2.ctx := by
  intro texts call s
  obtain ⟨done, delivers⟩ :=
    @result_delivers_iff _ _ _ _ s _ defaultBackend (fun _ => freshClient 1 ()) call trivial
  have someone : connections s.session ≠ [] := by decide +kernel
  have long : ¬ (sentText 12 12 texts 0).length ≤ 255 := by decide +kernel
  refine ⟨done, fun delivered => ?_⟩
  rcases delivers.mp delivered with nobody | ⟨fit, _⟩
  · exact someone nobody
  · exact long (fit.short 0 (by decide))

end F4MP.System

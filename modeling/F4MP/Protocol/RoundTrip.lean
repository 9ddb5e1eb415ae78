import F4MP.Protocol.Codec

/-!
# Encoders and decoders agree

Each encoder of `packet_codec.c` with its decoder, as a format of a known size.
-/

namespace F4MP.Protocol
open SoftFloat Wire

variable {F : Type} [WireFloat F]

/-! ## Messages of a fixed size -/

section Fixed
variable [LawfulWireFloat F]

theorem vec3_roundTrips (v : Vec3f F) : RoundTrips (writeVec3 v) readVec3 v 12 :=
  .size (.bind (f32_roundTrips v.x) <| .bind (f32_roundTrips v.y) <|
    .last (f32_roundTrips v.z) rfl) (by rfl)

theorem rot3_roundTrips (v : Rot3f F) : RoundTrips (writeRot3 v) readRot3 v 12 :=
  .size (.bind (f32_roundTrips v.pitch) <| .bind (f32_roundTrips v.yaw) <|
    .last (f32_roundTrips v.roll) rfl) (by rfl)

theorem packetHeader_roundTrips (h : PacketHeader) :
    RoundTrips (encodePacketHeader h) decodePacketHeader h 28 :=
  .size (.bind (u32_roundTrips _) <| .bind (u16_roundTrips _) <| .bind (u16_roundTrips _) <|
    .bind (u32_roundTrips _) <| .bind (u32_roundTrips _) <| .bind (u32_roundTrips _) <|
    .bind (u32_roundTrips _) <| .bind (u8_roundTrips _) <| .last (pad3_roundTrips _) rfl) (by rfl)

theorem messageHeader_roundTrips (h : MessageHeader) :
    RoundTrips (encodeMessageHeader h) decodeMessageHeader h 6 :=
  .size (.bind (u16_roundTrips _) <| .bind (u16_roundTrips _) <| .last (u16_roundTrips _) rfl)
    (by rfl)

theorem msgWelcome_roundTrips (m : MsgWelcome) :
    RoundTrips (encodeMsgWelcome m) decodeMsgWelcome m 12 :=
  .size (.bind (u32_roundTrips _) <| .bind (u16_roundTrips _) <| .bind (u16_roundTrips _) <|
    .last (u32_roundTrips _) rfl) (by rfl)

theorem msgPing_roundTrips (m : MsgPing) : RoundTrips (encodeMsgPing m) decodeMsgPing m 4 :=
  .size (.last (u32_roundTrips _) rfl) (by rfl)

theorem msgPong_roundTrips (m : MsgPong) : RoundTrips (encodeMsgPong m) decodeMsgPong m 4 :=
  .size (.last (u32_roundTrips _) rfl) (by rfl)

theorem msgDisconnect_roundTrips (m : MsgDisconnect) :
    RoundTrips (encodeMsgDisconnect m) decodeMsgDisconnect m 1 :=
  .size (.last (u8_roundTrips _) rfl) (by rfl)

theorem msgProfileSnapshot_roundTrips (m : MsgProfileSnapshot) :
    RoundTrips (encodeMsgProfileSnapshot m) decodeMsgProfileSnapshot m 24 :=
  .size (.bind (u32_roundTrips _) <| .bind (u32_roundTrips _) <| .bind (u32_roundTrips _) <|
    .bind (u32_roundTrips _) <| .bind (u8_roundTrips _) <| .bind (u8_roundTrips _) <|
    .bind (u8_roundTrips _) <| .bind (u8_roundTrips _) <| .bind (u8_roundTrips _) <|
    .bind (u8_roundTrips _) <| .bind (u8_roundTrips _) <| .last (u8_roundTrips _) rfl) (by rfl)

theorem profileItemRecord_roundTrips (item : MsgProfileItemRecord) :
    RoundTrips (encodeProfileItemRecord item) decodeProfileItemRecord item 12 :=
  .size (.bind (u32_roundTrips _) <| .bind (u32_roundTrips _) <| .bind (u8_roundTrips _) <|
    .last (pad3_roundTrips _) rfl) (by rfl)

theorem profilePerkRecord_roundTrips (perk : MsgProfilePerkRecord) :
    RoundTrips (encodeProfilePerkRecord perk) decodeProfilePerkRecord perk 8 :=
  .size (.bind (u32_roundTrips _) <| .bind (u8_roundTrips _) <| .last (pad3_roundTrips _) rfl)
    (by rfl)

theorem msgProfileAppearance_roundTrips (m : MsgProfileAppearance) :
    RoundTrips (encodeMsgProfileAppearance m) decodeMsgProfileAppearance m 8 :=
  .size (.bind (u8_roundTrips _) <| .bind (pad3_roundTrips _) <| .last (u32_roundTrips _) rfl)
    (by rfl)

theorem msgInputState_roundTrips (m : MsgInputState) :
    RoundTrips (encodeMsgInputState m) decodeMsgInputState m 18 :=
  .size (.bind (u32_roundTrips _) <| .bind (i8_roundTrips _) <| .bind (i8_roundTrips _) <|
    .bind (i16_roundTrips _) <| .bind (i16_roundTrips _) <| .bind (u32_roundTrips _) <|
    .last (u32_roundTrips _) rfl) (by rfl)

theorem msgPlayerState_roundTrips (m : MsgPlayerState F) :
    RoundTrips (encodeMsgPlayerState m) decodeMsgPlayerState m 60 :=
  .size (.bind (u16_roundTrips _) <| .bind (u16_roundTrips _) <| .bind (vec3_roundTrips _) <|
    .bind (rot3_roundTrips _) <| .bind (vec3_roundTrips _) <| .bind (u8_roundTrips _) <|
    .bind (pad3_roundTrips _) <| .bind (u16_roundTrips _) <| .bind (u16_roundTrips _) <|
    .bind (u32_roundTrips _) <| .bind (u32_roundTrips _) <| .last (u32_roundTrips _) rfl) (by rfl)

theorem msgPlayerLeft_roundTrips (m : MsgPlayerLeft) :
    RoundTrips (encodeMsgPlayerLeft m) decodeMsgPlayerLeft m 4 :=
  .size (.bind (u16_roundTrips _) <| .last (u16_roundTrips _) rfl) (by rfl)

theorem msgBubbleViolation_roundTrips (m : MsgBubbleViolation F) :
    RoundTrips (encodeMsgBubbleViolation m) decodeMsgBubbleViolation m 16 :=
  .size (.bind (u16_roundTrips _) <| .bind (u8_roundTrips _) <| .bind (u8_roundTrips _) <|
    .last (vec3_roundTrips _) rfl) (by rfl)

theorem msgActorSpawn_roundTrips (m : MsgActorSpawn F) :
    RoundTrips (encodeMsgActorSpawn m) decodeMsgActorSpawn m 36 :=
  .size (.bind (u32_roundTrips _) <| .bind (u32_roundTrips _) <| .bind (vec3_roundTrips _) <|
    .bind (rot3_roundTrips _) <| .bind (u8_roundTrips _) <| .bind (u8_roundTrips _) <|
    .last (u16_roundTrips _) rfl) (by rfl)

theorem msgActorState_roundTrips (m : MsgActorState F) :
    RoundTrips (encodeMsgActorState m) decodeMsgActorState m 40 :=
  .size (.bind (u32_roundTrips _) <| .bind (vec3_roundTrips _) <| .bind (rot3_roundTrips _) <|
    .bind (f32_roundTrips _) <| .bind (u16_roundTrips _) <| .bind (u16_roundTrips _) <|
    .last (u32_roundTrips _) rfl) (by rfl)

theorem msgActorDespawn_roundTrips (m : MsgActorDespawn) :
    RoundTrips (encodeMsgActorDespawn m) decodeMsgActorDespawn m 8 :=
  .size (.bind (u32_roundTrips _) <| .bind (u8_roundTrips _) <| .last (pad3_roundTrips _) rfl)
    (by rfl)

theorem msgFireIntent_roundTrips (m : MsgFireIntent F) :
    RoundTrips (encodeMsgFireIntent m) decodeMsgFireIntent m 40 :=
  .size (.bind (u16_roundTrips _) <| .bind (u16_roundTrips _) <| .bind (u32_roundTrips _) <|
    .bind (vec3_roundTrips _) <| .bind (vec3_roundTrips _) <| .bind (u8_roundTrips _) <|
    .bind (pad3_roundTrips _) <| .last (u32_roundTrips _) rfl) (by rfl)

theorem msgMeleeIntent_roundTrips (m : MsgMeleeIntent) :
    RoundTrips (encodeMsgMeleeIntent m) decodeMsgMeleeIntent m 16 :=
  .size (.bind (u16_roundTrips _) <| .bind (u16_roundTrips _) <| .bind (u32_roundTrips _) <|
    .bind (u32_roundTrips _) <| .last (u32_roundTrips _) rfl) (by rfl)

theorem msgDamageResult_roundTrips (m : MsgDamageResult F) :
    RoundTrips (encodeMsgDamageResult m) decodeMsgDamageResult m 20 :=
  .size (.bind (u32_roundTrips _) <| .bind (u32_roundTrips _) <| .bind (f32_roundTrips _) <|
    .bind (u8_roundTrips _) <| .bind (u8_roundTrips _) <| .bind (u16_roundTrips _) <|
    .last (f32_roundTrips _) rfl) (by rfl)

theorem msgDeathEvent_roundTrips (m : MsgDeathEvent) :
    RoundTrips (encodeMsgDeathEvent m) decodeMsgDeathEvent m 12 :=
  .size (.bind (u32_roundTrips _) <| .bind (u32_roundTrips _) <| .last (u32_roundTrips _) rfl)
    (by rfl)

theorem msgBuildRequest_roundTrips (m : MsgBuildRequest F) :
    RoundTrips (encodeMsgBuildRequest m) decodeMsgBuildRequest m 44 :=
  .size (.bind (u32_roundTrips _) <| .bind (u16_roundTrips _) <| .bind (u16_roundTrips _) <|
    .bind (u32_roundTrips _) <| .bind (u32_roundTrips _) <| .bind (vec3_roundTrips _) <|
    .bind (rot3_roundTrips _) <| .last (u32_roundTrips _) rfl) (by rfl)

theorem msgBuildResult_roundTrips (m : MsgBuildResult) (flag : m.accepted = 0 ∨ m.accepted = 1) :
    RoundTrips (encodeMsgBuildResult m) decodeMsgBuildResult m 12 := by
  refine .size (.bind (u32_roundTrips _) <| .bind (bool_roundTrips _) <| .bind (u8_roundTrips _) <|
    .bind (u16_roundTrips _) <| .last (u32_roundTrips _) ?_) (by rfl)
  obtain ⟨requestId, accepted, reason, reserved0, objectNetId⟩ := m
  rcases flag with rfl | rfl <;> rfl

theorem msgObjectSpawn_roundTrips (m : MsgObjectSpawn F) :
    RoundTrips (encodeMsgObjectSpawn m) decodeMsgObjectSpawn m 36 :=
  .size (.bind (u32_roundTrips _) <| .bind (u32_roundTrips _) <| .bind (vec3_roundTrips _) <|
    .bind (rot3_roundTrips _) <| .bind (u16_roundTrips _) <| .last (u16_roundTrips _) rfl) (by rfl)

theorem msgObjectMoveRequest_roundTrips (m : MsgObjectMoveRequest F) :
    RoundTrips (encodeMsgObjectMoveRequest m) decodeMsgObjectMoveRequest m 36 :=
  .size (.bind (u32_roundTrips _) <| .bind (u16_roundTrips _) <| .bind (u16_roundTrips _) <|
    .bind (u32_roundTrips _) <| .bind (vec3_roundTrips _) <| .last (rot3_roundTrips _) rfl)
    (by rfl)

theorem msgObjectScrapRequest_roundTrips (m : MsgObjectScrapRequest) :
    RoundTrips (encodeMsgObjectScrapRequest m) decodeMsgObjectScrapRequest m 12 :=
  .size (.bind (u32_roundTrips _) <| .bind (u16_roundTrips _) <| .bind (u16_roundTrips _) <|
    .last (u32_roundTrips _) rfl) (by rfl)

theorem msgObjectUpdate_roundTrips (m : MsgObjectUpdate F) :
    RoundTrips (encodeMsgObjectUpdate m) decodeMsgObjectUpdate m 36 :=
  .size (.bind (u32_roundTrips _) <| .bind (u32_roundTrips _) <| .bind (vec3_roundTrips _) <|
    .bind (rot3_roundTrips _) <| .bind (u16_roundTrips _) <| .last (u16_roundTrips _) rfl) (by rfl)

theorem msgObjectDespawn_roundTrips (m : MsgObjectDespawn) :
    RoundTrips (encodeMsgObjectDespawn m) decodeMsgObjectDespawn m 8 :=
  .size (.bind (u32_roundTrips _) <| .bind (u8_roundTrips _) <| .last (pad3_roundTrips _) rfl)
    (by rfl)

theorem msgDialogueOpen_roundTrips (m : MsgDialogueOpen) :
    RoundTrips (encodeMsgDialogueOpen m) decodeMsgDialogueOpen m 12 :=
  .size (.bind (u32_roundTrips _) <| .bind (u32_roundTrips _) <| .last (u32_roundTrips _) rfl)
    (by rfl)

theorem msgDialogueSelect_roundTrips (m : MsgDialogueSelect) :
    RoundTrips (encodeMsgDialogueSelect m) decodeMsgDialogueSelect m 8 :=
  .size (.bind (u32_roundTrips _) <| .last (u32_roundTrips _) rfl) (by rfl)

theorem msgDialogueClose_roundTrips (m : MsgDialogueClose) :
    RoundTrips (encodeMsgDialogueClose m) decodeMsgDialogueClose m 8 :=
  .size (.bind (u32_roundTrips _) <| .bind (u8_roundTrips _) <| .last (pad3_roundTrips _) rfl)
    (by rfl)

end Fixed

/-! ## Strings and counted records -/

/-- What a `char` destination of `capacity` bytes can be given: no NUL, and room for one. -/
structure Text.Fits (capacity : Nat) (text : Text) : Prop where
  noNul : 0 ∉ text
  short : text.length < capacity

theorem msgHello_roundTrips (m : MsgHello) {playerGuid playerName : Text} {guidCap nameCap : Nat}
    (guid : playerGuid.Fits guidCap) (name : playerName.Fits nameCap)
    (guidShort : playerGuid.length ≤ 65535) (nameShort : playerName.length ≤ 65535) :
    RoundTrips (encodeMsgHello m playerGuid playerName) (decodeMsgHello guidCap nameCap)
      (m, playerGuid, playerName) (12 + playerGuid.length + playerName.length) :=
  .size (.bind (u32_roundTrips _) <| .bind (u32_roundTrips _) <|
    .bind (string_roundTrips playerGuid guidCap guid.noNul guid.short guidShort) <|
    .last (string_roundTrips playerName nameCap name.noNul name.short nameShort) rfl) (by omega)

theorem msgDialogueLine_roundTrips (m : MsgDialogueLine) {text : Text} {textCap : Nat}
    (fits : text.Fits textCap) (short : text.length ≤ 65535) :
    RoundTrips (encodeMsgDialogueLine m (some text)) (decodeMsgDialogueLine textCap) (m, text)
      (10 + text.length) :=
  .size (.bind (u32_roundTrips _) <| .bind (u32_roundTrips _) <|
    .last (string_roundTrips text textCap fits.noNul fits.short short) rfl) (by omega)

theorem counted_roundTrips {α γ : Type} {w : α → Write} {p : Read α} {n : α → Nat}
    {written records : List α} {count : Nat} {tooMany : Prop} [Decidable tooMany]
    {f : List α → Read γ} {c : γ} (record : ∀ a ∈ records, RoundTrips (w a) p a (n a))
    (whole : written = records) (within : ¬ tooMany) (counted : records.length = count)
    (result : f records = pure c) :
    RoundTrips (writeEach w written) (if tooMany then failure else readTimes p count >>= f) c
      (records.map n).sum := by
  subst whole counted
  rw [if_neg within]
  exact .last (.each record) result

theorem take_whole {α : Type} {records : List α} {count : Nat} (counted : records.length = count) :
    records.take count = records :=
  counted ▸ List.take_length

theorem msgProfileItems_roundTrips (h : MsgProfileItemsHeader) {items : List MsgProfileItemRecord}
    {maxItems : UInt16} (counted : items.length = h.itemCount.toNat)
    (capped : h.itemCount ≤ maxItems) :
    RoundTrips (encodeMsgProfileItems h items) (decodeMsgProfileItems maxItems) (h, items)
      (4 + 12 * items.length) :=
  .size (.bind (u16_roundTrips _) <| .bind (u16_roundTrips _) <|
    counted_roundTrips (fun item _ => profileItemRecord_roundTrips item) (take_whole counted)
      (UInt16.not_lt.mpr capped) counted rfl) (by simp; omega)

theorem msgProfilePerks_roundTrips (h : MsgProfilePerksHeader) {perks : List MsgProfilePerkRecord}
    {maxPerks : UInt16} (counted : perks.length = h.perkCount.toNat)
    (capped : h.perkCount ≤ maxPerks) :
    RoundTrips (encodeMsgProfilePerks h perks) (decodeMsgProfilePerks maxPerks) (h, perks)
      (4 + 8 * perks.length) :=
  .size (.bind (u16_roundTrips _) <| .bind (u16_roundTrips _) <|
    counted_roundTrips (fun perk _ => profilePerkRecord_roundTrips perk) (take_whole counted)
      (UInt16.not_lt.mpr capped) counted rfl) (by simp; omega)

theorem msgInterestSet_roundTrips [LawfulWireFloat F] (m : MsgInterestSet F) {cells : List CellId}
    {maxCells : UInt16} (counted : cells.length = m.cellCount.toNat)
    (capped : m.cellCount ≤ maxCells) :
    RoundTrips (encodeMsgInterestSet m cells) (decodeMsgInterestSet maxCells) (m, cells)
      (20 + 4 * cells.length) :=
  .size (.bind (f32_roundTrips _) <| .bind (f32_roundTrips _) <| .bind (f32_roundTrips _) <|
    .bind (f32_roundTrips _) <| .bind (u16_roundTrips _) <| .bind (u16_roundTrips _) <|
    counted_roundTrips (fun cell _ => u32_roundTrips cell) (take_whole counted)
      (UInt16.not_lt.mpr capped) counted rfl) (by simp; omega)

theorem dialogueChoice_roundTrips (choice : MsgDialogueChoiceRecord × Text)
    (fits : choice.2.Fits 256) :
    RoundTrips (encodeDialogueChoice choice) decodeDialogueChoice choice (10 + choice.2.length) :=
  .size (.bind (u32_roundTrips _) <| .bind (u8_roundTrips _) <| .bind (pad3_roundTrips _) <|
    .last (string_roundTrips choice.2 256 fits.noNul fits.short (by have := fits.short; omega)) rfl)
    (by omega)

theorem questObjective_roundTrips (obj : MsgQuestObjectiveRecord × Text) (fits : obj.2.Fits 256) :
    RoundTrips (encodeQuestObjective obj) decodeQuestObjective obj (10 + obj.2.length) :=
  .size (.bind (u32_roundTrips _) <| .bind (u8_roundTrips _) <| .bind (pad3_roundTrips _) <|
    .last (string_roundTrips obj.2 256 fits.noNul fits.short (by have := fits.short; omega)) rfl)
    (by omega)

/-- Pointers to the texts that stand beside the records. -/
def textPointers {α : Type} (records : List (α × Text)) : TextPointers :=
  some (records.map fun record => some record.2)

theorem zip_textsOrEmpty {α : Type} {records : List (α × Text)} {count : Nat}
    (counted : records.length = count) :
    (records.map Prod.fst).zip (textsOrEmpty (textPointers records) count) = records := by
  have texts : textsOrEmpty (textPointers records) count = records.map Prod.snd := by
    subst counted
    apply List.ext_getElem
    · simp [textsOrEmpty]
    · intro i _ inside
      rw [List.length_map] at inside
      simp [textsOrEmpty, textPointers, inside]
  rw [texts, List.zip_map', List.map_id']

theorem msgDialogueChoices_roundTrips (h : MsgDialogueChoicesHeader)
    {choices : List (MsgDialogueChoiceRecord × Text)} {maxChoices : UInt16}
    (counted : choices.length = h.choiceCount.toNat) (capped : h.choiceCount ≤ maxChoices)
    (fits : ∀ choice ∈ choices, choice.2.Fits 256) :
    RoundTrips (encodeMsgDialogueChoices h (choices.map Prod.fst) (textPointers choices))
      (decodeMsgDialogueChoices maxChoices) (h, choices)
      (8 + (choices.map fun choice => 10 + choice.2.length).sum) :=
  .size (.bind (u32_roundTrips _) <| .bind (u16_roundTrips _) <| .bind (u16_roundTrips _) <|
    counted_roundTrips (fun choice inside => dialogueChoice_roundTrips choice (fits choice inside))
      (zip_textsOrEmpty counted) (UInt16.not_lt.mpr capped) counted rfl) (by omega)

theorem msgQuestUpdate_roundTrips (h : MsgQuestUpdateHeader)
    {objs : List (MsgQuestObjectiveRecord × Text)} {maxObjectives : UInt8}
    (counted : objs.length = h.objectiveCount.toNat) (capped : h.objectiveCount ≤ maxObjectives)
    (fits : ∀ obj ∈ objs, obj.2.Fits 256) :
    RoundTrips (encodeMsgQuestUpdate h (objs.map Prod.fst) (textPointers objs))
      (decodeMsgQuestUpdate maxObjectives) (h, objs)
      (8 + (objs.map fun obj => 10 + obj.2.length).sum) :=
  .size (.bind (u32_roundTrips _) <| .bind (u16_roundTrips _) <| .bind (u8_roundTrips _) <|
    .bind (u8_roundTrips _) <|
    counted_roundTrips (fun obj inside => questObjective_roundTrips obj (fits obj inside))
      (zip_textsOrEmpty counted) (UInt8.not_lt.mpr capped) counted rfl) (by omega)

/-! ## Every message type -/

/-- What a message of each type carries. -/
abbrev Body (F : Type) : MessageType → Type
  | .hello => MsgHello × Text × Text
  | .welcome => MsgWelcome
  | .ping => MsgPing
  | .pong => MsgPong
  | .disconnect => MsgDisconnect
  | .profileSnapshot => MsgProfileSnapshot
  | .profileItems => MsgProfileItemsHeader × List MsgProfileItemRecord
  | .profilePerks => MsgProfilePerksHeader × List MsgProfilePerkRecord
  | .profileAppearance => MsgProfileAppearance
  | .inputState => MsgInputState
  | .playerState => MsgPlayerState F
  | .playerLeft => MsgPlayerLeft
  | .interestSet => MsgInterestSet F × List CellId
  | .bubbleViolation => MsgBubbleViolation F
  | .actorSpawn => MsgActorSpawn F
  | .actorState => MsgActorState F
  | .actorDespawn => MsgActorDespawn
  | .fireIntent => MsgFireIntent F
  | .meleeIntent => MsgMeleeIntent
  | .damageResult => MsgDamageResult F
  | .deathEvent => MsgDeathEvent
  | .buildRequest => MsgBuildRequest F
  | .buildResult => MsgBuildResult
  | .objectSpawn => MsgObjectSpawn F
  | .objectMoveReq => MsgObjectMoveRequest F
  | .objectScrapReq => MsgObjectScrapRequest
  | .objectUpdate => MsgObjectUpdate F
  | .objectDespawn => MsgObjectDespawn
  | .dialogueOpen => MsgDialogueOpen
  | .dialogueLine => MsgDialogueLine × Text
  | .dialogueChoices => MsgDialogueChoicesHeader × List (MsgDialogueChoiceRecord × Text)
  | .dialogueSelect => MsgDialogueSelect
  | .dialogueClose => MsgDialogueClose
  | .questUpdate => MsgQuestUpdateHeader × List (MsgQuestObjectiveRecord × Text)

/-- The capacities that a caller of the decoders passes. -/
structure DecodeCaps where
  playerGuid : Nat
  playerName : Nat
  maxItems : UInt16
  maxPerks : UInt16
  maxCells : UInt16
  text : Nat
  maxChoices : UInt16
  maxObjectives : UInt8

/-- The buffers that the endpoints decode into: `MSG_HELLO` in the service, the rest in a client. -/
def receiveCaps : DecodeCaps where
  playerGuid := f4mpMaxPlayerGuidBytes + 1
  playerName := f4mpMaxPlayerNameBytes + 1
  maxItems := 16
  maxPerks := 16
  maxCells := 0
  text := 256
  maxChoices := 12
  maxObjectives := 16

def encodeBody : (type : MessageType) → Body F type → Write
  | .hello, (m, playerGuid, playerName) => encodeMsgHello m playerGuid playerName
  | .welcome, m => encodeMsgWelcome m
  | .ping, m => encodeMsgPing m
  | .pong, m => encodeMsgPong m
  | .disconnect, m => encodeMsgDisconnect m
  | .profileSnapshot, m => encodeMsgProfileSnapshot m
  | .profileItems, (h, items) => encodeMsgProfileItems h items
  | .profilePerks, (h, perks) => encodeMsgProfilePerks h perks
  | .profileAppearance, m => encodeMsgProfileAppearance m
  | .inputState, m => encodeMsgInputState m
  | .playerState, m => encodeMsgPlayerState m
  | .playerLeft, m => encodeMsgPlayerLeft m
  | .interestSet, (m, cells) => encodeMsgInterestSet m cells
  | .bubbleViolation, m => encodeMsgBubbleViolation m
  | .actorSpawn, m => encodeMsgActorSpawn m
  | .actorState, m => encodeMsgActorState m
  | .actorDespawn, m => encodeMsgActorDespawn m
  | .fireIntent, m => encodeMsgFireIntent m
  | .meleeIntent, m => encodeMsgMeleeIntent m
  | .damageResult, m => encodeMsgDamageResult m
  | .deathEvent, m => encodeMsgDeathEvent m
  | .buildRequest, m => encodeMsgBuildRequest m
  | .buildResult, m => encodeMsgBuildResult m
  | .objectSpawn, m => encodeMsgObjectSpawn m
  | .objectMoveReq, m => encodeMsgObjectMoveRequest m
  | .objectScrapReq, m => encodeMsgObjectScrapRequest m
  | .objectUpdate, m => encodeMsgObjectUpdate m
  | .objectDespawn, m => encodeMsgObjectDespawn m
  | .dialogueOpen, m => encodeMsgDialogueOpen m
  | .dialogueLine, (m, text) => encodeMsgDialogueLine m (some text)
  | .dialogueChoices, (h, choices) =>
      encodeMsgDialogueChoices h (choices.map Prod.fst) (textPointers choices)
  | .dialogueSelect, m => encodeMsgDialogueSelect m
  | .dialogueClose, m => encodeMsgDialogueClose m
  | .questUpdate, (h, objs) => encodeMsgQuestUpdate h (objs.map Prod.fst) (textPointers objs)

def decodeBody (caps : DecodeCaps) : (type : MessageType) → Read (Body F type)
  | .hello => decodeMsgHello caps.playerGuid caps.playerName
  | .welcome => decodeMsgWelcome
  | .ping => decodeMsgPing
  | .pong => decodeMsgPong
  | .disconnect => decodeMsgDisconnect
  | .profileSnapshot => decodeMsgProfileSnapshot
  | .profileItems => decodeMsgProfileItems caps.maxItems
  | .profilePerks => decodeMsgProfilePerks caps.maxPerks
  | .profileAppearance => decodeMsgProfileAppearance
  | .inputState => decodeMsgInputState
  | .playerState => decodeMsgPlayerState
  | .playerLeft => decodeMsgPlayerLeft
  | .interestSet => decodeMsgInterestSet caps.maxCells
  | .bubbleViolation => decodeMsgBubbleViolation
  | .actorSpawn => decodeMsgActorSpawn
  | .actorState => decodeMsgActorState
  | .actorDespawn => decodeMsgActorDespawn
  | .fireIntent => decodeMsgFireIntent
  | .meleeIntent => decodeMsgMeleeIntent
  | .damageResult => decodeMsgDamageResult
  | .deathEvent => decodeMsgDeathEvent
  | .buildRequest => decodeMsgBuildRequest
  | .buildResult => decodeMsgBuildResult
  | .objectSpawn => decodeMsgObjectSpawn
  | .objectMoveReq => decodeMsgObjectMoveRequest
  | .objectScrapReq => decodeMsgObjectScrapRequest
  | .objectUpdate => decodeMsgObjectUpdate
  | .objectDespawn => decodeMsgObjectDespawn
  | .dialogueOpen => decodeMsgDialogueOpen
  | .dialogueLine => decodeMsgDialogueLine caps.text
  | .dialogueChoices => decodeMsgDialogueChoices caps.maxChoices
  | .dialogueSelect => decodeMsgDialogueSelect
  | .dialogueClose => decodeMsgDialogueClose
  | .questUpdate => decodeMsgQuestUpdate caps.maxObjectives

/-- The bytes a body takes on the wire. -/
def bodySize : (type : MessageType) → Body F type → Nat
  | .hello, (_, playerGuid, playerName) => 12 + playerGuid.length + playerName.length
  | .welcome, _ => 12
  | .ping, _ => 4
  | .pong, _ => 4
  | .disconnect, _ => 1
  | .profileSnapshot, _ => 24
  | .profileItems, (_, items) => 4 + 12 * items.length
  | .profilePerks, (_, perks) => 4 + 8 * perks.length
  | .profileAppearance, _ => 8
  | .inputState, _ => 18
  | .playerState, _ => 60
  | .playerLeft, _ => 4
  | .interestSet, (_, cells) => 20 + 4 * cells.length
  | .bubbleViolation, _ => 16
  | .actorSpawn, _ => 36
  | .actorState, _ => 40
  | .actorDespawn, _ => 8
  | .fireIntent, _ => 40
  | .meleeIntent, _ => 16
  | .damageResult, _ => 20
  | .deathEvent, _ => 12
  | .buildRequest, _ => 44
  | .buildResult, _ => 12
  | .objectSpawn, _ => 36
  | .objectMoveReq, _ => 36
  | .objectScrapReq, _ => 12
  | .objectUpdate, _ => 36
  | .objectDespawn, _ => 8
  | .dialogueOpen, _ => 12
  | .dialogueLine, (_, text) => 10 + text.length
  | .dialogueChoices, (_, choices) => 8 + (choices.map fun choice => 10 + choice.2.length).sum
  | .dialogueSelect, _ => 8
  | .dialogueClose, _ => 8
  | .questUpdate, (_, objs) => 8 + (objs.map fun obj => 10 + obj.2.length).sum

/-- The values a decoder given `caps` can return. -/
def WithinCaps (caps : DecodeCaps) : (type : MessageType) → Body F type → Prop
  | .hello, (_, playerGuid, playerName) =>
      playerGuid.Fits caps.playerGuid ∧ playerName.Fits caps.playerName
  | .profileItems, (h, items) => items.length = h.itemCount.toNat ∧ h.itemCount ≤ caps.maxItems
  | .profilePerks, (h, perks) => perks.length = h.perkCount.toNat ∧ h.perkCount ≤ caps.maxPerks
  | .interestSet, (m, cells) => cells.length = m.cellCount.toNat ∧ m.cellCount ≤ caps.maxCells
  | .buildResult, m => m.accepted = 0 ∨ m.accepted = 1
  | .dialogueLine, (_, text) => text.Fits caps.text
  | .dialogueChoices, (h, choices) => choices.length = h.choiceCount.toNat ∧
      h.choiceCount ≤ caps.maxChoices ∧ ∀ choice ∈ choices, choice.2.Fits 256
  | .questUpdate, (h, objs) => objs.length = h.objectiveCount.toNat ∧
      h.objectiveCount ≤ caps.maxObjectives ∧ ∀ obj ∈ objs, obj.2.Fits 256
  | _, _ => True

/-- The strings whose length the encoder has to put into 16 bits. -/
def stringsShort : (type : MessageType) → Body F type → Prop
  | .hello, (_, playerGuid, playerName) => playerGuid.length ≤ 65535 ∧ playerName.length ≤ 65535
  | .dialogueLine, (_, text) => text.length ≤ 65535
  | _, _ => True

theorem body_roundTrips [LawfulWireFloat F] {caps : DecodeCaps} {type : MessageType}
    {body : Body F type} (within : WithinCaps caps type body) (short : stringsShort type body) :
    RoundTrips (encodeBody type body) (decodeBody caps type) body (bodySize type body) := by
  cases type with
  | hello => exact msgHello_roundTrips body.1 within.1 within.2 short.1 short.2
  | welcome => exact msgWelcome_roundTrips body
  | ping => exact msgPing_roundTrips body
  | pong => exact msgPong_roundTrips body
  | disconnect => exact msgDisconnect_roundTrips body
  | profileSnapshot => exact msgProfileSnapshot_roundTrips body
  | profileItems => exact msgProfileItems_roundTrips body.1 within.1 within.2
  | profilePerks => exact msgProfilePerks_roundTrips body.1 within.1 within.2
  | profileAppearance => exact msgProfileAppearance_roundTrips body
  | inputState => exact msgInputState_roundTrips body
  | playerState => exact msgPlayerState_roundTrips body
  | playerLeft => exact msgPlayerLeft_roundTrips body
  | interestSet => exact msgInterestSet_roundTrips body.1 within.1 within.2
  | bubbleViolation => exact msgBubbleViolation_roundTrips body
  | actorSpawn => exact msgActorSpawn_roundTrips body
  | actorState => exact msgActorState_roundTrips body
  | actorDespawn => exact msgActorDespawn_roundTrips body
  | fireIntent => exact msgFireIntent_roundTrips body
  | meleeIntent => exact msgMeleeIntent_roundTrips body
  | damageResult => exact msgDamageResult_roundTrips body
  | deathEvent => exact msgDeathEvent_roundTrips body
  | buildRequest => exact msgBuildRequest_roundTrips body
  | buildResult => exact msgBuildResult_roundTrips body within
  | objectSpawn => exact msgObjectSpawn_roundTrips body
  | objectMoveReq => exact msgObjectMoveRequest_roundTrips body
  | objectScrapReq => exact msgObjectScrapRequest_roundTrips body
  | objectUpdate => exact msgObjectUpdate_roundTrips body
  | objectDespawn => exact msgObjectDespawn_roundTrips body
  | dialogueOpen => exact msgDialogueOpen_roundTrips body
  | dialogueLine => exact msgDialogueLine_roundTrips body.1 within short
  | dialogueChoices => exact msgDialogueChoices_roundTrips body.1 within.1 within.2.1 within.2.2
  | dialogueSelect => exact msgDialogueSelect_roundTrips body
  | dialogueClose => exact msgDialogueClose_roundTrips body
  | questUpdate => exact msgQuestUpdate_roundTrips body.1 within.1 within.2.1 within.2.2

theorem pwWriteStringU16_short {text : Text} {w w' : PacketWriter} (noNul : 0 ∉ text)
    (written : (pwWriteStringU16 text).run w = (some (), w')) : text.length ≤ 65535 := by
  by_contra long
  have whole := cString_whole noNul
  simp only [pwWriteStringU16, whole, if_pos (Nat.not_le.mp long)] at written
  cases written

theorem encodeBody_short {caps : DecodeCaps} {type : MessageType} {body : Body F type}
    {w w' : PacketWriter} (within : WithinCaps caps type body)
    (written : (encodeBody type body).run w = (some (), w')) : stringsShort type body := by
  cases type with
  | hello =>
      obtain ⟨_, _, _, written⟩ := run_bind_inv written
      obtain ⟨_, _, _, written⟩ := run_bind_inv written
      obtain ⟨_, _, guid, name⟩ := run_bind_inv written
      exact ⟨pwWriteStringU16_short within.1.noNul guid, pwWriteStringU16_short within.2.noNul name⟩
  | dialogueLine =>
      obtain ⟨_, _, _, written⟩ := run_bind_inv written
      obtain ⟨_, _, _, text⟩ := run_bind_inv written
      exact pwWriteStringU16_short within.noNul text
  | _ => trivial

/-! ## The wire format -/

/-- A value with an encoder and a decoder of its own. -/
inductive WireKind where
  | packetHeader
  | messageHeader
  | message (type : MessageType)
  deriving DecidableEq

namespace WireKind

abbrev Value (F : Type) : WireKind → Type
  | packetHeader => PacketHeader
  | messageHeader => MessageHeader
  | message type => Body F type

def encode : (kind : WireKind) → Value F kind → Write
  | packetHeader, h => encodePacketHeader h
  | messageHeader, h => encodeMessageHeader h
  | message type, body => encodeBody type body

def decode (caps : DecodeCaps) : (kind : WireKind) → Read (Value F kind)
  | packetHeader => decodePacketHeader
  | messageHeader => decodeMessageHeader
  | message type => decodeBody caps type

def Within (caps : DecodeCaps) : (kind : WireKind) → Value F kind → Prop
  | packetHeader, _ => True
  | messageHeader, _ => True
  | message type, body => WithinCaps caps type body

theorem encode_readable [LawfulWireFloat F] {caps : DecodeCaps} {kind : WireKind}
    {value : Value F kind} {w w' : PacketWriter} (within : Within caps kind value)
    (written : (encode kind value).run w = (some (), w')) :
    ∃ bs, w' = Sink.put w bs ∧ Consumes (decode caps kind) bs value := by
  cases kind with
  | packetHeader =>
      obtain ⟨bs, appended, _, read⟩ := (packetHeader_roundTrips value).read_back written
      exact ⟨bs, appended, read⟩
  | messageHeader =>
      obtain ⟨bs, appended, _, read⟩ := (messageHeader_roundTrips value).read_back written
      exact ⟨bs, appended, read⟩
  | message type =>
      have format := body_roundTrips within (encodeBody_short within written)
      obtain ⟨bs, appended, _, read⟩ := format.read_back written
      exact ⟨bs, appended, read⟩

end WireKind

/-- A decoder at `offset` returns what was encoded there and stops right behind it. -/
theorem wire_roundTrip [LawfulWireFloat F] (kind : WireKind) (value : kind.Value F)
    (caps : DecodeCaps) (w w' : PacketWriter) (within : WireKind.Within caps kind value)
    (written : (WireKind.encode kind value).run w = (some (), w')) :
    ∃ appended, w'.bytes = w.bytes ++ appended ∧ w'.capacity = w.capacity ∧
      (WireKind.decode caps kind).run (prInit appended) =
        (some value, ⟨appended, appended.length, false⟩) ∧
      ∀ before after, (WireKind.decode caps kind).run
          ⟨before ++ appended ++ after, before.length, false⟩ =
        (some value, ⟨before ++ appended ++ after, before.length + appended.length, false⟩) := by
  obtain ⟨appended, put, read⟩ := WireKind.encode_readable within written
  subst put
  have anywhere : ∀ before after, (WireKind.decode caps kind).run
      ⟨before ++ appended ++ after, before.length, false⟩ =
        (some value, ⟨before ++ appended ++ after, before.length + appended.length, false⟩) := by
    intro before after
    refine read ⟨before ++ appended ++ after, before.length, false⟩ ⟨rfl, ?_⟩ ⟨after, ?_⟩
    · simp only [List.length_append]
      omega
    · change appended ++ after = (before ++ appended ++ after).drop before.length
      rw [List.append_assoc, List.drop_left]
  refine ⟨appended, rfl, rfl, ?_, anywhere⟩
  simpa [prInit] using anywhere [] []

/-- Two dialogue choices with their texts. -/
theorem wire_roundTrip_choices :
    let kind : WireKind := .message .dialogueChoices
    let caps : DecodeCaps := ⟨65, 65, 16, 16, 128, 256, 12, 16⟩
    let value : kind.Value Binary32 :=
      (⟨7, 2, 0⟩, [(⟨1, 1, {}⟩, [0x59, 0x65, 0x73]), (⟨2, 0, {}⟩, [])])
    let w' := ((WireKind.encode kind value).run (pwInit 100)).2
    ∃ appended, w'.bytes = (pwInit 100).bytes ++ appended ∧ w'.capacity = (pwInit 100).capacity ∧
      (WireKind.decode caps kind).run (prInit appended) =
        (some value, ⟨appended, appended.length, false⟩) ∧
      ∀ before after, (WireKind.decode caps kind).run
          ⟨before ++ appended ++ after, before.length, false⟩ =
        (some value, ⟨before ++ appended ++ after, before.length + appended.length, false⟩) := by
  intro kind caps value w'
  have fits : ∀ choice ∈ value.2, choice.2.Fits 256 := by
    intro choice inside
    simp only [value, List.mem_cons, List.not_mem_nil, or_false] at inside
    rcases inside with rfl | rfl <;> exact ⟨by decide, by decide⟩
  have written : ((WireKind.encode kind value).run (pwInit 100)).1 = some () := by decide +kernel
  exact wire_roundTrip kind value caps (pwInit 100) w' ⟨rfl, by decide, fits⟩ (run_of_success written)

end F4MP.Protocol

import F4MP.Protocol.Packet

/-!
# Packet codec

`packet_codec.c`. An encoder that takes a record array reads as many elements as its header counts;
a decoder returns the elements it stored in its output array.
-/

namespace F4MP.Protocol
open SoftFloat Wire

variable {F : Type} [WireFloat F]

/-! ## Vectors -/

/-- `RW_VEC3_WRITE` -/
def writeVec3 (v : Vec3f F) : Write := do
  pwWriteF32 v.x
  pwWriteF32 v.y
  pwWriteF32 v.z

/-- `RW_VEC3_READ` -/
def readVec3 : Read (Vec3f F) := do
  let x ← prReadF32
  let y ← prReadF32
  let z ← prReadF32
  return { x, y, z }

/-- `RW_ROT3_WRITE` -/
def writeRot3 (v : Rot3f F) : Write := do
  pwWriteF32 v.pitch
  pwWriteF32 v.yaw
  pwWriteF32 v.roll

/-- `RW_ROT3_READ` -/
def readRot3 : Read (Rot3f F) := do
  let pitch ← prReadF32
  let yaw ← prReadF32
  let roll ← prReadF32
  return { pitch, yaw, roll }

/-! ## Headers -/

def encodePacketHeader (h : PacketHeader) : Write := do
  pwWriteU32 h.magic
  pwWriteU16 h.version
  pwWriteU16 h.flags
  pwWriteU32 h.sessionId
  pwWriteU32 h.sequence
  pwWriteU32 h.ack
  pwWriteU32 h.ackBits
  pwWriteU8 h.messageCount
  pwWritePad3 h.reserved

def decodePacketHeader : Read PacketHeader := do
  let magic ← prReadU32
  let version ← prReadU16
  let flags ← prReadU16
  let sessionId ← prReadU32
  let sequence ← prReadU32
  let ack ← prReadU32
  let ackBits ← prReadU32
  let messageCount ← prReadU8
  let reserved ← prReadPad3
  return { magic, version, flags, sessionId, sequence, ack, ackBits, messageCount, reserved }

def encodeMessageHeader (h : MessageHeader) : Write := do
  pwWriteU16 h.type
  pwWriteU16 h.flags
  pwWriteU16 h.length

def decodeMessageHeader : Read MessageHeader := do
  let type ← prReadU16
  let flags ← prReadU16
  let length ← prReadU16
  return { type, flags, length }

def f4mpValidatePacketHeader (h : PacketHeader) : Bool :=
  h.magic == f4mpMagic && h.version == f4mpVersion && decide (0 < h.messageCount)

def f4mpValidateMessageHeader (h : MessageHeader) : Bool := decide (0 < h.length)

/-! ## Control messages -/

def encodeMsgHello (m : MsgHello) (playerGuid playerName : Text) : Write := do
  pwWriteU32 m.buildHash
  pwWriteU32 m.capabilities
  pwWriteStringU16 playerGuid
  pwWriteStringU16 playerName

def decodeMsgHello (playerGuidCap playerNameCap : Nat) : Read (MsgHello × Text × Text) := do
  let buildHash ← prReadU32
  let capabilities ← prReadU32
  let playerGuid ← prReadStringU16 playerGuidCap
  let playerName ← prReadStringU16 playerNameCap
  return ({ buildHash, capabilities }, playerGuid, playerName)

def encodeMsgWelcome (m : MsgWelcome) : Write := do
  pwWriteU32 m.sessionId
  pwWriteU16 m.playerId
  pwWriteU16 m.tickRate
  pwWriteU32 m.rules

def decodeMsgWelcome : Read MsgWelcome := do
  let sessionId ← prReadU32
  let playerId ← prReadU16
  let tickRate ← prReadU16
  let rules ← prReadU32
  return { sessionId, playerId, tickRate, rules }

def encodeMsgPing (m : MsgPing) : Write := pwWriteU32 m.timeMs

def decodeMsgPing : Read MsgPing := do
  let timeMs ← prReadU32
  return { timeMs }

def encodeMsgPong (m : MsgPong) : Write := pwWriteU32 m.timeMs

def decodeMsgPong : Read MsgPong := do
  let timeMs ← prReadU32
  return { timeMs }

def encodeMsgDisconnect (m : MsgDisconnect) : Write := pwWriteU8 m.reason

def decodeMsgDisconnect : Read MsgDisconnect := do
  let reason ← prReadU8
  return { reason }

def encodeMsgProfileSnapshot (m : MsgProfileSnapshot) : Write := do
  pwWriteU32 m.level
  pwWriteU32 m.xp
  pwWriteU32 m.equippedFormId
  pwWriteU32 m.caps
  pwWriteU8 m.strStat
  pwWriteU8 m.perStat
  pwWriteU8 m.endStat
  pwWriteU8 m.chaStat
  pwWriteU8 m.intStat
  pwWriteU8 m.agiStat
  pwWriteU8 m.lukStat
  pwWriteU8 m.reserved0

def decodeMsgProfileSnapshot : Read MsgProfileSnapshot := do
  let level ← prReadU32
  let xp ← prReadU32
  let equippedFormId ← prReadU32
  let caps ← prReadU32
  let strStat ← prReadU8
  let perStat ← prReadU8
  let endStat ← prReadU8
  let chaStat ← prReadU8
  let intStat ← prReadU8
  let agiStat ← prReadU8
  let lukStat ← prReadU8
  let reserved0 ← prReadU8
  return { level, xp, equippedFormId, caps, strStat, perStat, endStat, chaStat, intStat, agiStat,
           lukStat, reserved0 }

def encodeProfileItemRecord (item : MsgProfileItemRecord) : Write := do
  pwWriteU32 item.formId
  pwWriteU32 item.count
  pwWriteU8 item.equipped
  pwWritePad3 item.reserved0

def decodeProfileItemRecord : Read MsgProfileItemRecord := do
  let formId ← prReadU32
  let count ← prReadU32
  let equipped ← prReadU8
  let reserved0 ← prReadPad3
  return { formId, count, equipped, reserved0 }

def encodeMsgProfileItems (h : MsgProfileItemsHeader) (items : List MsgProfileItemRecord) :
    Write := do
  pwWriteU16 h.itemCount
  pwWriteU16 h.reserved0
  writeEach encodeProfileItemRecord (items.take h.itemCount.toNat)

def decodeMsgProfileItems (maxItems : UInt16) :
    Read (MsgProfileItemsHeader × List MsgProfileItemRecord) := do
  let itemCount ← prReadU16
  let reserved0 ← prReadU16
  if maxItems < itemCount then failure
  else do
    let items ← readTimes decodeProfileItemRecord itemCount.toNat
    return ({ itemCount, reserved0 }, items)

def encodeProfilePerkRecord (perk : MsgProfilePerkRecord) : Write := do
  pwWriteU32 perk.perkFormId
  pwWriteU8 perk.rank
  pwWritePad3 perk.reserved0

def decodeProfilePerkRecord : Read MsgProfilePerkRecord := do
  let perkFormId ← prReadU32
  let rank ← prReadU8
  let reserved0 ← prReadPad3
  return { perkFormId, rank, reserved0 }

def encodeMsgProfilePerks (h : MsgProfilePerksHeader) (perks : List MsgProfilePerkRecord) :
    Write := do
  pwWriteU16 h.perkCount
  pwWriteU16 h.reserved0
  writeEach encodeProfilePerkRecord (perks.take h.perkCount.toNat)

def decodeMsgProfilePerks (maxPerks : UInt16) :
    Read (MsgProfilePerksHeader × List MsgProfilePerkRecord) := do
  let perkCount ← prReadU16
  let reserved0 ← prReadU16
  if maxPerks < perkCount then failure
  else do
    let perks ← readTimes decodeProfilePerkRecord perkCount.toNat
    return ({ perkCount, reserved0 }, perks)

def encodeMsgProfileAppearance (m : MsgProfileAppearance) : Write := do
  pwWriteU8 m.sex
  pwWritePad3 m.reserved0
  pwWriteU32 m.bodyPreset

def decodeMsgProfileAppearance : Read MsgProfileAppearance := do
  let sex ← prReadU8
  let reserved0 ← prReadPad3
  let bodyPreset ← prReadU32
  return { sex, reserved0, bodyPreset }

/-! ## Player messages -/

def encodeMsgInputState (m : MsgInputState) : Write := do
  pwWriteU32 m.clientTick
  pwWriteI8 m.moveX
  pwWriteI8 m.moveY
  pwWriteI16 m.lookYaw
  pwWriteI16 m.lookPitch
  pwWriteU32 m.buttons
  pwWriteU32 m.equippedFormId

def decodeMsgInputState : Read MsgInputState := do
  let clientTick ← prReadU32
  let moveX ← prReadI8
  let moveY ← prReadI8
  let lookYaw ← prReadI16
  let lookPitch ← prReadI16
  let buttons ← prReadU32
  let equippedFormId ← prReadU32
  return { clientTick, moveX, moveY, lookYaw, lookPitch, buttons, equippedFormId }

def encodeMsgPlayerState (m : MsgPlayerState F) : Write := do
  pwWriteU16 m.playerId
  pwWriteU16 m.reserved
  writeVec3 m.position
  writeRot3 m.rotation
  writeVec3 m.velocity
  pwWriteU8 m.stance
  pwWritePad3 m.reserved2
  pwWriteU16 m.animState
  pwWriteU16 m.reserved3
  pwWriteU32 m.equippedFormId
  pwWriteU32 m.stateSequence
  pwWriteU32 m.observedTick

def decodeMsgPlayerState : Read (MsgPlayerState F) := do
  let playerId ← prReadU16
  let reserved ← prReadU16
  let position ← readVec3
  let rotation ← readRot3
  let velocity ← readVec3
  let stance ← prReadU8
  let reserved2 ← prReadPad3
  let animState ← prReadU16
  let reserved3 ← prReadU16
  let equippedFormId ← prReadU32
  let stateSequence ← prReadU32
  let observedTick ← prReadU32
  return { playerId, reserved, position, rotation, velocity, stance, reserved2, animState,
           reserved3, equippedFormId, stateSequence, observedTick }

def encodeMsgPlayerLeft (m : MsgPlayerLeft) : Write := do
  pwWriteU16 m.playerId
  pwWriteU16 m.reserved

def decodeMsgPlayerLeft : Read MsgPlayerLeft := do
  let playerId ← prReadU16
  let reserved ← prReadU16
  return { playerId, reserved }

def encodeMsgInterestSet (m : MsgInterestSet F) (cells : List CellId) : Write := do
  pwWriteF32 m.bubbleCenter.x
  pwWriteF32 m.bubbleCenter.y
  pwWriteF32 m.bubbleCenter.z
  pwWriteF32 m.bubbleRadius
  pwWriteU16 m.cellCount
  pwWriteU16 m.reserved
  writeEach pwWriteU32 (cells.take m.cellCount.toNat)

def decodeMsgInterestSet (maxCells : UInt16) : Read (MsgInterestSet F × List CellId) := do
  let x ← prReadF32
  let y ← prReadF32
  let z ← prReadF32
  let bubbleRadius ← prReadF32
  let cellCount ← prReadU16
  let reserved ← prReadU16
  if maxCells < cellCount then failure
  else do
    let cells ← readTimes prReadU32 cellCount.toNat
    return ({ bubbleCenter := { x, y, z }, bubbleRadius, cellCount, reserved }, cells)

def encodeMsgBubbleViolation (m : MsgBubbleViolation F) : Write := do
  pwWriteU16 m.playerId
  pwWriteU8 m.mode
  pwWriteU8 m.reserved
  writeVec3 m.safePosition

def decodeMsgBubbleViolation : Read (MsgBubbleViolation F) := do
  let playerId ← prReadU16
  let mode ← prReadU8
  let reserved ← prReadU8
  let safePosition ← readVec3
  return { playerId, mode, reserved, safePosition }

/-! ## Actor messages -/

def encodeMsgActorSpawn (m : MsgActorSpawn F) : Write := do
  pwWriteU32 m.actorNetId
  pwWriteU32 m.baseFormId
  writeVec3 m.position
  writeRot3 m.rotation
  pwWriteU8 m.actorKind
  pwWriteU8 m.reserved0
  pwWriteU16 m.flags

def decodeMsgActorSpawn : Read (MsgActorSpawn F) := do
  let actorNetId ← prReadU32
  let baseFormId ← prReadU32
  let position ← readVec3
  let rotation ← readRot3
  let actorKind ← prReadU8
  let reserved0 ← prReadU8
  let flags ← prReadU16
  return { actorNetId, baseFormId, position, rotation, actorKind, reserved0, flags }

def encodeMsgActorState (m : MsgActorState F) : Write := do
  pwWriteU32 m.actorNetId
  writeVec3 m.position
  writeRot3 m.rotation
  pwWriteF32 m.healthNorm
  pwWriteU16 m.animState
  pwWriteU16 m.actorFlags
  pwWriteU32 m.targetNetId

def decodeMsgActorState : Read (MsgActorState F) := do
  let actorNetId ← prReadU32
  let position ← readVec3
  let rotation ← readRot3
  let healthNorm ← prReadF32
  let animState ← prReadU16
  let actorFlags ← prReadU16
  let targetNetId ← prReadU32
  return { actorNetId, position, rotation, healthNorm, animState, actorFlags, targetNetId }

def encodeMsgActorDespawn (m : MsgActorDespawn) : Write := do
  pwWriteU32 m.actorNetId
  pwWriteU8 m.reason
  pwWritePad3 m.reserved0

def decodeMsgActorDespawn : Read MsgActorDespawn := do
  let actorNetId ← prReadU32
  let reason ← prReadU8
  let reserved0 ← prReadPad3
  return { actorNetId, reason, reserved0 }

/-! ## Combat messages -/

def encodeMsgFireIntent (m : MsgFireIntent F) : Write := do
  pwWriteU16 m.playerId
  pwWriteU16 m.reserved0
  pwWriteU32 m.weaponFormId
  writeVec3 m.origin
  writeVec3 m.direction
  pwWriteU8 m.mode
  pwWritePad3 m.reserved1
  pwWriteU32 m.fireFlags

def decodeMsgFireIntent : Read (MsgFireIntent F) := do
  let playerId ← prReadU16
  let reserved0 ← prReadU16
  let weaponFormId ← prReadU32
  let origin ← readVec3
  let direction ← readVec3
  let mode ← prReadU8
  let reserved1 ← prReadPad3
  let fireFlags ← prReadU32
  return { playerId, reserved0, weaponFormId, origin, direction, mode, reserved1, fireFlags }

def encodeMsgMeleeIntent (m : MsgMeleeIntent) : Write := do
  pwWriteU16 m.playerId
  pwWriteU16 m.reserved0
  pwWriteU32 m.weaponFormId
  pwWriteU32 m.targetHintNetId
  pwWriteU32 m.meleeFlags

def decodeMsgMeleeIntent : Read MsgMeleeIntent := do
  let playerId ← prReadU16
  let reserved0 ← prReadU16
  let weaponFormId ← prReadU32
  let targetHintNetId ← prReadU32
  let meleeFlags ← prReadU32
  return { playerId, reserved0, weaponFormId, targetHintNetId, meleeFlags }

def encodeMsgDamageResult (m : MsgDamageResult F) : Write := do
  pwWriteU32 m.attackerId
  pwWriteU32 m.victimActorNetId
  pwWriteF32 m.damageAmount
  pwWriteU8 m.damageType
  pwWriteU8 m.reserved0
  pwWriteU16 m.flags
  pwWriteF32 m.healthAfter

def decodeMsgDamageResult : Read (MsgDamageResult F) := do
  let attackerId ← prReadU32
  let victimActorNetId ← prReadU32
  let damageAmount ← prReadF32
  let damageType ← prReadU8
  let reserved0 ← prReadU8
  let flags ← prReadU16
  let healthAfter ← prReadF32
  return { attackerId, victimActorNetId, damageAmount, damageType, reserved0, flags, healthAfter }

def encodeMsgDeathEvent (m : MsgDeathEvent) : Write := do
  pwWriteU32 m.victimActorNetId
  pwWriteU32 m.killerId
  pwWriteU32 m.ragdollSeed

def decodeMsgDeathEvent : Read MsgDeathEvent := do
  let victimActorNetId ← prReadU32
  let killerId ← prReadU32
  let ragdollSeed ← prReadU32
  return { victimActorNetId, killerId, ragdollSeed }

/-! ## Workshop messages -/

def encodeMsgBuildRequest (m : MsgBuildRequest F) : Write := do
  pwWriteU32 m.requestId
  pwWriteU16 m.playerId
  pwWriteU16 m.reserved0
  pwWriteU32 m.settlementId
  pwWriteU32 m.formId
  writeVec3 m.position
  writeRot3 m.rotation
  pwWriteU32 m.snapTargetNetId

def decodeMsgBuildRequest : Read (MsgBuildRequest F) := do
  let requestId ← prReadU32
  let playerId ← prReadU16
  let reserved0 ← prReadU16
  let settlementId ← prReadU32
  let formId ← prReadU32
  let position ← readVec3
  let rotation ← readRot3
  let snapTargetNetId ← prReadU32
  return { requestId, playerId, reserved0, settlementId, formId, position, rotation,
           snapTargetNetId }

def encodeMsgBuildResult (m : MsgBuildResult) : Write := do
  pwWriteU32 m.requestId
  pwWriteBool (m.accepted ≠ 0)
  pwWriteU8 m.reason
  pwWriteU16 m.reserved0
  pwWriteU32 m.objectNetId

def decodeMsgBuildResult : Read MsgBuildResult := do
  let requestId ← prReadU32
  let b ← prReadBool
  let accepted : UInt8 := if b then 1 else 0
  let reason ← prReadU8
  let reserved0 ← prReadU16
  let objectNetId ← prReadU32
  return { requestId, accepted, reason, reserved0, objectNetId }

def encodeMsgObjectSpawn (m : MsgObjectSpawn F) : Write := do
  pwWriteU32 m.objectNetId
  pwWriteU32 m.formId
  writeVec3 m.position
  writeRot3 m.rotation
  pwWriteU16 m.stateFlags
  pwWriteU16 m.reserved0

def decodeMsgObjectSpawn : Read (MsgObjectSpawn F) := do
  let objectNetId ← prReadU32
  let formId ← prReadU32
  let position ← readVec3
  let rotation ← readRot3
  let stateFlags ← prReadU16
  let reserved0 ← prReadU16
  return { objectNetId, formId, position, rotation, stateFlags, reserved0 }

def encodeMsgObjectMoveRequest (m : MsgObjectMoveRequest F) : Write := do
  pwWriteU32 m.requestId
  pwWriteU16 m.playerId
  pwWriteU16 m.reserved0
  pwWriteU32 m.objectNetId
  writeVec3 m.position
  writeRot3 m.rotation

def decodeMsgObjectMoveRequest : Read (MsgObjectMoveRequest F) := do
  let requestId ← prReadU32
  let playerId ← prReadU16
  let reserved0 ← prReadU16
  let objectNetId ← prReadU32
  let position ← readVec3
  let rotation ← readRot3
  return { requestId, playerId, reserved0, objectNetId, position, rotation }

def encodeMsgObjectScrapRequest (m : MsgObjectScrapRequest) : Write := do
  pwWriteU32 m.requestId
  pwWriteU16 m.playerId
  pwWriteU16 m.reserved0
  pwWriteU32 m.objectNetId

def decodeMsgObjectScrapRequest : Read MsgObjectScrapRequest := do
  let requestId ← prReadU32
  let playerId ← prReadU16
  let reserved0 ← prReadU16
  let objectNetId ← prReadU32
  return { requestId, playerId, reserved0, objectNetId }

def encodeMsgObjectUpdate (m : MsgObjectUpdate F) : Write := do
  pwWriteU32 m.objectNetId
  pwWriteU32 m.fieldsMask
  writeVec3 m.position
  writeRot3 m.rotation
  pwWriteU16 m.stateFlags
  pwWriteU16 m.reserved0

def decodeMsgObjectUpdate : Read (MsgObjectUpdate F) := do
  let objectNetId ← prReadU32
  let fieldsMask ← prReadU32
  let position ← readVec3
  let rotation ← readRot3
  let stateFlags ← prReadU16
  let reserved0 ← prReadU16
  return { objectNetId, fieldsMask, position, rotation, stateFlags, reserved0 }

def encodeMsgObjectDespawn (m : MsgObjectDespawn) : Write := do
  pwWriteU32 m.objectNetId
  pwWriteU8 m.reason
  pwWritePad3 m.reserved0

def decodeMsgObjectDespawn : Read MsgObjectDespawn := do
  let objectNetId ← prReadU32
  let reason ← prReadU8
  let reserved0 ← prReadPad3
  return { objectNetId, reason, reserved0 }

/-! ## Dialogue and quest messages -/

def encodeMsgDialogueOpen (m : MsgDialogueOpen) : Write := do
  pwWriteU32 m.dialogueId
  pwWriteU32 m.npcActorNetId
  pwWriteU32 m.speakerActorNetId

def decodeMsgDialogueOpen : Read MsgDialogueOpen := do
  let dialogueId ← prReadU32
  let npcActorNetId ← prReadU32
  let speakerActorNetId ← prReadU32
  return { dialogueId, npcActorNetId, speakerActorNetId }

def encodeMsgDialogueLine (m : MsgDialogueLine) (text : Option Text) : Write := do
  pwWriteU32 m.dialogueId
  pwWriteU32 m.speakerActorNetId
  pwWriteStringU16 (text.getD [])

def decodeMsgDialogueLine (textCap : Nat) : Read (MsgDialogueLine × Text) := do
  let dialogueId ← prReadU32
  let speakerActorNetId ← prReadU32
  let text ← prReadStringU16 textCap
  return ({ dialogueId, speakerActorNetId }, text)

/-- A `const char* const*` argument: NULL, or an array of pointers each of which may be NULL. -/
abbrev TextPointers := Option (List (Option Text))

/-- `texts && texts[i] ? texts[i] : ""` for the first `count` elements. -/
def textsOrEmpty (texts : TextPointers) (count : Nat) : List Text :=
  (List.range count).map fun i => ((texts.bind fun array => array[i]?.join).getD [])

def encodeDialogueChoice (choice : MsgDialogueChoiceRecord × Text) : Write := do
  pwWriteU32 choice.1.choiceId
  pwWriteU8 choice.1.enabled
  pwWritePad3 choice.1.reserved0
  pwWriteStringU16 choice.2

def decodeDialogueChoice : Read (MsgDialogueChoiceRecord × Text) := do
  let choiceId ← prReadU32
  let enabled ← prReadU8
  let reserved0 ← prReadPad3
  let text ← prReadStringU16 256
  return ({ choiceId, enabled, reserved0 }, text)

def encodeMsgDialogueChoices (h : MsgDialogueChoicesHeader)
    (choices : List MsgDialogueChoiceRecord) (texts : TextPointers) : Write := do
  pwWriteU32 h.dialogueId
  pwWriteU16 h.choiceCount
  pwWriteU16 h.reserved0
  writeEach encodeDialogueChoice (choices.zip (textsOrEmpty texts h.choiceCount.toNat))

def decodeMsgDialogueChoices (maxChoices : UInt16) :
    Read (MsgDialogueChoicesHeader × List (MsgDialogueChoiceRecord × Text)) := do
  let dialogueId ← prReadU32
  let choiceCount ← prReadU16
  let reserved0 ← prReadU16
  if maxChoices < choiceCount then failure
  else do
    let choices ← readTimes decodeDialogueChoice choiceCount.toNat
    return ({ dialogueId, choiceCount, reserved0 }, choices)

def encodeMsgDialogueSelect (m : MsgDialogueSelect) : Write := do
  pwWriteU32 m.dialogueId
  pwWriteU32 m.choiceId

def decodeMsgDialogueSelect : Read MsgDialogueSelect := do
  let dialogueId ← prReadU32
  let choiceId ← prReadU32
  return { dialogueId, choiceId }

def encodeMsgDialogueClose (m : MsgDialogueClose) : Write := do
  pwWriteU32 m.dialogueId
  pwWriteU8 m.reason
  pwWritePad3 m.reserved0

def decodeMsgDialogueClose : Read MsgDialogueClose := do
  let dialogueId ← prReadU32
  let reason ← prReadU8
  let reserved0 ← prReadPad3
  return { dialogueId, reason, reserved0 }

def encodeQuestObjective (obj : MsgQuestObjectiveRecord × Text) : Write := do
  pwWriteU32 obj.1.objectiveId
  pwWriteU8 obj.1.state
  pwWritePad3 obj.1.reserved0
  pwWriteStringU16 obj.2

def decodeQuestObjective : Read (MsgQuestObjectiveRecord × Text) := do
  let objectiveId ← prReadU32
  let state ← prReadU8
  let reserved0 ← prReadPad3
  let text ← prReadStringU16 256
  return ({ objectiveId, state, reserved0 }, text)

def encodeMsgQuestUpdate (h : MsgQuestUpdateHeader) (objs : List MsgQuestObjectiveRecord)
    (texts : TextPointers) : Write := do
  pwWriteU32 h.questId
  pwWriteU16 h.stage
  pwWriteU8 h.tracked
  pwWriteU8 h.objectiveCount
  writeEach encodeQuestObjective (objs.zip (textsOrEmpty texts h.objectiveCount.toNat))

def decodeMsgQuestUpdate (maxObjectives : UInt8) :
    Read (MsgQuestUpdateHeader × List (MsgQuestObjectiveRecord × Text)) := do
  let questId ← prReadU32
  let stage ← prReadU16
  let tracked ← prReadU8
  let objectiveCount ← prReadU8
  if maxObjectives < objectiveCount then failure
  else do
    let objs ← readTimes decodeQuestObjective objectiveCount.toNat
    return ({ questId, stage, tracked, objectiveCount }, objs)

end F4MP.Protocol

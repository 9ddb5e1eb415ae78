import Mathlib

/-!
# Wire types

The packed structures, identifiers and flag values of `shared/protocol`. A `float` field has the
type `F`; an array of three reserved bytes is a `Pad3`.
-/

namespace F4MP.Protocol

abbrev SessionId := UInt32
abbrev PlayerId := UInt16
abbrev NetId := UInt32
abbrev ActorNetId := UInt32
abbrev ObjectNetId := UInt32
abbrev RequestId := UInt32
abbrev CellId := UInt32
abbrev DialogueId := UInt32
abbrev QuestId := UInt32
abbrev ObjectiveId := UInt32

/-- A `char` buffer or string literal as its bytes. -/
abbrev Text := List UInt8

structure Vec3f (F : Type) where
  x : F
  y : F
  z : F
  deriving DecidableEq

structure Rot3f (F : Type) where
  pitch : F
  yaw : F
  roll : F
  deriving DecidableEq

structure Pad3 where
  b0 : UInt8 := 0
  b1 : UInt8 := 0
  b2 : UInt8 := 0
  deriving DecidableEq

/-! ## Constants -/

def f4mpMagic : UInt32 := 0x504D3446
def f4mpVersion : UInt16 := 0x0001
def f4mpMaxPacketSize : Nat := 1400
def f4mpMaxPlayerNameBytes : Nat := 64
def f4mpMaxPlayerGuidBytes : Nat := 64

/-- `sizeof(PacketHeader)` -/
def packetHeaderSize : Nat := 28
/-- `sizeof(MessageHeader)` -/
def messageHeaderSize : Nat := 6

inductive MessageType where
  | hello | welcome | ping | pong | disconnect
  | profileSnapshot | profileItems | profilePerks | profileAppearance
  | inputState | playerState | playerLeft | interestSet | bubbleViolation
  | actorSpawn | actorState | actorDespawn
  | fireIntent | meleeIntent | damageResult | deathEvent
  | buildRequest | buildResult | objectSpawn | objectMoveReq | objectScrapReq | objectUpdate
  | objectDespawn
  | dialogueOpen | dialogueLine | dialogueChoices | dialogueSelect | dialogueClose
  | questUpdate
  deriving DecidableEq

namespace MessageType

def code : MessageType → UInt16
  | hello => 0x0001
  | welcome => 0x0002
  | ping => 0x0003
  | pong => 0x0004
  | disconnect => 0x0005
  | profileSnapshot => 0x0006
  | profileItems => 0x0007
  | profilePerks => 0x0008
  | profileAppearance => 0x0009
  | inputState => 0x0101
  | playerState => 0x0102
  | playerLeft => 0x0105
  | interestSet => 0x0103
  | bubbleViolation => 0x0104
  | actorSpawn => 0x0201
  | actorState => 0x0202
  | actorDespawn => 0x0203
  | fireIntent => 0x0301
  | meleeIntent => 0x0302
  | damageResult => 0x0303
  | deathEvent => 0x0304
  | buildRequest => 0x0401
  | buildResult => 0x0402
  | objectSpawn => 0x0403
  | objectMoveReq => 0x0404
  | objectScrapReq => 0x0405
  | objectUpdate => 0x0406
  | objectDespawn => 0x0407
  | dialogueOpen => 0x0501
  | dialogueLine => 0x0502
  | dialogueChoices => 0x0503
  | dialogueSelect => 0x0504
  | dialogueClose => 0x0505
  | questUpdate => 0x0601

def all : List MessageType :=
  [hello, welcome, ping, pong, disconnect, profileSnapshot, profileItems, profilePerks,
    profileAppearance, inputState, playerState, playerLeft, interestSet, bubbleViolation,
    actorSpawn, actorState, actorDespawn, fireIntent, meleeIntent, damageResult, deathEvent,
    buildRequest, buildResult, objectSpawn, objectMoveReq, objectScrapReq, objectUpdate,
    objectDespawn, dialogueOpen, dialogueLine, dialogueChoices, dialogueSelect, dialogueClose,
    questUpdate]

/-- The case of a `switch` over the type field of a message header. -/
def ofCode? (type : UInt16) : Option MessageType := all.find? fun t => t.code == type

@[simp] theorem ofCode?_code (t : MessageType) : ofCode? t.code = some t := by
  cases t <;> decide

end MessageType

namespace MessageFlags
def reliable : UInt16 := 1
def ordered : UInt16 := 2
def ch0Control : UInt16 := 0
def ch1World : UInt16 := 0x100
def ch2Combat : UInt16 := 0x200
def ch3Work : UInt16 := 0x300
def ch4Ui : UInt16 := 0x400
end MessageFlags

namespace ActorStateFlags
def hostile : UInt16 := 1
def dead : UInt16 := 2
end ActorStateFlags

namespace DamageResultFlags
def killed : UInt16 := 0x20
end DamageResultFlags

namespace ObjectUpdateFields
def position : UInt32 := 1
def rotation : UInt32 := 2
def stateFlags : UInt32 := 4
end ObjectUpdateFields

namespace ObjectStateFlags
def placedByPlayer : UInt16 := 1
def moved : UInt16 := 2
end ObjectStateFlags

namespace SessionRules
def bubbleOnly : UInt32 := 1
def hostAuthCombat : UInt32 := 4
def hostAuthWorkshop : UInt32 := 8
def guestProfileEnabled : UInt32 := 16
def questMirrorEnabled : UInt32 := 64
end SessionRules

namespace BuildResultReason
def ok : UInt8 := 0
def deniedGeneric : UInt8 := 1
def budgetExceeded : UInt8 := 5
end BuildResultReason

namespace DialogueCloseReason
def ended : UInt8 := 0
def interrupted : UInt8 := 2
end DialogueCloseReason

namespace QuestObjectiveState
def active : UInt8 := 0
def completed : UInt8 := 1
def failed : UInt8 := 2
end QuestObjectiveState

def actorKindCreature : UInt8 := 1
def adespawnDead : UInt8 := 3
def odespawnScrapped : UInt8 := 0
def dmgBallistic : UInt8 := 0

/-! ## Headers -/

structure PacketHeader where
  magic : UInt32 := 0
  version : UInt16 := 0
  flags : UInt16 := 0
  sessionId : UInt32 := 0
  sequence : UInt32 := 0
  ack : UInt32 := 0
  ackBits : UInt32 := 0
  messageCount : UInt8 := 0
  reserved : Pad3 := {}
  deriving DecidableEq

structure MessageHeader where
  type : UInt16 := 0
  flags : UInt16 := 0
  length : UInt16 := 0
  deriving DecidableEq

/-! ## Control messages -/

structure MsgHello where
  buildHash : UInt32
  capabilities : UInt32
  deriving DecidableEq

structure MsgProfileSnapshot where
  level : UInt32 := 0
  xp : UInt32 := 0
  equippedFormId : UInt32 := 0
  caps : UInt32 := 0
  strStat : UInt8 := 0
  perStat : UInt8 := 0
  endStat : UInt8 := 0
  chaStat : UInt8 := 0
  intStat : UInt8 := 0
  agiStat : UInt8 := 0
  lukStat : UInt8 := 0
  reserved0 : UInt8 := 0
  deriving DecidableEq

structure MsgProfileItemsHeader where
  itemCount : UInt16 := 0
  reserved0 : UInt16 := 0
  deriving DecidableEq

structure MsgProfileItemRecord where
  formId : UInt32 := 0
  count : UInt32 := 0
  equipped : UInt8 := 0
  reserved0 : Pad3 := {}
  deriving DecidableEq

structure MsgProfilePerksHeader where
  perkCount : UInt16 := 0
  reserved0 : UInt16 := 0
  deriving DecidableEq

structure MsgProfilePerkRecord where
  perkFormId : UInt32 := 0
  rank : UInt8 := 0
  reserved0 : Pad3 := {}
  deriving DecidableEq

structure MsgProfileAppearance where
  sex : UInt8 := 0
  reserved0 : Pad3 := {}
  bodyPreset : UInt32 := 0
  deriving DecidableEq

structure MsgWelcome where
  sessionId : SessionId
  playerId : PlayerId
  tickRate : UInt16
  rules : UInt32
  deriving DecidableEq

structure MsgPing where
  timeMs : UInt32
  deriving DecidableEq

structure MsgPong where
  timeMs : UInt32 := 0
  deriving DecidableEq

structure MsgDisconnect where
  reason : UInt8
  deriving DecidableEq

/-! ## Player messages -/

structure MsgInputState where
  clientTick : UInt32
  moveX : Int8
  moveY : Int8
  lookYaw : Int16
  lookPitch : Int16
  buttons : UInt32
  equippedFormId : UInt32
  deriving DecidableEq

structure MsgPlayerState (F : Type) where
  playerId : PlayerId
  reserved : UInt16
  position : Vec3f F
  rotation : Rot3f F
  velocity : Vec3f F
  stance : UInt8
  reserved2 : Pad3
  animState : UInt16
  reserved3 : UInt16
  equippedFormId : UInt32
  stateSequence : UInt32
  observedTick : UInt32
  deriving DecidableEq

structure MsgPlayerLeft where
  playerId : PlayerId := 0
  reserved : UInt16 := 0
  deriving DecidableEq

structure MsgInterestSet (F : Type) where
  bubbleCenter : Vec3f F
  bubbleRadius : F
  cellCount : UInt16
  reserved : UInt16
  deriving DecidableEq

structure MsgBubbleViolation (F : Type) where
  playerId : PlayerId
  mode : UInt8
  reserved : UInt8
  safePosition : Vec3f F
  deriving DecidableEq

/-! ## Actor messages -/

structure MsgActorSpawn (F : Type) where
  actorNetId : ActorNetId
  baseFormId : UInt32
  position : Vec3f F
  rotation : Rot3f F
  actorKind : UInt8
  reserved0 : UInt8 := 0
  flags : UInt16
  deriving DecidableEq

structure MsgActorState (F : Type) where
  actorNetId : ActorNetId
  position : Vec3f F
  rotation : Rot3f F
  healthNorm : F
  animState : UInt16
  actorFlags : UInt16
  targetNetId : NetId
  deriving DecidableEq

structure MsgActorDespawn where
  actorNetId : ActorNetId := 0
  reason : UInt8 := 0
  reserved0 : Pad3 := {}
  deriving DecidableEq

/-! ## Combat messages -/

structure MsgFireIntent (F : Type) where
  playerId : PlayerId
  reserved0 : UInt16
  weaponFormId : UInt32
  origin : Vec3f F
  direction : Vec3f F
  mode : UInt8
  reserved1 : Pad3
  fireFlags : UInt32
  deriving DecidableEq

structure MsgMeleeIntent where
  playerId : PlayerId
  reserved0 : UInt16
  weaponFormId : UInt32
  targetHintNetId : ActorNetId
  meleeFlags : UInt32
  deriving DecidableEq

structure MsgDamageResult (F : Type) where
  attackerId : UInt32
  victimActorNetId : ActorNetId
  damageAmount : F
  damageType : UInt8
  reserved0 : UInt8
  flags : UInt16
  healthAfter : F
  deriving DecidableEq

structure MsgDeathEvent where
  victimActorNetId : ActorNetId := 0
  killerId : UInt32 := 0
  ragdollSeed : UInt32 := 0
  deriving DecidableEq

/-! ## Workshop messages -/

structure MsgBuildRequest (F : Type) where
  requestId : RequestId
  playerId : PlayerId
  reserved0 : UInt16
  settlementId : UInt32
  formId : UInt32
  position : Vec3f F
  rotation : Rot3f F
  snapTargetNetId : ObjectNetId
  deriving DecidableEq

structure MsgBuildResult where
  requestId : RequestId
  accepted : UInt8
  reason : UInt8
  reserved0 : UInt16
  objectNetId : ObjectNetId
  deriving DecidableEq

structure MsgObjectSpawn (F : Type) where
  objectNetId : ObjectNetId
  formId : UInt32
  position : Vec3f F
  rotation : Rot3f F
  stateFlags : UInt16
  reserved0 : UInt16 := 0
  deriving DecidableEq

structure MsgObjectMoveRequest (F : Type) where
  requestId : RequestId
  playerId : PlayerId
  reserved0 : UInt16
  objectNetId : ObjectNetId
  position : Vec3f F
  rotation : Rot3f F
  deriving DecidableEq

structure MsgObjectScrapRequest where
  requestId : RequestId
  playerId : PlayerId
  reserved0 : UInt16
  objectNetId : ObjectNetId
  deriving DecidableEq

structure MsgObjectUpdate (F : Type) where
  objectNetId : ObjectNetId
  fieldsMask : UInt32
  position : Vec3f F
  rotation : Rot3f F
  stateFlags : UInt16
  reserved0 : UInt16 := 0
  deriving DecidableEq

structure MsgObjectDespawn where
  objectNetId : ObjectNetId := 0
  reason : UInt8 := 0
  reserved0 : Pad3 := {}
  deriving DecidableEq

/-! ## Dialogue and quest messages -/

structure MsgDialogueOpen where
  dialogueId : DialogueId := 0
  npcActorNetId : ActorNetId := 0
  speakerActorNetId : ActorNetId := 0
  deriving DecidableEq

structure MsgDialogueLine where
  dialogueId : DialogueId := 0
  speakerActorNetId : ActorNetId := 0
  deriving DecidableEq

structure MsgDialogueChoicesHeader where
  dialogueId : DialogueId := 0
  choiceCount : UInt16 := 0
  reserved0 : UInt16 := 0
  deriving DecidableEq

structure MsgDialogueChoiceRecord where
  choiceId : UInt32 := 0
  enabled : UInt8 := 0
  reserved0 : Pad3 := {}
  deriving DecidableEq

structure MsgDialogueSelect where
  dialogueId : DialogueId := 0
  choiceId : UInt32 := 0
  deriving DecidableEq

structure MsgDialogueClose where
  dialogueId : DialogueId := 0
  reason : UInt8 := 0
  reserved0 : Pad3 := {}
  deriving DecidableEq

structure MsgQuestUpdateHeader where
  questId : QuestId := 0
  stage : UInt16 := 0
  tracked : UInt8 := 0
  objectiveCount : UInt8 := 0
  deriving DecidableEq

structure MsgQuestObjectiveRecord where
  objectiveId : ObjectiveId := 0
  state : UInt8 := 0
  reserved0 : Pad3 := {}
  deriving DecidableEq

end F4MP.Protocol

import F4MP.Service.State

/-!
# Proxy runtime

`proxy_runtime.c`: what a client shows of the session. Its `find_*_slot` gives the slot that holds an
id or else a free one; a change through a free slot does nothing, and so a change is a change of the
slot that holds the id.
-/

namespace F4MP.Client
open SoftFloat CFloat Protocol Service

variable {F : Type} [CFloat F]

/-! ## Records -/

structure ProxyPlayerRecord (F : Type) where
  inUse : Bool
  playerId : PlayerId
  proxyNetId : NetId
  proxyBaseFormId : UInt32
  position : Vec3f F
  rotation : Rot3f F
  velocity : Vec3f F
  stance : UInt8
  animState : UInt16
  equippedFormId : UInt32
  lastStateSequence : UInt32
  lastObservedTick : UInt32

structure ProxyActorRecord (F : Type) where
  inUse : Bool
  actorNetId : ActorNetId
  baseFormId : UInt32
  actorKind : UInt8
  flags : UInt16
  position : Vec3f F
  rotation : Rot3f F
  healthNorm : F
  animState : UInt16
  actorFlags : UInt16
  targetNetId : NetId
  isDead : Bool
  lastDamageFrom : UInt32
  lastDamageAmount : F

structure ProxyObjectRecord (F : Type) where
  inUse : Bool
  objectNetId : ObjectNetId
  formId : UInt32
  position : Vec3f F
  rotation : Rot3f F
  stateFlags : UInt16

def ProxyPlayerRecord.zero : ProxyPlayerRecord F :=
  ⟨false, 0, 0, 0, zeroVec, zeroRot, zeroVec, 0, 0, 0, 0, 0⟩

def ProxyActorRecord.zero : ProxyActorRecord F :=
  ⟨false, 0, 0, 0, 0, zeroVec, zeroRot, lit 0 1, 0, 0, 0, false, 0, lit 0 1⟩

def ProxyObjectRecord.zero : ProxyObjectRecord F := ⟨false, 0, 0, zeroVec, zeroRot, 0⟩

instance : Slots.Slot (ProxyPlayerRecord F) PlayerId := ⟨(·.inUse), (·.playerId)⟩
instance : Slots.Slot (ProxyActorRecord F) ActorNetId := ⟨(·.inUse), (·.actorNetId)⟩
instance : Slots.Slot (ProxyObjectRecord F) ObjectNetId := ⟨(·.inUse), (·.objectNetId)⟩

abbrev PlayerProxies (F : Type) := Slots.Table 8 (ProxyPlayerRecord F)
abbrev ActorProxies (F : Type) := Slots.Table 128 (ProxyActorRecord F)
abbrev ObjectProxies (F : Type) := Slots.Table 256 (ProxyObjectRecord F)

structure ProxyProfileState where
  loaded : Bool := false
  snapshot : MsgProfileSnapshot := {}
  itemCount : UInt16 := 0
  items : Fin maxProfileRecords → ProfileItem := fun _ => {}
  perkCount : UInt16 := 0
  perks : Fin maxProfileRecords → ProfilePerk := fun _ => {}
  appearance : MsgProfileAppearance := {}

structure ProxyCombatState (F : Type) where
  loaded : Bool
  lastDamage : MsgDamageResult F
  hasLastDeath : Bool
  lastDeath : MsgDeathEvent

structure ProxyDialogueState where
  active : Bool := false
  dialogueId : DialogueId := 0
  npcActorNetId : ActorNetId := 0
  speakerActorNetId : ActorNetId := 0
  currentLine : Text := []
  choiceCount : UInt16 := 0
  choices : Fin maxDialogueChoices → SessionDialogueChoiceState := fun _ => {}
  lastSelectedChoiceId : UInt32 := 0
  closeReason : UInt8 := 0

/-! ## Players -/

structure ProxyPlayerSpawnSpec (F : Type) where
  playerId : PlayerId
  proxyNetId : NetId
  proxyBaseFormId : UInt32
  position : Vec3f F
  rotation : Rot3f F
  equippedFormId : UInt32

structure ProxyPlayerUpdateSpec (F : Type) where
  playerId : PlayerId
  position : Vec3f F
  rotation : Rot3f F
  velocity : Vec3f F
  stance : UInt8
  animState : UInt16
  equippedFormId : UInt32

def proxySpawnPlayer (spec : ProxyPlayerSpawnSpec F) (players : PlayerProxies F) :
    Bool × PlayerProxies F :=
  let record := { ProxyPlayerRecord.zero with
    inUse := true
    playerId := spec.playerId
    proxyNetId := spec.proxyNetId
    proxyBaseFormId := spec.proxyBaseFormId
    position := spec.position
    rotation := spec.rotation
    equippedFormId := spec.equippedFormId }
  match players.store record with
  | some players => (true, players)
  | none => (false, players)

def proxyUpdatePlayer (spec : ProxyPlayerUpdateSpec F) (players : PlayerProxies F) :
    Bool × PlayerProxies F :=
  (players.slots.any (Slots.holds spec.playerId),
    players.modifyFirst (Slots.holds spec.playerId) fun s => { s with
      position := spec.position
      rotation := spec.rotation
      velocity := spec.velocity
      stance := spec.stance
      animState := spec.animState
      equippedFormId := spec.equippedFormId
      lastStateSequence := 0
      lastObservedTick := 0 })

def proxyDespawnPlayer (playerId : PlayerId) (players : PlayerProxies F) :
    Bool × PlayerProxies F :=
  (players.slots.any (Slots.holds playerId),
    players.modifyFirst (Slots.holds playerId) fun _ => .zero)

/-! ## Actors -/

structure ProxyActorSpawnSpec (F : Type) where
  actorNetId : ActorNetId
  baseFormId : UInt32 := 0
  position : Vec3f F
  rotation : Rot3f F
  actorKind : UInt8 := 0
  flags : UInt16 := 0

structure ProxyActorUpdateSpec (F : Type) where
  actorNetId : ActorNetId
  position : Vec3f F
  rotation : Rot3f F
  healthNorm : F
  animState : UInt16
  actorFlags : UInt16
  targetNetId : NetId

def spawnedActor (spec : ProxyActorSpawnSpec F) : ProxyActorRecord F :=
  { ProxyActorRecord.zero with
    inUse := true
    actorNetId := spec.actorNetId
    baseFormId := spec.baseFormId
    position := spec.position
    rotation := spec.rotation
    actorKind := spec.actorKind
    flags := spec.flags
    healthNorm := lit 1 1 }

def proxySpawnActor (spec : ProxyActorSpawnSpec F) (actors : ActorProxies F) :
    Bool × ActorProxies F :=
  match actors.store (spawnedActor spec) with
  | some actors => (true, actors)
  | none => (false, actors)

def ProxyActorRecord.update (spec : ProxyActorUpdateSpec F) (s : ProxyActorRecord F) :
    ProxyActorRecord F :=
  { s with
    position := spec.position
    rotation := spec.rotation
    healthNorm := spec.healthNorm
    animState := spec.animState
    actorFlags := spec.actorFlags
    targetNetId := spec.targetNetId
    isDead := if lt (lit 0 1) spec.healthNorm then false else s.isDead }

def proxyUpdateActor (spec : ProxyActorUpdateSpec F) (actors : ActorProxies F) :
    Bool × ActorProxies F :=
  (actors.slots.any (Slots.holds spec.actorNetId),
    actors.modifyFirst (Slots.holds spec.actorNetId) (.update spec))

def ProxyActorRecord.damage (msg : MsgDamageResult F) (actor : ProxyActorRecord F) :
    ProxyActorRecord F :=
  let killed := msg.flags &&& DamageResultFlags.killed != 0 || le msg.healthAfter (lit 0 1)
  { actor with
    healthNorm := msg.healthAfter
    lastDamageFrom := msg.attackerId
    lastDamageAmount := msg.damageAmount
    isDead := if killed then true else actor.isDead }

def ProxyActorRecord.die (actor : ProxyActorRecord F) : ProxyActorRecord F :=
  { actor with isDead := true, healthNorm := lit 0 1 }

/-! ## Objects -/

def proxySpawnObject (msg : MsgObjectSpawn F) (objects : ObjectProxies F) :
    Bool × ObjectProxies F :=
  let record : ProxyObjectRecord F :=
    ⟨true, msg.objectNetId, msg.formId, msg.position, msg.rotation, msg.stateFlags⟩
  match objects.store record with
  | some objects => (true, objects)
  | none => (false, objects)

def ProxyObjectRecord.update (msg : MsgObjectUpdate F) (s : ProxyObjectRecord F) :
    ProxyObjectRecord F :=
  { s with
    position := if msg.fieldsMask &&& ObjectUpdateFields.position ≠ 0 then msg.position
      else s.position
    rotation := if msg.fieldsMask &&& ObjectUpdateFields.rotation ≠ 0 then msg.rotation
      else s.rotation
    stateFlags := if msg.fieldsMask &&& ObjectUpdateFields.stateFlags ≠ 0 then msg.stateFlags
      else s.stateFlags }

def proxyUpdateObject (msg : MsgObjectUpdate F) (objects : ObjectProxies F) :
    Bool × ObjectProxies F :=
  (objects.slots.any (Slots.holds msg.objectNetId),
    objects.modifyFirst (Slots.holds msg.objectNetId) (.update msg))

def proxyDespawnObject (objectNetId : ObjectNetId) (objects : ObjectProxies F) :
    Bool × ObjectProxies F :=
  (objects.slots.any (Slots.holds objectNetId),
    objects.modifyFirst (Slots.holds objectNetId) fun _ => .zero)

/-! ## Profile -/

def proxySetProfileItems (h : MsgProfileItemsHeader) (items : List MsgProfileItemRecord)
    (profile : ProxyProfileState) : ProxyProfileState :=
  let count := min h.itemCount 16
  { profile with
    itemCount := count
    items := fun i =>
      if i.val < count.toNat then
        let item := items.getD i.val {}
        ⟨item.formId, item.count, item.equipped⟩
      else profile.items i }

def proxySetProfilePerks (h : MsgProfilePerksHeader) (perks : List MsgProfilePerkRecord)
    (profile : ProxyProfileState) : ProxyProfileState :=
  let count := min h.perkCount 16
  { profile with
    perkCount := count
    perks := fun i =>
      if i.val < count.toNat then
        let perk := perks.getD i.val {}
        ⟨perk.perkFormId, perk.rank⟩
      else profile.perks i }

/-! ## Dialogue and quest -/

/-- What the end of an actor does to a dialogue it takes part in. -/
def ProxyDialogueState.interrupt (actorNetId : ActorNetId) (dialogue : ProxyDialogueState) :
    ProxyDialogueState :=
  if dialogue.active &&
      (dialogue.npcActorNetId == actorNetId || dialogue.speakerActorNetId == actorNetId) then
    { dialogue with
      active := false
      closeReason := DialogueCloseReason.interrupted
      choiceCount := 0
      currentLine := [] }
  else dialogue

def proxySetDialogueOpen (msg : MsgDialogueOpen) : ProxyDialogueState where
  active := true
  dialogueId := msg.dialogueId
  npcActorNetId := msg.npcActorNetId
  speakerActorNetId := msg.speakerActorNetId

def proxySetDialogueLine (msg : MsgDialogueLine) (text : Text) (dialogue : ProxyDialogueState) :
    ProxyDialogueState :=
  { dialogue with
    active := true
    dialogueId := msg.dialogueId
    speakerActorNetId := msg.speakerActorNetId
    currentLine := strncpyField 256 text }

def proxySetDialogueChoices (h : MsgDialogueChoicesHeader)
    (choices : List (MsgDialogueChoiceRecord × Text)) (dialogue : ProxyDialogueState) :
    ProxyDialogueState :=
  let count := min h.choiceCount 12
  { dialogue with
    active := true
    dialogueId := h.dialogueId
    choiceCount := count
    choices := fun i =>
      if i.val < count.toNat then
        let (choice, text) := choices.getD i.val ({}, [])
        ⟨choice.choiceId, choice.enabled, strncpyField 256 text⟩
      else dialogue.choices i }

def proxySetDialogueClose (msg : MsgDialogueClose) (dialogue : ProxyDialogueState) :
    ProxyDialogueState :=
  if dialogue.dialogueId = msg.dialogueId then
    { dialogue with active := false, closeReason := msg.reason, choiceCount := 0, currentLine := [] }
  else dialogue

def proxySetQuestUpdate (h : MsgQuestUpdateHeader) (objs : List (MsgQuestObjectiveRecord × Text)) :
    SessionQuestState :=
  let count := min h.objectiveCount 16
  { loaded := true
    questId := h.questId
    stage := h.stage
    tracked := h.tracked
    objectiveCount := count
    objectives := fun i =>
      if i.val < count.toNat then
        let (obj, text) := objs.getD i.val ({}, [])
        ⟨obj.objectiveId, obj.state, strncpyField 256 text⟩
      else {} }

end F4MP.Client

import F4MP.Library.SoftFloat
import F4MP.Library.Slots
import F4MP.Protocol.Packet

/-!
# Service state

`service_state_models.h`, `session_registry.h`, `transport_session_state.h` and `transport_loop.h`,
with the file-level variables of `session_registry.c`, `authority_core.c` and
`workshop_whitelist.c` as fields.
-/

namespace F4MP.Service
open SoftFloat Protocol

variable {F : Type} [CFloat F]

/-! ## Values that `memset` leaves -/

def zeroVec : Vec3f F := ⟨CFloat.lit 0 1, CFloat.lit 0 1, CFloat.lit 0 1⟩

def zeroRot : Rot3f F := ⟨CFloat.lit 0 1, CFloat.lit 0 1, CFloat.lit 0 1⟩

def zeroPlayerState : MsgPlayerState F :=
  ⟨0, 0, zeroVec, zeroRot, zeroVec, 0, {}, 0, 0, 0, 0, 0⟩

def zeroActorState : MsgActorState F := ⟨0, zeroVec, zeroRot, CFloat.lit 0 1, 0, 0, 0⟩

/-- `strncpy(field, text, sizeof(field) - 1)` into a field whose last byte stays zero. -/
def strncpyField (size : Nat) (text : Text) : Text := (cString text).take (size - 1)

theorem strncpyField_kept (size : Nat) (text : Text) :
    strncpyField size (strncpyField size text) = strncpyField size text := by
  have noNul : 0 ∉ (cString text).take (size - 1) := fun inside =>
    cString_noNul text (List.mem_of_mem_take inside)
  rw [strncpyField, strncpyField, cString_whole noNul, List.take_take, min_self]

/-! ## Players -/

structure PlayerProfileRef where
  playerGuid : Text := []
  displayName : Text := []
  deriving DecidableEq

structure ProfileItem where
  formId : UInt32 := 0
  count : UInt32 := 0
  equipped : UInt8 := 0
  deriving DecidableEq

structure ProfilePerk where
  perkFormId : UInt32 := 0
  rank : UInt8 := 0
  deriving DecidableEq

/-- `F4MP_MAX_PROFILE_ITEMS` and `F4MP_MAX_PROFILE_PERKS` -/
abbrev maxProfileRecords : Nat := 16

/-- The fields of `PlayerProfileData` that `PlayerProfileSnapshot` copies, with counts that the
profile loader has clamped. -/
structure PlayerProfile where
  level : UInt32 := 0
  xp : UInt32 := 0
  equippedFormId : UInt32 := 0
  caps : UInt32 := 0
  strStat : UInt8 := 0
  perStat : UInt8 := 0
  endStat : UInt8 := 0
  chaStat : UInt8 := 0
  intStat : UInt8 := 0
  agiStat : UInt8 := 0
  lukStat : UInt8 := 0
  itemCount : UInt16 := 0
  items : Fin maxProfileRecords → ProfileItem := fun _ => {}
  perkCount : UInt16 := 0
  perks : Fin maxProfileRecords → ProfilePerk := fun _ => {}
  sex : UInt8 := 0
  bodyPreset : UInt32 := 0
  itemCount_le : itemCount.toNat ≤ maxProfileRecords := by decide
  perkCount_le : perkCount.toNat ≤ maxProfileRecords := by decide

structure PlayerProfileSnapshot extends PlayerProfile where
  loaded : Bool := false

structure PlayerStateRelayStats where
  acceptedCount : UInt32 := 0
  rejectedStaleCount : UInt32 := 0
  rejectedRegressiveTickCount : UInt32 := 0
  lastSequence : UInt32 := 0
  lastObservedTick : UInt32 := 0
  deriving DecidableEq

structure PlayerRuntimeState (F : Type) where
  connected : Bool
  playerId : PlayerId
  connectionId : UInt32
  replicatedState : MsgPlayerState F
  lastInputTick : UInt32 := 0
  lastHeardTick : UInt32 := 0
  relayStats : PlayerStateRelayStats := {}
  profileRef : PlayerProfileRef := {}
  profileSnapshot : PlayerProfileSnapshot := {}

def PlayerRuntimeState.zero : PlayerRuntimeState F := ⟨false, 0, 0, zeroPlayerState, 0, 0, {}, {}, {}⟩

/-- `F4MP_MAX_PLAYERS_PER_SESSION` -/
def maxPlayersPerSession : Nat := 8

/-- `players[F4MP_MAX_PLAYERS_PER_SESSION]` -/
structure PlayerTable (F : Type) where
  slots : List (PlayerRuntimeState F)
  size : slots.length = maxPlayersPerSession

namespace PlayerTable

def zero : PlayerTable F := ⟨List.replicate maxPlayersPerSession .zero, by simp⟩

def modifyFirst (p : PlayerRuntimeState F → Bool)
    (f : PlayerRuntimeState F → PlayerRuntimeState F) (table : PlayerTable F) : PlayerTable F :=
  ⟨Slots.modifyFirst p f table.slots, by rw [Slots.length_modifyFirst, table.size]⟩

end PlayerTable

/-! ## Actors, objects and settlements -/

structure ActorRuntimeState (F : Type) where
  inUse : Bool
  actorNetId : ActorNetId
  baseFormId : UInt32
  replicatedState : MsgActorState F
  actorKind : UInt8
  spawnFlags : UInt16
  authorityOwnedByHost : Bool
  pendingDespawn : Bool

def ActorRuntimeState.zero : ActorRuntimeState F := ⟨false, 0, 0, zeroActorState, 0, 0, false, false⟩

structure ObjectRuntimeState (F : Type) where
  inUse : Bool
  objectNetId : ObjectNetId
  formId : UInt32
  settlementId : UInt32
  position : Vec3f F
  rotation : Rot3f F
  stateFlags : UInt16
  ownerPlayerId : PlayerId

def ObjectRuntimeState.zero : ObjectRuntimeState F := ⟨false, 0, 0, 0, zeroVec, zeroRot, 0, 0⟩

structure SettlementState (F : Type) where
  inUse : Bool
  settlementId : UInt32
  center : Vec3f F
  allowedRadius : F
  objectCount : UInt32
  objectBudget : UInt32

instance : Slots.Slot (ActorRuntimeState F) ActorNetId := ⟨(·.inUse), (·.actorNetId)⟩
instance : Slots.Slot (ObjectRuntimeState F) ObjectNetId := ⟨(·.inUse), (·.objectNetId)⟩
instance : Slots.Slot (SettlementState F) UInt32 := ⟨(·.inUse), (·.settlementId)⟩

abbrev maxActorsPerSession : Nat := 4096
abbrev maxObjectsPerSession : Nat := 8192
abbrev maxSettlements : Nat := 64

structure BubbleState (F : Type) where
  center : Vec3f F
  radius : F

/-- The trace callback gives its result and the `blocked` it has written. -/
structure WorldTraceProvider (F : Type) where
  traceFn : Option (Vec3f F → Vec3f F → Bool × Bool)
  defaultClearWhenUnset : Bool

/-! ## Dialogue and quest mirrors -/

abbrev maxDialogueChoices : Nat := 12
abbrev maxQuestObjectives : Nat := 16

structure SessionDialogueChoiceState where
  choiceId : UInt32 := 0
  enabled : UInt8 := 0
  text : Text := []
  deriving DecidableEq

structure SessionDialogueState where
  active : Bool := false
  dialogueId : DialogueId := 0
  npcActorNetId : ActorNetId := 0
  speakerActorNetId : ActorNetId := 0
  currentLine : Text := []
  choiceCount : UInt16 := 0
  choices : Fin maxDialogueChoices → SessionDialogueChoiceState := fun _ => {}
  lastSelectedChoiceId : UInt32 := 0
  lastSelectedByPlayer : PlayerId := 0
  closeReason : UInt8 := 0

structure SessionQuestObjectiveState where
  objectiveId : ObjectiveId := 0
  state : UInt8 := 0
  text : Text := []
  deriving DecidableEq

structure SessionQuestState where
  loaded : Bool := false
  questId : QuestId := 0
  stage : UInt16 := 0
  tracked : UInt8 := 0
  objectiveCount : UInt8 := 0
  objectives : Fin maxQuestObjectives → SessionQuestObjectiveState := fun _ => {}

/-! ## Session -/

structure SessionState (F : Type) where
  sessionId : SessionId
  rules : UInt32
  tickRate : UInt16
  connectedCount : UInt16
  bubble : BubbleState F
  traceProvider : WorldTraceProvider F
  dialogue : SessionDialogueState
  quest : SessionQuestState
  players : PlayerTable F
  actors : Slots.Table maxActorsPerSession (ActorRuntimeState F)
  objects : Slots.Table maxObjectsPerSession (ObjectRuntimeState F)
  settlements : Slots.Table maxSettlements (SettlementState F)

structure SessionRegistryEntry where
  inUse : Bool
  playerGuid : Text
  playerId : PlayerId
  deriving DecidableEq

instance : Slots.Slot SessionRegistryEntry Text := ⟨(·.inUse), (·.playerGuid)⟩

/-- `g_registry[F4MP_MAX_REGISTRY]` -/
abbrev Registry := Slots.Table 32 SessionRegistryEntry

/-! ## Transport -/

structure TransportEnvelope where
  connectionId : UInt32
  bytes : List UInt8
  deriving DecidableEq

structure TransportOutput where
  connectionId : UInt32
  bytes : List UInt8
  deriving DecidableEq

structure TransportSessionState where
  sessionId : SessionId
  lastRxSequence : UInt32
  lastTxSequence : UInt32
  connected : Bool
  deriving DecidableEq

/-- `TransportLoopContext` without the pointer to its session. -/
structure TransportLoopContext where
  transport : TransportSessionState
  outputs : List TransportOutput
  hasPendingDialogueSelect : Bool
  pendingDialoguePlayerId : PlayerId
  pendingDialogueSelect : MsgDialogueSelect
  currentTick : UInt32
  playerTimeoutTicks : UInt32
  deriving DecidableEq

/-- Everything the service keeps. -/
structure ServiceState (F : Type) where
  ctx : TransportLoopContext
  session : SessionState F
  registry : Registry
  nextObjectId : ObjectNetId
  nextActorId : ActorNetId
  whitelist : List UInt32

end F4MP.Service

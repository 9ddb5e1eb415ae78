import F4MP.Service.State

/-!
# Stores of the service

`service_indices.c`, `world_state_store.c`, `session_registry.c` and `session_manager.c`. A function
that returns a pointer into the session is given the change its caller makes through it.
-/

namespace F4MP.Service
open SoftFloat Protocol

variable {F : Type}

/-! ## Finding records -/

def findPlayer (s : SessionState F) (playerId : PlayerId) : Option (PlayerRuntimeState F) :=
  s.players.slots.find? fun p => p.connected && p.playerId == playerId

def updatePlayer (s : SessionState F) (playerId : PlayerId)
    (f : PlayerRuntimeState F → PlayerRuntimeState F) : SessionState F :=
  { s with players := s.players.modifyFirst (fun p => p.connected && p.playerId == playerId) f }

def findActor (s : SessionState F) (actorNetId : ActorNetId) : Option (ActorRuntimeState F) :=
  Slots.lookup actorNetId s.actors.slots

def findObject (s : SessionState F) (objectNetId : ObjectNetId) : Option (ObjectRuntimeState F) :=
  Slots.lookup objectNetId s.objects.slots

def updateObject (s : SessionState F) (objectNetId : ObjectNetId)
    (f : ObjectRuntimeState F → ObjectRuntimeState F) : SessionState F :=
  { s with objects := s.objects.modifyFirst (Slots.holds objectNetId) f }

def findSettlement (s : SessionState F) (settlementId : UInt32) : Option (SettlementState F) :=
  Slots.lookup settlementId s.settlements.slots

def updateSettlement (s : SessionState F) (settlementId : UInt32)
    (f : SettlementState F → SettlementState F) : SessionState F :=
  { s with settlements := s.settlements.modifyFirst (Slots.holds settlementId) f }

/-! ## World state -/

section World
variable [CFloat F]

def wsInitSession (sessionId : SessionId) (rules : UInt32) (tickRate : UInt16) : SessionState F where
  sessionId
  rules
  tickRate
  connectedCount := 0
  bubble := ⟨zeroVec, CFloat.lit 0 1⟩
  traceProvider := ⟨none, true⟩
  dialogue := {}
  quest := {}
  players := .zero
  actors := .empty
  objects := .empty
  settlements := .empty

def wsAllocPlayer (s : SessionState F) (playerId : PlayerId) (connectionId : UInt32) :
    Option (SessionState F) :=
  if s.players.slots.any (!·.connected) then
    let joined := { PlayerRuntimeState.zero with connected := true, playerId, connectionId }
    some { s with
      players := s.players.modifyFirst (!·.connected) fun _ => joined
      connectedCount := s.connectedCount + 1 }
  else none

def wsAllocActor (s : SessionState F) (actorNetId : ActorNetId) (baseFormId : UInt32)
    (actorKind : UInt8) (fill : ActorRuntimeState F → ActorRuntimeState F) :
    Option (SessionState F) :=
  let actor := { ActorRuntimeState.zero with
    inUse := true, actorNetId, baseFormId, actorKind, authorityOwnedByHost := true }
  (s.actors.claim Slots.free (fill actor)).map fun actors => { s with actors }

def wsAllocObject (s : SessionState F) (objectNetId : ObjectNetId) (formId settlementId : UInt32)
    (fill : ObjectRuntimeState F → ObjectRuntimeState F) : Option (SessionState F) :=
  let obj := { ObjectRuntimeState.zero with inUse := true, objectNetId, formId, settlementId }
  (s.objects.claim Slots.free (fill obj)).map fun objects => { s with objects }

def wsAllocSettlement (s : SessionState F) (settlementId : UInt32) (center : Vec3f F) (radius : F)
    (budget : UInt32) : Option (SessionState F) :=
  let settlement : SettlementState F := ⟨true, settlementId, center, radius, 0, budget⟩
  (s.settlements.claim Slots.free settlement).map fun settlements => { s with settlements }

def wsRemoveActor (s : SessionState F) (actorNetId : ActorNetId) : SessionState F :=
  { s with actors := s.actors.modifyFirst (Slots.holds actorNetId) fun _ => .zero }

def wsRemoveObject (s : SessionState F) (objectNetId : ObjectNetId) : SessionState F :=
  { s with objects := s.objects.modifyFirst (Slots.holds objectNetId) fun _ => .zero }

end World

/-! ## Session registry -/

def srInit : Registry := .empty

def srFindPlayerId (registry : Registry) (playerGuid : Text) : Option PlayerId :=
  (Slots.lookup playerGuid registry.slots).map (·.playerId)

def srBindPlayer (registry : Registry) (playerGuid : Text) (playerId : PlayerId) : Registry :=
  if playerGuid = [] then registry
  else if registry.slots.any (Slots.holds playerGuid) then
    registry.modifyFirst (Slots.holds playerGuid) fun entry => { entry with playerId }
  else
    (registry.claim Slots.free ⟨true, strncpyField 64 playerGuid, playerId⟩).getD registry

/-! ## Session manager -/

section Manager
variable [CFloat F]

def smJoinSession (s : SessionState F) (playerId : PlayerId) (connectionId : UInt32) :
    Option (SessionState F) :=
  wsAllocPlayer s playerId connectionId

/-- `sm_remove_player`: the slot is found by its id alone. -/
def smRemovePlayer (s : SessionState F) (playerId : PlayerId) : SessionState F :=
  { s with
    players := s.players.modifyFirst (·.playerId == playerId) fun p =>
      { p with connected := false, connectionId := 0 } }

/-- `sm_reconnect_player`: the slot is found by its id alone. -/
def smReconnectPlayer (s : SessionState F) (playerId : PlayerId) (connectionId : UInt32) :
    Option (SessionState F) :=
  if s.players.slots.any (·.playerId == playerId) then
    some { s with
      players := s.players.modifyFirst (·.playerId == playerId) fun p =>
        { p with connected := true, connectionId } }
  else none

end Manager

end F4MP.Service

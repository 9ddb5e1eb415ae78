import F4MP.Service.Store

/-!
# Authority

`combat_geometry.c`, `world_trace_provider.c`, `authority_validation.c` and `authority_core.c`.
-/

namespace F4MP.Service
open SoftFloat CFloat Protocol

variable {F : Type} [CFloat F]

/-! ## Geometry -/

def sqrf (v : F) : F := mul v v

def vecSub (a b : Vec3f F) : Vec3f F := ⟨sub a.x b.x, sub a.y b.y, sub a.z b.z⟩

def distanceSq (a b : Vec3f F) : F :=
  add (add (sqrf (sub a.x b.x)) (sqrf (sub a.y b.y))) (sqrf (sub a.z b.z))

structure CombatGeometryConfig (F : Type) where
  maxRange : F
  minDot : F

def avDefaultCombatGeometry : CombatGeometryConfig F := ⟨lit 4096 1, lit 35 100⟩

def cgLengthSq (v : Vec3f F) : F := add (add (mul v.x v.x) (mul v.y v.y)) (mul v.z v.z)

def cgDot (a b : Vec3f F) : F := add (add (mul a.x b.x) (mul a.y b.y)) (mul a.z b.z)

def cgNormalize (v : Vec3f F) : Option (Vec3f F) :=
  let len2 := cgLengthSq v
  if lt len2 (lit 1 10000) then none
  else
    let inv := div (lit 1 1) (sqrt len2)
    some ⟨mul v.x inv, mul v.y inv, mul v.z inv⟩

/-- `cg_target_within_cone`, with the score of a target that is. -/
def cgTargetWithinCone (origin dirNormalized target : Vec3f F) (cfg : CombatGeometryConfig F) :
    Option F :=
  let toTarget := vecSub target origin
  let dist2 := cgLengthSq toTarget
  if lt dist2 (lit 1 10000) then none
  else
    let dist := sqrt dist2
    if lt cfg.maxRange dist then none
    else
      let dot := cgDot dirNormalized ⟨div toTarget.x dist, div toTarget.y dist, div toTarget.z dist⟩
      if lt dot cfg.minDot then none
      else some (sub dot (div dist cfg.maxRange))

def wtpTraceAllows (p : WorldTraceProvider F) (origin target : Vec3f F) : Bool :=
  match p.traceFn with
  | none => p.defaultClearWhenUnset
  | some traceFn =>
      let (traced, blocked) := traceFn origin target
      traced && !blocked

/-! ## Validation -/

def workshopWhitelistContains (whitelist : List UInt32) (formId : UInt32) : Bool :=
  whitelist.contains formId

def validatePlayerInsideBubble (s : SessionState F) (playerId : PlayerId) : Bool :=
  match findPlayer s playerId with
  | none => false
  | some p => p.connected &&
      le (distanceSq p.replicatedState.position s.bubble.center) (mul s.bubble.radius s.bubble.radius)

def insideSettlement (settlement : SettlementState F) (position : Vec3f F) : Bool :=
  !lt (mul settlement.allowedRadius settlement.allowedRadius) (distanceSq position settlement.center)

def validateBuildRequest (s : SessionState F) (whitelist : List UInt32) (req : MsgBuildRequest F) :
    Bool :=
  if s.rules &&& SessionRules.hostAuthWorkshop = 0 then false
  else if (findPlayer s req.playerId).isNone then false
  else
    match findSettlement s req.settlementId with
    | none => false
    | some settlement =>
        if settlement.objectBudget ≤ settlement.objectCount then false
        else if !insideSettlement settlement req.position then false
        else if !workshopWhitelistContains whitelist req.formId then false
        else if req.snapTargetNetId ≠ 0 then
          match findObject s req.snapTargetNetId with
          | none => false
          | some obj => obj.settlementId == req.settlementId
        else true

def validateFireIntent (s : SessionState F) (req : MsgFireIntent F) : Bool :=
  if s.rules &&& SessionRules.hostAuthCombat = 0 then false
  else if (findPlayer s req.playerId).isNone then false
  else if !validatePlayerInsideBubble s req.playerId then false
  else if req.weaponFormId = 0 then false
  else if lt (add (add (sqrf req.direction.x) (sqrf req.direction.y)) (sqrf req.direction.z))
      (lit 1 10000) then false
  else
    match cgNormalize req.direction with
    | none => false
    | some dir =>
        let target : Vec3f F := ⟨add req.origin.x (mul dir.x (lit 1024 1)),
          add req.origin.y (mul dir.y (lit 1024 1)), add req.origin.z (mul dir.z (lit 1024 1))⟩
        wtpTraceAllows s.traceProvider req.origin target

def validateObjectMoveRequest (s : SessionState F) (req : MsgObjectMoveRequest F) : Bool :=
  if s.rules &&& SessionRules.hostAuthWorkshop = 0 then false
  else if (findPlayer s req.playerId).isNone then false
  else
    match findObject s req.objectNetId with
    | none => false
    | some obj =>
        match findSettlement s obj.settlementId with
        | none => false
        | some settlement => insideSettlement settlement req.position

def validateObjectScrapRequest (s : SessionState F) (req : MsgObjectScrapRequest) : Bool :=
  if s.rules &&& SessionRules.hostAuthWorkshop = 0 then false
  else if (findPlayer s req.playerId).isNone then false
  else (findObject s req.objectNetId).isSome

/-! ## Authority -/

def acHandleInputState (s : SessionState F) (msg : MsgInputState) (playerId : PlayerId) :
    Option (SessionState F) :=
  if (findPlayer s playerId).isSome then
    some <| updatePlayer s playerId fun p => { p with
      lastInputTick := msg.clientTick
      replicatedState := { p.replicatedState with equippedFormId := msg.equippedFormId }
      profileSnapshot := { p.profileSnapshot with equippedFormId := msg.equippedFormId } }
  else none

/-- What `MSG_INPUT_STATE` writes into the slot. -/
def PlayerRuntimeState.input (msg : MsgInputState) (p : PlayerRuntimeState F) :
    PlayerRuntimeState F :=
  { p with
    lastInputTick := msg.clientTick
    replicatedState := { p.replicatedState with equippedFormId := msg.equippedFormId }
    profileSnapshot := { p.profileSnapshot with equippedFormId := msg.equippedFormId } }

/-- `ac_spawn_hostile_actor`, with the id it takes from `g_next_actor_id`. -/
def acSpawnHostileActor (s : SessionState F) (nextActorId : ActorNetId) (baseFormId : UInt32)
    (position : Vec3f F) (rotation : Rot3f F) : Option (SessionState F) :=
  wsAllocActor s nextActorId baseFormId actorKindCreature fun a => { a with
    replicatedState := { a.replicatedState with
      actorNetId := a.actorNetId
      position
      rotation
      healthNorm := lit 1 1
      actorFlags := ActorStateFlags.hostile } }

def ActorRuntimeState.dead (a : ActorRuntimeState F) : Bool :=
  a.replicatedState.actorFlags &&& ActorStateFlags.dead != 0

def ActorRuntimeState.hostile (a : ActorRuntimeState F) : Bool :=
  a.replicatedState.actorFlags &&& ActorStateFlags.hostile != 0

/-- One turn of the target loop: the slot index and the score of the best target so far. -/
def considerTarget (origin dir : Vec3f F) (best : Option (Nat × F))
    (slot : ActorRuntimeState F × Nat) : Option (Nat × F) :=
  let (a, i) := slot
  if a.inUse && !a.dead && a.hostile then
    match cgTargetWithinCone origin dir a.replicatedState.position avDefaultCombatGeometry with
    | none => best
    | some totalScore =>
        match best with
        | none => some (i, totalScore)
        | some (_, bestScore) => if lt bestScore totalScore then some (i, totalScore) else best
  else best

def bestTarget (s : SessionState F) (msg : MsgFireIntent F) : Option (Nat × F) :=
  let dir := (cgNormalize msg.direction).getD msg.direction
  s.actors.slots.zipIdx.foldl (considerTarget msg.origin dir) none

/-- The health a hit leaves. -/
def healthAfterHit (health : F) : F :=
  let health := sub health (lit 1 4)
  if lt health (lit 0 1) then lit 0 1 else health

def ActorRuntimeState.hit (a : ActorRuntimeState F) : ActorRuntimeState F :=
  let health := healthAfterHit a.replicatedState.healthNorm
  let flags := a.replicatedState.actorFlags
  { a with
    replicatedState := { a.replicatedState with
      healthNorm := health
      actorFlags := if le health (lit 0 1) then flags ||| ActorStateFlags.dead else flags } }

/-- What `ac_handle_fire_intent` writes through its arguments. -/
structure FireOutcome (F : Type) where
  session : SessionState F
  damage : MsgDamageResult F
  death : Option MsgDeathEvent

/-- `ac_handle_fire_intent`: `none` when the intent is rejected, and a damage result about no
actor when it hits none. -/
def acHandleFireIntent (s : SessionState F) (msg : MsgFireIntent F) : Option (FireOutcome F) :=
  let missed : FireOutcome F := ⟨s, ⟨0, 0, lit 0 1, 0, 0, 0, lit 0 1⟩, none⟩
  if !validateFireIntent s msg then none
  else
    match bestTarget s msg with
    | none => some missed
    | some (i, bestScore) =>
        match s.actors.slots[i]? with
        | none => some missed
        | some target =>
            if le bestScore (lit (-1000) 1) then some missed
            else
              let after := target.hit.replicatedState.healthNorm
              let killed := le after (lit 0 1)
              some {
                session := { s with actors := s.actors.modify i ActorRuntimeState.hit }
                damage := {
                  attackerId := msg.playerId.toUInt32
                  victimActorNetId := target.actorNetId
                  damageAmount := lit 1 4
                  damageType := dmgBallistic
                  reserved0 := 0
                  flags := if killed then DamageResultFlags.killed else 0
                  healthAfter := after }
                death := if killed then
                    some ⟨target.actorNetId, msg.playerId.toUInt32, target.actorNetId ^^^ 0xA5A5A5A5⟩
                  else none }

/-- What `ac_handle_build_request` changes: the session, its result and `g_next_object_id`. -/
structure BuildOutcome (F : Type) where
  session : SessionState F
  result : MsgBuildResult
  nextObjectId : ObjectNetId

def acHandleBuildRequest (s : SessionState F) (whitelist : List UInt32)
    (nextObjectId : ObjectNetId) (msg : MsgBuildRequest F) : BuildOutcome F :=
  if !validateBuildRequest s whitelist msg then
    ⟨s, ⟨msg.requestId, 0, BuildResultReason.deniedGeneric, 0, 0⟩, nextObjectId⟩
  else
    let placed := wsAllocObject s nextObjectId msg.formId msg.settlementId fun obj => { obj with
      position := msg.position
      rotation := msg.rotation
      ownerPlayerId := msg.playerId
      stateFlags := ObjectStateFlags.placedByPlayer }
    match placed with
    | none =>
        ⟨s, ⟨msg.requestId, 0, BuildResultReason.budgetExceeded, 0, 0⟩, nextObjectId + 1⟩
    | some s =>
        let s := updateSettlement s msg.settlementId fun settlement =>
          { settlement with objectCount := settlement.objectCount + 1 }
        ⟨s, ⟨msg.requestId, 1, BuildResultReason.ok, 0, nextObjectId⟩, nextObjectId + 1⟩

def acHandleObjectMove (s : SessionState F) (msg : MsgObjectMoveRequest F) :
    Option (SessionState F) :=
  if !validateObjectMoveRequest s msg then none
  else if (findObject s msg.objectNetId).isNone then none
  else
    some <| updateObject s msg.objectNetId fun obj => { obj with
      position := msg.position
      rotation := msg.rotation
      stateFlags := obj.stateFlags ||| ObjectStateFlags.moved }

def acHandleObjectScrap (s : SessionState F) (msg : MsgObjectScrapRequest) :
    Option (SessionState F) :=
  if !validateObjectScrapRequest s msg then none
  else
    match findObject s msg.objectNetId with
    | none => none
    | some obj =>
        let s := updateSettlement s obj.settlementId fun settlement =>
          if 0 < settlement.objectCount then
            { settlement with objectCount := settlement.objectCount - 1 }
          else settlement
        some (wsRemoveObject s msg.objectNetId)

/-- One turn of the loop of `ac_tick`. -/
def acTickSlot (s : SessionState F) (i : Nat) : SessionState F :=
  match s.actors.slots[i]? with
  | none => s
  | some a =>
      if a.inUse && a.dead then
        if a.pendingDespawn then wsRemoveActor s a.actorNetId
        else { s with actors := s.actors.modify i fun a => { a with pendingDespawn := true } }
      else s

/-- `ac_tick`: the slots behind the written ones are free, and the loop passes over them. -/
def acTick (s : SessionState F) : SessionState F :=
  (List.range s.actors.slots.length).foldl acTickSlot s

end F4MP.Service

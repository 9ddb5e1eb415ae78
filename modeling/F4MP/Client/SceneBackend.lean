import F4MP.Client.ActorDriver
import F4MP.Client.RemoteProxy

/-!
# The scene backend

`fo4_scene_proxy_backend_stub.c`, over the default driver and with `fpalc` disabled. Its slots have
distinct ids, and so a change of the slot that was found is a change of the slot that holds the id.
-/

namespace F4MP.Client
open SoftFloat CFloat Protocol Service

variable {F : Type} [CFloat F]

/-! ## Records -/

inductive Fo4SceneProxyLastCommand where
  | none | spawn | update | despawn
  deriving DecidableEq

structure Fo4SceneProxyPlayerState (F : Type) where
  inUse : Bool
  playerId : PlayerId
  actorHandle : UInt64
  visible : Bool
  despawned : Bool
  lastSpawn : ProxyPlayerSpawnSpec F
  lastUpdate : ProxyPlayerUpdateSpec F
  presentedPosition : Vec3f F
  presentedRotation : Rot3f F
  targetPosition : Vec3f F
  targetRotation : Rot3f F
  transformApplyCount : UInt32
  interpolationTickCount : UInt32
  interpolationPending : Bool
  lastCommand : Fo4SceneProxyLastCommand
  commandSequence : UInt32
  lastUpdateTeleported : Bool
  lastUpdateSmoothedPosition : Bool
  lastUpdateSmoothedRotation : Bool
  lastUpdateSourceDistance : F

/-- The record that `ensure_scene_player_from_spawn` writes. -/
def Fo4SceneProxyPlayerState.spawned (spec : ProxyPlayerSpawnSpec F) (actorHandle : UInt64) :
    Fo4SceneProxyPlayerState F where
  inUse := true
  playerId := spec.playerId
  actorHandle := actorHandle
  visible := true
  despawned := false
  lastSpawn := spec
  lastUpdate := ⟨0, zeroVec, zeroRot, zeroVec, 0, 0, 0⟩
  presentedPosition := spec.position
  presentedRotation := spec.rotation
  targetPosition := spec.position
  targetRotation := spec.rotation
  transformApplyCount := 0
  interpolationTickCount := 0
  interpolationPending := false
  lastCommand := .none
  commandSequence := 0
  lastUpdateTeleported := false
  lastUpdateSmoothedPosition := false
  lastUpdateSmoothedRotation := false
  lastUpdateSourceDistance := lit 0 1

instance : Slots.Slot (Fo4SceneProxyPlayerState F) PlayerId := ⟨(·.inUse), (·.playerId)⟩

structure Fo4SceneProxyInterpolationConfig (F : Type) where
  enabled : Bool
  positionAlpha : F
  rotationAlpha : F

/-- `g_scene` -/
structure Scene (F : Type) where
  players : Slots.Table 8 (Fo4SceneProxyPlayerState F) := .empty
  nextHandle : UInt64 := 0
  spawnCount : UInt64 := 0
  updateCount : UInt64 := 0
  despawnCount : UInt64 := 0
  totalCommandSequence : UInt32 := 0
  interp : Fo4SceneProxyInterpolationConfig F

/-- The state of the backend and of the driver under it. -/
structure SceneWorld (F : Type) where
  scene : Scene F
  driver : ActorDriver F := {}
  contract : SpawnContract F := {}

/-- The change of a player's slot. -/
def SceneWorld.modify (playerId : PlayerId)
    (f : Fo4SceneProxyPlayerState F → Fo4SceneProxyPlayerState F) (w : SceneWorld F) :
    SceneWorld F :=
  { w with scene := { w.scene with players := w.scene.players.modifyFirst (Slots.holds playerId) f } }

def sameVec3 (a b : Vec3f F) : Bool := eq a.x b.x && eq a.y b.y && eq a.z b.z

def sameRot3 (a b : Rot3f F) : Bool := eq a.pitch b.pitch && eq a.yaw b.yaw && eq a.roll b.roll

def Fo4SceneProxyPlayerState.atTarget (s : Fo4SceneProxyPlayerState F) : Bool :=
  sameVec3 s.presentedPosition s.targetPosition && sameRot3 s.presentedRotation s.targetRotation

/-! ## The driver under the scene -/

def syncSceneActorHandle (playerId : PlayerId) (w : SceneWorld F) : SceneWorld F :=
  match Slots.lookup playerId w.driver.players.slots with
  | some driverState =>
      if driverState.actorHandle ≠ 0 then
        w.modify playerId fun s => { s with actorHandle := driverState.actorHandle }
      else w
  | none => w

/-- `apply_driver_presented_state` for the slot that holds `s`. -/
def applyDriverPresentedState (s : Fo4SceneProxyPlayerState F) (spec : ProxyPlayerUpdateSpec F)
    (w : SceneWorld F) : Bool × SceneWorld F :=
  let moved := defaultMoveActor ⟨s.playerId, s.actorHandle, s.presentedPosition, spec.velocity,
    spec.stance, spec.animState, spec.equippedFormId⟩ w.driver
  if !moved.1 then (false, { w with driver := moved.2 })
  else
    let rotated := defaultRotateActor ⟨s.playerId, s.actorHandle, s.presentedRotation⟩ moved.2
    if !rotated.1 then (false, { w with driver := rotated.2 })
    else (true, syncSceneActorHandle s.playerId { w with driver := rotated.2 })

/-- `ensure_scene_player_from_spawn`, with the `find_slot` before it. -/
def ensureScenePlayerFromSpawn (spec : ProxyPlayerSpawnSpec F) (w : SceneWorld F) :
    Bool × SceneWorld F :=
  let actorHandle := w.scene.nextHandle + 1
  match w.scene.players.store (.spawned spec actorHandle) with
  | none => (false, w)
  | some players =>
      let w := { w with scene := { w.scene with players, nextHandle := actorHandle } }
      let (spawned, contract, driver) := fpascSpawnViaDriver spec actorHandle w.contract w.driver
      let w := { w with contract, driver }
      if spawned then (true, syncSceneActorHandle spec.playerId w) else (false, w)

/-! ## Backend -/

/-- The end of `scene_spawn`, `scene_update` and `scene_despawn`. -/
def SceneWorld.finish (playerId : PlayerId)
    (f : UInt32 → Fo4SceneProxyPlayerState F → Fo4SceneProxyPlayerState F) (w : SceneWorld F) :
    SceneWorld F :=
  let sequence := w.scene.totalCommandSequence + 1
  let w := w.modify playerId (f sequence)
  { w with scene := { w.scene with totalCommandSequence := sequence } }

def sceneSpawn (spec : ProxyPlayerSpawnSpec F) (remote : RemotePlayers F (SceneWorld F)) :
    Bool × RemotePlayers F (SceneWorld F) :=
  match ensureScenePlayerFromSpawn spec remote.user with
  | (false, w) => (false, { remote with user := w })
  | (true, w) =>
      match proxySpawnPlayer spec remote.players with
      | (false, players) => (false, ⟨players, w⟩)
      | (true, players) =>
          let w := w.finish spec.playerId fun sequence s =>
            { s with lastCommand := .spawn, commandSequence := sequence }
          (true, ⟨players, { w with scene := { w.scene with spawnCount := w.scene.spawnCount + 1 } }⟩)

/-- What `scene_update` writes before it goes to the runtime and the driver. -/
def Fo4SceneProxyPlayerState.aim (spec : ProxyPlayerUpdateSpec F) (interpolates : Bool)
    (s : Fo4SceneProxyPlayerState F) : Fo4SceneProxyPlayerState F :=
  let s := { s with
    lastUpdate := spec
    targetPosition := spec.position
    targetRotation := spec.rotation
    interpolationPending := false }
  if s.lastUpdateTeleported || !interpolates then
    { s with
      presentedPosition := spec.position
      presentedRotation := spec.rotation
      interpolationPending := false }
  else { s with interpolationPending := !s.atTarget }

/-- The slot of an update: a player who has none is spawned into one. -/
def sceneSlotFor (spec : ProxyPlayerUpdateSpec F) (w : SceneWorld F) : Bool × SceneWorld F :=
  if w.scene.players.slots.any (Slots.holds spec.playerId) then (true, w)
  else ensureScenePlayerFromSpawn
    ⟨spec.playerId, spec.playerId.toUInt32, 0, spec.position, spec.rotation, spec.equippedFormId⟩ w

def sceneUpdate (spec : ProxyPlayerUpdateSpec F) (remote : RemotePlayers F (SceneWorld F)) :
    Bool × RemotePlayers F (SceneWorld F) :=
  match sceneSlotFor spec remote.user with
  | (false, w) => (false, { remote with user := w })
  | (true, w) =>
      let w := w.modify spec.playerId (.aim spec w.scene.interp.enabled)
      match proxyUpdatePlayer spec remote.players with
      | (false, players) => (false, ⟨players, w⟩)
      | (true, players) =>
          match Slots.lookup spec.playerId w.scene.players.slots with
          | none => (false, ⟨players, w⟩)
          | some s =>
              match applyDriverPresentedState s spec w with
              | (false, w) => (false, ⟨players, w⟩)
              | (true, w) =>
                  let w := w.finish spec.playerId fun sequence s => { s with
                    transformApplyCount := s.transformApplyCount + 1
                    lastCommand := .update
                    commandSequence := sequence }
                  (true, ⟨players,
                    { w with scene := { w.scene with updateCount := w.scene.updateCount + 1 } }⟩)

def Fo4SceneProxyPlayerState.hide (commandSequence : UInt32) (s : Fo4SceneProxyPlayerState F) :
    Fo4SceneProxyPlayerState F :=
  { s with visible := false, despawned := true, lastCommand := .despawn, commandSequence }

/-- `scene_despawn`; the slot stays in use. -/
def sceneDespawn (playerId : PlayerId) (remote : RemotePlayers F (SceneWorld F)) :
    Bool × RemotePlayers F (SceneWorld F) :=
  if !remote.user.scene.players.slots.any (Slots.holds playerId) then (false, remote)
  else
    match proxyDespawnPlayer playerId remote.players with
    | (false, players) => (false, { remote with players })
    | (true, players) =>
        match defaultDespawnActor playerId remote.user.driver with
        | (false, driver) => (false, ⟨players, { remote.user with driver }⟩)
        | (true, driver) =>
            let w := syncSceneActorHandle playerId { remote.user with driver }
            let w := w.finish playerId .hide
            (true, ⟨players,
              { w with scene := { w.scene with despawnCount := w.scene.despawnCount + 1 } }⟩)

/-- `fo4_scene_proxy_backend_stub_note_policy_result` -/
def scenePolicyResult (playerId : PlayerId) (result : RemoteProxyUpdatePolicyResult F)
    (w : SceneWorld F) : SceneWorld F :=
  let w := w.modify playerId fun s =>
    let s := { s with
      lastUpdateTeleported := result.teleported
      lastUpdateSmoothedPosition := result.smoothedPosition
      lastUpdateSmoothedRotation := result.smoothedRotation
      lastUpdateSourceDistance := result.sourceDistance }
    if result.teleported then
      { s with
        presentedPosition := s.targetPosition
        presentedRotation := s.targetRotation
        interpolationPending := false }
    else { s with interpolationPending := !s.atTarget }
  match Slots.lookup playerId w.scene.players.slots with
  | some s => if result.teleported then (applyDriverPresentedState s s.lastUpdate w).2 else w
  | none => w

def sceneBackend : RemoteProxyBackend F (SceneWorld F) where
  spawnPlayer := sceneSpawn
  updatePlayer := sceneUpdate
  despawnPlayer := sceneDespawn
  notePolicyResult := scenePolicyResult

/-- `fo4_scene_proxy_backend_stub_set_interpolation_config` -/
def sceneSetInterpolationConfig (cfg : Option (Fo4SceneProxyInterpolationConfig F))
    (w : SceneWorld F) : SceneWorld F :=
  let interp : Fo4SceneProxyInterpolationConfig F :=
    match cfg with
    | none => ⟨true, lit 1 4, lit 35 100⟩
    | some cfg => { cfg with
        positionAlpha := clamp01 cfg.positionAlpha, rotationAlpha := clamp01 cfg.rotationAlpha }
  { w with scene := { w.scene with interp } }

def Fo4SceneProxyPlayerState.interpolate (interp : Fo4SceneProxyInterpolationConfig F)
    (s : Fo4SceneProxyPlayerState F) : Fo4SceneProxyPlayerState F :=
  let s := { s with
    presentedPosition := ⟨lerpf s.presentedPosition.x s.targetPosition.x interp.positionAlpha,
      lerpf s.presentedPosition.y s.targetPosition.y interp.positionAlpha,
      lerpf s.presentedPosition.z s.targetPosition.z interp.positionAlpha⟩
    presentedRotation := ⟨lerpf s.presentedRotation.pitch s.targetRotation.pitch interp.rotationAlpha,
      lerpf s.presentedRotation.yaw s.targetRotation.yaw interp.rotationAlpha,
      lerpf s.presentedRotation.roll s.targetRotation.roll interp.rotationAlpha⟩ }
  { s with interpolationPending := !s.atTarget }

/-- The turn of a slot in `fo4_scene_proxy_backend_stub_step`. -/
def sceneStepSlot (w : SceneWorld F) (i : Nat) : SceneWorld F :=
  match w.scene.players.slots[i]? with
  | none => w
  | some s =>
      if !s.inUse || !s.visible || s.despawned then w
      else if !w.scene.interp.enabled || s.lastUpdateTeleported then w
      else
        let s := s.interpolate w.scene.interp
        let w := w.modify s.playerId fun _ => s
        match applyDriverPresentedState s s.lastUpdate w with
        | (false, w) => w
        | (true, w) => w.modify s.playerId fun s =>
            { s with interpolationTickCount := s.interpolationTickCount + 1 }

/-- `fo4_scene_proxy_backend_stub_step` -/
def sceneStep (w : SceneWorld F) : SceneWorld F := (List.range 8).foldl sceneStepSlot w

end F4MP.Client

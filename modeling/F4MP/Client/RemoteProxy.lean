import F4MP.Client.ProxyRuntime

/-!
# Remote players

`remote_proxy_update_policy.c`, `remote_proxy_backend.c` and `remote_proxy_manager.c`. A backend
works on the player proxies and on a state `U` of its own.
-/

namespace F4MP.Client
open SoftFloat CFloat Protocol Service

variable {F U : Type} [CFloat F]

/-! ## Update policy -/

structure RemoteProxyUpdatePolicy (F : Type) where
  enabled : Bool
  teleportDistance : F
  positionLerpAlpha : F
  rotationLerpAlpha : F

structure RemoteProxyUpdatePolicyResult (F : Type) where
  policyEnabled : Bool
  teleported : Bool
  smoothedPosition : Bool
  smoothedRotation : Bool
  sourceDistance : F

def clamp01 (v : F) : F :=
  if lt v (lit 0 1) then lit 0 1 else if lt (lit 1 1) v then lit 1 1 else v

def lerpf (a b t : F) : F := add a (mul (sub b a) t)

def distSq (a b : Vec3f F) : F :=
  let dx := sub a.x b.x
  let dy := sub a.y b.y
  let dz := sub a.z b.z
  add (add (mul dx dx) (mul dy dy)) (mul dz dz)

def rpupInitDefault : RemoteProxyUpdatePolicy F := ⟨true, lit 8 1, lit 1 4, lit 35 100⟩

def rpupApplyPlayerUpdateEx (policy : RemoteProxyUpdatePolicy F) (current : ProxyPlayerRecord F)
    (update : ProxyPlayerUpdateSpec F) :
    ProxyPlayerUpdateSpec F × RemoteProxyUpdatePolicyResult F :=
  let d := distSq current.position update.position
  let result := ⟨policy.enabled, false, false, false, d⟩
  if !policy.enabled then (update, result)
  else if lt (mul policy.teleportDistance policy.teleportDistance) d then
    (update, { result with teleported := true })
  else
    let pt := clamp01 policy.positionLerpAlpha
    let rt := clamp01 policy.rotationLerpAlpha
    ({ update with
      position := ⟨lerpf current.position.x update.position.x pt,
        lerpf current.position.y update.position.y pt,
        lerpf current.position.z update.position.z pt⟩
      rotation := ⟨lerpf current.rotation.pitch update.rotation.pitch rt,
        lerpf current.rotation.yaw update.rotation.yaw rt,
        lerpf current.rotation.roll update.rotation.roll rt⟩ },
      { result with smoothedPosition := true, smoothedRotation := true })

/-! ## Backends -/

/-- What the backends and the manager work on. -/
structure RemotePlayers (F U : Type) where
  players : PlayerProxies F
  user : U

structure RemoteProxyBackend (F U : Type) where
  spawnPlayer : ProxyPlayerSpawnSpec F → RemotePlayers F U → Bool × RemotePlayers F U
  updatePlayer : ProxyPlayerUpdateSpec F → RemotePlayers F U → Bool × RemotePlayers F U
  despawnPlayer : PlayerId → RemotePlayers F U → Bool × RemotePlayers F U
  /-- `fo4_scene_proxy_backend_stub_note_policy_result` -/
  notePolicyResult : PlayerId → RemoteProxyUpdatePolicyResult F → U → U

/-- The backend that `rpb_reset_default_backend` installs. -/
def defaultBackend : RemoteProxyBackend F Unit where
  spawnPlayer spec remote :=
    let (done, players) := proxySpawnPlayer spec remote.players
    (done, { remote with players })
  updatePlayer spec remote :=
    let (done, players) := proxyUpdatePlayer spec remote.players
    (done, { remote with players })
  despawnPlayer playerId remote :=
    let (done, players) := proxyDespawnPlayer playerId remote.players
    (done, { remote with players })
  notePolicyResult _ _ user := user

/-! ## Manager -/

structure RemoteProxyManager (F : Type) where
  localPlayerId : PlayerId
  rejectedStaleUpdates : UInt32
  policy : RemoteProxyUpdatePolicy F

def rpmInit (localPlayerId : PlayerId) : RemoteProxyManager F := ⟨localPlayerId, 0, rpupInitDefault⟩

/-- A message that is older than what the record shows. -/
def staleFor (current : ProxyPlayerRecord F) (msg : MsgPlayerState F) : Bool :=
  (msg.stateSequence != 0 && current.lastStateSequence != 0 &&
    decide (msg.stateSequence < current.lastStateSequence)) ||
  (msg.stateSequence == current.lastStateSequence && msg.observedTick != 0 &&
    current.lastObservedTick != 0 && decide (msg.observedTick ≤ current.lastObservedTick))

def updateSpecOf (msg : MsgPlayerState F) : ProxyPlayerUpdateSpec F :=
  ⟨msg.playerId, msg.position, msg.rotation, msg.velocity, msg.stance, msg.animState,
    msg.equippedFormId⟩

/-- The part of `rpm_apply_remote_player_state` that passes an update on to the backend. -/
def rpmPassUpdate (backend : RemoteProxyBackend F U) (policy : RemoteProxyUpdatePolicy F)
    (msg : MsgPlayerState F) (remote : RemotePlayers F U) : Bool × RemotePlayers F U :=
  let (up, remote) :=
    match Slots.lookup msg.playerId remote.players.slots with
    | some current =>
        let (up, result) := rpupApplyPlayerUpdateEx policy current (updateSpecOf msg)
        (up, { remote with user := backend.notePolicyResult msg.playerId result remote.user })
    | none => (updateSpecOf msg, remote)
  match backend.updatePlayer up remote with
  | (false, remote) => (false, remote)
  | (true, remote) =>
      (true, { remote with
        players := remote.players.modifyFirst (Slots.holds msg.playerId) fun s =>
          { s with lastStateSequence := msg.stateSequence, lastObservedTick := msg.observedTick } })

def rpmApplyRemotePlayerState (backend : RemoteProxyBackend F U) (msg : MsgPlayerState F)
    (manager : RemoteProxyManager F) (remote : RemotePlayers F U) :
    Bool × RemoteProxyManager F × RemotePlayers F U :=
  if msg.playerId = 0 ∨ msg.playerId = manager.localPlayerId then (true, manager, remote)
  else
    let (spawned, remote) :=
      match Slots.lookup msg.playerId remote.players.slots with
      | some _ => (true, remote)
      | none => backend.spawnPlayer
          ⟨msg.playerId, msg.playerId.toUInt32, 0, msg.position, msg.rotation, msg.equippedFormId⟩
          remote
    if !spawned then (false, manager, remote)
    else
      let stale :=
        match Slots.lookup msg.playerId remote.players.slots with
        | some current => staleFor current msg
        | none => false
      if stale then
        (true, { manager with rejectedStaleUpdates := manager.rejectedStaleUpdates + 1 }, remote)
      else
        let (done, remote) := rpmPassUpdate backend manager.policy msg remote
        (done, manager, remote)

def rpmRemoveRemotePlayer (backend : RemoteProxyBackend F U) (playerId : PlayerId)
    (manager : RemoteProxyManager F) (remote : RemotePlayers F U) : Bool × RemotePlayers F U :=
  if playerId = manager.localPlayerId then (true, remote) else backend.despawnPlayer playerId remote

end F4MP.Client

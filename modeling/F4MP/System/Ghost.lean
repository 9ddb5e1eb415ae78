import F4MP.Client.PlayerProxy
import F4MP.System.Stream

/-!
# Players that have left

The states of a player may come behind the PLAYER_LEFT that they were sent before. What the client
remembers of their order is part of the record that PLAYER_LEFT erases.
-/

namespace F4MP.System
open SoftFloat CFloat Protocol Service Client Transition Delivery

variable {F U : Type} [CFloat F] [WireFloat F]

/-- A packet and its place in the stream of the service. -/
abbrev Numbered := List UInt8 × Nat

/-- A PLAYER_LEFT of the player that was sent behind `packet` is among what was applied. -/
def LeftBehind (F : Type) [CFloat F] [WireFloat F] (p : PlayerId) (packet : Numbered)
    (applied : List Numbered) : Prop :=
  ∃ left ∈ applied, packet.2 < left.2 ∧
    ∃ msg : Body F .playerLeft, Carries left.1 .playerLeft msg ∧ msg.playerId = p

/-- No state of a player makes a record of it once a PLAYER_LEFT that was sent behind the state has
been applied. -/
def NoGhost (backend : RemoteProxyBackend F U) (p : PlayerId) (c : ClientState F U)
    (got : List Numbered) : Prop :=
  ∀ (applied : List Numbered) packet, applied ++ [packet] <+: got → LeftBehind F p packet applied →
    ∀ msg : Body F .playerState, Carries packet.1 .playerState msg → msg.playerId = p →
      let before := applyPackets backend (applied.map (·.1)) c
      let after := (pluginApplyPacket backend packet.1 before).2
      playerShown before p = none → playerShown after p = none

/-- No such state finds the record gone and is one for which the backend spawns a new one. -/
def NoLateSpawn (backend : RemoteProxyBackend F U) (p : PlayerId) (c : ClientState F U)
    (got : List Numbered) : Prop :=
  ∀ (applied : List Numbered) packet, applied ++ [packet] <+: got → LeftBehind F p packet applied →
    ∀ msg : Body F .playerState, Carries packet.1 .playerState msg → msg.playerId = p →
      let before := applyPackets backend (applied.map (·.1)) c
      playerShown before p = none → p ≠ 0 → p ≠ c.manager.localPlayerId →
        Slots.lookup p (backend.spawnPlayer (spawnSpecOf msg) before.remote).2.players.slots = none

def emptyService : ServiceState Binary32 := freshService 1 15 20 [7]

/-- Two players join; the first reports its state and leaves. -/
def briefVisit : List NetworkEvent :=
  let store : ProfileStore := ⟨fun _ => none⟩
  let state : Body Binary32 .playerState := ⟨1, 0, zeroVec, zeroRot, zeroVec, 0, {}, 0, 0, 0, 1, 1⟩
  [.envelope store (envelopeOf (F := Binary32) 100 .hello (⟨0, 0⟩, [0x41], [0x41])), .tick,
    .envelope store (envelopeOf (F := Binary32) 101 .hello (⟨0, 0⟩, [0x42], [0x42])), .tick,
    .envelope store (envelopeOf 100 .playerState state), .tick,
    .envelope store (envelopeOf (F := Binary32) 100 .disconnect { reason := 0 }), .tick]

end F4MP.System

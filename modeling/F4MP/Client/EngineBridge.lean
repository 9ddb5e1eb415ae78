import F4MP.Client.ActorProxy
import F4MP.Client.PlayerProxy

/-!
# Engine bridge

`engine_bridge_stub.c`: the engine asks how many players, actors and objects a client shows, and for
the snapshot behind each index. The counts go over the records; the snapshots go over the ids from 1
to the capacity of the table.
-/

namespace F4MP.Client
open SoftFloat CFloat Protocol Service

variable {F U : Type}

/-! ## Snapshots -/

structure EngineBridgePlayerSnapshot (F : Type) where
  playerId : PlayerId
  position : Vec3f F
  rotation : Rot3f F
  velocity : Vec3f F
  stance : UInt8
  animState : UInt16
  equippedFormId : UInt32

structure EngineBridgeActorSnapshot (F : Type) where
  actorNetId : ActorNetId
  baseFormId : UInt32
  position : Vec3f F
  rotation : Rot3f F
  healthNorm : F
  actorFlags : UInt16
  isDead : Bool

structure EngineBridgeObjectSnapshot (F : Type) where
  objectNetId : ObjectNetId
  formId : UInt32
  position : Vec3f F
  rotation : Rot3f F
  stateFlags : UInt16

def ProxyPlayerRecord.snapshot (p : ProxyPlayerRecord F) : EngineBridgePlayerSnapshot F :=
  ⟨p.playerId, p.position, p.rotation, p.velocity, p.stance, p.animState, p.equippedFormId⟩

def ProxyActorRecord.snapshot (a : ProxyActorRecord F) : EngineBridgeActorSnapshot F :=
  ⟨a.actorNetId, a.baseFormId, a.position, a.rotation, a.healthNorm, a.actorFlags, a.isDead⟩

def ProxyObjectRecord.snapshot (o : ProxyObjectRecord F) : EngineBridgeObjectSnapshot F :=
  ⟨o.objectNetId, o.formId, o.position, o.rotation, o.stateFlags⟩

/-- The ids that `ebstub_get_player_snapshot` asks for. -/
def playerIds : List PlayerId := (List.range 8).map fun i => .ofNat (i + 1)

/-- The ids that `ebstub_get_actor_snapshot` asks for. -/
def actorIds : List ActorNetId := (List.range 128).map fun i => .ofNat (i + 1)

/-- The ids that `ebstub_get_object_snapshot` asks for. -/
def objectIds : List ObjectNetId := (List.range 256).map fun i => .ofNat (i + 1)

def ebstubPlayerCount (c : ClientState F U) : Nat := c.remote.players.slots.countP (·.inUse)

def ebstubActorCount (c : ClientState F U) : Nat := c.actors.slots.countP (·.inUse)

def ebstubObjectCount (c : ClientState F U) : Nat := c.objects.slots.countP (·.inUse)

def ebstubGetPlayerSnapshot (c : ClientState F U) (index : Nat) :
    Option (EngineBridgePlayerSnapshot F) :=
  (Slots.scan index c.remote.players.slots playerIds 0).map (·.snapshot)

def ebstubGetActorSnapshot (c : ClientState F U) (index : Nat) :
    Option (EngineBridgeActorSnapshot F) :=
  (Slots.scan index c.actors.slots actorIds 0).map (·.snapshot)

def ebstubGetObjectSnapshot (c : ClientState F U) (index : Nat) :
    Option (EngineBridgeObjectSnapshot F) :=
  (Slots.scan index c.objects.slots objectIds 0).map (·.snapshot)

/-! ## Enumeration -/

/-- The indices below `count`, and no others, give a record, and together they give each record
once. -/
structure Enumerates {β : Type} (get : Nat → Option β) (count : Nat) (records : List β) : Prop where
  inside : ∀ index, (get index).isSome ↔ index < count
  once : ((List.range count).filterMap get).Perm records

theorem filterMap_range {β : Type} (xs : List β) :
    (List.range xs.length).filterMap (xs[·]?) = xs := by
  induction xs with
  | nil => rfl
  | cons x xs ih =>
      rw [List.length_cons, List.range_succ_eq_map, List.filterMap_cons, List.filterMap_map]
      exact congrArg (x :: ·) ih

theorem scan_enumerates_iff {α β κ : Type} [Slots.Slot α κ] [DecidableEq κ] {slots : List α}
    {ids : List κ} (distinct : Slots.Distinct slots) (nodup : ids.Nodup) (shot : α → β) :
    Enumerates (fun index => (Slots.scan index slots ids 0).map shot)
        (slots.countP Slots.Slot.live) ((slots.filter Slots.Slot.live).map shot) ↔
      Slots.Within (· ∈ ids) slots := by
  have shows_ : ∀ index, (Slots.scan index slots ids 0).map shot =
      ((Slots.reading ids slots).map shot)[index]? := by
    intro index
    rw [Slots.scan_eq ids (Nat.zero_le index), Nat.sub_zero, List.getElem?_map]
  simp only [shows_]
  rw [← Slots.reading_length_iff distinct nodup]
  constructor
  · intro enumerates
    apply Nat.le_antisymm
    · have beyond := enumerates.inside (slots.countP Slots.Slot.live)
      simpa using beyond
    · refine Nat.le_of_not_lt fun missing => ?_
      have reached := enumerates.inside (Slots.reading ids slots).length
      simp [missing] at reached
  · intro whole
    refine ⟨fun index => by simp [← whole], ?_⟩
    have perm := (Slots.reading_perm distinct nodup whole).map shot
    have length : ((Slots.reading ids slots).map shot).length =
        (Slots.reading ids slots).length := List.length_map shot
    rw [← whole, ← length, filterMap_range]
    exact perm

theorem playerIds_nodup : playerIds.Nodup := by decide

theorem ids_nodup {n : Nat} (small : n < 4294967296) :
    ((List.range n).map fun i => UInt32.ofNat (i + 1)).Nodup := by
  refine List.Nodup.map_on (fun i insideI j insideJ same => ?_) List.nodup_range
  have values := congrArg UInt32.toNat same
  rw [UInt32.toNat_ofNat', UInt32.toNat_ofNat'] at values
  have := List.mem_range.mp insideI
  have := List.mem_range.mp insideJ
  omega

theorem mem_ids_iff {n : Nat} (small : n < 4294967296) {id : UInt32} :
    id ∈ ((List.range n).map fun i => UInt32.ofNat (i + 1)) ↔ 1 ≤ id.toNat ∧ id.toNat ≤ n := by
  rw [List.mem_map]
  constructor
  · rintro ⟨i, inside, rfl⟩
    have := List.mem_range.mp inside
    rw [UInt32.toNat_ofNat']
    omega
  · rintro ⟨positive, within⟩
    refine ⟨id.toNat - 1, List.mem_range.mpr (by omega), ?_⟩
    rw [Nat.sub_add_cancel positive, UInt32.ofNat_toNat]

theorem mem_playerIds_iff {id : PlayerId} : id ∈ playerIds ↔ 1 ≤ id.toNat ∧ id.toNat ≤ 8 := by
  rw [playerIds, List.mem_map]
  constructor
  · rintro ⟨i, inside, rfl⟩
    have := List.mem_range.mp inside
    rw [UInt16.toNat_ofNat']
    omega
  · rintro ⟨positive, within⟩
    refine ⟨id.toNat - 1, List.mem_range.mpr (by omega), ?_⟩
    rw [Nat.sub_add_cancel positive, UInt16.ofNat_toNat]

/-! ## What packets do to the tables -/

/-- The player a message makes a record for, if there is none. -/
def spawnsPlayer : (type : MessageType) → Body F type → Option PlayerId
  | .playerState, msg => if msg.playerId = 0 then none else some msg.playerId
  | _, _ => none

/-- The object a message makes a record for, if there is none. -/
def spawnsObject : (type : MessageType) → Body F type → Option ObjectNetId
  | .objectSpawn, msg => some msg.objectNetId
  | _, _ => none

section Tables
variable [CFloat F] {backend : RemoteProxyBackend F U} {c : ClientState F U}

section Players
variable {S : PlayerId → Prop} {P : List (ProxyPlayerRecord F) → Prop} (kept : Slots.Kept 8 S P)
  (proxies : backend.OverProxies) {remote : RemotePlayers F U} (before : P remote.players.slots)
include kept proxies before

theorem spawnPlayer_kept {spec : ProxyPlayerSpawnSpec F} (named : S spec.playerId) :
    P (backend.spawnPlayer spec remote).2.players.slots := by
  rcases proxies.spawn spec remote with same | spawned
  · exact same ▸ before
  · rw [spawned]
    simp only [proxySpawnPlayer]
    split
    · rename_i after stored
      exact kept.store named rfl (Slots.Table.store_slots stored) before
    · exact before

theorem updatePlayer_kept (spec : ProxyPlayerUpdateSpec F) :
    P (backend.updatePlayer spec remote).2.players.slots := by
  rcases proxies.update spec remote with same | updated
  · exact same ▸ before
  · exact updated ▸ kept.update (fun _ held => held) before

theorem despawnPlayer_kept (p : PlayerId) :
    P (backend.despawnPlayer p remote).2.players.slots := by
  rcases proxies.despawn p remote with same | despawned
  · exact same ▸ before
  · exact despawned ▸ kept.release rfl before

theorem rpmPassUpdate_kept (policy : RemoteProxyUpdatePolicy F) (msg : MsgPlayerState F) :
    P (rpmPassUpdate backend policy msg remote).2.players.slots := by
  obtain ⟨position, rotation, noted, same, eq⟩ := rpmPassUpdate_eq backend policy msg remote
  obtain ⟨spec, specIs⟩ : ∃ spec, spec = { updateSpecOf msg with position, rotation } := ⟨_, rfl⟩
  have noted_before : P noted.players.slots := same ▸ before
  have updated := updatePlayer_kept kept proxies noted_before spec
  rw [eq, ← specIs]
  revert updated
  rcases backend.updatePlayer spec noted with ⟨_ | _, after⟩
  · exact id
  · exact kept.update fun _ held => held

end Players

theorem applyMessage_playersKept {S : PlayerId → Prop} {P : List (ProxyPlayerRecord F) → Prop}
    (kept : Slots.Kept 8 S P) (proxies : backend.OverProxies) {type : MessageType}
    {body : Body F type} (named : ∀ id, spawnsPlayer type body = some id → S id)
    (before : P c.remote.players.slots) :
    P (applyMessage backend type body c).2.remote.players.slots := by
  cases type with
  | playerState =>
      simp only [applyMessage, paApplyPlayerState, rpmApplyRemotePlayerState]
      split
      · exact before
      · rename_i other
        have somebody : body.playerId ≠ 0 := fun zero => other (.inl zero)
        have spawned := @spawnPlayer_kept F U _ backend S P kept proxies c.remote before
          (spawnSpecOf body) (named _ (if_neg somebody))
        repeat' split
        all_goals first
          | exact before
          | exact rpmPassUpdate_kept kept proxies before _ body
          | exact spawned
          | exact rpmPassUpdate_kept kept proxies spawned _ body
  | playerLeft =>
      simp only [applyMessage, applyPlayerLeft, rpmRemoveRemotePlayer]
      split
      · exact before
      · exact despawnPlayer_kept kept proxies before body.playerId
  | actorState =>
      simp only [applyMessage, paApplyActorState]
      repeat' split
      all_goals exact before
  | actorDespawn =>
      simp only [applyMessage, paApplyActorDespawn]
      split <;> exact before
  | _ => exact before

theorem applyMessage_objectsKept {S : ObjectNetId → Prop} {P : List (ProxyObjectRecord F) → Prop}
    (kept : Slots.Kept 256 S P) {type : MessageType} {body : Body F type}
    (named : ∀ id, spawnsObject type body = some id → S id) (before : P c.objects.slots) :
    P (applyMessage backend type body c).2.objects.slots := by
  cases type with
  | objectSpawn =>
      simp only [applyMessage, paApplyObjectSpawn, proxySpawnObject]
      split
      · rename_i after stored
        exact kept.store (named _ rfl) rfl (Slots.Table.store_slots stored) before
      · exact before
  | objectUpdate => exact kept.update (fun _ held => held) before
  | objectDespawn => exact kept.release rfl before
  | actorState =>
      simp only [applyMessage, paApplyActorState]
      repeat' split
      all_goals exact before
  | actorDespawn =>
      simp only [applyMessage, paApplyActorDespawn]
      split <;> exact before
  | _ => exact before

/-! ## Runs -/

/-- No table of the client holds an id twice. -/
structure Keyed (c : ClientState F U) : Prop where
  players : Slots.Distinct c.remote.players.slots
  actors : Slots.Distinct c.actors.slots
  objects : Slots.Distinct c.objects.slots

/-- Every record in use has an id between 1 and the capacity of its table. -/
structure AskedFor (c : ClientState F U) : Prop where
  players : ∀ p ∈ c.remote.players.slots, p.inUse = true →
    1 ≤ p.playerId.toNat ∧ p.playerId.toNat ≤ 8
  actors : ∀ a ∈ c.actors.slots, a.inUse = true →
    1 ≤ a.actorNetId.toNat ∧ a.actorNetId.toNat ≤ 128
  objects : ∀ o ∈ c.objects.slots, o.inUse = true →
    1 ≤ o.objectNetId.toNat ∧ o.objectNetId.toNat ≤ 256

/-- A message that makes records only under such ids. -/
structure SpawnsAskedFor (type : MessageType) (body : Body F type) : Prop where
  players : ∀ id, spawnsPlayer type body = some id → 1 ≤ id.toNat ∧ id.toNat ≤ 8
  actors : ∀ id, spawnsActor type body = some id → 1 ≤ id.toNat ∧ id.toNat ≤ 128
  objects : ∀ id, spawnsObject type body = some id → 1 ≤ id.toNat ∧ id.toNat ≤ 256

/-- The snapshots enumerate what the client shows. -/
structure Enumerated (c : ClientState F U) : Prop where
  players : Enumerates (ebstubGetPlayerSnapshot c) (ebstubPlayerCount c)
    ((c.remote.players.slots.filter (·.inUse)).map (·.snapshot))
  actors : Enumerates (ebstubGetActorSnapshot c) (ebstubActorCount c)
    ((c.actors.slots.filter (·.inUse)).map (·.snapshot))
  objects : Enumerates (ebstubGetObjectSnapshot c) (ebstubObjectCount c)
    ((c.objects.slots.filter (·.inUse)).map (·.snapshot))

omit [CFloat F] in
theorem enumerated_iff (keyed : Keyed c) : Enumerated c ↔ AskedFor c := by
  have players := scan_enumerates_iff keyed.players playerIds_nodup (·.snapshot)
  have actors := scan_enumerates_iff keyed.actors (@ids_nodup 128 (by omega)) (·.snapshot)
  have objects := scan_enumerates_iff keyed.objects (@ids_nodup 256 (by omega)) (·.snapshot)
  simp only [Slots.Within, mem_playerIds_iff] at players
  simp only [Slots.Within, mem_ids_iff (show 128 < 4294967296 by omega)] at actors
  simp only [Slots.Within, mem_ids_iff (show 256 < 4294967296 by omega)] at objects
  constructor
  · rintro ⟨p, a, o⟩
    exact ⟨players.mp p, actors.mp a, objects.mp o⟩
  · rintro ⟨p, a, o⟩
    exact ⟨players.mpr p, actors.mpr a, objects.mpr o⟩

theorem applyMessage_keyed (proxies : backend.OverProxies) (keyed : Keyed c) (type : MessageType)
    (body : Body F type) : Keyed (applyMessage backend type body c).2 where
  players := applyMessage_playersKept (Slots.distinct_kept 8) proxies (fun _ _ => trivial) keyed.players
  actors := applyMessage_distinct backend keyed.actors type body
  objects := applyMessage_objectsKept (Slots.distinct_kept 256) (fun _ _ => trivial) keyed.objects

theorem applyMessage_askedFor (proxies : backend.OverProxies) (asked : AskedFor c)
    {type : MessageType} {body : Body F type} (spawns : SpawnsAskedFor type body) :
    AskedFor (applyMessage backend type body c).2 where
  players := applyMessage_playersKept (Slots.within_kept 8 _) proxies spawns.players asked.players
  actors := applyMessage_actorsKept backend (Slots.within_kept 128 _) spawns.actors asked.actors
  objects := applyMessage_objectsKept (Slots.within_kept 256 _) spawns.objects asked.objects

variable [WireFloat F]

theorem applyPackets_askedFor (proxies : backend.OverProxies) {packets : List (List UInt8)}
    (spawns : ∀ bytes ∈ packets, ∀ type (body : Body F type), Carries bytes type body →
      SpawnsAskedFor type body) (asked : AskedFor c) : AskedFor (applyPackets backend packets c) := by
  induction packets generalizing c with
  | nil => exact asked
  | cons bytes packets ih =>
      refine ih (fun next listed => spawns next (List.mem_cons_of_mem bytes listed)) ?_
      show AskedFor (pluginApplyPacket backend bytes c).2
      rcases pluginApplyPacket_cases backend bytes c with ⟨type, body, carries, same⟩ | ⟨_, same⟩
      · rw [same]
        exact applyMessage_askedFor proxies asked (spawns bytes List.mem_cons_self type body carries)
      · rw [same]
        exact asked

end Tables

variable [CFloat F] [WireFloat F]

/-- In every state that packets lead to, the snapshots enumerate what the client shows exactly if they
ask for the ids of all records in use; and so they do throughout a run whose packets make records only
under such ids. -/
theorem ebstub_enumerates_iff {backend : RemoteProxyBackend F U} (proxies : backend.OverProxies)
    (localPlayerId : PlayerId) (user : U) (packets : List (List UInt8)) :
    (Enumerated (applyPackets backend packets (freshClient localPlayerId user)) ↔
      AskedFor (applyPackets backend packets (freshClient localPlayerId user))) ∧
    ((∀ bytes ∈ packets, ∀ type (body : Body F type), Carries bytes type body →
        SpawnsAskedFor type body) →
      Enumerated (applyPackets backend packets (freshClient localPlayerId user))) := by
  have keyed : Keyed (applyPackets backend packets (freshClient localPlayerId user)) :=
    applyPackets_keep (P := Keyed) (fun type body _ keyed => applyMessage_keyed proxies keyed type body)
      packets ⟨.nil, .nil, .nil⟩
  refine ⟨enumerated_iff keyed, fun spawns => (enumerated_iff keyed).mpr ?_⟩
  refine applyPackets_askedFor proxies spawns ⟨?_, ?_, ?_⟩
  all_goals
    intro _ member
    cases member

theorem ebstub_enumerates_spawn :
    let spawn : List UInt8 := packetBytes (F := Binary32) 1 1 .actorSpawn 0
      ⟨7, 0x1f, zeroVec, zeroRot, 0, 0, 0⟩
    (Enumerated (applyPackets (defaultBackend (F := Binary32)) [spawn] (freshClient 0 ())) ↔
      AskedFor (applyPackets (defaultBackend (F := Binary32)) [spawn] (freshClient 0 ()))) ∧
    ((∀ bytes ∈ [spawn], ∀ type (body : Body Binary32 type), Carries bytes type body →
        SpawnsAskedFor type body) →
      Enumerated (applyPackets (defaultBackend (F := Binary32)) [spawn] (freshClient 0 ()))) :=
  ebstub_enumerates_iff defaultBackend_overProxies 0 () _

/-- The first actor that a service spawns is found by no index. -/
theorem ebstub_enumerates_first :
    ¬Enumerated (applyPackets (defaultBackend (F := Binary32))
      [packetBytes (F := Binary32) 1 1 .actorSpawn 0 ⟨2000, 0x1f, zeroVec, zeroRot, 0, 0, 0⟩]
      (freshClient 0 ())) := by
  intro enumerated
  have first := enumerated.actors.inside 0
  revert first
  decide +kernel

end F4MP.Client

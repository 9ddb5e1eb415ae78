import F4MP.Client.ProxyRuntime

/-!
# The actor driver

`fo4_proxy_actor_driver.c` with its default driver, and `fo4_proxy_actor_spawn_contract.c`, which turns
the spawn of a proxy into the creation of an actor.
-/

namespace F4MP.Client
open SoftFloat CFloat Protocol Service

variable {F : Type} [CFloat F]

/-! ## Records -/

structure Fo4ProxyActorCreateSpec (F : Type) where
  playerId : PlayerId
  proxyNetId : NetId
  proxyBaseFormId : UInt32
  actorHandle : UInt64 := 0
  position : Vec3f F
  rotation : Rot3f F
  equippedFormId : UInt32

structure Fo4ProxyActorMoveSpec (F : Type) where
  playerId : PlayerId
  actorHandle : UInt64
  position : Vec3f F
  velocity : Vec3f F
  stance : UInt8
  animState : UInt16
  equippedFormId : UInt32

structure Fo4ProxyActorRotateSpec (F : Type) where
  playerId : PlayerId
  actorHandle : UInt64
  rotation : Rot3f F

inductive Fo4ProxyActorDriverCommand where
  | none | create | move | rotate | despawn
  deriving DecidableEq

structure Fo4ProxyActorState (F : Type) where
  inUse : Bool
  visible : Bool
  despawned : Bool
  playerId : PlayerId
  proxyNetId : NetId
  proxyBaseFormId : UInt32
  actorHandle : UInt64
  position : Vec3f F
  rotation : Rot3f F
  velocity : Vec3f F
  stance : UInt8
  animState : UInt16
  equippedFormId : UInt32
  createCount : UInt32
  moveCount : UInt32
  rotateCount : UInt32
  despawnCount : UInt32
  lastCommand : Fo4ProxyActorDriverCommand
  commandSequence : UInt32

def Fo4ProxyActorState.zero : Fo4ProxyActorState F :=
  ⟨false, false, false, 0, 0, 0, 0, zeroVec, zeroRot, zeroVec, 0, 0, 0, 0, 0, 0, 0, .none, 0⟩

instance : Slots.Slot (Fo4ProxyActorState F) PlayerId := ⟨(·.inUse), (·.playerId)⟩

/-- `g_fpad` -/
structure ActorDriver (F : Type) where
  players : Slots.Table 8 (Fo4ProxyActorState F) := .empty
  createCount : UInt64 := 0
  moveCount : UInt64 := 0
  rotateCount : UInt64 := 0
  despawnCount : UInt64 := 0
  totalCommandSequence : UInt32 := 0
  nextHandle : UInt64 := 0

/-! ## The default driver -/

/-- The handle that a record takes, and the handle counter behind it. -/
def ActorDriver.takeHandle (actorHandle : UInt64) (d : ActorDriver F) : UInt64 × UInt64 :=
  if actorHandle ≠ 0 then (actorHandle, d.nextHandle) else (d.nextHandle + 1, d.nextHandle + 1)

def defaultCreateActor (spec : Fo4ProxyActorCreateSpec F) (d : ActorDriver F) :
    Bool × ActorDriver F :=
  if spec.playerId = 0 then (false, d)
  else
    let (actorHandle, nextHandle) := d.takeHandle spec.actorHandle
    let record : Fo4ProxyActorState F := { Fo4ProxyActorState.zero with
      inUse := true
      visible := true
      playerId := spec.playerId
      proxyNetId := spec.proxyNetId
      proxyBaseFormId := spec.proxyBaseFormId
      actorHandle
      position := spec.position
      rotation := spec.rotation
      equippedFormId := spec.equippedFormId
      createCount := 1
      lastCommand := .create
      commandSequence := d.totalCommandSequence + 1 }
    match d.players.store record with
    | none => (false, d)
    | some players =>
        (true, { d with
          players
          nextHandle
          totalCommandSequence := d.totalCommandSequence + 1
          createCount := d.createCount + 1 })

/-- The slot that a move or a rotation works on; a free one is taken into use. -/
def ActorDriver.slotFor (playerId : PlayerId) (actorHandle : UInt64) (d : ActorDriver F) :
    Option (ActorDriver F) :=
  if d.players.slots.any (Slots.holds playerId) then some d
  else
    let (actorHandle, nextHandle) := d.takeHandle actorHandle
    let record : Fo4ProxyActorState F := { Fo4ProxyActorState.zero with
      inUse := true, visible := true, playerId, actorHandle }
    (d.players.store record).map fun players => { d with players, nextHandle }

def Fo4ProxyActorState.move (spec : Fo4ProxyActorMoveSpec F) (commandSequence : UInt32)
    (s : Fo4ProxyActorState F) : Fo4ProxyActorState F :=
  { s with
    position := spec.position
    velocity := spec.velocity
    stance := spec.stance
    animState := spec.animState
    equippedFormId := spec.equippedFormId
    actorHandle := if spec.actorHandle ≠ 0 then spec.actorHandle else s.actorHandle
    despawned := false
    visible := true
    moveCount := s.moveCount + 1
    lastCommand := .move
    commandSequence }

def defaultMoveActor (spec : Fo4ProxyActorMoveSpec F) (d : ActorDriver F) : Bool × ActorDriver F :=
  if spec.playerId = 0 then (false, d)
  else
    match d.slotFor spec.playerId spec.actorHandle with
    | none => (false, d)
    | some d =>
        let sequence := d.totalCommandSequence + 1
        (true, { d with
          players := d.players.modifyFirst (Slots.holds spec.playerId) (.move spec sequence)
          totalCommandSequence := sequence
          moveCount := d.moveCount + 1 })

def Fo4ProxyActorState.rotate (spec : Fo4ProxyActorRotateSpec F) (commandSequence : UInt32)
    (s : Fo4ProxyActorState F) : Fo4ProxyActorState F :=
  { s with
    rotation := spec.rotation
    actorHandle := if spec.actorHandle ≠ 0 then spec.actorHandle else s.actorHandle
    despawned := false
    visible := true
    rotateCount := s.rotateCount + 1
    lastCommand := .rotate
    commandSequence }

def defaultRotateActor (spec : Fo4ProxyActorRotateSpec F) (d : ActorDriver F) :
    Bool × ActorDriver F :=
  if spec.playerId = 0 then (false, d)
  else
    match d.slotFor spec.playerId spec.actorHandle with
    | none => (false, d)
    | some d =>
        let sequence := d.totalCommandSequence + 1
        (true, { d with
          players := d.players.modifyFirst (Slots.holds spec.playerId) (.rotate spec sequence)
          totalCommandSequence := sequence
          rotateCount := d.rotateCount + 1 })

def Fo4ProxyActorState.despawn (commandSequence : UInt32) (s : Fo4ProxyActorState F) :
    Fo4ProxyActorState F :=
  { s with
    visible := false
    despawned := true
    despawnCount := s.despawnCount + 1
    lastCommand := .despawn
    commandSequence }

/-- `default_despawn_actor`; the slot stays in use. -/
def defaultDespawnActor (playerId : PlayerId) (d : ActorDriver F) : Bool × ActorDriver F :=
  if playerId = 0 then (false, d)
  else if d.players.slots.any (Slots.holds playerId) then
    let sequence := d.totalCommandSequence + 1
    (true, { d with
      players := d.players.modifyFirst (Slots.holds playerId) (.despawn sequence)
      totalCommandSequence := sequence
      despawnCount := d.despawnCount + 1 })
  else (false, d)

/-! ## Spawn contract -/

structure Fo4ProxyActorSpawnContractConfig where
  localPlayerId : PlayerId := 0
  defaultProxyBaseFormId : UInt32 := 0x7777
  suppressSelfSpawn : Bool := true
  requireBaseFormId : Bool := true

/-- `g_contract`; without a config it takes the default one when it is first used. -/
structure SpawnContract (F : Type) where
  config : Option Fo4ProxyActorSpawnContractConfig := none
  planCount : UInt32 := 0
  spawnCount : UInt32 := 0
  rejectCount : UInt32 := 0
  lastPlayerId : PlayerId := 0
  lastUsedDefaultBaseForm : Bool := false
  lastSuppressedSelfSpawn : Bool := false
  lastCreateSpec : Option (Fo4ProxyActorCreateSpec F) := none

def fpascBuildCreateSpec (spec : ProxyPlayerSpawnSpec F) (contract : SpawnContract F) :
    Option (Fo4ProxyActorCreateSpec F) × SpawnContract F :=
  let config := contract.config.getD {}
  let contract := { contract with config := some config }
  if spec.playerId = 0 then (none, { contract with rejectCount := contract.rejectCount + 1 })
  else if config.suppressSelfSpawn && config.localPlayerId != 0 &&
      spec.playerId == config.localPlayerId then
    (none, { contract with
      rejectCount := contract.rejectCount + 1
      lastSuppressedSelfSpawn := true
      lastPlayerId := spec.playerId })
  else
    let baseFormId := if spec.proxyBaseFormId ≠ 0 then spec.proxyBaseFormId
      else config.defaultProxyBaseFormId
    if config.requireBaseFormId && baseFormId == 0 then
      (none, { contract with
        rejectCount := contract.rejectCount + 1
        lastPlayerId := spec.playerId
        lastUsedDefaultBaseForm := false
        lastSuppressedSelfSpawn := false })
    else
      let createSpec : Fo4ProxyActorCreateSpec F := {
        playerId := spec.playerId
        proxyNetId := spec.proxyNetId
        proxyBaseFormId := baseFormId
        position := spec.position
        rotation := spec.rotation
        equippedFormId := spec.equippedFormId }
      (some createSpec, { contract with
        planCount := contract.planCount + 1
        lastPlayerId := spec.playerId
        lastUsedDefaultBaseForm := spec.proxyBaseFormId == 0 && baseFormId != 0
        lastSuppressedSelfSpawn := false
        lastCreateSpec := some createSpec })

def fpascSpawnViaDriver (spec : ProxyPlayerSpawnSpec F) (actorHandle : UInt64)
    (contract : SpawnContract F) (driver : ActorDriver F) :
    Bool × SpawnContract F × ActorDriver F :=
  match fpascBuildCreateSpec spec contract with
  | (none, contract) => (false, contract, driver)
  | (some createSpec, contract) =>
      let createSpec := { createSpec with actorHandle }
      match defaultCreateActor createSpec driver with
      | (false, driver) => (false, contract, driver)
      | (true, driver) =>
          (true, { contract with
            spawnCount := contract.spawnCount + 1
            lastCreateSpec := some createSpec }, driver)

/-! ## What a command does -/

/-- What the layers agree on about a player's actor: if it is live, and its handle. -/
def Fo4ProxyActorState.seen (s : Fo4ProxyActorState F) : Bool × UInt64 :=
  (!s.despawned, s.actorHandle)

/-- The actors of the driver. -/
def ActorDriver.seen (d : ActorDriver F) : PlayerId → Option (Bool × UInt64) :=
  Slots.view Fo4ProxyActorState.seen d.players.slots

/-- The driver is as it was to everybody who looks at its actors. -/
structure ActorDriver.LooksLike (d' d : ActorDriver F) : Prop where
  seen : d'.seen = d.seen
  distinct : Slots.Distinct d.players.slots → Slots.Distinct d'.players.slots

section Driver
variable {d : ActorDriver F} {p : PlayerId} {handle : UInt64}

omit [CFloat F] in
theorem ActorDriver.held_of_seen {actor : Bool × UInt64} (known : d.seen p = some actor) :
    d.players.slots.any (Slots.holds p) = true := by
  obtain ⟨s, found, _⟩ := Option.map_eq_some_iff.mp known
  exact Slots.lookup_isSome_iff.mpr (found ▸ rfl)

omit [CFloat F] in
theorem ActorDriver.seen_touched {f : Fo4ProxyActorState F → Fo4ProxyActorState F}
    (known : d.seen p = some (true, handle))
    (keeps : ∀ s, Slots.holds p s = true → Slots.holds p (f s) = true)
    (touched : ∀ s, (f s).seen = (true, if handle ≠ 0 then handle else s.actorHandle)) :
    Slots.view Fo4ProxyActorState.seen (Slots.modifyFirst (Slots.holds p) f d.players.slots) =
      d.seen := by
  rw [Slots.view_update (h := fun actor => (true, if handle ≠ 0 then handle else actor.2)) keeps
    touched]
  refine Function.update_eq_self_iff.mpr ?_
  rw [show Slots.view _ _ p = some (true, handle) from known, Option.map_some]
  simp

theorem defaultMoveActor_live (spec : Fo4ProxyActorMoveSpec F)
    (known : d.seen spec.playerId = some (true, spec.actorHandle)) (somebody : spec.playerId ≠ 0) :
    (defaultMoveActor spec d).1 = true ∧ (defaultMoveActor spec d).2.LooksLike d := by
  have slot : d.slotFor spec.playerId spec.actorHandle = some d := if_pos (d.held_of_seen known)
  have keeps : ∀ (n : UInt32) (s : Fo4ProxyActorState F), Slots.holds spec.playerId s = true →
      Slots.holds spec.playerId (s.move spec n) = true := fun _ _ held => held
  simp only [defaultMoveActor, if_neg somebody, slot]
  exact ⟨trivial, d.seen_touched known (keeps _) fun _ => rfl,
    fun distinct => distinct.update (keeps _)⟩

theorem defaultRotateActor_live (spec : Fo4ProxyActorRotateSpec F)
    (known : d.seen spec.playerId = some (true, spec.actorHandle)) (somebody : spec.playerId ≠ 0) :
    (defaultRotateActor spec d).1 = true ∧ (defaultRotateActor spec d).2.LooksLike d := by
  have slot : d.slotFor spec.playerId spec.actorHandle = some d := if_pos (d.held_of_seen known)
  have keeps : ∀ (n : UInt32) (s : Fo4ProxyActorState F), Slots.holds spec.playerId s = true →
      Slots.holds spec.playerId (s.rotate spec n) = true := fun _ _ held => held
  simp only [defaultRotateActor, if_neg somebody, slot]
  exact ⟨trivial, d.seen_touched known (keeps _) fun _ => rfl,
    fun distinct => distinct.update (keeps _)⟩

omit [CFloat F] in
theorem defaultDespawnActor_known {live : Bool} (known : d.seen p = some (live, handle))
    (somebody : p ≠ 0) :
    (defaultDespawnActor p d).1 = true ∧
      (defaultDespawnActor p d).2.seen = Function.update d.seen p (some (false, handle)) ∧
      (Slots.Distinct d.players.slots →
        Slots.Distinct (defaultDespawnActor p d).2.players.slots) := by
  have keeps : ∀ (n : UInt32) (s : Fo4ProxyActorState F), Slots.holds p s = true →
      Slots.holds p (s.despawn n) = true := fun _ _ held => held
  simp only [defaultDespawnActor, if_neg somebody, if_pos (d.held_of_seen known)]
  refine ⟨trivial, ?_, fun distinct => distinct.update (keeps _)⟩
  refine (Slots.view_update (h := fun actor => (false, actor.2)) (keeps _) fun _ => rfl).trans ?_
  rw [show Slots.view _ _ p = some (live, handle) from known, Option.map_some]
  rfl

theorem defaultCreateActor_room (spec : Fo4ProxyActorCreateSpec F) (somebody : spec.playerId ≠ 0)
    (room : (Slots.lookup spec.playerId d.players.slots).isSome ∨
      d.players.slots.countP Slots.Slot.live < 8) :
    (defaultCreateActor spec d).1 = true ∧
      (defaultCreateActor spec d).2.seen = Function.update d.seen spec.playerId
        (some (true, (d.takeHandle spec.actorHandle).1)) ∧
      (Slots.Distinct d.players.slots →
        Slots.Distinct (defaultCreateActor spec d).2.players.slots) := by
  obtain ⟨record, recordIs⟩ : ∃ record : Fo4ProxyActorState F, record =
    { Fo4ProxyActorState.zero with
      inUse := true
      visible := true
      playerId := spec.playerId
      proxyNetId := spec.proxyNetId
      proxyBaseFormId := spec.proxyBaseFormId
      actorHandle := (d.takeHandle spec.actorHandle).1
      position := spec.position
      rotation := spec.rotation
      equippedFormId := spec.equippedFormId
      createCount := 1
      lastCommand := .create
      commandSequence := d.totalCommandSequence + 1 } := ⟨_, rfl⟩
  have key : Slots.Slot.key record = spec.playerId := recordIs ▸ rfl
  have live : Slots.Slot.live record = true := recordIs ▸ rfl
  have seen : record.seen = (true, (d.takeHandle spec.actorHandle).1) := recordIs ▸ rfl
  obtain ⟨players, stored⟩ := Option.isSome_iff_exists.mp
    (Slots.Table.store_isSome_iff.mpr (key.symm ▸ room) : (d.players.store record).isSome)
  have slots := Slots.Table.store_slots stored
  rw [recordIs] at stored
  simp only [defaultCreateActor, if_neg somebody, stored]
  refine ⟨trivial, ?_, fun distinct => distinct.store slots live⟩
  rw [ActorDriver.seen, Slots.view_store slots live, key, seen]
  rfl

end Driver

/-! ## The default contract -/

/-- The contract has no config but the default one. -/
def SpawnContract.Default (contract : SpawnContract F) : Prop :=
  ∀ config ∈ contract.config, config = {}

omit [CFloat F] in
theorem fpascBuildCreateSpec_somebody {spec : ProxyPlayerSpawnSpec F} {contract : SpawnContract F}
    (usual : contract.Default) (somebody : spec.playerId ≠ 0) :
    ∃ createSpec contract', fpascBuildCreateSpec spec contract = (some createSpec, contract') ∧
      createSpec.playerId = spec.playerId ∧ contract'.Default := by
  have config : contract.config.getD {} = {} := by
    cases given : contract.config with
    | none => rfl
    | some config => exact usual config given
  have base : (if spec.proxyBaseFormId ≠ 0 then spec.proxyBaseFormId else 0x7777) ≠ 0 := by
    split
    · assumption
    · decide
  simp only [fpascBuildCreateSpec, config, if_neg somebody]
  rw [if_neg (by simp), if_neg (by simpa using base)]
  refine ⟨_, _, rfl, rfl, ?_⟩
  rintro _ ⟨rfl⟩
  rfl

theorem fpascSpawnViaDriver_room {spec : ProxyPlayerSpawnSpec F} {contract : SpawnContract F}
    {d : ActorDriver F} (usual : contract.Default) (somebody : spec.playerId ≠ 0)
    (room : (Slots.lookup spec.playerId d.players.slots).isSome ∨
      d.players.slots.countP Slots.Slot.live < 8) (actorHandle : UInt64) :
    ∃ contract' d', fpascSpawnViaDriver spec actorHandle contract d = (true, contract', d') ∧
      contract'.Default ∧
      d'.seen = Function.update d.seen spec.playerId (some (true, (d.takeHandle actorHandle).1)) ∧
      (Slots.Distinct d.players.slots → Slots.Distinct d'.players.slots) := by
  obtain ⟨createSpec, contract', built, named, usual'⟩ := fpascBuildCreateSpec_somebody usual somebody
  rw [← named] at somebody room ⊢
  obtain ⟨created, seen, distinct⟩ :=
    defaultCreateActor_room { createSpec with actorHandle } somebody room
  simp only [fpascSpawnViaDriver, built]
  generalize defaultCreateActor { createSpec with actorHandle } d = result at created seen distinct
  obtain ⟨_ | _, d'⟩ := result
  · cases created
  · exact ⟨_, _, rfl, usual', seen, distinct⟩

end F4MP.Client

import F4MP.Client.Apply

/-!
# Players that a client shows

What PLAYER_STATE and PLAYER_LEFT do to the records of remote players.
-/

namespace F4MP.Client
open SoftFloat CFloat Protocol Service

variable {F U : Type} [CFloat F]

/-- The record of a player. -/
def playerShown (c : ClientState F U) (p : PlayerId) : Option (ProxyPlayerRecord F) :=
  Slots.lookup p c.remote.players.slots

/-- The backend changes the player proxies as `proxy_runtime.c` does, or leaves them alone. -/
structure RemoteProxyBackend.OverProxies (backend : RemoteProxyBackend F U) : Prop where
  spawn : ∀ spec remote, (backend.spawnPlayer spec remote).2.players = remote.players ∨
    (backend.spawnPlayer spec remote).2.players = (proxySpawnPlayer spec remote.players).2
  update : ∀ spec remote, (backend.updatePlayer spec remote).2.players = remote.players ∨
    (backend.updatePlayer spec remote).2.players = (proxyUpdatePlayer spec remote.players).2
  despawn : ∀ p remote, (backend.despawnPlayer p remote).2.players = remote.players ∨
    (backend.despawnPlayer p remote).2.players = (proxyDespawnPlayer p remote.players).2

theorem defaultBackend_overProxies : (defaultBackend : RemoteProxyBackend F Unit).OverProxies :=
  ⟨fun _ _ => .inr rfl, fun _ _ => .inr rfl, fun _ _ => .inr rfl⟩

/-- What a state spawns a player with. -/
def spawnSpecOf (msg : MsgPlayerState F) : ProxyPlayerSpawnSpec F :=
  ⟨msg.playerId, msg.playerId.toUInt32, 0, msg.position, msg.rotation, msg.equippedFormId⟩

variable {backend : RemoteProxyBackend F U} {c : ClientState F U} {msg : MsgPlayerState F}
  {remote : RemotePlayers F U}

omit [CFloat F] in
theorem lookup_modifyFirst_isSome {players : PlayerProxies F} {j p : PlayerId}
    {f : ProxyPlayerRecord F → ProxyPlayerRecord F}
    (keeps : ∀ record, Slots.holds j record = true → Slots.holds j (f record) = true) :
    (Slots.lookup p (players.modifyFirst (Slots.holds j) f).slots).isSome =
      (Slots.lookup p players.slots).isSome := by
  rw [Slots.Table.slots_modifyFirst, Slots.lookup_update keeps]
  split
  · rename_i same
    rw [same, Option.isSome_map]
  · rfl

theorem rpupApplyPlayerUpdateEx_frame (policy : RemoteProxyUpdatePolicy F)
    (current : ProxyPlayerRecord F) (update : ProxyPlayerUpdateSpec F) : ∃ position rotation,
      (rpupApplyPlayerUpdateEx policy current update).1 = { update with position, rotation } := by
  simp only [rpupApplyPlayerUpdateEx]
  repeat' split
  all_goals exact ⟨_, _, rfl⟩

/-- The end of `rpm_apply_remote_player_state`: the record takes the sequence and the tick. -/
def rpmStamped (msg : MsgPlayerState F) : Bool × RemotePlayers F U → Bool × RemotePlayers F U
  | (false, remote) => (false, remote)
  | (true, remote) => (true, { remote with
      players := remote.players.modifyFirst (Slots.holds msg.playerId) fun s =>
        { s with lastStateSequence := msg.stateSequence, lastObservedTick := msg.observedTick } })

theorem rpmPassUpdate_eq (backend : RemoteProxyBackend F U) (policy : RemoteProxyUpdatePolicy F)
    (msg : MsgPlayerState F) (remote : RemotePlayers F U) : ∃ position rotation noted,
      noted.players = remote.players ∧ rpmPassUpdate backend policy msg remote = rpmStamped msg
        (backend.updatePlayer { updateSpecOf msg with position, rotation } noted) := by
  rw [rpmPassUpdate]
  cases Slots.lookup msg.playerId remote.players.slots with
  | none => exact ⟨_, _, remote, rfl, rfl⟩
  | some current =>
      obtain ⟨position, rotation, frame⟩ :=
        rpupApplyPlayerUpdateEx_frame policy current (updateSpecOf msg)
      obtain ⟨result, moved⟩ : ∃ result, rpupApplyPlayerUpdateEx policy current (updateSpecOf msg) =
          ({ updateSpecOf msg with position, rotation }, result) := ⟨_, Prod.ext frame rfl⟩
      refine ⟨position, rotation,
        { remote with user := backend.notePolicyResult msg.playerId result remote.user }, rfl, ?_⟩
      simp only [moved]
      generalize backend.updatePlayer _ _ = passed
      rcases passed with ⟨_ | _, after⟩ <;> rfl

theorem rpmPassUpdate_isSome (proxies : backend.OverProxies) (policy : RemoteProxyUpdatePolicy F)
    (p : PlayerId) : (Slots.lookup p (rpmPassUpdate backend policy msg remote).2.players.slots).isSome =
      (Slots.lookup p remote.players.slots).isSome := by
  obtain ⟨position, rotation, noted, same, eq⟩ := rpmPassUpdate_eq backend policy msg remote
  obtain ⟨spec, specIs⟩ : ∃ spec, spec = { updateSpecOf msg with position, rotation } := ⟨_, rfl⟩
  rw [← specIs] at eq
  have updated : (Slots.lookup p (backend.updatePlayer spec noted).2.players.slots).isSome =
      (Slots.lookup p remote.players.slots).isSome := by
    rcases proxies.update spec noted with unchanged | updated
    · rw [unchanged, same]
    · rw [updated, proxyUpdatePlayer, same]
      exact lookup_modifyFirst_isSome fun _ held => held
  rw [eq, ← updated]
  rcases backend.updatePlayer spec noted with ⟨_ | _, after⟩
  · rfl
  · exact lookup_modifyFirst_isSome fun _ held => held

/-- A state makes a record of its player exactly if it is about another player for whom the backend
spawns one. -/
theorem applyPlayerState_appears (proxies : backend.OverProxies)
    (absent : playerShown c msg.playerId = none) :
    (playerShown (applyMessage backend .playerState msg c).2 msg.playerId).isSome = true ↔
      msg.playerId ≠ 0 ∧ msg.playerId ≠ c.manager.localPlayerId ∧ (Slots.lookup msg.playerId
        (backend.spawnPlayer (spawnSpecOf msg) c.remote).2.players.slots).isSome = true := by
  rw [← and_assoc, ← not_or]
  simp only [playerShown] at absent ⊢
  simp only [applyMessage, paApplyPlayerState, rpmApplyRemotePlayerState]
  split
  · rename_i own
    simp [own, absent]
  · rename_i other
    rw [and_iff_right other, absent]
    dsimp only
    rw [← spawnSpecOf]
    rcases backend.spawnPlayer (spawnSpecOf msg) c.remote with ⟨_ | _, after⟩
    · rfl
    · dsimp only
      rw [if_neg (by rw [Bool.not_true]; exact Bool.false_ne_true)]
      split
      · rfl
      · have kept := @rpmPassUpdate_isSome F U _ backend msg after proxies c.manager.policy msg.playerId
        exact iff_of_eq (congrArg (· = true) kept)

/-! ## What the default backend shows -/

/-- The record shows the state, but for where the player is. -/
structure ProxyPlayerRecord.Shows (record : ProxyPlayerRecord F) (state : MsgPlayerState F) :
    Prop where
  velocity : record.velocity = state.velocity
  stance : record.stance = state.stance
  animState : record.animState = state.animState
  equippedFormId : record.equippedFormId = state.equippedFormId
  sequence : record.lastStateSequence = state.stateSequence
  tick : record.lastObservedTick = state.observedTick

/-- There is a free record. -/
def PlayerProxies.HasRoom (players : PlayerProxies F) : Prop := players.slots.countP (·.inUse) < 8

section Default
variable {c : ClientState F Unit} {remote : RemotePlayers F Unit} {p : PlayerId}

theorem rpmPassUpdate_shows (policy : RemoteProxyUpdatePolicy F) {record : ProxyPlayerRecord F}
    (found : Slots.lookup msg.playerId remote.players.slots = some record) :
    let passed := rpmPassUpdate defaultBackend policy msg remote
    passed.1 = true ∧
      (∃ after, Slots.lookup msg.playerId passed.2.players.slots = some after ∧ after.Shows msg) ∧
      ∀ p ≠ msg.playerId, Slots.lookup p passed.2.players.slots =
        Slots.lookup p remote.players.slots := by
  obtain ⟨position, rotation, noted, same, eq⟩ := rpmPassUpdate_eq defaultBackend policy msg remote
  have held : noted.players.slots.any (Slots.holds msg.playerId) = true :=
    Slots.lookup_isSome_iff.mpr (by rw [same, found]; rfl)
  intro passed
  rw [show passed = _ from eq]
  simp only [defaultBackend, proxyUpdatePlayer, updateSpecOf, held, rpmStamped,
    Slots.Table.slots_modifyFirst]
  refine ⟨trivial, ?_, fun p other => ?_⟩
  · rw [Slots.lookup_update (by exact fun _ held => held), if_pos rfl,
      Slots.lookup_update (by exact fun _ held => held), if_pos rfl, same, found]
    exact ⟨_, rfl, rfl, rfl, rfl, rfl, rfl, rfl⟩
  · rw [Slots.lookup_update (by exact fun _ held => held), if_neg other,
      Slots.lookup_update (by exact fun _ held => held), if_neg other, same]

theorem proxySpawnPlayer_done {spec : ProxyPlayerSpawnSpec F} {players : PlayerProxies F} :
    (proxySpawnPlayer spec players).1 = true ↔
      (Slots.lookup spec.playerId players.slots).isSome ∨ PlayerProxies.HasRoom players := by
  obtain ⟨record, recordIs⟩ : ∃ record : ProxyPlayerRecord F, record = { ProxyPlayerRecord.zero with
    inUse := true
    playerId := spec.playerId
    proxyNetId := spec.proxyNetId
    proxyBaseFormId := spec.proxyBaseFormId
    position := spec.position
    rotation := spec.rotation
    equippedFormId := spec.equippedFormId } := ⟨_, rfl⟩
  have stores : (players.store record).isSome ↔
      (Slots.lookup (Slots.Slot.key record) players.slots).isSome ∨ PlayerProxies.HasRoom players :=
    Slots.Table.store_isSome_iff
  rw [recordIs] at stores
  refine Iff.trans ?_ stores
  rw [proxySpawnPlayer]
  dsimp only
  split <;> simp [*]

theorem defaultBackend_spawn (msg : MsgPlayerState F) (remote : RemotePlayers F Unit) :
    ∃ spawned after, defaultBackend.spawnPlayer (spawnSpecOf msg) remote = (spawned, after) ∧
      (spawned = true ↔ (Slots.lookup msg.playerId remote.players.slots).isSome ∨
        PlayerProxies.HasRoom remote.players) ∧
      (spawned = false ∧ after.players = remote.players ∨ spawned = true ∧
        ∃ record : ProxyPlayerRecord F, record.lastStateSequence = 0 ∧ record.lastObservedTick = 0 ∧
          ∀ p, Slots.lookup p after.players.slots =
            if p = msg.playerId then some record else Slots.lookup p remote.players.slots) := by
  refine ⟨(proxySpawnPlayer (spawnSpecOf msg) remote.players).1,
    { remote with players := (proxySpawnPlayer (spawnSpecOf msg) remote.players).2 }, rfl,
    proxySpawnPlayer_done, ?_⟩
  simp only [proxySpawnPlayer]
  split
  · rename_i after stored
    exact .inr ⟨rfl, _, rfl, rfl,
      fun p => Slots.lookup_store (Slots.Table.store_slots stored) rfl p⟩
  · exact .inl ⟨rfl, rfl⟩

omit [CFloat F] in
/-- Nothing is stale against a record that is new. -/
theorem staleFor_new {record : ProxyPlayerRecord F} (sequence : record.lastStateSequence = 0)
    (tick : record.lastObservedTick = 0) : staleFor record msg = false := by
  simp [staleFor, sequence, tick]

theorem applyPlayerState_other (other : p ≠ msg.playerId) :
    playerShown (applyMessage defaultBackend .playerState msg c).2 p = playerShown c p := by
  have passed : ∀ (policy : RemoteProxyUpdatePolicy F) (remote : RemotePlayers F Unit)
      (record : ProxyPlayerRecord F),
      Slots.lookup msg.playerId remote.players.slots = some record →
        Slots.lookup p (rpmPassUpdate defaultBackend policy msg remote).2.players.slots =
          Slots.lookup p remote.players.slots :=
    fun policy remote record found => (rpmPassUpdate_shows policy found).2.2 p other
  simp only [playerShown, applyMessage, paApplyPlayerState, rpmApplyRemotePlayerState]
  split
  · rfl
  · cases known : Slots.lookup msg.playerId c.remote.players.slots with
    | some record =>
        simp only [known, Bool.not_true, Bool.false_eq_true, if_false]
        split
        · rfl
        · exact passed _ _ _ known
    | none =>
        obtain ⟨spawned, after, spawnIs, _, effect⟩ := defaultBackend_spawn msg c.remote
        rw [spawnSpecOf] at spawnIs
        simp only [spawnIs]
        rcases effect with ⟨rfl, same⟩ | ⟨rfl, record, sequence, tick, looked⟩
        · rw [Bool.not_false, if_pos rfl]
          exact congrArg (Slots.lookup p ·.slots) same
        · have found : Slots.lookup msg.playerId after.players.slots = some record := by
            rw [looked, if_pos rfl]
          simp only [found, staleFor_new sequence tick, Bool.not_true, Bool.false_eq_true, if_false]
          rw [passed _ _ _ found, looked, if_neg other]

theorem applyPlayerState_stale {record : ProxyPlayerRecord F}
    (shown : playerShown c msg.playerId = some record) (stale : staleFor record msg = true) :
    (applyMessage defaultBackend .playerState msg c).1 = true ∧
      playerShown (applyMessage defaultBackend .playerState msg c).2 msg.playerId = some record := by
  simp only [playerShown] at shown ⊢
  simp only [applyMessage, paApplyPlayerState, rpmApplyRemotePlayerState, shown, stale]
  split
  · exact ⟨rfl, shown⟩
  · exact ⟨rfl, shown⟩

section Remote
variable (nobody : msg.playerId ≠ 0) (foreign : msg.playerId ≠ c.manager.localPlayerId)
include nobody foreign

theorem applyPlayerState_newer {record : ProxyPlayerRecord F}
    (shown : playerShown c msg.playerId = some record) (newer : staleFor record msg = false) :
    (applyMessage defaultBackend .playerState msg c).1 = true ∧
      ∃ after, playerShown (applyMessage defaultBackend .playerState msg c).2 msg.playerId =
        some after ∧ after.Shows msg := by
  have other : ¬ (msg.playerId = 0 ∨ msg.playerId = c.manager.localPlayerId) :=
    not_or.mpr ⟨nobody, foreign⟩
  simp only [playerShown] at shown ⊢
  simp only [applyMessage, paApplyPlayerState, rpmApplyRemotePlayerState, if_neg other, shown, newer]
  obtain ⟨done, ⟨after, found, shows_⟩, _⟩ := rpmPassUpdate_shows c.manager.policy shown
  exact ⟨done, after, found, shows_⟩

theorem applyPlayerState_new (absent : playerShown c msg.playerId = none) :
    let applied := applyMessage defaultBackend .playerState msg c
    PlayerProxies.HasRoom c.remote.players ∧ applied.1 = true ∧
        (∃ after, playerShown applied.2 msg.playerId = some after ∧ after.Shows msg) ∨
      ¬ PlayerProxies.HasRoom c.remote.players ∧ applied.1 = false ∧
        applied.2.remote.players = c.remote.players := by
  have other : ¬ (msg.playerId = 0 ∨ msg.playerId = c.manager.localPlayerId) :=
    not_or.mpr ⟨nobody, foreign⟩
  obtain ⟨spawned, after, spawnIs, room, effect⟩ := defaultBackend_spawn msg c.remote
  simp only [playerShown] at absent ⊢
  rw [absent, Option.isSome_none, Bool.false_eq_true, false_or] at room
  rw [spawnSpecOf] at spawnIs
  simp only [applyMessage, paApplyPlayerState, rpmApplyRemotePlayerState, if_neg other, absent,
    spawnIs]
  rcases effect with ⟨rfl, same⟩ | ⟨rfl, record, sequence, tick, looked⟩
  · refine .inr ⟨fun free => Bool.false_ne_true (room.mpr free), ?_⟩
    exact ⟨rfl, same⟩
  · refine .inl ⟨room.mp rfl, ?_⟩
    have found : Slots.lookup msg.playerId after.players.slots = some record := by
      rw [looked, if_pos rfl]
    simp only [found, staleFor_new sequence tick, Bool.not_true, Bool.false_eq_true, if_false]
    obtain ⟨passed, shown, _⟩ := rpmPassUpdate_shows c.manager.policy found
    exact ⟨passed, shown⟩

end Remote

end Default

/-! ## The client's own id -/

theorem applyMessage_localPlayerId (backend : RemoteProxyBackend F U) (type : MessageType)
    (body : Body F type) (c : ClientState F U) :
    (applyMessage backend type body c).2.manager.localPlayerId = c.manager.localPlayerId := by
  cases type with
  | playerState =>
      simp only [applyMessage, paApplyPlayerState, rpmApplyRemotePlayerState]
      repeat' split
      all_goals rfl
  | actorState =>
      simp only [applyMessage, paApplyActorState]
      repeat' split
      all_goals rfl
  | actorDespawn =>
      simp only [applyMessage, paApplyActorDespawn]
      split <;> rfl
  | _ => rfl

theorem applyPackets_localPlayerId [WireFloat F] (backend : RemoteProxyBackend F U)
    (packets : List (List UInt8)) (c : ClientState F U) :
    (applyPackets backend packets c).manager.localPlayerId = c.manager.localPlayerId :=
  applyPackets_keep (P := fun after => after.manager.localPlayerId = c.manager.localPlayerId)
    (fun type body before same => (applyMessage_localPlayerId backend type body before).trans same)
    packets rfl

end F4MP.Client
